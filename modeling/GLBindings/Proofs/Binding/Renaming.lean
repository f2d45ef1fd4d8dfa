import GLBindings.Proofs.Binding.Levels

namespace GLBindings

/-- Keeps every name of the registry. -/
def Naming.plain (enumNamespace commandNamespace : String) : Naming where
  enumCase := .initial
  functionCase := .initial
  enumValueCase := .initial
  omitPrefix := false
  enumNamespace := enumNamespace
  commandNamespace := commandNamespace

namespace Binding

variable (naming : Naming)

def Enum.rename (e : Enum) : Enum :=
  { e with
    name := Symbol.transform naming.enumCase naming.omitPrefix e.registryName
    scope := naming.enumNamespace
    values := e.values.map fun v =>
      { v with name := Symbol.transform naming.enumValueCase naming.omitPrefix v.name } }

def TypeRef.rename (t : TypeRef) : TypeRef :=
  { t with highLevel := t.highLevel.map (Enum.rename naming) }

def Param.rename (p : Param) : Param := { p with type := p.type.rename naming }

def Conversion.rename : Conversion → Conversion
  | .cast param target => .cast param (target.rename naming)
  | .methodCall param method args => .methodCall param method args

def Implementation.rename (i : Implementation) : Implementation where
  returnType := i.returnType.rename naming
  params := i.params.map (Param.rename naming)
  returnConversion := i.returnConversion.rename naming
  paramConversions := i.paramConversions.map (Conversion.rename naming)

def Command.rename (c : Command) : Command :=
  { c with
    name := Symbol.transform naming.functionCase naming.omitPrefix c.registryName
    scope := naming.commandNamespace
    implementation := c.implementation.rename naming }

def Level.rename (l : Level) : Level := { l with commands := l.commands.map (Command.rename naming) }

/-- Renames all enums and commands of a binding, in every place where they stand. -/
def rename (b : Binding) : Binding :=
  { b with
    enums := b.enums.mapValues (Enum.rename naming)
    levels := b.levels.map (Level.rename naming) }

theorem transform_initial (s : String) : Symbol.transform .initial false s = s := by
  simp [Symbol.transform, Symbol.recase]

section Plain

variable (enumNamespace commandNamespace : String)

theorem Enum.rename_ofGroup (g : EnumGroup) :
    (Enum.ofGroup (.plain enumNamespace commandNamespace) g).rename naming = Enum.ofGroup naming g := by
  have hname (s : String) : (Naming.plain enumNamespace commandNamespace).enumValueName s = s :=
    transform_initial s
  simp only [ofGroup, rename, hname, List.map_map]
  rfl

theorem Enum.mapValues_rename_table (groups : List EnumGroup) :
    (Enum.table (.plain enumNamespace commandNamespace) groups).mapValues (Enum.rename naming) =
      Enum.table naming groups := by
  rw [Enum.table, Table.mapValues_ofList, List.map_map, Enum.table]
  simp only [Function.comp_def, Enum.rename_ofGroup]

variable (enums : Table String Enum)

theorem TypeRef.rename_resolve (t : CType) :
    (TypeRef.resolve enums t).rename naming =
      TypeRef.resolve (enums.mapValues (Enum.rename naming)) t := by
  rw [TypeRef.resolve, TypeRef.resolve, Table.get?_mapValues]
  rfl

theorem Implementation.rename_casting (s : Signature) :
    (Implementation.casting enums s).rename naming =
      Implementation.casting (enums.mapValues (Enum.rename naming)) s := by
  simp only [casting, rename, ← TypeRef.rename_resolve, List.map_map]
  rfl

theorem Command.rename_ofSignature (s : Signature) :
    (Command.ofSignature (.plain enumNamespace commandNamespace) enums s).rename naming =
      Command.ofSignature naming (enums.mapValues (Enum.rename naming)) s := by
  rw [Command.ofSignature, Command.ofSignature, ← Implementation.rename_casting]
  rfl

theorem Command.mapValues_rename_table (signatures : List Signature) :
    (Command.table (.plain enumNamespace commandNamespace) enums signatures).mapValues
        (Command.rename naming) =
      Command.table naming (enums.mapValues (Enum.rename naming)) signatures := by
  rw [Command.table, Table.mapValues_ofList, List.map_map, Command.table]
  simp only [Function.comp_def, Command.rename_ofSignature]

end Plain

namespace Level

variable (commands : Table String Command)

theorem required_mapValues (f : Command → Command) (r : Requirements) :
    required (commands.mapValues f) r = (required commands r).map (List.map fun a => (a.1, f a.2)) := by
  rw [required, required, ← Success.mapM_map]
  congr
  funext e
  rw [Table.get?_mapValues]
  cases commands.get? e.1 <;> rfl

theorem versions_map (f : Command → Command) (l : List (Version × Command)) :
    versions (l.map fun a => (a.1, f a.2)) = versions l := by
  rw [versions, List.map_map, versions]
  rfl

theorem ofVersion_map (api : Api) (l : List (Version × Command)) (v : Version) :
    ofVersion api (l.map fun a => (a.1, a.2.rename naming)) v = (ofVersion api l v).rename naming := by
  simp only [ofVersion, rename, List.filter_map, List.map_map]
  rfl

theorem group_mapValues (api : Api) (r : Requirements) :
    group api r (commands.mapValues (Command.rename naming)) =
      (group api r commands).map (List.map (Level.rename naming)) := by
  rw [group_eq, required_mapValues, group_eq]
  cases required commands r with
  | error e => rfl
  | ok l =>
      simp only [Except.map, versions_map, List.map_map]
      congr
      funext v
      exact ofVersion_map naming api l v

end Level

theorem ofDefinitions_eq_map (enumNamespace commandNamespace : String) (d : Definitions) :
    ofDefinitions naming d =
      (ofDefinitions (.plain enumNamespace commandNamespace) d).map (rename naming) := by
  simp only [ofDefinitions]
  rw [← Enum.mapValues_rename_table naming enumNamespace commandNamespace,
    ← Command.mapValues_rename_table naming enumNamespace commandNamespace, Level.group_mapValues]
  cases Level.group d.feature.api d.requirements _ <;> rfl

theorem ofRegistry_eq_map (r : Registry) (o : Options) (enumNamespace commandNamespace : String) :
    ofRegistry r { o with naming := naming } =
      (ofRegistry r { o with naming := .plain enumNamespace commandNamespace }).map
        (rename naming) := by
  simp only [ofRegistry]
  cases Definitions.ofRegistry r o.targets with
  | error e => rfl
  | ok d =>
      show Except.mapError _ _ = (Except.mapError _ _).map _
      rw [ofDefinitions_eq_map naming enumNamespace commandNamespace]
      cases ofDefinitions (.plain enumNamespace commandNamespace) d <;> rfl

/-- Under all namings a registry fails in the same way, or its bindings are one binding renamed. -/
theorem ofRegistry_renamed (r : Registry) (o : Options) (enumNamespace commandNamespace : String) :
    (∃ e, ∀ naming, ofRegistry r { o with naming := naming } = .error e) ∨
      ∃ b, ofRegistry r { o with naming := .plain enumNamespace commandNamespace } = .ok b ∧
        ∀ naming, ofRegistry r { o with naming := naming } = .ok (b.rename naming) := by
  cases h : ofRegistry r { o with naming := .plain enumNamespace commandNamespace } with
  | error e =>
      refine .inl ⟨e, fun naming => ?_⟩
      rw [ofRegistry_eq_map naming r o enumNamespace commandNamespace, h]
      rfl
  | ok b =>
      refine .inr ⟨b, rfl, fun naming => ?_⟩
      rw [ofRegistry_eq_map naming r o enumNamespace commandNamespace, h]
      rfl

end Binding

end GLBindings
