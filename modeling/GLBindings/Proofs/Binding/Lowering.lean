import GLBindings.Proofs.Binding.Levels
import GLBindings.Proofs.Signature

namespace GLBindings.Binding

structure TypeRef.Lowers (enums : Table String Enum) (d : Declaration) (t : TypeRef) : Prop where
  lowLevel : t.lowLevel = (CType.ofDeclaration d).lowLevel
  frontModifiers : t.frontModifiers = (CType.ofDeclaration d).frontModifiers
  backModifiers : t.backModifiers = (CType.ofDeclaration d).backModifiers
  highLevel : t.highLevel = enums.get? (CType.ofDeclaration d).highLevel
  isSome_highLevel : t.highLevel.isSome ↔ (CType.ofDeclaration d).highLevel ∈ enums

theorem TypeRef.lowers_resolve (enums : Table String Enum) (d : Declaration) :
    TypeRef.Lowers enums d (.resolve enums (.ofDeclaration d)) :=
  ⟨rfl, rfl, rfl, rfl, Table.isSome_get?_iff⟩

namespace Implementation

/-- The implementation takes what the entry declares, and converts it by casts. -/
structure Lowers (enums : Table String Enum) (e : CommandEntry) (i : Implementation) : Prop where
  returnType : TypeRef.Lowers enums e.proto i.returnType
  params : List.Forall₂ (fun d p => d.name? = some p.name ∧ TypeRef.Lowers enums d p.type)
    e.params i.params
  returnConversion : i.returnConversion = .cast "retval" i.returnType
  paramConversions : i.paramConversions = i.params.map fun p => .cast p.name p.type

theorem lowers_casting {e : CommandEntry} {s : Signature} (h : Signature.IsOf e s)
    (enums : Table String Enum) : Lowers enums e (casting enums s) := by
  refine ⟨?_, ?_, rfl, rfl⟩
  · show TypeRef.Lowers enums e.proto (.resolve enums s.returnType)
    rw [h.returnType]
    exact TypeRef.lowers_resolve enums e.proto
  · refine List.forall₂_map_right_iff.mpr (h.params.imp fun d p => ?_)
    rintro ⟨hname, htype⟩
    refine ⟨hname, ?_⟩
    show TypeRef.Lowers enums d (.resolve enums p.type)
    rw [htype]
    exact TypeRef.lowers_resolve enums d

end Implementation

def TypeRef.embedded (t : TypeRef) : List Enum := t.highLevel.toList

def Conversion.embedded : Conversion → List Enum
  | .cast _ t => t.embedded
  | .methodCall .. => []

def Implementation.embedded (i : Implementation) : List Enum :=
  i.returnType.embedded ++ i.params.flatMap (·.type.embedded) ++ i.returnConversion.embedded ++
    i.paramConversions.flatMap Conversion.embedded

def Level.embedded (l : Level) : List Enum := l.commands.flatMap (·.implementation.embedded)

theorem Enum.registryName_of_mem_table {naming : Naming} {groups : List EnumGroup}
    {e : String × Enum} (h : e ∈ (Enum.table naming groups).entries) : e.2.registryName = e.1 := by
  obtain ⟨l₁, l₂, hl, _⟩ := Table.get?_ofList_eq_some_iff.mp (Table.get?_eq_some_iff.mpr h)
  have hmem : e ∈ groups.map fun g => (g.name, ofGroup naming g) := by
    rw [hl]
    simp
  obtain ⟨g, _, rfl⟩ := List.mem_map.mp hmem
  rfl

section Embedded

variable {enums : Table String Enum} (hnames : ∀ e ∈ enums.entries, e.2.registryName = e.1)

include hnames

theorem TypeRef.Lowers.get?_of_mem_embedded {d : Declaration} {t : TypeRef}
    (h : TypeRef.Lowers enums d t) {e : Enum} (he : e ∈ t.embedded) :
    enums.get? e.registryName = some e := by
  have hsome : enums.get? (CType.ofDeclaration d).highLevel = some e :=
    h.highLevel.symm.trans (Option.mem_toList.mp he)
  have hname : e.registryName = (CType.ofDeclaration d).highLevel :=
    hnames _ (Table.get?_eq_some_iff.mp hsome)
  rw [hname]
  exact hsome

theorem Implementation.Lowers.get?_of_mem_embedded {d : CommandEntry} {i : Implementation}
    (h : Implementation.Lowers enums d i) {e : Enum} (he : e ∈ i.embedded) :
    enums.get? e.registryName = some e := by
  have hparam (p : Param) (hp : p ∈ i.params) (hep : e ∈ p.type.embedded) :
      enums.get? e.registryName = some e := by
    obtain ⟨_, _, _, hlowers⟩ := Success.exists_of_mem_right h.params hp
    exact hlowers.get?_of_mem_embedded hnames hep
  rw [Implementation.embedded, h.returnConversion, h.paramConversions, List.flatMap_map] at he
  simp only [List.mem_append, List.mem_flatMap, Conversion.embedded] at he
  rcases he with ((he | ⟨p, hp, hep⟩) | he) | ⟨p, hp, hep⟩
  · exact h.returnType.get?_of_mem_embedded hnames he
  · exact hparam p hp hep
  · exact h.returnType.get?_of_mem_embedded hnames he
  · exact hparam p hp hep

end Embedded

/-- The commands are lowered from the entries, and all of their enums are those of the binding. -/
structure LoweredFrom (entries : List CommandEntry) (b : Binding) : Prop where
  commands : ∀ l ∈ b.levels, ∀ c ∈ l.commands, ∃ e,
    Signature.IsLastNamed entries c.registryName e ∧ c.implementation.Lowers b.enums e
  embedded : ∀ l ∈ b.levels, ∀ e ∈ l.embedded, b.enums.get? e.registryName = some e
  registryName : ∀ e ∈ b.enums.entries, e.2.registryName = e.1

theorem Command.lowers_of_get?_table {naming : Naming} {enums : Table String Enum}
    {required : List String} {entries : List CommandEntry} {signatures : List Signature}
    (h : Signature.extract required entries = .ok signatures) {n : String} {c : Command}
    (hc : (Command.table naming enums signatures).get? n = some c) :
    ∃ e, Signature.IsLastNamed entries c.registryName e ∧ c.implementation.Lowers enums e := by
  obtain ⟨before, s, after, rfl, rfl, hlast, rfl⟩ := Command.get?_table_eq_some_iff.mp hc
  obtain ⟨e, hlastNamed, he⟩ := Signature.isLastNamed_of_extract h hlast
  exact ⟨e, hlastNamed, Implementation.lowers_casting he enums⟩

theorem Level.exists_get?_of_group {api : Api} {r : Requirements} {commands : Table String Command}
    {levels : List Level} (h : Level.group api r commands = .ok levels) {l : Level}
    (hl : l ∈ levels) {c : Command} (hc : c ∈ l.commands) : ∃ n, commands.get? n = some c := by
  obtain ⟨found, hfound, rfl⟩ := group_eq_ok_iff.mp h
  obtain ⟨v, _, rfl⟩ := List.mem_map.mp hl
  obtain ⟨a, ha, rfl⟩ := List.mem_map.mp hc
  obtain ⟨e, _, _, he⟩ := Success.exists_of_mem_right (required_eq_ok_iff.mp hfound)
    (List.mem_filter.mp ha).1
  exact ⟨e.1, he⟩

theorem ofRegistry_lowered {r : Registry} {o : Options} {b : Binding} (h : ofRegistry r o = .ok b) :
    LoweredFrom r.commandEntries b := by
  obtain ⟨d, hd, hb⟩ := ofRegistry_eq_ok_iff.mp h
  have hnames : ∀ e ∈ b.enums.entries, e.2.registryName = e.1 := by
    rw [hb.enums]
    exact fun _ => Enum.registryName_of_mem_table
  have hcommands : ∀ l ∈ b.levels, ∀ c ∈ l.commands, ∃ e,
      Signature.IsLastNamed r.commandEntries c.registryName e ∧
        c.implementation.Lowers b.enums e := by
    intro l hl c hc
    obtain ⟨n, hn⟩ := Level.exists_get?_of_group hb.levels hl hc
    exact Command.lowers_of_get?_table hd.commands hn
  refine ⟨hcommands, ?_, hnames⟩
  intro l hl e he
  obtain ⟨c, hc, hec⟩ := List.mem_flatMap.mp he
  obtain ⟨_, _, hlowers⟩ := hcommands l hl c hc
  exact hlowers.get?_of_mem_embedded hnames hec

theorem ofRegistry_lowered_shaders :
    ∃ b, ofRegistry shaders sharing = .ok b ∧
      (b.levels.flatMap (·.commands)).map (fun c =>
        (c.registryName, c.implementation.params.map fun p =>
          (p.name, p.type.highLevel.map (·.registryName)))) =
        [("glFlush", []), ("glCreateShader", [("type", some "ShaderType")])] ∧
      LoweredFrom shaders.commandEntries b := by
  obtain ⟨b, hb, _, _, _, hcommands⟩ := exists_shaders
  exact ⟨b, hb, hcommands, ofRegistry_lowered hb⟩

end GLBindings.Binding
