import GLBindings.Proofs.Binding.Levels
import GLBindings.Proofs.EnumGroup
import GLBindings.Proofs.Signature

namespace GLBindings

open Relation (ReflTransGen)

/-- One thing more in a registry, of no use to targets that require `needed`. -/
inductive Registry.Gains (targets : List Feature) (needed : Requirements) : Registry → Registry → Prop
  | level (before after : List Registry.Node) {l : Level} (h : ∀ f ∈ targets, l.api ≠ f.api) :
      Gains targets needed ⟨before ++ after⟩ ⟨before ++ .level l :: after⟩
  | extensions (before after : List Registry.Node) {list : List Extension} :
      Gains targets needed ⟨before ++ after⟩ ⟨before ++ .extensions list :: after⟩
  | comment (before after : List Registry.Node) {text : String} :
      Gains targets needed ⟨before ++ after⟩ ⟨before ++ .comment text :: after⟩
  | kinds (before after : List Registry.Node) :
      Gains targets needed ⟨before ++ after⟩ ⟨before ++ .kinds :: after⟩
  | groups (before after : List Registry.Node) :
      Gains targets needed ⟨before ++ after⟩ ⟨before ++ .groups :: after⟩
  | enumValue (before after : List Registry.Node) (b : EnumBlock) (front back : List EnumItem)
      {e : EnumEntry} (h : e.name ∉ needed.enums) :
      Gains targets needed ⟨before ++ .enums { b with items := front ++ back } :: after⟩
        ⟨before ++ .enums { b with items := front ++ .value e :: back } :: after⟩
  | command (before after : List Registry.Node) (b : CommandBlock) (front back : List CommandEntry)
      {e : CommandEntry} {n : String} (hfirst : ∀ m ∈ before, m.commands? = none)
      (hn : e.proto.name? = some n) (h : n ∉ needed.commands) :
      Gains targets needed ⟨before ++ .commands { b with commands := front ++ back } :: after⟩
        ⟨before ++ .commands { b with commands := front ++ e :: back } :: after⟩

/-- The registries cannot be told apart by targets that require `needed`. -/
structure Registry.Serves (targets : List Feature) (needed : Requirements) (r r' : Registry) :
    Prop where
  levels : ∀ f ∈ targets, r.levels.filter (·.api = f.api) = r'.levels.filter (·.api = f.api)
  types : r.types? = r'.types?
  enums : EnumGroup.extract needed.enums.keys r.enumBlocks =
    EnumGroup.extract needed.enums.keys r'.enumBlocks
  commands : Signature.extract needed.commands.keys r.commandEntries =
    Signature.extract needed.commands.keys r'.commandEntries

namespace Registry

variable {targets : List Feature} {needed : Requirements} {r r' : Registry}

theorem commandEntries_of_first {before after : List Node} {b : CommandBlock}
    (h : ∀ m ∈ before, m.commands? = none) :
    commandEntries ⟨before ++ .commands b :: after⟩ = b.commands := by
  rw [commandEntries, commands?, List.findSome?_append, List.findSome?_eq_none_iff.mpr h]
  rfl

section OtherKind

variable {before after : List Node} {n : Node}

theorem levels_insert (h : n.level? = none) :
    levels ⟨before ++ n :: after⟩ = levels ⟨before ++ after⟩ := by
  simp [levels, h]

theorem types?_insert (h : n.types? = none) :
    types? ⟨before ++ n :: after⟩ = types? ⟨before ++ after⟩ := by
  simp [types?, h]

theorem enumBlocks_insert (h : n.enums? = none) :
    enumBlocks ⟨before ++ n :: after⟩ = enumBlocks ⟨before ++ after⟩ := by
  simp [enumBlocks, h]

theorem commandEntries_insert (h : n.commands? = none) :
    commandEntries ⟨before ++ n :: after⟩ = commandEntries ⟨before ++ after⟩ := by
  simp [commandEntries, commands?, h]

theorem serves_insert (hl : n.level? = none) (ht : n.types? = none) (he : n.enums? = none)
    (hc : n.commands? = none) : Serves targets needed ⟨before ++ after⟩ ⟨before ++ n :: after⟩ where
  levels _ _ := by rw [levels_insert hl]
  types := by rw [types?_insert ht]
  enums := by rw [enumBlocks_insert he]
  commands := by rw [commandEntries_insert hc]

end OtherKind

/-- A node is seen only by what reads nodes of its kind. -/
theorem Gains.serves (h : Gains targets needed r r') : Serves targets needed r r' := by
  cases h with
  | level _ _ hl =>
      constructor
      case levels =>
        intro f hf
        simp [levels, Node.level?, hl f hf]
      case types => rw [types?_insert rfl]
      case enums => rw [enumBlocks_insert rfl]
      case commands => rw [commandEntries_insert rfl]
  | extensions | comment | kinds | groups => exact serves_insert rfl rfl rfl rfl
  | enumValue _ _ _ _ _ he =>
      constructor
      case levels =>
        intro f _
        rw [levels_insert rfl, levels_insert rfl]
      case types => rw [types?_insert rfl, types?_insert rfl]
      case enums =>
        simp only [enumBlocks, List.filterMap_append, List.filterMap_cons, Node.enums?]
        exact (EnumGroup.extract_insert he _ _).symm
      case commands => rw [commandEntries_insert rfl, commandEntries_insert rfl]
  | command _ _ _ _ _ hfirst hn hc =>
      constructor
      case levels =>
        intro f _
        rw [levels_insert rfl, levels_insert rfl]
      case types => rw [types?_insert rfl, types?_insert rfl]
      case enums => rw [enumBlocks_insert rfl, enumBlocks_insert rfl]
      case commands =>
        rw [commandEntries_of_first hfirst, commandEntries_of_first hfirst]
        exact (Signature.extract_insert hn hc _ _).symm

theorem Serves.exists_level {f : Feature} (h : Serves targets needed r r') (hf : f ∈ targets)
    (hl : ∃ l ∈ r.levels, l.api = f.api) : ∃ l ∈ r'.levels, l.api = f.api := by
  obtain ⟨l, hl, hapi⟩ := hl
  have hmem : l ∈ r'.levels.filter (·.api = f.api) := by
    rw [← h.levels f hf]
    exact List.mem_filter.mpr ⟨hl, by simpa using hapi⟩
  exact ⟨l, (List.mem_filter.mp hmem).1, hapi⟩

theorem Serves.ofTarget {f : Feature} {profile : Profile} {x : Requirements}
    (h : Serves targets needed r r') (hf : f ∈ targets)
    (hx : Requirements.ofTarget f profile r.levels = .ok x) :
    Requirements.ofTarget f profile r'.levels = .ok x := by
  by_cases hl : ∃ l ∈ r.levels, l.api = f.api
  · rw [← hx]
    exact (Requirements.ofTarget_eq_of_line_eq profile hl (h.exists_level hf hl)
      (Requirements.line_congr (h.levels f hf))).symm
  · have hne : ∀ l ∈ r.levels, l.api ≠ f.api := fun l hl' ha => hl ⟨l, hl', ha⟩
    rw [Requirements.ofTarget_of_undeclared profile hne] at hx
    cases hx

theorem Serves.areOf {t : Targets} {d : Definitions} (h : Serves t.features d.requirements r r')
    (hd : Definitions.AreOf r t d) : Definitions.AreOf r' t d := by
  obtain ⟨hresolved, htypes, henums, hcommands⟩ := hd
  refine ⟨?_, h.types ▸ htypes, h.enums ▸ henums, h.commands ▸ hcommands⟩
  obtain ⟨results, hresults, hmerge⟩ := Resolved.ofTargets_eq_ok_iff.mp hresolved
  refine Resolved.ofTargets_eq_ok_iff.mpr ⟨results, ?_, hmerge⟩
  rw [List.forall₂_iff_get] at hresults ⊢
  refine ⟨hresults.1, fun i hi hi' => ?_⟩
  obtain ⟨hfeature, hr⟩ := hresults.2 i hi hi'
  exact ⟨hfeature, h.ofTarget (List.get_mem _ _) hr⟩

end Registry

namespace Binding

variable {o : Options} {b : Binding} {r r' : Registry}

theorem ofRegistry_of_gains (h : ofRegistry r o = .ok b)
    (hr : Registry.Gains o.targets.features b.requirements r r') : ofRegistry r' o = .ok b := by
  obtain ⟨d, hd, hb⟩ := ofRegistry_eq_ok_iff.mp h
  rw [hb.requirements] at hr
  exact ofRegistry_eq_ok_iff.mpr ⟨d, hr.serves.areOf hd, hb⟩

/-- A binding needs nothing but what its requirements name. -/
theorem ofRegistry_unmoved (h : ofRegistry r o = .ok b)
    (hr : ReflTransGen (Registry.Gains o.targets.features b.requirements) r r') :
    ofRegistry r' o = .ok b := by
  induction hr with
  | refl => exact h
  | tail _ hstep ih => exact ofRegistry_of_gains ih hstep

def safetyLevel : GLBindings.Level :=
  ⟨.glsc2, "GL_SC_VERSION_2_0", ⟨2, 0⟩, [⟨none, none, [.command "glGetn"]⟩], []⟩

def computeShader : EnumEntry := ⟨"GL_COMPUTE_SHADER", "0x91B9", some ["ShaderType"], some "gles2"⟩

def getn : CommandEntry :=
  ⟨⟨none, [.text "void ", .name "glGetn"]⟩, [⟨none, [.platformType "GLint"]⟩], none, none⟩

def crowdedShaders : Registry where
  nodes := [
    .level safetyLevel,
    .enums ⟨none, some "ShaderType", none, [.value computeShader,
      .value ⟨"GL_VERTEX_SHADER", "0x8B31", none, none⟩]⟩,
    .commands ⟨none, [
      ⟨⟨none, [.text "void ", .name "glFlush"]⟩, [⟨none, [.platformType "GLint", .name "n"]⟩],
        none, none⟩,
      ⟨⟨none, [.platformType "GLuint", .name "glCreateShader"]⟩,
        [⟨some "ShaderType", [.platformType "GLenum", .name "type"]⟩], none, none⟩,
      ⟨⟨none, [.text "void ", .name "glFlush"]⟩, [], none, none⟩,
      getn]⟩] ++ shaders.nodes.drop 2

theorem gains_crowdedShaders {needed : Requirements} (he : computeShader.name ∉ needed.enums)
    (hc : "glGetn" ∉ needed.commands) :
    ReflTransGen (Registry.Gains sharing.targets.features needed) shaders crowdedShaders := by
  have hfamily : ∀ f ∈ sharing.targets.features, safetyLevel.api ≠ f.api := by decide
  refine .head (.level [] shaders.nodes hfamily) (.head
    (.enumValue [_] _ ⟨none, some "ShaderType", none, []⟩ [] [_] he)
    (.single (.command [_, _] _ ⟨none, []⟩ [_, _, _] [] ?_ rfl hc)))
  simp [Registry.Node.commands?]

theorem ofRegistry_unmoved_shaders :
    ∃ b, ofRegistry shaders sharing = .ok b ∧
      ReflTransGen (Registry.Gains sharing.targets.features b.requirements) shaders crowdedShaders ∧
      ofRegistry crowdedShaders sharing = .ok b := by
  obtain ⟨b, hb, henums, hcommands, _⟩ := exists_shaders
  have hgains : ReflTransGen (Registry.Gains sharing.targets.features b.requirements) shaders
      crowdedShaders := by
    apply gains_crowdedShaders
    · show _ ∉ b.requirements.enums.keys
      rw [henums]
      decide
    · show _ ∉ b.requirements.commands.keys
      rw [hcommands]
      decide
  exact ⟨b, hb, hgains, ofRegistry_unmoved hb hgains⟩

end Binding

end GLBindings
