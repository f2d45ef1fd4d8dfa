import GLBindings.Proofs.Binding.Levels
import GLBindings.Proofs.Signature
import GLBindings.Proofs.Targets

namespace GLBindings

open Failure (First)
open Signature (Faulty HasFault)

def Registry.Declares (r : Registry) (f : Feature) : Prop := ∃ l ∈ r.levels, l.api = f.api

def Registry.DeclaresCommand (r : Registry) (n : String) : Prop :=
  ∃ e ∈ r.commandEntries, e.proto.name? = some n

namespace Binding

/-- The ways in which a run ends: with a fault, or with a binding for what the targets resolve to. -/
inductive Ends (r : Registry) (t : Targets) : Except BindingFault Resolved → Prop
  | unknownFeature {f : Feature} (hfirst : First (fun f => ¬ r.Declares f) t.features f) :
      Ends r t (.error (.definitions (.resolve (.unknownFeature f (r.levels.map Level.feature)))))
  | faultyCommand {x : Resolved} {e : CommandEntry} {fault : RegistryFault}
      (hdeclared : ∀ f ∈ t.features, r.Declares f)
      (hx : Resolved.ofTargets t.features r.levels r.extensions t.profile = .ok x)
      (hfirst : First (Faulty x.requirements.commands.keys) r.commandEntries e)
      (hfault : HasFault x.requirements.commands.keys e fault) :
      Ends r t (.error (.definitions (.registry fault)))
  | missingCommand {x : Resolved} {n : String}
      (hdeclared : ∀ f ∈ t.features, r.Declares f)
      (hx : Resolved.ofTargets t.features r.levels r.extensions t.profile = .ok x)
      (hfaultless : ∀ e ∈ r.commandEntries, ¬ Faulty x.requirements.commands.keys e)
      (hfirst : First (fun n => ¬ r.DeclaresCommand n) x.requirements.commands.keys n) :
      Ends r t (.error (.missingCommand ⟨n⟩))
  | bound {x : Resolved}
      (hdeclared : ∀ f ∈ t.features, r.Declares f)
      (hx : Resolved.ofTargets t.features r.levels r.extensions t.profile = .ok x)
      (hfaultless : ∀ e ∈ r.commandEntries, ¬ Faulty x.requirements.commands.keys e)
      (hcommands : ∀ n ∈ x.requirements.commands, r.DeclaresCommand n) :
      Ends r t (.ok x)

theorem Level.group_eq_error {api : Api} {r : Requirements} {commands : Table String Command}
    {n : String} (h : First (· ∉ commands) r.commands.keys n) :
    group api r commands = .error ⟨n⟩ := by
  obtain ⟨e, rfl, he⟩ := Failure.first_of_map h
  have hnone (k : String) (hk : k ∉ commands) : commands.get? k = none := by
    rw [← Option.not_isSome_iff_eq_none, Table.isSome_get?_iff]
    exact hk
  rw [group_eq, required, Failure.mapM_eq_error (he.congr ?_)]
  · rfl
  · rw [hnone e.1 he.prop]
    rfl
  · intro a _
    constructor
    · intro ha
      simp [hnone a.1 ha]
    · intro ha hmem
      obtain ⟨c, hc⟩ := Option.isSome_iff_exists.mp (Table.isSome_get?_iff.mpr hmem)
      exact ha ⟨(a.2, c), by rw [hc]; rfl⟩

variable {r : Registry} {o : Options}

def resolved (b : Binding) : Resolved := ⟨b.feature, b.requirements⟩

theorem exists_ofRegistry_iff {x : Resolved} :
    (∃ b, ofRegistry r o = .ok b ∧ b.resolved = x) ↔
      Resolved.ofTargets o.targets.features r.levels r.extensions o.targets.profile = .ok x ∧
        (∃ l, Signature.extract x.requirements.commands.keys r.commandEntries = .ok l) ∧
          ∀ n ∈ x.requirements.commands, ∃ e ∈ r.commandEntries, e.proto.name? = some n := by
  constructor
  · rintro ⟨b, h, rfl⟩
    obtain ⟨d, hd, hb⟩ := ofRegistry_eq_ok_iff.mp h
    have hx : b.resolved = ⟨d.feature, d.requirements⟩ := by
      rw [resolved, hb.feature, hb.requirements]
    rw [hx]
    refine ⟨hd.resolved, ⟨d.commands, hd.commands⟩, fun n hn => ?_⟩
    have hall := Level.exists_group_iff.mp ⟨_, hb.levels⟩
    rw [hb.requirements] at hall
    exact ((Signature.mem_names_extract hd.commands).mp (Command.mem_table_iff.mp (hall n hn))).2
  · rintro ⟨hx, ⟨l, hl⟩, hdeclared⟩
    let d : Definitions := {
      feature := x.feature
      requirements := x.requirements
      types := TypeEntry.statements (r.types?.getD [])
      enums := EnumGroup.extract x.requirements.enums.keys r.enumBlocks
      commands := l }
    have hd : Definitions.AreOf r o.targets d := ⟨hx, rfl, rfl, hl⟩
    let enums := Enum.table o.naming d.enums
    have hfound : ∀ n ∈ x.requirements.commands, n ∈ Command.table o.naming enums l := by
      intro n hn
      exact Command.mem_table_iff.mpr ((Signature.mem_names_extract hl).mpr ⟨hn, hdeclared n hn⟩)
    have hgroup : ∃ levels, Level.group x.feature.api x.requirements
        (Command.table o.naming enums l) = .ok levels := Level.exists_group_iff.mpr hfound
    obtain ⟨levels, hlevels⟩ := hgroup
    refine ⟨⟨x.feature, x.requirements, d.types, enums, levels⟩, ?_, rfl⟩
    exact ofRegistry_eq_ok_iff.mpr ⟨d, hd, ⟨rfl, rfl, rfl, rfl, hlevels⟩⟩

theorem enums_of_ofRegistry {b : Binding} (h : ofRegistry r o = .ok b) :
    b.enums = Enum.table o.naming (EnumGroup.extract b.requirements.enums.keys r.enumBlocks) := by
  obtain ⟨d, hd, hb⟩ := ofRegistry_eq_ok_iff.mp h
  rw [hb.enums, hb.requirements, hd.enums]

def commandNames (b : Binding) : List String := (b.levels.flatMap (·.commands)).map (·.registryName)

theorem commandNames_eq_keys {b : Binding} (h : ofRegistry r o = .ok b) :
    b.commandNames = b.requirements.commands.keys := by
  obtain ⟨d, hd, hb⟩ := ofRegistry_eq_ok_iff.mp h
  have hrising : b.requirements.Rising := by
    rw [hb.requirements]
    exact Resolved.rising_ofTargets hd.resolved
  exact (Level.cut_of_group hb.levels (fun _ _ => Command.registryName_of_get?_table) hrising).names_eq

theorem ofRegistry_of_unresolved {e : ResolveError}
    (h : Resolved.ofTargets o.targets.features r.levels r.extensions o.targets.profile = .error e) :
    ofRegistry r o = .error (.definitions (.resolve e)) := by
  rw [ofRegistry, Definitions.ofRegistry_eq, h]
  rfl

theorem ofRegistry_of_faulty {x : Resolved} {fault : RegistryFault}
    (hx : Resolved.ofTargets o.targets.features r.levels r.extensions o.targets.profile = .ok x)
    (hl : Signature.extract x.requirements.commands.keys r.commandEntries = .error fault) :
    ofRegistry r o = .error (.definitions (.registry fault)) := by
  have hd : Definitions.ofRegistry r o.targets = .error (.registry fault) := by
    simp [Definitions.ofRegistry_eq, hx, hl, Except.mapError, bind, Except.bind]
  rw [ofRegistry, hd]
  rfl

theorem ofRegistry_of_missing {x : Resolved} {l : List Signature} {n : String}
    (hx : Resolved.ofTargets o.targets.features r.levels r.extensions o.targets.profile = .ok x)
    (hl : Signature.extract x.requirements.commands.keys r.commandEntries = .ok l)
    (hfirst : First (fun n => ¬ r.DeclaresCommand n) x.requirements.commands.keys n) :
    ofRegistry r o = .error (.missingCommand ⟨n⟩) := by
  have htable (enums : Table String Enum) :
      First (· ∉ Command.table o.naming enums l) x.requirements.commands.keys n := by
    refine hfirst.congr fun m hm => not_congr ?_
    rw [Command.mem_table_iff, Signature.mem_names_extract hl]
    exact ⟨fun h => ⟨hm, h⟩, And.right⟩
  have hd : Definitions.ofRegistry r o.targets = .ok ⟨x.feature, x.requirements,
      TypeEntry.statements (r.types?.getD []),
      EnumGroup.extract x.requirements.enums.keys r.enumBlocks, l⟩ :=
    Definitions.ofRegistry_eq_ok_iff.mpr ⟨hx, rfl, rfl, hl⟩
  rw [ofRegistry, hd]
  show Except.mapError _ (ofDefinitions _ _) = _
  rw [ofDefinitions, Level.group_eq_error (htable _)]
  rfl

theorem ofRegistry_of_ends {y : Except BindingFault Resolved} (h : Ends r o.targets y) :
    (ofRegistry r o).map resolved = y := by
  cases h with
  | unknownFeature hfirst =>
      rw [ofRegistry_of_unresolved (Resolved.ofTargets_of_undeclared hfirst)]
      rfl
  | faultyCommand _ hx hfirst hfault =>
      rw [ofRegistry_of_faulty hx (Signature.extract_eq_error hfirst hfault)]
      rfl
  | missingCommand _ hx hfaultless hfirst =>
      obtain ⟨l, hl⟩ := Signature.exists_extract_of_faultless hfaultless
      rw [ofRegistry_of_missing hx hl hfirst]
      rfl
  | bound _ hx hfaultless hcommands =>
      have hl := Signature.exists_extract_of_faultless hfaultless
      exact Success.map_eq_ok_iff.mpr (exists_ofRegistry_iff.mpr ⟨hx, hl, hcommands⟩)

theorem exists_ends (r : Registry) {t : Targets} (h : t.check = .ok ()) : ∃ y, Ends r t y := by
  -- The first condition that fails, in the order of the endings, says how the run ends.
  by_cases hdeclared : ∀ f ∈ t.features, r.Declares f
  · obtain ⟨x, hx⟩ := @Resolved.ofTargets_of_declared t.features r.levels r.extensions t.profile
      (Targets.features_ne_nil h) hdeclared
    by_cases hfaultless : ∀ e ∈ r.commandEntries, ¬ Faulty x.requirements.commands.keys e
    · by_cases hcommands : ∀ n ∈ x.requirements.commands.keys, r.DeclaresCommand n
      · exact ⟨_, .bound hdeclared hx hfaultless hcommands⟩
      · push Not at hcommands
        obtain ⟨n, hn⟩ := Failure.exists_first hcommands
        exact ⟨_, .missingCommand hdeclared hx hfaultless hn⟩
    · push Not at hfaultless
      obtain ⟨e, he⟩ := Failure.exists_first hfaultless
      obtain ⟨fault, hfault⟩ := he.prop
      exact ⟨_, .faultyCommand hdeclared hx he hfault⟩
  · push Not at hdeclared
    obtain ⟨f, hf⟩ := Failure.exists_first hdeclared
    exact ⟨_, .unknownFeature hf⟩

/-- A run for targets that pass the check ends in exactly one way. -/
theorem ofRegistry_ends (h : o.targets.check = .ok ()) (y : Except BindingFault Resolved) :
    (ofRegistry r o).map resolved = y ↔ Ends r o.targets y := by
  constructor
  · rintro rfl
    obtain ⟨y, hy⟩ := exists_ends r h
    rw [ofRegistry_of_ends hy]
    exact hy
  · exact ofRegistry_of_ends

/-- A block in front of the others, where the parameter of `glFlush` has no name. -/
def shadersWithoutNames : Registry where
  nodes := .commands ⟨none, [⟨⟨none, [.text "void ", .name "glFlush"]⟩,
    [⟨none, [.platformType "GLint"]⟩], none, none⟩]⟩ :: shaders.nodes

theorem ofRegistry_ends_shadersWithoutNames :
    sharing.targets.check = .ok () ∧
      Ends shadersWithoutNames sharing.targets
        (.error (.definitions (.registry (.missingElement "param" "name")))) := by
  have hcheck : sharing.targets.check = .ok () := by decide
  have hrun : (ofRegistry shadersWithoutNames sharing).map resolved =
      .error (.definitions (.registry (.missingElement "param" "name"))) := by
    simp only [ofRegistry, Definitions.ofRegistry, Resolved.ofTargets, Requirements.ofTarget,
      Requirements.byVersion, ofDefinitions, Level.group, Grouping.mergeSort_eq_insertionSort]
    decide +kernel
  exact ⟨hcheck, (ofRegistry_ends hcheck _).mp hrun⟩

end Binding

end GLBindings
