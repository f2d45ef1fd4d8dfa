import GLBindings.Proofs.Binding.Enums
import GLBindings.Proofs.Binding.Ending
import GLBindings.Proofs.Targets

namespace GLBindings

def Options.single (o : Options) (f : Feature) : Options :=
  { o with targets := { o.targets with apis := [f.api], versions := [f.version] } }

namespace Binding

/-- The binding holds what the bindings `first :: rest` share, as the first of them has it. -/
structure SharedBy (first : Binding) (rest : List Binding) (b : Binding) : Prop where
  feature : b.feature = .merged
  isMerged : b.requirements.isMerged = true
  requirements : ∀ k, (b.requirements.table k).entries =
    (first.requirements.table k).entries.filter fun e => ∀ s ∈ rest, e.1 ∈ s.requirements.table k
  commands : b.commandNames = first.commandNames.filter fun n => ∀ s ∈ rest, n ∈ s.commandNames
  enums : ∀ g e, b.enums.get? g = some e → ∀ s ∈ first :: rest, ∃ e', s.enums.get? g = some e' ∧
    e'.name = e.name ∧ e'.isBitmask = e.isBitmask ∧ e.values.Sublist e'.values

variable {r : Registry} {o : Options}

theorem ofTarget_of_single {f : Feature} {s : Binding} (h : ofRegistry r (o.single f) = .ok s) :
    s.feature = f ∧
      Requirements.ofTarget f o.targets.profile r.levels = .ok s.requirements := by
  have hx := (exists_ofRegistry_iff.mp ⟨s, h, rfl⟩).1
  exact Resolved.ofTargets_singleton.mp hx

/-- Together the targets resolve to the intersection of what they resolve to by themselves. -/
theorem ofTargets_of_singles {first second : Binding} {rest : List Binding}
    (h : List.Forall₂ (fun f s => ofRegistry r (o.single f) = .ok s) o.targets.features
      (first :: second :: rest)) :
    Resolved.ofTargets o.targets.features r.levels r.extensions o.targets.profile =
      .ok ⟨.merged, first.requirements.intersect ((second :: rest).map (·.requirements))⟩ := by
  rw [Resolved.ofTargets_eq_ok_iff]
  refine ⟨(first :: second :: rest).map resolved, ?_, ?_⟩
  · exact List.forall₂_map_right_iff.mpr (h.imp fun _ _ => ofTarget_of_single)
  · simp [Resolved.merge, resolved, Function.comp_def]

/-- The first target already needs all that the joint run needs of the declarations, so the joint run
does not fail. -/
theorem exists_ofRegistry_of_singles {first second : Binding} {rest : List Binding}
    (h : List.Forall₂ (fun f s => ofRegistry r (o.single f) = .ok s) o.targets.features
      (first :: second :: rest)) :
    ∃ b, ofRegistry r o = .ok b ∧
      resolved b = ⟨.merged, first.requirements.intersect ((second :: rest).map (·.requirements))⟩ := by
  obtain ⟨f, _, hf⟩ := Success.exists_of_mem_right h List.mem_cons_self
  obtain ⟨_, ⟨l, hl⟩, hdeclared⟩ := exists_ofRegistry_iff.mp ⟨first, hf, rfl⟩
  have hkeys : ((first.requirements.intersect ((second :: rest).map (·.requirements))).table
      .command).keys ⊆ (first.requirements.table .command).keys :=
    Requirements.keys_intersect_subset List.mem_cons_self .command
  exact exists_ofRegistry_iff.mpr ⟨ofTargets_of_singles h,
    Signature.exists_extract_of_subset hl hkeys, fun n hn => hdeclared n (hkeys hn)⟩

theorem commandNames_of_intersect {b first : Binding} {rest : List Binding}
    (hb : b.requirements = first.requirements.intersect (rest.map (·.requirements)))
    (hnames : ∀ s ∈ b :: first :: rest, s.commandNames = s.requirements.commands.keys) :
    b.commandNames = first.commandNames.filter fun n => ∀ s ∈ rest, n ∈ s.commandNames := by
  have hcommon := Requirements.keys_intersect first.requirements (rest.map (·.requirements)) .command
  rw [hnames b (by simp), hb, hnames first (by simp)]
  refine hcommon.trans (List.filter_congr fun n _ => ?_)
  rw [Bool.eq_iff_iff, List.all_map, List.all_eq_true, decide_eq_true_eq]
  refine forall₂_congr fun s hs => ?_
  rw [hnames s (by simp [hs])]
  exact decide_eq_true_iff

/-- If every target has a binding by itself, there is a binding for all of them, and it holds what
those share. -/
theorem ofRegistry_shared {runs : List Binding} (hcheck : o.targets.check = .ok ())
    (hmany : 1 < o.targets.apis.length)
    (hruns : List.Forall₂ (fun f s => ofRegistry r (o.single f) = .ok s) o.targets.features runs) :
    ∃ first rest b, runs = first :: rest ∧ ofRegistry r o = .ok b ∧ SharedBy first rest b := by
  obtain ⟨first, second, others, rfl⟩ : ∃ first second others, runs = first :: second :: others := by
    have hlength := hruns.length_eq
    rw [Targets.length_features hcheck] at hlength
    rcases runs with _ | ⟨first, _ | ⟨second, others⟩⟩
    · simp_all
    · simp_all
    · exact ⟨first, second, others, rfl⟩
  have hsingle (s : Binding) (hs : s ∈ first :: second :: others) :
      ∃ f, ofRegistry r (o.single f) = .ok s := by
    obtain ⟨f, _, hf⟩ := Success.exists_of_mem_right hruns hs
    exact ⟨f, hf⟩
  obtain ⟨b, hb, hbx⟩ := exists_ofRegistry_of_singles hruns
  have hrequirements : b.requirements =
      first.requirements.intersect ((second :: others).map (·.requirements)) :=
    congrArg Resolved.requirements hbx
  refine ⟨first, second :: others, b, rfl, hb, ?_⟩
  constructor
  case feature => exact congrArg Resolved.feature hbx
  case isMerged =>
    rw [hrequirements]
    rfl
  case requirements =>
    intro k
    rw [hrequirements, Requirements.entries_intersect]
    refine List.filter_congr fun e _ => ?_
    rw [Bool.eq_iff_iff]
    simp
  case commands =>
    refine commandNames_of_intersect hrequirements fun s hs => ?_
    obtain rfl | hs := List.mem_cons.mp hs
    · exact commandNames_eq_keys hb
    · obtain ⟨f, hf⟩ := hsingle s hs
      exact commandNames_eq_keys hf
  case enums =>
    intro g e he s hs
    obtain ⟨f, hf⟩ := hsingle s hs
    rw [enums_of_ofRegistry hb, hrequirements] at he
    rw [enums_of_ofRegistry hf]
    exact Enum.exists_get?_of_subset
      (Requirements.keys_intersect_subset (List.mem_map_of_mem hs) .enum) he

theorem ofRegistry_shared_shaders :
    (sharing.targets.check = .ok () ∧ 1 < sharing.targets.apis.length) ∧
      ∃ runs, List.Forall₂ (fun f s => ofRegistry shaders (sharing.single f) = .ok s)
        sharing.targets.features runs ∧
        ∃ first rest b, runs = first :: rest ∧ ofRegistry shaders sharing = .ok b ∧
          SharedBy first rest b := by
  have hcheck : sharing.targets.check = .ok () := by decide
  have hmany : 1 < sharing.targets.apis.length := by decide
  have hsingle (f : Feature) (hf : f ∈ sharing.targets.features) :
      ∃ s, ofRegistry shaders (sharing.single f) = .ok s := by
    have hall : sharing.targets.features.all
        (fun f => (ofRegistry shaders (sharing.single f)).isOk) = true := by
      simp only [ofRegistry, Definitions.ofRegistry, Resolved.ofTargets, Requirements.ofTarget,
        Requirements.byVersion, ofDefinitions, Level.group, Grouping.mergeSort_eq_insertionSort]
      decide +kernel
    have hok := List.all_eq_true.mp hall f hf
    cases hs : ofRegistry shaders (sharing.single f) with
    | ok s => exact ⟨s, rfl⟩
    | error e => simp [hs, Except.isOk, Except.toBool] at hok
  obtain ⟨runs, hruns⟩ := Success.exists_forall₂_iff.mpr hsingle
  exact ⟨⟨hcheck, hmany⟩, runs, hruns, ofRegistry_shared hcheck hmany hruns⟩

end Binding

end GLBindings
