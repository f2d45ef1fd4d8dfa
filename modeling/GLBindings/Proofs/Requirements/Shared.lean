import GLBindings.Proofs.Failure
import GLBindings.Proofs.Requirements.Walk

namespace GLBindings

namespace Requirements

/-- No entry is older than one that stands before it. -/
def Rising (r : Requirements) : Prop :=
  ∀ k, (r.table k).entries.Pairwise fun e f => e.2 ≤ f.2

theorem rising_ofTarget {target : Feature} {profile : Profile} {levels : List Level}
    {r : Requirements} (h : ofTarget target profile levels = .ok r) : r.Rising := by
  obtain ⟨r', hr', _, htable⟩ := ofTarget_of_declared profile (declared_of_ofTarget profile h)
  cases hr'.symm.trans h
  intro k
  rw [htable]
  exact Sweep.pairwise_values_run _ (isLine_line target.api levels).sorted

theorem table_intersect (first : Requirements) (others : List Requirements) (k : Entity.Kind) :
    (first.intersect others).table k =
      (first.table k).filterKeys fun n => others.all fun r => n ∈ r.table k := by
  cases k <;> rfl

theorem entries_intersect (first : Requirements) (others : List Requirements) (k : Entity.Kind) :
    ((first.intersect others).table k).entries =
      (first.table k).entries.filter fun e => others.all fun r => e.1 ∈ r.table k := by
  rw [table_intersect]
  rfl

theorem keys_intersect (first : Requirements) (others : List Requirements) (k : Entity.Kind) :
    ((first.intersect others).table k).keys =
      (first.table k).keys.filter fun n => others.all fun r => n ∈ r.table k := by
  rw [Table.keys, entries_intersect, Table.keys, List.filter_map]
  rfl

theorem mem_intersect {first : Requirements} {others : List Requirements} {k : Entity.Kind}
    {n : String} :
    n ∈ (first.intersect others).table k ↔ n ∈ first.table k ∧ ∀ r ∈ others, n ∈ r.table k := by
  rw [table_intersect, Table.mem_filterKeys]
  simp

theorem keys_intersect_subset {first r : Requirements} {others : List Requirements}
    (h : r ∈ first :: others) (k : Entity.Kind) :
    ((first.intersect others).table k).keys ⊆ (r.table k).keys := by
  intro n hn
  obtain ⟨hfirst, hothers⟩ := mem_intersect.mp hn
  rcases List.mem_cons.mp h with rfl | h
  · exact hfirst
  · exact hothers r h

theorem Rising.intersect {first : Requirements} (h : first.Rising) (others : List Requirements) :
    (first.intersect others).Rising := by
  intro k
  rw [entries_intersect]
  exact (h k).filter _

end Requirements

namespace Resolved

theorem ofTargets_eq_ok_iff {targets : List Feature} {levels : List Level}
    {extensions : List Extension} {profile : Profile} {x : Resolved} :
    ofTargets targets levels extensions profile = .ok x ↔
      ∃ results, List.Forall₂ (fun target result =>
        result.feature = target ∧
          Requirements.ofTarget target profile levels = .ok result.requirements) targets results ∧
        merge results = .ok x := by
  rw [ofTargets, Success.bind_eq_ok_iff]
  refine exists_congr fun results => and_congr_left fun _ => ?_
  rw [Success.mapM_eq_ok_iff]
  have hiff (target : Feature) (result : Resolved) :
      (do let r ← Requirements.ofTarget target profile levels
          return ⟨target, r.extend (extensionRequirements target extensions)⟩ :
        Except ResolveError Resolved) = .ok result ↔
      result.feature = target ∧
        Requirements.ofTarget target profile levels = .ok result.requirements := by
    rw [Success.bind_eq_ok_iff]
    constructor
    · rintro ⟨r, hr, h⟩
      cases h
      exact ⟨rfl, hr⟩
    · rintro ⟨rfl, hr⟩
      exact ⟨_, hr, rfl⟩
  simp only [hiff]

theorem ofTargets_singleton {target : Feature} {levels : List Level} {extensions : List Extension}
    {profile : Profile} {x : Resolved} :
    ofTargets [target] levels extensions profile = .ok x ↔
      x.feature = target ∧ Requirements.ofTarget target profile levels = .ok x.requirements := by
  rw [ofTargets_eq_ok_iff]
  constructor
  · rintro ⟨_, _ | ⟨h, _ | _⟩, hmerge⟩
    cases hmerge
    exact h
  · intro h
    exact ⟨[x], .cons h .nil, rfl⟩

theorem exists_merge (first : Resolved) (others : List Resolved) :
    ∃ y, merge (first :: others) = .ok y := by
  cases others with
  | nil => exact ⟨first, rfl⟩
  | cons _ _ => exact ⟨_, rfl⟩

theorem ofTargets_of_declared {targets : List Feature} {levels : List Level}
    {extensions : List Extension} {profile : Profile} (hne : targets ≠ [])
    (h : ∀ target ∈ targets, ∃ l ∈ levels, l.api = target.api) :
    ∃ x, ofTargets targets levels extensions profile = .ok x := by
  have heach : ∀ target ∈ targets, ∃ result : Resolved, result.feature = target ∧
      Requirements.ofTarget target profile levels = .ok result.requirements := by
    intro target ht
    obtain ⟨r, hr, _⟩ := Requirements.ofTarget_of_declared profile (h target ht)
    exact ⟨⟨target, r⟩, rfl, hr⟩
  obtain ⟨results, hresults⟩ := Success.exists_forall₂_iff.mpr heach
  have hmerge : ∃ x, merge results = .ok x := by
    cases results with
    | nil => exact absurd (List.forall₂_nil_right_iff.mp hresults) hne
    | cons result rest => exact exists_merge result rest
  obtain ⟨x, hx⟩ := hmerge
  exact ⟨x, ofTargets_eq_ok_iff.mpr ⟨results, hresults, hx⟩⟩

theorem ofTargets_of_undeclared {targets : List Feature} {levels : List Level}
    {extensions : List Extension} {profile : Profile} {target : Feature}
    (h : Failure.First (fun f => ¬ ∃ l ∈ levels, l.api = f.api) targets target) :
    ofTargets targets levels extensions profile =
      .error (.unknownFeature target (levels.map Level.feature)) := by
  have hunknown (f : Feature) (hf : ¬ ∃ l ∈ levels, l.api = f.api) :
      Requirements.ofTarget f profile levels = .error (.unknownFeature f (levels.map Level.feature)) := by
    apply Requirements.ofTarget_of_undeclared
    exact fun l hl ha => hf ⟨l, hl, ha⟩
  rw [ofTargets, Failure.mapM_eq_error (h.congr ?_)]
  · rfl
  · rw [hunknown target h.prop]
    rfl
  · intro f _
    refine not_congr ⟨fun hf => ?_, fun ⟨y, hy⟩ => ?_⟩
    · obtain ⟨r, hr, _⟩ := Requirements.ofTarget_of_declared profile hf
      rw [hr]
      exact ⟨_, rfl⟩
    · by_contra hf
      rw [hunknown f hf] at hy
      cases hy

theorem rising_merge {results : List Resolved} {x : Resolved}
    (h : ∀ result ∈ results, result.requirements.Rising) (hx : merge results = .ok x) :
    x.requirements.Rising := by
  rcases results with _ | ⟨result, _ | ⟨other, rest⟩⟩
  · cases hx
  · cases hx
    exact h x List.mem_cons_self
  · cases hx
    exact (h result List.mem_cons_self).intersect _

theorem rising_ofTargets {targets : List Feature} {levels : List Level}
    {extensions : List Extension} {profile : Profile} {x : Resolved}
    (h : ofTargets targets levels extensions profile = .ok x) : x.requirements.Rising := by
  obtain ⟨results, hresults, hmerge⟩ := ofTargets_eq_ok_iff.mp h
  refine rising_merge (fun result hmem => ?_) hmerge
  obtain ⟨target, _, _, hr⟩ := Success.exists_of_mem_right hresults hmem
  exact Requirements.rising_ofTarget hr

end Resolved

end GLBindings
