import GLBindings.Proofs.Requirements.Introduction

namespace GLBindings.Requirements

open Positions

variable (older newer : Feature) (profile : Profile) (k : Entity.Kind)

/-- A level between the lines of the two targets removes the entity. -/
def RemovedBetween (levels : List Level) (n : String) : Prop :=
  ∃ l ∈ levels, l.api = older.api ∧ older.version.major < l.version.major ∧
    l.version.major ≤ newer.version.major ∧
    ∃ b ∈ l.removes, b.AppliesTo older.api profile ∧ n ∈ b.names k

/-- How the table `t` of the older target stands to the table `u` of the newer one. -/
structure ContinuedBy (levels : List Level) (t u : Table String Version) : Prop where
  lost : ∀ n v, t.get? n = some v → u.get? n ≠ some v →
    RemovedBetween older newer profile k levels n
  restricted : older.version.major = newer.version.major →
    t.entries = u.entries.filter (·.2 ≤ older.version)
  front : older.version.major = newer.version.major → t.entries.IsPrefix u.entries

variable {older newer}

theorem removes_iff_of_kept {levels : List Level} {n : String} (hapi : older.api = newer.api)
    (hle : older.version ≤ newer.version) (hkept : ¬ RemovedBetween older newer profile k levels n)
    {l : Level} (hl : l ∈ line older.api levels) :
    Removes older profile k n l ↔ Removes newer profile k n l := by
  have hmajor := Version.major_le_major hle
  constructor
  · rintro ⟨hm, hb⟩
    exact ⟨UInt32.le_trans hm hmajor, hapi ▸ hb⟩
  · rintro ⟨hm, hb⟩
    rw [← hapi] at hb
    refine ⟨UInt32.not_lt.mp fun hlt => hkept ?_, hb⟩
    exact ⟨l, mem_of_mem_line hl, api_of_mem_line hl, hlt, hm, hb⟩

/-- What no later line removes is required since the same position. -/
theorem requiredSince_of_kept {levels : List Level} {n : String} {i : Nat}
    (hapi : older.api = newer.api) (hle : older.version ≤ newer.version)
    (hkept : ¬ RemovedBetween older newer profile k levels n)
    (h : RequiredSince older profile k n (line older.api levels) i) :
    RequiredSince newer profile k n (line older.api levels) i := by
  obtain ⟨⟨⟨l, hl, hold, hblock⟩, hgone⟩, hfirst⟩ := h
  have hremoves (j : Nat) : Occurs (Removes newer profile k n) (line older.api levels) j ↔
      Occurs (Removes older profile k n) (line older.api levels) j :=
    occurs_congr (fun _ ha => (removes_iff_of_kept profile k hapi hle hkept ha).symm) j
  refine ⟨⟨⟨l, hl, hold.trans hle, hapi ▸ hblock⟩, fun j hj => hgone j ((hremoves j).mp hj)⟩, ?_⟩
  rintro j ⟨⟨l', hl', hnew, hblock'⟩, hgone'⟩
  rw [← hapi] at hblock'
  by_contra hlt
  -- An earlier position of the line has a version that is as old, so it counts for both targets.
  have hversion : l'.version ≤ l.version :=
    key_le_of_le (isLine_line older.api levels).sorted (not_le.mp hlt).le hl' hl
  have hstays : Stays (Introduces older profile k n) (Removes older profile k n)
      (line older.api levels) j :=
    ⟨⟨_, hl', hversion.trans hold, hblock'⟩, fun m hm => hgone' m ((hremoves m).mpr hm)⟩
  exact hlt (hfirst j hstays)

theorem drops_eq_of_major_eq (hapi : older.api = newer.api)
    (hmajor : older.version.major = newer.version.major) (l : Level) :
    (sweep older profile k).drops l = (sweep newer profile k).drops l := by
  simp only [sweep, removals, hapi, hmajor]

theorem adds_eq_of_version_le (hapi : older.api = newer.api) (hle : older.version ≤ newer.version)
    (l : Level) :
    (sweep older profile k).adds l =
      if l.version ≤ older.version then (sweep newer profile k).adds l else [] := by
  by_cases h : l.version ≤ older.version
  · have hboth : older.Includes l.feature ↔ newer.Includes l.feature := by
      simp [Feature.Includes, Level.feature, hapi, h, h.trans hle]
    simp only [sweep, additions, hboth, hapi, h, if_true]
  · have hnot : ¬ older.Includes l.feature := fun hi => h hi.2
    simp [sweep, additions, hnot, h]

theorem continuedBy_run (hapi : older.api = newer.api) (hle : older.version ≤ newer.version)
    (levels : List Level) :
    ContinuedBy older newer profile k levels
      ((sweep older profile k).run (line older.api levels))
      ((sweep newer profile k).run (line newer.api levels)) := by
  have hsorted := (isLine_line older.api levels).sorted
  have hrestricted (hmajor : older.version.major = newer.version.major) :
      ((sweep older profile k).run (line older.api levels)).entries =
        ((sweep newer profile k).run (line newer.api levels)).entries.filter
          (·.2 ≤ older.version) := by
    rw [← hapi]
    exact Sweep.entries_run_eq_filter _ hsorted rfl
      (fun l _ => drops_eq_of_major_eq profile k hapi hmajor l)
      (fun l _ => adds_eq_of_version_le profile k hapi hle l)
  refine ⟨?_, hrestricted, ?_⟩
  · intro n v hold hnew
    by_contra hkept
    obtain ⟨i, hi, hv⟩ := ((records_run profile k levels).get?_eq_some_iff n v).mp hold
    have hi' := requiredSince_of_kept profile k hapi hle hkept hi
    rw [hapi] at hi' hv
    exact hnew (((records_run profile k levels).get?_eq_some_iff n v).mpr ⟨i, hi', hv⟩)
  · intro hmajor
    rw [hrestricted hmajor]
    rw [hapi] at hsorted
    exact Grouping.isPrefix_filter_le (Sweep.pairwise_values_run _ hsorted) _

/-- Both targets are known, and the newer one's requirements continue those of the older one. -/
theorem ofTarget_continued (levels : List Level) (hdeclared : ∃ l ∈ levels, l.api = older.api)
    (hapi : older.api = newer.api) (hle : older.version ≤ newer.version) :
    ∃ r s, ofTarget older profile levels = .ok r ∧ ofTarget newer profile levels = .ok s ∧
      ∀ k, ContinuedBy older newer profile k levels (r.table k) (s.table k) := by
  obtain ⟨r, hr, _, htable⟩ := ofTarget_of_declared profile hdeclared
  obtain ⟨s, hs, _, htable'⟩ := @ofTarget_of_declared newer profile levels (hapi ▸ hdeclared)
  refine ⟨r, s, hr, hs, fun k => ?_⟩
  rw [htable, htable']
  exact continuedBy_run profile k hapi hle levels

/-- A command that the core profile removes in 3.1, which ends its line for 3.0 as well. -/
def deprecation : List Level :=
  [⟨.gl, "GL_VERSION_1_0", ⟨1, 0⟩,
      [⟨none, none, [.command "glBegin", .enum "GL_POINTS", .command "glFlush"]⟩], []⟩,
    ⟨.gl, "GL_VERSION_3_1", ⟨3, 1⟩, [], [⟨some .core, none, [.command "glBegin"]⟩]⟩]

theorem ofTarget_continued_deprecation :
    ((∃ l ∈ deprecation, l.api = .gl) ∧ (⟨1, 0⟩ : Version) ≤ ⟨3, 0⟩) ∧
      ∃ r s, ofTarget ⟨.gl, ⟨1, 0⟩⟩ .core deprecation = .ok r ∧
        ofTarget ⟨.gl, ⟨3, 0⟩⟩ .core deprecation = .ok s ∧
        ∀ k, ContinuedBy ⟨.gl, ⟨1, 0⟩⟩ ⟨.gl, ⟨3, 0⟩⟩ .core k deprecation (r.table k) (s.table k) := by
  have hdeclared : ∃ l ∈ deprecation, l.api = Api.gl := ⟨_, List.mem_cons_self, rfl⟩
  have hle : (⟨1, 0⟩ : Version) ≤ ⟨3, 0⟩ := by decide
  exact ⟨⟨hdeclared, hle⟩,
    @ofTarget_continued ⟨.gl, ⟨1, 0⟩⟩ ⟨.gl, ⟨3, 0⟩⟩ .core deprecation hdeclared rfl hle⟩

end GLBindings.Requirements
