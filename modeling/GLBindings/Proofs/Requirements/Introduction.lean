import GLBindings.Proofs.Requirements.Walk

namespace GLBindings.Requirements

open Positions

variable (target : Feature) (profile : Profile) (k : Entity.Kind)

/-- The level is not newer than the target, and a block of it that applies requires the entity. -/
def Introduces (n : String) (l : Level) : Prop :=
  l.version ≤ target.version ∧
    ∃ b ∈ l.requires, b.AppliesTo target.api profile ∧ n ∈ b.names k

/-- The level's major version is not above the target's, and a block of it that applies removes the
entity. The level itself may be newer than the target. -/
def Removes (n : String) (l : Level) : Prop :=
  l.version.major ≤ target.version.major ∧
    ∃ b ∈ l.removes, b.AppliesTo target.api profile ∧ n ∈ b.names k

def requiredNames (l : Level) : List String :=
  (l.requires.filter (·.AppliesTo target.api profile)).flatMap (Block.names k)

/-- The entity is required since position `i` of the line: there it is introduced behind its last
removal, for the first time. -/
def RequiredSince (n : String) (line : List Level) (i : Nat) : Prop :=
  StaysSince (Introduces target profile k n) (Removes target profile k n) line i

def RequiredBefore (line : List Level) (m n : String) : Prop :=
  ∃ i j, RequiredSince target profile k m line i ∧ RequiredSince target profile k n line j ∧
    (i < j ∨ i = j ∧ Occurs (fun l =>
      (requiredNames target profile k l).idxOf m < (requiredNames target profile k l).idxOf n) line i)

/-- The table is what the line requires of the target, read off position by position. -/
structure Records (line : List Level) (t : Table String Version) : Prop where
  mem_iff : ∀ n, n ∈ t ↔
    ∃ i, Stays (Introduces target profile k n) (Removes target profile k n) line i
  get?_eq_some_iff : ∀ n v, t.get? n = some v ↔
    ∃ i, RequiredSince target profile k n line i ∧ Occurs (·.version = v) line i
  nodup_keys : t.keys.Nodup
  ordered : t.keys.Pairwise (RequiredBefore target profile k line)

variable {target}

theorem mem_adds_iff {n : String} {l : Level} (h : l.api = target.api) :
    n ∈ (sweep target profile k).adds l ↔ Introduces target profile k n l := by
  have hi : target.Includes l.feature ↔ l.version ≤ target.version := by
    simp [Feature.Includes, Level.feature, h]
  simp only [sweep, additions, Introduces, hi, List.mem_flatMap]
  split <;> simp_all [and_assoc]

theorem mem_drops_iff {n : String} {l : Level} (h : l.api = target.api) :
    n ∈ (sweep target profile k).drops l ↔ Removes target profile k n l := by
  simp only [sweep, removals, Removes, h, true_and, List.mem_flatMap]
  split <;> simp_all [and_assoc]

theorem adds_eq_requiredNames {n : String} {l : Level} (h : n ∈ (sweep target profile k).adds l) :
    (sweep target profile k).adds l = requiredNames target profile k l := by
  have hi : target.Includes l.feature := by
    by_contra hi
    simp [sweep, additions, hi] at h
  simp [sweep, additions, requiredNames, hi]

theorem since_iff {n : String} {levels : List Level} {i : Nat} :
    (sweep target profile k).Since n (line target.api levels) i ↔
      RequiredSince target profile k n (line target.api levels) i :=
  staysSince_congr (fun _ hl => mem_adds_iff profile k (api_of_mem_line hl))
    (fun _ hl => mem_drops_iff profile k (api_of_mem_line hl)) i

theorem requiredBefore_of_precedes {m n : String} {levels : List Level}
    (h : (sweep target profile k).Precedes (line target.api levels) m n) :
    RequiredBefore target profile k (line target.api levels) m n := by
  obtain ⟨i, j, hi, hj, hlt⟩ := h
  refine ⟨i, j, (since_iff profile k).mp hi, (since_iff profile k).mp hj, ?_⟩
  rcases hlt with hlt | ⟨rfl, l, hl, hidx⟩
  · exact .inl hlt
  · obtain ⟨l', hl', hm⟩ := hi.1.1
    cases hl.symm.trans hl'
    rw [adds_eq_requiredNames profile k hm] at hidx
    exact .inr ⟨rfl, l, hl, hidx⟩

theorem records_run (levels : List Level) :
    Records target profile k (line target.api levels)
      ((sweep target profile k).run (line target.api levels)) where
  mem_iff n := by
    rw [Sweep.mem_run]
    exact exists_congr fun i => stays_congr (fun _ hl => mem_adds_iff profile k (api_of_mem_line hl))
      (fun _ hl => mem_drops_iff profile k (api_of_mem_line hl)) i
  get?_eq_some_iff n v := by
    rw [Sweep.get?_run_eq_some_iff]
    exact exists_congr fun i => and_congr_left fun _ => since_iff profile k
  nodup_keys := Table.nodup_keys _
  ordered := (Sweep.pairwise_keys_run _ _).imp (requiredBefore_of_precedes profile k)

/-- A target is unknown if no level has its family, and nothing else goes wrong. Otherwise its
requirements are those that the line of its family records. -/
theorem ofTarget_records (target : Feature) (profile : Profile) (levels : List Level) :
    ∃! line, IsLine target.api levels line ∧
      ((∀ l ∈ levels, l.api ≠ target.api) ∧
          ofTarget target profile levels =
            .error (.unknownFeature target (levels.map Level.feature)) ∨
        (∃ l ∈ levels, l.api = target.api) ∧ ∃ r, ofTarget target profile levels = .ok r ∧
          r.isMerged = false ∧ ∀ k, Records target profile k line (r.table k)) := by
  refine ⟨line target.api levels, ⟨isLine_line target.api levels, ?_⟩, fun _ h => h.1.eq_line⟩
  by_cases h : ∃ l ∈ levels, l.api = target.api
  · obtain ⟨r, hr, hm, ht⟩ := ofTarget_of_declared profile h
    refine .inr ⟨h, r, hr, hm, fun k => ?_⟩
    rw [ht]
    exact records_run profile k levels
  · have hne : ∀ l ∈ levels, l.api ≠ target.api := fun l hl ha => h ⟨l, hl, ha⟩
    exact .inl ⟨hne, ofTarget_of_undeclared profile hne⟩

end GLBindings.Requirements
