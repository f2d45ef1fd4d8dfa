import GLBindings.Proofs.Failure
import GLBindings.Proofs.Requirements.Introduction

namespace GLBindings.Requirements

section Arrangement

variable {api : Api} {levels levels' : List Level}

/-- Both lists have the same levels of the family, however those of other families stand among them. -/
inductive Rearranged (api : Api) (levels levels' : List Level) : Prop
  | kept (h : levels.filter (·.api = api) = levels'.filter (·.api = api))
  | reordered (hperm : (levels.filter (·.api = api)).Perm (levels'.filter (·.api = api)))
      (hdistinct : ((levels.filter (·.api = api)).map Level.version).Nodup)

theorem Rearranged.perm (h : Rearranged api levels levels') :
    (levels.filter (·.api = api)).Perm (levels'.filter (·.api = api)) := by
  cases h with
  | kept h => exact .of_eq h
  | reordered hperm _ => exact hperm

theorem Rearranged.line_eq (h : Rearranged api levels levels') :
    line api levels = line api levels' := by
  cases h with
  | kept h => exact line_congr h
  | reordered hperm hdistinct => exact line_eq_of_perm hperm hdistinct

theorem Rearranged.declared (h : Rearranged api levels levels')
    (hdeclared : ∃ l ∈ levels, l.api = api) : ∃ l ∈ levels', l.api = api := by
  obtain ⟨l, hl, ha⟩ := hdeclared
  have hmem : l ∈ levels'.filter (·.api = api) := h.perm.mem_iff.mp (by simpa using ⟨hl, ha⟩)
  exact ⟨l, by simpa using hmem⟩

end Arrangement

/-- Both lists give the target the same requirements: the keys, their order and their versions. -/
theorem ofTarget_rearranged (target : Feature) (profile : Profile) {levels levels' : List Level}
    (hdeclared : ∃ l ∈ levels, l.api = target.api) (h : Rearranged target.api levels levels') :
    ∃ r, ofTarget target profile levels = .ok r ∧ ofTarget target profile levels' = .ok r := by
  obtain ⟨r, hr, _⟩ := ofTarget_of_declared profile hdeclared
  have hsame := ofTarget_eq_of_line_eq profile hdeclared (h.declared hdeclared) h.line_eq
  exact ⟨r, hr, hsame ▸ hr⟩

/-- The core profile removes a command that the next level requires again. A level of another family
stands between. -/
def comeback : List Level :=
  [⟨.gl, "GL_VERSION_1_0", ⟨1, 0⟩, [⟨none, none, [.command "glBegin", .command "glFlush"]⟩], []⟩,
    ⟨.gles2, "GL_ES_VERSION_2_0", ⟨2, 0⟩, [⟨none, none, [.command "glClear"]⟩],
      [⟨none, none, [.command "glFlush"]⟩]⟩,
    ⟨.gl, "GL_VERSION_3_1", ⟨3, 1⟩, [], [⟨some .core, none, [.command "glBegin"]⟩]⟩,
    ⟨.gl, "GL_VERSION_3_2", ⟨3, 2⟩, [⟨none, none, [.command "glBegin"]⟩], []⟩]

theorem ofTarget_rearranged_comeback :
    ((∃ l ∈ comeback, l.api = .gl) ∧ Rearranged .gl comeback comeback.reverse) ∧
      ∃ r, ofTarget ⟨.gl, ⟨3, 2⟩⟩ .core comeback = .ok r ∧
        ofTarget ⟨.gl, ⟨3, 2⟩⟩ .core comeback.reverse = .ok r := by
  have hdeclared : ∃ l ∈ comeback, l.api = Api.gl := ⟨_, List.mem_cons_self, rfl⟩
  have h : Rearranged .gl comeback comeback.reverse :=
    .reordered ((List.reverse_perm comeback).symm.filter _) (by decide)
  exact ⟨⟨hdeclared, h⟩, ofTarget_rearranged ⟨.gl, ⟨3, 2⟩⟩ .core hdeclared h⟩

/-- In the levels of the family, what `p` requires `q` requires too, and what `q` removes `p` removes
too. -/
structure Relaxes (api : Api) (levels : List Level) (q p : Profile) : Prop where
  requires : ∀ l ∈ levels, l.api = api → ∀ b ∈ l.requires, b.AppliesTo api p → b.AppliesTo api q
  removes : ∀ l ∈ levels, l.api = api → ∀ b ∈ l.removes, b.AppliesTo api q → b.AppliesTo api p

/-- Every key of `t` is one of `u`, since the same version or an older one. -/
def AsEarly (t u : Table String Version) : Prop :=
  ∀ n v, t.get? n = some v → ∃ w, u.get? n = some w ∧ w ≤ v

section Profile

variable {target : Feature} {p q : Profile} {levels : List Level}

theorem Relaxes.adds_subset (h : Relaxes target.api levels q p) (k : Entity.Kind) {l : Level}
    (hl : l ∈ line target.api levels) :
    (sweep target p k).adds l ⊆ (sweep target q k).adds l := by
  intro n hn
  have ha := api_of_mem_line hl
  obtain ⟨hle, b, hb, happlies, hmem⟩ := (mem_adds_iff p k ha).mp hn
  have hq := h.requires l (mem_of_mem_line hl) ha b hb happlies
  exact (mem_adds_iff q k ha).mpr ⟨hle, b, hb, hq, hmem⟩

theorem Relaxes.drops_subset (h : Relaxes target.api levels q p) (k : Entity.Kind) {l : Level}
    (hl : l ∈ line target.api levels) :
    (sweep target q k).drops l ⊆ (sweep target p k).drops l := by
  intro n hn
  have ha := api_of_mem_line hl
  obtain ⟨hle, b, hb, happlies, hmem⟩ := (mem_drops_iff q k ha).mp hn
  have hp := h.removes l (mem_of_mem_line hl) ha b hb happlies
  exact (mem_drops_iff p k ha).mpr ⟨hle, b, hb, hp, hmem⟩

theorem asEarly_run (h : Relaxes target.api levels q p) (k : Entity.Kind) :
    AsEarly ((sweep target p k).run (line target.api levels))
      ((sweep target q k).run (line target.api levels)) := by
  intro n v hv
  have hvalue : (sweep target q k).value = (sweep target p k).value := rfl
  exact Sweep.exists_get?_run_le _ (isLine_line target.api levels).sorted hvalue
    (fun _ hl => h.adds_subset k hl) (fun _ hl => h.drops_subset k hl) hv

end Profile

/-- Under both profiles the target is unknown, or what it requires under the one it requires as early
under the other. -/
theorem ofTarget_relaxed (target : Feature) {p q : Profile} {levels : List Level}
    (h : Relaxes target.api levels q p) :
    Failure.Alike (fun r s : Requirements => ∀ k, AsEarly (r.table k) (s.table k))
      (ofTarget target p levels) (ofTarget target q levels) := by
  by_cases hdeclared : ∃ l ∈ levels, l.api = target.api
  · obtain ⟨r, hr, _, htable⟩ := ofTarget_of_declared p hdeclared
    obtain ⟨s, hs, _, htable'⟩ := ofTarget_of_declared q hdeclared
    rw [hr, hs]
    refine .ok fun k => ?_
    rw [htable, htable']
    exact asEarly_run h k
  · have hne : ∀ l ∈ levels, l.api ≠ target.api := fun l hl ha => hdeclared ⟨l, hl, ha⟩
    rw [ofTarget_of_undeclared p hne, ofTarget_of_undeclared q hne]
    exact .error _

theorem ofTarget_relaxed_comeback :
    Relaxes .gl comeback .compatibility .core ∧
      Failure.Alike (fun r s : Requirements => ∀ k, AsEarly (r.table k) (s.table k))
        (ofTarget ⟨.gl, ⟨3, 2⟩⟩ .core comeback) (ofTarget ⟨.gl, ⟨3, 2⟩⟩ .compatibility comeback) ∧
      ((ofTarget ⟨.gl, ⟨3, 2⟩⟩ .core comeback).toOption.bind (·.commands.get? "glBegin")) =
        some ⟨3, 2⟩ ∧
      ((ofTarget ⟨.gl, ⟨3, 2⟩⟩ .compatibility comeback).toOption.bind (·.commands.get? "glBegin")) =
        some ⟨1, 0⟩ := by
  have h : Relaxes .gl comeback .compatibility .core := ⟨by decide, by decide⟩
  refine ⟨h, ofTarget_relaxed ⟨.gl, ⟨3, 2⟩⟩ h, ?_⟩
  -- The levels stand by version already, so the sort need not be computed.
  have hsorted : byVersion comeback = comeback := List.mergeSort_of_pairwise (by decide)
  rw [ofTarget, ofTarget, hsorted]
  exact ⟨rfl, rfl⟩

end GLBindings.Requirements
