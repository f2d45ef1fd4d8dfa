import GLBindings.Text.Letter
import Mathlib.Data.List.Basic

namespace GLBindings.Text

namespace Run

def Alternates (r : Run) : Prop := r.step = 2 ∨ r.first = r.last

instance (r : Run) : Decidable r.Alternates := inferInstanceAs (Decidable (_ ∨ _))

def Apart (r s : Run) : Prop :=
  r.last < s.first ∨ s.last < r.first ∨ r.Alternates ∧ s.Alternates ∧ r.first % 2 ≠ s.first % 2

instance (r s : Run) : Decidable (r.Apart s) := inferInstanceAs (Decidable (_ ∨ _ ∨ _))

theorem contains_iff {r : Run} {n : Nat} :
    r.contains n ↔ r.first ≤ n ∧ n ≤ r.last ∧ (n - r.first) % r.step = 0 := by
  simp [contains, and_assoc]

theorem Alternates.mod_two {r : Run} (h : r.Alternates) {n : Nat} (hn : r.contains n) :
    n % 2 = r.first % 2 := by
  obtain ⟨hfirst, hlast, hstep⟩ := contains_iff.mp hn
  rcases h with h | h
  · rw [h] at hstep
    omega
  · have he : n = r.first := by omega
    rw [he]

theorem Apart.not_contains {r s : Run} (h : r.Apart s) {n : Nat} (hr : r.contains n) :
    ¬ s.contains n := by
  intro hs
  have hr' := contains_iff.mp hr
  have hs' := contains_iff.mp hs
  rcases h with h | h | ⟨hra, hsa, hne⟩
  · omega
  · omega
  · exact hne ((hra.mod_two hr).symm.trans (hsa.mod_two hs))

def Before (r s : Run) : Prop := r.last < s.first ∧ s.first ≤ s.last

instance (r s : Run) : Decidable (r.Before s) := inferInstanceAs (Decidable (_ ∧ _))

instance : IsTrans Run Before := ⟨fun _ _ _ hrs hst => ⟨by
  obtain ⟨_, _⟩ := hrs
  obtain ⟨_, _⟩ := hst
  omega, hst.2⟩⟩

/-- Walks along two ascending lists at once, past the run that ends first. -/
def walkApart : Nat → List Run → List Run → Bool
  | n + 1, r :: rs, s :: ss =>
    decide (r.Apart s) &&
      if r.last ≤ s.last then walkApart n rs (s :: ss) else walkApart n (r :: rs) ss
  | 0, _ :: _, _ :: _ => false
  | _, _, _ => true

theorem apart_of_walkApart {n : Nat} {rs ss : List Run} (h : walkApart n rs ss)
    (hrs : rs.Pairwise Before) (hss : ss.Pairwise Before) : ∀ r ∈ rs, ∀ s ∈ ss, r.Apart s := by
  induction n generalizing rs ss with
  | zero => cases rs <;> cases ss <;> simp_all [walkApart]
  | succ n ih =>
      rcases rs with _ | ⟨r, rs⟩
      · simp
      rcases ss with _ | ⟨s, ss⟩
      · simp
      obtain ⟨hr, hrs'⟩ := List.pairwise_cons.mp hrs
      obtain ⟨hs, hss'⟩ := List.pairwise_cons.mp hss
      rw [walkApart, Bool.and_eq_true, decide_eq_true_eq] at h
      obtain ⟨hhead, h⟩ := h
      split at h
      next hle =>
        refine List.forall_mem_cons.mpr ⟨List.forall_mem_cons.mpr ⟨hhead, fun t ht => ?_⟩,
          ih h hrs' hss⟩
        exact .inl (Nat.lt_of_le_of_lt hle (hs t ht).1)
      next hlt =>
        intro t ht
        refine List.forall_mem_cons.mpr ⟨?_, ih h hrs hss' t ht⟩
        rcases List.mem_cons.mp ht with rfl | ht
        · exact hhead
        · exact .inr (.inl (Nat.lt_trans (Nat.not_le.mp hlt) (hr t ht).1))

end Run

theorem pairwise_uppercaseRuns : uppercaseRuns.Pairwise Run.Before :=
  List.isChain_iff_pairwise.mp (by decide +kernel)

theorem pairwise_lowercaseRuns : lowercaseRuns.Pairwise Run.Before :=
  List.isChain_iff_pairwise.mp (by decide +kernel)

theorem isLower_eq_false_of_isUpper {c : Char} (h : isUpper c = true) : isLower c = false := by
  have hwalk : Run.walkApart (uppercaseRuns.length + lowercaseRuns.length) uppercaseRuns
      lowercaseRuns = true := by decide +kernel
  rw [Bool.eq_false_iff]
  intro hl
  obtain ⟨r, hr, hrc⟩ := List.any_eq_true.mp h
  obtain ⟨s, hs, hsc⟩ := List.any_eq_true.mp hl
  have hapart := Run.apart_of_walkApart hwalk pairwise_uppercaseRuns pairwise_lowercaseRuns r hr s hs
  exact hapart.not_contains hrc hsc

theorem isUpper_eq_false_of_isLower {c : Char} (h : isLower c = true) : isUpper c = false := by
  rw [Bool.eq_false_iff]
  intro hu
  rw [isLower_eq_false_of_isUpper hu] at h
  cases h

theorem isLower_underscore : isLower '_' = false := by decide +kernel

end GLBindings.Text
