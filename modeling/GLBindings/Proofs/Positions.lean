import Mathlib.Data.List.Basic
import Mathlib.Data.Nat.Find

namespace GLBindings.Positions

variable {α : Type}

def Occurs (p : α → Prop) (l : List α) (i : Nat) : Prop := ∃ a, l[i]? = some a ∧ p a

/-- It comes at this position, strictly behind every position at which it goes. -/
def Stays (comes goes : α → Prop) (l : List α) (i : Nat) : Prop :=
  Occurs comes l i ∧ ∀ j, Occurs goes l j → j < i

/-- The first position from which it stays. -/
def StaysSince (comes goes : α → Prop) (l : List α) (i : Nat) : Prop :=
  Stays comes goes l i ∧ ∀ j, Stays comes goes l j → i ≤ j

theorem Occurs.lt_length {p : α → Prop} {l : List α} {i : Nat} (h : Occurs p l i) : i < l.length := by
  obtain ⟨a, ha, _⟩ := h
  exact (List.getElem?_eq_some_iff.mp ha).1

theorem key_le_of_le {β : Type} [Preorder β] {key : α → β} {l : List α}
    (h : l.Pairwise fun a b => key a ≤ key b) {i j : Nat} {a b : α} (hij : i ≤ j)
    (ha : l[i]? = some a) (hb : l[j]? = some b) : key a ≤ key b := by
  rcases Nat.eq_or_lt_of_le hij with rfl | hlt
  · cases ha.symm.trans hb
    exact le_refl _
  · obtain ⟨hi, rfl⟩ := List.getElem?_eq_some_iff.mp ha
    obtain ⟨hj, rfl⟩ := List.getElem?_eq_some_iff.mp hb
    exact List.pairwise_iff_getElem.mp h i j hi hj hlt

theorem occurs_concat {p : α → Prop} {l : List α} {a : α} {i : Nat} :
    Occurs p (l ++ [a]) i ↔ Occurs p l i ∨ i = l.length ∧ p a := by
  constructor
  · rintro ⟨b, hb, hp⟩
    rw [List.getElem?_append, List.getElem?_singleton] at hb
    split at hb
    · exact .inl ⟨b, hb, hp⟩
    · split at hb
      · cases hb
        exact .inr ⟨by omega, hp⟩
      · cases hb
  · rintro (h | ⟨rfl, hp⟩)
    · obtain ⟨b, hb, hp⟩ := h
      exact ⟨b, by rw [List.getElem?_append_left (Occurs.lt_length ⟨b, hb, hp⟩), hb], hp⟩
    · exact ⟨a, by simp, hp⟩

theorem Occurs.mono {p q : α → Prop} {l : List α} {i : Nat} (h : Occurs p l i)
    (hpq : ∀ a ∈ l, p a → q a) : Occurs q l i := by
  obtain ⟨a, ha, hp⟩ := h
  exact ⟨a, ha, hpq a (List.mem_of_getElem? ha) hp⟩

theorem occurs_congr {p q : α → Prop} {l : List α} (h : ∀ a ∈ l, p a ↔ q a) (i : Nat) :
    Occurs p l i ↔ Occurs q l i := by
  constructor
  · exact fun hp => hp.mono fun a ha => (h a ha).mp
  · exact fun hq => hq.mono fun a ha => (h a ha).mpr

variable {comes goes comes' goes' : α → Prop} {l : List α}

theorem stays_congr (hc : ∀ a ∈ l, comes a ↔ comes' a) (hg : ∀ a ∈ l, goes a ↔ goes' a) (i : Nat) :
    Stays comes goes l i ↔ Stays comes' goes' l i := by
  simp only [Stays, occurs_congr hc, occurs_congr hg]

theorem staysSince_congr (hc : ∀ a ∈ l, comes a ↔ comes' a) (hg : ∀ a ∈ l, goes a ↔ goes' a)
    (i : Nat) : StaysSince comes goes l i ↔ StaysSince comes' goes' l i := by
  simp only [StaysSince, stays_congr hc hg]

/-- A longer list keeps what stays unless its last element lets it go. -/
theorem stays_concat {a : α} {i : Nat} :
    Stays comes goes (l ++ [a]) i ↔ ¬ goes a ∧ (Stays comes goes l i ∨ i = l.length ∧ comes a) := by
  simp only [Stays, occurs_concat]
  constructor
  · rintro ⟨hc, hg⟩
    have hle : i ≤ l.length := by
      rcases hc with hc | ⟨rfl, _⟩
      · exact Nat.le_of_lt hc.lt_length
      · exact le_rfl
    have hna : ¬ goes a := fun ha => Nat.not_lt.mpr hle (hg l.length (.inr ⟨rfl, ha⟩))
    exact ⟨hna, hc.imp_left fun h => ⟨h, fun j hj => hg j (.inl hj)⟩⟩
  · rintro ⟨hna, ⟨hc, hg⟩ | ⟨rfl, ha⟩⟩
    · exact ⟨.inl hc, fun j hj => hg j (hj.resolve_right fun h => hna h.2)⟩
    · exact ⟨.inr ⟨rfl, ha⟩, fun j hj => (hj.resolve_right fun h => hna h.2).lt_length⟩

theorem exists_staysSince : (∃ i, StaysSince comes goes l i) ↔ ∃ i, Stays comes goes l i := by
  classical
  constructor
  · rintro ⟨i, hi, _⟩
    exact ⟨i, hi⟩
  · intro h
    exact ⟨Nat.find h, Nat.find_spec h, fun j hj => Nat.find_min' h hj⟩

theorem Stays.mono {i : Nat} (h : Stays comes goes l i) (hc : ∀ a ∈ l, comes a → comes' a)
    (hg : ∀ a ∈ l, goes' a → goes a) : Stays comes' goes' l i :=
  ⟨h.1.mono hc, fun j hj => h.2 j (hj.mono hg)⟩

theorem Stays.exists_staysSince_le {i : Nat} (h : Stays comes goes l i) :
    ∃ j, j ≤ i ∧ StaysSince comes goes l j := by
  obtain ⟨j, hj⟩ := exists_staysSince.mpr ⟨i, h⟩
  exact ⟨j, hj.2 i h, hj⟩

theorem StaysSince.lt_length {i : Nat} (h : StaysSince comes goes l i) : i < l.length := h.1.1.lt_length

theorem staysSince_concat {a : α} {i : Nat} :
    StaysSince comes goes (l ++ [a]) i ↔ ¬ goes a ∧
      (StaysSince comes goes l i ∨ (∀ j, ¬ Stays comes goes l j) ∧ i = l.length ∧ comes a) := by
  simp only [StaysSince, stays_concat]
  constructor
  · rintro ⟨⟨hna, hi⟩, hmin⟩
    refine ⟨hna, ?_⟩
    rcases hi with hi | ⟨rfl, ha⟩
    · exact .inl ⟨hi, fun j hj => hmin j ⟨hna, .inl hj⟩⟩
    · refine .inr ⟨fun j hj => ?_, rfl, ha⟩
      exact Nat.not_lt.mpr (hmin j ⟨hna, .inl hj⟩) hj.1.lt_length
  · rintro ⟨hna, ⟨hi, hmin⟩ | ⟨hnone, rfl, ha⟩⟩
    · refine ⟨⟨hna, .inl hi⟩, ?_⟩
      rintro j ⟨_, hj | ⟨rfl, _⟩⟩
      · exact hmin j hj
      · exact Nat.le_of_lt hi.1.lt_length
    · refine ⟨⟨hna, .inr ⟨rfl, ha⟩⟩, ?_⟩
      rintro j ⟨_, hj | ⟨rfl, _⟩⟩
      · exact absurd hj (hnone j)
      · exact le_rfl

theorem pairwise_eraseDups_filter [DecidableEq α] (l : List α) (p : α → Bool) :
    (l.filter p).eraseDups.Pairwise fun j k => l.idxOf j < l.idxOf k := by
  induction l generalizing p with
  | nil => exact .nil
  | cons b l ih =>
      have hshift (q : α → Bool) (hq : ∀ k, q k → b ≠ k) :
          (l.filter q).eraseDups.Pairwise fun j k => (b :: l).idxOf j < (b :: l).idxOf k := by
        refine (ih q).imp_of_mem ?_
        intro j k hj hk hlt
        rw [List.mem_eraseDups] at hj hk
        rw [List.idxOf_cons_ne l (hq j (List.mem_filter.mp hj).2),
          List.idxOf_cons_ne l (hq k (List.mem_filter.mp hk).2)]
        exact Nat.succ_lt_succ hlt
      cases hp : p b with
      | true =>
          rw [List.filter_cons_of_pos hp, List.eraseDups_cons, List.filter_filter]
          have hne (k : α) (hk : (!k == b && p k) = true) : b ≠ k := by
            rintro rfl
            simp at hk
          refine .cons ?_ (hshift _ hne)
          intro k hk
          rw [List.mem_eraseDups, List.mem_filter] at hk
          rw [List.idxOf_cons_self, List.idxOf_cons_ne l (hne k hk.2)]
          exact Nat.succ_pos _
      | false =>
          rw [List.filter_cons_of_neg (by simp [hp])]
          exact hshift p fun k hk hb => by simp_all

theorem nodup_eraseDups [DecidableEq α] (l : List α) : l.eraseDups.Nodup := by
  have h := pairwise_eraseDups_filter l fun _ => true
  rw [List.filter_true] at h
  exact h.imp fun hlt he => absurd (he ▸ hlt) (Nat.lt_irrefl _)

end GLBindings.Positions
