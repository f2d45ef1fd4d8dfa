import GLBindings.Proofs.Positions
import GLBindings.Proofs.Table
import Mathlib.Order.Lattice

namespace GLBindings

/-- What each element of a list does to a table. -/
structure Sweep (α κ υ : Type) where
  value : α → υ
  adds : α → List κ
  drops : α → List κ

namespace Sweep

open Positions

variable {α κ υ : Type} [DecidableEq κ]

def step (s : Sweep α κ υ) (t : Table κ υ) (a : α) : Table κ υ :=
  (t.insertAllNew ((s.adds a).map (·, s.value a))).eraseAll (s.drops a)

def run (s : Sweep α κ υ) (l : List α) : Table κ υ := l.foldl s.step ∅

/-- The key stays from this position on, and from none before it. -/
def Since (s : Sweep α κ υ) (k : κ) : List α → Nat → Prop :=
  StaysSince (k ∈ s.adds ·) (k ∈ s.drops ·)

/-- The first key stays since an earlier position, or an element that brings both names it first. -/
def Precedes (s : Sweep α κ υ) (l : List α) (j k : κ) : Prop :=
  ∃ m n, s.Since j l m ∧ s.Since k l n ∧
    (m < n ∨ m = n ∧ Occurs (fun a => (s.adds a).idxOf j < (s.adds a).idxOf k) l m)

variable (s : Sweep α κ υ)

theorem entries_step (t : Table κ υ) (a : α) :
    (s.step t a).entries =
      (t.entries ++ ((s.adds a).filter (· ∉ t)).eraseDups.map (·, s.value a)).filter
        (·.1 ∉ s.drops a) := by
  rw [step, Table.entries_eraseAll, Table.entries_insertAllNew]

theorem mem_entries_step {t : Table κ υ} {a : α} {k : κ} {v : υ} :
    (k, v) ∈ (s.step t a).entries ↔
      ((k, v) ∈ t.entries ∨ k ∉ t ∧ k ∈ s.adds a ∧ s.value a = v) ∧ k ∉ s.drops a := by
  simp only [entries_step, List.mem_filter, List.mem_append, List.mem_map, List.mem_eraseDups,
    decide_eq_true_eq, Prod.mk.injEq, and_congr_left_iff]
  intro _
  constructor
  · rintro (h | ⟨_, ⟨hk, hn⟩, rfl, rfl⟩)
    · exact .inl h
    · exact .inr ⟨hn, hk, rfl⟩
  · rintro (h | ⟨hn, hk, rfl⟩)
    · exact .inl h
    · exact .inr ⟨k, ⟨hk, hn⟩, rfl, rfl⟩

theorem step_of_idle (t : Table κ υ) {a : α} (ha : s.adds a = []) (hd : s.drops a = []) :
    s.step t a = t := by
  simp [step, ha, hd, Table.insertAllNew, Table.eraseAll]

theorem run_concat (l : List α) (a : α) : s.run (l ++ [a]) = s.step (s.run l) a := by
  simp [run]

theorem run_filter (p : α → Bool) (l : List α)
    (h : ∀ a ∈ l, ¬ p a → s.adds a = [] ∧ s.drops a = []) : s.run (l.filter p) = s.run l := by
  induction l using List.reverseRecOn with
  | nil => rfl
  | append_singleton l a ih =>
      rw [List.filter_append, run_concat, ← ih fun b hb => h b (List.mem_append_left _ hb)]
      cases hp : p a with
      | true => rw [List.filter_cons_of_pos hp, List.filter_nil, run_concat]
      | false =>
          obtain ⟨ha, hd⟩ := h a (by simp) (by simp [hp])
          rw [step_of_idle s _ ha hd, List.filter_cons_of_neg (by simp [hp]), List.filter_nil,
            List.append_nil]

omit [DecidableEq κ] in
theorem mem_iff_stays {t : Table κ υ} {l : List α} {k : κ}
    (h : ∀ v, (k, v) ∈ t.entries ↔ ∃ i, s.Since k l i ∧ Occurs (s.value · = v) l i) :
    k ∈ t ↔ ∃ i, Stays (k ∈ s.adds ·) (k ∈ s.drops ·) l i := by
  rw [Table.mem_iff_exists, ← exists_staysSince]
  constructor
  · rintro ⟨v, hv⟩
    obtain ⟨i, hi, _⟩ := (h v).mp hv
    exact ⟨i, hi⟩
  · rintro ⟨i, hi⟩
    obtain ⟨a, ha, _⟩ := hi.1.1
    exact ⟨s.value a, (h _).mpr ⟨i, hi, a, ha, rfl⟩⟩

/-- What a sweep results in, entry by entry. -/
theorem mem_entries_run {l : List α} {k : κ} {v : υ} :
    (k, v) ∈ (s.run l).entries ↔ ∃ i, s.Since k l i ∧ Occurs (s.value · = v) l i := by
  induction l using List.reverseRecOn generalizing v with
  | nil =>
      constructor
      · intro h
        exact absurd h (by simp [run, EmptyCollection.emptyCollection])
      · rintro ⟨i, hi, _⟩
        exact absurd hi.lt_length (by simp)
  | append_singleton l a ih =>
      rw [run_concat, mem_entries_step, ih, s.mem_iff_stays fun _ => ih, not_exists]
      simp only [Since, staysSince_concat, occurs_concat]
      constructor
      · rintro ⟨⟨i, hi, hv⟩ | ⟨hn, ha, hv⟩, hd⟩
        · exact ⟨i, ⟨hd, .inl hi⟩, .inl hv⟩
        · exact ⟨l.length, ⟨hd, .inr ⟨hn, rfl, ha⟩⟩, .inr ⟨rfl, hv⟩⟩
      · rintro ⟨i, ⟨hd, hi | ⟨hn, rfl, ha⟩⟩, hv⟩
        · have hne : i ≠ l.length := Nat.ne_of_lt hi.lt_length
          exact ⟨.inl ⟨i, hi, hv.resolve_right fun h => hne h.1⟩, hd⟩
        · have hv' := hv.resolve_left fun h => Nat.lt_irrefl _ h.lt_length
          exact ⟨.inr ⟨hn, ha, hv'.2⟩, hd⟩

theorem mem_run {l : List α} {k : κ} :
    k ∈ s.run l ↔ ∃ i, Stays (k ∈ s.adds ·) (k ∈ s.drops ·) l i :=
  s.mem_iff_stays fun _ => s.mem_entries_run

theorem get?_run_eq_some_iff {l : List α} {k : κ} {v : υ} :
    (s.run l).get? k = some v ↔ ∃ i, s.Since k l i ∧ Occurs (s.value · = v) l i := by
  rw [Table.get?_eq_some_iff, mem_entries_run]

omit [DecidableEq κ] in
variable {s} in
theorem Since.concat {l : List α} {k : κ} {i : Nat} (h : s.Since k l i) {a : α}
    (hd : k ∉ s.drops a) : s.Since k (l ++ [a]) i :=
  staysSince_concat.mpr ⟨hd, .inl h⟩

theorem since_length {l : List α} {a : α} {k : κ} (hn : k ∉ s.run l) (ha : k ∈ s.adds a)
    (hd : k ∉ s.drops a) : s.Since k (l ++ [a]) l.length := by
  rw [mem_run, not_exists] at hn
  exact staysSince_concat.mpr ⟨hd, .inr ⟨hn, rfl, ha⟩⟩

theorem exists_since_of_mem {l : List α} {k : κ} (h : k ∈ s.run l) : ∃ i, s.Since k l i :=
  exists_staysSince.mpr (s.mem_run.mp h)

theorem keys_step (t : Table κ υ) (a : α) :
    (s.step t a).keys =
      (t.keys ++ ((s.adds a).filter (· ∉ t)).eraseDups).filter (· ∉ s.drops a) := by
  rw [Table.keys, entries_step, Table.keys, List.filter_append, List.filter_append, List.map_append,
    List.filter_map, List.filter_map, List.map_map]
  simp [Function.comp_def]

variable {s} in
theorem Precedes.concat {l : List α} {j k : κ} (h : s.Precedes l j k) {a : α}
    (hj : j ∉ s.drops a) (hk : k ∉ s.drops a) : s.Precedes (l ++ [a]) j k := by
  obtain ⟨m, n, hm, hn, hlt⟩ := h
  refine ⟨m, n, hm.concat hj, hn.concat hk, ?_⟩
  rcases hlt with hlt | ⟨rfl, ho⟩
  · exact .inl hlt
  · exact .inr ⟨rfl, occurs_concat.mpr (.inl ho)⟩

/-- Keys stand in the order of the positions since which they stay. -/
theorem pairwise_keys_run (l : List α) : (s.run l).keys.Pairwise (s.Precedes l) := by
  induction l using List.reverseRecOn with
  | nil => exact .nil
  | append_singleton l a ih =>
      have hnew (k : κ) (hk : k ∈ (((s.adds a).filter (· ∉ s.run l)).eraseDups.filter
          (· ∉ s.drops a))) : s.Since k (l ++ [a]) l.length := by
        rw [List.mem_filter, List.mem_eraseDups, List.mem_filter] at hk
        exact s.since_length (by simpa using hk.1.2) hk.1.1 (by simpa using hk.2)
      rw [run_concat, keys_step, List.filter_append, List.pairwise_append]
      -- Two old keys, two new ones, and an old one before a new one.
      refine ⟨?_, ?_, ?_⟩
      · refine (ih.filter _).imp_of_mem ?_
        intro j k hj hk h
        exact h.concat (by simpa using (List.mem_filter.mp hj).2)
          (by simpa using (List.mem_filter.mp hk).2)
      · refine ((pairwise_eraseDups_filter (s.adds a) _).filter _).imp_of_mem ?_
        intro j k hj hk h
        exact ⟨l.length, l.length, hnew j hj, hnew k hk, .inr ⟨rfl, a, by simp, h⟩⟩
      · intro j hj k hk
        rw [List.mem_filter] at hj
        obtain ⟨i, hi⟩ := s.exists_since_of_mem hj.1
        exact ⟨i, l.length, hi.concat (by simpa using hj.2), hnew k hk, .inl hi.lt_length⟩

theorem value_le_of_mem_run [Preorder υ] {l : List α} {v : υ} (h : ∀ a ∈ l, s.value a ≤ v)
    {e : κ × υ} (he : e ∈ (s.run l).entries) : e.2 ≤ v := by
  obtain ⟨_, _, a, ha, hv⟩ := s.mem_entries_run.mp he
  rw [← hv]
  exact h a (List.mem_of_getElem? ha)

theorem filter_entries_run_of_le [LinearOrder υ] {l : List α} {v : υ}
    (h : ∀ a ∈ l, s.value a ≤ v) : (s.run l).entries.filter (·.2 ≤ v) = (s.run l).entries := by
  rw [List.filter_eq_self]
  intro e he
  simpa using s.value_le_of_mem_run h he

theorem pairwise_values_run [Preorder υ] {l : List α}
    (h : l.Pairwise fun a b => s.value a ≤ s.value b) :
    (s.run l).entries.Pairwise fun e f => e.2 ≤ f.2 := by
  induction l using List.reverseRecOn with
  | nil => exact .nil
  | append_singleton l a ih =>
      obtain ⟨hl, _, hle⟩ := List.pairwise_append.mp h
      -- The keys of `a` come last, and no value of the list is above that of its last element.
      rw [run_concat, entries_step]
      refine List.Pairwise.filter _ (List.pairwise_append.mpr ⟨ih hl, ?_, ?_⟩)
      · refine List.pairwise_map.mpr (List.pairwise_of_forall fun _ _ => ?_)
        exact le_refl _
      · intro e he f hf
        obtain ⟨k, _, rfl⟩ := List.mem_map.mp hf
        exact s.value_le_of_mem_run (fun b hb => hle b hb a (by simp)) he

/-- A sweep that brings in more and takes out less has every key of the other, with a value that is not
above. -/
theorem exists_get?_run_le [Preorder υ] {s' : Sweep α κ υ} {l : List α}
    (hl : l.Pairwise fun a b => s.value a ≤ s.value b) (hvalue : s'.value = s.value)
    (hadds : ∀ a ∈ l, s.adds a ⊆ s'.adds a) (hdrops : ∀ a ∈ l, s'.drops a ⊆ s.drops a) {k : κ} {v : υ}
    (h : (s.run l).get? k = some v) : ∃ w, (s'.run l).get? k = some w ∧ w ≤ v := by
  -- What stays since position `i` stays in the other sweep too, perhaps since an earlier one.
  obtain ⟨i, hi, a, ha, hv⟩ := s.get?_run_eq_some_iff.mp h
  have hstays : Stays (k ∈ s'.adds ·) (k ∈ s'.drops ·) l i :=
    hi.1.mono (fun _ hb hk => hadds _ hb hk) (fun _ hb hk => hdrops _ hb hk)
  obtain ⟨j, hle, hj⟩ := hstays.exists_staysSince_le
  obtain ⟨b, hb, _⟩ := hj.1.1
  refine ⟨s'.value b, s'.get?_run_eq_some_iff.mpr ⟨j, hj, b, hb, rfl⟩, ?_⟩
  rw [hvalue, ← hv]
  exact key_le_of_le hl hle hb ha

theorem entries_step_late [LinearOrder υ] {s' : Sweep α κ υ} {t t' : Table κ υ} {a : α} {v : υ}
    (hadds : s.adds a = []) (hdrops : s.drops a = s'.drops a) (hv : v < s'.value a)
    (ht : t.entries = t'.entries.filter (·.2 ≤ v)) :
    (s.step t a).entries = (s'.step t' a).entries.filter (·.2 ≤ v) := by
  have hnone : (((s'.adds a).filter (· ∉ t')).eraseDups.map (·, s'.value a)).filter (·.2 ≤ v) = [] := by
    rw [List.filter_eq_nil_iff]
    intro e he
    obtain ⟨k, _, rfl⟩ := List.mem_map.mp he
    simpa using hv
  have hold : (s.step t a).entries = t.entries.filter (·.1 ∉ s'.drops a) := by
    rw [entries_step, hadds, hdrops]
    simp
  have hnew : (s'.step t' a).entries.filter (·.2 ≤ v) =
      (t'.entries.filter (·.2 ≤ v)).filter (·.1 ∉ s'.drops a) := by
    rw [entries_step, List.filter_comm, List.filter_append, hnone, List.append_nil]
  rw [hold, hnew, ht]

/-- Of two sweeps that take the same keys out, the one that brings keys in only up to a value
results in the entries of the other up to this value. -/
theorem entries_run_eq_filter [LinearOrder υ] {s' : Sweep α κ υ} {l : List α} {v : υ}
    (hl : l.Pairwise fun a b => s.value a ≤ s.value b) (hvalue : s'.value = s.value)
    (hdrops : ∀ a ∈ l, s.drops a = s'.drops a)
    (hadds : ∀ a ∈ l, s.adds a = if s.value a ≤ v then s'.adds a else []) :
    (s.run l).entries = (s'.run l).entries.filter (·.2 ≤ v) := by
  induction l using List.reverseRecOn with
  | nil => rfl
  | append_singleton l a ih =>
      obtain ⟨hsorted, _, hle⟩ := List.pairwise_append.mp hl
      have hrun := ih hsorted (fun b hb => hdrops b (List.mem_append_left _ hb))
        (fun b hb => hadds b (List.mem_append_left _ hb))
      have hd := hdrops a (by simp)
      have ha := hadds a (by simp)
      rw [run_concat, run_concat]
      -- Up to the bound both runs agree; behind it the list is sorted, so nothing more comes in.
      by_cases hv : s.value a ≤ v
      · have hbound : ∀ b ∈ l ++ [a], s'.value b ≤ v := by
          intro b hb
          rw [hvalue]
          rcases List.mem_append.mp hb with hb | hb
          · exact le_trans (hle b hb a (by simp)) hv
          · rw [List.mem_singleton.mp hb]
            exact hv
        have hsame : s.run l = s'.run l := by
          apply Table.ext
          rw [hrun, s'.filter_entries_run_of_le fun b hb => hbound b (List.mem_append_left _ hb)]
        have hstep : s.step (s.run l) a = s'.run (l ++ [a]) := by
          rw [run_concat, hsame, step, step, ha, if_pos hv, hd, hvalue]
        rw [← run_concat s', hstep, s'.filter_entries_run_of_le hbound]
      · exact s.entries_step_late (by rw [ha, if_neg hv]) hd (by simpa [hvalue] using hv) hrun

end Sweep

end GLBindings
