import Mathlib.Data.Finset.Sort

namespace GLBindings.Grouping

variable {α β : Type} [LinearOrder β] {key : α → β}

theorem decide_key_trans (a b c : α) (hab : decide (key a ≤ key b) = true)
    (hbc : decide (key b ≤ key c) = true) : decide (key a ≤ key c) = true := by
  rw [decide_eq_true_eq] at *
  exact hab.trans hbc

theorem decide_key_total (a b : α) :
    (decide (key a ≤ key b) || decide (key b ≤ key a)) = true := by
  simpa using le_total (key a) (key b)

section Sorting

variable (key) (l : List α)

theorem pairwise_mergeSort :
    (l.mergeSort fun a b => decide (key a ≤ key b)).Pairwise fun a b => key a ≤ key b := by
  have h : (l.mergeSort fun a b => decide (key a ≤ key b)).Pairwise
      fun a b => decide (key a ≤ key b) = true := by
    apply List.pairwise_mergeSort
    · exact decide_key_trans
    · exact decide_key_total
  simpa using h

/-- Insertion sorts alike. It goes by the constructors of the list, so it can be computed. -/
theorem mergeSort_eq_insertionSort :
    (l.mergeSort fun a b => decide (key a ≤ key b)) = l.insertionSort fun a b => key a ≤ key b := by
  induction l with
  | nil => rw [List.mergeSort_nil, List.insertionSort_nil]
  | cons a l ih =>
      obtain ⟨l₁, l₂, hsort, htail, hlt⟩ :=
        List.mergeSort_cons decide_key_trans (@decide_key_total α β _ key) a l
      have hsorted := pairwise_mergeSort key (a :: l)
      rw [hsort, List.pairwise_append] at hsorted
      have hle := (List.pairwise_cons.mp hsorted.2.1).1
      have hl₁ : ∀ b ∈ l₁, decide (¬ key a ≤ key b) = true := fun b hb => by simpa using hlt b hb
      -- Both put `a` in front of the first element that is not below it.
      rw [hsort, List.insertionSort_cons, ← ih, htail, List.orderedInsert_eq_take_drop,
        List.takeWhile_append_of_pos hl₁, List.dropWhile_append_of_pos hl₁]
      cases l₂ with
      | nil => simp
      | cons c l₂ => simp [hle c List.mem_cons_self]

theorem filter_mergeSort (k : β) :
    (l.mergeSort fun a b => decide (key a ≤ key b)).filter (key · = k) = l.filter (key · = k) := by
  have hperm := (List.mergeSort_perm l fun a b => decide (key a ≤ key b)).filter (key · = k)
  have hgroup : (l.filter (key · = k)).Pairwise fun a b => decide (key a ≤ key b) = true := by
    refine List.Pairwise.imp_of_mem (R := fun _ _ => True) ?_ (List.pairwise_of_forall fun _ _ => trivial)
    intro a b ha hb _
    have hka : key a = k := by simpa using (List.mem_filter.mp ha).2
    have hkb : key b = k := by simpa using (List.mem_filter.mp hb).2
    rw [decide_eq_true_eq, hka, hkb]
  have hsub : (l.filter (key · = k)).Sublist (l.mergeSort fun a b => decide (key a ≤ key b)) := by
    apply List.sublist_mergeSort
    · exact decide_key_trans
    · exact decide_key_total
    · exact hgroup
    · exact List.filter_sublist
  have hfilter := hsub.filter (key · = k)
  rw [List.filter_filter] at hfilter
  simp only [Bool.and_self] at hfilter
  exact (hfilter.eq_of_length hperm.length_eq.symm).symm

end Sorting

theorem isPrefix_filter_le {l : List α} (h : l.Pairwise fun a b => key a ≤ key b) (k : β) :
    (l.filter (key · ≤ k)).IsPrefix l := by
  induction l with
  | nil => exact List.nil_prefix
  | cons a l ih =>
      obtain ⟨ha, hl⟩ := List.pairwise_cons.mp h
      by_cases hk : key a ≤ k
      · rw [List.filter_cons_of_pos (by simpa using hk)]
        exact (List.prefix_cons_inj a).mpr (ih hl)
      · have hnil : l.filter (key · ≤ k) = [] := by
          rw [List.filter_eq_nil_iff]
          intro b hb
          simpa using lt_of_lt_of_le (not_le.mp hk) (ha b hb)
        rw [List.filter_cons_of_neg (by simpa using hk), hnil]
        exact List.nil_prefix

theorem filter_append_filter_of_le {l : List α} {k : β} (h : l.Pairwise fun a b => key a ≤ key b)
    (hle : ∀ a ∈ l, k ≤ key a) :
    l.filter (key · = k) ++ l.filter (key · ≠ k) = l := by
  induction l with
  | nil => rfl
  | cons a l ih =>
      obtain ⟨ha, hl⟩ := List.pairwise_cons.mp h
      by_cases hk : key a = k
      · rw [List.filter_cons_of_pos (by simpa using hk), List.filter_cons_of_neg (by simpa using hk),
          List.cons_append, ih hl fun b hb => hle b (List.mem_cons_of_mem a hb)]
      · have hlt : k < key a := lt_of_le_of_ne (hle a List.mem_cons_self) (Ne.symm hk)
        have hall : ∀ b ∈ a :: l, key b ≠ k := by
          intro b hb
          rcases List.mem_cons.mp hb with rfl | hb
          · exact hk
          · exact (lt_of_lt_of_le hlt (ha b hb)).ne'
        rw [List.filter_eq_nil_iff.mpr (by simpa using hall),
          List.filter_eq_self.mpr (by simpa using hall), List.nil_append]

theorem flatMap_filter_of_sorted {l : List α} {ks : List β}
    (h : l.Pairwise fun a b => key a ≤ key b) (hks : ks.Pairwise (· < ·))
    (hmem : ∀ a ∈ l, key a ∈ ks) : ks.flatMap (fun k => l.filter (key · = k)) = l := by
  induction ks generalizing l with
  | nil =>
      have hnil : l = [] := List.eq_nil_iff_forall_not_mem.mpr fun a ha => by simpa using hmem a ha
      rw [hnil, List.flatMap_nil]
  | cons k ks ih =>
      obtain ⟨hk, hks⟩ := List.pairwise_cons.mp hks
      have hle : ∀ a ∈ l, k ≤ key a := by
        intro a ha
        rcases List.mem_cons.mp (hmem a ha) with he | he
        · exact he.ge
        · exact (hk _ he).le
      have hrest : ks.flatMap (fun j => l.filter (key · = j)) = l.filter (key · ≠ k) := by
        rw [← ih (h.filter _) hks (by
          intro a ha
          obtain ⟨ha, hne⟩ := List.mem_filter.mp ha
          exact (List.mem_cons.mp (hmem a ha)).resolve_left (by simpa using hne))]
        refine List.flatMap_congr fun j hj => ?_
        rw [List.filter_filter]
        refine List.filter_congr fun a _ => ?_
        have hne : j ≠ k := (hk j hj).ne'
        by_cases ha : key a = j <;> simp [ha, hne]
      rw [List.flatMap_cons, hrest, filter_append_filter_of_le h hle]

/-- The groups of a sorted list determine it. -/
theorem eq_of_filter_eq {l l' : List α} (h : l.Pairwise fun a b => key a ≤ key b)
    (h' : l'.Pairwise fun a b => key a ≤ key b)
    (heq : ∀ k, l.filter (key · = k) = l'.filter (key · = k)) : l = l' := by
  have hmem : ∀ a ∈ l', key a ∈ ((l.map key).toFinset.sort : List β) := by
    intro a ha
    have hf : a ∈ l.filter (key · = key a) := by
      rw [heq]
      simpa using ha
    simpa using ⟨a, (List.mem_filter.mp hf).1, rfl⟩
  have hks : ((l.map key).toFinset.sort : List β).Pairwise (· < ·) :=
    (Finset.sortedLT_sort _).pairwise
  have hmem' : ∀ a ∈ l, key a ∈ ((l.map key).toFinset.sort : List β) := by
    intro a ha
    simpa using ⟨a, ha, rfl⟩
  rw [← flatMap_filter_of_sorted h hks hmem', ← flatMap_filter_of_sorted h' hks hmem]
  exact List.flatMap_congr fun k _ => heq k

end GLBindings.Grouping
