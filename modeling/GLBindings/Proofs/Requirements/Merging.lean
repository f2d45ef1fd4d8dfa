import GLBindings.Proofs.Requirements.Shared

namespace GLBindings

namespace Requirements

theorem intersect_congr {first : Requirements} {others others' : List Requirements}
    (h : ∀ k n, (∀ r ∈ others, n ∈ r.table k) ↔ ∀ r ∈ others', n ∈ r.table k) :
    first.intersect others = first.intersect others' := by
  refine ext_table rfl fun k => ?_
  rw [table_intersect, table_intersect]
  congr 1
  funext n
  rw [Bool.eq_iff_iff, List.all_eq_true, List.all_eq_true]
  simpa using h k n

theorem intersect_intersect (first : Requirements) (others others' : List Requirements) :
    (first.intersect others).intersect others' = first.intersect (others ++ others') := by
  refine ext_table rfl fun k => Table.ext ?_
  rw [entries_intersect, entries_intersect, entries_intersect, List.filter_filter]
  refine List.filter_congr fun e _ => ?_
  rw [List.all_append, Bool.and_comm]

end Requirements

namespace Resolved

variable {first y : Resolved} {others others' : List Resolved}

theorem merge_of_ne_nil (first : Resolved) (h : others ≠ []) :
    merge (first :: others) =
      .ok ⟨.merged, first.requirements.intersect (others.map (·.requirements))⟩ := by
  cases others with
  | nil => exact absurd rfl h
  | cons _ _ => rfl

theorem mem_table_of_merge (h : merge (first :: others) = .ok y) (k : Entity.Kind) (n : String) :
    n ∈ y.requirements.table k ↔ ∀ e ∈ first :: others, n ∈ e.requirements.table k := by
  cases others with
  | nil =>
      cases h
      simp
  | cons e others =>
      cases h
      simp [Requirements.mem_intersect]

theorem merge_congr (hne : others ≠ []) (hne' : others' ≠ [])
    (h : ∀ k n, (∀ e ∈ others, n ∈ e.requirements.table k) ↔
      ∀ e ∈ others', n ∈ e.requirements.table k) :
    merge (first :: others) = merge (first :: others') := by
  have hsame : first.requirements.intersect (others.map (·.requirements)) =
      first.requirements.intersect (others'.map (·.requirements)) :=
    Requirements.intersect_congr (by simpa using h)
  rw [merge_of_ne_nil first hne, merge_of_ne_nil first hne', hsame]

theorem merge_merged_cons (h : merge (first :: others) = .ok y) (zs : List Resolved) :
    merge (y :: zs) = merge (first :: others ++ zs) := by
  cases others with
  | nil =>
      cases h
      rfl
  | cons e others =>
      cases zs with
      | nil => rw [List.append_nil, h]; rfl
      | cons z zs =>
          cases h
          rw [merge_of_ne_nil _ (List.cons_ne_nil z zs), Requirements.intersect_intersect,
            ← List.map_append]
          rfl

theorem merge_append_merged (xs zs : List Resolved) (h : merge (first :: others) = .ok y) :
    merge (xs ++ [y] ++ zs) = merge (xs ++ (first :: others) ++ zs) := by
  cases xs with
  | nil => exact merge_merged_cons h zs
  | cons x xs =>
      -- Behind the first entry only keys count, and `y` has those that all of its own entries have.
      simp only [List.cons_append]
      refine merge_congr (by simp) (by simp) fun k n => ?_
      have hy := mem_table_of_merge h k n
      simp only [List.mem_append, List.mem_singleton, or_imp, forall_and, forall_eq, hy]

theorem foldlM_merge (first : Resolved) (others : List Resolved) :
    others.foldlM (fun e f => merge [e, f]) first = merge (first :: others) := by
  induction others generalizing first with
  | nil => rfl
  | cons f others ih =>
      obtain ⟨y, hy⟩ := exists_merge first [f]
      rw [List.foldlM_cons, hy]
      exact (ih y).trans (merge_merged_cons hy others)

/-- What the entries have in common, in the order and with the versions of the first. -/
structure Common (first : Resolved) (others : List Resolved) (y : Resolved) : Prop where
  feature : y.feature = .merged
  isMerged : y.requirements.isMerged = true
  mem_iff : ∀ k n, n ∈ y.requirements.table k ↔ ∀ e ∈ first :: others, n ∈ e.requirements.table k
  sublist : ∀ k, (y.requirements.table k).entries.Sublist (first.requirements.table k).entries

theorem common_of_merge (hne : others ≠ []) (h : merge (first :: others) = .ok y) :
    Common first others y := by
  have hmem := mem_table_of_merge h
  rw [merge_of_ne_nil first hne] at h
  cases h
  refine ⟨rfl, rfl, hmem, fun k => ?_⟩
  rw [Requirements.entries_intersect]
  exact List.filter_sublist

theorem merge_eq_of_mem_iff (h : ∀ e, e ∈ others' ↔ e ∈ others) :
    merge (first :: others') = merge (first :: others) := by
  by_cases hne : others = []
  · have hnil : others' = [] := List.eq_nil_iff_forall_not_mem.mpr fun e he => by
      simpa [hne] using (h e).mp he
    rw [hne, hnil]
  · obtain ⟨e, he⟩ := List.exists_mem_of_ne_nil others hne
    have hne' : others' ≠ [] := List.ne_nil_of_mem ((h e).mpr he)
    exact merge_congr hne' hne fun k n => by simp only [h]

/-- Merging some of the entries first, or one entry after the other, comes to the same. Of two entries
and more the result is what they have in common. -/
theorem merge_flattens (xs zs : List Resolved) (first : Resolved) (others : List Resolved) :
    ∃ y, merge (first :: others) = .ok y ∧
      merge (xs ++ [y] ++ zs) = merge (xs ++ (first :: others) ++ zs) ∧
      others.foldlM (fun e f => merge [e, f]) first = .ok y ∧
      (others ≠ [] → Common first others y) ∧
      ∀ others', (∀ e, e ∈ others' ↔ e ∈ others) → merge (first :: others') = .ok y := by
  obtain ⟨y, hy⟩ := exists_merge first others
  refine ⟨y, hy, merge_append_merged xs zs hy, (foldlM_merge first others).trans hy, ?_, ?_⟩
  · intro hne
    exact common_of_merge hne hy
  · intro others' hsame
    rw [merge_eq_of_mem_iff hsame, hy]

def entry (api : Api) (version : Version) (commands : List (String × Version)) : Resolved :=
  ⟨⟨api, version⟩, ⟨∅, .ofList commands, false⟩⟩

def desktop : Resolved :=
  entry .gl ⟨1, 5⟩ [("glBegin", ⟨1, 0⟩), ("glFlush", ⟨1, 0⟩), ("glClear", ⟨1, 1⟩)]

def mobile : Resolved := entry .gles2 ⟨2, 0⟩ [("glClear", ⟨2, 0⟩), ("glFlush", ⟨2, 0⟩)]

def safety : Resolved := entry .glsc2 ⟨2, 0⟩ [("glClear", ⟨2, 0⟩), ("glBegin", ⟨2, 0⟩)]

theorem merge_flattens_desktop :
    ([mobile, safety] ≠ [] ∧ ∀ e, e ∈ [safety, mobile, safety] ↔ e ∈ [mobile, safety]) ∧
      ∃ y, merge [desktop, mobile, safety] = .ok y ∧
        merge [safety, y, mobile] = merge [safety, desktop, mobile, safety, mobile] ∧
        Common desktop [mobile, safety] y ∧ merge [desktop, safety, mobile, safety] = .ok y := by
  have hne : [mobile, safety] ≠ [] := List.cons_ne_nil _ _
  have hsame : ∀ e, e ∈ [safety, mobile, safety] ↔ e ∈ [mobile, safety] := by
    intro e
    simp only [List.mem_cons, List.not_mem_nil, or_false]
    tauto
  obtain ⟨y, hy, hflat, _, hcommon, hany⟩ :=
    merge_flattens [safety] [mobile] desktop [mobile, safety]
  exact ⟨⟨hne, hsame⟩, y, hy, hflat, hcommon hne, hany _ hsame⟩

end Resolved

end GLBindings
