import GLBindings.Proofs.Requirements.Shared

namespace GLBindings

namespace Table

variable {κ υ : Type} [DecidableEq κ]

theorem entries_insertAllNew_of_nodup (t : Table κ υ) {l : List (κ × υ)} (h : (l.map (·.1)).Nodup) :
    (t.insertAllNew l).entries = t.entries ++ l.filter (·.1 ∉ t) := by
  induction l generalizing t with
  | nil => simp [insertAllNew]
  | cons e l ih =>
      rw [List.map_cons, List.nodup_cons] at h
      obtain ⟨hne, hl⟩ := h
      have hstep : t.insertAllNew (e :: l) = (t.insertIfNew e.1 e.2).insertAllNew l := rfl
      rw [hstep, ih _ hl]
      by_cases hmem : e.1 ∈ t
      · rw [entries_insertIfNew_of_mem hmem, List.filter_cons_of_neg (by simpa using hmem)]
      · have hrest : l.filter (·.1 ∉ t.insertIfNew e.1 e.2) = l.filter (·.1 ∉ t) := by
          refine List.filter_congr fun f hf => ?_
          have hfe : f.1 ≠ e.1 := fun he => hne (he ▸ List.mem_map_of_mem hf)
          simp [mem_insertIfNew, hfe]
        rw [entries_insertIfNew_of_not_mem hmem, hrest, List.filter_cons_of_pos (by simpa using hmem),
          List.append_assoc, List.singleton_append]

theorem entries_extend (t u : Table κ υ) :
    (t.extend u).entries = t.entries ++ u.entries.filter (·.1 ∉ t) :=
  entries_insertAllNew_of_nodup t u.nodup_keys

theorem mem_extend {t u : Table κ υ} {k : κ} : k ∈ t.extend u ↔ k ∈ t ∨ k ∈ u := by
  simp only [mem_iff_exists, entries_extend, List.mem_append, List.mem_filter, exists_or,
    exists_and_right, decide_eq_true_eq]
  by_cases h : ∃ v, (k, v) ∈ t.entries <;> simp [h]

theorem extend_assoc (t u w : Table κ υ) : (t.extend u).extend w = t.extend (u.extend w) := by
  apply Table.ext
  have hnew : w.entries.filter (·.1 ∉ t.extend u) =
      (w.entries.filter (·.1 ∉ u)).filter (·.1 ∉ t) := by
    rw [List.filter_filter]
    refine List.filter_congr fun e _ => ?_
    simp [mem_extend]
  rw [entries_extend, entries_extend, entries_extend, entries_extend, hnew, List.filter_append,
    List.append_assoc]

theorem extend_of_subset {t u : Table κ υ} (h : ∀ k ∈ u, k ∈ t) : t.extend u = t := by
  apply Table.ext
  have hnone : u.entries.filter (·.1 ∉ t) = [] := by
    rw [List.filter_eq_nil_iff]
    intro e he
    simpa using h e.1 (List.mem_map_of_mem he)
  rw [entries_extend, hnone, List.append_nil]

theorem empty_extend (t : Table κ υ) : (∅ : Table κ υ).extend t = t := by
  apply Table.ext
  rw [entries_extend]
  exact List.filter_eq_self.mpr fun _ _ => rfl

theorem filterKeys_extend (p : κ → Bool) (t u : Table κ υ) :
    (t.extend u).filterKeys p = (t.filterKeys p).extend (u.filterKeys p) := by
  apply Table.ext
  -- A key that passes is new to the filtered table iff it is new to the whole one.
  have hnew : (u.entries.filter (·.1 ∉ t)).filter (fun e => p e.1) =
      (u.entries.filter fun e => p e.1).filter (·.1 ∉ t.filterKeys p) := by
    rw [List.filter_filter, List.filter_filter]
    refine List.filter_congr fun e _ => ?_
    by_cases he : p e.1 <;> simp [mem_filterKeys, he]
  have hall : ((t.extend u).filterKeys p).entries = (t.extend u).entries.filter fun e => p e.1 := rfl
  rw [hall, entries_extend, entries_extend, List.filter_append, hnew]
  rfl

end Table

theorem Resolved.merge_pair (f g : Feature) (r s : Requirements) :
    merge [⟨f, r⟩, ⟨g, s⟩] = .ok ⟨.merged, r.intersect [s]⟩ := rfl

namespace Requirements

variable (r s : Requirements)

theorem table_extend (k : Entity.Kind) : (r.extend s).table k = (r.table k).extend (s.table k) := by
  cases k <;> rfl

theorem extend_assoc (q : Requirements) : (r.extend s).extend q = r.extend (s.extend q) := by
  refine ext_table rfl fun k => ?_
  simp only [table_extend, Table.extend_assoc]

theorem extend_self : r.extend r = r := by
  refine ext_table rfl fun k => ?_
  rw [table_extend, Table.extend_of_subset fun _ h => h]

theorem extend_empty : r.extend ∅ = r := by
  refine ext_table rfl fun k => ?_
  rw [table_extend, table_empty]
  exact Table.extend_of_subset fun _ h => by cases h

theorem intersect_extend (others : List Requirements) :
    (r.extend s).intersect others = (r.intersect others).extend (s.intersect others) := by
  refine ext_table rfl fun k => ?_
  simp only [table_intersect, table_extend, Table.filterKeys_extend]

/-- The laws of extending, and of merging an extension with what another target requires. -/
theorem extend_lawful (a b c : Requirements) :
    (a.extend b).extend c = a.extend (b.extend c) ∧ a.extend a = a ∧ a.extend ∅ = a ∧
      (∀ k, ((∅ : Requirements).extend b).table k = b.table k) ∧
      (∀ k, ((a.extend b).table k).entries =
        (a.table k).entries ++ (b.table k).entries.filter (·.1 ∉ a.table k)) ∧
      ∀ f g h i : Feature, ∃ ac bc : Resolved,
        Resolved.merge [⟨f, a⟩, ⟨h, c⟩] = .ok ac ∧ Resolved.merge [⟨g, b⟩, ⟨h, c⟩] = .ok bc ∧
          Resolved.merge [⟨i, a.extend b⟩, ⟨h, c⟩] =
            .ok ⟨.merged, ac.requirements.extend bc.requirements⟩ := by
  refine ⟨extend_assoc a b c, extend_self a, extend_empty a, ?_, ?_, ?_⟩
  · intro k
    rw [table_extend, table_empty, Table.empty_extend]
  · intro k
    rw [table_extend, Table.entries_extend]
  · intro f g h i
    refine ⟨_, _, Resolved.merge_pair f h a c, Resolved.merge_pair g h b c, ?_⟩
    rw [Resolved.merge_pair, intersect_extend]

end Requirements

end GLBindings
