import GLBindings.Table
import Mathlib.Data.List.Induction
import Mathlib.Data.List.Nodup

namespace GLBindings.Table

variable {κ υ : Type}

theorem mem_iff_exists {t : Table κ υ} {k : κ} : k ∈ t ↔ ∃ v, (k, v) ∈ t.entries := by
  show k ∈ t.entries.map (·.1) ↔ _
  simp

theorem eq_of_mem_entries {t : Table κ υ} {k : κ} {v w : υ}
    (hv : (k, v) ∈ t.entries) (hw : (k, w) ∈ t.entries) : v = w := by
  have h := List.inj_on_of_nodup_map t.nodup_keys hv hw rfl
  exact congrArg Prod.snd h

theorem mem_filterKeys {t : Table κ υ} {p : κ → Bool} {k : κ} : k ∈ t.filterKeys p ↔ k ∈ t ∧ p k := by
  simp only [mem_iff_exists, filterKeys, List.mem_filter, exists_and_right]

def mapValues {φ : Type} (f : υ → φ) (t : Table κ υ) : Table κ φ where
  entries := t.entries.map fun e => (e.1, f e.2)
  nodup_keys := by
    rw [List.map_map]
    exact t.nodup_keys

variable [DecidableEq κ]

theorem get?_eq_some_iff {t : Table κ υ} {k : κ} {v : υ} :
    t.get? k = some v ↔ (k, v) ∈ t.entries := by
  constructor
  · intro h
    obtain ⟨l₁, l₂, hl, _⟩ := List.lookup_eq_some_iff.mp h
    rw [hl]
    simp
  · intro h
    cases hk : t.get? k with
    | none =>
        have hne := List.lookup_eq_none_iff.mp hk (k, v) h
        simp at hne
    | some w =>
        obtain ⟨l₁, l₂, hl, _⟩ := List.lookup_eq_some_iff.mp hk
        have hw : (k, w) ∈ t.entries := by rw [hl]; simp
        rw [eq_of_mem_entries h hw]

theorem isSome_get?_iff {t : Table κ υ} {k : κ} : (t.get? k).isSome ↔ k ∈ t := by
  rw [Option.isSome_iff_exists, mem_iff_exists]
  simp only [get?_eq_some_iff]

theorem get?_insert (t : Table κ υ) (k j : κ) (v : υ) :
    (t.insert k v).get? j = if j = k then some v else t.get? j := by
  apply Option.ext
  intro w
  rw [get?_eq_some_iff]
  unfold insert
  split
  next h =>
    have hset : (j, w) ∈ t.entries.map (setValue k v) ↔
        if j = k then w = v else (j, w) ∈ t.entries := by
      obtain ⟨u, hu⟩ := mem_iff_exists.mp h
      simp only [List.mem_map, setValue]
      constructor
      · rintro ⟨⟨a, b⟩, he, hs⟩
        by_cases ha : a = k <;> simp_all
      · intro hw
        by_cases hj : j = k
        · subst j
          exact ⟨(k, u), hu, by simp_all⟩
        · exact ⟨(j, w), by simp_all, by simp [hj]⟩
    rw [hset]
    by_cases hj : j = k
    · simp [hj, eq_comm]
    · simp [hj, get?_eq_some_iff]
  next h =>
    have hn : (k, w) ∉ t.entries := fun he => h (mem_iff_exists.mpr ⟨w, he⟩)
    by_cases hj : j = k
    · subst j
      simp [hn, eq_comm]
    · simp [hj, get?_eq_some_iff]

theorem ofList_concat (l : List (κ × υ)) (k : κ) (v : υ) :
    ofList (l ++ [(k, v)]) = (ofList l).insert k v := by
  simp [ofList]

theorem get?_ofList (l : List (κ × υ)) (k : κ) : (ofList l).get? k = l.reverse.lookup k := by
  induction l using List.reverseRecOn with
  | nil => rfl
  | append_singleton l e ih =>
      obtain ⟨j, v⟩ := e
      rw [ofList_concat, get?_insert, List.reverse_append, List.reverse_singleton,
        List.singleton_append, List.lookup_cons, ih]
      by_cases h : k = j
      · simp [h]
      · rw [if_neg h, beq_eq_false_iff_ne.mpr h]

theorem get?_ofList_eq_some_iff {l : List (κ × υ)} {k : κ} {v : υ} :
    (ofList l).get? k = some v ↔ ∃ l₁ l₂, l = l₁ ++ (k, v) :: l₂ ∧ ∀ e ∈ l₂, e.1 ≠ k := by
  rw [get?_ofList, List.lookup_eq_some_iff]
  constructor
  · rintro ⟨l₁, l₂, hl, hn⟩
    refine ⟨l₂.reverse, l₁.reverse, ?_, ?_⟩
    · rw [← List.reverse_inj, hl]
      simp
    · intro e he hk
      simpa [hk] using hn e (List.mem_reverse.mp he)
  · rintro ⟨l₁, l₂, rfl, hn⟩
    refine ⟨l₂.reverse, l₁.reverse, by simp, ?_⟩
    intro e he
    simpa using Ne.symm (hn e (List.mem_reverse.mp he))

theorem entries_insert_of_mem {t : Table κ υ} {k : κ} (h : k ∈ t) (v : υ) :
    (t.insert k v).entries = t.entries.map (setValue k v) := by
  simp [insert, h]

theorem entries_insert_of_not_mem {t : Table κ υ} {k : κ} (h : k ∉ t) (v : υ) :
    (t.insert k v).entries = t.entries ++ [(k, v)] := by
  simp [insert, h]

theorem keys_insert (t : Table κ υ) (k : κ) (v : υ) :
    (t.insert k v).keys = if k ∈ t then t.keys else t.keys ++ [k] := by
  by_cases h : k ∈ t
  · rw [if_pos h, keys, entries_insert_of_mem h]
    exact map_fst_setValue k v t.entries
  · rw [if_neg h, keys, entries_insert_of_not_mem h, List.map_append]
    rfl

/-- A key has the place at which it is first written, whatever values are written. -/
theorem keys_foldl_insert {α : Type} (key : α → κ) (value : Table κ υ → α → υ) (l : List α) :
    (l.foldl (fun t a => t.insert (key a) (value t a)) (∅ : Table κ υ)).keys =
      (l.map key).eraseDups := by
  induction l using List.reverseRecOn with
  | nil => rfl
  | append_singleton l a ih =>
      generalize ht : l.foldl (fun t a => t.insert (key a) (value t a)) (∅ : Table κ υ) = t at ih
      have hmem : key a ∈ t ↔ key a ∈ l.map key := by
        show key a ∈ t.keys ↔ _
        rw [ih, List.mem_eraseDups]
      rw [List.foldl_append, List.foldl_cons, List.foldl_nil, ht, keys_insert, List.map_append,
        List.eraseDups_append, ← ih]
      by_cases h : key a ∈ t
      · have hold : [key a].removeAll (l.map key) = [] := by
          simpa [List.removeAll] using hmem.mp h
        simp [h, hold]
      · have hnew : [key a].removeAll (l.map key) = [key a] := by
          simpa [List.removeAll] using mt hmem.mpr h
        simp [h, hnew, List.eraseDups_cons]

theorem keys_ofList (l : List (κ × υ)) : (ofList l).keys = (l.map (·.1)).eraseDups :=
  keys_foldl_insert Prod.fst (fun _ e => e.2) l

theorem entries_eq_map_keys (t : Table κ υ) (v : υ) :
    t.entries = t.keys.map fun k => (k, (t.get? k).getD v) := by
  rw [keys, List.map_map]
  refine (List.map_id' _).symm.trans (List.map_congr_left fun e he => ?_)
  rw [Function.comp_apply, get?_eq_some_iff.mpr he, Option.getD_some]

theorem entries_ofList {l : List (κ × υ)} (h : (l.map (·.1)).Nodup) : (ofList l).entries = l := by
  induction l using List.reverseRecOn with
  | nil => rfl
  | append_singleton l e ih =>
      rw [List.map_append, List.nodup_append] at h
      obtain ⟨hl, _, hnew⟩ := h
      have hmem : e.1 ∉ ofList l := by
        intro he
        have hkeys : e.1 ∈ (ofList l).entries.map (·.1) := he
        rw [ih hl] at hkeys
        exact hnew e.1 hkeys e.1 (by simp) rfl
      rw [ofList_concat, entries_insert_of_not_mem hmem, ih hl]

theorem ofList_entries (t : Table κ υ) : ofList t.entries = t :=
  Table.ext (entries_ofList t.nodup_keys)

section MapValues

variable {φ : Type} (f : υ → φ)

theorem get?_mapValues (t : Table κ υ) (k : κ) : (t.mapValues f).get? k = (t.get? k).map f := by
  apply Option.ext
  intro v
  rw [get?_eq_some_iff, Option.map_eq_some_iff]
  simp only [get?_eq_some_iff, mapValues, List.mem_map, Prod.mk.injEq]
  constructor
  · rintro ⟨⟨j, u⟩, hmem, rfl, rfl⟩
    exact ⟨u, hmem, rfl⟩
  · rintro ⟨u, hmem, rfl⟩
    exact ⟨(k, u), hmem, rfl, rfl⟩

theorem mapValues_insert (t : Table κ υ) (k : κ) (v : υ) :
    (t.insert k v).mapValues f = (t.mapValues f).insert k (f v) := by
  have hmem : k ∈ t.mapValues f ↔ k ∈ t := by
    rw [← isSome_get?_iff, ← isSome_get?_iff, get?_mapValues, Option.isSome_map]
  apply Table.ext
  show (t.insert k v).entries.map _ = _
  by_cases h : k ∈ t
  · rw [entries_insert_of_mem h, entries_insert_of_mem (hmem.mpr h), mapValues, List.map_map,
      List.map_map]
    refine List.map_congr_left fun e _ => ?_
    by_cases he : e.1 = k <;> simp [setValue, he]
  · rw [entries_insert_of_not_mem h, entries_insert_of_not_mem (mt hmem.mp h), List.map_append,
      List.map_singleton, mapValues]

theorem mapValues_ofList (l : List (κ × υ)) :
    (ofList l).mapValues f = ofList (l.map fun e => (e.1, f e.2)) := by
  induction l using List.reverseRecOn with
  | nil => rfl
  | append_singleton l e ih =>
      rw [List.map_append, List.map_singleton, ofList_concat, ofList_concat, mapValues_insert, ih]

end MapValues

theorem entries_insertIfNew_of_mem {t : Table κ υ} {k : κ} (h : k ∈ t) (v : υ) :
    t.insertIfNew k v = t := by
  simp [insertIfNew, h]

theorem entries_insertIfNew_of_not_mem {t : Table κ υ} {k : κ} (h : k ∉ t) (v : υ) :
    (t.insertIfNew k v).entries = t.entries ++ [(k, v)] := by
  simp [insertIfNew, h]

theorem mem_insertIfNew {t : Table κ υ} {j k : κ} {v : υ} :
    j ∈ t.insertIfNew k v ↔ j ∈ t ∨ j = k := by
  by_cases h : k ∈ t
  · rw [entries_insertIfNew_of_mem h]
    exact (or_iff_left_of_imp fun hj => hj ▸ h).symm
  · simp only [mem_iff_exists, entries_insertIfNew_of_not_mem h, List.mem_append, List.mem_singleton,
      Prod.mk.injEq, exists_or, exists_and_left, exists_eq, and_true]

/-- Keys that come in together stand behind the old ones, in the order in which they are first named. -/
theorem entries_insertAllNew (t : Table κ υ) (ks : List κ) (v : υ) :
    (t.insertAllNew (ks.map (·, v))).entries =
      t.entries ++ ((ks.filter (· ∉ t)).eraseDups.map (·, v)) := by
  induction ks generalizing t with
  | nil => simp [insertAllNew]
  | cons k ks ih =>
      have hstep : t.insertAllNew ((k :: ks).map (·, v)) =
          (t.insertIfNew k v).insertAllNew (ks.map (·, v)) := rfl
      rw [hstep, ih]
      by_cases h : k ∈ t
      · rw [entries_insertIfNew_of_mem h, List.filter_cons_of_neg (by simpa using h)]
      · have hnew : ks.filter (· ∉ t.insertIfNew k v) = ks.filter fun j => !j == k && (j ∉ t) := by
          apply List.filter_congr
          intro j _
          simp [mem_insertIfNew, Bool.and_comm, beq_eq_decide]
        rw [entries_insertIfNew_of_not_mem h, List.filter_cons_of_pos (by simpa using h),
          List.eraseDups_cons, List.filter_filter, hnew, List.map_cons, List.append_assoc,
          List.singleton_append]

theorem entries_eraseAll (t : Table κ υ) (ks : List κ) :
    (t.eraseAll ks).entries = t.entries.filter (·.1 ∉ ks) := by
  induction ks generalizing t with
  | nil => simp [eraseAll]
  | cons k ks ih =>
      have hstep : t.eraseAll (k :: ks) = (t.erase k).eraseAll ks := rfl
      rw [hstep, ih, erase, filterKeys, List.filter_filter]
      apply List.filter_congr
      intro e _
      simp [Bool.and_comm]

end GLBindings.Table
