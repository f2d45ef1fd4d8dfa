namespace GLBindings

/-- A finite map with its keys in order of first insertion. -/
@[ext] structure Table (κ υ : Type) where
  entries : List (κ × υ)
  nodup_keys : (entries.map (·.1)).Nodup

namespace Table

variable {κ υ : Type}

instance : EmptyCollection (Table κ υ) := ⟨⟨[], by simp⟩⟩

instance : Inhabited (Table κ υ) := ⟨∅⟩

instance [DecidableEq κ] [DecidableEq υ] : DecidableEq (Table κ υ) := fun s t =>
  decidable_of_iff (s.entries = t.entries) Table.ext_iff.symm

def keys (t : Table κ υ) : List κ := t.entries.map (·.1)

def values (t : Table κ υ) : List υ := t.entries.map (·.2)

def isEmpty (t : Table κ υ) : Bool := t.entries.isEmpty

instance : Membership κ (Table κ υ) := ⟨fun t k => k ∈ t.keys⟩

theorem nodup_append_new {t : Table κ υ} {k : κ} (h : k ∉ t) (v : υ) :
    ((t.entries ++ [(k, v)]).map (·.1)).Nodup := by
  have hk : k ∉ t.entries.map (·.1) := h
  rw [List.map_append, List.nodup_append]
  refine ⟨t.nodup_keys, by simp, ?_⟩
  intro a ha b hb
  simp only [List.map_cons, List.map_nil, List.mem_singleton] at hb
  subst hb
  intro hab
  exact hk (hab ▸ ha)

def filterKeys (t : Table κ υ) (p : κ → Bool) : Table κ υ :=
  ⟨t.entries.filter fun e => p e.1,
    List.Sublist.nodup (List.filter_sublist.map _) t.nodup_keys⟩

variable [DecidableEq κ]

theorem any_entries_iff {k : κ} {t : Table κ υ} : (t.entries.any fun e => e.1 = k) = true ↔ k ∈ t := by
  show _ ↔ k ∈ t.entries.map (·.1)
  simp

instance (k : κ) (t : Table κ υ) : Decidable (k ∈ t) := decidable_of_iff _ any_entries_iff

def get? (t : Table κ υ) (k : κ) : Option υ := t.entries.lookup k

def insertIfNew (t : Table κ υ) (k : κ) (v : υ) : Table κ υ :=
  if h : k ∈ t then t else ⟨t.entries ++ [(k, v)], nodup_append_new h v⟩

def setValue (k : κ) (v : υ) (e : κ × υ) : κ × υ := if e.1 = k then (e.1, v) else e

theorem fst_setValue (k : κ) (v : υ) (e : κ × υ) : (setValue k v e).1 = e.1 := by
  unfold setValue
  split <;> rfl

theorem map_fst_setValue (k : κ) (v : υ) (l : List (κ × υ)) :
    (l.map (setValue k v)).map (·.1) = l.map (·.1) := by
  rw [List.map_map]
  exact List.map_congr_left fun e _ => fst_setValue k v e

def insert (t : Table κ υ) (k : κ) (v : υ) : Table κ υ :=
  if h : k ∈ t then ⟨t.entries.map (setValue k v), map_fst_setValue k v t.entries ▸ t.nodup_keys⟩
  else ⟨t.entries ++ [(k, v)], nodup_append_new h v⟩

def erase (t : Table κ υ) (k : κ) : Table κ υ := t.filterKeys (· ≠ k)

def insertAllNew (t : Table κ υ) (l : List (κ × υ)) : Table κ υ :=
  l.foldl (fun t e => t.insertIfNew e.1 e.2) t

def eraseAll (t : Table κ υ) (l : List κ) : Table κ υ := l.foldl erase t

/-- Inserts from left to right, so a repeated key keeps its first place and its last value. -/
def ofList (l : List (κ × υ)) : Table κ υ := l.foldl (fun t e => t.insert e.1 e.2) ∅

/-- The entries of both tables: where both have a key, `t` decides place and value. -/
def extend (t u : Table κ υ) : Table κ υ := t.insertAllNew u.entries

end Table

end GLBindings
