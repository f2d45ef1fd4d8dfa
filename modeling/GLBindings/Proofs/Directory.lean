import GLBindings.Directory
import GLBindings.Proofs.Success
import GLBindings.Proofs.Table

namespace GLBindings.Directory

/-- The path leads to the place, over directories only. -/
def Leads (d : Directory) (home : List String) (path : String) (place : List String) : Prop :=
  ∃ p, FilePath.ofString? path = some p ∧ d.locate home p = .ok place

def KeptIn (d d' : Directory) : Prop := ∀ q x, d.get? q = some x → d'.get? q = some x

variable {d d' : Directory} {home place q : List String} {path : String} {bytes : List UInt8}

theorem get?_insert_self (e : Entry) : get? (d.insert place e) place = some e := by
  simp only [get?, insert, Table.get?_insert, if_true]

theorem keys_subset_insert (e : Entry) : d.entries.keys ⊆ (d.insert place e).entries.keys := by
  rw [insert, Table.keys_insert]
  split
  · exact List.Subset.refl _
  · exact List.subset_append_left _ _

theorem get?_insert_of_ne (e : Entry) {x : Entry} (hne : q ≠ place) (h : d.get? q = some x) :
    get? (d.insert place e) q = some x := by
  have hget : (d.insert place e).entries.get? q = d.entries.get? q :=
    (Table.get?_insert ..).trans (if_neg hne)
  rw [get?] at h ⊢
  rw [hget]
  cases hq : d.entries.get? q with
  | some y =>
      rw [hq] at h
      exact h
  | none =>
      simp only [hq] at h ⊢
      split at h
      next himplied =>
        have himplied' : q = [] ∨ (d.insert place e).entries.keys.any q.isPrefixOf := by
          refine himplied.imp_right fun hany => ?_
          obtain ⟨k, hk, hprefix⟩ := List.any_eq_true.mp hany
          exact List.any_eq_true.mpr ⟨k, keys_subset_insert e hk, hprefix⟩
        rw [if_pos himplied', h]
      next => cases h

theorem keptIn_insert (e : Entry) (h : d.get? place = none) : d.KeptIn (d.insert place e) := by
  intro q x hq
  apply get?_insert_of_ne e ?_ hq
  rintro rfl
  cases h.symm.trans hq

theorem KeptIn.trans {d'' : Directory} (h : d.KeptIn d') (h' : d'.KeptIn d'') : d.KeptIn d'' :=
  fun q x hq => h' q x (h q x hq)

/-- Directories are made only where there is nothing. -/
theorem keptIn_makeAlong (d : Directory) (place : List String) (made : Bool) (parts : List String) :
    d.KeptIn (d.makeAlong place made parts).2 := by
  induction parts generalizing d place made with
  | nil => exact fun _ _ hq => hq
  | cons part rest ih =>
      rw [makeAlong]
      split
      next hnone => exact (keptIn_insert _ hnone).trans (ih _ _ _)
      next => exact ih _ _ _
      next => exact fun _ _ hq => hq

theorem walk_of_directories {parts : List String}
    (hdirs : ∀ q, d.get? q = some .directory → d'.get? q = some .directory)
    {start : List String} (h : d.walk start parts = .ok place) : d'.walk start parts = .ok place := by
  induction parts generalizing start with
  | nil => exact h
  | cons part rest ih =>
      rw [walk] at h
      split at h
      next => cases h
      next => cases h
      next hdir =>
        rw [walk, hdirs start hdir]
        exact ih h

theorem Leads.of_directories
    (hdirs : ∀ q, d.get? q = some .directory → d'.get? q = some .directory)
    (h : d.Leads home path place) : d'.Leads home path place := by
  obtain ⟨p, hp, hplace⟩ := h
  exact ⟨p, hp, walk_of_directories hdirs hplace⟩

theorem read_eq_ok_iff : d.read home path = .ok bytes ↔
    ∃ place, d.Leads home path place ∧ d.get? place = some (.file bytes) := by
  unfold read Leads
  cases hp : FilePath.ofString? path with
  | none => simp [throw, throwThe, MonadExceptOf.throw]
  | some p =>
      simp only [Option.some.injEq, exists_eq_left']
      rw [Success.bind_eq_ok_iff]
      refine exists_congr fun place => and_congr_right fun _ => ?_
      split
      next b hb => simp [pure, Except.pure, hb]
      next hb => simp [throw, throwThe, MonadExceptOf.throw, hb]
      next hb => simp [throw, throwThe, MonadExceptOf.throw, hb]

theorem locate_of_target {p : FilePath} (h : d.target home p = .ok place) :
    d.locate home p = .ok place ∧ d.get? place ≠ some .directory := by
  rw [target] at h
  split at h
  next => cases h
  obtain ⟨q, hq, h⟩ := Success.bind_eq_ok_iff.mp h
  split at h
  next => cases h
  next hentry =>
    cases h
    exact ⟨hq, hentry⟩

/-- Either no file is put anywhere, or it is put where the path leads once the directories above it
are made. -/
theorem create_cases (d : Directory) (home : List String) (path : String) (bytes : List UInt8) :
    ∃ made, d.KeptIn made ∧
      ((∃ e, d.create home path bytes = (.error e, made)) ∨
        ∃ place, made.Leads home path place ∧ made.get? place ≠ some .directory ∧
          d.create home path bytes = (.ok (), made.insert place (.file bytes))) := by
  have hself : d.KeptIn d := fun _ _ hq => hq
  rw [create]
  cases hp : FilePath.ofString? path with
  | none => exact ⟨d, hself, .inl ⟨_, rfl⟩⟩
  | some p =>
      dsimp only
      split
      next => exact ⟨d, hself, .inl ⟨_, rfl⟩⟩
      have hkept := keptIn_makeAlong d (p.start home) false p.parent
      generalize d.makeAlong (p.start home) false p.parent = x at hkept ⊢
      rcases x with ⟨e | _, made⟩
      · exact ⟨made, hkept, .inl ⟨e, rfl⟩⟩
      refine ⟨made, hkept, ?_⟩
      dsimp only
      cases htarget : made.target home p with
      | error e => exact .inl ⟨e, rfl⟩
      | ok place =>
          obtain ⟨hplace, hentry⟩ := locate_of_target htarget
          exact .inr ⟨place, ⟨p, hp, hplace⟩, hentry, rfl⟩

/-- The new file stands where its path leads. It is in the way of no directory, and of no file but
the one that it replaces. -/
structure Placed (d d' : Directory) (home : List String) (path : String) (bytes : List UInt8)
    (place : List String) : Prop where
  leads : d'.Leads home path place
  file : d'.get? place = some (.file bytes)
  directories : ∀ q, d.get? q = some .directory → d'.get? q = some .directory
  others : ∀ q, q ≠ place → ∀ x, d.get? q = some x → d'.get? q = some x

theorem exists_placed_of_create (h : d.create home path bytes = (.ok (), d')) :
    ∃ place, Placed d d' home path bytes place := by
  obtain ⟨made, hkept, ⟨e, he⟩ | ⟨place, hleads, hentry, hcreate⟩⟩ := create_cases d home path bytes
  · cases h.symm.trans he
  cases h.symm.trans hcreate
  have hdirs (q : List String) (hq : made.get? q = some .directory) :
      get? (made.insert place (.file bytes)) q = some .directory := by
    apply get?_insert_of_ne _ _ hq
    rintro rfl
    exact hentry hq
  exact ⟨place, hleads.of_directories hdirs, get?_insert_self _,
    fun q hq => hdirs q (hkept q _ hq), fun q hne x hq => get?_insert_of_ne _ hne (hkept q x hq)⟩

theorem keptIn_of_create_error {e : FileFault} (h : d.create home path bytes = (.error e, d')) :
    d.KeptIn d' := by
  obtain ⟨made, hkept, ⟨e, he⟩ | ⟨place, -, -, hcreate⟩⟩ := create_cases d home path bytes
  · cases h.symm.trans he
    exact hkept
  · cases h.symm.trans hcreate

theorem read_of_create (h : d.create home path bytes = (.ok (), d')) :
    d'.read home path = .ok bytes := by
  obtain ⟨place, hplaced⟩ := exists_placed_of_create h
  exact read_eq_ok_iff.mpr ⟨place, hplaced.leads, hplaced.file⟩

theorem read_other_of_create {x : Except FileFault Unit} {other : String} {content : List UInt8}
    (h : d.create home path bytes = (x, d')) (hother : d.read home other = .ok content) :
    d'.read home other = .ok content ∨
      ∃ place, d'.Leads home path place ∧ d'.Leads home other place := by
  obtain ⟨q, hq, hfile⟩ := read_eq_ok_iff.mp hother
  cases x with
  | error e =>
      -- Directories may have been made, but whatever was there still is.
      have hkept := keptIn_of_create_error h
      exact .inl (read_eq_ok_iff.mpr ⟨q, hq.of_directories fun r => hkept r _, hkept q _ hfile⟩)
  | ok _ =>
      obtain ⟨place, hplaced⟩ := exists_placed_of_create h
      have hleads := hq.of_directories hplaced.directories
      by_cases hsame : q = place
      · subst hsame
        exact .inr ⟨q, hplaced.leads, hleads⟩
      · exact .inl (read_eq_ok_iff.mpr ⟨q, hleads, hplaced.others q hsame _ hfile⟩)

end GLBindings.Directory
