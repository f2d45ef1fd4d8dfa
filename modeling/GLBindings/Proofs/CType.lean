import GLBindings.Definitions
import Mathlib.Data.List.TakeWhile

namespace GLBindings

namespace Text

theorem trimChars_append_of_blank {cs ds : List Char} (h : ∀ c ∈ ds, isBlank c = true) :
    trimChars (cs ++ ds) = trimChars cs := by
  have hd : ds.dropWhile isBlank = [] := List.dropWhile_eq_nil_iff.mpr h
  have hr : ds.reverse.dropWhile isBlank = [] := List.dropWhile_eq_nil_iff.mpr (by simpa using h)
  rw [trimChars, trimChars, List.dropWhile_append]
  cases hc : cs.dropWhile isBlank with
  | nil => simp [hd]
  | cons c rest =>
      rw [List.isEmpty_cons, if_neg Bool.false_ne_true, List.reverse_append, List.dropWhile_append, hr]
      rfl

theorem filter_dropWhile (cs : List Char) :
    (cs.dropWhile isBlank).filter (!isBlank ·) = cs.filter (!isBlank ·) := by
  induction cs with
  | nil => rfl
  | cons c cs ih =>
      by_cases hc : isBlank c = true
      · rw [List.dropWhile_cons_of_pos hc, ih, List.filter_cons_of_neg (by simp [hc])]
      · rw [List.dropWhile_cons_of_neg hc]

theorem filter_trimChars (cs : List Char) :
    (trimChars cs).filter (!isBlank ·) = cs.filter (!isBlank ·) := by
  rw [trimChars, List.filter_reverse, filter_dropWhile, List.filter_reverse, filter_dropWhile,
    List.reverse_reverse]

theorem trim?_eq_iff {s t : String} : trim? s = trim? t ↔ trimChars s.toList = trimChars t.toList := by
  constructor
  · intro h
    by_cases hs : trimChars s.toList = [] <;> by_cases ht : trimChars t.toList = []
    · rw [hs, ht]
    · simp [trim?, hs, ht] at h
    · simp [trim?, hs, ht] at h
    · have hlist := congrArg (Option.map String.toList) h
      simpa [trim?, trim, hs, ht] using hlist
  · intro h
    rw [trim?, trim?, trim, trim, h]

theorem trim?_append_eq_iff {s t : String} :
    trim? s = trim? (s ++ t) ↔ ∀ c ∈ t.toList, isBlank c = true := by
  rw [trim?_eq_iff, String.toList_append]
  constructor
  · intro h c hc
    have hkept := congrArg (List.filter (!isBlank ·)) h
    rw [filter_trimChars, filter_trimChars, List.filter_append, List.self_eq_append_right] at hkept
    simpa using List.filter_eq_nil_iff.mp hkept c hc
  · intro h
    exact (trimChars_append_of_blank h).symm

end Text

namespace CType

def withoutBack (c : CType) : CType := { c with backModifiers := none }

theorem textOf_append (l m : List Fragment) : textOf (l ++ m) = textOf l ++ textOf m := by
  simp [textOf]

theorem textOf_parted (before after : List Fragment) (t u : String) :
    textOf (before ++ .text t :: .text u :: after) = textOf (before ++ .text (t ++ u) :: after) := by
  rw [textOf_append, textOf_append]
  simp [textOf, Fragment.content, String.append_assoc]

theorem splitAtPlatformType_eq_some_iff {l before after : List Fragment} {n : String} :
    splitAtPlatformType l = some (before, n, after) ↔
      l = before ++ .platformType n :: after ∧ ∀ m, .platformType m ∉ before := by
  induction l generalizing before with
  | nil => simp [splitAtPlatformType]
  | cons f l ih =>
      cases f with
      | platformType s =>
          rw [splitAtPlatformType]
          constructor
          · intro h
            cases h
            exact ⟨rfl, by simp⟩
          · rintro ⟨hl, hbefore⟩
            rcases List.cons_eq_append_iff.mp hl with ⟨rfl, hl⟩ | ⟨front, rfl, -⟩
            · cases hl
              rfl
            · exact absurd List.mem_cons_self (hbefore s)
      | text s | name s =>
          simp only [splitAtPlatformType, Option.map_eq_some_iff]
          constructor
          · rintro ⟨⟨front, n, back⟩, hl, h⟩
            cases h
            obtain ⟨rfl, hfront⟩ := ih.mp hl
            exact ⟨rfl, by simpa using hfront⟩
          · rintro ⟨hl, hbefore⟩
            rcases List.cons_eq_append_iff.mp hl with ⟨-, hl⟩ | ⟨front, rfl, rfl⟩
            · cases hl
            · exact ⟨_, ih.mpr ⟨rfl, by simpa using hbefore⟩, rfl⟩

theorem splitAtPlatformType_append {l before after : List Fragment} {n : String}
    (h : splitAtPlatformType l = some (before, n, after)) (m : List Fragment) :
    splitAtPlatformType (l ++ m) = some (before, n, after ++ m) := by
  obtain ⟨rfl, hbefore⟩ := splitAtPlatformType_eq_some_iff.mp h
  exact splitAtPlatformType_eq_some_iff.mpr ⟨by simp, hbefore⟩

theorem splitAtPlatformType_append_of_none {l : List Fragment} (h : splitAtPlatformType l = none)
    (m : List Fragment) :
    splitAtPlatformType (l ++ m) = (splitAtPlatformType m).map fun p => (l ++ p.1, p.2) := by
  induction l with
  | nil => simp
  | cons f l ih =>
      cases f with
      | platformType n => cases h
      | text s | name s =>
          simp only [splitAtPlatformType, Option.map_eq_none_iff] at h
          simp only [List.cons_append, splitAtPlatformType, ih h, Option.map_map]
          rfl

theorem ofDeclaration_of_some {d : Declaration} {before after : List Fragment} {n : String}
    (h : splitAtPlatformType (d.fragments.filter (·.name?.isNone)) = some (before, n, after)) :
    ofDeclaration d = {
      lowLevel := Text.trim n
      highLevel := d.group.getD (Text.trim n)
      frontModifiers := Text.trim? (textOf before)
      backModifiers := (leadingText? after).bind Text.trim? } := by
  simp only [ofDeclaration, h]

theorem ofDeclaration_of_none {d : Declaration}
    (h : splitAtPlatformType (d.fragments.filter (·.name?.isNone)) = none) :
    ofDeclaration d =
      let low := Text.trim (textOf (d.fragments.filter (·.name?.isNone)))
      { lowLevel := low, highLevel := d.group.getD low, frontModifiers := none,
        backModifiers := none } := by
  simp only [ofDeclaration, h]

theorem filter_text (before after : List Fragment) (s : String) :
    (before ++ .text s :: after).filter (·.name?.isNone) =
      before.filter (·.name?.isNone) ++ .text s :: after.filter (·.name?.isNone) := by
  rw [List.filter_append, List.filter_cons_of_pos rfl]

theorem filter_texts (before after : List Fragment) (s t : String) :
    (before ++ .text s :: .text t :: after).filter (·.name?.isNone) =
      before.filter (·.name?.isNone) ++ .text s :: .text t :: after.filter (·.name?.isNone) := by
  rw [filter_text, List.filter_cons_of_pos rfl]

end CType

/-- The second declaration is the first one, perhaps with one of its texts in two parts. -/
inductive Declaration.Parted : Declaration → Declaration → Prop
  | same (d : Declaration) : Parted d d
  | text (group : Option String) (before after : List Fragment) (t u : String) :
      Parted ⟨group, before ++ .text (t ++ u) :: after⟩ ⟨group, before ++ .text t :: .text u :: after⟩

/-- Of these fragments, names apart, the last one is a platform type, and no other one is. -/
def EndsInPlatformType (fs : List Fragment) : Prop :=
  ∃ front n, fs.filter (·.name?.isNone) = front ++ [.platformType n] ∧ ∀ m, .platformType m ∉ front

/-- The text that is in two parts comes right behind the first platform type, and not all of its
second part is blank. -/
inductive Declaration.CutShort : Declaration → Declaration → Prop
  | text (group : Option String) {before : List Fragment} (after : List Fragment) (t : String)
      {u : String} (hbefore : EndsInPlatformType before) (hu : ¬ ∀ c ∈ u.toList, Text.isBlank c = true) :
      CutShort ⟨group, before ++ .text (t ++ u) :: after⟩ ⟨group, before ++ .text t :: .text u :: after⟩

namespace CType

section Parted

variable (group : Option String) {before : List Fragment} (after : List Fragment) (t u : String)

theorem ofDeclaration_parted_of_ends (h : EndsInPlatformType before) :
    (ofDeclaration ⟨group, before ++ .text (t ++ u) :: after⟩).backModifiers = Text.trim? (t ++ u) ∧
      ofDeclaration ⟨group, before ++ .text t :: .text u :: after⟩ =
        { ofDeclaration ⟨group, before ++ .text (t ++ u) :: after⟩ with
          backModifiers := Text.trim? t } := by
  obtain ⟨front, n, hfilter, hfront⟩ := h
  have hsplit := splitAtPlatformType_eq_some_iff.mpr ⟨hfilter, hfront⟩
  have hwhole : splitAtPlatformType ((before ++ .text (t ++ u) :: after).filter (·.name?.isNone)) =
      some (front, n, .text (t ++ u) :: after.filter (·.name?.isNone)) := by
    rw [filter_text]
    exact splitAtPlatformType_append hsplit _
  have hparts : splitAtPlatformType
      ((before ++ .text t :: .text u :: after).filter (·.name?.isNone)) =
      some (front, n, .text t :: .text u :: after.filter (·.name?.isNone)) := by
    rw [filter_texts]
    exact splitAtPlatformType_append hsplit _
  rw [ofDeclaration_of_some hwhole, ofDeclaration_of_some hparts]
  exact ⟨rfl, rfl⟩

theorem ofDeclaration_parted_of_behind {front back : List Fragment} {f : Fragment} {n : String}
    (h : splitAtPlatformType (before.filter (·.name?.isNone)) = some (front, n, f :: back)) :
    ofDeclaration ⟨group, before ++ .text t :: .text u :: after⟩ =
      ofDeclaration ⟨group, before ++ .text (t ++ u) :: after⟩ := by
  -- Of what stands behind the platform type, the type has only the fragment `f`.
  have hwhole : splitAtPlatformType ((before ++ .text (t ++ u) :: after).filter (·.name?.isNone)) =
      some (front, n, f :: (back ++ .text (t ++ u) :: after.filter (·.name?.isNone))) := by
    rw [filter_text]
    exact splitAtPlatformType_append h _
  have hparts : splitAtPlatformType
      ((before ++ .text t :: .text u :: after).filter (·.name?.isNone)) =
      some (front, n, f :: (back ++ .text t :: .text u :: after.filter (·.name?.isNone))) := by
    rw [filter_texts]
    exact splitAtPlatformType_append h _
  rw [ofDeclaration_of_some hparts, ofDeclaration_of_some hwhole]
  cases f <;> rfl

/-- In front of the platform type, or without one, all of the text counts. -/
theorem ofDeclaration_parted_of_front
    (h : splitAtPlatformType (before.filter (·.name?.isNone)) = none) :
    ofDeclaration ⟨group, before ++ .text t :: .text u :: after⟩ =
      ofDeclaration ⟨group, before ++ .text (t ++ u) :: after⟩ := by
  have hwhole := splitAtPlatformType_append_of_none h
    (.text (t ++ u) :: after.filter (·.name?.isNone))
  have hparts := splitAtPlatformType_append_of_none h
    (.text t :: .text u :: after.filter (·.name?.isNone))
  rw [← filter_text] at hwhole
  rw [← filter_texts] at hparts
  simp only [splitAtPlatformType, Option.map_map] at hwhole hparts
  cases hafter : splitAtPlatformType (after.filter (·.name?.isNone)) with
  | none =>
      rw [hafter] at hwhole hparts
      have htext : textOf ((before ++ .text t :: .text u :: after).filter (·.name?.isNone)) =
          textOf ((before ++ .text (t ++ u) :: after).filter (·.name?.isNone)) := by
        rw [filter_texts, filter_text, textOf_parted]
      rw [ofDeclaration_of_none hparts, ofDeclaration_of_none hwhole]
      simp only [htext]
  | some p =>
      rw [hafter] at hwhole hparts
      rw [ofDeclaration_of_some hparts, ofDeclaration_of_some hwhole]
      simp only [Function.comp_apply, textOf_parted]

theorem ofDeclaration_parted_of_not_ends (h : ¬ EndsInPlatformType before) :
    ofDeclaration ⟨group, before ++ .text t :: .text u :: after⟩ =
      ofDeclaration ⟨group, before ++ .text (t ++ u) :: after⟩ := by
  rcases hsplit : splitAtPlatformType (before.filter (·.name?.isNone)) with
    _ | ⟨front, n, _ | ⟨f, back⟩⟩
  · exact ofDeclaration_parted_of_front group after t u hsplit
  · exact absurd ⟨front, n, splitAtPlatformType_eq_some_iff.mp hsplit⟩ h
  · exact ofDeclaration_parted_of_behind group after t u hsplit

end Parted

variable {d d' : Declaration}

theorem withoutBack_ofDeclaration (h : d.Parted d') :
    (ofDeclaration d').withoutBack = (ofDeclaration d).withoutBack := by
  cases h with
  | same => rfl
  | text group before after t u =>
      by_cases hends : EndsInPlatformType before
      · rw [(ofDeclaration_parted_of_ends group after t u hends).2]
        rfl
      · rw [ofDeclaration_parted_of_not_ends group after t u hends]

/-- Only a text that is cut short changes the type. -/
theorem ofDeclaration_eq_iff (h : d.Parted d') :
    ofDeclaration d' = ofDeclaration d ↔ ¬ d.CutShort d' := by
  constructor
  · rintro heq ⟨group, after, t, hbefore, hu⟩
    obtain ⟨hwhole, hparts⟩ := ofDeclaration_parted_of_ends group after t _ hbefore
    rw [hparts] at heq
    have hback := congrArg backModifiers heq
    exact hu (Text.trim?_append_eq_iff.mp (hback.trans hwhole))
  · intro hwhole
    cases h with
    | same => rfl
    | text group before after t u =>
        by_cases hends : EndsInPlatformType before
        · have hu : ∀ c ∈ u.toList, Text.isBlank c = true := by
            by_contra hu
            exact hwhole (.text group after t hends hu)
          obtain ⟨hback, hparts⟩ := ofDeclaration_parted_of_ends group after t u hends
          rw [hparts, Text.trim?_append_eq_iff.mpr hu, ← hback]
        · exact ofDeclaration_parted_of_not_ends group after t u hends

end CType

end GLBindings
