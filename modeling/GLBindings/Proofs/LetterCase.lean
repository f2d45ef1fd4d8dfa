import GLBindings.Text.Letter
import GLBindings.Text.LetterCase
import Mathlib.Data.List.Basic
import Mathlib.Tactic.MkIffOfInductiveProp

namespace GLBindings.Text

def IsAscii (c : Char) : Prop := c.toNat < 128

instance (c : Char) : Decidable (IsAscii c) := inferInstanceAs (Decidable (_ < _))

theorem IsAscii.of_forall {p : Char → Prop} (h : ∀ n < 128, p (Char.ofNat n)) {c : Char}
    (hc : IsAscii c) : p c := by
  rw [← Char.ofNat_toNat c]
  exact h c.toNat hc

/-- What the mappings of letters do in ASCII. -/
@[mk_iff]
structure CaseLaws (c : Char) : Prop where
  toLower : IsAscii c.toLower
  toUpper : IsAscii c.toUpper
  isUpper_toLower : c.toLower.isUpper = false
  isLower_toUpper : c.toUpper.isLower = false
  isUpper_toUpper : c.isLower = true → c.toUpper.isUpper = true
  toLower_ne_underscore : c ≠ '_' → c.toLower ≠ '_'
  toUpper_ne_underscore : c ≠ '_' → c.toUpper ≠ '_'
  toLower_toLower : c.toLower.toLower = c.toLower
  toLower_toUpper : c.toUpper.toLower = c.toLower
  toUpper_toLower : c.toLower.toUpper = c.toUpper

instance (c : Char) : Decidable (CaseLaws c) := decidable_of_iff _ (caseLaws_iff c).symm

section Tables

variable {c : Char} {r : Run} {runs : List Run} {s : Shift} {shifts : List Shift}
  {expansions : List (Nat × List Nat)}

theorem Run.not_contains_of_ascii (hr : 128 ≤ r.first) (h : IsAscii c) :
    r.contains c.toNat = false := by
  have hlt : ¬ r.first ≤ c.toNat := Nat.not_le.mpr (Nat.lt_of_lt_of_le h hr)
  simp [Run.contains, hlt]

/-- Only the first run of the table reaches into ASCII. -/
theorem inRuns_of_ascii (hruns : ∀ t ∈ runs, 128 ≤ t.first) (h : IsAscii c) :
    inRuns (r :: runs) c = r.contains c.toNat := by
  have hnone : runs.any (·.contains c.toNat) = false := by
    simp only [List.any_eq_false, Bool.not_eq_true]
    exact fun t ht => Run.not_contains_of_ascii (hruns t ht) h
  rw [inRuns, List.any_cons, hnone, Bool.or_false]

theorem mapChar_of_ascii (hshifts : ∀ t ∈ shifts, 128 ≤ t.run.first)
    (hexpansions : ∀ e ∈ expansions, 128 ≤ e.1) (h : IsAscii c) :
    mapChar (s :: shifts) expansions c =
      [if s.run.contains c.toNat then Char.ofNat (c.toNat + s.offset).toNat else c] := by
  have hexpansion : expansions.lookup c.toNat = none := by
    refine List.lookup_eq_none_iff.mpr fun e he => ?_
    have hlt := Nat.lt_of_lt_of_le h (hexpansions e he)
    simpa using Nat.ne_of_lt hlt
  have hshift : shifts.find? (·.run.contains c.toNat) = none := by
    refine List.find?_eq_none.mpr fun t ht => ?_
    simp [Run.not_contains_of_ascii (hshifts t ht) h]
  rw [mapChar, hexpansion, List.find?_cons, hshift]
  cases s.run.contains c.toNat <;> rfl

end Tables

namespace IsAscii

variable {c : Char} (h : IsAscii c)

include h

theorem isUpper_eq : isUpper c = c.isUpper := by
  have hfirst : isUpper c = Run.contains ⟨0x41, 0x5A, 1⟩ c.toNat :=
    inRuns_of_ascii (by decide +kernel) h
  rw [hfirst]
  exact of_forall (p := fun c => Run.contains ⟨0x41, 0x5A, 1⟩ c.toNat = c.isUpper)
    (by decide +kernel) h

theorem isLower_eq : isLower c = c.isLower := by
  have hfirst : isLower c = Run.contains ⟨0x61, 0x7A, 1⟩ c.toNat :=
    inRuns_of_ascii (by decide +kernel) h
  rw [hfirst]
  exact of_forall (p := fun c => Run.contains ⟨0x61, 0x7A, 1⟩ c.toNat = c.isLower)
    (by decide +kernel) h

theorem upperChar_eq : upperChar c = [c.toUpper] := by
  have hfirst : upperChar c = [if Run.contains ⟨0x61, 0x7A, 1⟩ c.toNat then
      Char.ofNat (c.toNat + (-32 : Int)).toNat else c] :=
    mapChar_of_ascii (by decide +kernel) (by decide +kernel) h
  rw [hfirst]
  exact of_forall (p := fun c => [if Run.contains ⟨0x61, 0x7A, 1⟩ c.toNat then
    Char.ofNat (c.toNat + (-32 : Int)).toNat else c] = [c.toUpper]) (by decide +kernel) h

theorem lowerChar_eq : lowerChar c = [c.toLower] := by
  have hfirst : lowerChar c = [if Run.contains ⟨0x41, 0x5A, 1⟩ c.toNat then
      Char.ofNat (c.toNat + (32 : Int)).toNat else c] :=
    mapChar_of_ascii (by decide +kernel) (by decide +kernel) h
  rw [hfirst]
  exact of_forall (p := fun c => [if Run.contains ⟨0x41, 0x5A, 1⟩ c.toNat then
    Char.ofNat (c.toNat + (32 : Int)).toNat else c] = [c.toLower]) (by decide +kernel) h

theorem caseLaws : CaseLaws c := of_forall (by decide +kernel) h

theorem isUpper_toLower : isUpper c.toLower = false := by
  rw [h.caseLaws.toLower.isUpper_eq]
  exact h.caseLaws.isUpper_toLower

theorem isLower_toUpper : isLower c.toUpper = false := by
  rw [h.caseLaws.toUpper.isLower_eq]
  exact h.caseLaws.isLower_toUpper

theorem isUpper_toUpper (hlower : c.isLower = true) : isUpper c.toUpper = true := by
  rw [h.caseLaws.toUpper.isUpper_eq]
  exact h.caseLaws.isUpper_toUpper hlower

end IsAscii

theorem isAscii_of_isUpper {c : Char} (h : c.isUpper = true) : IsAscii c := by
  have hle := (of_decide_eq_true h).2
  exact Nat.lt_of_le_of_lt hle (by decide)

theorem isAscii_of_isLower {c : Char} (h : c.isLower = true) : IsAscii c := by
  have hle := of_decide_eq_true (Bool.and_eq_true_iff.mp h).2
  exact Nat.lt_of_le_of_lt hle (by decide)

theorem isAscii_of_isDigit {c : Char} (h : c.isDigit = true) : IsAscii c := by
  have hle := of_decide_eq_true (Bool.and_eq_true_iff.mp h).2
  exact Nat.lt_of_le_of_lt hle (by decide)

def IsSmall (c : Char) : Prop := c.isLower = true ∨ c.isDigit = true

def IsCapital (c : Char) : Prop := c.isUpper = true ∨ c.isDigit = true

instance (c : Char) : Decidable (IsSmall c) := inferInstanceAs (Decidable (_ ∨ _))

instance (c : Char) : Decidable (IsCapital c) := inferInstanceAs (Decidable (_ ∨ _))

namespace IsSmall

variable {c : Char} (h : IsSmall c)

include h

theorem isAscii : IsAscii c := h.elim isAscii_of_isLower isAscii_of_isDigit

theorem ne_underscore : c ≠ '_' := by
  rintro rfl
  exact absurd h (by decide)

theorem toLower_eq : c.toLower = c :=
  IsAscii.of_forall (p := fun c => IsSmall c → c.toLower = c) (by decide +kernel) h.isAscii h

theorem isUpper_eq_false : isUpper c = false := by
  rw [← h.toLower_eq]
  exact h.isAscii.isUpper_toLower

end IsSmall

namespace IsCapital

variable {c : Char} (h : IsCapital c)

include h

theorem isAscii : IsAscii c := h.elim isAscii_of_isUpper isAscii_of_isDigit

theorem ne_underscore : c ≠ '_' := by
  rintro rfl
  exact absurd h (by decide)

theorem toUpper_eq : c.toUpper = c :=
  IsAscii.of_forall (p := fun c => IsCapital c → c.toUpper = c) (by decide +kernel) h.isAscii h

theorem isLower_eq_false : isLower c = false := by
  rw [← h.toUpper_eq]
  exact h.isAscii.isLower_toUpper

end IsCapital

section Word

variable {w : List Char} (h : ∀ c ∈ w, IsAscii c)

include h

theorem lowerFrom_eq_map (before : List Char) : lowerFrom before w = w.map Char.toLower := by
  induction w generalizing before with
  | nil => rfl
  | cons c w ih =>
      obtain ⟨hc, hw⟩ := List.forall_mem_cons.mp h
      have hsigma : c ≠ 'Σ' := by
        rintro rfl
        exact absurd hc (by decide)
      rw [lowerFrom, ih hw, hc.lowerChar_eq]
      simp [hsigma]

theorem lower_eq_map : lower w = w.map Char.toLower := lowerFrom_eq_map h []

theorem upper_eq_map : upper w = w.map Char.toUpper := by
  rw [upper, List.flatMap_congr fun c hc => (h c hc).upperChar_eq, List.map_eq_flatMap]

theorem capitalize_eq : capitalize w = (w.head?.map Char.toUpper).toList ++ w.tail.map Char.toLower := by
  cases w with
  | nil => rfl
  | cons c w =>
      obtain ⟨hc, hw⟩ := List.forall_mem_cons.mp h
      rw [capitalize, hc.upperChar_eq, lower_eq_map hw]
      rfl

theorem isAscii_map_toLower : ∀ c ∈ w.map Char.toLower, IsAscii c :=
  List.forall_mem_map.mpr fun c hc => (h c hc).caseLaws.toLower

theorem isAscii_lower : ∀ c ∈ lower w, IsAscii c := by
  rw [lower_eq_map h]
  exact isAscii_map_toLower h

theorem isAscii_upper : ∀ c ∈ upper w, IsAscii c := by
  rw [upper_eq_map h]
  exact List.forall_mem_map.mpr fun c hc => (h c hc).caseLaws.toUpper

theorem isAscii_capitalize : ∀ c ∈ capitalize w, IsAscii c := by
  cases w with
  | nil => simp [capitalize]
  | cons c w =>
      obtain ⟨hc, hw⟩ := List.forall_mem_cons.mp h
      rw [capitalize, hc.upperChar_eq, List.singleton_append, List.forall_mem_cons]
      exact ⟨hc.caseLaws.toUpper, isAscii_lower hw⟩

theorem map_toLower_toLower : (w.map Char.toLower).map Char.toLower = w.map Char.toLower := by
  rw [List.map_map]
  exact List.map_congr_left fun c hc => (h c hc).caseLaws.toLower_toLower

theorem map_toUpper_toLower : (w.map Char.toLower).map Char.toUpper = w.map Char.toUpper := by
  rw [List.map_map]
  exact List.map_congr_left fun c hc => (h c hc).caseLaws.toUpper_toLower

theorem lower_map_toLower : lower (w.map Char.toLower) = lower w := by
  rw [lower_eq_map (isAscii_map_toLower h), lower_eq_map h, map_toLower_toLower h]

theorem upper_map_toLower : upper (w.map Char.toLower) = upper w := by
  rw [upper_eq_map (isAscii_map_toLower h), upper_eq_map h, map_toUpper_toLower h]

theorem capitalize_map_toLower : capitalize (w.map Char.toLower) = capitalize w := by
  rw [capitalize_eq (isAscii_map_toLower h), capitalize_eq h]
  cases w with
  | nil => rfl
  | cons c w =>
      obtain ⟨hc, hw⟩ := List.forall_mem_cons.mp h
      have htail := map_toLower_toLower hw
      simp only [List.map_cons, List.head?_cons, Option.map_some, List.tail_cons,
        hc.caseLaws.toUpper_toLower, htail]

end Word

end GLBindings.Text
