import GLBindings.Feature
import GLBindings.Proofs.Text
import Mathlib.Order.Lattice
import GLBindings.Proofs.Success

namespace GLBindings.Version

theorem le_iff {a b : Version} :
    a ≤ b ↔ a.major < b.major ∨ a.major = b.major ∧ a.minor ≤ b.minor := Iff.rfl

instance : LinearOrder Version where
  le_refl a := .inr ⟨rfl, UInt32.le_refl _⟩
  le_trans a b c hab hbc := by
    rw [le_iff] at *
    grind
  le_antisymm a b hab hba := by
    cases a
    cases b
    simp only [le_iff] at *
    grind
  le_total a b := by
    simp only [le_iff]
    grind
  toDecidableLE := inferInstance
  toDecidableEq := inferInstance

theorem major_le_major {a b : Version} (h : a ≤ b) : a.major ≤ b.major := by
  rw [le_iff] at h
  grind

theorem read_text (v : Version) : read v.text = .ok v := by
  have hpoint (n : UInt32) : '.' ∉ Text.Numeral.write n :=
    fun h => absurd (Text.Numeral.isDigit_of_mem_write h) (by decide)
  have hpieces : Text.pieces '.' v.text.toList =
      [Text.Numeral.write v.major, Text.Numeral.write v.minor] := by
    rw [text, String.toList_ofList, Text.pieces_append (hpoint _), Text.pieces_of_not_mem (hpoint _)]
  simp only [read, hpieces, Text.Numeral.read?_write]

open Text.Numeral (StandsFor read? read?_eq_some_iff read?_eq_none_iff)

structure Sides (s : String) (major minor : List Char) : Prop where
  toList_eq : s.toList = major ++ '.' :: minor
  one : s.toList.count '.' = 1

def Invalid (side : List Char) : Prop := ∀ m, StandsFor side m → 4294967295 < m

/-- What a text is read as. Of several faults it is read as the one that stands first here. -/
inductive ReadAs (s : String) : Except Fault Version → Prop
  | missingComponent (h : s.toList.count '.' ≠ 1) : ReadAs s (.error (.missingComponent s))
  | invalidMajor {l r : List Char} (h : Sides s l r) (hl : Invalid l) :
      ReadAs s (.error (.invalidMajor s))
  | invalidMinor {l r : List Char} {m : UInt32} (h : Sides s l r) (hl : StandsFor l m.toNat)
      (hr : Invalid r) : ReadAs s (.error (.invalidMinor s))
  | version {l r : List Char} {v : Version} (h : Sides s l r) (hl : StandsFor l v.major.toNat)
      (hr : StandsFor r v.minor.toNat) : ReadAs s (.ok v)

variable {s : String} {x : Except Fault Version}

theorem Sides.pieces_eq {l r : List Char} (h : Sides s l r) : Text.pieces '.' s.toList = [l, r] := by
  have hone := h.one
  rw [h.toList_eq] at hone ⊢
  exact Text.pieces_of_count_eq_one hone

theorem exists_sides (h : s.toList.count '.' = 1) : ∃ l r, Sides s l r := by
  have hmem : '.' ∈ s.toList := List.count_pos_iff.mp (h ▸ Nat.one_pos)
  obtain ⟨l, r, hs⟩ := List.append_of_mem hmem
  exact ⟨l, r, hs, h⟩

theorem read_of_readAs (h : ReadAs s x) : read s = x := by
  cases h with
  | missingComponent h =>
      rw [read]
      split
      next hpieces =>
          have hlength := Text.length_pieces '.' s.toList
          rw [hpieces, List.length_cons, List.length_singleton] at hlength
          omega
      next => rfl
  | invalidMajor h hl => simp only [read, h.pieces_eq, read?_eq_none_iff.mpr hl]
  | invalidMinor h hl hr =>
      simp only [read, h.pieces_eq, read?_eq_some_iff.mpr hl, read?_eq_none_iff.mpr hr]
  | version h hl hr =>
      simp only [read, h.pieces_eq, read?_eq_some_iff.mpr hl, read?_eq_some_iff.mpr hr]

theorem exists_readAs (s : String) : ∃ x, ReadAs s x := by
  by_cases hone : s.toList.count '.' = 1
  · obtain ⟨l, r, h⟩ := exists_sides hone
    cases hl : read? l with
    | none => exact ⟨_, .invalidMajor h (read?_eq_none_iff.mp hl)⟩
    | some m =>
        cases hr : read? r with
        | none => exact ⟨_, .invalidMinor h (read?_eq_some_iff.mp hl) (read?_eq_none_iff.mp hr)⟩
        | some n =>
            have hv : ReadAs s (.ok ⟨m, n⟩) :=
              .version h (read?_eq_some_iff.mp hl) (read?_eq_some_iff.mp hr)
            exact ⟨_, hv⟩
  · exact ⟨_, .missingComponent hone⟩

theorem read_eq_iff : read s = x ↔ ReadAs s x := by
  constructor
  · rintro rfl
    obtain ⟨x, hx⟩ := exists_readAs s
    rw [read_of_readAs hx]
    exact hx
  · exact read_of_readAs

def Quotes (message s : String) : Prop :=
  ∃ before after, message = before ++ "'" ++ s ++ "'" ++ after

theorem quotes_append (before after s : String) :
    Quotes (before ++ "'" ++ s ++ ("'" ++ after)) s :=
  ⟨before, after, (String.append_assoc ..).symm⟩

theorem quotes_message {e : Fault} (h : ReadAs s (.error e)) : Quotes e.message s := by
  cases h with
  | missingComponent =>
      exact quotes_append "version " " must specify both major and minor components" s
  | invalidMajor => exact quotes_append "major component of version " " is not a number" s
  | invalidMinor => exact quotes_append "minor component of version " " is not a number" s

def canonical (s : String) : Except Fault String := (read s).map text

theorem canonical_text (v : Version) : canonical v.text = .ok v.text := by
  rw [canonical, read_text]
  rfl

theorem canonical_of_canonical {t : String} (h : canonical s = .ok t) : canonical t = .ok t := by
  obtain ⟨v, -, rfl⟩ := Success.map_eq_ok_iff.mp h
  exact canonical_text v

/-- Reading takes one point between two numerals and says of any other text what is wrong with it
first. What is written is read back, so it is the canonical text of its version. -/
theorem read_interprets :
    (∀ s x, read s = x ↔ ReadAs s x) ∧
      (∀ s e, read s = .error e → Quotes e.message s) ∧
      (∀ v, read v.text = .ok v) ∧
      ∀ s t, canonical s = .ok t → canonical t = .ok t :=
  ⟨fun _ _ => read_eq_iff, fun _ _ h => quotes_message (read_eq_iff.mp h), read_text,
    fun _ _ => canonical_of_canonical⟩

theorem read_interprets_signed :
    ReadAs "+04.4294967295" (.ok ⟨4, 4294967295⟩) ∧
      canonical "4.4294967295" = .ok "4.4294967295" ∧
      Quotes (Fault.invalidMajor "4294967296.-1").message "4294967296.-1" :=
  ⟨(read_interprets.1 _ _).mp (by decide), read_interprets.2.2.2 "+04.4294967295" _ (by decide),
    read_interprets.2.1 _ _ (by decide)⟩

end GLBindings.Version
