import GLBindings.Text
import Mathlib.Data.List.Induction

namespace GLBindings.Text

variable {sep : Char} {l r rest : List Char}

theorem pieces_of_not_mem (h : sep ∉ l) : pieces sep l = [l] := by
  induction l with
  | nil => rfl
  | cons c l ih =>
      obtain ⟨hc, hl⟩ := List.ne_and_not_mem_of_not_mem_cons h
      rw [pieces, if_neg (Ne.symm hc), ih hl]

theorem pieces_append (h : sep ∉ l) : pieces sep (l ++ sep :: rest) = l :: pieces sep rest := by
  induction l with
  | nil => rw [List.nil_append, pieces, if_pos rfl]
  | cons c l ih =>
      obtain ⟨hc, hl⟩ := List.ne_and_not_mem_of_not_mem_cons h
      rw [List.cons_append, pieces, if_neg (Ne.symm hc), ih hl]

theorem length_pieces (sep : Char) (l : List Char) : (pieces sep l).length = l.count sep + 1 := by
  induction l with
  | nil => rfl
  | cons c l ih =>
      rw [pieces]
      split
      next hc => rw [List.length_cons, ih, hc, List.count_cons_self]
      next hc =>
          rw [List.count_cons_of_ne hc, ← ih]
          cases h : pieces sep l with
          | nil => simp [h] at ih
          | cons p ps => rfl

theorem pieces_of_count_eq_one (h : (l ++ sep :: r).count sep = 1) :
    pieces sep (l ++ sep :: r) = [l, r] := by
  rw [List.count_append, List.count_cons_self] at h
  have hl : sep ∉ l := List.count_eq_zero.mp (by omega)
  have hr : sep ∉ r := List.count_eq_zero.mp (by omega)
  rw [pieces_append hl, pieces_of_not_mem hr]

theorem pieces_lines {lines : List (List Char)} (h : ∀ l ∈ lines, sep ∉ l) :
    pieces sep (lines.flatMap (· ++ [sep])) = lines ++ [[]] := by
  induction lines with
  | nil => rfl
  | cons l lines ih =>
      obtain ⟨hl, hlines⟩ := List.forall_mem_cons.mp h
      rw [List.flatMap_cons, List.append_assoc, List.singleton_append, pieces_append hl, ih hlines]
      rfl

theorem join_cons_cons (p q : List Char) (ps : List (List Char)) :
    join sep (p :: q :: ps) = p ++ sep :: join sep (q :: ps) := rfl

theorem eq_or_mem_of_mem_join {ps : List (List Char)} {c : Char} (h : c ∈ join sep ps) :
    c = sep ∨ ∃ p ∈ ps, c ∈ p := by
  induction ps with
  | nil => simp [join] at h
  | cons p ps ih =>
      cases ps with
      | nil => exact .inr ⟨p, List.mem_cons_self, h⟩
      | cons q ps =>
          rw [join_cons_cons, List.mem_append, List.mem_cons] at h
          rcases h with h | h | h
          · exact .inr ⟨p, List.mem_cons_self, h⟩
          · exact .inl h
          · rcases ih h with h | ⟨r, hr, hc⟩
            · exact .inl h
            · exact .inr ⟨r, List.mem_cons_of_mem p hr, hc⟩

theorem map_join (f : Char → Char) (ps : List (List Char)) :
    (join sep ps).map f = join (f sep) (ps.map (·.map f)) := by
  induction ps with
  | nil => rfl
  | cons p ps ih =>
      cases ps with
      | nil => rfl
      | cons q ps =>
          rw [join_cons_cons, List.map_append, List.map_cons, ih]
          rfl

namespace Numeral

variable {cs : List Char} {m : Nat} {n : UInt32}

inductive Spells : List Char → Nat → Prop
  | digit {c : Char} (h : c.isDigit) : Spells [c] (c.toNat - '0'.toNat)
  | more {ds : List Char} {m : Nat} {c : Char} (hds : Spells ds m) (h : c.isDigit) :
      Spells (ds ++ [c]) (10 * m + (c.toNat - '0'.toNat))

/-- The numeral stands for the number: digits, with at most one plus sign in front of them. -/
inductive StandsFor : List Char → Nat → Prop
  | plain {ds : List Char} {m : Nat} (h : Spells ds m) : StandsFor ds m
  | signed {ds : List Char} {m : Nat} (h : Spells ds m) : StandsFor ('+' :: ds) m

theorem spells_iff :
    Spells cs m ↔ cs ≠ [] ∧ cs.all Char.isDigit ∧ Nat.ofDigitChars 10 cs 0 = m := by
  constructor
  · intro h
    induction h with
    | digit h => exact ⟨by simp, by simpa using h, by simp [Nat.ofDigitChars]⟩
    | more _ h ih =>
        obtain ⟨_, hall, rfl⟩ := ih
        refine ⟨by simp, by simpa using ⟨by simpa using hall, h⟩, ?_⟩
        rw [Nat.ofDigitChars_append, Nat.ofDigitChars_cons, Nat.ofDigitChars_nil]
  · rintro ⟨hne, hall, rfl⟩
    induction cs using List.reverseRecOn with
    | nil => exact absurd rfl hne
    | append_singleton ds c ih =>
        obtain ⟨hds, hc⟩ : ds.all Char.isDigit ∧ c.isDigit := by simpa using hall
        rw [Nat.ofDigitChars_append, Nat.ofDigitChars_cons, Nat.ofDigitChars_nil]
        rcases eq_or_ne ds [] with rfl | hne
        · simpa [Nat.ofDigitChars] using Spells.digit hc
        · exact .more (ih hne hds) hc

theorem Spells.unsigned_eq (h : Spells cs m) : unsigned cs = cs := by
  obtain ⟨-, hall, -⟩ := spells_iff.mp h
  unfold unsigned
  split
  next => simp at hall
  next => rfl

theorem standsFor_iff : StandsFor cs m ↔ Spells (unsigned cs) m := by
  constructor
  · rintro (h | h)
    · rwa [h.unsigned_eq]
    · exact h
  · intro h
    unfold unsigned at h
    split at h
    next => exact .signed h
    next => exact .plain h

theorem read?_eq_some_iff : read? cs = some n ↔ StandsFor cs n.toNat := by
  rw [standsFor_iff, spells_iff, read?]
  split
  next h =>
      obtain ⟨hne, hall, hlt⟩ := h
      rw [Option.some.injEq, ← UInt32.toNat_inj, UInt32.toNat_ofNat_of_lt' hlt]
      simp [hne, hall]
  next h =>
      refine iff_of_false (by simp) ?_
      rintro ⟨hne, hall, hvalue⟩
      exact h ⟨hne, hall, hvalue ▸ UInt32.toNat_lt_size n⟩

theorem read?_eq_none_iff : read? cs = none ↔ ∀ m, StandsFor cs m → 4294967295 < m := by
  constructor
  · intro h m hm
    by_contra hle
    have hsome : read? cs = some (.ofNat m) := by
      rw [read?_eq_some_iff, UInt32.toNat_ofNat_of_lt' (by rw [UInt32.size]; omega)]
      exact hm
    rw [h] at hsome
    cases hsome
  · intro h
    cases hread : read? cs with
    | none => rfl
    | some n =>
        have hlarge := h _ (read?_eq_some_iff.mp hread)
        have hsmall := UInt32.toNat_lt_size n
        rw [UInt32.size] at hsmall
        omega

theorem isDigit_of_mem_write {c : Char} (h : c ∈ write n) : c.isDigit :=
  Nat.isDigit_of_mem_toDigits (by decide) (by decide) h

theorem spells_write : Spells (write n) n.toNat := by
  have hall : (write n).all Char.isDigit := List.all_eq_true.mpr fun _ => isDigit_of_mem_write
  exact spells_iff.mpr ⟨Nat.toDigits_ne_nil, hall, Nat.ofDigitChars_ten_toDigits⟩

theorem read?_write : read? (write n) = some n := read?_eq_some_iff.mpr (.plain spells_write)

end Numeral

end GLBindings.Text
