namespace GLBindings.Text

/-- The pieces between the occurrences of `sep`, empty ones included. There is always one. -/
def pieces (sep : Char) : List Char → List (List Char)
  | [] => [[]]
  | c :: rest =>
    if c = sep then [] :: pieces sep rest
    else
      match pieces sep rest with
      | [] => [[c]]
      | p :: ps => (c :: p) :: ps

def splitText (sep : Char) (s : String) : List String :=
  (pieces sep s.toList).map String.ofList

def join (sep : Char) : List (List Char) → List Char
  | [] => []
  | [p] => p
  | p :: ps => p ++ sep :: join sep ps

def cut (mark : List Char) : List Char → Option (List Char × List Char)
  | [] => none
  | c :: rest =>
    if mark.isPrefixOf (c :: rest) then some ([], (c :: rest).drop mark.length)
    else (cut mark rest).map fun p => (c :: p.1, p.2)

theorem length_cut {mark cs before after : List Char} (h : cut mark cs = some (before, after)) :
    after.length + mark.length ≤ cs.length := by
  induction cs generalizing before with
  | nil => simp [cut] at h
  | cons c rest ih =>
    unfold cut at h
    split at h
    · rename_i hp
      obtain ⟨t, ht⟩ := List.isPrefixOf_iff_prefix.1 hp
      simp only [Option.some.injEq, Prod.mk.injEq] at h
      rw [← h.2, ← ht]
      simp
      omega
    · obtain ⟨p, hp, hq⟩ := Option.map_eq_some_iff.1 h
      simp only [Prod.mk.injEq] at hq
      have hr : cut mark rest = some (p.1, after) := by rw [hp, ← hq.2]
      have := ih hr
      simp only [List.length_cons]
      omega

theorem length_cut_le {mark cs before after : List Char} (h : cut mark cs = some (before, after)) :
    after.length ≤ cs.length :=
  Nat.le_trans (Nat.le_add_right ..) (length_cut h)

namespace Digit

def decimal? (c : Char) : Option Nat := if c.isDigit then some (c.toNat - '0'.toNat) else none

def hex? (c : Char) : Option Nat :=
  if c.isDigit then some (c.toNat - '0'.toNat)
  else if 'a' ≤ c ∧ c ≤ 'f' then some (c.toNat - 'a'.toNat + 10)
  else if 'A' ≤ c ∧ c ≤ 'F' then some (c.toNat - 'A'.toNat + 10)
  else none

/-- The number that digits spell. No digits spell zero. -/
def number? (base : Nat) (digit? : Char → Option Nat) (cs : List Char) : Option Nat :=
  (cs.mapM digit?).map (·.foldl (fun n d => n * base + d) 0)

end Digit

namespace Numeral

def unsigned : List Char → List Char
  | '+' :: rest => rest
  | cs => cs

/-- Reads at least one ASCII digit, leading zeros allowed, with a value that fits 32 bits. -/
def read? (cs : List Char) : Option UInt32 :=
  let digits := unsigned cs
  let value := Nat.ofDigitChars 10 digits 0
  if digits ≠ [] ∧ digits.all Char.isDigit ∧ value < UInt32.size then some (UInt32.ofNat value) else none

def write (n : UInt32) : List Char := Nat.toDigits 10 n.toNat

end Numeral

end GLBindings.Text
