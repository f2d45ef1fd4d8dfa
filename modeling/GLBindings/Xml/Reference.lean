import GLBindings.Text.Letter
import GLBindings.Text

namespace GLBindings.Xml

open Text (Run inRuns)

def isSpace (c : Char) : Bool := c = ' ' || c = '\t' || c = '\n' || c = '\r'

/-- Controls other than white space, U+FFFE and U+FFFF stand in no document. -/
def isLegal (c : Char) : Bool :=
  if c.toNat < 0x20 then isSpace c else c.toNat ≠ 0xFFFE && c.toNat ≠ 0xFFFF

def nameStartRuns : List Run :=
  [⟨0x3A, 0x3A, 1⟩, ⟨0x41, 0x5A, 1⟩, ⟨0x5F, 0x5F, 1⟩, ⟨0x61, 0x7A, 1⟩, ⟨0xC0, 0xD6, 1⟩,
   ⟨0xD8, 0xF6, 1⟩, ⟨0xF8, 0x2FF, 1⟩, ⟨0x370, 0x37D, 1⟩, ⟨0x37F, 0x1FFF, 1⟩, ⟨0x200C, 0x200D, 1⟩,
   ⟨0x2070, 0x218F, 1⟩, ⟨0x2C00, 0x2FEF, 1⟩, ⟨0x3001, 0xD7FF, 1⟩, ⟨0xF900, 0xFDCF, 1⟩,
   ⟨0xFDF0, 0xFFFD, 1⟩, ⟨0x10000, 0xEFFFF, 1⟩]

def nameRestRuns : List Run :=
  [⟨0x2D, 0x2E, 1⟩, ⟨0x30, 0x39, 1⟩, ⟨0xB7, 0xB7, 1⟩, ⟨0x300, 0x36F, 1⟩, ⟨0x203F, 0x2040, 1⟩]

def isNameStart (c : Char) : Bool := inRuns nameStartRuns c

def isNameChar (c : Char) : Bool := isNameStart c || inRuns nameRestRuns c

inductive Piece where
  | plain (c : Char)
  | referenced (c : Char)
deriving DecidableEq, Repr

namespace Piece

open Text.Digit (number? hex? decimal?)

/-- The character of a number below 2³². A number that is no character reads as U+FFFD. -/
def numbered? (n : Nat) : Option Char :=
  let c := if n.isValidChar then Char.ofNat n else '\uFFFD'
  if n < UInt32.size ∧ isLegal c then some c else none

def reference? : List Char → Option Char
  | ['#'] => none
  | ['#', 'x'] => none
  | '#' :: 'x' :: digits => number? 16 hex? digits >>= numbered?
  | '#' :: digits => number? 10 decimal? digits >>= numbered?
  | ['l', 't'] => some '<'
  | ['g', 't'] => some '>'
  | ['a', 'm', 'p'] => some '&'
  | ['q', 'u', 'o', 't'] => some '"'
  | ['a', 'p', 'o', 's'] => some '\''
  | _ => none

def ofChars (cs : List Char) : Option (List Piece) :=
  match cs with
  | [] => some []
  | '&' :: rest =>
    match h : Text.cut [';'] rest with
    | some (body, after) =>
      have : after.length < rest.length + 1 := Nat.lt_succ_of_le (Text.length_cut_le h)
      return .referenced (← reference? body) :: (← ofChars after)
    | none => none
  | c :: rest => (ofChars rest).map (.plain c :: ·)
termination_by cs.length

/-- The characters of a text. A carriage return, with or without a line feed behind it, is one line
feed. It stays what it is in front of a reference, and at the end of a text right behind one. -/
def textFrom (afterReference : Bool) : List Piece → List Char
  | [] => []
  | .referenced c :: rest => c :: textFrom true rest
  | [.plain '\r'] => if afterReference then ['\r'] else ['\n']
  | .plain '\r' :: .plain '\n' :: rest => '\n' :: textFrom false rest
  | .plain '\r' :: .plain c :: rest => '\n' :: textFrom false (.plain c :: rest)
  | .plain c :: rest => c :: textFrom false rest

def text (ps : List Piece) : List Char := textFrom false ps

/-- The characters of an attribute value. A line end or a tab is one space. -/
def value : List Piece → List Char
  | [] => []
  | .referenced c :: rest => c :: value rest
  | .plain '\r' :: .plain '\n' :: rest => ' ' :: value rest
  | .plain c :: rest => (if isSpace c then ' ' else c) :: value rest

end Piece

end GLBindings.Xml
