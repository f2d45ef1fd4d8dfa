import GLBindings.Text
import GLBindings.Yaml.Cursor

namespace GLBindings.Yaml

/-- A tag in full. Escapes may spell octets that are no text. -/
abbrev Tag := List UInt8

def Tag.ofString (s : String) : Tag := s.toUTF8.toList

namespace Tag

def common : String := "tag:" ++ ".".intercalate ["yaml", "org"] ++ ",2002:"

def null : Tag := ofString (common ++ "null")

def bool : Tag := ofString (common ++ "bool")

def localName? (t : Tag) : Option String :=
  match t with
  | [] => none
  | b :: rest =>
    if b = 0x21 ∧ rest ≠ [] then String.fromUTF8? (ByteArray.mk rest.toArray) else none

end Tag

/-- A tag as it is written: the handle stands for the beginning of the tag. -/
structure ShortTag where
  handle : String
  suffix : Tag
deriving DecidableEq, Repr

namespace ShortTag

def isUriChar (verbatim : Bool) (c : Char) : Bool :=
  isWordChar c || ";/?:@&=+$.!~*'()".toList.contains c || verbatim && ",[]".toList.contains c

def octetCount? (b : Nat) : Option Nat :=
  if b < 0x80 then some 1
  else if b < 0xC0 then none
  else if b < 0xE0 then some 2
  else if b < 0xF0 then some 3
  else if b < 0xF8 then some 4
  else none

/-- Splits off the octets of a tag. The octets of an escaped character must belong together:
`more` of them are still to come. -/
def takeUri (verbatim : Bool) (more : Nat) : List Char → Option (Tag × List Char)
  | '%' :: a :: b :: rest => do
    let n ← Text.Digit.number? 16 Text.Digit.hex? [a, b]
    let left ← if more = 0 then (octetCount? n).map (· - 1)
      else if 0x80 ≤ n ∧ n < 0xC0 then some (more - 1) else none
    let p ← takeUri verbatim left rest
    return (UInt8.ofNat n :: p.1, p.2)
  | [] => if more = 0 then some ([], []) else none
  | c :: rest =>
    if more ≠ 0 ∨ c = '%' then none
    else if isUriChar verbatim c then
      (takeUri verbatim 0 rest).map fun p => (Tag.ofString (String.singleton c) ++ p.1, p.2)
    else some ([], c :: rest)

def takeHandle (cs : List Char) : Option (List Char × List Char) :=
  match cs with
  | '!' :: rest =>
    let word := '!' :: rest.takeWhile isWordChar
    match rest.dropWhile isWordChar with
    | '!' :: after => some (word ++ ['!'], after)
    | after => some (word, after)
  | _ => none

def takeVerbatim (cs : List Char) : Option (ShortTag × List Char) := do
  let (suffix, after) ← takeUri true 0 cs
  match after with
  | '>' :: after => if suffix.isEmpty then none else return (⟨"", suffix⟩, after)
  | _ => none

/-- Splits off a tag with a handle. What begins like a handle without its second exclamation mark
is part of the suffix. -/
def takeHandled (cs : List Char) : Option (ShortTag × List Char) := do
  let (handle, rest) ← takeHandle cs
  let isWhole := 2 ≤ handle.length ∧ handle.getLast? = some '!'
  let (uri, after) ← takeUri false 0 rest
  let head : Tag := if isWhole then [] else Tag.ofString (String.ofList (handle.drop 1))
  let suffix := head ++ uri
  if isWhole then
    if suffix.isEmpty then none else return (⟨String.ofList handle, suffix⟩, after)
  else if suffix.isEmpty then return (⟨"", Tag.ofString "!"⟩, after)
  else return (⟨"!", suffix⟩, after)

def take (inFlow : Bool) (cs : List Char) : Option (ShortTag × List Char) := do
  let (t, after) ← match cs with
    | '!' :: '<' :: rest => takeVerbatim rest
    | _ => takeHandled cs
  if atBlank after ∨ inFlow ∧ after.head? = some ',' then some (t, after) else none

end ShortTag

inductive Directive where
  | version
  | handle (name : String) (tag : Tag)
deriving DecidableEq, Repr

namespace Directive

def skipBlanks (cs : List Char) : List Char := cs.dropWhile isBlank

def takeNumber (cs : List Char) : Option (Nat × List Char) :=
  let digits := cs.takeWhile Char.isDigit
  if digits.isEmpty ∨ 9 < digits.length then none
  else (Text.Digit.number? 10 Text.Digit.decimal? digits).map (·, cs.dropWhile Char.isDigit)

/-- The versions 1.1 and 1.2 can be read. -/
def takeVersion (cs : List Char) : Option (Directive × List Char) := do
  let (major, rest) ← takeNumber cs
  match rest with
  | '.' :: rest =>
    let (minor, after) ← takeNumber rest
    if major = 1 ∧ (minor = 1 ∨ minor = 2) then return (version, after) else none
  | _ => none

def takeTag (cs : List Char) : Option (Directive × List Char) := do
  let (name, rest) ← ShortTag.takeHandle cs
  if (name = ['!'] ∨ 2 ≤ name.length ∧ name.getLast? = some '!') ∧ rest.head?.any isBlank then
    let (tag, after) ← ShortTag.takeUri true 0 (skipBlanks rest)
    if tag.isEmpty ∨ !atBlank after then none
    else return (handle (String.ofList name) tag, after)
  else none

def take (cs : List Char) : Option (Directive × List Char) :=
  let rest := cs.dropWhile isWordChar
  if !atBlank rest then none
  else if cs.takeWhile isWordChar = "YAML".toList then takeVersion (skipBlanks rest)
  else if cs.takeWhile isWordChar = "TAG".toList then takeTag (skipBlanks rest)
  else none

end Directive

namespace Anchor

def take (cs : List Char) : Option (String × List Char) :=
  let name := cs.takeWhile isWordChar
  let after := cs.dropWhile isWordChar
  if name.isEmpty then none
  else if after.head?.all fun c => isWhite c || "?:,]\x7d%@`".toList.contains c then
    some (String.ofList name, after)
  else none

end Anchor

end GLBindings.Yaml
