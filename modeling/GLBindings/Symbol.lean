import GLBindings.Text.Letter
import GLBindings.Text.LetterCase
import GLBindings.Text
import GLBindings.Vocabulary

namespace GLBindings

inductive Casing where
  | initial
  | snake
  | camel
  | pascal
  | upper
deriving DecidableEq, Repr

def Casing.name : Casing → String
  | .initial => "initial"
  | .snake => "snake_case"
  | .camel => "camelCase"
  | .pascal => "PascalCase"
  | .upper => "UPPER_CASE"

instance : Named Casing where
  label := "case"
  choices := [.initial, .snake, .camel, .pascal, .upper]
  name := Casing.name

theorem Casing.distinct : Named.Distinct Casing := by
  unfold Named.Distinct
  decide

namespace Symbol

open Text

/-- Drops one API prefix: `GL_` of constants, or `gl` of commands if a capital or a digit of ASCII
follows it. -/
def bare : List Char → List Char
  | 'G' :: 'L' :: '_' :: rest => rest
  | 'g' :: 'l' :: c :: rest => if c.isUpper || c.isDigit then c :: rest else 'g' :: 'l' :: c :: rest
  | cs => cs

/-- A symbol read up to some place: the words that are complete and the open word, the latest word
and the latest character in front. -/
structure Scan where
  done : List (List Char)
  word : List Char

namespace Scan

def close (s : Scan) : Scan := if s.word = [] then s else ⟨s.word.reverse :: s.done, []⟩

def push (s : Scan) (c : Char) : Scan := { s with word := c :: s.word }

/-- Reads one more character. A capital behind a small letter opens a word; a small letter behind two
capitals takes the second of them along into a new word. -/
def step (s : Scan) (c : Char) : Scan :=
  if c = '_' then s.close
  else if isUpper c then
    if s.word.head?.any isLower then s.close.push c else s.push c
  else if isLower c then
    match s.word with
    | b :: a :: rest =>
      if isUpper b && isUpper a then ⟨(a :: rest).reverse :: s.done, [c, b]⟩ else s.push c
    | _ => s.push c
  else s.push c

def words (s : Scan) : List (List Char) := s.close.done.reverse

end Scan

def words (cs : List Char) : List (List Char) := (cs.foldl Scan.step ⟨[], []⟩).words

def pascal (ws : List (List Char)) : List Char := ws.flatMap capitalize

def camel : List (List Char) → List Char
  | [] => []
  | w :: ws => lower w ++ pascal ws

def recase : Casing → List Char → List Char
  | .initial, cs => cs
  | .snake, cs => join '_' ((words cs).map lower)
  | .upper, cs => join '_' ((words cs).map upper)
  | .camel, cs => camel (words cs)
  | .pascal, cs => pascal (words cs)

def transform (casing : Casing) (omitPrefix : Bool) (s : String) : String :=
  let cs := s.toList
  String.ofList (recase casing (if omitPrefix then bare cs else cs))

end Symbol

structure Naming where
  enumCase : Casing := .snake
  functionCase : Casing := .snake
  enumValueCase : Casing := .snake
  omitPrefix : Bool := false
  enumNamespace : String := "gl"
  commandNamespace : String := "gl"
deriving DecidableEq, Repr

namespace Naming

def enumName (n : Naming) : String → String := Symbol.transform n.enumCase n.omitPrefix

def enumValueName (n : Naming) : String → String := Symbol.transform n.enumValueCase n.omitPrefix

def commandName (n : Naming) : String → String := Symbol.transform n.functionCase n.omitPrefix

end Naming

end GLBindings
