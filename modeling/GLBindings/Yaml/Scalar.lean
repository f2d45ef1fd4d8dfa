import GLBindings.Yaml.Cursor
import GLBindings.Yaml.Tag
import GLBindings.Text

namespace GLBindings.Yaml

inductive Style where
  | plain
  | quoted
  | literal
  | folded
deriving DecidableEq, Repr

structure Scalar where
  text : String
  style : Style
  tag : Option Tag
deriving DecidableEq, Repr

def Scalar.empty : Scalar := ⟨"", .plain, none⟩

structure Gap where
  blanks : List Char
  breaks : List Char
  margins : List (List Char)
deriving Repr

namespace Gap

def isEmpty (g : Gap) : Bool := g.blanks.isEmpty && g.breaks.isEmpty

def marginsOf : List Char → List (List Char)
  | [] => []
  | c :: rest =>
    if isBreak c then rest.takeWhile isBlank :: marginsOf rest else marginsOf rest

def ofWhite (white : List Char) : Gap where
  blanks := white.takeWhile isBlank
  breaks := white.filter isBreak
  margins := marginsOf white

/-- A gap on one line stays. One line end is a space, unless it is a separator; of several, the
first one is dropped. -/
def text (g : Gap) : List Char :=
  match g.breaks with
  | [] => g.blanks
  | ['\n'] => [' ']
  | '\n' :: more => more
  | breaks => breaks

def hasTabWithin (width : Nat) (g : Gap) : Bool :=
  g.margins.any fun m => (m.take width).contains '\t'

end Gap

namespace Cursor

def takeGap (c : Cursor) : Gap × Cursor :=
  let white := c.rest.takeWhile isWhite
  (.ofWhite white, c.skip white.length)

end Cursor

namespace Plain

def isFlowSign (c : Char) : Bool := c = ',' || c = '[' || c = ']' || c = '{' || c = '}'

/-- The word ahead. Inside brackets a colon may not stand in front of a sign. -/
def word (inFlow : Bool) : List Char → Option (List Char)
  | [] => some []
  | c :: rest =>
    if isWhite c then some []
    else if inFlow ∧ c = ':' ∧ rest.head?.any fun d => isFlowSign d || d = '?' then none
    else if c = ':' ∧ atBlank rest ∨ inFlow ∧ isFlowSign c then some []
    else (word inFlow rest).map (c :: ·)

structure Taken where
  text : List Char
  atNewLine : Bool
  cursor : Cursor

/-- Reads on, with the gap behind the last word in `gap`. Continued lines are indented by `width`
columns at least. -/
def takeFrom (inFlow : Bool) (width : Nat) (gap : Gap) (c : Cursor) : Option Taken :=
  let stop : Option Taken := some ⟨[], !gap.breaks.isEmpty, c⟩
  if c.atDocumentMarker ∨ c.rest.head? = some '#' then stop
  else
    match word inFlow c.rest with
    | none => none
    | some [] => stop
    | some (x :: w) =>
      if h : c.rest = [] then stop
      else
        let behind := c.skip (w.length + 1)
        let next := behind.takeGap.1
        let ahead := behind.takeGap.2
        let here (t : Taken) : Taken := { t with text := gap.text ++ x :: w ++ t.text }
        if next.hasTabWithin width then none
        else if next.isEmpty ∨ !inFlow ∧ ahead.column < width then
          some (here ⟨[], !next.breaks.isEmpty, ahead⟩)
        else
          have : ahead.rest.length < c.rest.length :=
            Nat.lt_of_le_of_lt (Cursor.length_skip_le ..) (Cursor.length_skip_lt w.length.succ_pos h)
          (takeFrom inFlow width next ahead).map here
termination_by c.rest.length

def take (inFlow : Bool) (width : Nat) (c : Cursor) : Option Taken :=
  takeFrom inFlow width ⟨[], [], []⟩ c

end Plain

namespace Quoted

structure Word where
  text : List Char
  length : Nat
  joins : Bool

def Word.cons (c : Char) (n : Nat) (w : Word) : Word :=
  { w with text := c :: w.text, length := n + w.length }

def single : List Char → Word
  | [] => ⟨[], 0, false⟩
  | '\'' :: '\'' :: rest => (single rest).cons '\'' 2
  | c :: rest => if c = '\'' ∨ isWhite c then ⟨[], 0, false⟩ else (single rest).cons c 1

def escape? : Char → Option Char
  | '0' => some '\x00'
  | 'a' => some '\x07'
  | 'b' => some '\x08'
  | 't' => some '\t'
  | '\t' => some '\t'
  | 'n' => some '\n'
  | 'v' => some '\x0b'
  | 'f' => some '\x0c'
  | 'r' => some '\r'
  | 'e' => some '\x1b'
  | ' ' => some ' '
  | '"' => some '"'
  | '/' => some '/'
  | '\\' => some '\\'
  | 'N' => some '\x85'
  | '_' => some '\xa0'
  | 'L' => some '\u2028'
  | 'P' => some '\u2029'
  | _ => none

def digitCount? : Char → Option Nat
  | 'x' => some 2
  | 'u' => some 4
  | 'U' => some 8
  | _ => none

def coded? (digits : List Char) : Option Char := do
  let n ← Text.Digit.number? 16 Text.Digit.hex? digits
  if n.isValidChar then some (Char.ofNat n) else none

def double (cs : List Char) : Option Word :=
  match cs with
  | [] => some ⟨[], 0, false⟩
  | '"' :: _ => some ⟨[], 0, false⟩
  | ['\\'] => none
  | '\\' :: c :: rest =>
    if isBreak c then some ⟨[], 2, true⟩
    else
      match digitCount? c with
      | some n =>
        if rest.length < n then none
        else do
          let x ← coded? (rest.take n)
          let w ← double (rest.drop n)
          return w.cons x (2 + n)
      | none => do
        let x ← escape? c
        let w ← double rest
        return w.cons x 2
  | c :: rest => if isWhite c then some ⟨[], 0, false⟩ else (double rest).map (·.cons c 1)
termination_by cs.length
decreasing_by
  · exact Nat.lt_succ_of_le (Nat.le_succ_of_le (List.drop_sublist _ _).length_le)
  · exact Nat.lt_succ_of_lt (Nat.lt_succ_self _)
  · exact Nat.lt_succ_self _

def takeFrom (quote : Char) (word : List Char → Option Word) (c : Cursor) :
    Option (List Char × Cursor) :=
  if c.atDocumentMarker then none
  else
    match word c.rest with
    | none => none
    | some w =>
      let behind := c.skip w.length
      if behind.rest.head? = some quote then some (w.text, behind.next)
      else
        let (gap, ahead) := behind.takeGap
        let between := if w.joins then gap.breaks else gap.text
        if ahead.rest.length < c.rest.length then
          (takeFrom quote word ahead).map fun p => (w.text ++ between ++ p.1, p.2)
        else none
termination_by c.rest.length

def take (quote : Char) (c : Cursor) : Option (List Char × Cursor) :=
  takeFrom quote (if quote = '"' then double else some ∘ single) c

end Quoted

end GLBindings.Yaml
