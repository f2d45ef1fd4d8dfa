import GLBindings.Text
import GLBindings.Yaml.Scalar

namespace GLBindings.Yaml.Block

/-- Which line ends at the end of a block scalar belong to its text. -/
inductive Chomping where
  | clip
  | strip
  | keep
deriving DecidableEq, Repr

structure Header where
  chomping : Chomping
  /-- How much deeper than its parent the scalar is indented, if that is given. -/
  depth : Option Nat

def chomping? : Char → Option Chomping
  | '-' => some .strip
  | '+' => some .keep
  | _ => none

def depth? (c : Char) : Option Nat := (Text.Digit.decimal? c).filter (0 < ·)

def Header.ofSigns : List Char → Option Header
  | [] => some ⟨.clip, none⟩
  | [c] =>
    match chomping? c with
    | some k => some ⟨k, none⟩
    | none => (depth? c).map fun d => ⟨.clip, some d⟩
  | [c, d] =>
    match chomping? c with
    | some k => (depth? d).map fun d => ⟨k, some d⟩
    | none => do return ⟨← chomping? d, some (← depth? c)⟩
  | _ => none

def takeHeader (c : Cursor) : Option (Header × Cursor) := do
  let signs := c.rest.takeWhile fun x => x.isDigit || x = '-' || x = '+'
  return (← Header.ofSigns signs, ← (c.skip signs.length).endLine?)

structure Space where
  breaks : List Char
  widest : Nat
  cursor : Cursor

/-- Skips space. Of a line that holds more than `width` spaces, the others are text. A tab may not
stand in for indentation. -/
def takeSpace (width : Option Nat) (c : Cursor) : Option Space :=
  let spaces := (c.rest.takeWhile (· = ' ')).length
  let c' := c.skip (width.elim spaces (min spaces))
  match hx : c'.rest with
  | [] => some ⟨[], c'.column, c'⟩
  | x :: _ =>
    if x = '\t' ∧ width.all (c'.column < ·) then none
    else if isBreak x then
      have : c'.next.rest.length < c.rest.length :=
        Nat.lt_of_lt_of_le (Cursor.length_next_lt (by simp [hx])) (Cursor.length_skip_le ..)
      (takeSpace width c'.next).map fun s =>
        { s with breaks := x :: s.breaks, widest := max c'.column s.widest }
    else some ⟨[], c'.column, c'⟩
termination_by c.rest.length

structure Joint where
  ending : List Char
  indented : Bool
  breaks : List Char

/-- In folded text a line end between two lines that do not begin with white space is a space, or
nothing if empty lines follow it. -/
def Joint.text (folds : Bool) (j : Joint) (indented : Bool) : List Char :=
  if folds ∧ j.ending = ['\n'] ∧ !j.indented ∧ !indented then
    if j.breaks.isEmpty then [' '] else j.breaks
  else j.ending ++ j.breaks

def Joint.last (k : Chomping) (j : Joint) : List Char :=
  match k with
  | .strip => []
  | .clip => j.ending
  | .keep => j.ending ++ j.breaks

def takeLines (k : Chomping) (folds : Bool) (width : Nat) (j : Joint) (c : Cursor) :
    Option (List Char × Cursor) :=
  if c.column = width ∧ !c.atEnd then
    let line := c.rest.takeWhile (!isBreak ·)
    let behind := c.skip line.length
    let indented := line.head?.any isBlank
    match takeSpace (some width) behind.next with
    | none => none
    | some space =>
      if space.cursor.rest.length < c.rest.length then
        let next : Joint := ⟨behind.rest.take 1, indented, space.breaks⟩
        (takeLines k folds width next space.cursor).map fun p =>
          (j.text folds indented ++ line ++ p.1, p.2)
      else none
  else some (j.last k, c)
termination_by c.rest.length

def take (folds : Bool) (least : Nat) (c : Cursor) : Option (List Char × Cursor) := do
  let (header, c) ← takeHeader c
  let given := header.depth.map fun d => least - 1 + d
  let space ← takeSpace given c
  let width := given.getD (max (max space.widest least) 1)
  takeLines header.chomping folds width ⟨[], false, space.breaks⟩ space.cursor

end GLBindings.Yaml.Block
