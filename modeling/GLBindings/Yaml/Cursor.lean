import GLBindings.Text.Letter

namespace GLBindings.Yaml

open Text (Run inRuns)

def isBlank (c : Char) : Bool := c = ' ' || c = '\t'

def isBreak (c : Char) : Bool :=
  c = '\n' || c = '\r' || c = '\x85' || c = '\u2028' || c = '\u2029'

def isWhite (c : Char) : Bool := isBlank c || isBreak c

def isWordChar (c : Char) : Bool := c.isAlphanum || c = '-' || c = '_'

def legalRuns : List Run :=
  [⟨0x9, 0xA, 1⟩, ⟨0xD, 0xD, 1⟩, ⟨0x20, 0x7E, 1⟩, ⟨0x85, 0x85, 1⟩, ⟨0xA0, 0xD7FF, 1⟩,
   ⟨0xE000, 0xFFFD, 1⟩, ⟨0x10000, 0x10FFFF, 1⟩]

def isLegal (c : Char) : Bool := inRuns legalRuns c

/-- Writes every line end as a line feed. Line and paragraph separators stay what they are. -/
def unifyBreaks : List Char → List Char
  | [] => []
  | '\r' :: '\n' :: rest => '\n' :: unifyBreaks rest
  | c :: rest => (if c = '\r' ∨ c = '\x85' then '\n' else c) :: unifyBreaks rest

def atBlank (cs : List Char) : Bool := cs.head?.all isWhite

structure Cursor where
  rest : List Char
  line : Nat := 0
  column : Nat := 0
  index : Nat := 0
deriving Repr

namespace Cursor

def next (c : Cursor) : Cursor :=
  match c.rest with
  | [] => c
  | x :: rest =>
    if isBreak x then ⟨rest, c.line + 1, 0, c.index + 1⟩ else ⟨rest, c.line, c.column + 1, c.index + 1⟩

def skip (c : Cursor) : Nat → Cursor
  | 0 => c
  | n + 1 => c.next.skip n

theorem rest_next (c : Cursor) : c.next.rest = c.rest.drop 1 := by
  unfold next
  split <;> rename_i h
  · simp [h]
  · split <;> simp [h]

theorem rest_skip (c : Cursor) (n : Nat) : (c.skip n).rest = c.rest.drop n := by
  induction n generalizing c with
  | zero => rfl
  | succ n ih => simp [skip, ih, rest_next]

theorem length_skip_le (c : Cursor) (n : Nat) : (c.skip n).rest.length ≤ c.rest.length := by
  rw [rest_skip, List.length_drop]
  omega

theorem length_skip_lt {c : Cursor} {n : Nat} (hn : 0 < n) (hc : c.rest ≠ []) :
    (c.skip n).rest.length < c.rest.length := by
  have := List.length_pos_iff.2 hc
  rw [rest_skip, List.length_drop]
  omega

theorem length_next_lt {c : Cursor} (hc : c.rest ≠ []) : c.next.rest.length < c.rest.length :=
  length_skip_lt Nat.one_pos hc

def atEnd (c : Cursor) : Bool := c.rest.isEmpty

def atMarker (marker : String) (c : Cursor) : Bool :=
  c.column = 0 && marker.toList.isPrefixOf c.rest && atBlank (c.rest.drop 3)

def atDocumentMarker (c : Cursor) : Bool := c.atMarker "---" || c.atMarker "..."

def endLine? (c : Cursor) : Option Cursor :=
  let c := c.skip (c.rest.takeWhile isBlank).length
  let c := if c.rest.head? = some '#' then c.skip (c.rest.takeWhile (!isBreak ·)).length else c
  if c.rest.head?.all isBreak then some c.next else none

end Cursor

end GLBindings.Yaml
