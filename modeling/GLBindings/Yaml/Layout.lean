import GLBindings.Yaml.Scalar
import GLBindings.Yaml.Tag
import GLBindings.Yaml.Scalar.Block

namespace GLBindings.Yaml

inductive Token where
  | directive (d : Directive)
  | documentStart
  | documentEnd
  | blockList
  | blockMapping
  /-- The end of what is indented alike. -/
  | blockEnd
  | listStart
  | listEnd
  | mappingStart
  | mappingEnd
  | item
  | separator
  | key
  | value
  /-- A name that stands for the node with that anchor. -/
  | reference (name : String)
  | anchor (name : String)
  | tag (t : ShortTag)
  | scalar (text : String) (style : Style)
deriving DecidableEq, Repr

structure PossibleKey where
  position : Nat
  required : Bool
  cursor : Cursor

structure Layout where
  cursor : Cursor
  tokens : List Token := []
  /-- The columns of the open block collections, innermost first. -/
  indents : List Nat := []
  possible : Option PossibleKey := none
  outer : List (Option PossibleKey) := []
  allowsKey : Bool := true

namespace Layout

def inFlow (s : Layout) : Bool := !s.outer.isEmpty

/-- The least column of what the innermost block collection contains. -/
def least (s : Layout) : Nat := (s.indents.head?.map (· + 1)).getD 0

def push (t : Token) (s : Layout) : Layout := { s with tokens := t :: s.tokens }

def insertAt (position : Nat) (t : Token) (s : Layout) : Layout :=
  let later := s.tokens.length - position
  { s with tokens := s.tokens.take later ++ t :: s.tokens.drop later }

def closeRightOf (column : Nat) (s : Layout) : Layout :=
  let ended := s.indents.takeWhile (column < ·)
  { s with
    tokens := List.replicate ended.length .blockEnd ++ s.tokens
    indents := s.indents.drop ended.length }

def closeAll (s : Layout) : Layout :=
  { s with
    tokens := List.replicate s.indents.length .blockEnd ++ s.tokens
    indents := [] }

def openAt (column position : Nat) (t : Token) (s : Layout) : Layout :=
  if s.inFlow ∨ column < s.least then s
  else { s.insertAt position t with indents := column :: s.indents }

def openHere (t : Token) (s : Layout) : Layout := s.openAt s.cursor.column s.tokens.length t

/-- Gives up the possible key, unless nothing else could stand there. -/
def dropKey (s : Layout) : Option Layout :=
  if s.possible.any (·.required) then none else some { s with possible := none }

def markKey (s : Layout) : Option Layout :=
  if s.allowsKey then do
    let s ← s.dropKey
    let required := !s.inFlow && s.indents.head? = some s.cursor.column
    return { s with possible := some ⟨s.tokens.length, required, s.cursor⟩ }
  else some s

/-- A key ends on its line and within 1024 characters. -/
def isStale (c : Cursor) (k : PossibleKey) : Bool :=
  k.cursor.line < c.line || k.cursor.index + 1024 < c.index

def refresh? (c : Cursor) : Option PossibleKey → Option (Option PossibleKey)
  | none => some none
  | some k => if isStale c k then if k.required then none else some none else some (some k)

def refresh (s : Layout) : Option Layout := do
  return {
    s with
    possible := ← refresh? s.cursor s.possible
    outer := ← s.outer.mapM (refresh? s.cursor) }

/-- Goes to the next token. Outside brackets a new line allows a key again; in front of a key no
tab may stand. -/
def skipSpace (s : Layout) : Layout :=
  let mayTab := s.inFlow || !s.allowsKey
  let blanks := s.cursor.rest.takeWhile fun x => x = ' ' || mayTab && x = '\t'
  let c := s.cursor.skip blanks.length
  let c := if c.rest.head? = some '#' then c.skip (c.rest.takeWhile (!isBreak ·)).length else c
  if h : c.rest.head?.any isBreak then
    have : c.next.rest.length < s.cursor.rest.length := by
      have h₁ : c.rest ≠ [] := by
        intro hc
        simp [hc] at h
      have h₂ : c.rest.length ≤ s.cursor.rest.length := by
        show (if _ then _ else _ : Cursor).rest.length ≤ _
        split
        · exact Nat.le_trans (Cursor.length_skip_le ..) (Cursor.length_skip_le ..)
        · exact Cursor.length_skip_le ..
      exact Nat.lt_of_lt_of_le (Cursor.length_next_lt h₁) h₂
    { s with cursor := c.next, allowsKey := s.allowsKey || !s.inFlow }.skipSpace
  else { s with cursor := c }
termination_by s.cursor.rest.length

def takeSign (t : Token) (s : Layout) : Layout := { s.push t with cursor := s.cursor.next }

def takeMarker (t : Token) (s : Layout) : Option Layout := do
  let s ← s.closeAll.dropKey
  return { s.push t with cursor := s.cursor.skip 3, allowsKey := false }

def takeDirective (s : Layout) : Option Layout := do
  let s ← s.closeAll.dropKey
  let (d, rest) ← Directive.take s.cursor.next.rest
  let c := s.cursor.skip (s.cursor.rest.length - rest.length)
  return { s.push (.directive d) with cursor := ← c.endLine?, allowsKey := false }

def takeOpening (t : Token) (s : Layout) : Option Layout := do
  let s ← s.markKey
  return { s.takeSign t with possible := none, outer := s.possible :: s.outer, allowsKey := true }

def takeClosing (t : Token) (s : Layout) : Option Layout := do
  let s ← s.dropKey
  match s.outer with
  | [] => none
  | possible :: outer => return { s.takeSign t with possible, outer, allowsKey := false }

def takeSeparator (s : Layout) : Option Layout := do
  let s ← s.dropKey
  return { s.takeSign .separator with allowsKey := true }

def takeItem (s : Layout) : Option Layout :=
  if !s.inFlow ∧ !s.allowsKey then none
  else do
    let s ← (s.openHere .blockList).dropKey
    return { s.takeSign .item with allowsKey := true }

def takeKey (s : Layout) : Option Layout :=
  if !s.inFlow ∧ !s.allowsKey then none
  else do
    let s ← (s.openHere .blockMapping).dropKey
    return { s.takeSign .key with allowsKey := !s.inFlow }

/-- Takes the colon in front of a value. If a key may have begun before it, that was a key. -/
def takeValue (s : Layout) : Option Layout :=
  match s.possible with
  | some k =>
    let s := (s.insertAt k.position .key).openAt k.cursor.column k.position .blockMapping
    some { s.takeSign .value with possible := none, allowsKey := false }
  | none =>
    if !s.inFlow ∧ !s.allowsKey then none
    else some { (s.openHere .blockMapping).takeSign .value with allowsKey := !s.inFlow }

def takeNamed (t : Token) (rest : List Char) (s : Layout) : Option Layout := do
  let s ← s.markKey
  let c := s.cursor.skip (s.cursor.rest.length - rest.length)
  return { s.push t with cursor := c, allowsKey := false }

def takeReference (s : Layout) : Option Layout := do
  let (name, rest) ← Anchor.take s.cursor.next.rest
  s.takeNamed (.reference name) rest

def takeAnchor (s : Layout) : Option Layout := do
  let (name, rest) ← Anchor.take s.cursor.next.rest
  s.takeNamed (.anchor name) rest

def takeTag (s : Layout) : Option Layout := do
  let (t, rest) ← ShortTag.take s.inFlow s.cursor.rest
  s.takeNamed (.tag t) rest

def takeBlock (folds : Bool) (s : Layout) : Option Layout := do
  let s ← s.dropKey
  let (text, c) ← Block.take folds s.least s.cursor.next
  let style := if folds then .folded else .literal
  return { s.push (.scalar (String.ofList text) style) with cursor := c, allowsKey := true }

def takeQuoted (quote : Char) (s : Layout) : Option Layout := do
  let s ← s.markKey
  let (text, c) ← Quoted.take quote s.cursor.next
  return { s.push (.scalar (String.ofList text) .quoted) with cursor := c, allowsKey := false }

def takePlain (s : Layout) : Option Layout := do
  let s ← s.markKey
  let p ← Plain.take s.inFlow s.least s.cursor
  return {
    s.push (.scalar (String.ofList p.text) .plain) with
    cursor := p.cursor, allowsKey := p.atNewLine }

def startsPlain (inFlow : Bool) (x : Char) (rest : List Char) : Bool :=
  if x = '-' then !rest.head?.any isBlank
  else if x = '?' ∨ x = ':' then !inFlow && !atBlank rest
  else !isWhite x && !",[]\x7b\x7d#&*!|>'\"%@`".toList.contains x

def take (s : Layout) : Option Layout :=
  match s.cursor.rest with
  | [] => none
  | x :: rest =>
    if s.cursor.column = 0 ∧ x = '%' then s.takeDirective
    else if s.cursor.atMarker "---" then s.takeMarker .documentStart
    else if s.cursor.atMarker "..." then s.takeMarker .documentEnd
    else if x = '[' then s.takeOpening .listStart
    else if x = '{' then s.takeOpening .mappingStart
    else if x = ']' then s.takeClosing .listEnd
    else if x = '}' then s.takeClosing .mappingEnd
    else if x = ',' then s.takeSeparator
    else if x = '-' ∧ atBlank rest then s.takeItem
    else if x = '?' ∧ (s.inFlow ∨ atBlank rest) then s.takeKey
    else if x = ':' ∧ (s.inFlow ∨ atBlank rest) then s.takeValue
    else if x = '*' then s.takeReference
    else if x = '&' then s.takeAnchor
    else if x = '!' then s.takeTag
    else if x = '|' ∧ !s.inFlow then s.takeBlock false
    else if x = '>' ∧ !s.inFlow then s.takeBlock true
    else if x = '\'' ∨ x = '"' then s.takeQuoted x
    else if startsPlain s.inFlow x rest then s.takePlain
    else none

/-- Takes all tokens. Every token is spelled by a character at least. -/
def run (s : Layout) : Option (List Token) :=
  match s.skipSpace.refresh with
  | none => none
  | some s' =>
    if s'.cursor.atEnd then (s'.closeAll.dropKey).map (·.tokens.reverse)
    else
      match (if s'.inFlow then s' else s'.closeRightOf s'.cursor.column).take with
      | none => none
      | some next => if next.cursor.rest.length < s.cursor.rest.length then next.run else none
termination_by s.cursor.rest.length

end Layout

def Token.ofChars (cs : List Char) : Option (List Token) :=
  let start : Cursor := ⟨cs, 0, 0, 0⟩
  Layout.run { cursor := if cs.head? = some '\uFEFF' then start.next else start }

end GLBindings.Yaml
