import GLBindings.Xml.Markup

namespace GLBindings.Xml

abbrev Scope := List (String × String)

namespace Scope

def reserved (path : List String) : String :=
  "/".intercalate ("http:" :: "" :: ".".intercalate ["www", "w3", "org"] :: path)

def xmlSpace : String := reserved ["XML", "1998", "namespace"]

def declarationSpace : String := reserved ["2000", "xmlns", ""]

def binds (a : Attribute) : Bool := a.name.scope = "xmlns"

def bindsDefault (a : Attribute) : Bool := !binds a && a.name.base = "xmlns"

def isOrdinary (a : Attribute) : Bool := !binds a && !bindsDefault a

/-- A binding may not use the reserved namespaces. Only the prefix `xml` may, and must, name its
own. -/
def isAllowed (a : Attribute) : Bool :=
  if binds a then
    a.value ≠ declarationSpace && decide (a.name.base = "xml" ↔ a.value = xmlSpace)
  else if bindsDefault a then a.value ≠ declarationSpace && a.value ≠ xmlSpace
  else true

def bindings (attributes : List Attribute) : Scope :=
  (attributes.filter fun a => binds a && a.value ≠ xmlSpace).map fun a => (a.name.base, a.value)

def spaceOf (scope : Scope) (n : Name) : Option (Option String) :=
  if n.scope = "xml" then some (some xmlSpace)
  else if n.scope = "" then some none
  else (scope.lookup n.scope).map some

/-- The scope inside an element, if its tag is fine: no prefix is bound twice, every prefix that is
used is bound, and no two attributes have the same namespace and name. -/
def enter (scope : Scope) (name : Name) (attributes : List Attribute) : Option Scope := do
  let own := bindings attributes
  let inner := own ++ scope
  let spaces ← (attributes.filter isOrdinary).mapM fun a => (spaceOf inner a.name).map (·, a.name.base)
  if attributes.all isAllowed ∧ (own.map (·.1)).Nodup ∧ spaces.Nodup
      ∧ (name.scope = "" ∨ name.scope ∈ inner.map (·.1)) ∧ name.scope ≠ "xmlns" then
    some inner
  else none

end Scope

structure Frame where
  name : Name
  attributes : List Attribute
  scope : Scope
  children : List Node

namespace Frame

/-- Adds a child. Text joins the text in front of it. -/
def add (f : Frame) : Node → Frame
  | .text s =>
    match f.children with
    | .text t :: rest => { f with children := .text (t ++ s) :: rest }
    | children => { f with children := .text s :: children }
  | n => { f with children := n :: f.children }

def close (f : Frame) : Node := .element f.name (f.attributes.filter Scope.isOrdinary) f.children.reverse

end Frame

inductive Progress where
  | before
  | inside (frame : Frame) (outer : List Frame)
  | after (root : Node)

namespace Progress

def complete (n : Node) : List Frame → Progress
  | [] => after n
  | f :: outer => inside (f.add n) outer

def start (name : Name) (attributes : List Attribute) (closed : Bool) (outer : List Frame) :
    Option Progress := do
  let scope ← Scope.enter (outer.head?.elim [] (·.scope)) name attributes
  let frame : Frame := ⟨name, attributes, scope, []⟩
  return if closed then complete frame.close outer else inside frame outer

def isSpacing : Piece → Bool
  | .plain c => isSpace c
  | .referenced _ => false

/-- Outside the root only spacing, comments and instructions may stand. -/
def stepOutside (p : Progress) : Markup → Option Progress
  | .text pieces => if pieces.all isSpacing then some p else none
  | .comment _ => some p
  | .instruction _ _ => some p
  | _ => none

def step : Progress → Markup → Option Progress
  | before, .startTag name attributes closed => start name attributes closed []
  | inside f outer, .startTag name attributes closed => start name attributes closed (f :: outer)
  | inside f outer, .endTag name => if f.name = name then some (complete f.close outer) else none
  | inside f outer, .text pieces =>
    some (inside (f.add (.text (String.ofList (Piece.text pieces)))) outer)
  | inside f outer, .data cs =>
    some (inside (f.add (.text (String.ofList (Piece.text (cs.map .plain))))) outer)
  | inside f outer, .comment s => some (inside (f.add (.comment s)) outer)
  | inside f outer, .instruction target content =>
    some (inside (f.add (.instruction target content)) outer)
  | p, m => stepOutside p m

end Progress

def ofMarkup (ms : List Markup) : Option Node :=
  match ms.foldlM Progress.step .before with
  | some (.after root) => some root
  | _ => none

namespace Declaration

def skipSpacing (cs : List Char) : Option (List Char) :=
  if cs.head?.any isSpace ∨ "?>".toList.isPrefixOf cs then some (Markup.skipSpace cs) else none

def skipAttribute (letters : List Char) (cs : List Char) : Option (List Char) :=
  if letters.isPrefixOf cs then (Markup.takeAttribute cs).map (·.2.2) else none

def startsWith (letters : String) (cs : List Char) : Bool := letters.toList.isPrefixOf cs

/-- Skips the declaration of a document, of which only the version is needed. -/
def skip (cs : List Char) : Option (List Char) := do
  let cs ← skipSpacing cs >>= skipAttribute "version".toList >>= skipSpacing
  let cs ← if startsWith "encoding" cs then skipAttribute [] cs >>= skipSpacing else some cs
  let cs ← if startsWith "standalone" cs then skipAttribute [] cs else some cs
  match Markup.skipSpace cs with
  | '?' :: '>' :: rest => some rest
  | _ => none

end Declaration

def body (cs : List Char) : Option (List Char) :=
  let cs := if cs.head? = some '\uFEFF' then cs.drop 1 else cs
  if "<?xml ".toList.isPrefixOf cs then Declaration.skip (cs.drop 5) else some cs

def read? (s : String) : Option Element :=
  if s.toList.all isLegal then
    body s.toList >>= Markup.ofChars >>= ofMarkup >>= Node.element?
  else none

end GLBindings.Xml
