import GLBindings.Yaml.Layout

namespace GLBindings.Yaml

inductive Node where
  | scalar (s : Scalar)
  | list (items : List Node)
  | mapping (fields : List (String × Node))
deriving Inhabited

namespace Node

def empty : Node := scalar .empty

def text? : Node → Option String
  | scalar s => some s.text
  | _ => none

end Node

structure Reading where
  tokens : List Token
  handles : List (String × Tag)
  /-- The nodes that have anchors. One that is not complete yet cannot be referred to. -/
  anchors : List (String × Option Node) := []

abbrev Reads := StateT Reading Option

namespace Reads

def peek : Reads (Option Token) := return (← get).tokens.head?

def skip : Reads Unit := modify fun r => { r with tokens := r.tokens.tail }

def skip? (t : Token) : Reads Bool := do
  if (← peek) = some t then
    skip
    return true
  else return false

def expect (t : Token) : Reads Unit := do
  if ← skip? t then return else failure

def anchor? : Reads (Option String) := do
  match ← peek with
  | some (.anchor name) =>
    skip
    return some name
  | _ => return none

def tag? : Reads (Option Tag) := do
  match ← peek with
  | some (.tag t) =>
    skip
    if t.handle.isEmpty then return some t.suffix
    match (← get).handles.lookup t.handle with
    | some head => return some (head ++ t.suffix)
    | none => failure
  | _ => return none

def properties : Reads (Option String × Option Tag) := do
  match ← anchor? with
  | some name => return (some name, ← tag?)
  | none =>
    match ← tag? with
    | some t => return (← anchor?, some t)
    | none => return (none, none)

/-- Reads a node that may have an anchor. What is anchored inside it comes later in the text than its
own anchor, and so counts before it. -/
def anchored (anchor : Option String) (read : Reads Node) : Reads Node :=
  match anchor with
  | none => read
  | some name => do
    let place := (← get).anchors.length
    modify fun r => { r with anchors := (name, none) :: r.anchors }
    let n ← read
    modify fun r =>
      { r with anchors := r.anchors.modify (r.anchors.length - 1 - place) fun _ => (name, some n) }
    return n

def resolve (name : String) : Reads Node := do
  match (← get).anchors.lookup name with
  | some (some n) => return n
  | _ => failure

def isLeftOut (ends : List Token) : Reads Bool := return (← peek).any (· ∈ ends)

def itemEnds : List Token := [.item, .key, .value, .blockEnd]

def fieldEnds : List Token := [.key, .value, .blockEnd]

def flowFieldEnds : List Token := [.value, .separator, .mappingEnd]

mutual

/-- The node ahead. Behind a key or its colon, as an `entry`, a list need not be indented. -/
def node (entry : Bool) : Nat → Reads Node
  | 0 => failure
  | n + 1 => do
    match ← peek with
    | some (.reference name) =>
      skip
      resolve name
    | _ =>
      let (anchor, tag) ← properties
      let t ← peek
      if (anchor.isSome || tag.isSome) && !t.any startsNode && !(entry && t = some .item) then
        anchored anchor (return .scalar { Scalar.empty with tag })
      else anchored anchor (content entry tag n)
where
  startsNode : Token → Bool
    | .scalar _ _ => true
    | .listStart => true
    | .mappingStart => true
    | .blockList => true
    | .blockMapping => true
    | _ => false

def content (entry : Bool) (tag : Option Tag) : Nat → Reads Node
  | 0 => failure
  | n + 1 => do
    match ← peek with
    | some (.scalar text style) =>
      skip
      return .scalar ⟨text, style, tag⟩
    | some .listStart =>
      skip
      return .list (← flowItems n)
    | some .mappingStart =>
      skip
      return .mapping (← flowFields n)
    | some .blockList =>
      skip
      let items ← blockItems n
      expect .blockEnd
      return .list items
    | some .blockMapping =>
      skip
      return .mapping (← blockFields n)
    | some .item => if entry then return .list (← blockItems n) else failure
    | _ => failure

def blockItems : Nat → Reads (List Node)
  | 0 => failure
  | n + 1 => do
    if ← skip? .item then
      let item ← if ← isLeftOut itemEnds then pure .empty else node false n
      return item :: (← blockItems n)
    else return []

def blockFields : Nat → Reads (List (String × Node))
  | 0 => failure
  | n + 1 => do
    if ← skip? .blockEnd then return []
    else
      expect .key
      let f ← field false n
      return f :: (← blockFields n)

def field (inFlow : Bool) : Nat → Reads (String × Node)
  | 0 => failure
  | n + 1 => do
    let ends := if inFlow then flowFieldEnds else fieldEnds
    let key ← if ← isLeftOut ends then pure .empty else node (!inFlow) n
    let value ←
      if ← skip? .value then
        if ← isLeftOut ends then pure .empty else node (!inFlow) n
      else pure .empty
    match key.text? with
    | some k => return (k, value)
    | none => failure

def flowItems : Nat → Reads (List Node)
  | 0 => failure
  | n + 1 => do
    if ← skip? .listEnd then return []
    else
      let item ← node false n
      if ← skip? .separator then return item :: (← flowItems n)
      else
        expect .listEnd
        return [item]

/-- The fields of a mapping in braces. A key without its sign has no value. -/
def flowFields : Nat → Reads (List (String × Node))
  | 0 => failure
  | n + 1 => do
    if ← skip? .mappingEnd then return []
    else
      let f ←
        if ← skip? .key then field true n
        else
          match (← node false n).text? with
          | some k => pure (k, .empty)
          | none => failure
      if ← skip? .separator then return f :: (← flowFields n)
      else
        expect .mappingEnd
        return [f]

end

end Reads

namespace Node

def commonHandles : List (String × Tag) :=
  [("!", Tag.ofString "!"), ("!!", Tag.ofString Tag.common)]

/-- Splits off the directives of a document. The version stands at most once, and so does every
handle. -/
def takeHead (versioned : Bool) (handles : List (String × Tag)) :
    List Token → Option (List (String × Tag) × List Token)
  | .directive .version :: rest => if versioned then none else takeHead true handles rest
  | .directive (.handle name tag) :: rest =>
    if (handles.lookup name).isSome then none else takeHead versioned ((name, tag) :: handles) rest
  | rest => some (handles, rest)

def isHeadOrEnd : Token → Bool
  | .directive _ => true
  | .documentStart => true
  | .documentEnd => true
  | _ => false

def ofContent (marked : Bool) (handles : List (String × Tag)) (ts : List Token) : Option Node :=
  if ts.head?.elim true fun t => marked && isHeadOrEnd t then
    if ts.all (· = .documentEnd) then some empty else none
  else do
    let fuel := 4 * (ts.length + 1)
    let (n, r) ← (Reads.node false fuel).run { tokens := ts, handles := handles ++ commonHandles }
    if r.tokens.all (· = .documentEnd) then some n else none

def ofTokens (ts : List Token) : Option Node := do
  let (handles, body) ← takeHead false [] ts
  match body with
  | .documentStart :: rest => ofContent true handles rest
  | _ => if body.length = ts.length then ofContent false handles body else none

end Node

def read? (s : String) : Option Node :=
  if s.toList.all isLegal then Token.ofChars (unifyBreaks s.toList) >>= Node.ofTokens else none

end GLBindings.Yaml
