import GLBindings.Options
import GLBindings.Yaml.Node

namespace GLBindings

namespace Options

open Yaml (Node Scalar Tag)

inductive Shape where
  | text
  | name
  | flag
  | path
  | list (item : Shape)
  | fields (l : List (String × Shape))

namespace Shape

def isNullWord (s : String) : Bool := s = "~" || s = "null" || s = "Null" || s = "NULL"

def isAbsent (s : Scalar) : Bool := s.style = .plain && s.text.isEmpty

/-- A name is the text of a scalar, or the tag of one that is absent or null. -/
def readName (s : Scalar) : Option String :=
  match s.tag.bind Tag.localName? with
  | none => some s.text
  | some n => if s.style = .plain ∧ (s.text.isEmpty ∨ isNullWord s.text) then some n else none

def readFlag (s : Scalar) : Option Bool :=
  if s.style = .plain ∨ s.style = .literal ∧ s.tag = some Tag.bool then
    if s.text ∈ ["true", "True", "TRUE"] then some true
    else if s.text ∈ ["false", "False", "FALSE"] then some false
    else none
  else none

def readPath (s : Scalar) : Option Json :=
  if s.style ≠ .plain then some (.string s.text)
  else if s.tag = some Tag.null then if isNullWord s.text then some .null else none
  else if s.tag.isNone ∧ (s.text.isEmpty ∨ isNullWord s.text) then some .null
  else some (.string s.text)

/-- What a scalar stands for. A list or a section may be absent, but not null. -/
def ofScalar (s : Scalar) : Shape → Option Json
  | text => some (.string s.text)
  | name => (readName s).map .string
  | flag => (readFlag s).map .bool
  | path => readPath s
  | list _ => if isAbsent s then some (.array []) else none
  | fields _ => if isAbsent s then some (.object []) else none

mutual

def ofNode (shape : Shape) : Node → Option Json
  | .scalar s => ofScalar s shape
  | .list items =>
    match shape with
    | list item => (ofItems item items).map .array
    | _ => none
  | .mapping given =>
    match shape with
    | fields l => (ofFields l given).map .object
    | _ => none

def ofItems (item : Shape) : List Node → Option (List Json)
  | [] => some []
  | n :: ns => do return (← ofNode item n) :: (← ofItems item ns)

def ofFields (l : List (String × Shape)) : List (String × Node) → Option (List (String × Json))
  | [] => some []
  | (k, n) :: rest => do return (k, ← ofNode (← l.lookup k) n) :: (← ofFields l rest)

end

end Shape

def shape : Shape :=
  .fields [
    ("naming", .fields [("enum_case", .name), ("function_case", .name), ("enum_value_case", .name),
      ("omit_prefix", .flag), ("enum_namespace", .text), ("command_namespace", .text)]),
    ("targets", .fields [("apis", .list .name), ("versions", .list .text),
      ("intersect_features", .flag), ("profile", .name)]),
    ("output", .fields [("path", .path), ("format", .name)])]

def ofYaml (s : String) : Except OptionsFault Options :=
  match Yaml.read? s >>= shape.ofNode with
  | none => .error .unreadable
  | some j => (ofJson j).mapError fun _ => .unreadable

end Options

end GLBindings
