namespace GLBindings.Xml

structure Name where
  /-- What stands before the colon; empty if nothing does. -/
  scope : String
  base : String
deriving DecidableEq, Repr

structure Attribute where
  name : Name
  value : String
deriving DecidableEq, Repr

inductive Node where
  | element (name : Name) (attributes : List Attribute) (children : List Node)
  | text (s : String)
  | comment (s : String)
  | instruction (target content : String)
deriving Inhabited

structure Element where
  name : Name
  attributes : List Attribute
  children : List Node

namespace Node

def element? : Node → Option Element
  | element name attributes children => some ⟨name, attributes, children⟩
  | _ => none

mutual

def content : Node → String
  | element _ _ children => contents children
  | text s => s
  | comment _ => ""
  | instruction _ _ => ""

def contents : List Node → String
  | [] => ""
  | n :: ns => n.content ++ contents ns

end

end Node

namespace Element

def tag (e : Element) : String := e.name.base

def elements (e : Element) : List Element := e.children.filterMap Node.element?

def content (e : Element) : String := Node.contents e.children

def attribute? (e : Element) (key : String) : Option String :=
  (e.attributes.find? (·.name = ⟨"", key⟩)).map (·.value)

end Element

end GLBindings.Xml
