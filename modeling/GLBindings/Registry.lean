import GLBindings.Level

namespace GLBindings

inductive RegistryFault where
  | malformed
  | unexpectedRoot (element : String)
  | unexpectedElement (parent element : String)
  | missingAttribute (element attr : String)
  | missingElement (parent element : String)
  | invalidAttribute (element attr value reason : String)
deriving DecidableEq, Repr

def RegistryFault.message : RegistryFault → String
  | .malformed => "malformed registry document: not well-formed"
  | .unexpectedRoot e => "expected <registry> root element, found <" ++ e ++ ">"
  | .unexpectedElement p e => "unexpected element <" ++ e ++ "> inside <" ++ p ++ ">"
  | .missingAttribute e a => "<" ++ e ++ "> is missing required attribute '" ++ a ++ "'"
  | .missingElement p e => "<" ++ p ++ "> is missing required element <" ++ e ++ ">"
  | .invalidAttribute e a v reason =>
    "invalid value '" ++ v ++ "' for attribute '" ++ a ++ "' of <" ++ e ++ ">: " ++ reason

structure TypeEntry where
  name : Option String
  api : Option String
  text : String
deriving DecidableEq, Repr

structure EnumEntry where
  name : String
  value : String
  /-- The groups that the value names itself. They stand in place of the group of its block. -/
  groups : Option (List String)
  api : Option String
deriving DecidableEq, Repr

inductive EnumItem where
  | value (entry : EnumEntry)
  | unused
deriving DecidableEq, Repr

def EnumItem.entry? : EnumItem → Option EnumEntry
  | .value e => some e
  | .unused => none

structure EnumBlock where
  scope : Option String
  group : Option String
  kind : Option String
  items : List EnumItem
deriving DecidableEq, Repr

def EnumBlock.entries (b : EnumBlock) : List EnumEntry := b.items.filterMap EnumItem.entry?

inductive Fragment where
  | text (s : String)
  | platformType (s : String)
  | name (s : String)
deriving DecidableEq, Repr

namespace Fragment

def content : Fragment → String
  | .text s => s
  | .platformType s => s
  | .name s => s

def name? : Fragment → Option String
  | .name s => some s
  | _ => none

end Fragment

structure Declaration where
  group : Option String
  fragments : List Fragment
deriving DecidableEq, Repr

def Declaration.name? (d : Declaration) : Option String := d.fragments.findSome? Fragment.name?

structure CommandEntry where
  proto : Declaration
  params : List Declaration
  aliasOf : Option String
  vectorForm : Option String
deriving DecidableEq, Repr

structure CommandBlock where
  scope : Option String
  commands : List CommandEntry
deriving DecidableEq, Repr

inductive Registry.Node where
  | comment (text : String)
  | types (entries : List TypeEntry)
  | kinds
  | groups
  | enums (block : EnumBlock)
  | commands (block : CommandBlock)
  | level (level : Level)
  | extensions (list : List Extension)
deriving DecidableEq, Repr

structure Registry where
  nodes : List Registry.Node
deriving DecidableEq, Repr

namespace Registry

def Node.types? : Node → Option (List TypeEntry)
  | .types l => some l
  | _ => none

def Node.enums? : Node → Option EnumBlock
  | .enums b => some b
  | _ => none

def Node.commands? : Node → Option CommandBlock
  | .commands b => some b
  | _ => none

def Node.level? : Node → Option Level
  | .level l => some l
  | _ => none

def Node.extensions? : Node → Option (List Extension)
  | .extensions l => some l
  | _ => none

/-- The first list of types. Later ones are not looked at. -/
def types? (r : Registry) : Option (List TypeEntry) := r.nodes.findSome? Node.types?

def enumBlocks (r : Registry) : List EnumBlock := r.nodes.filterMap Node.enums?

def commands? (r : Registry) : Option CommandBlock := r.nodes.findSome? Node.commands?

def levels (r : Registry) : List Level := r.nodes.filterMap Node.level?

def extensions (r : Registry) : List Extension := (r.nodes.filterMap Node.extensions?).flatten

end Registry

end GLBindings
