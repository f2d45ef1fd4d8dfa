import GLBindings.Registry
import GLBindings.Text
import GLBindings.Xml.Reader

namespace GLBindings.Registry

open Xml (Element)

abbrev Checked := Except RegistryFault

variable {α : Type}

def unexpected (parent child : Element) : Checked α :=
  .error (.unexpectedElement parent.tag child.tag)

def required (e : Element) (attr : String) : Checked String :=
  match e.attribute? attr with
  | some s => .ok s
  | none => .error (.missingAttribute e.tag attr)

def attributeAs (read : String → Except String α) (e : Element) (attr : String) :
    Checked (Option α) :=
  match e.attribute? attr with
  | none => .ok none
  | some s => ((read s).map some).mapError (.invalidAttribute e.tag attr s)

def requiredAs (read : String → Except String α) (e : Element) (attr : String) : Checked α := do
  match ← attributeAs read e attr with
  | some a => return a
  | none => throw (.missingAttribute e.tag attr)

def readName [Named α] (s : String) : Except String α :=
  (Named.read s : Except UnknownName α).mapError UnknownName.message

def readVersion (s : String) : Except String Version :=
  (Version.read s).mapError Version.Fault.message

def typeEntry (parent e : Element) : Checked TypeEntry :=
  if e.tag = "type" then .ok ⟨e.attribute? "name", e.attribute? "api", e.content⟩
  else unexpected parent e

def enumItem (parent e : Element) : Checked EnumItem :=
  match e.tag with
  | "enum" => do
    let name ← required e "name"
    let value ← required e "value"
    return .value ⟨name, value, (e.attribute? "group").map (Text.splitText ','), e.attribute? "api"⟩
  | "unused" => .ok .unused
  | _ => unexpected parent e

def enumBlock (e : Element) : Checked EnumBlock := do
  let items ← e.elements.mapM (enumItem e)
  return {
    items
    scope := e.attribute? "namespace"
    group := e.attribute? "group"
    kind := e.attribute? "type" }

/-- The fragment that a child of a declaration stands for. Comments and instructions stand for
none. -/
def fragment? (parent : Element) : Xml.Node → Checked (Option Fragment)
  | .text s => .ok (some (.text s))
  | .element name attributes children =>
    let e : Element := ⟨name, attributes, children⟩
    match e.tag with
    | "ptype" => .ok (some (.platformType e.content))
    | "name" => .ok (some (.name e.content))
    | _ => unexpected parent e
  | _ => .ok none

def declaration (e : Element) : Checked Declaration := do
  let fragments ← e.children.mapM (fragment? e)
  return ⟨e.attribute? "group", fragments.filterMap id⟩

inductive CommandPart where
  | proto (d : Declaration)
  | param (d : Declaration)
  | aliasOf (name : String)
  | vectorForm (name : String)
  | opcode
deriving DecidableEq, Repr

namespace CommandPart

def proto? : CommandPart → Option Declaration
  | proto d => some d
  | _ => none

def param? : CommandPart → Option Declaration
  | param d => some d
  | _ => none

def aliasOf? : CommandPart → Option String
  | aliasOf n => some n
  | _ => none

def vectorForm? : CommandPart → Option String
  | vectorForm n => some n
  | _ => none

end CommandPart

def commandPart (parent e : Element) : Checked CommandPart :=
  match e.tag with
  | "proto" => .proto <$> declaration e
  | "param" => .param <$> declaration e
  | "alias" => .aliasOf <$> required e "name"
  | "vecequiv" => .vectorForm <$> required e "name"
  | "glx" => .ok .opcode
  | _ => unexpected parent e

/-- Of several prototypes, or other parts that stand alone, the last one counts. -/
def commandEntry (parent e : Element) : Checked CommandEntry :=
  if e.tag = "command" then do
    let parts ← e.elements.mapM (commandPart e)
    match (parts.filterMap CommandPart.proto?).getLast? with
    | none => throw (.missingElement e.tag "proto")
    | some proto =>
      return {
        proto
        params := parts.filterMap CommandPart.param?
        aliasOf := (parts.filterMap CommandPart.aliasOf?).getLast?
        vectorForm := (parts.filterMap CommandPart.vectorForm?).getLast? }
  else unexpected parent e

def commandBlock (e : Element) : Checked CommandBlock := do
  return ⟨e.attribute? "namespace", ← e.elements.mapM (commandEntry e)⟩

def entity (parent e : Element) : Checked Entity :=
  match e.tag with
  | "type" => .type <$> required e "name"
  | "enum" => .enum <$> required e "name"
  | "command" => .command <$> required e "name"
  | _ => unexpected parent e

/-- A block's entities are looked at before its attributes. -/
def block (e : Element) : Checked Block := do
  let entries ← e.elements.mapM (entity e)
  let profile ← attributeAs readName e "profile"
  let api ← attributeAs readName e "api"
  return { profile, api, entries }

inductive Change where
  | require (b : Block)
  | remove (b : Block)
deriving DecidableEq, Repr

namespace Change

def require? : Change → Option Block
  | require b => some b
  | remove _ => none

def remove? : Change → Option Block
  | require _ => none
  | remove b => some b

end Change

def change (parent e : Element) : Checked Change :=
  match e.tag with
  | "require" => .require <$> block e
  | "remove" => .remove <$> block e
  | _ => unexpected parent e

def level (e : Element) : Checked Level := do
  let api ← requiredAs readName e "api"
  let version ← requiredAs readVersion e "number"
  let name ← required e "name"
  let changes ← e.elements.mapM (change e)
  return {
    api, name, version
    requires := changes.filterMap Change.require?
    removes := changes.filterMap Change.remove? }

def extension (parent e : Element) : Checked Extension :=
  if e.tag = "extension" then do
    let name ← required e "name"
    let changes ← e.elements.mapM (change e)
    return {
      name
      supported := ((e.attribute? "supported").map (Text.splitText '|')).getD []
      requires := changes.filterMap Change.require?
      removes := changes.filterMap Change.remove? }
  else unexpected parent e

def node (root e : Element) : Checked Node :=
  match e.tag with
  | "comment" => .ok (.comment e.content)
  | "types" => .types <$> e.elements.mapM (typeEntry e)
  | "kinds" => .ok .kinds
  | "groups" => .ok .groups
  | "enums" => .enums <$> enumBlock e
  | "commands" => .commands <$> commandBlock e
  | "feature" => .level <$> level e
  | "extensions" => .extensions <$> e.elements.mapM (extension e)
  | _ => unexpected root e

def ofElement (root : Element) : Checked Registry :=
  if root.tag = "registry" then Registry.mk <$> root.elements.mapM (node root)
  else .error (.unexpectedRoot root.tag)

def read (s : String) : Checked Registry :=
  match Xml.read? s with
  | some root => ofElement root
  | none => .error .malformed

end GLBindings.Registry
