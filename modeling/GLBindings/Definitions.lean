import GLBindings.Registry
import GLBindings.Text.Letter
import GLBindings.Table
import GLBindings.Options
import GLBindings.Requirements

namespace GLBindings

structure CType where
  lowLevel : String
  /-- The group that the registry gives the type, or the platform type if it gives none. -/
  highLevel : String
  frontModifiers : Option String
  backModifiers : Option String
deriving DecidableEq, Repr

namespace CType

def textOf (fs : List Fragment) : String := String.join (fs.map Fragment.content)

def splitAtPlatformType : List Fragment → Option (List Fragment × String × List Fragment)
  | [] => none
  | .platformType t :: rest => some ([], t, rest)
  | f :: rest => (splitAtPlatformType rest).map fun (before, t, after) => (f :: before, t, after)

def leadingText? : List Fragment → Option String
  | .text s :: _ => some s
  | _ => none

/-- The type of a declaration, whatever name it declares. Without a platform type all of its text
is the type. Of several platform types the first counts. -/
def ofDeclaration (d : Declaration) : CType :=
  let fs := d.fragments.filter (·.name?.isNone)
  match splitAtPlatformType fs with
  | some (before, t, after) =>
    let low := Text.trim t
    { lowLevel := low
      highLevel := d.group.getD low
      frontModifiers := Text.trim? (textOf before)
      backModifiers := (leadingText? after).bind Text.trim? }
  | none =>
    let low := Text.trim (textOf fs)
    { lowLevel := low, highLevel := d.group.getD low, frontModifiers := none, backModifiers := none }

end CType

structure Parameter where
  name : String
  type : CType
deriving DecidableEq, Repr

structure Signature where
  name : String
  returnType : CType
  params : List Parameter
deriving DecidableEq, Repr

def Declaration.nameIn (parent : String) (d : Declaration) : Except RegistryFault String :=
  match d.name? with
  | some n => .ok n
  | none => .error (.missingElement parent "name")

def Parameter.ofDeclaration (d : Declaration) : Except RegistryFault Parameter := do
  let name ← d.nameIn "param"
  return ⟨name, .ofDeclaration d⟩

namespace Signature

def ofEntry (e : CommandEntry) : Except RegistryFault Signature := do
  let name ← e.proto.nameIn "proto"
  let params ← e.params.mapM Parameter.ofDeclaration
  return { name, params, returnType := .ofDeclaration e.proto }

/-- The signatures of the required commands, in the order of the registry. Every command must have
a name, but only a required one must name its parameters. -/
def extract (required : List String) : List CommandEntry → Except RegistryFault (List Signature)
  | [] => .ok []
  | e :: rest => do
    let name ← e.proto.nameIn "proto"
    if name ∈ required then
      let s ← ofEntry e
      let later ← extract required rest
      return s :: later
    else extract required rest

end Signature

structure EnumValue where
  name : String
  value : String
deriving DecidableEq, Repr

structure EnumGroup where
  name : String
  isBitmask : Bool
  values : List EnumValue
deriving DecidableEq, Repr

namespace EnumGroup

def groupsOf (b : EnumBlock) (e : EnumEntry) : List String := e.groups.getD b.group.toList

def addValue (values : List EnumValue) (v : EnumValue) : List EnumValue :=
  if values.any (·.name = v.name) then values else values ++ [v]

def enter (v : EnumValue) (t : Table String (List EnumValue)) (group : String) :
    Table String (List EnumValue) :=
  t.insert group (addValue ((t.get? group).getD []) v)

def enterEntry (required : List String) (b : EnumBlock) (t : Table String (List EnumValue))
    (e : EnumEntry) : Table String (List EnumValue) :=
  if e.name ∈ required then (groupsOf b e).foldl (enter ⟨e.name, e.value⟩) t else t

def enterBlock (required : List String) (t : Table String (List EnumValue)) (b : EnumBlock) :
    Table String (List EnumValue) :=
  b.entries.foldl (enterEntry required b) t

def collect (required : List String) (blocks : List EnumBlock) : Table String (List EnumValue) :=
  blocks.foldl (enterBlock required) ∅

def ofBlock (groups : Table String (List EnumValue)) (b : EnumBlock) : Option EnumGroup := do
  let name ← b.group
  let values ← groups.get? name
  return ⟨name, b.kind = some "bitmask", values⟩

/-- One group for each block that declares one with a required value, in the order of the blocks.
Several blocks may declare the same group. -/
def extract (required : List String) (blocks : List EnumBlock) : List EnumGroup :=
  blocks.filterMap (ofBlock (collect required blocks))

end EnumGroup

/-- The text of every type except the one that includes the platform header. -/
def TypeEntry.statements (l : List TypeEntry) : List String :=
  (l.filter fun t => t.name ≠ some "khrplatform").map (·.text)

structure Definitions where
  feature : Feature
  requirements : Requirements
  types : List String
  enums : List EnumGroup
  commands : List Signature
deriving DecidableEq

inductive DefinitionsFault where
  | resolve (e : ResolveError)
  | registry (e : RegistryFault)
deriving DecidableEq, Repr

def Definitions.ofRegistry (r : Registry) (t : Targets) : Except DefinitionsFault Definitions := do
  let resolved ← (Resolved.ofTargets t.features r.levels r.extensions t.profile).mapError .resolve
  let required := resolved.requirements
  let signatures ← match r.commands? with
    | some block => (Signature.extract required.commands.keys block.commands).mapError .registry
    | none => .ok []
  return {
    feature := resolved.feature
    requirements := required
    types := TypeEntry.statements (r.types?.getD [])
    enums := EnumGroup.extract required.enums.keys r.enumBlocks
    commands := signatures }

end GLBindings
