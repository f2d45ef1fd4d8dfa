import GLBindings.Definitions
import GLBindings.Symbol
import GLBindings.Table
import GLBindings.Requirements

namespace GLBindings

namespace Binding

structure Enum where
  name : String
  registryName : String
  scope : String
  isBitmask : Bool
  values : List EnumValue
deriving DecidableEq, Repr

namespace Enum

def ofGroup (naming : Naming) (g : EnumGroup) : Enum where
  name := naming.enumName g.name
  registryName := g.name
  scope := naming.enumNamespace
  isBitmask := g.isBitmask
  values := g.values.map fun v => { v with name := naming.enumValueName v.name }

def table (naming : Naming) (groups : List EnumGroup) : Table String Enum :=
  .ofList (groups.map fun g => (g.name, ofGroup naming g))

end Enum

structure TypeRef where
  lowLevel : String
  highLevel : Option Enum
  frontModifiers : Option String
  backModifiers : Option String
deriving DecidableEq, Repr

def TypeRef.resolve (enums : Table String Enum) (t : CType) : TypeRef where
  lowLevel := t.lowLevel
  highLevel := enums.get? t.highLevel
  frontModifiers := t.frontModifiers
  backModifiers := t.backModifiers

structure Param where
  type : TypeRef
  name : String
deriving DecidableEq, Repr

/-- How a value crosses the border of a wrapper. -/
inductive Conversion where
  | cast (param : String) (target : TypeRef)
  | methodCall (param method : String) (args : List String)
deriving DecidableEq, Repr

inductive CommandKind where
  | ordinary
  | generator
  | deleter
deriving DecidableEq, Repr

structure Implementation where
  returnType : TypeRef
  params : List Param
  returnConversion : Conversion
  paramConversions : List Conversion
deriving DecidableEq, Repr

namespace Implementation

def returnVariable : String := "retval"

def casting (enums : Table String Enum) (s : Signature) : Implementation :=
  let returnType := TypeRef.resolve enums s.returnType
  let params := s.params.map fun p => Param.mk (TypeRef.resolve enums p.type) p.name
  { returnType, params
    returnConversion := .cast returnVariable returnType
    paramConversions := params.map fun p => .cast p.name p.type }

end Implementation

structure Command where
  name : String
  registryName : String
  scope : String
  kind : CommandKind
  implementation : Implementation
deriving DecidableEq, Repr

namespace Command

def ofSignature (naming : Naming) (enums : Table String Enum) (s : Signature) : Command where
  name := naming.commandName s.name
  registryName := s.name
  scope := naming.commandNamespace
  kind := .ordinary
  implementation := .casting enums s

def table (naming : Naming) (enums : Table String Enum) (signatures : List Signature) :
    Table String Command :=
  .ofList (signatures.map fun s => (s.name, ofSignature naming enums s))

end Command

structure Level where
  api : Api
  version : Version
  commands : List Command
deriving DecidableEq, Repr

structure MissingCommand where
  name : String
deriving DecidableEq, Repr

def MissingCommand.message (e : MissingCommand) : String :=
  "required command '" ++ e.name ++ "' was not found in the registry"

namespace Level

def enter (t : Table Version (List Command)) (a : Version × Command) :
    Table Version (List Command) :=
  t.insert a.1 ((t.get? a.1).getD [] ++ [a.2])

def enterRequired (commands : Table String Command) (t : Table Version (List Command))
    (e : String × Version) : Except MissingCommand (Table Version (List Command)) :=
  match commands.get? e.1 with
  | some c => .ok (enter t (e.2, c))
  | none => .error ⟨e.1⟩

/-- One level for each version, the oldest first. Within a level the commands keep the order of the
requirements. -/
def group (api : Api) (r : Requirements) (commands : Table String Command) :
    Except MissingCommand (List Level) := do
  let t ← r.commands.entries.foldlM (enterRequired commands) ∅
  let levels := t.entries.map fun e => Level.mk api e.1 e.2
  return levels.mergeSort fun l m => decide (l.version ≤ m.version)

end Level

end Binding

structure Binding where
  /-- The target, or the merged feature if there are several targets. -/
  feature : Feature
  requirements : Requirements
  types : List String
  enums : Table String Binding.Enum
  levels : List Binding.Level
deriving DecidableEq

inductive BindingFault where
  | definitions (e : DefinitionsFault)
  | missingCommand (e : Binding.MissingCommand)
deriving DecidableEq, Repr

namespace Binding

def ofDefinitions (naming : Naming) (d : Definitions) : Except MissingCommand Binding := do
  let enums := Enum.table naming d.enums
  let levels ← Level.group d.feature.api d.requirements (Command.table naming enums d.commands)
  return { feature := d.feature, requirements := d.requirements, types := d.types, enums, levels }

def ofRegistry (r : Registry) (o : Options) : Except BindingFault Binding := do
  let d ← (Definitions.ofRegistry r o.targets).mapError .definitions
  (ofDefinitions o.naming d).mapError .missingCommand

end Binding

end GLBindings
