import GLBindings.Directory
import GLBindings.Invocation
import GLBindings.Options.Yaml
import GLBindings.Output
import GLBindings.Registry.Reader

namespace GLBindings

inductive RunFault where
  | configFile (path : String) (e : FileFault)
  | options (e : OptionsFault)
  | specFile (path : String) (e : FileFault)
  | registry (e : RegistryFault)
  | binding (e : BindingFault)
  | output (e : OutputFault)
deriving DecidableEq, Repr

def DefinitionsFault.message : DefinitionsFault → String
  | .resolve e => e.message
  | .registry e => e.message

def BindingFault.message : BindingFault → String
  | .definitions e => e.message
  | .missingCommand e => e.message

def RunFault.message : RunFault → String
  | .configFile path e => "failed to read config file " ++ path ++ ": " ++ e.message
  | .options e => e.message
  | .specFile path e => "failed to read registry " ++ path ++ ": " ++ e.message
  | .registry e => e.message
  | .binding e => e.message
  | .output e => "failed to write output: " ++ e.message

class Host (m : Type → Type) where
  readFile (path : String) : m (Except FileFault (List UInt8))
  writeFile (path : String) (write : Sink → Written) : m (Except OutputFault Unit)
  writeOutput (write : Sink → Written) : m (Except OutputFault Unit)

inductive Outcome where
  | helped
  | done
  | rejected
  | failed (e : RunFault)
deriving DecidableEq, Repr

def Outcome.exitCode : Outcome → UInt32
  | .helped | .done => 0
  | .failed _ => 1
  | .rejected => 2

def Outcome.report : Outcome → String
  | .helped | .done => ""
  | .failed e => "Error: " ++ e.message ++ "\n"
  | .rejected => "error: the arguments cannot be read\n"

namespace Run

variable {m : Type → Type} [Monad m] [Host m]

def textOf (bytes : List UInt8) : Except FileFault String :=
  match String.fromUTF8? (ByteArray.mk bytes.toArray) with
  | some s => .ok s
  | none => .error .notText

def readText (path : String) : m (Except FileFault String) := do
  return (← Host.readFile path).bind textOf

def options (i : Invocation) : ExceptT RunFault m Options := do
  match i.configFile with
  | none => return i.override {}
  | some path =>
    let text ← ExceptT.mk (do return (← readText path).mapError (.configFile path))
    let o ← ExceptT.mk (return (Options.ofYaml text).mapError .options)
    return i.override o

def prepare (i : Invocation) : ExceptT RunFault m (Options × Binding) := do
  let o ← options i
  ExceptT.mk (return o.targets.check.mapError .options)
  let text ← ExceptT.mk (do return (← readText i.specFile).mapError (.specFile i.specFile))
  let r ← ExceptT.mk (return (Registry.read text).mapError .registry)
  let b ← ExceptT.mk (return (Binding.ofRegistry r o).mapError .binding)
  return (o, b)

def write (o : Options) (b : Binding) : m (Except OutputFault Unit) :=
  match o.output.path with
  | some path => Host.writeFile path (·.writeBinding b o.output.format)
  | none => Host.writeOutput (·.writeBinding b o.output.format)

def invoke (i : Invocation) : ExceptT RunFault m Unit := do
  let (o, b) ← prepare i
  ExceptT.mk (do return (← write o b).mapError .output)

def perform (args : List String) : m Outcome := do
  match Invocation.read args with
  | none => return .rejected
  | some .help =>
    -- Help that cannot be written in full is no failure.
    let _ ← Host.writeOutput (·.writeText Help.text)
    return .helped
  | some (.run i) =>
    match ← (invoke i).run with
    | .ok () => return .done
    | .error e => return .failed e

end Run

/-- A host whose files are a value. No buffer stands between a run and its sinks, so of a sink that
fails it is certain that the run fails, but not which of the two output faults it shows. -/
structure Machine where
  directory : Directory
  home : List String := []
  output : Sink := {}
  /-- What a file takes that is written. -/
  disk : Sink := {}

namespace Machine

def newFile (s : Machine) : Sink := { s.disk with taken := [] }

/-- The file is there as soon as it can be created, whatever is written into it. -/
def writeFile (path : String) (write : Sink → Written) (s : Machine) :
    Except OutputFault Unit × Machine :=
  let (result, sink) := write s.newFile
  let (created, d) := s.directory.create s.home path sink.taken
  match created with
  | .error e => (.error (.io e.message), { s with directory := d })
  | .ok () => (result, { s with directory := d })

def writeOutput (write : Sink → Written) (s : Machine) : Except OutputFault Unit × Machine :=
  let (result, sink) := write s.output
  (result, { s with output := sink })

def readFile (s : Machine) (path : String) : Except FileFault (List UInt8) :=
  s.directory.read s.home path

instance : Host (StateM Machine) where
  readFile path := return (← get).readFile path
  writeFile path write := modifyGet (writeFile path write)
  writeOutput write := modifyGet (writeOutput write)

end Machine

end GLBindings
