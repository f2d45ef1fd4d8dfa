import GLBindings.Options

namespace GLBindings

inductive Switch where
  | specFile
  | api
  | version
  | intersectFeatures
  | profile
  | enumCase
  | functionCase
  | enumValueCase
  | omitPrefix
  | enumNamespace
  | commandNamespace
  | configFile
  | format
  | output
deriving DecidableEq, Repr

namespace Switch

def all : List Switch :=
  [specFile, api, version, intersectFeatures, profile, enumCase, functionCase, enumValueCase,
    omitPrefix, enumNamespace, commandNamespace, configFile, format, output]

def name : Switch → String
  | specFile => "spec-file"
  | api => "api"
  | version => "version"
  | intersectFeatures => "intersect-features"
  | profile => "profile"
  | enumCase => "enum-case"
  | functionCase => "function-case"
  | enumValueCase => "enum-value-case"
  | omitPrefix => "omit-prefix"
  | enumNamespace => "enum-namespace"
  | commandNamespace => "command-namespace"
  | configFile => "config-file"
  | format => "format"
  | output => "output"

def letter? : Switch → Option Char
  | configFile => some 'c'
  | format => some 'f'
  | output => some 'o'
  | _ => none

def takesValue (s : Switch) : Bool := s ≠ intersectFeatures && s ≠ omitPrefix

def placeholder : Switch → String
  | api => "APIS"
  | version => "VERSIONS"
  | s => s.name.map fun c => if c = '-' then '_' else c.toUpper

def summary : Switch → String
  | specFile => "Path to the registry document (gl.xml)"
  | api => "Target API; repeat for several targets (gl, gles1, gles2, glsc2)"
  | version => "Target version for the API in the same position, e.g. 3.3"
  | intersectFeatures => "Only keep what every target requires"
  | profile => "Profile to resolve for (core, compatibility)"
  | enumCase => "Case of enum names (initial, snake_case, camelCase, PascalCase, UPPER_CASE)"
  | functionCase => "Case of command names"
  | enumValueCase => "Case of enum value names"
  | omitPrefix => "Strip the gl/GL_ prefix from names"
  | enumNamespace | commandNamespace => ""
  | configFile => "YAML file with default options"
  | format => "Output format (json, ndjson)"
  | output => "Output file; stdout when omitted"

end Switch

namespace Help

def entry (letter? : Option Char) (usage summary : String) : String :=
  let short := match letter? with
    | some c => "  -" ++ c.toString ++ ", "
    | none => "      "
  short ++ "--" ++ usage ++ "\n          " ++ summary ++ "\n"

def entryOf (s : Switch) : String :=
  entry s.letter? (if s.takesValue then s.name ++ " <" ++ s.placeholder ++ ">" else s.name) s.summary

def text : String :=
  "Resolve OpenGL registry requirements and emit a binding IR\n\n"
    ++ "Usage: glprep [OPTIONS] --spec-file <SPEC_FILE>\n\nOptions:\n"
    ++ String.join (Switch.all.map entryOf) ++ entry (some 'h') "help" "Print help"

end Help

structure Invocation where
  specFile : String
  configFile : Option String := none
  apis : List Api := []
  versions : List Version := []
  intersectFeatures : Bool := false
  profile : Option Profile := none
  enumCase : Option Casing := none
  functionCase : Option Casing := none
  enumValueCase : Option Casing := none
  omitPrefix : Bool := false
  enumNamespace : Option String := none
  commandNamespace : Option String := none
  format : Option Format := none
  output : Option String := none
deriving DecidableEq, Repr

namespace Invocation

def orBefore {α : Type} (given before : List α) : List α := if given.isEmpty then before else given

/-- The options that come from a file, overridden by what the command line gives. -/
def override (i : Invocation) (o : Options) : Options where
  naming := {
    enumCase := i.enumCase.getD o.naming.enumCase
    functionCase := i.functionCase.getD o.naming.functionCase
    enumValueCase := i.enumValueCase.getD o.naming.enumValueCase
    omitPrefix := i.omitPrefix || o.naming.omitPrefix
    enumNamespace := i.enumNamespace.getD o.naming.enumNamespace
    commandNamespace := i.commandNamespace.getD o.naming.commandNamespace }
  targets := {
    apis := orBefore i.apis o.targets.apis
    versions := orBefore i.versions o.targets.versions
    intersectFeatures := i.intersectFeatures || o.targets.intersectFeatures
    profile := i.profile.getD o.targets.profile }
  output := {
    path := i.output <|> o.output.path
    format := i.format.getD o.output.format }

end Invocation

inductive Request where
  | help
  | run (i : Invocation)
deriving DecidableEq, Repr

namespace Switch

def ofName? (cs : List Char) : Option Switch := all.find? fun s => s.name.toList = cs

def ofLetter? (c : Char) : Option Switch := all.find? fun s => s.letter? = some c

end Switch

inductive Argument where
  | help
  /-- Nothing more belongs to the switch. The value of a flag is empty. -/
  | complete (s : Switch) (value : String)
  | awaiting (s : Switch)
deriving DecidableEq, Repr

namespace Argument

def ofSwitch (s : Switch) : Option (List Char) → Option Argument
  | none => some (if s.takesValue then awaiting s else complete s "")
  | some value => if s.takesValue then some (complete s (String.ofList value)) else none

def ofLong (cs : List Char) : Option Argument :=
  if cs = "help".toList then some help
  else do
    let s ← Switch.ofName? (cs.takeWhile (· ≠ '='))
    ofSwitch s (cs.dropWhile (· ≠ '=')).tail?

def joined? : List Char → Option (List Char)
  | [] => none
  | '=' :: value => some value
  | value => some value

def ofShort (c : Char) (rest : List Char) : Option Argument :=
  if c = 'h' then some help
  else do
    let s ← Switch.ofLetter? c
    ofSwitch s (joined? rest)

def ofChars : List Char → Option Argument
  | '-' :: '-' :: cs => ofLong cs
  | '-' :: c :: rest => ofShort c rest
  | _ => none

/-- An argument that may be a value. A single hyphen is one. -/
def isValue (s : String) : Bool := s.toList.head? ≠ some '-' || s = "-"

end Argument

namespace Invocation

/-- The switches that are given, with their values, and whether help is asked for behind them. Two
hyphens may end the arguments. -/
def given : List String → Option (List (Switch × String) × Bool)
  | [] => some ([], false)
  | arg :: rest =>
    if arg = "--" ∧ rest = [] then some ([], false)
    else
      match Argument.ofChars arg.toList with
      | none => none
      | some .help => some ([], true)
      | some (.complete s value) => (given rest).map fun g => ((s, value) :: g.1, g.2)
      | some (.awaiting s) =>
        match rest with
        | [] => none
        | value :: rest =>
          if Argument.isValue value then (given rest).map fun g => ((s, value) :: g.1, g.2) else none

def values (l : List (Switch × String)) (s : Switch) : List String :=
  (l.filter (·.1 = s)).map (·.2)

section Values

variable {α : Type} (read : String → Option α) (l : List (Switch × String)) (s : Switch)

def readAll : Option (List α) := (values l s).mapM read

def readOne : Option (Option α) := do
  match ← readAll read l s with
  | [] => return none
  | [a] => return some a
  | _ => failure

def readFlag : Option Bool :=
  match values l s with
  | [] => some false
  | [_] => some true
  | _ => none

end Values

def path? (s : String) : Option String := if s.isEmpty then none else some s

def version? (s : String) : Option Version := (Version.read s).toOption

def ofGiven (specFile : String) (l : List (Switch × String)) : Option Invocation := do
  return {
    specFile
    configFile := ← readOne path? l .configFile
    apis := ← readAll Named.ofName? l .api
    versions := ← readAll version? l .version
    intersectFeatures := ← readFlag l .intersectFeatures
    profile := ← readOne Named.ofName? l .profile
    enumCase := ← readOne Named.ofName? l .enumCase
    functionCase := ← readOne Named.ofName? l .functionCase
    enumValueCase := ← readOne Named.ofName? l .enumValueCase
    omitPrefix := ← readFlag l .omitPrefix
    enumNamespace := ← readOne some l .enumNamespace
    commandNamespace := ← readOne some l .commandNamespace
    format := ← readOne Named.ofName? l .format
    output := ← readOne path? l .output }

/-- Help may be asked for without a registry file, but not behind a switch that is at fault. -/
def read (args : List String) : Option Request := do
  let (l, asksHelp) ← given args
  let specFile ← readOne path? l .specFile
  let i ← ofGiven (specFile.getD "") l
  if asksHelp then return .help
  else if specFile.isNone then failure
  else return .run i

end Invocation

end GLBindings
