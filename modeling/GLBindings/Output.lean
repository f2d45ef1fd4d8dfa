import GLBindings.Binding
import GLBindings.Json

namespace GLBindings

def Version.toJson (v : Version) : Json := .string v.text

def Feature.toJson (f : Feature) : Json :=
  .object [("api", .string f.api.name), ("version", f.version.toJson)]

def Requirements.toJson (r : Requirements) : Json :=
  .object [("enums", versions r.enums), ("commands", versions r.commands),
    ("is_merged", .bool r.isMerged)]
where
  versions (t : Table String Version) : Json := .object (t.entries.map fun e => (e.1, e.2.toJson))

def EnumValue.toJson (v : EnumValue) : Json :=
  .object [("name", .string v.name), ("value", .string v.value)]

namespace Binding

def Enum.fields (e : Enum) : List (String × Json) :=
  [("name", .string e.name), ("original_name", .string e.registryName),
    ("namespace", .string e.scope), ("is_bitmask", .bool e.isBitmask),
    ("values", .array (e.values.map EnumValue.toJson))]

def Enum.toJson (e : Enum) : Json := .object e.fields

def TypeRef.toJson (t : TypeRef) : Json :=
  .object [("low_level", .string t.lowLevel),
    ("high_level", match t.highLevel with | some e => e.toJson | none => .null),
    ("front_modifiers", .ofString? t.frontModifiers),
    ("back_modifiers", .ofString? t.backModifiers)]

def Param.toJson (p : Param) : Json :=
  .object [("type", p.type.toJson), ("name", .string p.name)]

def Conversion.toJson : Conversion → Json
  | .cast param target =>
    .object [("type", .string "cast"), ("param", .string param), ("to", target.toJson)]
  | .methodCall param method args =>
    .object [("type", .string "method_call"), ("param", .string param),
      ("method", .string method), ("args", .ofStrings args)]

def CommandKind.name : CommandKind → String
  | .ordinary => "default"
  | .generator => "generator"
  | .deleter => "deleter"

instance : Named CommandKind where
  label := "command type"
  choices := [.ordinary, .generator, .deleter]
  name := CommandKind.name

def Implementation.toJson (i : Implementation) : Json :=
  .object [("return_type", i.returnType.toJson), ("params", .array (i.params.map Param.toJson)),
    ("retval_conversion", i.returnConversion.toJson),
    ("param_conversions", .array (i.paramConversions.map Conversion.toJson))]

def Command.toJson (c : Command) : Json :=
  .object [("name", .string c.name), ("original_name", .string c.registryName),
    ("namespace", .string c.scope), ("command_type", .string c.kind.name),
    ("implementation", c.implementation.toJson)]

def Level.fields (l : Level) : List (String × Json) :=
  [("api", .string l.api.name), ("version", l.version.toJson),
    ("commands", .array (l.commands.map Command.toJson))]

def Level.toJson (l : Level) : Json := .object l.fields

def statementFields (s : String) : List (String × Json) := [("statement", .string s)]

inductive Record where
  | type (statement : String)
  | enum (e : Enum)
  | level (l : Level)
deriving DecidableEq, Repr

namespace Record

def kind : Record → String
  | .type _ => "type"
  | .enum _ => "enum"
  | .level _ => "feature_level"

def fields : Record → List (String × Json)
  | .type s => statementFields s
  | .enum e => e.fields
  | .level l => l.fields

def toJson (r : Record) : Json := .object (("kind", .string r.kind) :: r.fields)

end Record

def records (b : Binding) : List Record :=
  b.types.map .type ++ b.enums.values.map .enum ++ b.levels.map .level

def toJson (b : Binding) : Json :=
  .object [("feature", b.feature.toJson), ("requirements", b.requirements.toJson),
    ("types", .array (b.types.map fun s => .object (statementFields s))),
    ("enums", .object (b.enums.entries.map fun e => (e.1, e.2.toJson))),
    ("feature_levels", .array (b.levels.map Level.toJson))]

end Binding

structure Sink where
  /-- The bytes that it still takes; without a bound it takes all. -/
  room : Option Nat := none
  full : String := ""
  flushFault : Option String := none
  taken : List UInt8 := []
deriving DecidableEq, Repr

namespace Sink

def fits (s : Sink) (n : Nat) : Nat :=
  match s.room with
  | none => n
  | some k => min k n

/-- Takes the bytes that fit. The write fails unless all of them do. -/
def put (s : Sink) (bytes : List UInt8) : Except String Unit × Sink :=
  let n := s.fits bytes.length
  (if n = bytes.length then .ok () else .error s.full,
    { s with room := s.room.map (· - n), taken := s.taken ++ bytes.take n })

def putText (s : Sink) (text : String) : Except String Unit × Sink :=
  s.put text.toUTF8.toList

def putLine (s : Sink) (text : String) : Except String Unit × Sink :=
  match s.putText text with
  | (.ok (), s) => s.putText "\n"
  | failed => failed

def flush (s : Sink) : Except String Unit :=
  match s.flushFault with
  | none => .ok ()
  | some text => .error text

end Sink

inductive OutputFault where
  /-- The sink failed within a JSON document. -/
  | json (text : String)
  | io (text : String)
deriving DecidableEq, Repr

def OutputFault.message : OutputFault → String
  | .json text => "JSON error: " ++ text
  | .io text => "IO error: " ++ text

abbrev Written := Except OutputFault Unit × Sink

namespace Sink

def writeText (s : Sink) (text : String) : Written :=
  let (result, s) := s.putText text
  (result.mapError .io, s)

def writeLine (s : Sink) (j : Json) : Written :=
  let (result, s) := s.putLine j.compact
  (result.mapError .io, s)

/-- Writes every line, whatever became of the lines before it. -/
def writeEach (s : Sink) : List Json → List (Except OutputFault Unit) × Sink
  | [] => ([], s)
  | j :: rest =>
    let (result, s) := s.writeLine j
    let (results, s) := s.writeEach rest
    (result :: results, s)

def flushed (s : Sink) : Written := (s.flush.mapError .io, s)

/-- Writes line after line up to the first failure. -/
def writeLines (s : Sink) : List Json → Written
  | [] => s.flushed
  | j :: rest =>
    match s.writeLine j with
    | (.ok (), s) => s.writeLines rest
    | failed => failed

def writeDocument (s : Sink) (j : Json) : Written :=
  match s.putText j.pretty with
  | (.error e, s) => (.error (.json e), s)
  | (.ok (), s) =>
    match s.putText "\n" with
    | (.error e, s) => (.error (.io e), s)
    | (.ok (), s) => s.flushed

def writeBinding (s : Sink) (b : Binding) : Format → Written
  | .json => s.writeDocument b.toJson
  | .ndjson => s.writeLines (b.records.map Binding.Record.toJson)

end Sink

end GLBindings
