import GLBindings.Feature
import GLBindings.Symbol
import GLBindings.Json

namespace GLBindings

inductive Format where
  | json
  | ndjson
deriving DecidableEq, Repr

def Format.name : Format → String
  | .json => "json"
  | .ndjson => "ndjson"

instance : Named Format where
  label := "output format"
  choices := [.json, .ndjson]
  name := Format.name

theorem Format.distinct : Named.Distinct Format := by
  unfold Named.Distinct
  decide

structure Targets where
  apis : List Api := []
  versions : List Version := []
  intersectFeatures : Bool := false
  profile : Profile := .core
deriving DecidableEq, Repr

def Targets.features (t : Targets) : List Feature := t.apis.zipWith Feature.mk t.versions

structure Destination where
  path : Option String := none
  format : Format := .json
deriving DecidableEq, Repr

structure Options where
  naming : Naming := {}
  targets : Targets := {}
  output : Destination := {}
deriving DecidableEq, Repr

inductive OptionsFault where
  | unreadable
  | noTargets
  | targetCountMismatch (apis versions : Nat)
  | multipleTargetsWithoutIntersection (count : Nat)
  | duplicateApi (api : Api)
deriving DecidableEq, Repr

namespace OptionsFault

def count (n : Nat) : String := String.ofList (Nat.toDigits 10 n)

def message : OptionsFault → String
  | .unreadable => "failed to parse config file: not readable as options"
  | .noTargets => "must specify at least one API and version"
  | .targetCountMismatch apis versions =>
    "must specify a version for every API (" ++ count apis ++ " APIs, " ++ count versions
      ++ " versions)"
  | .multipleTargetsWithoutIntersection n =>
    count n ++ " targets requested; multiple targets require intersect_features"
  | .duplicateApi api =>
    "API '" ++ api.name ++ "' requested more than once; request one version per API"

end OptionsFault

namespace Targets

/-- The first API that stands in the list a second time, behind those of `seen`. -/
def firstRepeated (seen : List Api) : List Api → Option Api
  | [] => none
  | a :: rest => if a ∈ seen then some a else firstRepeated (a :: seen) rest

/-- Every API needs a version, no API may be requested twice, and only an intersection may have
more than one target. -/
def check (t : Targets) : Except OptionsFault Unit :=
  if t.apis.length ≠ t.versions.length then
    .error (.targetCountMismatch t.apis.length t.versions.length)
  else if t.apis.isEmpty then .error .noTargets
  else
    match firstRepeated [] t.apis with
    | some api => .error (.duplicateApi api)
    | none =>
      if 1 < t.apis.length ∧ !t.intersectFeatures then
        .error (.multipleTargetsWithoutIntersection t.apis.length)
      else .ok ()

end Targets

namespace Options

open Json (Decoder readText readFlag readList readVersion)

/-- The fields of a section: an object whose keys are known and distinct. A list gives the leading
fields by position. -/
def readSection (keys : List String) : Decoder (List (String × Json))
  | .object fields =>
    if (∀ f ∈ fields, f.1 ∈ keys) ∧ (fields.map (·.1)).Nodup then .ok fields else .error .shape
  | .array items => if items.length ≤ keys.length then .ok (keys.zip items) else .error .shape
  | _ => .error .shape

def readField {α : Type} (fields : List (String × Json)) (key : String) (default : α)
    (read : Decoder α) : Except Unreadable α :=
  match fields.lookup key with
  | none => .ok default
  | some j => read j

/-- A name stands alone, or as the only key of an object, with null as its value. -/
def readChoice {α : Type} [Named α] : Decoder α
  | .object [(name, .null)] => Json.readName (.string name)
  | j => Json.readName j

def namingKeys : List String :=
  ["enum_case", "function_case", "enum_value_case", "omit_prefix", "enum_namespace",
    "command_namespace"]

def namingToJson (n : Naming) : Json :=
  .object [("enum_case", .string n.enumCase.name), ("function_case", .string n.functionCase.name),
    ("enum_value_case", .string n.enumValueCase.name), ("omit_prefix", .bool n.omitPrefix),
    ("enum_namespace", .string n.enumNamespace), ("command_namespace", .string n.commandNamespace)]

def namingOfJson : Decoder Naming := fun j => do
  let fields ← readSection namingKeys j
  let d : Naming := {}
  return {
    enumCase := ← readField fields "enum_case" d.enumCase readChoice
    functionCase := ← readField fields "function_case" d.functionCase readChoice
    enumValueCase := ← readField fields "enum_value_case" d.enumValueCase readChoice
    omitPrefix := ← readField fields "omit_prefix" d.omitPrefix readFlag
    enumNamespace := ← readField fields "enum_namespace" d.enumNamespace readText
    commandNamespace := ← readField fields "command_namespace" d.commandNamespace readText }

def targetsKeys : List String := ["apis", "versions", "intersect_features", "profile"]

def targetsToJson (t : Targets) : Json :=
  .object [("apis", .ofStrings (t.apis.map Api.name)),
    ("versions", .ofStrings (t.versions.map Version.text)),
    ("intersect_features", .bool t.intersectFeatures), ("profile", .string t.profile.name)]

def targetsOfJson : Decoder Targets := fun j => do
  let fields ← readSection targetsKeys j
  let d : Targets := {}
  return {
    apis := ← readField fields "apis" d.apis (readList readChoice)
    versions := ← readField fields "versions" d.versions (readList readVersion)
    intersectFeatures := ← readField fields "intersect_features" d.intersectFeatures readFlag
    profile := ← readField fields "profile" d.profile readChoice }

def outputKeys : List String := ["path", "format"]

def outputToJson (o : Destination) : Json :=
  .object [("path", .ofString? o.path), ("format", .string o.format.name)]

def outputOfJson : Decoder Destination := fun j => do
  let fields ← readSection outputKeys j
  let d : Destination := {}
  return {
    path := ← readField fields "path" d.path (Json.orNone readText)
    format := ← readField fields "format" d.format readChoice }

def keys : List String := ["naming", "targets", "output"]

def toJson (o : Options) : Json :=
  .object [("naming", namingToJson o.naming), ("targets", targetsToJson o.targets),
    ("output", outputToJson o.output)]

def ofJson : Decoder Options := fun j => do
  let fields ← readSection keys j
  let d : Options := {}
  return {
    naming := ← readField fields "naming" d.naming namingOfJson
    targets := ← readField fields "targets" d.targets targetsOfJson
    output := ← readField fields "output" d.output outputOfJson }

end Options

end GLBindings
