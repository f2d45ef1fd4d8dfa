import GLBindings.Json
import GLBindings.Output

namespace GLBindings

open Json (Decoder readText readFlag readFields readList readVersion readName orDefault orNone)

def Api.ofJson : Decoder Api := fun j => do
  if (← readText j) = Api.merged.name then return .merged else readName j

def Feature.ofJson : Decoder Feature := fun j => do
  return ⟨← Api.ofJson (j.get "api"), ← readVersion (j.get "version")⟩

def Requirements.ofJson : Decoder Requirements := fun j => do
  return ⟨← versions (j.get "enums"), ← versions (j.get "commands"), ← readFlag (j.get "is_merged")⟩
where
  versions : Decoder (Table String Version) := fun j => do
    return Table.ofList (← (← readFields j).mapM fun (k, v) => return (k, ← readVersion v))

def EnumValue.ofJson : Decoder EnumValue := fun j => do
  return ⟨← readText (j.get "name"), ← readText (j.get "value")⟩

namespace Binding

def Enum.ofJson : Decoder Enum := fun j => do
  return {
    name := ← readText (j.get "name")
    registryName := ← readText (j.get "original_name")
    scope := ← readText (j.get "namespace")
    isBitmask := ← orDefault false readFlag (j.get "is_bitmask")
    values := ← orDefault [] (readList EnumValue.ofJson) (j.get "values") }

def TypeRef.ofJson : Decoder TypeRef := fun j => do
  return {
    lowLevel := ← readText (j.get "low_level")
    highLevel := ← orNone Enum.ofJson (j.get "high_level")
    frontModifiers := ← orNone readText (j.get "front_modifiers")
    backModifiers := ← orNone readText (j.get "back_modifiers") }

def Param.ofJson : Decoder Param := fun j => do
  return ⟨← TypeRef.ofJson (j.get "type"), ← readText (j.get "name")⟩

def Conversion.ofJson : Decoder Conversion := fun j => do
  let kind ← readText (j.get "type")
  let param ← readText (j.get "param")
  match kind with
  | "cast" => return .cast param (← TypeRef.ofJson (j.get "to"))
  | "method_call" =>
    return .methodCall param (← readText (j.get "method"))
      (← orDefault [] (readList readText) (j.get "args"))
  | _ => throw .shape

def Implementation.ofJson : Decoder Implementation := fun j => do
  return {
    returnType := ← TypeRef.ofJson (j.get "return_type")
    params := ← orDefault [] (readList Param.ofJson) (j.get "params")
    returnConversion := ← Conversion.ofJson (j.get "retval_conversion")
    paramConversions := ← orDefault [] (readList Conversion.ofJson) (j.get "param_conversions") }

def Command.ofJson : Decoder Command := fun j => do
  return {
    name := ← readText (j.get "name")
    registryName := ← readText (j.get "original_name")
    scope := ← readText (j.get "namespace")
    kind := ← readName (j.get "command_type")
    implementation := ← Implementation.ofJson (j.get "implementation") }

def Level.ofJson : Decoder Level := fun j => do
  return {
    api := ← Api.ofJson (j.get "api")
    version := ← readVersion (j.get "version")
    commands := ← orDefault [] (readList Command.ofJson) (j.get "commands") }

def statementOfJson : Decoder String := fun j => readText (j.get "statement")

def Record.ofJson : Decoder Record := fun j => do
  match ← readText (j.get "kind") with
  | "type" => return .type (← statementOfJson j)
  | "enum" => return .enum (← Enum.ofJson j)
  | "feature_level" => return .level (← Level.ofJson j)
  | _ => throw .shape

end Binding

end GLBindings
