import GLBindings.Feature

namespace GLBindings

inductive Json where
  | null
  | bool (b : Bool)
  | number (text : String)
  | string (s : String)
  | array (items : List Json)
  | object (fields : List (String × Json))
deriving Inhabited

namespace Json

def ofNat (n : Nat) : Json := .number (String.ofList (Nat.toDigits 10 n))

def ofStrings (l : List String) : Json := .array (l.map .string)

def ofString? : Option String → Json
  | some s => .string s
  | none => .null

/-- The value of a field. A field that is absent reads as null. -/
def get (key : String) : Json → Json
  | .object fields => (fields.lookup key).getD .null
  | _ => .null

end Json

namespace Json

def hexDigit (n : Nat) : Char := Nat.digitChar (n % 16)

def escape (c : Char) : List Char :=
  match c with
  | '"' => ['\\', '"']
  | '\\' => ['\\', '\\']
  | '\x08' => ['\\', 'b']
  | '\x0c' => ['\\', 'f']
  | '\n' => ['\\', 'n']
  | '\r' => ['\\', 'r']
  | '\t' => ['\\', 't']
  | c =>
    if c.toNat < 0x20 then ['\\', 'u', '0', '0', hexDigit (c.toNat / 16), hexDigit c.toNat] else [c]

def quote (s : String) : List Char := '"' :: s.toList.flatMap escape ++ ['"']

def atom : Json → List Char
  | .bool true => "true".toList
  | .bool false => "false".toList
  | .number text => text.toList
  | .string s => quote s
  | _ => "null".toList

mutual

def compactChars : Json → List Char
  | .array items => '[' :: compactItems items
  | .object fields => '{' :: compactFields fields
  | j => atom j

def compactItems : List Json → List Char
  | [] => [']']
  | [j] => compactChars j ++ [']']
  | j :: js => compactChars j ++ ',' :: compactItems js

def compactFields : List (String × Json) → List Char
  | [] => ['}']
  | [(k, j)] => quote k ++ ':' :: compactChars j ++ ['}']
  | (k, j) :: fs => quote k ++ ':' :: compactChars j ++ ',' :: compactFields fs

end

def compact (j : Json) : String := String.ofList (compactChars j)

def newline (depth : Nat) : List Char := '\n' :: List.replicate (2 * depth) ' '

mutual

def prettyChars (depth : Nat) : Json → List Char
  | .array [] => ['[', ']']
  | .array (j :: js) => '[' :: newline (depth + 1) ++ prettyChars (depth + 1) j ++ prettyItems depth js
  | .object [] => ['{', '}']
  | .object ((k, j) :: fs) =>
    '{' :: newline (depth + 1) ++ quote k ++ ':' :: ' ' :: prettyChars (depth + 1) j
      ++ prettyFields depth fs
  | j => atom j

/-- The items after the first, and the end of the array that stands at `depth`. -/
def prettyItems (depth : Nat) : List Json → List Char
  | [] => newline depth ++ [']']
  | j :: js => ',' :: newline (depth + 1) ++ prettyChars (depth + 1) j ++ prettyItems depth js

/-- The fields after the first, and the end of the object that stands at `depth`. -/
def prettyFields (depth : Nat) : List (String × Json) → List Char
  | [] => newline depth ++ ['}']
  | (k, j) :: fs =>
    ',' :: newline (depth + 1) ++ quote k ++ ':' :: ' ' :: prettyChars (depth + 1) j
      ++ prettyFields depth fs

end

def pretty (j : Json) : String := String.ofList (prettyChars 0 j)

end Json

inductive Unreadable where
  | shape
  | name (e : UnknownName)
  | version (e : Version.Fault)
deriving DecidableEq, Repr

namespace Json

abbrev Decoder (α : Type) := Json → Except Unreadable α

variable {α : Type}

def readText : Decoder String
  | string s => .ok s
  | _ => .error .shape

def readFlag : Decoder Bool
  | bool b => .ok b
  | _ => .error .shape

def readItems : Decoder (List Json)
  | array items => .ok items
  | _ => .error .shape

def readFields : Decoder (List (String × Json))
  | object fields => .ok fields
  | _ => .error .shape

def readList (read : Decoder α) : Decoder (List α) := fun j => do (← readItems j).mapM read

def readVersion : Decoder Version := fun j => do
  (Version.read (← readText j)).mapError .version

def readName [Named α] : Decoder α := fun j => do
  (Named.read (← readText j) : Except UnknownName α).mapError .name

def orDefault (default : α) (read : Decoder α) : Decoder α
  | null => .ok default
  | j => read j

def orNone (read : Decoder α) : Decoder (Option α)
  | null => .ok none
  | j => (read j).map some

end Json

end GLBindings
