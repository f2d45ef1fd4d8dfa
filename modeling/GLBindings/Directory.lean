import GLBindings.Table
import GLBindings.Text

namespace GLBindings

inductive FileFault where
  | missing
  | notDirectory
  | isDirectory
  | exists
  | notText
  | other (text : String)
deriving DecidableEq, Repr

def FileFault.message : FileFault → String
  | .missing => "No such file or directory (os error 2)"
  | .notDirectory => "Not a directory (os error 20)"
  | .isDirectory => "Is a directory (os error 21)"
  | .exists => "File exists (os error 17)"
  | .notText => "stream did not contain valid UTF-8"
  | .other text => text

structure FilePath where
  isRooted : Bool
  parts : List String
  isOpen : Bool
deriving DecidableEq, Repr

namespace FilePath

def ofString? (s : String) : Option FilePath :=
  if s.isEmpty then none
  else some ⟨s.front = '/', (Text.splitText '/' s).filter (· ≠ ""), s.back = '/'⟩

def start (p : FilePath) (home : List String) : List String := if p.isRooted then [] else home

/-- The parts above the last one. A dot counts only at the front of a path without a root. -/
def parent (p : FilePath) : List String :=
  match p.parts with
  | [] => []
  | first :: rest =>
    let first := if p.isRooted && first = "." then [] else [first]
    (first ++ rest.filter (· ≠ ".")).dropLast

end FilePath

inductive Entry where
  | file (bytes : List UInt8)
  | directory
deriving DecidableEq, Repr

/-- Entries by the parts of their paths from the root. The root itself, and whatever has something
below it, is a directory also without an entry. -/
structure Directory where
  entries : Table (List String) Entry
deriving DecidableEq

namespace Directory

def get? (d : Directory) (place : List String) : Option Entry :=
  match d.entries.get? place with
  | some e => some e
  | none => if place = [] ∨ d.entries.keys.any place.isPrefixOf then some .directory else none

def insert (d : Directory) (place : List String) (e : Entry) : Directory :=
  ⟨d.entries.insert place e⟩

def step (place : List String) (part : String) : List String :=
  if part = "." then place else if part = ".." then place.dropLast else place ++ [part]

/-- Where the parts of a path lead. All but the last must lead to directories. -/
def walk (d : Directory) (place : List String) : List String → Except FileFault (List String)
  | [] => .ok place
  | part :: rest =>
    match d.get? place with
    | none => .error .missing
    | some (.file _) => .error .notDirectory
    | some .directory => d.walk (step place part) rest

def locate (d : Directory) (home : List String) (p : FilePath) : Except FileFault (List String) :=
  d.walk (p.start home) (p.parts ++ if p.isOpen then ["."] else [])

def read (d : Directory) (home : List String) (path : String) : Except FileFault (List UInt8) := do
  let some p := FilePath.ofString? path | throw .missing
  match d.get? (← d.locate home p) with
  | some (.file bytes) => return bytes
  | some .directory => throw .isDirectory
  | none => throw .missing

/-- Makes the directories that are missing along a path. Those that are made stay, also where a
file is in the way of the next one. -/
def makeAlong (d : Directory) (place : List String) (made : Bool) :
    List String → Except FileFault Unit × Directory
  | [] => (.ok (), d)
  | part :: rest =>
    let next := step place part
    match d.get? next with
    | none => (d.insert next .directory).makeAlong next true rest
    | some .directory => d.makeAlong next made rest
    | some (.file _) => (.error (if made ∨ rest = [] then .exists else .notDirectory), d)

def target (d : Directory) (home : List String) (p : FilePath) : Except FileFault (List String) := do
  if p.isOpen then throw .isDirectory
  let place ← d.locate home p
  if d.get? place = some .directory then throw .isDirectory
  return place

def create (d : Directory) (home : List String) (path : String) (bytes : List UInt8) :
    Except FileFault Unit × Directory :=
  match FilePath.ofString? path with
  | none => (.error .missing, d)
  | some p =>
    if d.get? (p.start home) ≠ some .directory then (.error .missing, d)
    else
      match d.makeAlong (p.start home) false p.parent with
      | (.error e, d) => (.error e, d)
      | (.ok (), d) =>
        match d.target home p with
        | .error e => (.error e, d)
        | .ok place => (.ok (), d.insert place (.file bytes))

end Directory

end GLBindings
