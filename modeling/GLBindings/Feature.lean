import GLBindings.Text
import GLBindings.Vocabulary

namespace GLBindings

/-- An API family. Families never inherit from each other, however close their names are. -/
inductive Api where
  | gl
  | gles1
  | gles2
  | glsc2
  /-- The family of requirements that several targets share. No registry and no option names it. -/
  | merged
deriving DecidableEq, Repr

def Api.name : Api → String
  | .gl => "gl"
  | .gles1 => "gles1"
  | .gles2 => "gles2"
  | .glsc2 => "glsc2"
  | .merged => "merged"

instance : Named Api where
  label := "API"
  choices := [.gl, .gles1, .gles2, .glsc2]
  name := Api.name

theorem Api.distinct : Named.Distinct Api := by
  unfold Named.Distinct
  decide

inductive Profile where
  | core
  | compatibility
deriving DecidableEq, Repr

def Profile.name : Profile → String
  | .core => "core"
  | .compatibility => "compatibility"

instance : Named Profile where
  label := "profile"
  choices := [.core, .compatibility]
  name := Profile.name

theorem Profile.distinct : Named.Distinct Profile := by
  unfold Named.Distinct
  decide

structure Version where
  major : UInt32
  minor : UInt32
deriving DecidableEq, Repr

namespace Version

instance : LE Version := ⟨fun a b => a.major < b.major ∨ a.major = b.major ∧ a.minor ≤ b.minor⟩

instance (a b : Version) : Decidable (a ≤ b) :=
  inferInstanceAs (Decidable (a.major < b.major ∨ a.major = b.major ∧ a.minor ≤ b.minor))

inductive Fault where
  | missingComponent (text : String)
  | invalidMajor (text : String)
  | invalidMinor (text : String)
deriving DecidableEq, Repr

def Fault.message : Fault → String
  | .missingComponent s => "version '" ++ s ++ "' must specify both major and minor components"
  | .invalidMajor s => "major component of version '" ++ s ++ "' is not a number"
  | .invalidMinor s => "minor component of version '" ++ s ++ "' is not a number"

/-- Reads two numerals with one point between them; the major number is looked at first. -/
def read (s : String) : Except Fault Version :=
  match Text.pieces '.' s.toList with
  | [major, minor] =>
    match Text.Numeral.read? major with
    | none => .error (.invalidMajor s)
    | some m =>
      match Text.Numeral.read? minor with
      | none => .error (.invalidMinor s)
      | some n => .ok ⟨m, n⟩
  | _ => .error (.missingComponent s)

def text (v : Version) : String :=
  String.ofList (Text.Numeral.write v.major ++ '.' :: Text.Numeral.write v.minor)

end Version

structure Feature where
  api : Api
  version : Version
deriving DecidableEq, Repr

namespace Feature

def merged : Feature := ⟨.merged, ⟨0, 0⟩⟩

def text (f : Feature) : String := f.api.name ++ " " ++ f.version.text

/-- The candidate belongs to the target: it has the same family and is not newer. -/
def Includes (target candidate : Feature) : Prop :=
  target.api = candidate.api ∧ candidate.version ≤ target.version

instance (target candidate : Feature) : Decidable (target.Includes candidate) :=
  inferInstanceAs (Decidable (_ ∧ _))

end Feature

end GLBindings
