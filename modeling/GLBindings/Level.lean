import GLBindings.Feature

namespace GLBindings

inductive Entity where
  | type (name : String)
  | enum (name : String)
  | command (name : String)
deriving DecidableEq, Repr

def Entity.enum? : Entity → Option String
  | .enum n => some n
  | _ => none

def Entity.command? : Entity → Option String
  | .command n => some n
  | _ => none

/-- A list of entities, which may be limited to one profile and to one API family. -/
structure Block where
  profile : Option Profile
  api : Option Api
  entries : List Entity
deriving DecidableEq, Repr

namespace Block

def enums (b : Block) : List String := b.entries.filterMap Entity.enum?

def commands (b : Block) : List String := b.entries.filterMap Entity.command?

def AppliesTo (b : Block) (api : Api) (profile : Profile) : Prop :=
  (∀ p ∈ b.profile, p = profile) ∧ ∀ a ∈ b.api, a = api

instance (b : Block) (api : Api) (profile : Profile) : Decidable (b.AppliesTo api profile) :=
  inferInstanceAs (Decidable (_ ∧ _))

end Block

structure Level where
  api : Api
  name : String
  version : Version
  requires : List Block
  removes : List Block
deriving DecidableEq, Repr

def Level.feature (l : Level) : Feature := ⟨l.api, l.version⟩

structure Extension where
  name : String
  /-- The API names that the extension lists, which need not be names of families. -/
  supported : List String
  requires : List Block
  removes : List Block
deriving DecidableEq, Repr

namespace Extension

def requiredEnums (e : Extension) : List String := e.requires.flatMap Block.enums

def requiredCommands (e : Extension) : List String := e.requires.flatMap Block.commands

def Supports (e : Extension) (target : Feature) : Prop := target.api.name ∈ e.supported

instance (e : Extension) (target : Feature) : Decidable (e.Supports target) :=
  inferInstanceAs (Decidable (target.api.name ∈ e.supported))

def supporting (target : Feature) (l : List Extension) : List Extension :=
  l.filter (·.Supports target)

end Extension

end GLBindings
