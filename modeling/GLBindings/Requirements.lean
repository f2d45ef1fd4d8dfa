import GLBindings.Feature
import GLBindings.Table
import GLBindings.Level

namespace GLBindings

structure Requirements where
  enums : Table String Version
  commands : Table String Version
  /-- Set when these are the requirements that several targets share. -/
  isMerged : Bool
deriving DecidableEq

namespace Requirements

instance : EmptyCollection Requirements := ⟨⟨∅, ∅, false⟩⟩

def isEmpty (r : Requirements) : Bool := r.enums.isEmpty && r.commands.isEmpty

/-- Adds what `s` requires and `r` does not yet; the merged mark stays that of `r`. -/
def extend (r s : Requirements) : Requirements :=
  { r with enums := r.enums.extend s.enums, commands := r.commands.extend s.commands }

/-- What `first` has in common with all the others, in the order and versions of `first`. -/
def intersect (first : Requirements) (others : List Requirements) : Requirements where
  enums := first.enums.filterKeys fun k => others.all fun r => k ∈ r.enums
  commands := first.commands.filterKeys fun k => others.all fun r => k ∈ r.commands
  isMerged := true

end Requirements

inductive ResolveError where
  | unknownFeature (requested : Feature) (available : List Feature)
  | noTargets
deriving DecidableEq, Repr

def ResolveError.message : ResolveError → String
  | .unknownFeature f available =>
    "unknown feature '" ++ f.text ++ "', available features: "
      ++ if available.isEmpty then "none" else ", ".intercalate (available.map Feature.text)
  | .noTargets => "no target features requested"

namespace Requirements

def addBlock (version : Version) (r : Requirements) (b : Block) : Requirements :=
  { r with
    enums := r.enums.insertAllNew (b.enums.map (·, version))
    commands := r.commands.insertAllNew (b.commands.map (·, version)) }

def removeBlock (r : Requirements) (b : Block) : Requirements :=
  { r with enums := r.enums.eraseAll b.enums, commands := r.commands.eraseAll b.commands }

variable (target : Feature) (profile : Profile)

def additions (level : Level) : List Block :=
  if target.Includes level.feature then level.requires.filter (·.AppliesTo target.api profile) else []

def removals (level : Level) : List Block :=
  if target.api = level.api ∧ level.version.major ≤ target.version.major then
    level.removes.filter (·.AppliesTo target.api profile)
  else []

def addLevel (r : Requirements) (level : Level) : Requirements :=
  let added := (additions target profile level).foldl (addBlock level.version) r
  (removals target profile level).foldl removeBlock added

def byVersion (levels : List Level) : List Level :=
  levels.mergeSort fun a b => decide (a.version ≤ b.version)

/-- The requirements of one target. The target's family must be declared; its version need not. -/
def ofTarget (levels : List Level) : Except ResolveError Requirements :=
  if levels.any (·.api = target.api) then
    .ok ((byVersion levels).foldl (addLevel target profile) ∅)
  else .error (.unknownFeature target (levels.map Level.feature))

end Requirements

structure Resolved where
  feature : Feature
  requirements : Requirements
deriving DecidableEq

namespace Resolved

/-- What the results have in common. A single result stays as it is. -/
def merge : List Resolved → Except ResolveError Resolved
  | [] => .error .noTargets
  | [r] => .ok r
  | r :: rest => .ok ⟨.merged, r.requirements.intersect (rest.map (·.requirements))⟩

/-- Extensions are read and listed, but they add nothing to a target. -/
def extensionRequirements (_target : Feature) (_extensions : List Extension) : Requirements := ∅

def ofTargets (targets : List Feature) (levels : List Level) (extensions : List Extension)
    (profile : Profile) : Except ResolveError Resolved := do
  let results ← targets.mapM fun target => do
    let r ← Requirements.ofTarget target profile levels
    return ⟨target, r.extend (extensionRequirements target extensions)⟩
  merge results

end Resolved

end GLBindings
