import GLBindings.Binding
import GLBindings.Proofs.Success

namespace GLBindings

/-- The commands of the first block. Without a block there are none. -/
def Registry.commandEntries (r : Registry) : List CommandEntry :=
  (r.commands?.map (·.commands)).getD []

namespace Definitions

structure AreOf (r : Registry) (t : Targets) (d : Definitions) : Prop where
  resolved : Resolved.ofTargets t.features r.levels r.extensions t.profile =
    .ok ⟨d.feature, d.requirements⟩
  types : d.types = TypeEntry.statements (r.types?.getD [])
  enums : d.enums = EnumGroup.extract d.requirements.enums.keys r.enumBlocks
  commands : Signature.extract d.requirements.commands.keys r.commandEntries = .ok d.commands

theorem ofRegistry_eq (r : Registry) (t : Targets) :
    ofRegistry r t = (do
      let x ← (Resolved.ofTargets t.features r.levels r.extensions t.profile).mapError .resolve
      let signatures ←
        (Signature.extract x.requirements.commands.keys r.commandEntries).mapError .registry
      return {
        feature := x.feature
        requirements := x.requirements
        types := TypeEntry.statements (r.types?.getD [])
        enums := EnumGroup.extract x.requirements.enums.keys r.enumBlocks
        commands := signatures }) := by
  unfold ofRegistry Registry.commandEntries
  cases r.commands? <;> rfl

theorem ofRegistry_eq_ok_iff {r : Registry} {t : Targets} {d : Definitions} :
    ofRegistry r t = .ok d ↔ AreOf r t d := by
  rw [ofRegistry_eq, Success.bind_eq_ok_iff]
  constructor
  · rintro ⟨x, hx, h⟩
    obtain ⟨signatures, hcommands, h⟩ := Success.bind_eq_ok_iff.mp h
    cases h
    exact ⟨Success.mapError_eq_ok_iff.mp hx, rfl, rfl, Success.mapError_eq_ok_iff.mp hcommands⟩
  · rintro ⟨hx, htypes, henums, hcommands⟩
    refine ⟨_, Success.mapError_eq_ok_iff.mpr hx, Success.bind_eq_ok_iff.mpr ⟨_,
      Success.mapError_eq_ok_iff.mpr hcommands, ?_⟩⟩
    rw [← htypes, ← henums]
    rfl

end Definitions

namespace Binding

structure IsOf (naming : Naming) (d : Definitions) (b : Binding) : Prop where
  feature : b.feature = d.feature
  requirements : b.requirements = d.requirements
  types : b.types = d.types
  enums : b.enums = Enum.table naming d.enums
  levels : Level.group b.feature.api b.requirements (Command.table naming b.enums d.commands) =
    .ok b.levels

theorem ofDefinitions_eq_ok_iff {naming : Naming} {d : Definitions} {b : Binding} :
    ofDefinitions naming d = .ok b ↔ IsOf naming d b := by
  rw [ofDefinitions, Success.bind_eq_ok_iff]
  constructor
  · rintro ⟨levels, hlevels, h⟩
    cases h
    exact ⟨rfl, rfl, rfl, rfl, hlevels⟩
  · rintro ⟨hfeature, hrequirements, htypes, henums, hlevels⟩
    rw [hfeature, hrequirements, henums] at hlevels
    refine ⟨_, hlevels, ?_⟩
    rw [← hfeature, ← hrequirements, ← htypes, ← henums]
    rfl

theorem ofRegistry_eq_ok_iff {r : Registry} {o : Options} {b : Binding} :
    ofRegistry r o = .ok b ↔ ∃ d, Definitions.AreOf r o.targets d ∧ IsOf o.naming d b := by
  rw [ofRegistry, Success.bind_eq_ok_iff]
  simp only [Success.mapError_eq_ok_iff, Definitions.ofRegistry_eq_ok_iff, ofDefinitions_eq_ok_iff]

end Binding

end GLBindings
