import GLBindings.Invocation
import GLBindings.Options.Yaml
import GLBindings.Proofs.Success

namespace GLBindings

open Json (Decoder readText readFlag readList readVersion)
open Success (bind_eq_ok_iff)

def Json.field? (key : String) : Json → Option Json
  | .object fields => fields.lookup key
  | _ => none

def Json.IsSectioned (j : Json) : Prop :=
  ∃ sections, j = .object sections ∧ ∀ s ∈ sections, ∃ fields, s.2 = .object fields

namespace Options

/-- What a file of options gives for a key of a section. -/
def inFile (j : Json) (part key : String) : Option Json := (j.field? part).bind (Json.field? key)

variable {α : Type}

/-- The value comes from the command line, or else from the file, or else it is the default. -/
inductive Prevails (onLine : Option α) (inFile : Option Json) (read : Decoder α) (default : α) :
    α → Prop
  | onLine {a : α} (h : onLine = some a) : Prevails onLine inFile read default a
  | inFile {j : Json} {a : α} (h : onLine = none) (hj : inFile = some j) (ha : read j = .ok a) :
      Prevails onLine inFile read default a
  | default (h : onLine = none) (hj : inFile = none) : Prevails onLine inFile read default default

def turnedOn (b : Bool) : Option Bool := if b then some true else none

def anyOf (l : List α) : Option (List α) := if l.isEmpty then none else some l

/-- The options are those in effect for an invocation whose file of options reads as `j`. -/
structure InEffect (i : Invocation) (j : Json) (o : Options) : Prop where
  enumCase : Prevails i.enumCase (inFile j "naming" "enum_case") readChoice .snake o.naming.enumCase
  functionCase : Prevails i.functionCase (inFile j "naming" "function_case") readChoice .snake
    o.naming.functionCase
  enumValueCase : Prevails i.enumValueCase (inFile j "naming" "enum_value_case") readChoice .snake
    o.naming.enumValueCase
  omitPrefix : Prevails (turnedOn i.omitPrefix) (inFile j "naming" "omit_prefix") readFlag false
    o.naming.omitPrefix
  enumNamespace : Prevails i.enumNamespace (inFile j "naming" "enum_namespace") readText "gl"
    o.naming.enumNamespace
  commandNamespace : Prevails i.commandNamespace (inFile j "naming" "command_namespace") readText "gl"
    o.naming.commandNamespace
  apis : Prevails (anyOf i.apis) (inFile j "targets" "apis") (readList readChoice) [] o.targets.apis
  versions : Prevails (anyOf i.versions) (inFile j "targets" "versions") (readList readVersion) []
    o.targets.versions
  intersectFeatures : Prevails (turnedOn i.intersectFeatures) (inFile j "targets" "intersect_features")
    readFlag false o.targets.intersectFeatures
  profile : Prevails i.profile (inFile j "targets" "profile") readChoice .core o.targets.profile
  path : Prevails (i.output.map some) (inFile j "output" "path") (Json.orNone readText) none
    o.output.path
  format : Prevails i.format (inFile j "output" "format") readChoice .json o.output.format

theorem Prevails.unique {onLine : Option α} {inFile : Option Json} {read : Decoder α} {default a b : α}
    (ha : Prevails onLine inFile read default a) (hb : Prevails onLine inFile read default b) :
    a = b := by
  cases ha with
  | onLine h =>
      subst h
      cases hb with
      | onLine h => exact Option.some.inj h
      | inFile h | default h => cases h
  | inFile h hj ha =>
      subst h hj
      cases hb with
      | onLine h => cases h
      | inFile _ hj hb =>
          cases hj
          exact Except.ok.inj (ha.symm.trans hb)
      | default _ hj => cases hj
  | default h hj =>
      subst h hj
      cases hb with
      | onLine h => cases h
      | inFile _ hj => cases hj
      | default => rfl

theorem prevails_of_readField {fields : List (String × Json)} {key : String} {default a b : α}
    {read : Decoder α} {onLine : Option α} {inFile : Option Json}
    (h : readField fields key default read = .ok a) (hj : inFile = fields.lookup key)
    (hb : onLine.getD a = b) : Prevails onLine inFile read default b := by
  subst hb
  cases onLine with
  | some c => exact .onLine rfl
  | none =>
      rw [readField] at h
      cases inFile with
      | none =>
          rw [← hj] at h
          cases h
          exact .default rfl rfl
      | some j =>
          rw [← hj] at h
          exact .inFile rfl rfl h

theorem InEffect.unique {i : Invocation} {j : Json} {o o' : Options} (h : InEffect i j o)
    (h' : InEffect i j o') : o = o' := by
  obtain ⟨⟨_, _, _, _, _, _⟩, ⟨_, _, _, _⟩, ⟨_, _⟩⟩ := o
  obtain ⟨⟨_, _, _, _, _, _⟩, ⟨_, _, _, _⟩, ⟨_, _⟩⟩ := o'
  cases h.enumCase.unique h'.enumCase
  cases h.functionCase.unique h'.functionCase
  cases h.enumValueCase.unique h'.enumValueCase
  cases h.omitPrefix.unique h'.omitPrefix
  cases h.enumNamespace.unique h'.enumNamespace
  cases h.commandNamespace.unique h'.commandNamespace
  cases h.apis.unique h'.apis
  cases h.versions.unique h'.versions
  cases h.intersectFeatures.unique h'.intersectFeatures
  cases h.profile.unique h'.profile
  cases h.path.unique h'.path
  cases h.format.unique h'.format
  rfl

theorem exists_fields_of_readField {sections : List (String × Json)} {part : String} {default a : α}
    {read : Decoder α} (hobjects : ∀ s ∈ sections, ∃ fields, s.2 = .object fields)
    (h : readField sections part default read = .ok a) (hempty : read (.object []) = .ok default) :
    ∃ fields, read (.object fields) = .ok a ∧
      ∀ key, inFile (.object sections) part key = fields.lookup key := by
  rw [readField] at h
  cases hj : sections.lookup part with
  | none =>
      rw [hj] at h
      cases h
      refine ⟨[], hempty, fun key => ?_⟩
      rw [inFile, Json.field?, hj]
      rfl
  | some j =>
      rw [hj] at h
      obtain ⟨before, after, rfl, -⟩ := List.lookup_eq_some_iff.mp hj
      obtain ⟨fields, rfl⟩ := hobjects (part, j) (by simp)
      refine ⟨fields, h, fun key => ?_⟩
      rw [inFile, Json.field?, hj]
      rfl

theorem readSection_eq_ok_iff {keys : List String} {fields l : List (String × Json)} :
    readSection keys (.object fields) = .ok l ↔
      l = fields ∧ (∀ f ∈ fields, f.1 ∈ keys) ∧ (fields.map Prod.fst).Nodup := by
  rw [readSection]
  split
  next h => exact ⟨fun hl => ⟨(Except.ok.inj hl).symm, h⟩, fun hl => hl.1 ▸ rfl⟩
  next h => exact iff_of_false (fun hl => by cases hl) fun hl => h hl.2

theorem eq_of_readSection {keys : List String} {fields l : List (String × Json)}
    (h : readSection keys (.object fields) = .ok l) : l = fields := (readSection_eq_ok_iff.mp h).1

section Sections

variable {j : Json}

theorem namingOfJson_eq_ok_iff {n : Naming} :
    namingOfJson j = .ok n ↔ ∃ fields, readSection namingKeys j = .ok fields ∧
      readField fields "enum_case" .snake readChoice = .ok n.enumCase ∧
      readField fields "function_case" .snake readChoice = .ok n.functionCase ∧
      readField fields "enum_value_case" .snake readChoice = .ok n.enumValueCase ∧
      readField fields "omit_prefix" false readFlag = .ok n.omitPrefix ∧
      readField fields "enum_namespace" "gl" readText = .ok n.enumNamespace ∧
      readField fields "command_namespace" "gl" readText = .ok n.commandNamespace := by
  constructor
  · intro h
    obtain ⟨fields, hfields, h⟩ := bind_eq_ok_iff.mp h
    obtain ⟨_, h₁, h⟩ := bind_eq_ok_iff.mp h
    obtain ⟨_, h₂, h⟩ := bind_eq_ok_iff.mp h
    obtain ⟨_, h₃, h⟩ := bind_eq_ok_iff.mp h
    obtain ⟨_, h₄, h⟩ := bind_eq_ok_iff.mp h
    obtain ⟨_, h₅, h⟩ := bind_eq_ok_iff.mp h
    obtain ⟨_, h₆, h⟩ := bind_eq_ok_iff.mp h
    cases h
    exact ⟨fields, hfields, h₁, h₂, h₃, h₄, h₅, h₆⟩
  · rintro ⟨fields, hfields, h₁, h₂, h₃, h₄, h₅, h₆⟩
    refine bind_eq_ok_iff.mpr ⟨fields, hfields, bind_eq_ok_iff.mpr ⟨_, h₁, ?_⟩⟩
    refine bind_eq_ok_iff.mpr ⟨_, h₂, bind_eq_ok_iff.mpr ⟨_, h₃, ?_⟩⟩
    refine bind_eq_ok_iff.mpr ⟨_, h₄, bind_eq_ok_iff.mpr ⟨_, h₅, ?_⟩⟩
    exact bind_eq_ok_iff.mpr ⟨_, h₆, rfl⟩

theorem targetsOfJson_eq_ok_iff {t : Targets} :
    targetsOfJson j = .ok t ↔ ∃ fields, readSection targetsKeys j = .ok fields ∧
      readField fields "apis" [] (readList readChoice) = .ok t.apis ∧
      readField fields "versions" [] (readList readVersion) = .ok t.versions ∧
      readField fields "intersect_features" false readFlag = .ok t.intersectFeatures ∧
      readField fields "profile" .core readChoice = .ok t.profile := by
  constructor
  · intro h
    obtain ⟨fields, hfields, h⟩ := bind_eq_ok_iff.mp h
    obtain ⟨_, h₁, h⟩ := bind_eq_ok_iff.mp h
    obtain ⟨_, h₂, h⟩ := bind_eq_ok_iff.mp h
    obtain ⟨_, h₃, h⟩ := bind_eq_ok_iff.mp h
    obtain ⟨_, h₄, h⟩ := bind_eq_ok_iff.mp h
    cases h
    exact ⟨fields, hfields, h₁, h₂, h₃, h₄⟩
  · rintro ⟨fields, hfields, h₁, h₂, h₃, h₄⟩
    refine bind_eq_ok_iff.mpr ⟨fields, hfields, bind_eq_ok_iff.mpr ⟨_, h₁, ?_⟩⟩
    refine bind_eq_ok_iff.mpr ⟨_, h₂, bind_eq_ok_iff.mpr ⟨_, h₃, ?_⟩⟩
    exact bind_eq_ok_iff.mpr ⟨_, h₄, rfl⟩

theorem outputOfJson_eq_ok_iff {d : Destination} :
    outputOfJson j = .ok d ↔ ∃ fields, readSection outputKeys j = .ok fields ∧
      readField fields "path" none (Json.orNone readText) = .ok d.path ∧
      readField fields "format" .json readChoice = .ok d.format := by
  constructor
  · intro h
    obtain ⟨fields, hfields, h⟩ := bind_eq_ok_iff.mp h
    obtain ⟨_, h₁, h⟩ := bind_eq_ok_iff.mp h
    obtain ⟨_, h₂, h⟩ := bind_eq_ok_iff.mp h
    cases h
    exact ⟨fields, hfields, h₁, h₂⟩
  · rintro ⟨fields, hfields, h₁, h₂⟩
    refine bind_eq_ok_iff.mpr ⟨fields, hfields, bind_eq_ok_iff.mpr ⟨_, h₁, ?_⟩⟩
    exact bind_eq_ok_iff.mpr ⟨_, h₂, rfl⟩

theorem ofJson_eq_ok_iff {o : Options} :
    ofJson j = .ok o ↔ ∃ sections, readSection keys j = .ok sections ∧
      readField sections "naming" {} namingOfJson = .ok o.naming ∧
      readField sections "targets" {} targetsOfJson = .ok o.targets ∧
      readField sections "output" {} outputOfJson = .ok o.output := by
  constructor
  · intro h
    obtain ⟨sections, hsections, h⟩ := bind_eq_ok_iff.mp h
    obtain ⟨_, h₁, h⟩ := bind_eq_ok_iff.mp h
    obtain ⟨_, h₂, h⟩ := bind_eq_ok_iff.mp h
    obtain ⟨_, h₃, h⟩ := bind_eq_ok_iff.mp h
    cases h
    exact ⟨sections, hsections, h₁, h₂, h₃⟩
  · rintro ⟨sections, hsections, h₁, h₂, h₃⟩
    refine bind_eq_ok_iff.mpr ⟨sections, hsections, bind_eq_ok_iff.mpr ⟨_, h₁, ?_⟩⟩
    exact bind_eq_ok_iff.mpr ⟨_, h₂, bind_eq_ok_iff.mpr ⟨_, h₃, rfl⟩⟩

end Sections

theorem getD_turnedOn (b c : Bool) : (turnedOn b).getD c = (b || c) := by cases b <;> rfl

theorem getD_anyOf (l m : List α) : (anyOf l).getD m = Invocation.orBefore l m := by
  unfold anyOf Invocation.orBefore
  split <;> rfl

theorem getD_map_some (a b : Option α) : (a.map some).getD b = (a <|> b) := by cases a <;> rfl

theorem inEffect_override {j : Json} {o : Options} (hj : j.IsSectioned) (h : ofJson j = .ok o)
    (i : Invocation) : InEffect i j (i.override o) := by
  obtain ⟨sections, rfl, hobjects⟩ := hj
  obtain ⟨_, hsections, hnaming, htargets, houtput⟩ := ofJson_eq_ok_iff.mp h
  cases eq_of_readSection hsections
  obtain ⟨naming, hnaming, hn⟩ := exists_fields_of_readField hobjects hnaming rfl
  obtain ⟨targets, htargets, ht⟩ := exists_fields_of_readField hobjects htargets rfl
  obtain ⟨output, houtput, ho⟩ := exists_fields_of_readField hobjects houtput rfl
  obtain ⟨_, hfields, hn₁, hn₂, hn₃, hn₄, hn₅, hn₆⟩ := namingOfJson_eq_ok_iff.mp hnaming
  cases eq_of_readSection hfields
  obtain ⟨_, hfields, ht₁, ht₂, ht₃, ht₄⟩ := targetsOfJson_eq_ok_iff.mp htargets
  cases eq_of_readSection hfields
  obtain ⟨_, hfields, ho₁, ho₂⟩ := outputOfJson_eq_ok_iff.mp houtput
  cases eq_of_readSection hfields
  constructor
  case enumCase => exact prevails_of_readField hn₁ (hn _) rfl
  case functionCase => exact prevails_of_readField hn₂ (hn _) rfl
  case enumValueCase => exact prevails_of_readField hn₃ (hn _) rfl
  case omitPrefix => exact prevails_of_readField hn₄ (hn _) (getD_turnedOn _ _)
  case enumNamespace => exact prevails_of_readField hn₅ (hn _) rfl
  case commandNamespace => exact prevails_of_readField hn₆ (hn _) rfl
  case apis => exact prevails_of_readField ht₁ (ht _) (getD_anyOf _ _)
  case versions => exact prevails_of_readField ht₂ (ht _) (getD_anyOf _ _)
  case intersectFeatures => exact prevails_of_readField ht₃ (ht _) (getD_turnedOn _ _)
  case profile => exact prevails_of_readField ht₄ (ht _) rfl
  case path => exact prevails_of_readField ho₁ (ho _) (getD_map_some _ _)
  case format => exact prevails_of_readField ho₂ (ho _) rfl

namespace Shape

theorem ofFields_eq_some {l : List (String × Shape)} {given : List (String × Yaml.Node)}
    {fields : List (String × Json)} (h : ofFields l given = some fields) :
    ∀ f ∈ fields, ∃ item n, l.lookup f.1 = some item ∧ ofNode item n = some f.2 := by
  induction given generalizing fields with
  | nil =>
      cases h
      simp
  | cons g given ih =>
      obtain ⟨k, n⟩ := g
      simp only [ofFields, Option.bind_eq_bind, Option.bind_eq_some_iff, Option.pure_def,
        Option.some.injEq] at h
      obtain ⟨item, hitem, j, hj, rest, hrest, rfl⟩ := h
      exact List.forall_mem_cons.mpr ⟨⟨item, n, hitem, hj⟩, ih hrest⟩

theorem exists_object {l : List (String × Shape)} {n : Yaml.Node} {j : Json}
    (h : ofNode (.fields l) n = some j) :
    ∃ fields, j = .object fields ∧
      ∀ f ∈ fields, ∃ item n, l.lookup f.1 = some item ∧ ofNode item n = some f.2 := by
  cases n with
  | scalar s =>
      rw [ofNode, ofScalar] at h
      split at h
      next =>
        cases h
        exact ⟨[], rfl, by simp⟩
      next => cases h
  | list items =>
      simp [ofNode] at h
  | mapping given =>
      rw [ofNode] at h
      obtain ⟨fields, hfields, rfl⟩ := Option.map_eq_some_iff.mp h
      exact ⟨fields, rfl, ofFields_eq_some hfields⟩

end Shape

theorem isSectioned_of_shape {n : Yaml.Node} {j : Json} (h : shape.ofNode n = some j) :
    j.IsSectioned := by
  obtain ⟨sections, rfl, hsections⟩ := Shape.exists_object h
  refine ⟨sections, rfl, fun s hs => ?_⟩
  obtain ⟨item, n, hitem, hn⟩ := hsections s hs
  have hfields : ∃ l, item = .fields l := by
    obtain ⟨before, after, hl, -⟩ := List.lookup_eq_some_iff.mp hitem
    have hmem : (s.1, item) ∈ before ++ (s.1, item) :: after := by simp
    rw [← hl] at hmem
    simp only [List.mem_cons, List.not_mem_nil, or_false, Prod.mk.injEq] at hmem
    rcases hmem with ⟨-, rfl⟩ | ⟨-, rfl⟩ | ⟨-, rfl⟩ <;> exact ⟨_, rfl⟩
  obtain ⟨l, rfl⟩ := hfields
  obtain ⟨fields, hfields, -⟩ := Shape.exists_object hn
  exact ⟨fields, hfields⟩

end Options

end GLBindings
