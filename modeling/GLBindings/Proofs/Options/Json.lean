import GLBindings.Proofs.Json.Decoder
import GLBindings.Proofs.Options

namespace GLBindings

namespace Json

def fields : Json → List (String × Json)
  | .object l => l
  | _ => []

theorem mem_fields_of_field? {j value : Json} {key : String} (h : j.field? key = some value) :
    (key, value) ∈ j.fields := by
  cases j with
  | object l =>
      obtain ⟨before, after, rfl, -⟩ := List.lookup_eq_some_iff.mp h
      simp [fields]
  | null | bool | number | string | array => cases h

/-- The second object is the first one without the fields whose keys are gone, in any order. -/
inductive Thinned (gone : String → Bool) (whole : Json) : Json → Prop
  | object {l : List (String × Json)} (hl : l.Perm (whole.fields.filter fun f => !gone f.1)) :
      Thinned gone whole (.object l)

theorem Thinned.exists_object {gone : String → Bool} {whole j : Json} (h : Thinned gone whole j) :
    ∃ l, j = .object l := by
  cases h
  exact ⟨_, rfl⟩

end Json

namespace Options

open Json (Decoder Reads Thinned readList readVersion reads_flag reads_text reads_ofString?)
open Success (bind_eq_ok_iff mapError_eq_ok_iff)

/-- What is taken out of the JSON of options: whole sections, and keys out of sections. -/
structure Removal where
  parts : List String := []
  keys : List (String × String) := []

namespace Removal

variable (r : Removal)

def takes (part key : String) : Bool := part ∈ r.parts || (part, key) ∈ r.keys

def Leaves (o : Options) (j : Json) : Prop :=
  ∃ naming targets output : Json,
    Thinned (fun k => ("naming", k) ∈ r.keys) (namingToJson o.naming) naming ∧
    Thinned (fun k => ("targets", k) ∈ r.keys) (targetsToJson o.targets) targets ∧
    Thinned (fun k => ("output", k) ∈ r.keys) (outputToJson o.output) output ∧
    Thinned (· ∈ r.parts) (.object [("naming", naming), ("targets", targets), ("output", output)]) j

end Removal

section Reset

variable (gone : String → Bool)

def resetNaming (n : Naming) : Naming where
  enumCase := if gone "enum_case" then .snake else n.enumCase
  functionCase := if gone "function_case" then .snake else n.functionCase
  enumValueCase := if gone "enum_value_case" then .snake else n.enumValueCase
  omitPrefix := if gone "omit_prefix" then false else n.omitPrefix
  enumNamespace := if gone "enum_namespace" then "gl" else n.enumNamespace
  commandNamespace := if gone "command_namespace" then "gl" else n.commandNamespace

def resetTargets (t : Targets) : Targets where
  apis := if gone "apis" then [] else t.apis
  versions := if gone "versions" then [] else t.versions
  intersectFeatures := if gone "intersect_features" then false else t.intersectFeatures
  profile := if gone "profile" then .core else t.profile

def resetOutput (d : Destination) : Destination where
  path := if gone "path" then none else d.path
  format := if gone "format" then .json else d.format

end Reset

/-- The options with all that is taken out at its default. -/
def Removal.reset (r : Removal) (o : Options) : Options where
  naming := resetNaming (r.takes "naming") o.naming
  targets := resetTargets (r.takes "targets") o.targets
  output := resetOutput (r.takes "output") o.output

def keysOf : String → List String
  | "naming" => namingKeys
  | "targets" => targetsKeys
  | "output" => outputKeys
  | _ => []

/-- There is something in the value that options do not have. -/
inductive Foreign : Json → Prop
  | part {sections : List (String × Json)} {s : String × Json} (hs : s ∈ sections)
      (h : s.1 ∉ keys) : Foreign (.object sections)
  | key {sections fields : List (String × Json)} {part : String} {f : String × Json}
      (hs : (part, .object fields) ∈ sections) (hf : f ∈ fields) (h : f.1 ∉ keysOf part) :
      Foreign (.object sections)
  | merged {sections fields : List (String × Json)} {apis : List Json}
      (hs : ("targets", .object fields) ∈ sections) (hf : ("apis", .array apis) ∈ fields)
      (h : .string Api.merged.name ∈ apis) : Foreign (.object sections)

section Thinned

variable {keys : List String} {whole : Json} {l : List (String × Json)} {gone : String → Bool}
  {key : String} {j : Json} (hkeys : whole.fields.map Prod.fst = keys) (hnodup : keys.Nodup)
  (h : Thinned gone whole (.object l))
include h

theorem mem_thinned_iff {f : String × Json} : f ∈ l ↔ f ∈ whole.fields ∧ gone f.1 = false := by
  cases h with
  | object hl => simp [hl.mem_iff]

include hkeys hnodup

theorem nodup_thinned : (l.map Prod.fst).Nodup := by
  cases h with
  | object hl =>
      rw [(hl.map Prod.fst).nodup_iff]
      exact (hkeys ▸ hnodup).sublist (List.filter_sublist.map Prod.fst)

theorem readSection_thinned : readSection keys (.object l) = .ok l := by
  refine readSection_eq_ok_iff.mpr ⟨rfl, fun f hf => ?_, nodup_thinned hkeys hnodup h⟩
  rw [← hkeys]
  exact List.mem_map_of_mem ((mem_thinned_iff h).mp hf).1

theorem lookup_thinned (hj : whole.field? key = some j) :
    l.lookup key = if gone key then none else some j := by
  split
  next hgone =>
      rw [List.lookup_eq_none_iff]
      intro f hf
      have hstays := ((mem_thinned_iff h).mp hf).2
      rw [bne_iff_ne]
      rintro rfl
      rw [hgone] at hstays
      cases hstays
  next hgone =>
      have hmem : (key, j) ∈ l :=
        (mem_thinned_iff h).mpr ⟨Json.mem_fields_of_field? hj, Bool.eq_false_iff.mpr hgone⟩
      exact Json.lookup_eq_some_of_nodup (nodup_thinned hkeys hnodup h) hmem

theorem readField_thinned {α : Type} {default a : α} {read : Decoder α}
    (hj : whole.field? key = some j) (ha : read j = .ok a) :
    readField l key default read = .ok (if gone key then default else a) := by
  rw [readField, lookup_thinned hkeys hnodup h hj]
  cases gone key with
  | true => rfl
  | false => exact ha

end Thinned

theorem reads_choice {α : Type} [Named α] {a : α} (h : Named.ofName? (Named.name a) = some a) :
    readChoice (.string (Named.name a)) = .ok a := by
  show (Named.read (Named.name a)).mapError _ = _
  rw [Named.read, h]
  rfl

theorem reads_casing : Reads readChoice fun c : Casing => .string c.name :=
  fun c => reads_choice (by cases c <;> rfl)

theorem reads_profile : Reads readChoice fun p : Profile => .string p.name :=
  fun p => reads_choice (by cases p <;> rfl)

theorem reads_format : Reads readChoice fun f : Format => .string f.name :=
  fun f => reads_choice (by cases f <;> rfl)

theorem reads_api {a : Api} (h : a ≠ .merged) : readChoice (.string a.name) = .ok a := by
  apply reads_choice
  cases a with
  | merged => exact absurd rfl h
  | gl | gles1 | gles2 | glsc2 => rfl

theorem reads_apis {l : List Api} (h : .merged ∉ l) :
    readList readChoice (.ofStrings (l.map Api.name)) = .ok l := by
  rw [Json.ofStrings, List.map_map]
  exact Json.readList_map fun a ha => reads_api (ne_of_mem_of_not_mem ha h)

theorem reads_versions (l : List Version) :
    readList readVersion (.ofStrings (l.map Version.text)) = .ok l := by
  rw [Json.ofStrings, List.map_map]
  exact Json.readList_map fun v _ => Json.reads_versionText v

section Sections

variable {gone : String → Bool} {j : Json}

theorem namingOfJson_thinned {n : Naming} (h : Thinned gone (namingToJson n) j) :
    namingOfJson j = .ok (resetNaming gone n) := by
  obtain ⟨l, rfl⟩ := h.exists_object
  have hfield {α : Type} {key : String} {j : Json} {default a : α} {read : Decoder α} :=
    @readField_thinned namingKeys _ l gone key j rfl (by decide) h α default a read
  exact namingOfJson_eq_ok_iff.mpr ⟨l, readSection_thinned rfl (by decide) h,
    hfield rfl (reads_casing n.enumCase), hfield rfl (reads_casing n.functionCase),
    hfield rfl (reads_casing n.enumValueCase), hfield rfl (reads_flag n.omitPrefix),
    hfield rfl (reads_text n.enumNamespace), hfield rfl (reads_text n.commandNamespace)⟩

theorem targetsOfJson_thinned {t : Targets} (h : Thinned gone (targetsToJson t) j)
    (hmerged : .merged ∉ t.apis) : targetsOfJson j = .ok (resetTargets gone t) := by
  obtain ⟨l, rfl⟩ := h.exists_object
  have hfield {α : Type} {key : String} {j : Json} {default a : α} {read : Decoder α} :=
    @readField_thinned targetsKeys _ l gone key j rfl (by decide) h α default a read
  exact targetsOfJson_eq_ok_iff.mpr ⟨l, readSection_thinned rfl (by decide) h,
    hfield rfl (reads_apis hmerged), hfield rfl (reads_versions t.versions),
    hfield rfl (reads_flag t.intersectFeatures), hfield rfl (reads_profile t.profile)⟩

theorem outputOfJson_thinned {d : Destination} (h : Thinned gone (outputToJson d) j) :
    outputOfJson j = .ok (resetOutput gone d) := by
  obtain ⟨l, rfl⟩ := h.exists_object
  have hfield {α : Type} {key : String} {j : Json} {default a : α} {read : Decoder α} :=
    @readField_thinned outputKeys _ l gone key j rfl (by decide) h α default a read
  exact outputOfJson_eq_ok_iff.mpr ⟨l, readSection_thinned rfl (by decide) h,
    hfield rfl (reads_ofString? d.path), hfield rfl (reads_format d.format)⟩

end Sections

namespace Removal

variable {r : Removal} {o : Options} {j : Json}

theorem takes_of_mem {part : String} (h : part ∈ r.parts) : r.takes part = fun _ => true := by
  funext key
  simp [takes, h]

theorem takes_of_not_mem {part : String} (h : part ∉ r.parts) :
    r.takes part = fun key => decide ((part, key) ∈ r.keys) := by
  funext key
  simp [takes, h]

/-- A section is read as it is written, but for what is taken out. -/
theorem readField_part {whole : Json} {l : List (String × Json)} {α : Type} {part : String}
    {default : α} {read : Decoder α} (hkeys : whole.fields.map Prod.fst = Options.keys)
    (h : Thinned (· ∈ r.parts) whole (.object l)) (reset : (String → Bool) → α)
    (hall : reset (fun _ => true) = default) (hj : whole.field? part = some j)
    (hread : read j = .ok (reset fun key => (part, key) ∈ r.keys)) :
    readField l part default read = .ok (reset (r.takes part)) := by
  rw [readField_thinned hkeys (by decide) h hj hread]
  by_cases hpart : part ∈ r.parts
  · rw [takes_of_mem hpart, hall, if_pos (decide_eq_true hpart)]
  · rw [takes_of_not_mem hpart, if_neg (by simpa using hpart)]

theorem ofJson_of_leaves (h : r.Leaves o j) (hmerged : .merged ∉ o.targets.apis) :
    ofJson j = .ok (r.reset o) := by
  obtain ⟨naming, targets, output, hnaming, htargets, houtput, h⟩ := h
  obtain ⟨l, rfl⟩ := h.exists_object
  exact ofJson_eq_ok_iff.mpr ⟨l, readSection_thinned rfl (by decide) h,
    readField_part rfl h (resetNaming · o.naming) rfl rfl (namingOfJson_thinned hnaming),
    readField_part rfl h (resetTargets · o.targets) rfl rfl (targetsOfJson_thinned htargets hmerged),
    readField_part rfl h (resetOutput · o.output) rfl rfl (outputOfJson_thinned houtput)⟩

theorem reset_empty (o : Options) : ({} : Removal).reset o = o := rfl

theorem thinned_of_kept {gone : String → Bool} {l : List (String × Json)}
    (h : ∀ f ∈ l, gone f.1 = false) : Thinned gone (.object l) (.object l) := by
  refine .object ?_
  rw [Json.fields, List.filter_eq_self.mpr fun f hf => by simp [h f hf]]

theorem leaves_toJson (o : Options) : ({} : Removal).Leaves o o.toJson :=
  ⟨_, _, _, thinned_of_kept fun _ _ => rfl, thinned_of_kept fun _ _ => rfl,
    thinned_of_kept fun _ _ => rfl, thinned_of_kept fun _ _ => rfl⟩

end Removal

section Foreign

variable {sections fields : List (String × Json)} {key part : String} {j : Json} {o : Options}

theorem read_of_readField {α : Type} {default a : α} {read : Decoder α}
    (hnodup : (fields.map Prod.fst).Nodup) (hj : (key, j) ∈ fields)
    (h : readField fields key default read = .ok a) : read j = .ok a := by
  rw [readField, Json.lookup_eq_some_of_nodup hnodup hj] at h
  exact h

theorem known_of_ofJson (h : ofJson (.object sections) = .ok o) :
    (∀ s ∈ sections, s.1 ∈ keys) ∧ (sections.map Prod.fst).Nodup := by
  obtain ⟨_, hsections, -⟩ := ofJson_eq_ok_iff.mp h
  exact (readSection_eq_ok_iff.mp hsections).2

theorem sections_of_ofJson (h : ofJson (.object sections) = .ok o) :
    readField sections "naming" {} namingOfJson = .ok o.naming ∧
      readField sections "targets" {} targetsOfJson = .ok o.targets ∧
      readField sections "output" {} outputOfJson = .ok o.output := by
  obtain ⟨_, hsections, hread⟩ := ofJson_eq_ok_iff.mp h
  cases eq_of_readSection hsections
  exact hread

theorem known_of_part (h : ofJson (.object sections) = .ok o) (hs : (part, .object fields) ∈ sections) :
    (∀ f ∈ fields, f.1 ∈ keysOf part) ∧ (fields.map Prod.fst).Nodup := by
  obtain ⟨hknown, hnodup⟩ := known_of_ofJson h
  obtain ⟨hn, ht, ho⟩ := sections_of_ofJson h
  have hpart := hknown _ hs
  simp only [keys, List.mem_cons, List.not_mem_nil, or_false] at hpart
  have hsection : ∃ l, readSection (keysOf part) (.object fields) = .ok l := by
    rcases hpart with rfl | rfl | rfl
    · obtain ⟨l, hl, -⟩ := namingOfJson_eq_ok_iff.mp (read_of_readField hnodup hs hn)
      exact ⟨l, hl⟩
    · obtain ⟨l, hl, -⟩ := targetsOfJson_eq_ok_iff.mp (read_of_readField hnodup hs ht)
      exact ⟨l, hl⟩
    · obtain ⟨l, hl, -⟩ := outputOfJson_eq_ok_iff.mp (read_of_readField hnodup hs ho)
      exact ⟨l, hl⟩
  obtain ⟨_, hfields⟩ := hsection
  exact (readSection_eq_ok_iff.mp hfields).2

theorem mem_choices_of_readName {α : Type} [Named α] {a : α} (h : Json.readName j = .ok a) :
    a ∈ (Named.choices : List α) := by
  obtain ⟨s, -, h⟩ := bind_eq_ok_iff.mp h
  exact (Named.spells_of_read (mapError_eq_ok_iff.mp h)).1

theorem ne_merged_of_readChoice {a : Api} (h : readChoice j = .ok a) : a ≠ .merged := by
  have hmem : a ∈ (Named.choices : List Api) := by
    unfold readChoice at h
    split at h <;> exact mem_choices_of_readName h
  rintro rfl
  exact absurd hmem (by decide)

theorem merged_not_mem_of_readList {l : List Api} (h : readList readChoice j = .ok l) :
    .merged ∉ l := by
  obtain ⟨items, -, h⟩ := bind_eq_ok_iff.mp h
  intro hmem
  obtain ⟨item, -, hitem⟩ := Success.exists_of_mem_right (Success.mapM_eq_ok_iff.mp h) hmem
  exact ne_merged_of_readChoice hitem rfl

theorem of_readField {α : Type} {P : α → Prop} {default a : α} {read : Decoder α}
    (hdefault : P default) (hread : ∀ j a, read j = .ok a → P a)
    (h : readField fields key default read = .ok a) : P a := by
  rw [readField] at h
  cases hj : fields.lookup key with
  | none =>
      rw [hj] at h
      cases h
      exact hdefault
  | some j =>
      rw [hj] at h
      exact hread j a h

theorem merged_not_mem_of_targetsOfJson {t : Targets} (h : targetsOfJson j = .ok t) :
    .merged ∉ t.apis := by
  obtain ⟨_, -, hapis, -⟩ := targetsOfJson_eq_ok_iff.mp h
  exact of_readField (P := fun l => .merged ∉ l) List.not_mem_nil (fun _ _ => merged_not_mem_of_readList)
    hapis

theorem merged_not_mem_of_ofJson (h : ofJson j = .ok o) : .merged ∉ o.targets.apis := by
  obtain ⟨_, -, -, htargets, -⟩ := ofJson_eq_ok_iff.mp h
  exact of_readField (P := fun t => .merged ∉ t.apis) List.not_mem_nil
    (fun _ _ => merged_not_mem_of_targetsOfJson) htargets

theorem not_foreign_of_ofJson (h : ofJson j = .ok o) : ¬ Foreign j := by
  intro hforeign
  cases hforeign with
  | part hs hk => exact hk ((known_of_ofJson h).1 _ hs)
  | key hs hf hk => exact hk ((known_of_part h hs).1 _ hf)
  | merged hs hf hmem =>
      obtain ⟨-, ht, -⟩ := sections_of_ofJson h
      obtain ⟨_, hfields, hapis, -⟩ :=
        targetsOfJson_eq_ok_iff.mp (read_of_readField (known_of_ofJson h).2 hs ht)
      cases eq_of_readSection hfields
      have hread := read_of_readField (known_of_part h hs).2 hf hapis
      obtain ⟨a, ha⟩ := Success.succeeds_mapM_iff.mp ⟨_, hread⟩ _ hmem
      cases ha

theorem error_of_foreign (h : Foreign j) : ∃ e, ofJson j = .error e := by
  cases hread : ofJson j with
  | error e => exact ⟨e, rfl⟩
  | ok o => exact absurd h (not_foreign_of_ofJson hread)

theorem foreign_toJson (h : .merged ∈ o.targets.apis) : Foreign o.toJson := by
  refine .merged (.tail _ (.head _)) (.head _) ?_
  rw [List.map_map]
  exact List.mem_map_of_mem h

end Foreign

/-- What is written is read back, and what is taken out of it is at its default. Nothing that options
do not have can be put in, and the merged family can be written, but never read. -/
theorem ofJson_restores :
    (∀ o : Options, .merged ∉ o.targets.apis → ofJson o.toJson = .ok o) ∧
      (∀ (r : Removal) (o : Options) (j : Json), r.Leaves o j → .merged ∉ o.targets.apis →
        ofJson j = .ok (r.reset o)) ∧
      (∀ j, Foreign j → ∃ e, ofJson j = .error e) ∧
      (∀ o : Options, .merged ∈ o.targets.apis → ∃ e, ofJson o.toJson = .error e) ∧
      ∀ j o, ofJson j = .ok o → .merged ∉ o.targets.apis := by
  refine ⟨fun o h => ?_, fun r o j => Removal.ofJson_of_leaves, fun j => error_of_foreign,
    fun o h => error_of_foreign (foreign_toJson h), fun j o => merged_not_mem_of_ofJson⟩
  rw [Removal.ofJson_of_leaves (Removal.leaves_toJson o) h, Removal.reset_empty]

def mobile : Options where
  naming := { enumCase := .pascal, omitPrefix := true, enumNamespace := "gles" }
  targets := { apis := [.gles2], versions := [⟨3, 2⟩], profile := .compatibility }
  output := { path := some "gles.json", format := .ndjson }

def mobileLess : Json :=
  .object [
    ("targets", .object [("profile", .string "compatibility"), ("apis", .array [.string "gles2"])]),
    ("naming", .object [("function_case", .string "snake_case"),
      ("enum_value_case", .string "snake_case"), ("enum_namespace", .string "gles"),
      ("command_namespace", .string "gl")])]

theorem ofJson_restores_mobile :
    ofJson mobile.toJson = .ok mobile ∧
      ofJson mobileLess = .ok {
        naming := { enumNamespace := "gles" }
        targets := { apis := [.gles2], profile := .compatibility } } ∧
      (∃ e, ofJson (.object [("naming", .object [("colour", .null)])]) = .error e) ∧
      (∃ e, ofJson { mobile with targets.apis := [.gles2, .merged] }.toJson = .error e) ∧
      .merged ∉ mobile.targets.apis := by
  obtain ⟨hwhole, hless, hforeign, hmerged, hnever⟩ := ofJson_restores
  have hmobile : ofJson mobile.toJson = .ok mobile := hwhole mobile (by decide)
  refine ⟨hmobile, ?_, ?_, hmerged _ (by decide), hnever _ _ hmobile⟩
  · let r : Removal := {
      parts := ["output"]
      keys := [("naming", "enum_case"), ("naming", "omit_prefix"), ("targets", "versions"),
        ("targets", "intersect_features")] }
    have hleaves : r.Leaves mobile mobileLess :=
      ⟨_, _, outputToJson mobile.output, .object (.refl _), .object (.swap ..), .object (.refl _),
        .object (.swap ..)⟩
    exact hless r mobile mobileLess hleaves (by decide)
  · exact hforeign _ (.key (.head _) (.head _) (by decide))

end Options

end GLBindings
