import GLBindings.Proofs.Json.Pretty
import GLBindings.Proofs.Output.Sinks
import GLBindings.Proofs.Table

namespace GLBindings

open Json (Sound Reads)

namespace Json

def without (key : String) : Json → Json
  | object fields => object (fields.filter (·.1 ≠ key))
  | j => j

def isOfKind (kind : String) (j : Json) : Bool :=
  match j.get "kind" with
  | string k => k = kind
  | _ => false

/-- The records of one kind, without the field that says so. -/
def ofKind (kind : String) (records : List Json) : List Json :=
  (records.filter (isOfKind kind)).map (without "kind")

end Json

theorem Feature.reads_toJson : Reads Feature.ofJson Feature.toJson := by
  intro f
  have hapi : f.toJson.get "api" = .string f.api.name := rfl
  have hversion : f.toJson.get "version" = f.version.toJson := rfl
  rw [Feature.ofJson, hapi, hversion, Api.reads_name, Json.reads_version]
  rfl

theorem Requirements.reads_versions : Reads ofJson.versions toJson.versions := by
  intro t
  have hentries : (t.entries.map fun e => (e.1, e.2.toJson)).mapM
      (fun f => do return (f.1, ← Json.readVersion f.2) :
        String × Json → Except Unreadable (String × Version)) = .ok t.entries := by
    rw [Success.mapM_eq_ok_iff, List.forall₂_map_left_iff, List.forall₂_same]
    intro e _
    rw [Json.reads_version]
    rfl
  rw [ofJson.versions, toJson.versions]
  refine Success.bind_eq_ok_iff.mpr ⟨_, rfl, Success.bind_eq_ok_iff.mpr ⟨_, hentries, ?_⟩⟩
  rw [Table.ofList_entries]
  rfl

theorem Requirements.reads_toJson : Reads Requirements.ofJson Requirements.toJson := by
  intro r
  have henums : r.toJson.get "enums" = toJson.versions r.enums := rfl
  have hcommands : r.toJson.get "commands" = toJson.versions r.commands := rfl
  rw [Requirements.ofJson, henums, hcommands, reads_versions, reads_versions]
  rfl

theorem Feature.sound_toJson (f : Feature) : Sound f.toJson := by
  simp [toJson]

theorem Requirements.sound_versions (t : Table String Version) : Sound (toJson.versions t) :=
  .object (List.forall_mem_map.mpr fun e _ => e.2.sound_toJson)

theorem Requirements.sound_toJson (r : Requirements) : Sound r.toJson := by
  simp [toJson, sound_versions]

namespace Binding

theorem sound_toJson (b : Binding) : Sound b.toJson := by
  have htypes : ∀ j ∈ b.types.map fun s => Json.object (statementFields s), Sound j := by
    simp [statementFields]
  have henums : ∀ f ∈ b.enums.entries.map fun e => (e.1, e.2.toJson), Sound f.2 :=
    List.forall_mem_map.mpr fun e _ => e.2.sound_toJson
  have hlevels : ∀ j ∈ b.levels.map Level.toJson, Sound j :=
    List.forall_mem_map.mpr fun l _ => .object l.sound_fields
  refine .object ?_
  simp only [List.forall_mem_cons]
  exact ⟨b.feature.sound_toJson, b.requirements.sound_toJson, .array htypes, .object henums,
    .array hlevels, by simp⟩

namespace Record

theorem isOfKind_toJson (kind : String) (r : Record) :
    r.toJson.isOfKind kind = decide (r.kind = kind) := by
  rw [Json.isOfKind, r.hasFields_toJson _ List.mem_cons_self]

theorem without_toJson (r : Record) : r.toJson.without "kind" = .object r.fields := by
  cases r <;> rfl

end Record

theorem ofKind_toJson (kind : String) (l : List Record) :
    Json.ofKind kind (l.map Record.toJson) =
      (l.filter (·.kind = kind)).map fun r => .object r.fields := by
  simp [Json.ofKind, List.filter_map, Record.isOfKind_toJson, Record.without_toJson,
    Function.comp_def]

/-- The document and the values on the lines are those of the binding, and they agree. -/
structure Agree (b : Binding) (document : Json) (lines : List Json) : Prop where
  keys : ∃ fields, document = .object fields ∧
    fields.map (·.1) = ["feature", "requirements", "types", "enums", "feature_levels"]
  types : document.get "types" = .array (Json.ofKind "type" lines)
  enums : ∃ fields, document.get "enums" = .object fields ∧ fields.map (·.1) = b.enums.keys ∧
    fields.map (·.2) = Json.ofKind "enum" lines
  levels : document.get "feature_levels" = .array (Json.ofKind "feature_level" lines)
  records : lines.map Record.ofJson =
    (b.types.map Record.type ++ b.enums.values.map Record.enum ++ b.levels.map Record.level).map .ok
  feature : Feature.ofJson (document.get "feature") = .ok b.feature
  requirements : Requirements.ofJson (document.get "requirements") = .ok b.requirements

theorem agree_toJson (b : Binding) : Agree b b.toJson (b.records.map Record.toJson) := by
  constructor
  case keys => exact ⟨_, rfl, rfl⟩
  case types =>
    have htypes : b.records.filter (·.kind = "type") = b.types.map .type := by
      simp [records, List.filter_map, Function.comp_def, Record.kind]
    rw [ofKind_toJson, htypes, List.map_map]
    rfl
  case enums =>
    have henums : b.records.filter (·.kind = "enum") = b.enums.values.map .enum := by
      simp [records, List.filter_map, Function.comp_def, Record.kind]
    refine ⟨_, rfl, ?_, ?_⟩
    · rw [List.map_map]
      rfl
    · rw [ofKind_toJson, henums, Table.values, List.map_map, List.map_map, List.map_map]
      rfl
  case levels =>
    have hlevels : b.records.filter (·.kind = "feature_level") = b.levels.map .level := by
      simp [records, List.filter_map, Function.comp_def, Record.kind]
    rw [ofKind_toJson, hlevels, List.map_map]
    rfl
  case records =>
    rw [List.map_map]
    exact List.map_congr_left fun r _ => Record.reads_toJson r
  case feature => exact Feature.reads_toJson b.feature
  case requirements => exact Requirements.reads_toJson b.requirements

theorem mapM_read?_lines (l : List Record) :
    (Record.lines l).mapM Json.read? = some (l.map Record.toJson) := by
  rw [Record.lines, List.mapM_map]
  induction l with
  | nil => rfl
  | cons r l ih =>
      rw [List.mapM_cons, Function.comp_apply, r.sound_toJson.read?_compact, ih]
      rfl

/-- A sink without a bound takes the binding in either format, and what is read from the one text and
from the lines of the other agrees. -/
theorem writeBinding_agrees (b : Binding) (s : Sink) :
    ∃ text lines document values,
      { s with room := none, flushFault := none }.writeBinding b .json = (.ok (),
        { s with room := none, flushFault := none, taken := s.taken ++ text.toUTF8.toList }) ∧
      { s with room := none, flushFault := none }.writeBinding b .ndjson = (.ok (),
        { s with
          room := none, flushFault := none, taken := s.taken ++ (joinLines lines).toUTF8.toList }) ∧
      Text.splitText '\n' (joinLines lines) = lines ++ [""] ∧
      Json.read? text = some document ∧ lines.mapM Json.read? = some values ∧
      Agree b document values := by
  have hwrite (f : Format) : { s with room := none, flushFault := none }.writeBinding b f = (.ok (),
      { s with room := none, flushFault := none, taken := s.taken ++ b.bytes f }) :=
    writeBinding_eq_ok_iff.mpr ⟨Sink.takes_of_endless rfl rfl _, rfl⟩
  exact ⟨b.text .json, Record.lines b.records, b.toJson, b.records.map Record.toJson, hwrite .json,
    hwrite .ndjson, Record.splitText_lines b.records, b.sound_toJson.read?_pretty,
    mapM_read?_lines b.records, agree_toJson b⟩

end Binding

end GLBindings
