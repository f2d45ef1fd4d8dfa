import GLBindings.Output.Reading
import GLBindings.Proofs.Json.Decoder

namespace GLBindings

theorem Json.reads_version : Reads readVersion Version.toJson := reads_versionText

open Json (Reads HasFields hasFields_object reads_text reads_ofString? reads_version)

theorem Api.reads_name : Reads Api.ofJson fun a => .string a.name := by
  intro a
  cases a <;> rfl

theorem EnumValue.reads_toJson : Reads EnumValue.ofJson EnumValue.toJson := fun _ => rfl

namespace Binding

theorem Enum.ofJson_of_hasFields {e : Enum} {j : Json} (h : j.HasFields e.fields) :
    Enum.ofJson j = .ok e := by
  simp only [HasFields, Enum.fields, List.forall_mem_cons] at h
  obtain ⟨hname, hregistryName, hscope, hbitmask, hvalues, _⟩ := h
  rw [Enum.ofJson, hname, hregistryName, hscope, hbitmask, hvalues, EnumValue.reads_toJson.list]
  rfl

theorem Enum.reads_toJson : Reads Enum.ofJson Enum.toJson := by
  intro e
  exact ofJson_of_hasFields (hasFields_object (by simp [Enum.fields]))

theorem TypeRef.reads_toJson : Reads TypeRef.ofJson TypeRef.toJson := by
  intro t
  have hlow : t.toJson.get "low_level" = .string t.lowLevel := rfl
  have hfront : t.toJson.get "front_modifiers" = .ofString? t.frontModifiers := rfl
  have hback : t.toJson.get "back_modifiers" = .ofString? t.backModifiers := rfl
  have hhigh : Json.orNone Enum.ofJson (t.toJson.get "high_level") = .ok t.highLevel := by
    obtain ⟨_, high, _, _⟩ := t
    cases high with
    | none => rfl
    | some e => exact Success.map_eq_ok_iff.mpr ⟨e, Enum.reads_toJson e, rfl⟩
  rw [TypeRef.ofJson, hlow, hfront, hback, hhigh, reads_ofString?, reads_ofString?]
  rfl

theorem Param.reads_toJson : Reads Param.ofJson Param.toJson := by
  intro p
  have htype : p.toJson.get "type" = p.type.toJson := rfl
  have hname : p.toJson.get "name" = .string p.name := rfl
  rw [Param.ofJson, htype, hname, TypeRef.reads_toJson]
  rfl

theorem Conversion.reads_toJson : Reads Conversion.ofJson Conversion.toJson := by
  intro c
  cases c with
  | cast param target =>
      have htarget : (Conversion.cast param target).toJson.get "to" = target.toJson := rfl
      rw [Conversion.ofJson, htarget, TypeRef.reads_toJson]
      rfl
  | methodCall param method args =>
      have hargs : (Conversion.methodCall param method args).toJson.get "args" = .ofStrings args := rfl
      rw [Conversion.ofJson, hargs, Json.ofStrings, reads_text.list]
      rfl

theorem Implementation.reads_toJson : Reads Implementation.ofJson Implementation.toJson := by
  intro i
  have hreturnType : i.toJson.get "return_type" = i.returnType.toJson := rfl
  have hparams : i.toJson.get "params" = .array (i.params.map Param.toJson) := rfl
  have hreturn : i.toJson.get "retval_conversion" = i.returnConversion.toJson := rfl
  have hconversions : i.toJson.get "param_conversions" =
    .array (i.paramConversions.map Conversion.toJson) := rfl
  rw [Implementation.ofJson, hreturnType, hparams, hreturn, hconversions, TypeRef.reads_toJson,
    Param.reads_toJson.list, Conversion.reads_toJson, Conversion.reads_toJson.list]
  rfl

theorem CommandKind.reads_name : Reads Json.readName fun k => .string (CommandKind.name k) := by
  intro k
  cases k <;> rfl

theorem Command.reads_toJson : Reads Command.ofJson Command.toJson := by
  intro c
  have hkind : c.toJson.get "command_type" = .string c.kind.name := rfl
  have himplementation : c.toJson.get "implementation" = c.implementation.toJson := rfl
  rw [Command.ofJson, hkind, himplementation, CommandKind.reads_name, Implementation.reads_toJson]
  rfl

theorem Level.ofJson_of_hasFields {l : Level} {j : Json} (h : j.HasFields l.fields) :
    Level.ofJson j = .ok l := by
  simp only [HasFields, Level.fields, List.forall_mem_cons] at h
  obtain ⟨hapi, hversion, hcommands, _⟩ := h
  rw [Level.ofJson, hapi, hversion, hcommands, Api.reads_name, reads_version,
    Command.reads_toJson.list]
  rfl

/-- The kind of a record has a key that none of its other fields has. -/
theorem Record.hasFields_toJson (r : Record) :
    r.toJson.HasFields (("kind", .string r.kind) :: r.fields) := by
  apply hasFields_object
  cases r with
  | type s => simp [Record.fields, statementFields]
  | enum e => simp [Record.fields, Enum.fields]
  | level l => simp [Record.fields, Level.fields]

theorem Record.reads_toJson : Reads Record.ofJson Record.toJson := by
  intro r
  have hkind := r.hasFields_toJson _ List.mem_cons_self
  have hfields : r.toJson.HasFields r.fields := fun f hf =>
    r.hasFields_toJson f (List.mem_cons_of_mem _ hf)
  rw [Record.ofJson, hkind]
  refine Success.bind_eq_ok_iff.mpr ⟨r.kind, rfl, ?_⟩
  cases r with
  | type s => rfl
  | enum e => exact Success.bind_eq_ok_iff.mpr ⟨e, Enum.ofJson_of_hasFields hfields, rfl⟩
  | level l => exact Success.bind_eq_ok_iff.mpr ⟨l, Level.ofJson_of_hasFields hfields, rfl⟩

end Binding

end GLBindings
