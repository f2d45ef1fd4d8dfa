import GLBindings.Output
import GLBindings.Proofs.Json.Compact
import GLBindings.Proofs.Output.Decoding
import GLBindings.Proofs.Text

namespace GLBindings

section Bytes

theorem toList_loop (b : ByteArray) (i : Nat) (r : List UInt8) :
    ByteArray.toList.loop b i r = r.reverse ++ b.data.toList.drop i := by
  fun_induction ByteArray.toList.loop b i r with
  | case1 i r h ih =>
      have hdrop : b.data.toList.drop i = b.get! i :: b.data.toList.drop (i + 1) := by
        rw [List.drop_eq_getElem_cons (by simpa using h)]
        simp [ByteArray.get!, h]
      rw [ih, hdrop, List.reverse_cons, List.append_assoc, List.singleton_append]
  | case2 i r h =>
      rw [List.drop_of_length_le (by simpa using h), List.append_nil]

theorem toList_eq_data (b : ByteArray) : b.toList = b.data.toList := toList_loop b 0 []

theorem toUTF8_append (s t : String) :
    (s ++ t).toUTF8.toList = s.toUTF8.toList ++ t.toUTF8.toList := by
  simp [toList_eq_data, ByteArray.data_append]

theorem toUTF8_injective : Function.Injective fun s : String => s.toUTF8.toList := by
  intro s t h
  simp only [toList_eq_data] at h
  exact String.toByteArray_inj.mp (ByteArray.ext (Array.toList_inj.mp h))

end Bytes

def joinLines (lines : List String) : String := String.join (lines.map (· ++ "\n"))

theorem joinLines_cons (l : String) (lines : List String) :
    joinLines (l :: lines) = l ++ "\n" ++ joinLines lines := by
  rw [joinLines, List.map_cons, String.join_cons]
  rfl

theorem splitText_joinLines {lines : List String} (h : ∀ l ∈ lines, '\n' ∉ l.toList) :
    Text.splitText '\n' (joinLines lines) = lines ++ [""] := by
  have htext : (joinLines lines).toList = (lines.map String.toList).flatMap (· ++ ['\n']) := by
    simp [joinLines, String.toList_join, List.flatMap_map]
  rw [Text.splitText, htext, Text.pieces_lines (by simpa using h)]
  simp [Function.comp_def]

namespace Sink

def lineBytes (l : List Json) : List UInt8 := (joinLines (l.map Json.compact)).toUTF8.toList

@[simp] theorem lineBytes_nil : lineBytes [] = [] := by
  simp [lineBytes, joinLines, toList_eq_data]

theorem lineBytes_singleton (j : Json) : lineBytes [j] = (j.compact ++ "\n").toUTF8.toList := by
  simp [lineBytes, joinLines]

theorem lineBytes_cons (j : Json) (l : List Json) :
    lineBytes (j :: l) = lineBytes [j] ++ lineBytes l := by
  rw [lineBytes_singleton, lineBytes, List.map_cons, joinLines_cons, toUTF8_append (j.compact ++ "\n")]
  rfl

theorem lineBytes_append (l m : List Json) : lineBytes (l ++ m) = lineBytes l ++ lineBytes m := by
  induction l with
  | nil => simp
  | cons j l ih => rw [List.cons_append, lineBytes_cons, ih, lineBytes_cons j l, List.append_assoc]

variable {s : Sink}

theorem writeLine_of_endless (hs : s.room = none) (j : Json) :
    s.writeLine j = (.ok (), { s with taken := s.taken ++ lineBytes [j] }) := by
  rw [lineBytes_singleton, toUTF8_append]
  simp [writeLine, putLine, putText, put, fits, hs, Except.mapError]

theorem writeEach_of_endless (hs : s.room = none) (l : List Json) :
    s.writeEach l = (l.map fun _ => .ok (), { s with taken := s.taken ++ lineBytes l }) := by
  induction l generalizing s with
  | nil => simp [writeEach]
  | cons j l ih =>
      have hrest : { s with taken := s.taken ++ lineBytes [j] }.room = none := hs
      rw [writeEach, writeLine_of_endless hs]
      simp only [ih hrest]
      rw [List.map_cons, lineBytes_cons j l, List.append_assoc]

end Sink

open Json (Sound)

@[simp] theorem Version.sound_toJson (v : Version) : Sound v.toJson := .string _

@[simp] theorem EnumValue.sound_toJson (v : EnumValue) : Sound v.toJson := by
  simp [toJson]

namespace Binding

theorem Enum.sound_fields (e : Enum) : ∀ f ∈ e.fields, Sound f.2 := by
  simp [fields]

@[simp] theorem Enum.sound_toJson (e : Enum) : Sound e.toJson := .object e.sound_fields

@[simp] theorem TypeRef.sound_toJson (t : TypeRef) : Sound t.toJson := by
  cases h : t.highLevel <;> simp [toJson, h]

@[simp] theorem Param.sound_toJson (p : Param) : Sound p.toJson := by
  simp [toJson]

@[simp] theorem Conversion.sound_toJson (c : Conversion) : Sound c.toJson := by
  cases c <;> simp [toJson, Json.ofStrings]

@[simp] theorem Implementation.sound_toJson (i : Implementation) : Sound i.toJson := by
  simp [toJson]

@[simp] theorem Command.sound_toJson (c : Command) : Sound c.toJson := by
  simp [toJson]

theorem Level.sound_fields (l : Level) : ∀ f ∈ l.fields, Sound f.2 := by
  simp [fields]

namespace Record

theorem sound_toJson (r : Record) : Sound r.toJson := by
  refine .object (List.forall_mem_cons.mpr ⟨.string r.kind, ?_⟩)
  cases r with
  | type s => simp [fields, statementFields]
  | enum e => exact e.sound_fields
  | level l => exact l.sound_fields

/-- The text has no line end, and it is read as the record: the kind first, then all fields. -/
structure IsLine (line : String) (r : Record) : Prop where
  whole : '\n' ∉ line.toList
  value : Json.read? line = some (.object (("kind", .string r.kind) :: r.fields))
  record : (Json.read? line).map ofJson = some (.ok r)

theorem isLine_compact (r : Record) : IsLine r.toJson.compact r := by
  have hread := r.sound_toJson.read?_compact
  refine ⟨?_, hread, ?_⟩
  · rw [Json.compact, String.toList_ofList]
    exact r.sound_toJson.newline_not_mem
  · rw [hread, Option.map_some, reads_toJson]

theorem rightUnique_isLine : Relator.RightUnique IsLine := by
  intro line r r' h h'
  have hok : (.ok r : Except Unreadable Record) = .ok r' :=
    Option.some.inj (h.record.symm.trans h'.record)
  exact Except.ok.inj hok

def lines (records : List Record) : List String := records.map fun r => r.toJson.compact

theorem isLine_lines (records : List Record) : List.Forall₂ IsLine (lines records) records := by
  rw [lines, List.forall₂_map_left_iff, List.forall₂_same]
  exact fun r _ => isLine_compact r

theorem splitText_lines (records : List Record) :
    Text.splitText '\n' (joinLines (lines records)) = lines records ++ [""] := by
  apply splitText_joinLines
  intro l hl
  obtain ⟨r, _, rfl⟩ := List.mem_map.mp hl
  exact (isLine_compact r).whole

theorem joinLines_lines_injective {records records' : List Record}
    (h : joinLines (lines records) = joinLines (lines records')) : records = records' := by
  have hsplit := splitText_lines records'
  rw [← h, splitText_lines records] at hsplit
  have hlines := isLine_lines records'
  rw [← List.append_cancel_right hsplit] at hlines
  exact List.right_unique_forall₂' rightUnique_isLine (isLine_lines records) hlines

theorem writeEach_lines {s : Sink} (hs : s.room = none) (records : List Record) :
    s.writeEach (records.map toJson) = (records.map fun _ => .ok (),
      { s with taken := s.taken ++ (joinLines (lines records)).toUTF8.toList }) := by
  rw [Sink.writeEach_of_endless hs, Sink.lineBytes, List.map_map, List.map_map]
  rfl

/-- A sink without a bound takes records line by line, and each line is read as its record. -/
theorem writeEach_recovers (s : Sink) :
    (∀ records : List Record,
      { s with room := none }.writeEach (records.map toJson) = (records.map fun _ => .ok (),
        { s with room := none, taken := s.taken ++ (joinLines (lines records)).toUTF8.toList }) ∧
      Text.splitText '\n' (joinLines (lines records)) = lines records ++ [""] ∧
      List.Forall₂ IsLine (lines records) records) ∧
    Function.Injective fun records : List Record =>
      ({ s with room := none }.writeEach (records.map toJson)).2.taken := by
  have hwrite := writeEach_lines (s := { s with room := none }) rfl
  constructor
  · exact fun records => ⟨hwrite records, splitText_lines records, isLine_lines records⟩
  · intro records records' h
    simp only [hwrite] at h
    exact joinLines_lines_injective (toUTF8_injective (List.append_cancel_left h))

end Record

end Binding

end GLBindings
