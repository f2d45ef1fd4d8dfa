import GLBindings.Proofs.Output.Sinks

namespace GLBindings

def Json.lineSize (j : Json) : Nat := j.compact.utf8ByteSize + 1

def Json.linesSize : List Json → Nat
  | [] => 0
  | j :: l => j.lineSize + linesSize l

namespace Sink

theorem length_toUTF8 (text : String) : text.toUTF8.toList.length = text.utf8ByteSize := by
  rw [toList_eq_data]
  rfl

theorem length_lineBytes (l : List Json) : (lineBytes l).length = Json.linesSize l := by
  induction l with
  | nil =>
      rw [lineBytes_nil]
      rfl
  | cons j l ih =>
      rw [lineBytes_cons, lineBytes_singleton, List.length_append, length_toUTF8,
        String.utf8ByteSize_append, ih]
      rfl

theorem lineBytes_singleton_ne_nil (j : Json) : lineBytes [j] ≠ [] := by
  intro h
  have hlength := length_lineBytes [j]
  rw [h] at hlength
  simp [Json.linesSize, Json.lineSize] at hlength

section Put

variable {s : Sink}

theorem hasRoom_iff_of_room {n limit : Nat} (h : s.room = some limit) : s.HasRoom n ↔ n ≤ limit := by
  simp [HasRoom, h]

theorem put_nil (s : Sink) : s.put [] = (.ok (), s) := by
  obtain ⟨room, full, flushFault, taken⟩ := s
  cases room <;> simp [put, fits]

theorem not_hasRoom_filled {bs cs : List UInt8} (hcs : cs ≠ []) :
    ¬ (s.filled bs).HasRoom cs.length := by
  rw [hasRoom_iff_of_room rfl, Nat.le_zero]
  exact mt List.eq_nil_of_length_eq_zero hcs

/-- A second write finds room just if both would, had they been one; if it is not empty. -/
theorem hasRoom_put_iff {bs cs : List UInt8} (hcs : cs ≠ []) :
    (s.put bs).2.HasRoom cs.length ↔ s.HasRoom (bs ++ cs).length := by
  rw [hasRoom_append_iff]
  by_cases h : s.HasRoom bs.length
  · rw [put_of_hasRoom h]
    exact (and_iff_right h).symm
  · rw [put_of_not_hasRoom h]
    exact iff_of_false (not_hasRoom_filled hcs) fun hall => h hall.1

theorem snd_put_filled (bs cs : List UInt8) : ((s.filled bs).put cs).2 = s.filled bs := by
  simp [put, fits, filled]

theorem snd_put_put (bs cs : List UInt8) : ((s.put bs).2.put cs).2 = (s.put (bs ++ cs)).2 := by
  rw [put_append]
  by_cases h : s.HasRoom bs.length
  · rw [put_of_hasRoom h]
  · rw [put_of_not_hasRoom h]
    exact snd_put_filled bs cs

theorem snd_put_append_of_not_hasRoom {bs : List UInt8} (h : ¬ s.HasRoom bs.length)
    (cs : List UInt8) : (s.put (bs ++ cs)).2 = (s.put bs).2 := by
  rw [put_append, put_of_not_hasRoom h]

end Put

section Lines

variable {s : Sink}

theorem fst_writeLine_of_hasRoom {j : Json} (h : s.HasRoom (lineBytes [j]).length) :
    (s.writeLine j).1 = .ok () := by
  rw [writeLine_eq, put_of_hasRoom h]
  rfl

theorem fst_writeLine_of_not_hasRoom {j : Json} (h : ¬ s.HasRoom (lineBytes [j]).length) :
    (s.writeLine j).1 = .error (.io s.full) := by
  rw [writeLine_eq, put_of_not_hasRoom h]
  rfl

/-- Failures on the way change nothing for the sink: it takes what a single write would leave. -/
theorem snd_writeEach (s : Sink) (l : List Json) : (s.writeEach l).2 = (s.put (lineBytes l)).2 := by
  induction l generalizing s with
  | nil => rw [writeEach, lineBytes_nil, put_nil]
  | cons j l ih =>
      calc (s.writeEach (j :: l)).2 = ((s.writeLine j).2.writeEach l).2 := rfl
        _ = ((s.put (lineBytes [j])).2.put (lineBytes l)).2 := by rw [ih, writeLine_eq]
        _ = (s.put (lineBytes (j :: l))).2 := by
          rw [snd_put_put, ← lineBytes_cons j l]

theorem length_writeEach (s : Sink) (l : List Json) : (s.writeEach l).1.length = l.length := by
  induction l generalizing s with
  | nil => rfl
  | cons j l ih => exact congrArg (· + 1) (ih _)

theorem getElem?_writeEach (s : Sink) (l : List Json) (i : Nat) :
    (s.writeEach l).1[i]? = l[i]?.map fun j => ((s.writeEach (l.take i)).2.writeLine j).1 := by
  induction l generalizing s i with
  | nil => rfl
  | cons j l ih =>
      cases i with
      | zero => rfl
      | succ i => exact ih _ i

theorem lineBytes_take_succ {l : List Json} {i : Nat} (h : i < l.length) :
    lineBytes (l.take (i + 1)) = lineBytes (l.take i) ++ lineBytes [l[i]] := by
  rw [← lineBytes_append, List.take_append_getElem h]

theorem getElem?_writeEach_of_hasRoom {l : List Json} {i : Nat} (hi : i < l.length)
    (h : s.HasRoom (lineBytes (l.take (i + 1))).length) :
    (s.writeEach l).1[i]? = some (.ok ()) := by
  rw [lineBytes_take_succ hi, ← hasRoom_put_iff (lineBytes_singleton_ne_nil _), ← snd_writeEach] at h
  rw [getElem?_writeEach, List.getElem?_eq_getElem hi, Option.map_some, fst_writeLine_of_hasRoom h]

theorem getElem?_writeEach_of_not_hasRoom {l : List Json} {i : Nat} (hi : i < l.length)
    (h : ¬ s.HasRoom (lineBytes (l.take (i + 1))).length) :
    (s.writeEach l).1[i]? = some (.error (.io s.full)) := by
  rw [lineBytes_take_succ hi, ← hasRoom_put_iff (lineBytes_singleton_ne_nil _), ← snd_writeEach] at h
  rw [getElem?_writeEach, List.getElem?_eq_getElem hi, Option.map_some,
    fst_writeLine_of_not_hasRoom h, snd_writeEach]
  rfl

theorem getElem?_writeEach_eq_ok_iff {l : List Json} {i : Nat} (hi : i < l.length) :
    (s.writeEach l).1[i]? = some (.ok ()) ↔ s.HasRoom (lineBytes (l.take (i + 1))).length := by
  by_cases h : s.HasRoom (lineBytes (l.take (i + 1))).length
  · exact iff_of_true (getElem?_writeEach_of_hasRoom hi h) h
  · rw [getElem?_writeEach_of_not_hasRoom hi h]
    simpa using h

/-- To stop at the first failure leaves the sink as it is when the writing goes on. -/
theorem snd_writeLines (s : Sink) (l : List Json) : (s.writeLines l).2 = (s.writeEach l).2 := by
  rw [snd_writeEach]
  induction l generalizing s with
  | nil =>
      rw [writeLines, flushed, lineBytes_nil, put_nil]
  | cons j l ih =>
      rw [writeLines, writeLine_eq, lineBytes_cons j l]
      by_cases h : s.HasRoom (lineBytes [j]).length
      · rw [put_append, put_of_hasRoom h]
        exact ih _
      · rw [snd_put_append_of_not_hasRoom h, put_of_not_hasRoom h]
        rfl

end Lines

/-- What becomes of lines that are written one after the other, whatever becomes of them, to a sink
that takes a number of bytes. -/
structure CutOff (s : Sink) (limit : Nat) (l : List Json) : Prop where
  taken : ∃ out, ({ s with room := none }.writeEach l).2.taken = s.taken ++ out ∧
    out.length = Json.linesSize l ∧
    ({ s with room := some limit }.writeEach l).2.taken = s.taken ++ out.take (min limit out.length)
  length_results : ({ s with room := some limit }.writeEach l).1.length = l.length
  ok_iff : ∀ i < l.length, ({ s with room := some limit }.writeEach l).1[i]? = some (.ok ()) ↔
    Json.linesSize (l.take (i + 1)) ≤ limit
  fails_on : ∀ i, ∀ j < l.length, i ≤ j →
    ({ s with room := some limit }.writeEach l).1[i]? ≠ some (.ok ()) →
      ({ s with room := some limit }.writeEach l).1[j]? = some (.error (.io s.full))
  taken_of_failed : ∀ i < l.length,
    ({ s with room := some limit }.writeEach l).1[i]? ≠ some (.ok ()) →
      ({ s with room := some limit }.writeEach l).2 =
        ({ s with room := some limit }.writeEach (l.take (i + 1))).2

theorem cutOff_writeEach (s : Sink) (limit : Nat) (l : List Json) : CutOff s limit l := by
  constructor
  case taken =>
    refine ⟨lineBytes l, ?_, length_lineBytes l, ?_⟩
    · rw [snd_writeEach]
      simp [put, fits]
    · rw [snd_writeEach]
      rfl
  case length_results => exact length_writeEach _ l
  case ok_iff =>
    intro i hi
    rw [getElem?_writeEach_eq_ok_iff hi, hasRoom_iff_of_room rfl, length_lineBytes]
  case fails_on =>
    intro i j hj hij hi
    rw [Ne, getElem?_writeEach_eq_ok_iff (hij.trans_lt hj)] at hi
    refine getElem?_writeEach_of_not_hasRoom hj fun hall => hi ?_
    obtain ⟨between, hbetween⟩ := List.take_prefix_take_left (l := l) (Nat.add_le_add_right hij 1)
    rw [← hbetween, lineBytes_append] at hall
    exact (hasRoom_append_iff.mp hall).1
  case taken_of_failed =>
    intro i hi hfailed
    rw [Ne, getElem?_writeEach_eq_ok_iff hi] at hfailed
    rw [snd_writeEach, snd_writeEach, ← snd_put_append_of_not_hasRoom hfailed, ← lineBytes_append,
      List.take_append_drop]

end Sink

namespace Binding

theorem fst_writeBinding_eq_ok_iff {s : Sink} {b : Binding} {f : Format} :
    (s.writeBinding b f).1 = .ok () ↔ s.Takes (b.bytes f) := by
  constructor
  · intro h
    exact (writeBinding_eq_ok_iff.mp (Prod.ext h rfl)).1
  · intro h
    rw [writeBinding_eq_ok_iff.mpr ⟨h, rfl⟩]

end Binding

/-- Whatever the limit, lines are taken up to it; records of a binding, which are written up to the
first failure, leave the same bytes, and are written without a failure if all of them fit and the
sink can be flushed. -/
theorem Sink.writeEach_limited (s : Sink) (limit : Nat) :
    (∀ l : List Json, CutOff s limit l) ∧ ∀ b : Binding,
      ({ s with room := some limit }.writeBinding b .ndjson).2.taken =
        ({ s with room := some limit }.writeEach (b.records.map Binding.Record.toJson)).2.taken ∧
      (({ s with room := some limit }.writeBinding b .ndjson).1 = .ok () ↔
        Json.linesSize (b.records.map Binding.Record.toJson) ≤ limit ∧ s.flush = .ok ()) := by
  refine ⟨cutOff_writeEach s limit, fun b => ⟨?_, ?_⟩⟩
  · rw [writeBinding, snd_writeLines]
  · have hflush : s.flushFault = none ↔ s.flush = .ok () := by
      unfold flush
      cases s.flushFault <;> simp
    rw [Binding.fst_writeBinding_eq_ok_iff, Takes, hasRoom_iff_of_room rfl, Binding.bytes_ndjson,
      length_lineBytes, ← hflush]

end GLBindings
