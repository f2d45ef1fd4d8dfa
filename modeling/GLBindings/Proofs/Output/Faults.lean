import GLBindings.Proofs.Output.Limits

namespace GLBindings

namespace Sink

variable {s : Sink} {text : String} {e : OutputFault}

/-- What the sink reports of bytes that it does not take: that they do not fit, or else that it
cannot be flushed behind them. -/
inductive Reports (s : Sink) (bytes : List UInt8) : String → Prop
  | full (hfull : ¬ s.HasRoom bytes.length) : Reports s bytes s.full
  | unflushed {text : String} (hroom : s.HasRoom bytes.length)
      (hflush : s.flushFault = some text) : Reports s bytes text

section Reports

variable {bs : List UInt8}

theorem reports_iff_of_hasRoom (h : s.HasRoom bs.length) :
    s.Reports bs text ↔ s.flushFault = some text := by
  constructor
  · intro hreports
    cases hreports with
    | full hfull => exact absurd h hfull
    | unflushed _ hflush => exact hflush
  · exact .unflushed h

theorem reports_iff_of_not_hasRoom (h : ¬ s.HasRoom bs.length) :
    s.Reports bs text ↔ text = s.full := by
  constructor
  · intro hreports
    cases hreports with
    | full => rfl
    | unflushed hroom => exact absurd hroom h
  · rintro rfl
    exact .full h

theorem reports_append_iff_of_hasRoom (h : s.HasRoom bs.length) (cs : List UInt8) :
    s.Reports (bs ++ cs) text ↔ (s.holding bs).Reports cs text := by
  by_cases hcs : (s.holding bs).HasRoom cs.length
  · rw [reports_iff_of_hasRoom hcs, reports_iff_of_hasRoom (hasRoom_append_iff.mpr ⟨h, hcs⟩)]
    rfl
  · rw [reports_iff_of_not_hasRoom hcs,
      reports_iff_of_not_hasRoom fun hall => hcs (hasRoom_append_iff.mp hall).2]
    rfl

theorem reports_append_iff_of_not_hasRoom (h : ¬ s.HasRoom bs.length) (cs : List UInt8) :
    s.Reports (bs ++ cs) text ↔ text = s.full :=
  reports_iff_of_not_hasRoom fun hall => h (hasRoom_append_iff.mp hall).1

end Reports

theorem fst_flushed_eq_error_iff :
    s.flushed.1 = .error e ↔ ∃ text, s.flushFault = some text ∧ e = .io text := by
  unfold flushed flush
  cases s.flushFault <;> simp [Except.mapError, eq_comm]

theorem fst_writeLines_eq_error_iff {l : List Json} :
    (s.writeLines l).1 = .error e ↔ ∃ text, s.Reports (lineBytes l) text ∧ e = .io text := by
  induction l generalizing s with
  | nil =>
      have hroom : s.HasRoom (lineBytes []).length := by simp [HasRoom]
      simp only [writeLines, fst_flushed_eq_error_iff, reports_iff_of_hasRoom hroom]
  | cons j l ih =>
      rw [writeLines, writeLine_eq, lineBytes_cons j l]
      by_cases h : s.HasRoom (lineBytes [j]).length
      · simp only [put_of_hasRoom h, reports_append_iff_of_hasRoom h]
        exact ih
      · simp only [put_of_not_hasRoom h, reports_append_iff_of_not_hasRoom h, exists_eq_left,
          Except.mapError, Except.error.injEq, eq_comm]

/-- Within the document the fault is another one than at its end. -/
theorem fst_writeDocument_eq_error_iff {j : Json} :
    (s.writeDocument j).1 = .error e ↔ ∃ text, s.Reports (j.pretty ++ "\n").toUTF8.toList text ∧
      (s.HasRoom j.pretty.toUTF8.toList.length ∧ e = .io text ∨
        ¬ s.HasRoom j.pretty.toUTF8.toList.length ∧ e = .json text) := by
  rw [toUTF8_append, writeDocument, putText]
  by_cases h : s.HasRoom j.pretty.toUTF8.toList.length
  · simp only [put_of_hasRoom h, reports_append_iff_of_hasRoom h, h, true_and, not_true, false_and,
      or_false, putText]
    by_cases hend : (s.holding j.pretty.toUTF8.toList).HasRoom "\n".toUTF8.toList.length
    · simp only [put_of_hasRoom hend, reports_iff_of_hasRoom hend]
      exact fst_flushed_eq_error_iff
    · simp only [put_of_not_hasRoom hend, reports_iff_of_not_hasRoom hend, exists_eq_left,
        Except.error.injEq, eq_comm]
  · simp only [put_of_not_hasRoom h, reports_append_iff_of_not_hasRoom h, exists_eq_left, h, false_and,
      not_false_eq_true, true_and, false_or, Except.error.injEq, eq_comm]

end Sink

namespace Binding

/-- The sink fails in the middle of a document, before its last line end. -/
def BreaksWithin (b : Binding) (s : Sink) (f : Format) : Prop :=
  f = .json ∧ ¬ s.HasRoom b.toJson.pretty.utf8ByteSize

/-- Writing fails just if the sink reports something, and with the text that it reports; the fault
is one of the output unless the sink fails within a document. -/
theorem writeBinding_reports (s : Sink) (b : Binding) (f : Format) (e : OutputFault) :
    (s.writeBinding b f).1 = .error e ↔ ∃ text, s.Reports (b.bytes f) text ∧
      (¬ b.BreaksWithin s f ∧ e = .io text ∨ b.BreaksWithin s f ∧ e = .json text) := by
  cases f with
  | json =>
      rw [Sink.writeBinding, Sink.fst_writeDocument_eq_error_iff, Sink.length_toUTF8]
      simp only [BreaksWithin, true_and, not_not]
      rfl
  | ndjson =>
      rw [Sink.writeBinding, Sink.fst_writeLines_eq_error_iff, bytes_ndjson]
      simp [BreaksWithin]

def closedPipe : Sink where
  room := some 0
  full := "pipe closed"

def blank : Binding where
  feature := ⟨.gl, ⟨1, 0⟩⟩
  requirements := ∅
  types := []
  enums := ∅
  levels := []

/-- A closed pipe is no fault of the document, but it is shown as one. -/
theorem writeBinding_not_io :
    ¬ ∀ (s : Sink) (b : Binding) (f : Format) (e : OutputFault), (s.writeBinding b f).1 = .error e →
      ∃ text, s.Reports (b.bytes f) text ∧ e = .io text := by
  intro h
  have hfull : ¬ closedPipe.HasRoom blank.toJson.pretty.toUTF8.toList.length := by
    rw [Sink.hasRoom_iff_of_room rfl, Sink.length_toUTF8]
    decide +kernel
  have hfault : (closedPipe.writeBinding blank .json).1 = .error (.json "pipe closed") := by
    rw [Sink.writeBinding, Sink.writeDocument, Sink.putText, Sink.put_of_not_hasRoom hfull]
    rfl
  obtain ⟨text, _, htext⟩ := h closedPipe blank .json _ hfault
  cases htext

end Binding

end GLBindings
