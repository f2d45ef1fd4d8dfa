import GLBindings.Proofs.Output.Lines

namespace GLBindings

namespace Sink

variable {s s' : Sink}

def HasRoom (s : Sink) (n : Nat) : Prop := ∀ k ∈ s.room, n ≤ k

/-- The bytes fit, and the flush behind them works. -/
def Takes (s : Sink) (bytes : List UInt8) : Prop := s.HasRoom bytes.length ∧ s.flushFault = none

def holding (s : Sink) (bytes : List UInt8) : Sink :=
  { s with room := s.room.map (· - bytes.length), taken := s.taken ++ bytes }

theorem hasRoom_append_iff {bs cs : List UInt8} :
    s.HasRoom (bs ++ cs).length ↔ s.HasRoom bs.length ∧ (s.holding bs).HasRoom cs.length := by
  unfold HasRoom holding
  cases s.room with
  | none => simp
  | some k =>
      simp only [Option.mem_some_iff, Option.map_some, forall_eq', List.length_append]
      omega

theorem takes_append_iff {bs cs : List UInt8} :
    s.Takes (bs ++ cs) ↔ s.HasRoom bs.length ∧ (s.holding bs).Takes cs := by
  rw [Takes]
  rw [hasRoom_append_iff, and_assoc]
  rfl

theorem holding_append (bs cs : List UInt8) : s.holding (bs ++ cs) = (s.holding bs).holding cs := by
  unfold holding
  cases s.room with
  | none => simp
  | some k => simp [Nat.sub_sub]

theorem takes_of_endless (hroom : s.room = none) (hflush : s.flushFault = none)
    (bytes : List UInt8) : s.Takes bytes := by
  refine ⟨?_, hflush⟩
  rw [HasRoom, hroom]
  simp

theorem put_eq_ok_iff {bytes : List UInt8} :
    s.put bytes = (.ok (), s') ↔ s.HasRoom bytes.length ∧ s' = s.holding bytes := by
  have hfits : s.fits bytes.length = bytes.length ↔ s.HasRoom bytes.length := by
    unfold fits HasRoom
    cases s.room <;> simp
  by_cases h : s.HasRoom bytes.length
  · have hput : s.put bytes = (.ok (), s.holding bytes) := by
      simp [put, holding, hfits.mpr h]
    rw [hput]
    simp [h, eq_comm]
  · have hput : (s.put bytes).1 = .error s.full := if_neg (mt hfits.mp h)
    refine iff_of_false (fun hok => ?_) (fun hok => h hok.1)
    rw [hok] at hput
    cases hput

def filled (s : Sink) (bytes : List UInt8) : Sink :=
  { s with room := some 0, taken := s.taken ++ bytes.take (s.room.getD 0) }

theorem exists_room_of_not_hasRoom {n : Nat} (h : ¬ s.HasRoom n) : ∃ k, s.room = some k ∧ k < n := by
  unfold HasRoom at h
  push Not at h
  exact h

theorem put_of_hasRoom {bytes : List UInt8} (h : s.HasRoom bytes.length) :
    s.put bytes = (.ok (), s.holding bytes) := put_eq_ok_iff.mpr ⟨h, rfl⟩

theorem put_of_not_hasRoom {bytes : List UInt8} (h : ¬ s.HasRoom bytes.length) :
    s.put bytes = (.error s.full, s.filled bytes) := by
  obtain ⟨k, hroom, hk⟩ := exists_room_of_not_hasRoom h
  have hfits : s.fits bytes.length = k := by
    rw [fits, hroom]
    exact Nat.min_eq_left hk.le
  simp [put, hfits, filled, hroom, hk.ne]

theorem filled_append {bs : List UInt8} (h : ¬ s.HasRoom bs.length) (cs : List UInt8) :
    s.filled (bs ++ cs) = s.filled bs := by
  obtain ⟨k, hroom, hk⟩ := exists_room_of_not_hasRoom h
  rw [filled, filled, hroom, Option.getD_some, List.take_append_of_le_length hk.le]

theorem filled_holding {bs cs : List UInt8} (h : s.HasRoom bs.length)
    (h' : ¬ (s.holding bs).HasRoom cs.length) : (s.holding bs).filled cs = s.filled (bs ++ cs) := by
  obtain ⟨k, hroom, _⟩ := exists_room_of_not_hasRoom (mt hasRoom_append_iff.mp fun hr => h' hr.2)
  have hk : bs.length ≤ k := h k hroom
  simp [filled, holding, hroom, List.take_append, List.take_of_length_le hk]

theorem put_append (s : Sink) (bs cs : List UInt8) :
    s.put (bs ++ cs) = match s.put bs with
      | (.ok (), s) => s.put cs
      | failed => failed := by
  by_cases h : s.HasRoom bs.length
  · rw [put_of_hasRoom h]
    show _ = (s.holding bs).put cs
    by_cases h' : (s.holding bs).HasRoom cs.length
    · rw [put_of_hasRoom h', put_of_hasRoom (hasRoom_append_iff.mpr ⟨h, h'⟩), holding_append]
    · rw [put_of_not_hasRoom h', filled_holding h h',
        put_of_not_hasRoom fun hall => h' (hasRoom_append_iff.mp hall).2]
      rfl
  · rw [put_of_not_hasRoom h, put_of_not_hasRoom fun hall => h (hasRoom_append_iff.mp hall).1,
      filled_append h]

theorem writeLine_eq (s : Sink) (j : Json) :
    s.writeLine j = ((s.put (lineBytes [j])).1.mapError .io, (s.put (lineBytes [j])).2) := by
  have hline : s.putLine j.compact = s.put (lineBytes [j]) := by
    rw [lineBytes_singleton, toUTF8_append, put_append]
    rfl
  rw [writeLine, hline]

theorem flushed_eq_ok_iff : s.flushed = (.ok (), s') ↔ s.flushFault = none ∧ s' = s := by
  unfold flushed flush
  cases s.flushFault <;> simp [Except.mapError, eq_comm]

theorem writeLine_eq_ok_iff {j : Json} :
    s.writeLine j = (.ok (), s') ↔
      s.HasRoom (lineBytes [j]).length ∧ s' = s.holding (lineBytes [j]) := by
  rw [← put_eq_ok_iff, writeLine_eq, Prod.ext_iff, Prod.ext_iff]
  exact and_congr_left fun _ => Success.mapError_eq_ok_iff

theorem writeLines_eq_ok_iff {l : List Json} :
    s.writeLines l = (.ok (), s') ↔ s.Takes (lineBytes l) ∧ s' = s.holding (lineBytes l) := by
  induction l generalizing s with
  | nil =>
      rw [writeLines, flushed_eq_ok_iff]
      simp [Takes, HasRoom, holding]
  | cons j l ih =>
      rw [lineBytes_cons j l, takes_append_iff, holding_append, and_assoc, ← ih, writeLines]
      split
      next t ht =>
        obtain ⟨hroom, rfl⟩ := writeLine_eq_ok_iff.mp ht
        exact (and_iff_right hroom).symm
      next failed hfailed =>
        refine iff_of_false (hfailed s') ?_
        rintro ⟨hroom, -⟩
        exact hfailed _ (writeLine_eq_ok_iff.mpr ⟨hroom, rfl⟩)

theorem writeDocument_eq_ok_iff {j : Json} :
    s.writeDocument j = (.ok (), s') ↔
      s.Takes (j.pretty ++ "\n").toUTF8.toList ∧ s' = s.holding (j.pretty ++ "\n").toUTF8.toList := by
  rw [toUTF8_append j.pretty "\n", takes_append_iff, holding_append]
  unfold writeDocument putText
  split
  next e t ht =>
    refine iff_of_false (fun hok => by cases hok) ?_
    rintro ⟨⟨hroom, -⟩, -⟩
    cases ht.symm.trans (put_eq_ok_iff.mpr ⟨hroom, rfl⟩)
  next t ht =>
    obtain ⟨hroom, rfl⟩ := put_eq_ok_iff.mp ht
    split
    next e t ht =>
      refine iff_of_false (fun hok => by cases hok) ?_
      rintro ⟨⟨-, hend⟩, -⟩
      cases ht.symm.trans (put_eq_ok_iff.mpr ⟨hend.1, rfl⟩)
    next t ht =>
      obtain ⟨hend, rfl⟩ := put_eq_ok_iff.mp ht
      rw [flushed_eq_ok_iff]
      simp only [Takes, hroom, hend, true_and]
      rfl

end Sink

namespace Binding

variable {s s' : Sink} {b : Binding}

def text (b : Binding) : Format → String
  | .json => b.toJson.pretty ++ "\n"
  | .ndjson => joinLines (Record.lines b.records)

def bytes (b : Binding) (f : Format) : List UInt8 := (b.text f).toUTF8.toList

theorem bytes_ndjson (b : Binding) :
    b.bytes .ndjson = Sink.lineBytes (b.records.map Record.toJson) := by
  rw [bytes, text, Record.lines, Sink.lineBytes, List.map_map]
  rfl

theorem writeBinding_eq_ok_iff {f : Format} :
    s.writeBinding b f = (.ok (), s') ↔ s.Takes (b.bytes f) ∧ s' = s.holding (b.bytes f) := by
  cases f with
  | json => exact Sink.writeDocument_eq_ok_iff
  | ndjson => rw [Sink.writeBinding, Sink.writeLines_eq_ok_iff, bytes_ndjson]

end Binding

end GLBindings
