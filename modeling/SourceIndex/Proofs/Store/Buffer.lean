import SourceIndex.Proofs.Store.Room

/-
The buffer of a store. What has been written is spread over the disk and the buffer, and a fault of
the disk is told of later, or when the store is finished.
-/

set_option autoImplicit false

namespace SourceIndex

namespace Stream

theorem flushFault_write (stream : Stream) (bytes : List UInt8) :
    (stream.write bytes).1.flushFault = stream.flushFault := by
  rw [write_eq]
  rfl

theorem closeFault_write (stream : Stream) (bytes : List UInt8) :
    (stream.write bytes).1.closeFault = stream.closeFault := by
  rw [write_eq]
  rfl

theorem received_write (stream : Stream) (bytes : List UInt8) :
    (stream.write bytes).1.received = stream.received ++ stream.fitting bytes := by
  rw [write_eq, received_taking]

/-- The stream takes the bytes, and may be flushed and closed. -/
structure Accepts (stream : Stream) (bytes : List UInt8) : Prop where
  room : stream.takes bytes = true
  flushes : stream.flushFault = none
  closes : stream.closeFault = none

theorem Accepts.of_length {stream : Stream} {first second : List UInt8}
    (accepts : stream.Accepts first) (same : first.length = second.length) :
    stream.Accepts second := by
  refine ⟨?_, accepts.flushes, accepts.closes⟩
  rw [takes, ← same]
  exact accepts.room

end Stream

namespace StoreFile

/-- The file has been given the bytes `sent` since its disk was `start`: the disk the first of them,
with a fault if it did not take them, and the buffer the others. -/
structure Carries (start : Stream) (sent : List UInt8) (file : StoreFile) : Prop where
  parts : ∃ spilled, sent = spilled ++ file.waiting ∧ start.write spilled = (file.disk, file.fault)
  bounded : file.waiting.length ≤ capacity

theorem carries_nil (disk : Stream) : Carries disk [] { disk } := by
  refine ⟨⟨[], rfl, ?_⟩, Nat.zero_le _⟩
  rw [disk.write_of_takes [] disk.takes_nil, Stream.taking_nil]

variable {start : Stream} {sent spilled : List UInt8} {file : StoreFile}

/-- The file hears of an earlier fault, or hands the bytes to the disk. -/
theorem hand_cases (state : start.write spilled = (file.disk, file.fault)) (bytes : List UInt8) :
    (start.takes spilled = true ∧ ∃ next, file.hand bytes = (next, none) ∧
      start.write (spilled ++ bytes) = (next.disk, next.fault) ∧ next.waiting = file.waiting) ∨
    (start.takes spilled = false ∧ ∃ next, file.hand bytes = (next, some start.refusal) ∧
      next.disk = file.disk) := by
  obtain ⟨disk, fault⟩ := Prod.mk.inj (start.write_eq spilled ▸ state)
  cases room : start.takes spilled with
  | true =>
      rw [room, if_pos rfl] at fault
      rw [Stream.fitting_of_takes room] at disk
      refine .inl ⟨rfl, ⟨(file.disk.write bytes).1, (file.disk.write bytes).2, file.waiting⟩,
        ?_, ?_, rfl⟩
      · simp only [hand, ← fault]
      · rw [start.write_append_of_takes spilled bytes room, disk]
  | false =>
      rw [room, if_neg Bool.false_ne_true] at fault
      refine .inr ⟨rfl, { file with fault := none }, ?_, rfl⟩
      simp only [hand, ← fault]

/-- Spilling brings all bytes to the disk, unless that has failed before. -/
theorem Carries.spill_cases (carries : Carries start sent file) :
    (∃ next, file.spill = (next, none) ∧ next.waiting = [] ∧
      start.write sent = (next.disk, next.fault)) ∨
    (start.takes sent = false ∧ ∃ next, file.spill = (next, some start.refusal) ∧
      next.received = start.received ++ start.fitting sent) := by
  obtain ⟨⟨spilled, rfl, state⟩, -⟩ := carries
  by_cases none : file.waiting = []
  · refine .inl ⟨file, ?_, none, ?_⟩
    · rw [spill, none, List.isEmpty_nil, if_pos rfl]
    · rwa [none, List.append_nil]
  · have some : ¬ file.waiting.isEmpty = true := fun empty => none (List.isEmpty_iff.mp empty)
    rcases hand_cases state file.waiting with
      ⟨-, next, handed, state', -⟩ | ⟨full, next, refused, disk⟩
    · refine .inl ⟨{ next with waiting := [] }, ?_, rfl, state'⟩
      simp only [spill, if_neg some, handed]
    · refine .inr ⟨?_, next, ?_, ?_⟩
      · rw [Stream.takes_append, full, Bool.false_and]
      · simp only [spill, if_neg some, refused]
      · rw [received, disk, Stream.fitting_append_of_not_takes full, ← start.received_write, state]

/-- Bytes that fit in the buffer, or that find it empty, go to the buffer or to the disk. -/
theorem Carries.place_cases (carries : Carries start sent file) (bytes : List UInt8)
    (fits : capacity < file.waiting.length + bytes.length → file.waiting = []) :
    (∃ next, file.place bytes = (next, none) ∧ Carries start (sent ++ bytes) next) ∨
    (start.takes (sent ++ bytes) = false ∧
      ∃ next, file.place bytes = (next, some start.refusal)) := by
  obtain ⟨⟨spilled, rfl, state⟩, bounded⟩ := carries
  by_cases small : bytes.length < capacity
  · rw [place, if_pos small]
    refine .inl ⟨_, rfl, ⟨spilled, List.append_assoc _ _ _, state⟩, ?_⟩
    rw [List.length_append]
    by_cases beyond : capacity < file.waiting.length + bytes.length
    · rw [fits beyond, List.length_nil]
      omega
    · omega
  · have none : file.waiting = [] := by
      by_cases beyond : capacity < file.waiting.length + bytes.length
      · exact fits beyond
      · exact List.eq_nil_of_length_eq_zero (by omega)
    rw [place, if_neg small, none, List.append_nil]
    rcases hand_cases state bytes with ⟨-, next, handed, state', kept⟩ | ⟨full, next, refused, -⟩
    · rw [none] at kept
      refine .inl ⟨next, handed, ⟨_, by rw [kept, List.append_nil], state'⟩, ?_⟩
      rw [kept]
      exact Nat.zero_le _
    · refine .inr ⟨?_, next, refused⟩
      rw [Stream.takes_append, full, Bool.false_and]

/-- A write succeeds unless the disk does not take all that it is given. -/
theorem Carries.write_cases (carries : Carries start sent file) (bytes : List UInt8) :
    (∃ next, file.write bytes = (next, none) ∧ Carries start (sent ++ bytes) next) ∨
    (start.takes (sent ++ bytes) = false ∧
      ∃ next, file.write bytes = (next, some start.refusal)) := by
  by_cases beyond : capacity < file.waiting.length + bytes.length
  · rw [write, makeRoom, if_pos beyond]
    rcases carries.spill_cases with ⟨next, spilled, empty, state⟩ | ⟨full, next, refused, -⟩
    · rw [spilled]
      have emptied : Carries start sent next :=
        ⟨⟨sent, by rw [empty, List.append_nil], state⟩, by rw [empty]; exact Nat.zero_le _⟩
      exact emptied.place_cases bytes fun _ => empty
    · rw [refused, Stream.takes_append, full, Bool.false_and]
      exact .inr ⟨rfl, next, rfl⟩
  · rw [write, makeRoom, if_neg beyond]
    exact carries.place_cases bytes fun full => absurd full beyond

/-- What is on the disk are the first of the bytes, and the buffer holds the few others. -/
theorem Carries.received (carries : Carries start sent file) (room : start.takes sent = true) :
    ∃ kept, file.received = start.received ++ kept ∧ kept <+: sent ∧
      sent.length ≤ kept.length + capacity := by
  obtain ⟨⟨spilled, rfl, state⟩, bounded⟩ := carries
  have fits := Stream.fitting_of_takes (Stream.takes_of_append room)
  have disk := start.received_write spilled
  rw [state, fits] at disk
  refine ⟨spilled, disk, List.prefix_append _ _, ?_⟩
  rw [List.length_append]
  omega

/-- A file that is settled has brought to the disk what that takes. -/
theorem Carries.settle_cases (carries : Carries start sent file) (own : Option String) :
    (file.settle own).1.received = start.received ++ start.fitting sent ∧
    ((file.settle own).2 = none ↔ start.takes sent = true ∧ own = none) ∧
    ((file.settle own).2 = none → Carries start sent (file.settle own).1) := by
  rw [settle]
  rcases carries.spill_cases with ⟨next, spilled, empty, state⟩ | ⟨full, next, refused, kept⟩
  · have disk := start.received_write sent
    have fault := start.fault_write_eq_none sent
    rw [state] at disk fault
    rw [spilled]
    refine ⟨disk, ?_, fun none => ?_⟩
    · rw [Option.or_eq_none_iff, fault]
    · have whole := (Option.or_eq_none_iff.mp none).1
      refine ⟨⟨sent, ?_, state.trans (congrArg (Prod.mk _) whole)⟩, ?_⟩
      · rw [empty, List.append_nil]
      · rw [empty]
        exact Nat.zero_le _
  · rw [refused]
    refine ⟨kept, ?_, fun none => nomatch none⟩
    simp only [full, reduceCtorEq, Bool.false_eq_true, false_and]

theorem Carries.flushFault (carries : Carries start sent file) :
    file.disk.flushFault = start.flushFault := by
  obtain ⟨⟨spilled, -, state⟩, -⟩ := carries
  rw [← start.flushFault_write spilled, state]

theorem Carries.closeFault (carries : Carries start sent file) :
    file.disk.closeFault = start.closeFault := by
  obtain ⟨⟨spilled, -, state⟩, -⟩ := carries
  rw [← start.closeFault_write spilled, state]

end StoreFile

namespace StoreWriter

open StoreFile (Carries)

variable {start : Stream} {sent : List UInt8} {writer : StoreWriter StoreFile}

/-- The lines of chunks are written one after the other, unless the disk does not take them. -/
theorem writeAll_cases (carries : writer.stream.Carries start sent) (chunks : List Chunk) :
    (∃ stream, writer.writeAll chunks =
        ({ writer with stream, written := writer.written + chunks.length }, none) ∧
      stream.Carries start (sent ++ Store.bytes chunks)) ∨
    (start.takes (sent ++ Store.bytes chunks) = false ∧
      ∃ next, writer.writeAll chunks = (next, some (writer.failure start.refusal))) := by
  induction chunks generalizing writer sent with
  | nil => exact .inl ⟨writer.stream, rfl, by rwa [Store.bytes, List.flatMap_nil, List.append_nil]⟩
  | cons chunk chunks ih =>
      rw [Store.bytes_cons, ← List.append_assoc]
      rcases carries.write_cases (Text.encode chunk.line) with
        ⟨stream, written, carried⟩ | ⟨full, stream, refused⟩
      · let next := { writer with stream, written := writer.written + 1 }
        have step : writer.write chunk = (next, none) := by
          simp only [write, Output.write, written, next]
        have carries' : next.stream.Carries start (sent ++ Text.encode chunk.line) := carried
        rw [writeAll, step]
        rcases ih carries' with ⟨last, whole, carried⟩ | failed
        · refine .inl ⟨last, ?_, carried⟩
          rw [List.length_cons, Nat.add_comm chunks.length, ← Nat.add_assoc]
          exact whole
        · exact .inr failed
      · have step : writer.write chunk =
            ({ writer with stream }, some (writer.failure start.refusal)) := by
          simp only [write, Output.write, refused]
        rw [writeAll, step, Stream.takes_append, full, Bool.false_and]
        exact .inr ⟨rfl, _, rfl⟩

/-- A store that is finished has brought to the disk what that takes, and says so if it is not
all. -/
theorem finish_cases (carries : writer.stream.Carries start sent) :
    writer.finish.1.stream.received = start.received ++ start.fitting sent ∧
    (writer.finish.2 = none ↔ start.Accepts sent) ∧
    ∀ cause ∈ writer.finish.2, ∃ reason, cause = writer.failure reason := by
  obtain ⟨received, whole, carried⟩ := carries.settle_cases writer.stream.disk.flushFault
  rw [carries.flushFault] at received whole carried
  simp only [finish, Output.flush, carries.flushFault]
  cases flushed : writer.stream.settle start.flushFault with
  | mk stream fault =>
      rw [flushed] at received whole carried
      cases fault with
      | some reason =>
          refine ⟨received, iff_of_false (Option.some_ne_none _) fun accepts => ?_, ?_⟩
          · exact Option.some_ne_none _ (whole.mpr ⟨accepts.room, accepts.flushes⟩)
          · rintro _ ⟨⟩
            exact ⟨reason, rfl⟩
      | none =>
          obtain ⟨room, flushes⟩ := whole.mp rfl
          have still := carried rfl
          obtain ⟨received', whole', -⟩ := still.settle_cases stream.disk.closeFault
          simp only [Output.close]
          refine ⟨received', ?_, ?_⟩
          · rw [Option.map_eq_none_iff, whole', still.closeFault]
            exact ⟨fun ⟨_, closes⟩ => ⟨room, flushes, closes⟩,
              fun accepts => ⟨room, accepts.closes⟩⟩
          · intro cause failed
            obtain ⟨reason, -, rfl⟩ := Option.map_eq_some_iff.mp failed
            exact ⟨reason, rfl⟩

end StoreWriter

end SourceIndex
