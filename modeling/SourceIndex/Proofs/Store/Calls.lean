import SourceIndex.Proofs.Store.Lines

set_option autoImplicit false

namespace SourceIndex

namespace Stream

/-- Writing bytes in pieces of any size. The stream takes a piece if it has room for it, and without
any room it refuses. -/
inductive WritesInPieces : Stream → List UInt8 → Stream → Option String → Prop where
  | done (stream : Stream) : WritesInPieces stream [] stream none
  | piece {stream next : Stream} {piece rest : List UInt8} {outcome : Option String}
      (some : piece ≠ []) (room : stream.takes piece = true)
      (later : WritesInPieces (stream.taking piece) rest next outcome) :
      WritesInPieces stream (piece ++ rest) next outcome
  | refused {stream : Stream} {bytes : List UInt8} (some : bytes ≠ [])
      (full : stream.room = Option.some 0) :
      WritesInPieces stream bytes stream (Option.some stream.refusal)

/-- A stream with a limit keeps what it takes up to the limit, and faults on anything more. -/
theorem write_of_limited {stream : Stream} {limit : Nat} (limited : stream.room = some limit)
    (bytes : List UInt8) :
    stream.write bytes = (stream.taking (bytes.take limit),
      if bytes.length ≤ limit then none else some stream.refusal) := by
  simp only [write_eq, fitting, limited, takes_of_limited limited]

theorem room_taking {stream : Stream} {limit : Nat} (limited : stream.room = some limit)
    (bytes : List UInt8) : (stream.taking bytes).room = some (limit - bytes.length) := by
  simp only [taking, limited, Option.map_some]

theorem WritesInPieces.append {stream next : Stream} {first rest : List UInt8}
    {outcome : Option String} (room : stream.takes first = true)
    (later : WritesInPieces (stream.taking first) rest next outcome) :
    WritesInPieces stream (first ++ rest) next outcome := by
  by_cases empty : first = []
  · subst empty
    rwa [taking_nil] at later
  · exact .piece empty room later

theorem WritesInPieces.write_eq {stream next : Stream} {bytes : List UInt8}
    {outcome : Option String} (written : WritesInPieces stream bytes next outcome) :
    stream.write bytes = (next, outcome) := by
  induction written with
  | done stream => rw [write_of_takes stream [] stream.takes_nil, taking_nil]
  | piece some room later ih => rw [write_append_of_takes _ _ _ room, ih]
  | @refused stream bytes some full =>
      have beyond : ¬ bytes.length ≤ 0 := Nat.not_le_of_lt (List.length_pos_iff.mpr some)
      rw [write_of_limited full, List.take_zero, taking_nil, if_neg beyond]

/-- More than the stream takes is written as a piece that fills it and a rest that it refuses. -/
theorem writesInPieces_of_beyond {stream : Stream} {limit : Nat}
    (limited : stream.room = some limit) {bytes : List UInt8} (beyond : ¬ bytes.length ≤ limit) :
    WritesInPieces stream bytes (stream.taking (bytes.take limit)) (some stream.refusal) := by
  have size : (bytes.take limit).length = limit :=
    List.length_take_of_le (Nat.le_of_not_le beyond)
  have fits : stream.takes (bytes.take limit) = true :=
    (takes_of_limited limited _).mpr (Nat.le_of_eq size)
  have more : bytes.drop limit ≠ [] := by
    rw [ne_eq, List.drop_eq_nil_iff]
    exact beyond
  have full : (stream.taking (bytes.take limit)).room = some 0 := by
    rw [room_taking limited, size, Nat.sub_self]
  have parts := WritesInPieces.append fits (.refused more full)
  rwa [List.take_append_drop] at parts

theorem writesInPieces_write (stream : Stream) (bytes : List UInt8) :
    WritesInPieces stream bytes (stream.write bytes).1 (stream.write bytes).2 := by
  cases room : stream.takes bytes with
  | true =>
      have whole := WritesInPieces.append room (.done (stream.taking bytes))
      rw [List.append_nil] at whole
      rwa [write_of_takes stream bytes room]
  | false =>
      cases limit : stream.room with
      | none => exact absurd (room.symm.trans (takes_of_unlimited limit bytes)) Bool.false_ne_true
      | some left =>
          have beyond : ¬ bytes.length ≤ left := fun fits =>
            Bool.false_ne_true (room.symm.trans ((takes_of_limited limit bytes).mpr fits))
          rw [write_of_limited limit, if_neg beyond]
          exact writesInPieces_of_beyond limit beyond

/-- Whatever the pieces, the outcome is that of writing all at once. -/
theorem writesInPieces_iff (stream : Stream) (bytes : List UInt8) (next : Stream)
    (outcome : Option String) :
    WritesInPieces stream bytes next outcome ↔ stream.write bytes = (next, outcome) := by
  constructor
  · exact WritesInPieces.write_eq
  · intro written
    have pieces := stream.writesInPieces_write bytes
    rwa [written] at pieces

end Stream

namespace Chunk

theorem encode_line (chunk : Chunk) :
    Text.encode chunk.line = Text.utf8 (chunk.toJson.render none) ++ [10] := by
  rw [Text.encode_eq_utf8, line_toList, Text.utf8_append]
  rfl

/-- The part of a line that a limit leaves has the line feed only if it is the whole line. -/
theorem count_take_line (chunk : Chunk) (limit : Nat) :
    ((Text.encode chunk.line).take limit).count 10 =
      if (Text.encode chunk.line).length ≤ limit then 1 else 0 := by
  have single : (Text.utf8 (chunk.toJson.render none)).count 10 = 0 := by
    rw [Text.count_utf8_newLine]
    exact List.count_eq_zero.mpr (Json.newLine_not_mem_render chunk.toJson)
  rw [encode_line, List.length_append, List.length_singleton]
  split
  · rename_i whole
    rw [List.take_of_length_le (by rwa [List.length_append, List.length_singleton]),
      List.count_append, single]
    rfl
  · rename_i cut
    rw [List.take_append_of_le_length (by omega)]
    have part := List.take_sublist limit (Text.utf8 (chunk.toJson.render none))
    exact Nat.le_zero.mp (single ▸ part.count_le 10)

theorem length_line_pos (chunk : Chunk) : 0 < (Text.encode chunk.line).length := by
  rw [encode_line, List.length_append]
  exact Nat.succ_pos _

end Chunk

namespace StoreWriter

/-- A call writes what its stream takes of the line, and counts the line if that is all of it. -/
theorem write_of_limited (writer : StoreWriter Stream) {limit : Nat}
    (limited : writer.stream.room = some limit) (chunk : Chunk) :
    writer.write chunk =
      ({ writer with
          stream := writer.stream.taking ((Text.encode chunk.line).take limit)
          written := writer.written + if (Text.encode chunk.line).length ≤ limit then 1 else 0 },
        if (Text.encode chunk.line).length ≤ limit then none
        else some (writer.failure writer.stream.refusal)) := by
  simp only [write, Output.write, Stream.write_of_limited limited]
  by_cases fits : (Text.encode chunk.line).length ≤ limit
  · simp only [if_pos fits]
  · simp only [if_neg fits, Nat.add_zero]

theorem fault_finish_eq_none (writer : StoreWriter Stream) :
    writer.finish.2 = none ↔
      writer.stream.flushFault = none ∧ writer.stream.closeFault = none := by
  cases flushes : writer.stream.flushFault with
  | none =>
      simp only [finish, Output.flush, Output.close, flushes, Option.map_eq_none_iff, true_and]
  | some reason =>
      simp only [finish, Output.flush, flushes, reduceCtorEq, false_and]

/-- Calls for each of the chunks, whatever became of those before, with the failures of the calls
in order. -/
def writeEach : StoreWriter Stream → List Chunk → StoreWriter Stream × List (Option IndexingFailure)
  | writer, [] => (writer, [])
  | writer, chunk :: chunks =>
    let (next, outcome) := writer.write chunk
    let (last, outcomes) := writeEach next chunks
    (last, outcome :: outcomes)

/-- What holds after calls for the chunks, with these outcomes, of a writer whose stream was `start`
and took `limit` bytes. -/
structure Fills (start : Stream) (target : String) (limit : Nat) (chunks : List Chunk)
    (writer : StoreWriter Stream) (outcomes : List (Option IndexingFailure)) : Prop where
  target : writer.target = target
  /-- The stream has got the lines up to the limit. -/
  stream : writer.stream = start.taking ((Store.bytes chunks).take limit)
  /-- The writer counts the line feeds of these, -/
  lines : writer.written = ((Store.bytes chunks).take limit).count 10
  /-- which are as many as the calls that succeeded. -/
  successes : writer.written = outcomes.count none
  answered : outcomes.length = chunks.length
  /-- After a call that fails every call fails. -/
  lasting : outcomes.Pairwise fun earlier later => earlier ≠ none → later ≠ none
  /-- All calls succeed if the limit allows for all lines. -/
  whole : (∀ outcome ∈ outcomes, outcome = none) ↔ (Store.bytes chunks).length ≤ limit

variable {start : Stream} {target : String} {limit : Nat} {chunks : List Chunk}
  {writer : StoreWriter Stream} {outcomes : List (Option IndexingFailure)}

theorem Fills.room (fills : Fills start target limit chunks writer outcomes)
    (limited : start.room = some limit) :
    writer.stream.room = some (limit - (Store.bytes chunks).length) := by
  rw [fills.stream, Stream.room_taking limited, List.length_take]
  congr 1
  omega

theorem Fills.write (fills : Fills start target limit chunks writer outcomes)
    (limited : start.room = some limit) (chunk : Chunk) :
    Fills start target limit (chunks ++ [chunk]) (writer.write chunk).1
      (outcomes ++ [(writer.write chunk).2]) := by
  have positive := chunk.length_line_pos
  have bytes : Store.bytes (chunks ++ [chunk]) = Store.bytes chunks ++ Text.encode chunk.line := by
    rw [Store.bytes_append, Store.bytes_singleton]
  rw [writer.write_of_limited (fills.room limited) chunk]
  have success (failure : IndexingFailure) :
      (if (Text.encode chunk.line).length ≤ limit - (Store.bytes chunks).length then none
        else some failure) = none ↔
      (Store.bytes chunks).length + (Text.encode chunk.line).length ≤ limit := by
    split
    · exact iff_of_true rfl (by omega)
    · exact iff_of_false (fun none => nomatch none) (by omega)
  refine ⟨fills.target, ?_, ?_, ?_, ?_, ?_, ?_⟩
  · rw [bytes, List.take_append, ← Stream.taking_append, ← fills.stream]
  · rw [bytes, List.take_append, List.count_append, chunk.count_take_line, fills.lines]
  · rw [List.count_append, fills.successes]
    split <;> rfl
  · simp only [List.length_append, List.length_singleton, fills.answered]
  · refine List.pairwise_append.mpr ⟨fills.lasting, List.pairwise_singleton _ _, ?_⟩
    intro earlier member later last failed
    rw [List.mem_singleton.mp last, ne_eq, success]
    exact fun fits => failed (fills.whole.mpr (by omega) earlier member)
  · rw [List.forall_mem_append, List.forall_mem_singleton, fills.whole, success, bytes,
      List.length_append]
    omega

theorem fills_nil (limit : Nat) (start : Stream) (target : String) :
    Fills start target limit [] ⟨start, target, 0⟩ [] := by
  refine ⟨rfl, ?_, ?_, rfl, rfl, .nil, ?_⟩
  · rw [Store.bytes, List.flatMap_nil, List.take_nil, Stream.taking_nil]
  · rw [Store.bytes, List.flatMap_nil, List.take_nil]
    rfl
  · exact iff_of_true (List.forall_mem_nil _) (Nat.zero_le _)

theorem Fills.writeEach (fills : Fills start target limit chunks writer outcomes)
    (limited : start.room = some limit) (more : List Chunk) :
    Fills start target limit (chunks ++ more) (writer.writeEach more).1
      (outcomes ++ (writer.writeEach more).2) := by
  induction more generalizing chunks writer outcomes with
  | nil =>
      rw [List.append_nil]
      simpa only [StoreWriter.writeEach, List.append_nil] using fills
  | cons chunk more ih =>
      have next := ih (fills.write limited chunk)
      simpa only [StoreWriter.writeEach, List.append_assoc, List.singleton_append] using next

theorem take_writeEach (writer : StoreWriter Stream) (chunks : List Chunk) (count : Nat) :
    (writer.writeEach (chunks.take count)).2 = (writer.writeEach chunks).2.take count := by
  induction chunks generalizing writer count with
  | nil => rw [List.take_nil, writeEach, List.take_nil]
  | cons chunk chunks ih =>
      cases count with
      | zero => rfl
      | succ count =>
          simp only [List.take_succ_cons, writeEach]
          rw [ih]

/-- A writer that begins, over a stream that takes `limit` bytes. -/
def overLimited (target : String) (limit : Nat) (flushFault closeFault : Option String) :
    StoreWriter Stream :=
  ⟨{ room := some limit, flushFault, closeFault }, target, 0⟩

/-- What is seen of a writer and its stream after calls for the chunks, with these outcomes. -/
structure Reports (limit : Nat) (flushFault closeFault : Option String) (chunks : List Chunk)
    (writer : StoreWriter Stream) (outcomes : List (Option IndexingFailure)) : Prop where
  /-- The stream has received the lines up to the limit, to the byte. -/
  received : writer.stream.received = (Store.bytes chunks).take limit
  begins : writer.stream.received <+: Store.bytes chunks
  /-- The calls that succeeded are counted, -/
  successes : writer.written = outcomes.count none
  /-- and they are as many as the complete lines that the stream has received. -/
  lines : writer.written = writer.stream.received.count 10
  answered : outcomes.length = chunks.length
  /-- After a call that fails every call fails. -/
  lasting : outcomes.Pairwise fun earlier later => earlier ≠ none → later ≠ none
  /-- If nothing fails, every line is there in full. -/
  whole : (∀ outcome ∈ outcomes, outcome = none) → writer.finish.2 = none →
    writer.stream.received = Store.bytes chunks
  closed : writer.finish.2 = none ↔ flushFault = none ∧ closeFault = none

theorem Fills.reports {flushFault closeFault : Option String}
    (fills : Fills (overLimited target limit flushFault closeFault).stream target limit chunks
      writer outcomes) : Reports limit flushFault closeFault chunks writer outcomes := by
  have received : writer.stream.received = (Store.bytes chunks).take limit := by
    rw [fills.stream, Stream.received_taking]
    rfl
  refine ⟨received, ?_, fills.successes, ?_, fills.answered, fills.lasting, ?_, ?_⟩
  · rw [received]
    exact List.take_prefix _ _
  · rw [received, fills.lines]
  · intro all _
    rw [received, List.take_of_length_le (fills.whole.mp all)]
  · rw [fault_finish_eq_none, fills.stream]
    exact Iff.rfl

/-- After each of the calls for any chunks the writer reports what its stream has received, however
the lines are cut into pieces on the way there. -/
theorem writeEach_reports (target : String) (limit : Nat) (flushFault closeFault : Option String)
    (chunks : List Chunk) :
    (∀ stream bytes next outcome, Stream.WritesInPieces stream bytes next outcome ↔
        stream.write bytes = (next, outcome)) ∧
      ∀ count, Reports limit flushFault closeFault (chunks.take count)
        ((overLimited target limit flushFault closeFault).writeEach (chunks.take count)).1
        (((overLimited target limit flushFault closeFault).writeEach chunks).2.take count) := by
  refine ⟨Stream.writesInPieces_iff, fun count => ?_⟩
  have fills := (fills_nil limit _ target).writeEach
    (rfl : (overLimited target limit flushFault closeFault).stream.room = some limit)
    (chunks.take count)
  rw [List.nil_append, List.nil_append] at fills
  rw [← take_writeEach]
  exact fills.reports

end StoreWriter

end SourceIndex
