import SourceIndex.Store

set_option autoImplicit false

namespace SourceIndex

namespace Stream

/-- Whether the stream has room for the bytes. -/
def takes (stream : Stream) (bytes : List UInt8) : Bool :=
  stream.room.all fun room => bytes.length ≤ room

/-- Those of the bytes for which the stream has room. -/
def fitting (stream : Stream) (bytes : List UInt8) : List UInt8 :=
  match stream.room with
  | none => bytes
  | some room => bytes.take room

/-- The stream after bytes that it takes. -/
def taking (stream : Stream) (bytes : List UInt8) : Stream :=
  { stream with
    backwards := bytes.reverse ++ stream.backwards
    room := stream.room.map (· - bytes.length) }

theorem takes_nil (stream : Stream) : stream.takes [] = true := by
  cases room : stream.room <;> simp [takes, room]

theorem takes_append (stream : Stream) (first second : List UInt8) :
    stream.takes (first ++ second) =
      (stream.takes first && (stream.taking first).takes second) := by
  cases room : stream.room with
  | none => simp only [takes, taking, room, Option.map_none, Option.all_none, Bool.and_self]
  | some room' =>
      rw [Bool.eq_iff_iff]
      simp only [takes, taking, room, Option.map_some, Option.all_some, decide_eq_true_eq,
        List.length_append, Bool.and_eq_true]
      omega

theorem takes_of_append {stream : Stream} {first second : List UInt8}
    (room : stream.takes (first ++ second) = true) : stream.takes first = true := by
  rw [takes_append, Bool.and_eq_true] at room
  exact room.1

theorem takes_of_limited {stream : Stream} {limit : Nat} (limited : stream.room = some limit)
    (bytes : List UInt8) : stream.takes bytes = true ↔ bytes.length ≤ limit := by
  simp only [takes, limited, Option.all_some, decide_eq_true_eq]

theorem takes_of_unlimited {stream : Stream} (unlimited : stream.room = none)
    (bytes : List UInt8) : stream.takes bytes = true := by
  rw [takes, unlimited]
  rfl

theorem fitting_of_takes {stream : Stream} {bytes : List UInt8}
    (room : stream.takes bytes = true) : stream.fitting bytes = bytes := by
  cases limit : stream.room with
  | none => simp only [fitting, limit]
  | some left =>
      simp only [fitting, limit, List.take_of_length_le ((takes_of_limited limit bytes).mp room)]

/-- More bytes than the stream takes do not add to what it keeps. -/
theorem fitting_append_of_not_takes {stream : Stream} {first : List UInt8}
    (full : stream.takes first = false) (second : List UInt8) :
    stream.fitting (first ++ second) = stream.fitting first := by
  cases limit : stream.room with
  | none => rw [takes_of_unlimited limit] at full; cases full
  | some left =>
      have beyond : left ≤ first.length := by
        refine Nat.le_of_lt (Nat.lt_of_not_le fun fits => ?_)
        rw [(takes_of_limited limit first).mpr fits] at full
        cases full
      simp only [fitting, limit, List.take_append_of_le_length beyond]

theorem taking_nil (stream : Stream) : stream.taking [] = stream := by
  obtain ⟨backwards, _ | room, refusal, flushFault, closeFault⟩ := stream <;> rfl

theorem taking_append (stream : Stream) (first second : List UInt8) :
    (stream.taking first).taking second = stream.taking (first ++ second) := by
  simp only [taking, List.reverse_append, List.append_assoc, Option.map_map, List.length_append,
    Function.comp_def, Nat.sub_sub]

theorem received_taking (stream : Stream) (bytes : List UInt8) :
    (stream.taking bytes).received = stream.received ++ bytes := by
  simp only [received, taking, List.reverse_append, List.reverse_reverse]

/-- A stream keeps what fits of the bytes, and refuses if that is not all. -/
theorem write_eq (stream : Stream) (bytes : List UInt8) :
    stream.write bytes = (stream.taking (stream.fitting bytes),
      if stream.takes bytes = true then none else some stream.refusal) := by
  cases limit : stream.room with
  | none =>
      simp only [write, fitting, taking, limit, List.reverseAux_eq, Option.map_none,
        takes_of_unlimited limit, ↓reduceIte]
  | some left =>
      have kept : left - (bytes.take left).length = left - bytes.length := by
        rw [List.length_take]
        omega
      simp only [write, fitting, taking, limit, List.reverseAux_eq, Option.map_some, kept,
        takes_of_limited limit]

theorem write_of_takes (stream : Stream) (bytes : List UInt8) (room : stream.takes bytes = true) :
    stream.write bytes = (stream.taking bytes, none) := by
  rw [write_eq, fitting_of_takes room, if_pos room]

theorem fault_write_eq_none (stream : Stream) (bytes : List UInt8) :
    (stream.write bytes).2 = none ↔ stream.takes bytes = true := by
  rw [write_eq]
  split
  · rename_i room
    exact iff_of_true rfl room
  · rename_i full
    exact iff_of_false (Option.some_ne_none _) full

theorem write_append_of_takes (stream : Stream) (first second : List UInt8)
    (room : stream.takes first = true) :
    stream.write (first ++ second) = (stream.taking first).write second := by
  have fits : stream.fitting (first ++ second) = first ++ (stream.taking first).fitting second := by
    cases limit : stream.room with
    | none => simp only [fitting, taking, limit, Option.map_none]
    | some left =>
        have within := (takes_of_limited limit first).mp room
        simp only [fitting, taking, limit, Option.map_some, List.take_append,
          List.take_of_length_le within]
  rw [write_eq, write_eq, fits, taking_append, takes_append, room, Bool.true_and]
  rfl

end Stream

namespace Store

/-- The lines of chunks, as bytes. -/
def bytes (chunks : List Chunk) : List UInt8 := chunks.flatMap fun chunk => Text.encode chunk.line

theorem bytes_singleton (chunk : Chunk) : bytes [chunk] = Text.encode chunk.line := by
  rw [bytes, List.flatMap_singleton]

theorem bytes_cons (chunk : Chunk) (chunks : List Chunk) :
    bytes (chunk :: chunks) = Text.encode chunk.line ++ bytes chunks := by
  rw [bytes, List.flatMap_cons, bytes]

theorem bytes_append (first second : List Chunk) :
    bytes (first ++ second) = bytes first ++ bytes second := by
  rw [bytes, List.flatMap_append, bytes, bytes]

end Store

namespace StoreWriter

/-- The writer after the lines of chunks for which its stream has room. -/
def filled (writer : StoreWriter Stream) (chunks : List Chunk) : StoreWriter Stream :=
  { writer with
    stream := writer.stream.taking (Store.bytes chunks)
    written := writer.written + chunks.length }

theorem filled_append (writer : StoreWriter Stream) (first second : List Chunk) :
    (writer.filled first).filled second = writer.filled (first ++ second) := by
  simp only [filled, Stream.taking_append, Store.bytes_append, List.length_append, Nat.add_assoc]

theorem write_of_takes (writer : StoreWriter Stream) (chunk : Chunk)
    (room : writer.stream.takes (Text.encode chunk.line) = true) :
    writer.write chunk = (writer.filled [chunk], none) := by
  simp only [write, Output.write, writer.stream.write_of_takes _ room, filled,
    Store.bytes_singleton, List.length_singleton]

theorem writeAll_of_takes (writer : StoreWriter Stream) (chunks : List Chunk)
    (room : writer.stream.takes (Store.bytes chunks) = true) :
    writer.writeAll chunks = (writer.filled chunks, none) := by
  induction chunks generalizing writer with
  | nil =>
      simp only [writeAll, filled, Store.bytes, List.flatMap_nil, Stream.taking_nil,
        List.length_nil, Nat.add_zero]
  | cons chunk chunks ih =>
      rw [Store.bytes_cons, Stream.takes_append, Bool.and_eq_true] at room
      obtain ⟨first, rest⟩ := room
      have step := writer.write_of_takes chunk first
      rw [← Store.bytes_singleton] at rest
      have later := ih (writer.filled [chunk]) rest
      rw [filled_append, List.singleton_append] at later
      simp only [writeAll, step, later]

end StoreWriter

end SourceIndex
