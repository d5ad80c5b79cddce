import SourceIndex.Chunk.Written
import SourceIndex.Failure

set_option autoImplicit false

namespace SourceIndex

/-- Something that bytes are written to. Each operation gives what becomes of it, and the reason if
it fails. -/
class Output (σ : Type) where
  write : σ → List UInt8 → σ × Option String
  flush : σ → σ × Option String
  close : σ → σ × Option String

/-- A stream that keeps what it receives. -/
structure Stream where
  /-- The bytes received, the last one first. -/
  backwards : List UInt8 := []
  /-- How many bytes it still takes; all if none. -/
  room : Option Nat := none
  /-- Why it takes no more. -/
  refusal : String := "quota exceeded"
  /-- Why it cannot be flushed, and why not be closed. -/
  flushFault : Option String := none
  closeFault : Option String := none
deriving DecidableEq, Repr, Inhabited

namespace Stream

def received (stream : Stream) : List UInt8 := stream.backwards.reverse

/-- Writes all of the bytes or, where the room ends before them, those that fit. -/
def write (stream : Stream) (bytes : List UInt8) : Stream × Option String :=
  match stream.room with
  | none => ({ stream with backwards := bytes.reverseAux stream.backwards }, none)
  | some room =>
    let stream' := { stream with
      backwards := (bytes.take room).reverseAux stream.backwards
      room := some (room - bytes.length) }
    (stream', if bytes.length ≤ room then none else some stream.refusal)

instance : Output Stream where
  write := write
  flush stream := (stream, stream.flushFault)
  close stream := (stream, stream.closeFault)

end Stream

/-- A file behind a buffer. The file is written apart from the program, which hears of a fault when
it next turns to the file. -/
structure StoreFile where
  disk : Stream
  /-- A fault that the program has not heard of. -/
  fault : Option String := none
  waiting : List UInt8 := []
deriving DecidableEq, Repr, Inhabited

namespace StoreFile

/-- The most bytes that the buffer holds. -/
def capacity : Nat := 8192

/-- What lies in the file; the buffer is not part of it. -/
def received (file : StoreFile) : List UInt8 := file.disk.received

def hand (file : StoreFile) (bytes : List UInt8) : StoreFile × Option String :=
  match file.fault with
  | some reason => ({ file with fault := none }, some reason)
  | none =>
    let (disk, fault) := file.disk.write bytes
    ({ file with disk, fault }, none)

/-- Empties the buffer into the file. The buffer is kept if that fails. -/
def spill (file : StoreFile) : StoreFile × Option String :=
  if file.waiting.isEmpty then (file, none)
  else match file.hand file.waiting with
    | (file, none) => ({ file with waiting := [] }, none)
    | (file, some reason) => (file, some reason)

def makeRoom (file : StoreFile) (bytes : List UInt8) : StoreFile × Option String :=
  if capacity < file.waiting.length + bytes.length then file.spill else (file, none)

/-- Puts the bytes in the buffer, or hands them to the file if they would fill it. -/
def place (file : StoreFile) (bytes : List UInt8) : StoreFile × Option String :=
  if bytes.length < capacity then ({ file with waiting := file.waiting ++ bytes }, none)
  else file.hand bytes

def write (file : StoreFile) (bytes : List UInt8) : StoreFile × Option String :=
  match file.makeRoom bytes with
  | (file, some reason) => (file, some reason)
  | (file, none) => file.place bytes

/-- Empties the buffer and waits for the file, which may have a fault of its own. -/
def settle (file : StoreFile) (own : Option String) : StoreFile × Option String :=
  match file.spill with
  | (file, some reason) => (file, some reason)
  | (file, none) => ({ file with fault := none }, file.fault.or own)

instance : Output StoreFile where
  write := write
  flush file := file.settle file.disk.flushFault
  close file := file.settle file.disk.closeFault

end StoreFile

/-- A store being written, with its name and the number of records that were written in full. -/
structure StoreWriter (σ : Type) where
  stream : σ
  target : String
  written : Nat := 0
deriving DecidableEq, Repr, Inhabited

namespace StoreWriter

variable {σ : Type} [Output σ]

def failure (writer : StoreWriter σ) (reason : String) : IndexingFailure :=
  .writeFailed writer.target reason

def write (writer : StoreWriter σ) (chunk : Chunk) : StoreWriter σ × Option IndexingFailure :=
  match Output.write writer.stream (Text.encode chunk.line) with
  | (stream, none) => ({ writer with stream, written := writer.written + 1 }, none)
  | (stream, some reason) => ({ writer with stream }, some (writer.failure reason))

/-- Writes the lines of chunks up to the first that fails. -/
def writeAll : StoreWriter σ → List Chunk → StoreWriter σ × Option IndexingFailure
  | writer, [] => (writer, none)
  | writer, chunk :: chunks =>
    match writer.write chunk with
    | (writer, none) => writeAll writer chunks
    | (writer, some cause) => (writer, some cause)

/-- Flushes the stream and, if that does not fail, closes it. -/
def finish (writer : StoreWriter σ) : StoreWriter σ × Option IndexingFailure :=
  match Output.flush writer.stream with
  | (stream, some reason) => ({ writer with stream }, some (writer.failure reason))
  | (stream, none) =>
    let (stream, fault) := Output.close stream
    ({ writer with stream }, fault.map writer.failure)

end StoreWriter

end SourceIndex
