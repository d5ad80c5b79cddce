set_option autoImplicit false

namespace SourceIndex.Text

/-- What a lead byte asks for: the number of bytes that follow it, the least and the greatest
value of the first of them, and the bits that the lead itself gives. -/
structure Lead where
  followers : Nat
  least : UInt8
  greatest : UInt8
  bits : Nat

/-- The leads of longer sequences. Overlong forms, surrogates and values past U+10FFFF are
excluded by the range of the second byte. -/
def Lead.of? (byte : UInt8) : Option Lead :=
  if byte < 0xC2 then none
  else if byte < 0xE0 then some ⟨1, 0x80, 0xBF, byte.toNat % 0x20⟩
  else if byte == 0xE0 then some ⟨2, 0xA0, 0xBF, 0⟩
  else if byte == 0xED then some ⟨2, 0x80, 0x9F, 0xD⟩
  else if byte < 0xF0 then some ⟨2, 0x80, 0xBF, byte.toNat % 0x10⟩
  else if byte == 0xF0 then some ⟨3, 0x90, 0xBF, 0⟩
  else if byte < 0xF4 then some ⟨3, 0x80, 0xBF, byte.toNat % 0x08⟩
  else if byte == 0xF4 then some ⟨3, 0x80, 0x8F, 4⟩
  else none

def replacement : Char := '\uFFFD'

/-- A sequence that has begun: how many bytes it lacks, the range of the next one, and the bits
read so far. -/
structure Pending where
  missing : Nat
  least : UInt8
  greatest : UInt8
  bits : Nat

/-- The reader between two bytes: the text so far, backwards, and the sequence that is open. -/
structure Decoding where
  text : List Char := []
  pending : Option Pending := none

def Decoding.start (text : List Char) (byte : UInt8) : Decoding :=
  if byte < 0x80 then ⟨Char.ofNat byte.toNat :: text, none⟩
  else match Lead.of? byte with
    | none => ⟨replacement :: text, none⟩
    | some lead => ⟨text, some ⟨lead.followers, lead.least, lead.greatest, lead.bits⟩⟩

/-- A byte that does not continue the open sequence ends it, and starts anew. -/
def Decoding.step (decoding : Decoding) (byte : UInt8) : Decoding :=
  match decoding.pending with
  | none => .start decoding.text byte
  | some pending =>
    if pending.least ≤ byte && byte ≤ pending.greatest then
      let bits := pending.bits * 0x40 + byte.toNat % 0x40
      if pending.missing ≤ 1 then ⟨Char.ofNat bits :: decoding.text, none⟩
      else ⟨decoding.text, some ⟨pending.missing - 1, 0x80, 0xBF, bits⟩⟩
    else .start (replacement :: decoding.text) byte

def Decoding.finish (decoding : Decoding) : List Char :=
  (match decoding.pending with
    | none => decoding.text
    | some _ => replacement :: decoding.text).reverse

/-- The text of the bytes: one replacement for each longest part that begins a well-formed
sequence and is not continued, or for each byte that begins none. -/
def decodeLossy (bytes : List UInt8) : List Char :=
  (bytes.foldl Decoding.step {}).finish

def utf8 (text : List Char) : List UInt8 := text.flatMap String.utf8EncodeChar

def encode (text : String) : List UInt8 := utf8 text.toList

/-- The text of which these are the bytes, if they are well formed. -/
def text? (bytes : List UInt8) : Option String :=
  let text := decodeLossy bytes
  if utf8 text == bytes then some (String.ofList text) else none

def byteCount (text : List Char) : Nat := text.foldl (fun count c => count + c.utf8Size) 0

/-- The text without its first `count` bytes, if a character ends there. -/
def dropBytes? (count : Nat) : List Char → Option (List Char)
  | [] => if count == 0 then some [] else none
  | c :: rest =>
    if count == 0 then some (c :: rest)
    else if c.utf8Size ≤ count then dropBytes? (count - c.utf8Size) rest
    else none

/-- The first `count` bytes of the text, put before `taken` backwards, if a character ends there. -/
def takeBytes? (count : Nat) (text taken : List Char) : Option (List Char) :=
  match text with
  | [] => if count == 0 then some taken.reverse else none
  | c :: rest =>
    if count == 0 then some taken.reverse
    else if c.utf8Size ≤ count then takeBytes? (count - c.utf8Size) rest (c :: taken)
    else none

/-- The text of the bytes from `first` to `last`, if both are boundaries of characters. -/
def sliceBytes? (text : List Char) (first last : Nat) : Option (List Char) :=
  if first ≤ last then (dropBytes? first text).bind fun rest => takeBytes? (last - first) rest []
  else none

end SourceIndex.Text
