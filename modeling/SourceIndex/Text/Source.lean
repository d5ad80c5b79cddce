set_option autoImplicit false

namespace SourceIndex

/-- A text in UTF-8. -/
structure Source where
  bytes : ByteArray

namespace Source

def ofString (text : String) : Source := ⟨text.toUTF8⟩

def size (source : Source) : Nat := source.bytes.size

def atEnd (source : Source) (offset : Nat) : Bool := source.size ≤ offset

def continuation (source : Source) (offset : Nat) : Nat :=
  ((source.bytes.get! offset) &&& 0x3F).toNat

/-- The code point at `offset` and its length in bytes. Past the end it is zero, of length zero. -/
def decode (source : Source) (offset : Nat) : Nat × Nat :=
  if source.size ≤ offset then (0, 0)
  else
    let first := (source.bytes.get! offset).toNat
    if first < 0x80 then (first, 1)
    else if first < 0xE0 then ((first % 0x20) * 0x40 + source.continuation (offset + 1), 2)
    else if first < 0xF0 then
      (((first % 0x10) * 0x40 + source.continuation (offset + 1)) * 0x40 +
        source.continuation (offset + 2), 3)
    else
      ((((first % 0x08) * 0x40 + source.continuation (offset + 1)) * 0x40 +
        source.continuation (offset + 2)) * 0x40 + source.continuation (offset + 3), 4)

def code (source : Source) (offset : Nat) : Nat := (source.decode offset).1

/-- The offset after the code point at `offset`; the end stays where it is. -/
def next (source : Source) (offset : Nat) : Nat := offset + (source.decode offset).2

def hasChar (source : Source) (offset : Nat) (c : Char) : Bool :=
  offset < source.size && source.code offset == c.toNat

/-- The first offset from `offset` on whose code point fails `test`; the end of the text fails. -/
def skipWhile (source : Source) (test : Nat → Bool) : Nat → Nat → Nat
  | 0, offset => offset
  | fuel + 1, offset =>
    let (code, length) := source.decode offset
    if length != 0 && test code then skipWhile source test fuel (offset + length) else offset

def skip (source : Source) (test : Nat → Bool) (offset : Nat) : Nat :=
  source.skipWhile test (source.size + 1) offset

/-- Whether `text` stands at `offset`, character by character. -/
def hasPrefix (source : Source) (offset : Nat) : List Char → Bool
  | [] => true
  | c :: rest => source.hasChar offset c && hasPrefix source (source.next offset) rest

/-- The number of line feeds in `count` bytes from `offset` on. -/
def lineFeeds (source : Source) : Nat → Nat → Nat
  | _, 0 => 0
  | offset, count + 1 =>
    (if source.bytes.get! offset == 10 then 1 else 0) + lineFeeds source (offset + 1) count

def rowsBetween (source : Source) (first last : Nat) : Nat :=
  source.lineFeeds first (last - first)

def slice (source : Source) (first last : Nat) : String :=
  String.fromUTF8! (source.bytes.extract first last)

end Source

end SourceIndex
