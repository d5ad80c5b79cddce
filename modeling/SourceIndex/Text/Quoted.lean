import SourceIndex.Text.Blank

set_option autoImplicit false

namespace SourceIndex.Text

def hexDigits (n : Nat) : List Char := Nat.toDigits 16 n

/-- Ranges of characters that leave no mark of their own: controls, marks that join the character
before them, formats, separators, surrogates and private use. -/
def hiddenRanges : List (Nat × Nat) :=
  [(0x7F, 0xA0), (0xAD, 0xAD), (0x300, 0x36F), (0x483, 0x489), (0x591, 0x5BD), (0x600, 0x605),
    (0x610, 0x61A), (0x61C, 0x61C), (0x64B, 0x65F), (0x6D6, 0x6DD), (0x70F, 0x70F),
    (0x1680, 0x1680), (0x180B, 0x180F), (0x1AB0, 0x1ACE), (0x1DC0, 0x1DFF), (0x2000, 0x200F),
    (0x2028, 0x202F), (0x205F, 0x206F), (0x20D0, 0x20F0), (0x2FFC, 0x3000), (0x302A, 0x302F),
    (0x3099, 0x309A), (0xD800, 0xF8FF), (0xFE00, 0xFE0F), (0xFE20, 0xFE2F), (0xFEFF, 0xFEFF),
    (0xFFF0, 0xFFFB), (0xFFFE, 0xFFFF), (0xE0000, 0x10FFFF)]

def isHidden (c : Char) : Bool :=
  c.toNat < 0x20 || hiddenRanges.any fun (first, last) => first ≤ c.toNat && c.toNat ≤ last

def visible (c : Char) : List Char :=
  if c == '"' then ['\\', '"']
  else if c == '\\' then ['\\', '\\']
  else if c == '\t' then ['\\', 't']
  else if c == '\n' then ['\\', 'n']
  else if c == '\r' then ['\\', 'r']
  else if c == '\x00' then ['\\', '0']
  else if isHidden c then ['\\', 'u', '\x7b'] ++ hexDigits c.toNat ++ ['\x7d']
  else [c]

def inQuotes (text : String) : String :=
  String.ofList ('"' :: text.toList.flatMap visible ++ ['"'])

end SourceIndex.Text
