set_option autoImplicit false

namespace SourceIndex

/-- A set of code points: the closed ranges of `ranges`, with the first 128 code points also kept
as a bit mask so that the common test does not search. -/
structure CharSet where
  ranges : Array (Nat × Nat)
  asciiLow : UInt64
  asciiHigh : UInt64
deriving BEq, Hashable, Inhabited

namespace CharSet

/-- Whether one of the sorted `ranges` holds `code`, by bisection of `[low, high)`. -/
def searchRanges (ranges : Array (Nat × Nat)) (code : Nat) : Nat → Nat → Nat → Bool
  | 0, _, _ => false
  | fuel + 1, low, high =>
    if low < high then
      let middle := (low + high) / 2
      match ranges[middle]? with
      | none => false
      | some (first, last) =>
        if code < first then searchRanges ranges code fuel low middle
        else if last < code then searchRanges ranges code fuel (middle + 1) high
        else true
    else false

def contains (set : CharSet) (code : Nat) : Bool :=
  if code < 64 then (set.asciiLow >>> code.toUInt64) &&& 1 == 1
  else if code < 128 then (set.asciiHigh >>> (code - 64).toUInt64) &&& 1 == 1
  else searchRanges set.ranges code (set.ranges.size + 1) 0 set.ranges.size

/-- Joins ranges that touch or overlap; the list is sorted by first code point. -/
def joinRanges : List (Nat × Nat) → List (Nat × Nat)
  | [] => []
  | [range] => [range]
  | (first, last) :: (nextFirst, nextLast) :: rest =>
    if nextFirst ≤ last + 1 then joinRanges ((first, max last nextLast) :: rest)
    else (first, last) :: joinRanges ((nextFirst, nextLast) :: rest)
  termination_by ranges => ranges.length

/-- The bits of the code points `offset` to `offset + 63`. -/
def mask (ranges : List (Nat × Nat)) (offset : Nat) : UInt64 :=
  (List.range 64).foldl
    (fun bits i =>
      if ranges.any (fun range => range.1 ≤ offset + i && offset + i ≤ range.2) then
        bits ||| ((1 : UInt64) <<< i.toUInt64)
      else bits)
    0

def ofRanges (ranges : List (Nat × Nat)) : CharSet :=
  let sorted := joinRanges
    ((ranges.filter fun range => range.1 ≤ range.2).mergeSort fun a b => a.1 ≤ b.1)
  ⟨sorted.toArray, mask sorted 0, mask sorted 64⟩

def empty : CharSet := ⟨#[], 0, 0⟩

def isEmpty (set : CharSet) : Bool := set.ranges.isEmpty

def lastCodePoint : Nat := 0x10FFFF

def union (a b : CharSet) : CharSet := ofRanges (a.ranges.toList ++ b.ranges.toList)

/-- The gaps between sorted ranges, from `start` to the last code point. -/
def gaps : Nat → List (Nat × Nat) → List (Nat × Nat)
  | start, [] => if start ≤ lastCodePoint then [(start, lastCodePoint)] else []
  | start, (first, last) :: rest =>
    if start < first then (start, first - 1) :: gaps (last + 1) rest else gaps (last + 1) rest

def complement (set : CharSet) : CharSet := ofRanges (gaps 0 set.ranges.toList)

def singleton (c : Char) : CharSet := ofRanges [(c.toNat, c.toNat)]

def ofString (text : String) : CharSet :=
  ofRanges (text.toList.map fun c => (c.toNat, c.toNat))

def range (first last : Char) : CharSet := ofRanges [(first.toNat, last.toNat)]

instance : Union CharSet := ⟨union⟩

end CharSet

end SourceIndex
