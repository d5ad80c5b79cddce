import SourceIndex.Text.CharSet
import Std.Data.HashMap

set_option autoImplicit false

namespace SourceIndex

/-- Class numbers for some sets of characters; each set is a natural number read as bits. -/
structure Alphabet where
  classes : Std.HashMap (Array (Nat × Nat)) Nat

namespace Alphabet

/-- The code points at which some of the ranges begin, or just after which they end, in order. -/
def borders (sets : Array CharSet) : Array Nat :=
  let all := sets.foldl (fun all set =>
    set.ranges.foldl (fun all range => range.1 :: (range.2 + 1) :: all) all) [0]
  ((all.mergeSort).foldl (fun found (border : Nat) =>
    if found.back? == some border then found else found.push border) #[])

/-- The place of `border` among the sorted `found`, by bisection of `[low, high)`. -/
def placeOf (found : Array Nat) (border : Nat) : Nat → Nat → Nat → Nat
  | 0, low, _ => low
  | fuel + 1, low, high =>
    if low < high then
      let middle := (low + high) / 2
      if found.getD middle 0 < border then placeOf found border fuel (middle + 1) high
      else placeOf found border fuel low middle
    else low

/-- Marks the stretches between borders that lie in a range with the bit `mark`. -/
def markRange (found : Array Nat) (mark : Nat) (marks : Array Nat) (range : Nat × Nat) :
    Array Nat :=
  let first := placeOf found range.1 (found.size + 1) 0 found.size
  let last := placeOf found (range.2 + 1) (found.size + 1) 0 found.size
  (List.range' first (last - first)).foldl (fun marks place =>
    marks.modify place (· ||| mark)) marks

def ofSets (sets : Array CharSet) : Alphabet :=
  let distinct := (sets.foldl (fun (found : Std.HashMap (Array (Nat × Nat)) CharSet) set =>
    found.insert set.ranges set) {}).toArray.map (·.2)
  let found := borders distinct
  let marks := distinct.zipIdx.foldl (fun marks (set, index) =>
    set.ranges.foldl (markRange found (1 <<< index)) marks) (Array.replicate found.size 0)
  -- stretches with the same marks are one class
  let numbers : Std.HashMap Nat Nat := marks.foldl (fun numbers mark =>
    numbers.insertIfNew mark numbers.size) {}
  let masks := numbers.fold (fun (masks : Array Nat) mark number =>
    (List.range distinct.size).foldl (fun masks index =>
      if mark.testBit index then masks.modify index (· ||| (1 <<< number)) else masks) masks)
    (Array.replicate distinct.size 0)
  { classes := (distinct.zip masks).foldl (fun classes (set, mask) =>
      classes.insert set.ranges mask) {} }

def classesOf (alphabet : Alphabet) (set : CharSet) : Nat :=
  alphabet.classes.getD set.ranges 0

end Alphabet

end SourceIndex
