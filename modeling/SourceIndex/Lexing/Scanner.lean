import SourceIndex.Text.Source

set_option autoImplicit false

namespace SourceIndex

/-- What a scanner remembers after a token. -/
abbrev ScanState := List Nat

/-- A token that a scanner found: its number among the external tokens, its first and last
offset, and what to remember. -/
structure Scanned where
  symbol : Nat
  first : Nat
  last : Nat
  state : ScanState := []
deriving Inhabited

/-- A scanner looks for one of the valid tokens at an offset. -/
abbrev Scanner := Source → (Nat → Bool) → ScanState → Nat → Option Scanned

namespace Scanner

def none : Scanner := fun _ _ _ _ => Option.none

end Scanner

end SourceIndex
