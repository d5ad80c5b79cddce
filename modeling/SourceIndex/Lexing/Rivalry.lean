import SourceIndex.Lexing.Alphabet
import SourceIndex.Lexing.TokenAutomaton

/-
How tokens get in each other's way: where two of them may come, one can be found in place of the
other. Every pair of tokens is followed through the automaton as long as both can still match.
-/

set_option autoImplicit false

namespace SourceIndex

/-- How one token gets in the way of another. -/
structure Rivalry where
  /-- It is complete where the other could go on, and is taken then. -/
  endsFirst : Bool := false
  /-- It goes on where the other is complete. -/
  goesOn : Bool := false
  /-- It goes on so with a character that can also come after the other. -/
  goesAstray : Bool := false
  /-- It is complete where separators may go on. -/
  amongSeparators : Bool := false
  /-- It is preferred for a text that both match. -/
  sameText : Bool := false
  /-- It matches a text that the other does not match. -/
  otherText : Bool := false
deriving BEq, DecidableEq, Inhabited

/-- The rivalry of two tokens, seen from each. -/
structure Duel where
  first : Rivalry := {}
  second : Rivalry := {}
deriving Inhabited

/-- For each token, the sets of tokens that it gets in the way of. -/
structure Rivals where
  endsFirst : Array Nat
  goesOn : Array Nat
  goesAstray : Array Nat
  amongSeparators : Array Nat
  sameText : Array Nat
  otherText : Array Nat
deriving Inhabited

namespace Rivals

/-- A place of a token: what it reads and where that leads. The separators before a token are a
place too. -/
structure Spot where
  token : Nat
  chars : Nat := 0
  next : List Nat := []
  level : Int := 0
  separates : Bool := false
  completes : Bool := false
deriving Inhabited

structure Arena where
  lexicon : TokenAutomaton
  spots : Array Spot
  /-- The spots at which each token starts. -/
  starts : Array (List Nat)
  /-- The characters that can come after each token. -/
  after : Array Nat

/-- Reading a character of `chars` leads to the spots `next`. -/
structure Stride where
  chars : Nat
  next : List Nat
  level : Int
  separates : Bool

def insertSpot (spot : Nat) : List Nat → List Nat
  | [] => [spot]
  | other :: rest =>
    if spot < other then spot :: other :: rest
    else if spot == other then other :: rest
    else other :: insertSpot spot rest

def unite (spots others : List Nat) : List Nat :=
  others.foldl (fun all spot => insertSpot spot all) spots

/-- Adds what one spot reads to the strides so far, which are split where they read part of it. -/
def addStride (added : Stride) : List Stride → List Stride
  | [] => if added.chars == 0 then [] else [added]
  | stride :: rest =>
    let both := stride.chars &&& added.chars
    if both == 0 then stride :: addStride added rest
    else
      let joint : Stride :=
        { chars := both
          next := unite stride.next added.next
          level := max stride.level added.level
          separates := stride.separates && added.separates }
      let others := addStride { added with chars := added.chars ^^^ both } rest
      if stride.chars == both then joint :: others
      else { stride with chars := stride.chars ^^^ both } :: joint :: others

def stridesFrom (arena : Arena) (spots : List Nat) : List Stride :=
  spots.foldl (fun strides index =>
    let spot := arena.spots.getD index default
    if spot.chars == 0 then strides
    else addStride ⟨spot.chars, spot.next, spot.level, spot.separates⟩ strides) []

def tokenAt (arena : Arena) (index : Nat) : Nat := (arena.spots.getD index default).token

def Duel.note (duel : Duel) (onFirst : Bool) (change : Rivalry → Rivalry) : Duel :=
  if onFirst then { duel with first := change duel.first }
  else { duel with second := change duel.second }

def noteCompleted (arena : Arena) (first second : Nat) (withinSeparators : Bool)
    (spots : List Nat) (duel : Duel) : Option Nat × Duel :=
  let isComplete (token : Nat) : Bool := spots.any fun index =>
    let spot := arena.spots.getD index default
    spot.completes && spot.token == token
  let one := isComplete first
  let other := isComplete second
  let duel := if one && withinSeparators then
      Duel.note duel true fun rivalry => { rivalry with amongSeparators := true }
    else duel
  let duel := if other && withinSeparators then
      Duel.note duel false fun rivalry => { rivalry with amongSeparators := true }
    else duel
  if one && other then
    let firstPreferred := arena.lexicon.prefers first second
    (some (if firstPreferred then first else second),
      Duel.note duel firstPreferred fun rivalry => { rivalry with sameText := true })
  else if one then (some first, duel)
  else if other then (some second, duel)
  else (none, duel)

/-- Looks at a stride from where a token is complete: the other token may go on. -/
def noteStride (arena : Arena) (first second : Nat) (withinSeparators : Bool)
    (completed : Nat) (stride : Stride) (duel : Duel) : Duel :=
  if stride.next.any fun index => tokenAt arena index == completed then duel
  else
    let level := ((arena.lexicon.tokens[completed]?).map (·.level)).getD 0
    let preferred :=
      if stride.level < level then false
      else if stride.level == level then !stride.separates && !withinSeparators
      else true
    if preferred then
      let after := arena.after.getD completed 0
      Duel.note duel (completed == second) fun rivalry =>
        { rivalry with
          goesOn := true, goesAstray := rivalry.goesAstray || stride.chars &&& after != 0 }
    else Duel.note duel (completed == first) fun rivalry => { rivalry with endsFirst := true }

/-- Follows two tokens from sets of spots, each set once. -/
def follow (arena : Arena) (first second : Nat) :
    Nat → List (List Nat) → List (List Nat) → Duel → Duel
  | 0, _, _, duel => duel
  | _, [], _, duel => duel
  | fuel + 1, spots :: pending, seen, duel =>
    let live (token : Nat) : Bool := spots.any fun index => tokenAt arena index == token
    if !live second then
      follow arena first second fuel pending seen
        (Duel.note duel true fun rivalry => { rivalry with otherText := true })
    else if !live first then
      follow arena first second fuel pending seen
        (Duel.note duel false fun rivalry => { rivalry with otherText := true })
    else
      let withinSeparators := spots.any fun index => (arena.spots.getD index default).separates
      let (completed, duel) := noteCompleted arena first second withinSeparators spots duel
      let strides := stridesFrom arena spots
      let duel := match completed with
        | some token => strides.foldl (fun duel stride =>
            noteStride arena first second withinSeparators token stride duel) duel
        | none => duel
      let (pending, seen) := strides.foldl (fun (pending, seen) stride =>
        if seen.contains stride.next then (pending, seen)
        else (stride.next :: pending, stride.next :: seen)) (pending, seen)
      follow arena first second fuel pending seen duel

def duelOf (arena : Arena) (first second : Nat) : Duel :=
  let start := unite (arena.starts.getD first []) (arena.starts.getD second [])
  follow arena first second 10000 [start] [] {}

/-- `following` gives, for each token, the tokens that can come right after it. -/
def arenaOf (lexicon : TokenAutomaton) (following : Array Nat) : Arena :=
  let sets := lexicon.places.foldl (fun sets place =>
    match place with
    | .read reading => sets.push reading.set
    | .complete _ => sets) #[lexicon.separators]
  let alphabet := Alphabet.ofSets sets
  let placeCount := lexicon.places.size
  let inner := lexicon.places.zipIdx.map fun (place, index) =>
    let token := lexicon.owners.getD index 0
    match place with
    | .read reading =>
      { token, chars := alphabet.classesOf reading.set, next := reading.next.toList
        level := reading.level : Spot }
    | .complete token => { token, completes := true }
  let separators := alphabet.classesOf lexicon.separators
  let outer := lexicon.starts.zipIdx.map fun (start, token) =>
    { token, chars := separators, next := insertSpot (placeCount + token) start.toList
      separates := true : Spot }
  let spots := inner ++ outer
  let starts := lexicon.starts.zipIdx.map fun (start, token) =>
    if lexicon.separators.isEmpty || lexicon.immediates.testBit token then start.toList
    else insertSpot (placeCount + token) start.toList
  let startChars := starts.map fun start =>
    start.foldl (fun chars index => chars ||| (spots.getD index default).chars) 0
  { lexicon, spots, starts
    after := following.map fun tokens =>
      (List.range startChars.size).foldl (fun chars token =>
        if tokens.testBit token then chars ||| startChars.getD token 0 else chars) 0 }

def ofLexicon (lexicon : TokenAutomaton) (following : Array Nat) : Rivals :=
  let arena := arenaOf lexicon following
  let count := lexicon.tokens.size
  let none := Array.replicate count 0
  (List.range' 1 (count - 1)).foldl (fun rivals first =>
    (List.range' 1 (first - 1)).foldl (fun rivals second =>
      let duel := duelOf arena first second
      let mark (sets : Array Nat) (of : Rivalry → Bool) : Array Nat :=
        let sets := if of duel.first then sets.modify first (· ||| (1 <<< second)) else sets
        if of duel.second then sets.modify second (· ||| (1 <<< first)) else sets
      { endsFirst := mark rivals.endsFirst (·.endsFirst)
        goesOn := mark rivals.goesOn (·.goesOn)
        goesAstray := mark rivals.goesAstray (·.goesAstray)
        amongSeparators := mark rivals.amongSeparators (·.amongSeparators)
        sameText := mark rivals.sameText (·.sameText)
        otherText := mark rivals.otherText (·.otherText) }) rivals)
    ⟨none, none, none, none, none, none⟩

/-- Where `token` may come, one of these may be missed for it. -/
def hinders (rivals : Rivals) (token : Nat) : Nat :=
  rivals.goesAstray.getD token 0 ||| rivals.amongSeparators.getD token 0 |||
    rivals.sameText.getD token 0

/-- The tokens that share some text, or the beginning of one, with `token` and yield to it. -/
def overlaps (rivals : Rivals) (token : Nat) : Nat :=
  rivals.amongSeparators.getD token 0 ||| rivals.endsFirst.getD token 0 |||
    rivals.sameText.getD token 0 ||| rivals.goesOn.getD token 0

/-- Whether `token` can be found shorter or longer than `other` where the other is meant. -/
def misleads (rivals : Rivals) (token other : Nat) : Bool :=
  (rivals.goesAstray.getD token 0 ||| rivals.amongSeparators.getD token 0).testBit other &&
    !((rivals.amongSeparators.getD other 0).testBit token)

def rivalry (rivals : Rivals) (token other : Nat) : Rivalry :=
  { endsFirst := (rivals.endsFirst.getD token 0).testBit other
    goesOn := (rivals.goesOn.getD token 0).testBit other
    goesAstray := (rivals.goesAstray.getD token 0).testBit other
    amongSeparators := (rivals.amongSeparators.getD token 0).testBit other
    sameText := (rivals.sameText.getD token 0).testBit other
    otherText := (rivals.otherText.getD token 0).testBit other }

end Rivals

end SourceIndex
