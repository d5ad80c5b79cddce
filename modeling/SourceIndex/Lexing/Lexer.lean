import SourceIndex.Lexing.TokenAutomaton
import SourceIndex.Text.Source

set_option autoImplicit false

namespace SourceIndex.Lexer

/-- Where reading stands: tokens that may still start after separators, tokens that may start
right here, and places inside tokens. -/
structure Front where
  pending : Nat
  starting : Nat
  places : Array Nat

inductive Outcome where
  | token (index : Nat) (first last : Nat)
  | endOfText (offset : Nat)
  /-- No token: where it would have started, and where reading stopped. -/
  | failure (first stop : Nat)
deriving Inhabited

/-- The better of two completed tokens, one of which may be missing. -/
def better (lexicon : TokenAutomaton) (best : Option Nat) (token : Nat) : Option Nat :=
  match best with
  | some other => if lexicon.prefers other token then best else some token
  | none => some token

def completed (lexicon : TokenAutomaton) (front : Front) : Option Nat :=
  let empty := lexicon.nullable.foldl (fun best token =>
    if front.starting.testBit token then better lexicon best token else best) none
  front.places.foldl (fun best (place : Nat) =>
    match lexicon.places[place]? with
    | some (.complete token) => better lexicon best token
    | _ => best) empty

def insertPlace (places : Array Nat) (place : Nat) : Array Nat :=
  if places.contains place then places else places.push place

/-- The places reached over a character, with the highest level among the moves. -/
structure Reached where
  places : Array Nat := #[]
  level : Option Int := none

def Reached.add (reached : Reached) (reading : Reading) : Reached :=
  { places := reading.next.foldl insertPlace reached.places
    level := match reached.level with
      | some level => some (max level reading.level)
      | none => some reading.level }

def readPlaces (lexicon : TokenAutomaton) (code : Nat) (places : Array Nat)
    (reached : Reached) : Reached :=
  places.foldl (fun reached (place : Nat) =>
    match lexicon.places[place]? with
    | some (.read reading) => if reading.set.contains code then reached.add reading else reached
    | _ => reached) reached

def startersAt (lexicon : TokenAutomaton) (code set : Nat) : Nat :=
  set &&& (if code < 128 then lexicon.starters.getD code 0 else lexicon.wideStarters)

def readStarts (lexicon : TokenAutomaton) (code : Nat) : Nat → Nat → Reached → Reached
  | 0, _, reached => reached
  | fuel + 1, set, reached =>
    if set == 0 then reached
    else
      let token := set.log2
      readStarts lexicon code fuel (set ^^^ (1 <<< token))
        (readPlaces lexicon code (lexicon.starts.getD token #[]) reached)

/-- Reads on from `offset`. `first` is where the token starts, `best` the last token completed;
the end of the text counts as a token as long as only separators were read. -/
def scan (lexicon : TokenAutomaton) (source : Source) (endWanted : Bool) :
    Nat → Front → Nat → Nat → Option (Nat × Nat) → Outcome
  | 0, _, first, offset, _ => .failure first offset
  | fuel + 1, front, first, offset, best =>
    let done := completed lexicon front
    let best := match done with
      | some token => some (token, offset)
      | none => best
    let finish : Outcome := match best with
      | some (token, last) => .token token first last
      | none => .failure first offset
    if source.atEnd offset && endWanted then .endOfText first
    else
      let (code, length) := source.decode offset
      let reached := readStarts lexicon code (lexicon.tokens.size + 1)
        (startersAt lexicon code front.starting) {}
      let reached := readPlaces lexicon code front.places reached
      let separates := front.pending != 0 && length != 0 && lexicon.separators.contains code
      let onlySeparates := separates && reached.level.isNone
      if reached.level.isNone && !separates then finish
      else
        let level := match reached.level with
          | some level => if separates then max level 0 else level
          | none => 0
        let after : Front :=
          { pending := if separates then front.pending else 0
            starting := if separates then front.pending else 0
            places := reached.places }
        let allowed := match done with
          | none => true
          | some token =>
            let doneLevel := (lexicon.tokens[token]?.map (·.level)).getD 0
            if level < doneLevel then false
            else if level == doneLevel then
              if onlySeparates then false
              else if front.pending != 0 &&
                  !(after.starting.testBit token ||
                    after.places.any fun place => lexicon.owners.getD place 0 == token) then
                false
              else true
            else true
        if !allowed then finish
        else if length == 0 then
          -- only a token spelled by the null character can be met at the end
          match completed lexicon after with
          | some token => .token token first offset
          | none => finish
        else
          let first := if onlySeparates then offset + length else first
          scan lexicon source (endWanted && onlySeparates) fuel after first (offset + length) best

def next (lexicon : TokenAutomaton) (source : Source) (wanted : Nat) (endWanted : Bool)
    (offset : Nat) : Outcome :=
  let pending := wanted &&& (wanted ^^^ (wanted &&& lexicon.immediates))
  let front : Front := ⟨if lexicon.separators.isEmpty then 0 else pending, wanted, #[]⟩
  -- a byte order mark at the very start is skipped
  let (code, length) := source.decode offset
  let start := if offset == 0 && code == 0xFEFF then length else offset
  scan lexicon source endWanted (source.size + 2 - start) front start start none

end SourceIndex.Lexer
