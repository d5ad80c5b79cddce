import SourceIndex.Grammar.Rule

set_option autoImplicit false

namespace SourceIndex

/-- A place under construction; `split` leads on without reading. -/
inductive DraftPlace where
  | read (set : CharSet) (level : Int) (next : Nat)
  | split (first second : Nat)
  | complete (token : Nat)
deriving Inhabited

/-- A place that reads a character of `set` and moves to `next`. -/
structure Reading where
  set : CharSet
  level : Int
  next : Array Nat
deriving Inhabited

inductive Place where
  | read (reading : Reading)
  | complete (token : Nat)
deriving Inhabited

structure TokenAutomaton where
  tokens : Array Token
  /-- The order of the tokens in the grammar, which decides between equals. -/
  ranks : Array Nat
  places : Array Place
  /-- The token that each place belongs to. -/
  owners : Array Nat
  /-- Where each token starts. -/
  starts : Array (Array Nat)
  /-- For each character below 128, the set of tokens that can start with it. -/
  starters : Array Nat
  /-- The set of tokens that can start with some character from 128 on. -/
  wideStarters : Nat
  separators : CharSet
  /-- The tokens that admit no separator before them. -/
  immediates : Nat
  /-- The tokens that match the empty text. -/
  nullable : List Nat
deriving Inhabited

namespace TokenAutomaton

def push (place : DraftPlace) (drafts : Array DraftPlace) : Nat × Array DraftPlace :=
  (drafts.size, drafts.push place)

/-- Reads the characters in order, then goes on at `next`. -/
def draftText (level : Int) : List Char → Nat → Array DraftPlace → Nat × Array DraftPlace
  | [], next, drafts => (next, drafts)
  | c :: rest, next, drafts =>
    let (next, drafts) := draftText level rest next drafts
    push (.read (.singleton c) level next) drafts

mutual
/-- Adds places for a pattern that goes on at `next`, and gives the first of them. -/
def draft (level : Int) : Pattern → Nat → Array DraftPlace → Nat × Array DraftPlace
  | .chars set, next, drafts => push (.read set level next) drafts
  | .text text, next, drafts => draftText level text.toList next drafts
  | .seq parts, next, drafts => draftSeq level parts next drafts
  | .alt choices, next, drafts => draftAlt level choices next drafts
  | .opt part, next, drafts =>
    let (first, drafts) := draft level part next drafts
    push (.split first next) drafts
  | .many1 part, next, drafts =>
    let (again, drafts) := push (.split next next) drafts
    let (first, drafts) := draft level part again drafts
    (first, drafts.set! again (.split first next))
  | .ranked level part, next, drafts => draft level part next drafts

def draftSeq (level : Int) : List Pattern → Nat → Array DraftPlace → Nat × Array DraftPlace
  | [], next, drafts => (next, drafts)
  | part :: rest, next, drafts =>
    let (next, drafts) := draftSeq level rest next drafts
    draft level part next drafts

def draftAlt (level : Int) : List Pattern → Nat → Array DraftPlace → Nat × Array DraftPlace
  | [], next, drafts => (next, drafts)
  | [choice], next, drafts => draft level choice next drafts
  | choice :: rest, next, drafts =>
    let (first, drafts) := draft level choice next drafts
    let (second, drafts) := draftAlt level rest next drafts
    push (.split first second) drafts
end

/-- The places that read or complete and are reached from `pending` without reading. -/
def settle (drafts : Array DraftPlace) : Nat → List Nat → List Nat → List Nat → List Nat
  | 0, _, _, found => found
  | _, [], _, found => found
  | fuel + 1, place :: pending, seen, found =>
    if seen.contains place then settle drafts fuel pending seen found
    else match drafts[place]? with
      | some (.split first second) =>
        settle drafts fuel (first :: second :: pending) (place :: seen) found
      | _ => settle drafts fuel pending (place :: seen) (place :: found)

def settled (drafts : Array DraftPlace) (place : Nat) : Array Nat :=
  ((settle drafts (2 * drafts.size + 2) [place] [] []).mergeSort).toArray

/-- The tokens that have a starting place which reads a character that passes `test`. -/
def startersWhere (places : Array Place) (starts : Array (Array Nat)) (test : CharSet → Bool) :
    Nat :=
  starts.zipIdx.foldl (fun set (start, token) =>
    if start.any (fun place =>
        match places[place]? with
        | some (.read reading) => test reading.set
        | _ => false)
    then set ||| (1 <<< token) else set) 0

def ofTokens (tokens : Array Token) (ranks : Array Nat) (separators : CharSet) :
    TokenAutomaton :=
  let (firsts, drafts, owners) := tokens.zipIdx.foldl
    (fun (firsts, drafts, owners) (token, index) =>
    let (last, drafts) := push (.complete index) drafts
    let (first, drafts) := draft token.level token.pattern last drafts
    (firsts.push first, drafts,
      owners ++ Array.replicate (drafts.size - owners.size) index))
    ((#[] : Array Nat), (#[] : Array DraftPlace), (#[] : Array Nat))
  let places := drafts.map fun place =>
    match place with
    | .read set level next => .read ⟨set, level, settled drafts next⟩
    | .complete token => .complete token
    | .split _ _ => .read ⟨.empty, 0, #[]⟩
  let starts := firsts.map (settled drafts)
  { tokens, ranks, places, owners, starts, separators
    starters := (Array.range 128).map fun code =>
      startersWhere places starts fun set => set.contains code
    wideStarters := startersWhere places starts fun set =>
      set.ranges.any fun range => 128 ≤ range.2
    immediates := tokens.zipIdx.foldl
      (fun set (token, index) => if token.immediate then set ||| (1 <<< index) else set) 0
    nullable := (List.range starts.size).filter fun index =>
      (starts.getD index #[]).any fun place =>
        match places[place]? with
        | some (.complete _) => true
        | _ => false }

/-- Whether `a` is taken rather than `b` where both are complete: the token of higher level is, then
the more specific one, then the earlier one. -/
def prefers (lexicon : TokenAutomaton) (a b : Nat) : Bool :=
  match lexicon.tokens[a]?, lexicon.tokens[b]? with
  | some left, some right =>
    if left.level != right.level then right.level < left.level
    else if left.specificity != right.specificity then right.specificity < left.specificity
    else lexicon.ranks.getD a a < lexicon.ranks.getD b b
  | _, _ => true

end TokenAutomaton

end SourceIndex
