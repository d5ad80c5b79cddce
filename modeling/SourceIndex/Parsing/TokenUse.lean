import SourceIndex.Lexing.Rivalry
import SourceIndex.Parsing.StateGraph

set_option autoImplicit false

namespace SourceIndex

structure TokenUse where
  tables : Tables
  rivals : Rivals
  /-- For each token, the tokens that are valid somewhere beside it. -/
  beside : Array Nat
  /-- The same, where the word token is not valid. -/
  besideWithoutWord : Array Nat

namespace TokenUse

def ofValid (tables : Tables) (rivals : Rivals) (valid : Array Nat) : TokenUse :=
  let distinct := (valid.foldl (fun (found : Std.HashMap Nat Unit) set => found.insert set ())
    {}).toArray.map (·.1)
  let gather (sets : Array Nat) : Array Nat := sets.foldl (fun beside set =>
    (Tables.members tables.tokenCount set).foldl (fun beside token =>
      beside.modify token (· ||| set)) beside) (Array.replicate tables.tokenCount 0)
  { tables, rivals
    beside := gather distinct
    besideWithoutWord := match tables.word with
      | some word => gather (distinct.filter fun set => !set.testBit word)
      | none => #[] }

def lexicalTokens (use : TokenUse) : List Nat :=
  Tables.members use.tables.tokenCount use.tables.lexical

def letters : CharSet := .range 'a' 'z' ∪ .range 'A' 'Z' ∪ .singleton '_'

def startsWithLetter (use : TokenUse) (token : Nat) : Bool :=
  (use.tables.lexicon.starts.getD token #[]).all fun place =>
    match use.tables.lexicon.places[place]? with
    | some (.read reading) => (reading.set ∪ letters).ranges == letters.ranges
    | _ => true

/-- The tokens that match nothing but what the word token also matches, and are preferred. -/
def keywordCandidates (use : TokenUse) (word : Nat) : List Nat :=
  use.lexicalTokens.filter fun token =>
    let rivalry := use.rivals.rivalry token word
    rivalry.sameText && !rivalry.otherText && use.startsWithLetter token

/-- The candidates that no other candidate takes a text from and for which the word token can
stand: other tokens that come beside a keyword get in the way of both alike. -/
def keywords (use : TokenUse) : List Nat :=
  match use.tables.word with
  | none => []
  | some word =>
    let candidates := use.keywordCandidates word
    let unshadowed := candidates.filter fun token =>
      candidates.all fun other => other == token || !(use.rivals.rivalry other token).sameText
    unshadowed.filter fun token =>
      use.lexicalTokens.all fun other =>
        candidates.contains other ||
          !(use.besideWithoutWord.getD token 0).testBit other ||
          use.rivals.rivalry token other == use.rivals.rivalry word other

def meet (use : TokenUse) (token other : Nat) : Bool := (use.beside.getD token 0).testBit other

/-- The tokens that mislead to no token that they are never valid beside. -/
def plainTokens (use : TokenUse) : List Nat :=
  let all := use.lexicalTokens
  all.filter fun token =>
    !all.any fun other =>
      other != token && !use.meet token other && use.rivals.misleads token other

/-- The tokens that are looked for while text is skipped: all but those that would hide a plain
token which never comes beside them. -/
def recovery (use : TokenUse) (keywords : List Nat) : Nat :=
  let plain := use.plainTokens
  let lexical := use.lexicalTokens.filter fun token =>
    plain.contains token || keywords.contains token || use.tables.word == some token ||
      plain.all fun other =>
        use.meet token other || !(use.rivals.hinders token).testBit other
  lexical.foldl (fun set token => set ||| Tables.bit token) (use.tables.externalOnly ||| 1)

end TokenUse

end SourceIndex
