import Mathlib.Data.List.Forall2
import SourceIndex.Proofs.Extraction.Numbering
import SourceIndex.Proofs.Text.Slices
import SourceIndex.Proofs.Text.Trimming

set_option autoImplicit false

namespace SourceIndex.Extraction

open Text (utf8 sliceBytes? isBlank IsTrimmed IsBare)

/-- Whether a declaration cuts something out of the text that is not blank. -/
def showsText (text : List Char) (declaration : Declaration) : Bool :=
  (sliceBytes? text declaration.first declaration.last).any fun code => !code.all isBlank

/-- The symbol of the chunk that is made for the declaration with the number `index`. -/
inductive NamedBy (text : List Char) (declaration : Declaration) (index : Nat) : String → Prop where
  /-- The name that is declared, without the blanks around it. -/
  | declared {first last : Nat} {words : List Char} {name : String}
      (range : declaration.symbol = some (first, last))
      (cut : sliceBytes? text first last = some words) (trimmed : IsTrimmed words name.toList)
      (some : name ≠ "") : NamedBy text declaration index name
  /-- No name is declared, none is cut out of the text, or it is blank. -/
  | anonymous
      (unnamed : ∀ first last words, declaration.symbol = some (first, last) →
        sliceBytes? text first last = some words → ∀ c ∈ words, isBlank c = true) :
      NamedBy text declaration index ("anonymous_" ++ toString index)

/-- What is in the chunk that is made for the declaration with the number `index`. -/
structure MadeFor (language : Language) (path : String) (text : List Char)
    (declaration : Declaration) (index : Nat) (chunk : Chunk) : Prop
    extends CutFor path text declaration index chunk where
  /-- The number is read back from the id. Numbers of declarations fit a word. -/
  number : index < wordBound → chunk.number? = some index
  kind : chunk.kind = declaration.kind
  language : chunk.language = some language.id
  origin : chunk.origin = some .syntaxTree
  /-- The code is what the text as it was has between the offsets of the declaration. -/
  bytes : utf8 chunk.code.toList =
    ((utf8 text).drop declaration.first).take (declaration.last - declaration.first)
  shown : ∃ c ∈ chunk.code.toList, isBlank c = false
  named : NamedBy text declaration index chunk.symbol
  symbol : chunk.symbol ≠ "" ∧ IsBare chunk.symbol.toList

/-- How the chunks of a text were chosen and counted. -/
structure Selects (language : Language) (path : String) (text : List Char)
    (found : List Declaration) (extraction : Extraction) : Prop where
  /-- Declarations are numbered first; then those are left out that show nothing, and one chunk is
  made for each of the others, in order. -/
  made : List.Forall₂
    (fun numbered chunk => MadeFor language path text numbered.1 numbered.2 chunk)
    (found.zipIdx.filter fun numbered => showsText text numbered.1) extraction.chunks
  counted : extraction.chunks.length + extraction.dropped = found.length
  rising : extraction.chunks.Pairwise Chunk.Precedes
  distinct : (extraction.chunks.map Chunk.id).Nodup

theorem isBlank_of_isDigit {c : Char} (digit : c.isDigit) : isBlank c = false := by
  have range := Char.isDigit_iff_toNat.mp digit
  have low : 48 ≤ c.toNat := range.1
  have high : c.toNat ≤ 57 := range.2
  simp only [isBlank, Bool.or_eq_false_iff, Bool.and_eq_false_iff, decide_eq_false_iff_not,
    beq_eq_false_iff_ne]
  omega

theorem isBare_anonymous (index : Nat) : IsBare ("anonymous_" ++ toString index).toList := by
  rw [String.toList_append, Nat.toString_eq_repr, Nat.toList_repr]
  constructor
  · rintro c ⟨⟩
    decide
  · intro c last
    rw [List.getLast?_append_of_ne_nil _ Nat.toDigits_ne_nil] at last
    exact isBlank_of_isDigit (isDigit_of_mem_toDigits (List.mem_of_mem_getLast? last))

variable {language : Language} {path : String} {text : List Char} {declaration : Declaration}
  {index : Nat}

/-- A symbol is never empty, and no blank stands at an end of it. -/
theorem NamedBy.isBare {symbol : String} (named : NamedBy text declaration index symbol) :
    symbol ≠ "" ∧ IsBare symbol.toList := by
  cases named with
  | declared range cut trimmed some => exact ⟨some, trimmed.1⟩
  | anonymous unnamed =>
      refine ⟨?_, isBare_anonymous index⟩
      intro empty
      exact absurd (String.append_eq_empty_iff.mp empty).1 (by decide)

theorem namedBy_symbolOf? (text : List Char) (declaration : Declaration) (index : Nat) :
    NamedBy text declaration index
      (match symbolOf? text declaration with
      | some name => String.ofList name
      | none => "anonymous_" ++ toString index) := by
  cases found : symbolOf? text declaration with
  | some name =>
      simp only [symbolOf?, Option.filter_eq_some_iff, Option.map_eq_some_iff,
        Option.bind_eq_some_iff] at found
      obtain ⟨⟨words, ⟨range, declared, cut⟩, rfl⟩, some⟩ := found
      refine .declared declared cut ?_ ?_
      · rw [String.toList_ofList, Text.isTrimmed_iff]
      · rw [ne_eq, String.ofList_eq_empty_iff]
        simpa only [Bool.not_eq_true', List.isEmpty_eq_false_iff] using some
  | none =>
      refine .anonymous ?_
      intro first last words declared cut
      simp only [symbolOf?, declared, Option.bind_some, cut, Option.map_some] at found
      have empty := Option.filter_eq_none_iff.mp found _ rfl
      rw [Bool.not_eq_true', Bool.not_eq_false, List.isEmpty_iff] at empty
      exact (Text.trim_eq_nil_iff words).mp empty

theorem isSome_chunk? (text : List Char) (declaration : Declaration) (index : Nat) :
    (chunk? language path text declaration index).isSome = showsText text declaration := by
  rw [chunk?, showsText]
  cases sliceBytes? text declaration.first declaration.last with
  | none => rfl
  | some code =>
      rw [Option.bind_eq_bind, Option.bind_some, Option.any_some]
      cases code.all isBlank <;> rfl

theorem madeFor_of_chunk? {chunk : Chunk}
    (cut : chunk? language path text declaration index = some chunk) :
    MadeFor language path text declaration index chunk := by
  have base := cutFor_of_chunk? cut
  rw [chunk?, Option.bind_eq_bind, Option.bind_eq_some_iff] at cut
  obtain ⟨code, sliced, made⟩ := cut
  split at made
  · cases made
  · rename_i visible
    cases made
    have named := namedBy_symbolOf? text declaration index
    refine ⟨base, fun fits => Chunk.number?_of_id base.id fits, rfl, rfl, rfl,
      Text.utf8_of_sliceBytes? base.code, ?_, named, named.isBare⟩
    rw [String.toList_ofList]
    simpa only [List.all_eq_true, not_forall, exists_prop, Bool.not_eq_true] using visible

theorem forall₂_filterMap {α β : Type} {related : α → β → Prop} {choose : α → Option β}
    {keeps : α → Bool} (kept : ∀ item, (choose item).isSome = keeps item)
    (fits : ∀ item value, choose item = some value → related item value) (items : List α) :
    List.Forall₂ related (items.filter keeps) (items.filterMap choose) := by
  induction items with
  | nil => exact .nil
  | cons item items ih =>
      have here := kept item
      cases chosen : choose item with
      | none =>
          rw [chosen, Option.isSome_none] at here
          rw [List.filter_cons_of_neg (by rw [← here]; decide), List.filterMap_cons_none chosen]
          exact ih
      | some value =>
          rw [chosen, Option.isSome_some] at here
          rw [List.filter_cons_of_pos here.symm, List.filterMap_cons_some chosen]
          exact .cons (fits item value chosen) ih

theorem selects_ofDeclarations (language : Language) (path : String) (text : List Char)
    (found : List Declaration) :
    Selects language path text found (ofDeclarations language path text found) := by
  have rising := (numbered_ofDeclarations language path text found).rising
  refine ⟨?_, ?_, rising, ?_⟩
  · exact forall₂_filterMap (fun _ => isSome_chunk? _ _ _) (fun _ _ cut => madeFor_of_chunk? cut) _
  · have fewer : (ofDeclarations language path text found).chunks.length ≤ found.length := by
      rw [ofDeclarations, ← found.length_zipIdx]
      exact List.length_filterMap_le _ _
    exact Nat.add_sub_cancel' fewer
  · rw [List.nodup_iff_pairwise_ne, List.pairwise_map]
    exact rising.imp Chunk.Precedes.id_ne

/-- The chunks of a text are those of the declarations that the parser finds in the sanitized text,
whatever it finds there; and the chunks alone are the same. -/
theorem ofText_selects (language : Language) (path : String) (text : List Char) :
    (∀ found, Selects language path text found (ofDeclarations language path text found)) ∧
      ∀ (parse : Language → List Char → Node) (tolerant : Bool),
        ofText parse language tolerant path text =
            (declarations language tolerant
              (parse language (LineEnds.sanitize language text))).map
              (ofDeclarations language path text) ∧
          chunksOfText parse language tolerant path text =
            (ofText parse language tolerant path text).map Extraction.chunks := by
  refine ⟨selects_ofDeclarations language path text, fun parse tolerant => ⟨?_, rfl⟩⟩
  rw [ofText]
  cases declarations language tolerant (parse language (LineEnds.sanitize language text)) <;> rfl

-- The first of the three begins within a character, the second is blank, and so is the name of the
-- third.
example : (ofDeclarations .rust "a.rs" "é  f( )".toList
    [⟨"item", 1, 2, 1, 1, none⟩, ⟨"item", 2, 4, 1, 1, none⟩,
      ⟨"item", 4, 8, 1, 1, some (6, 7)⟩]).chunks.map
      (fun chunk => (chunk.id, chunk.code, chunk.symbol)) =
    [("chunk_2", "f( )", "anonymous_2")] := by
  decide +kernel

end SourceIndex.Extraction
