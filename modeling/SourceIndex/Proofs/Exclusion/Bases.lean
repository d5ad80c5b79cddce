import Mathlib.Data.List.TakeWhile
import SourceIndex.Exclusion
import SourceIndex.Language
import SourceIndex.Proofs.Text.DecodedLines
import SourceIndex.Proofs.Text.Joints

/-
Paths below a base, which is the path of a root with a slash after it. The rules and the languages
judge such a path by what follows the base, but for the fragments that the base itself has, and for
names of backslashes alone.
-/

set_option autoImplicit false

namespace SourceIndex

namespace Text

theorem single_slash : Single '/' PathName.slash := ⟨by decide, rfl⟩

theorem single_backslash : Single '\\' 0x5C := ⟨by decide, rfl⟩

end Text

namespace PathName

/-- The path of a root as it stands before the names below it. -/
def base (root : PathName) : PathName := join root []

/-- Whether bytes can be the name of an entry: there is no slash among them, and they stand neither
for the directory that it lies in nor for the one above. -/
def isName (name : PathName) : Bool :=
  !name.isEmpty && !name.contains slash && name != [dot] && name != [dot, dot]

def Closed (path : PathName) : Prop := ∃ front, path = front ++ [slash]

theorem base_eq (root : PathName) : base root =
    if root.isEmpty || root.getLast? == some slash then root else root ++ [slash] := by
  have relative : isAbsolute [] = false := rfl
  simp only [base, join, relative, Bool.false_eq_true, ↓reduceIte, List.append_nil]

theorem join_eq_base (root name : PathName) (relative : isAbsolute name = false) :
    join root name = base root ++ name := by
  simp only [base_eq, join, relative, Bool.false_eq_true, ↓reduceIte]
  split
  · rfl
  · rw [List.append_assoc, List.singleton_append]

theorem closed_base (root : PathName) (given : root ≠ []) : Closed (base root) := by
  rw [base_eq]
  split
  · rename_i ended
    rw [Bool.or_eq_true, List.isEmpty_iff, beq_iff_eq, List.getLast?_eq_some_iff] at ended
    exact ended.resolve_left given
  · exact ⟨root, rfl⟩

theorem join_under {base : PathName} (closed : Closed base) (path name : PathName)
    (relative : isAbsolute name = false) : join (base ++ path) name = base ++ join path name := by
  obtain ⟨front, rfl⟩ := closed
  by_cases none : path = []
  · simp [join, relative, none]
  · have last : (front ++ [slash] ++ path).getLast? = path.getLast? := by
      rw [List.getLast?_append, List.getLast?_eq_some_getLast none, Option.some_or]
    have first : (front ++ [slash] ++ path).isEmpty = false := by simp
    have second : path.isEmpty = false := List.isEmpty_eq_false_iff.mpr none
    simp only [join, relative, last, first, second, Bool.false_or, Bool.false_eq_true, ↓reduceIte]
    split <;> simp only [List.append_assoc]

/-- What is shown of a path below a base is what is shown of the base, and then of the rest. -/
theorem decodeLossy_under {base : PathName} (closed : Closed base) (path : PathName) :
    Text.decodeLossy (base ++ path) = Text.decodeLossy base ++ Text.decodeLossy path := by
  obtain ⟨front, rfl⟩ := closed
  have none : Text.decodeLossy [] = [] := rfl
  rw [List.append_assoc, List.singleton_append, Text.decodeLossy_joint Text.single_slash,
    Text.decodeLossy_joint Text.single_slash, none, List.append_assoc, List.singleton_append]

theorem display_under {base : PathName} (closed : Closed base) (path : PathName) :
    display (base ++ path) = display base ++ display path := by
  rw [display, decodeLossy_under closed, String.ofList_append, display, display]

theorem normalized_under {base : PathName} (closed : Closed base) (path : PathName) :
    normalized (base ++ path) = normalized base ++ normalized path := by
  simp only [normalized, decodeLossy_under closed, List.map_append]

theorem normalized_closed {base : PathName} (closed : Closed base) :
    ∃ front, normalized base = front ++ ['/'] := by
  obtain ⟨front, rfl⟩ := closed
  exact ⟨_, by rw [normalized, Text.decodeLossy_joint Text.single_slash, List.map_append]; rfl⟩

theorem segments_under {base : PathName} (closed : Closed base) (path : PathName) :
    segments (base ++ path) = segments base ++ segments path := by
  obtain ⟨front, rfl⟩ := closed
  have none : Text.pieces slash [] = [[]] := rfl
  simp only [segments, List.append_assoc, List.singleton_append, Text.pieces_joint,
    List.filter_append, none]
  rfl

theorem isName_iff (name : PathName) : isName name = true ↔
    name ≠ [] ∧ slash ∉ name ∧ name ≠ [dot] ∧ name ≠ [dot, dot] := by
  simp only [isName, Bool.and_eq_true, Bool.not_eq_true', List.contains_eq_mem,
    decide_eq_false_iff_not, bne_iff_ne, List.isEmpty_eq_false_iff, and_assoc, ne_eq]

theorem not_mem_of_isName {name : PathName} (named : isName name = true) : slash ∉ name :=
  ((isName_iff name).mp named).2.1

theorem relative_of_isName {name : PathName} (named : isName name = true) :
    isAbsolute name = false := by
  rw [isAbsolute, beq_eq_false_iff_ne]
  intro absolute
  exact not_mem_of_isName named (List.mem_of_mem_head? absolute)

theorem segments_of_isName {name : PathName} (named : isName name = true) :
    segments name = [name] := by
  obtain ⟨some, whole, other, -⟩ := (isName_iff name).mp named
  have kept : (!name.isEmpty && name != [dot]) = true := by
    simp only [Bool.and_eq_true, Bool.not_eq_true', List.isEmpty_eq_false_iff, bne_iff_ne]
    exact ⟨some, other⟩
  rw [segments, Text.pieces_of_not_mem slash _ whole]
  simp only [List.filter_cons, kept, ↓reduceIte, List.filter_nil]

theorem segments_base (path : PathName) : segments (base path) = segments path := by
  rw [base_eq]
  split
  · rfl
  · have bare : Text.pieces slash [] = [[]] := rfl
    rw [segments, Text.pieces_joint, bare, List.filter_append, segments]
    exact List.append_nil _

/-- The path of an entry has one segment more than that of the directory, its name. -/
theorem segments_join (path name : PathName) (named : isName name = true) :
    segments (join path name) = segments path ++ [name] := by
  rw [join_eq_base path name (relative_of_isName named)]
  by_cases none : path = []
  · subst none
    exact segments_of_isName named
  · rw [segments_under (closed_base path none), segments_base, segments_of_isName named]

theorem fileName?_under {base : PathName} (closed : Closed base) (path : PathName)
    (some : segments path ≠ []) : fileName? (base ++ path) = fileName? path := by
  have last : (segments (base ++ path)).getLast? = (segments path).getLast? := by
    rw [segments_under closed, List.getLast?_append, List.getLast?_eq_some_getLast some,
      Option.some_or]
  rw [fileName?, last, fileName?]

theorem extension?_under {base : PathName} (closed : Closed base) (path : PathName)
    (some : segments path ≠ []) : extension? (base ++ path) = extension? path := by
  rw [extension?, fileName?_under closed path some, extension?]

end PathName

theorem Language.ofPath?_under {base : PathName} (closed : PathName.Closed base) (path : PathName)
    (some : PathName.segments path ≠ []) : ofPath? (base ++ path) = ofPath? path := by
  rw [ofPath?, PathName.extension?_under closed path some, ofPath?]

namespace Exclusion

open PathName (Closed normalized)

/-- Whether the base itself has one of the fragments that exclude a file. -/
def marks (base : PathName) : Bool :=
  fragments.any fun fragment => Text.hasInfix fragment.toList (normalized base)

theorem skipsFile_iff (path : PathName) : skipsFile path = true ↔
    (∃ fragment ∈ fragments, fragment.toList <:+: normalized path) ∨
    (∃ ending ∈ endings, ending.toList <:+ normalized path) ∨
    ∃ ending ∈ nameEndings,
      ending.toList <:+ (Text.lastPiece '/' (normalized path)).map Char.toLower := by
  simp only [skipsFile, Bool.or_eq_true, List.any_eq_true, Text.hasInfix_iff,
    List.isSuffixOf_iff_suffix, or_assoc]

theorem fragments_clear : ∀ fragment ∈ fragments, '/' ∉ fragment.toList.tail.dropLast := by
  decide

theorem endings_clear : ∀ ending ∈ endings, '/' ∉ ending.toList := by
  decide

/-- A file is left out if the base has a fragment, or if what follows the slash is left out. -/
theorem skipsFile_under {base : PathName} (closed : Closed base) (path : PathName) :
    skipsFile (base ++ path) = (marks base || skipsFile (PathName.slash :: path)) := by
  obtain ⟨front, ended⟩ := PathName.normalized_closed closed
  have whole : normalized (base ++ path) = front ++ '/' :: normalized path := by
    rw [PathName.normalized_under closed, ended, List.append_assoc, List.singleton_append]
  have below : normalized (PathName.slash :: path) = [] ++ '/' :: normalized path :=
    PathName.normalized_under ⟨[], rfl⟩ path
  rw [Bool.eq_iff_iff, Bool.or_eq_true, skipsFile_iff, skipsFile_iff, whole, below,
    Text.lastPiece_joint, Text.lastPiece_joint, marks, List.any_eq_true, ended]
  simp only [Text.hasInfix_iff]
  constructor
  · rintro (⟨fragment, listed, stands⟩ | ⟨ending, listed, ends⟩ | named)
    · rcases (Text.infix_joint '/' front _ _ (fragments_clear fragment listed)).mp stands with
        above | below
      · exact .inl ⟨fragment, listed, above⟩
      · exact .inr (.inl ⟨fragment, listed, below⟩)
    · have ends := (Text.suffix_joint '/' front _ _ (endings_clear ending listed)).mp ends
      exact .inr (.inr (.inl ⟨ending, listed, ends.trans (List.suffix_cons '/' _)⟩))
    · exact .inr (.inr (.inr named))
  · rintro (⟨fragment, listed, above⟩ | ⟨fragment, listed, below⟩ | ⟨ending, listed, ends⟩ | named)
    · have clear := fragments_clear fragment listed
      exact .inl ⟨fragment, listed, (Text.infix_joint '/' front _ _ clear).mpr (.inl above)⟩
    · have clear := fragments_clear fragment listed
      exact .inl ⟨fragment, listed, (Text.infix_joint '/' front _ _ clear).mpr (.inr below)⟩
    · exact .inr (.inl ⟨ending, listed, ends.trans (List.suffix_append front _)⟩)
    · exact .inr (.inr named)

/-- A directory goes by what follows the base, if that is more than slashes. -/
theorem lastSegment_under {base : PathName} (closed : Closed base) (path : PathName)
    (named : ∃ c ∈ normalized path, c ≠ '/') : lastSegment (base ++ path) = lastSegment path := by
  obtain ⟨front, ended⟩ := PathName.normalized_closed closed
  obtain ⟨c, inside, other⟩ := named
  have some : ((normalized path).reverse.dropWhile (· == '/')).isEmpty = false := by
    rw [List.isEmpty_eq_false_iff, ne_eq, List.dropWhile_eq_nil_iff]
    intro bare
    exact other (eq_of_beq (bare c (List.mem_reverse.mpr inside)))
  simp only [lastSegment, PathName.normalized_under closed, List.reverse_append,
    List.dropWhile_append, some, Bool.false_eq_true, ↓reduceIte, List.reverse_reverse]
  rw [ended, List.append_assoc, List.singleton_append, Text.lastPiece_joint]

/-- What is shown as slashes does not change what a directory goes by. -/
theorem lastSegment_of_bare {base : PathName} (closed : Closed base) (path : PathName)
    (bare : ∀ c ∈ normalized path, c = '/') : lastSegment (base ++ path) = lastSegment base := by
  have none : (normalized path).reverse.dropWhile (· == '/') = [] := by
    rw [List.dropWhile_eq_nil_iff]
    exact fun c inside => beq_iff_eq.mpr (bare c (List.mem_reverse.mp inside))
  simp only [lastSegment, PathName.normalized_under closed, List.reverse_append,
    List.dropWhile_append, none, List.isEmpty_nil, ↓reduceIte]

/-- A path with a byte that is no separator is shown with more than slashes. -/
theorem exists_mem_normalized {path : PathName} {byte : UInt8} (inside : byte ∈ path)
    (slash : byte ≠ PathName.slash) (backslash : byte ≠ 0x5C) :
    ∃ c ∈ normalized path, c ≠ '/' := by
  obtain ⟨c, member, given⟩ := (Text.decodes_decodeLossy path).exists_mem inside
  have other : c ≠ '/' ∧ c ≠ '\\' := by
    constructor
    · rintro rfl
      rcases given with same | spelled
      · exact Text.single_slash.ne_replacement same
      · rw [Text.single_slash.spelled, List.mem_singleton] at spelled
        exact slash spelled
    · rintro rfl
      rcases given with same | spelled
      · exact Text.single_backslash.ne_replacement same
      · rw [Text.single_backslash.spelled, List.mem_singleton] at spelled
        exact backslash spelled
  refine ⟨c, List.mem_map.mpr ⟨c, member, ?_⟩, other.1⟩
  rw [if_neg (by simpa using other.2)]

theorem skipsDirectory_base (root : PathName) :
    skipsDirectory (PathName.base root) = skipsDirectory root := by
  rw [PathName.base_eq]
  split
  · rfl
  · have slashed : normalized (root ++ [PathName.slash]) = normalized root ++ ['/'] := by
      rw [normalized, Text.decodeLossy_joint Text.single_slash, List.map_append]
      rfl
    -- A slash at the end does not change what a directory goes by.
    have same : lastSegment (root ++ [PathName.slash]) = lastSegment root := by
      simp [lastSegment, slashed]
    rw [skipsDirectory, same, skipsDirectory]

end Exclusion

end SourceIndex
