import Mathlib.Data.List.DropRight
import SourceIndex.Proofs.Exclusion.Bases

/-
By what a directory goes: the built-in names are looked for in the last segment of its path, and the
names of the settings in the name that the path gives it. One rule covers both for exactly the paths
that go by a built-in name or end in a plain name, slashes at the end apart.
-/

set_option autoImplicit false

namespace SourceIndex

namespace PathName

/-- The name that a path ends in, slashes at the end apart. It may stand for no entry. -/
def lastName (path : PathName) : PathName := Text.lastPiece slash (path.rdropWhile (· == slash))

/-- A name that stands for an entry: it is not empty, and it is neither that of the directory it
lies in nor that of the one above. -/
structure NamesEntry (name : PathName) : Prop where
  some : name ≠ []
  other : name ≠ [dot]
  below : name ≠ [dot, dot]

/-- Whether a path ends in a plain name: a text that stands for an entry and has no backslash. -/
structure EndsPlainly (path : PathName) : Prop where
  entry : NamesEntry (lastName path)
  spelled : ∃ text, lastName path = Text.encode text ∧ '\\' ∉ text.toList

/-- A path in parts: what comes before its last name, that name, and slashes. -/
structure Parted (path front name slashes : PathName) : Prop where
  whole : path = front ++ name ++ slashes
  single : slash ∉ name
  closed : front = [] ∨ Closed front
  alone : name = [] → front = []
  bare : ∀ c ∈ slashes, c = slash

theorem exists_parted (path : PathName) :
    ∃ front slashes, Parted path front (lastName path) slashes := by
  have inner := List.rdropWhile_append_rtakeWhile (p := (· != slash))
    (l := path.rdropWhile (· == slash))
  refine ⟨(path.rdropWhile (· == slash)).rdropWhile (· != slash),
    path.rtakeWhile (· == slash), ⟨?_, ?_, ?_, ?_, ?_⟩⟩
  · rw [lastName, Text.lastPiece, ← List.rtakeWhile, inner, List.rdropWhile_append_rtakeWhile]
  · intro inside
    have other := List.mem_rtakeWhile_imp (p := (· != slash)) inside
    exact absurd other (by decide)
  · by_cases none : (path.rdropWhile (· == slash)).rdropWhile (· != slash) = []
    · exact .inl none
    · have last := List.rdropWhile_last_not (· != slash) _ none
      rw [Bool.not_eq_true, bne_eq_false_iff_eq] at last
      exact .inr ⟨_, last ▸ (List.dropLast_concat_getLast none).symm⟩
  · intro none
    rw [lastName, Text.lastPiece, ← List.rtakeWhile, List.rtakeWhile_eq_nil_iff] at none
    have trimmed : path.rdropWhile (· == slash) = [] := by
      by_contra some
      have last := none some
      rw [bne_iff_ne, not_not] at last
      exact List.rdropWhile_last_not (· == slash) _ some (beq_iff_eq.mpr last)
    rw [trimmed, List.rdropWhile_nil]
  · intro c inside
    have same := List.mem_rtakeWhile_imp (p := (· == slash)) inside
    exact eq_of_beq same

theorem pieces_slashes (slashes : PathName) (bare : ∀ c ∈ slashes, c = slash) :
    ∀ part ∈ Text.pieces slash slashes, part = [] := by
  induction slashes with
  | nil => exact fun part among => List.mem_singleton.mp among
  | cons c slashes ih =>
      rw [bare c List.mem_cons_self]
      intro part among
      have rest := ih fun d inside => bare d (List.mem_cons_of_mem c inside)
      rw [← List.nil_append (slash :: slashes), Text.pieces_joint, List.mem_append] at among
      exact among.elim (fun first => List.mem_singleton.mp first) (rest part)

theorem filter_pieces_append_slashes (path slashes : PathName) (bare : ∀ c ∈ slashes, c = slash)
    (test : PathName → Bool) (rejects : test [] = false) :
    (Text.pieces slash (path ++ slashes)).filter test = (Text.pieces slash path).filter test := by
  cases slashes with
  | nil => rw [List.append_nil]
  | cons c slashes =>
      have none : (Text.pieces slash slashes).filter test = [] := by
        rw [List.filter_eq_nil_iff]
        intro part among
        rw [pieces_slashes slashes (fun d inside => bare d (List.mem_cons_of_mem c inside)) part
          among, rejects]
        exact Bool.false_ne_true
      rw [bare c List.mem_cons_self, Text.pieces_joint, List.filter_append, none, List.append_nil]

theorem namesEntry_of_fileName? {path name : PathName}
    (named : fileName? path = some name) : NamesEntry name := by
  rw [fileName?] at named
  split at named
  · rename_i last ended
    split at named
    · exact absurd named (by simp)
    · rename_i below
      obtain rfl := Option.some.inj named
      have kept := List.mem_of_getLast? ended
      simp only [segments, List.mem_filter, Bool.and_eq_true, Bool.not_eq_true',
        List.isEmpty_eq_false_iff, bne_iff_ne] at kept
      exact ⟨kept.2.1, kept.2.2, fun same => below (beq_iff_eq.mpr same)⟩
  · exact absurd named (by simp)

variable {path front name slashes : PathName}

/-- A last name that stands for an entry is the name of the path. -/
theorem Parted.fileName? (parted : Parted path front name slashes)
    (entry : NamesEntry name) : fileName? path = some name := by
  have kept : (!name.isEmpty && name != [dot]) = true := by
    simp only [Bool.and_eq_true, Bool.not_eq_true', List.isEmpty_eq_false_iff, bne_iff_ne]
    exact ⟨entry.some, entry.other⟩
  have last : (segments path).getLast? = some name := by
    rw [segments, parted.whole, filter_pieces_append_slashes _ _ parted.bare _ rfl]
    rcases parted.closed with rfl | ⟨above, rfl⟩
    · rw [List.nil_append, Text.pieces_of_not_mem slash name parted.single]
      simp only [List.filter_cons, kept, ↓reduceIte, List.filter_nil, List.getLast?_singleton]
    · rw [List.append_assoc, List.singleton_append, Text.pieces_joint,
        Text.pieces_of_not_mem slash name parted.single, List.filter_append]
      simp only [List.filter_cons, kept, ↓reduceIte, List.filter_nil, List.getLast?_concat]
  have other : (name == [dot, dot]) = false := beq_eq_false_iff_ne.mpr entry.below
  rw [PathName.fileName?, last]
  simp only [other, Bool.false_eq_true, ↓reduceIte]

/-- A last name that is shown as the name of the path stands for an entry. -/
theorem namesEntry_of_shown {text : String}
    (named : PathName.fileName? path = some (Text.encode text))
    (same : Text.decodeLossy (lastName path) = text.toList) : NamesEntry (lastName path) := by
  have entry := namesEntry_of_fileName? named
  by_cases listed : NamesEntry (lastName path)
  · exact listed
  · have short : lastName path = [] ∨ lastName path = [dot] ∨ lastName path = [dot, dot] := by
      by_contra others
      rw [not_or, not_or] at others
      exact listed ⟨others.1, others.2.1, others.2.2⟩
    have spelled : Text.encode text = lastName path := by
      rw [Text.encode, ← same]
      rcases short with short | short | short <;> rw [short] <;> rfl
    exact spelled ▸ entry

end PathName

namespace Exclusion

open PathName (Parted normalized)

theorem backslash_not_mem_normalized (path : PathName) : '\\' ∉ normalized path := by
  rw [normalized, List.mem_map]
  rintro ⟨c, -, same⟩
  split at same
  · exact absurd same (by decide)
  · rename_i other
    exact other (beq_iff_eq.mpr same)

theorem backslash_not_mem_lastSegment (path : PathName) : '\\' ∉ lastSegment path := by
  intro inside
  have among := List.mem_reverse.mp
    (List.takeWhile_subset _ (List.mem_reverse.mp inside))
  exact backslash_not_mem_normalized path
    (List.mem_reverse.mp (List.dropWhile_subset _ (List.mem_reverse.mp among)))

theorem lastSegment_eq (path : PathName) :
    lastSegment path = Text.lastPiece '/' ((normalized path).rdropWhile (· == '/')) := rfl

private theorem rdropWhile_append_slashes (text slashes : List Char)
    (bare : ∀ c ∈ slashes, c = '/') :
    (text ++ slashes).rdropWhile (· == '/') = text.rdropWhile (· == '/') := by
  rw [List.rdropWhile, List.reverse_append, List.dropWhile_append_of_pos, List.rdropWhile]
  exact fun c inside => beq_iff_eq.mpr (bare c (List.mem_reverse.mp inside))

theorem normalized_append_slashes (path slashes : PathName)
    (bare : ∀ c ∈ slashes, c = PathName.slash) :
    normalized (path ++ slashes) = normalized path ++ List.replicate slashes.length '/' := by
  induction slashes generalizing path with
  | nil => simp
  | cons c slashes ih =>
      have rest := ih [] fun d inside => bare d (List.mem_cons_of_mem c inside)
      have none : normalized [] = [] := rfl
      rw [bare c List.mem_cons_self, normalized, Text.decodeLossy_joint Text.single_slash,
        List.map_append, List.map_cons, ← normalized, ← normalized]
      rw [List.nil_append, none, List.nil_append] at rest
      rw [rest]
      rfl

/-- A last name without a backslash is shown as the last segment. -/
theorem lastSegment_of_parted {path front name slashes : PathName}
    (parted : Parted path front name slashes) (whole : '\\' ∉ Text.decodeLossy name) :
    lastSegment path = Text.decodeLossy name := by
  have kept : normalized name = Text.decodeLossy name := by
    refine (List.map_congr_left fun c inside => if_neg ?_).trans (List.map_id' _)
    exact fun same => whole (beq_iff_eq.mp same ▸ inside)
  have single : '/' ∉ Text.decodeLossy name :=
    Text.not_mem_decodeLossy Text.single_slash parted.single
  have bare : ∀ c ∈ List.replicate slashes.length '/', c = '/' := fun c inside =>
    (List.mem_replicate.mp inside).2
  rw [lastSegment_eq, parted.whole, normalized_append_slashes _ _ parted.bare,
    rdropWhile_append_slashes _ _ bare]
  rcases List.eq_nil_or_concat (Text.decodeLossy name) with none | ⟨start, last, ended⟩
  · have empty := (Text.decodeLossy_eq_nil_iff name).mp none
    rw [parted.alone empty, empty]
    rfl
  · rw [List.concat_eq_append] at ended
    have other : ¬ (last == '/') = true := by
      intro slash
      rw [beq_iff_eq.mp slash] at ended
      exact single (ended ▸ List.mem_concat_self)
    have stays (text : List Char) :
        (text ++ Text.decodeLossy name).rdropWhile (· == '/') = text ++ Text.decodeLossy name := by
      rw [ended, ← List.append_assoc]
      exact List.rdropWhile_concat_neg (· == '/') _ last other
    rcases parted.closed with rfl | closed
    · rw [List.nil_append, kept, ← List.nil_append (Text.decodeLossy name), stays,
        List.nil_append]
      exact Text.lastPiece_of_not_mem '/' _ single
    · obtain ⟨above, slashed⟩ := PathName.normalized_closed closed
      rw [PathName.normalized_under closed, kept, stays, slashed, List.append_assoc]
      exact (Text.lastPiece_joint '/' _ _).trans (Text.lastPiece_of_not_mem '/' _ single)

/-- The name of a path is shown as its last segment if and only if the path ends plainly. -/
theorem fileName?_eq_lastSegment_iff (path : PathName) :
    (∃ text : String, PathName.fileName? path = some (Text.encode text) ∧
      text.toList = lastSegment path) ↔ PathName.EndsPlainly path := by
  obtain ⟨front, slashes, parted⟩ := PathName.exists_parted path
  constructor
  · rintro ⟨text, named, shown⟩
    have plain : '\\' ∉ Text.decodeLossy (PathName.lastName path) := by
      intro inside
      have among : (0x5C : UInt8) ∈ PathName.lastName path := by
        by_contra absent
        exact Text.not_mem_decodeLossy Text.single_backslash absent inside
      have entry : PathName.NamesEntry (PathName.lastName path) := by
        refine ⟨?_, ?_, ?_⟩ <;> intro same <;> rw [same] at among <;> exact absurd among (by decide)
      rw [parted.fileName? entry, Option.some.injEq] at named
      rw [named, Text.encode, Text.decodeLossy_utf8, shown] at inside
      exact backslash_not_mem_lastSegment path inside
    have segment := lastSegment_of_parted parted plain
    have entry := PathName.namesEntry_of_shown named (segment.symm.trans shown.symm)
    rw [parted.fileName? entry, Option.some.injEq] at named
    refine ⟨entry, text, named, ?_⟩
    rwa [named, Text.encode, Text.decodeLossy_utf8] at plain
  · intro plain
    obtain ⟨text, spelled, whole⟩ := plain.spelled
    have shown : Text.decodeLossy (PathName.lastName path) = text.toList := by
      rw [spelled, Text.encode, Text.decodeLossy_utf8]
    refine ⟨text, by rw [parted.fileName? plain.entry, spelled], ?_⟩
    rw [lastSegment_of_parted parted (shown ▸ whole), shown]

/-- Whether the configured names prune a path by the rule of the built-in ones, which looks for them
in the last segment. -/
def FollowsRule (rules : Exclusion) (path : PathName) : Prop :=
  rules.prunes path = true ↔
    ∃ name ∈ directoryNames ++ rules.directories, name.toList = lastSegment path

theorem skipsDirectory_iff (path : PathName) : skipsDirectory path = true ↔
    ∃ name ∈ directoryNames, name.toList = lastSegment path := by
  rw [skipsDirectory, List.contains_iff_mem]
  constructor
  · exact fun among => ⟨_, among, String.toList_ofList⟩
  · rintro ⟨name, among, same⟩
    rwa [← same, String.ofList_toList]

theorem prunes_iff (rules : Exclusion) (path : PathName) : rules.prunes path = true ↔
    skipsDirectory path = true ∨
      ∃ name ∈ rules.directories, PathName.fileName? path = some (Text.encode name) := by
  rw [prunes, Bool.or_eq_true, Option.any_eq_true]
  refine or_congr Iff.rfl ⟨?_, ?_⟩
  · rintro ⟨name, named, among⟩
    obtain ⟨bytes, last, spelled⟩ := Option.bind_eq_some_iff.mp named
    rw [(Text.text?_eq_some_iff bytes name).mp spelled] at last
    exact ⟨name, List.contains_iff_mem.mp among, last⟩
  · rintro ⟨name, among, named⟩
    refine ⟨name, ?_, List.contains_iff_mem.mpr among⟩
    rw [named]
    exact (Text.text?_eq_some_iff _ name).mpr rfl

/-- Whatever names are configured, a path is pruned by one rule for all of them, if and only if it
goes by a built-in name or ends plainly. -/
theorem followsRule_iff (path : PathName) :
    (∀ rules : Exclusion, rules.FollowsRule path) ↔
      skipsDirectory path = true ∨ PathName.EndsPlainly path := by
  constructor
  · intro follows
    by_cases builtIn : skipsDirectory path = true
    · exact .inl builtIn
    · -- The rule asks for the last segment, so its name is to be that of the path.
      have ruled := (follows ⟨[], [String.ofList (lastSegment path)]⟩).mpr
        ⟨_, List.mem_append_right _ List.mem_cons_self, String.toList_ofList⟩
      obtain ⟨name, among, named⟩ := ((prunes_iff _ path).mp ruled).resolve_left builtIn
      rw [List.mem_singleton.mp among] at named
      exact .inr ((fileName?_eq_lastSegment_iff path).mp ⟨_, named, String.toList_ofList⟩)
  · intro either rules
    rw [FollowsRule, prunes_iff]
    have named (plain : PathName.EndsPlainly path) :=
      (fileName?_eq_lastSegment_iff path).mpr plain
    constructor
    · rintro (builtIn | ⟨name, among, last⟩)
      · obtain ⟨name, among, same⟩ := (skipsDirectory_iff path).mp builtIn
        exact ⟨name, List.mem_append_left _ among, same⟩
      · rcases either with builtIn | plain
        · obtain ⟨name, among, same⟩ := (skipsDirectory_iff path).mp builtIn
          exact ⟨name, List.mem_append_left _ among, same⟩
        · obtain ⟨text, last', shown⟩ := named plain
          rw [last', Option.some.injEq] at last
          have same := Text.encode_injective text name last
          exact ⟨name, List.mem_append_right _ among, same ▸ shown⟩
    · rintro ⟨name, among, same⟩
      rcases List.mem_append.mp among with builtIn | configured
      · exact .inl ((skipsDirectory_iff path).mpr ⟨name, builtIn, same⟩)
      · refine either.imp_right fun plain => ⟨name, configured, ?_⟩
        obtain ⟨text, last, shown⟩ := named plain
        rw [last, String.toList_inj.mp (shown.trans same.symm)]

/-- A configured name is not found behind a backslash, where a built-in one is. -/
theorem not_followsRule_behind_backslash :
    ¬ (⟨[], ["vendor"]⟩ : Exclusion).FollowsRule (Text.encode "repo\\vendor") := by
  intro follows
  have pruned := follows.mpr ⟨"vendor", by decide, by decide⟩
  exact absurd pruned (by decide)

end Exclusion

end SourceIndex
