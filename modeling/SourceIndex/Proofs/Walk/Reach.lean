import SourceIndex.Proofs.Walk.Traversal

set_option autoImplicit false

namespace SourceIndex

/-- The numbers of the entries on the way from a tree to a place in it. -/
abbrev EntryPosition := List Nat

/-- The order of a full listing: an entry stands before what lies in it, and before all that lies
in the entries after it. -/
inductive EntryPosition.Before : EntryPosition → EntryPosition → Prop where
  | inside (number : Nat) (rest : EntryPosition) : Before [] (number :: rest)
  | earlier {number other : Nat} (less : number < other) (rest later : EntryPosition) :
      Before (number :: rest) (other :: later)
  | deeper (number : Nat) {rest later : EntryPosition} (before : Before rest later) :
      Before (number :: rest) (number :: later)

theorem EntryPosition.Before.asymm {first later : EntryPosition} (before : Before first later) :
    ¬ Before later first := by
  induction before with
  | inside number rest => exact fun reverse => nomatch reverse
  | earlier less rest later =>
      intro reverse
      cases reverse with
      | earlier greater => omega
      | deeper => omega
  | deeper number before ih =>
      intro reverse
      cases reverse with
      | earlier less => omega
      | deeper _ reverse => exact ih reverse

namespace Tree

/-- From an entry at `path`, through directories that the rules keep, a position leads to `inner`,
whose path is `place`. -/
inductive Met (rules : Exclusion) :
    PathName → Tree → EntryPosition → PathName → Tree → Prop where
  | here (path : PathName) (tree : Tree) : Met rules path tree [] path tree
  | deeper {path name place : PathName} {entries : List (PathName × Tree)} {child inner : Tree}
      {number : Nat} {position : EntryPosition} (kept : rules.prunes path = false)
      (listed : entries[number]? = some (name, child))
      (met : Met rules (PathName.join path name) child position place inner) :
      Met rules path (directory entries) (number :: position) place inner

/-- From a root, which the rules do not judge, a position leads to `inner` at `place`. -/
inductive Reached (rules : Exclusion) :
    PathName → Tree → EntryPosition → PathName → Tree → Prop where
  | entry {root name place : PathName} {entries : List (PathName × Tree)} {child inner : Tree}
      {number : Nat} {position : EntryPosition} (listed : entries[number]? = some (name, child))
      (met : Met rules (PathName.join root name) child position place inner) :
      Reached rules root (directory entries) (number :: position) place inner

/-- At a position stands something that has to be opened and cannot be. -/
inductive Blocked (rules : Exclusion) (root : PathName) :
    Tree → EntryPosition → IndexingFailure → Prop where
  | entry {tree : Tree} {position : EntryPosition} {place : PathName} {reason : String}
      (reached : Reached rules root tree position place (closed reason))
      (kept : rules.prunes place = false) :
      Blocked rules root tree position (.walkFailed (PathName.display place) reason)
  | closedRoot (reason : String) :
      Blocked rules root (closed reason) [] (.walkFailed (PathName.display root) reason)
  | fileRoot (place : Location) : Blocked rules root (file place) []
      (.walkFailed (PathName.display root) PathFault.notADirectory.message)
  | otherRoot : Blocked rules root other []
      (.walkFailed (PathName.display root) PathFault.notADirectory.message)

/-- The files and the end of a full walk, each with its position. -/
structure Traversed (rules : Exclusion) (root : PathName) (tree : Tree)
    (located : List (EntryPosition × Found)) (stop : Option (EntryPosition × IndexingFailure)) :
    Prop where
  ordered : located.Pairwise fun first later => first.1.Before later.1
  files : ∀ position found, (position, found) ∈ located ↔
    Reached rules root tree position found.path (file found.place) ∧
      ∀ last ∈ stop, EntryPosition.Before position last.1
  complete : stop = none → ∀ position cause, ¬ Blocked rules root tree position cause
  stopped : ∀ position cause, stop = some (position, cause) →
    Blocked rules root tree position cause ∧
      ∀ other reason, Blocked rules root tree other reason → ¬ EntryPosition.Before other position

/-- A file that is given, or a failure that ends the traversal. -/
abbrev Event := Found ⊕ IndexingFailure

/-- What an entry at `path` gives by itself. -/
inductive Shows (rules : Exclusion) (path : PathName) : Tree → Event → Prop where
  | file (place : Location) : Shows rules path (file place) (.inl ⟨path, place⟩)
  | closed (reason : String) (kept : rules.prunes path = false) :
      Shows rules path (closed reason) (.inr (.walkFailed (PathName.display path) reason))

/-- What an entry at `path` gives at a position in it. -/
def Shown (rules : Exclusion) (path : PathName) (tree : Tree) (position : EntryPosition)
    (event : Event) : Prop :=
  ∃ place inner, Met rules path tree position place inner ∧ Shows rules place inner event

/-- What the entries of a directory give, numbered from `number`. -/
def ShownIn (rules : Exclusion) (path : PathName) (number : Nat) (entries : List (PathName × Tree))
    (position : EntryPosition) (event : Event) : Prop :=
  ∃ index rest name child, position = (number + index) :: rest ∧
    entries[index]? = some (name, child) ∧
    Shown rules (PathName.join path name) child rest event

/-- A traversal whose items and failure carry their positions. -/
abbrev Located := Harvest (EntryPosition × Found) (EntryPosition × IndexingFailure)

namespace Located

/-- The positions of a part, seen from the directory in which it has a number. -/
def under (number : Nat) (part : Located) : Located :=
  Harvest.map (Prod.map (number :: ·) id) (Prod.map (number :: ·) id) part

def forget (part : Located) : Harvest Found IndexingFailure :=
  Harvest.map Prod.snd Prod.snd part

def events (part : Located) : List (EntryPosition × Event) :=
  part.1.map (Prod.map id .inl) ++ (part.2.map (Prod.map id .inr)).toList

theorem forget_under (number : Nat) (part : Located) :
    forget (under number part) = forget part := by
  obtain ⟨items, failure⟩ := part
  simp only [forget, under, Harvest.map, List.map_map, Option.map_map]
  rfl

theorem forget_followedBy (first later : Located) :
    forget (Harvest.followedBy first later) = Harvest.followedBy (forget first) (forget later) :=
  Harvest.map_followedBy _ _ first later

theorem events_under (number : Nat) (part : Located) :
    events (under number part) = (events part).map (Prod.map (number :: ·) id) := by
  obtain ⟨items, _ | ⟨position, cause⟩⟩ := part <;>
    simp [events, under, Harvest.map, Function.comp_def]

theorem events_followedBy (first later : Located) :
    events (Harvest.followedBy first later) =
      if first.2.isSome then events first else events first ++ events later := by
  obtain ⟨items, _ | failure⟩ := first <;> simp [events, Harvest.followedBy]

theorem mem_events_file (part : Located) (position : EntryPosition) (found : Found) :
    (position, .inl found) ∈ events part ↔ (position, found) ∈ part.1 := by
  obtain ⟨items, _ | failure⟩ := part <;> simp [events, Prod.map]

theorem mem_events_failure (part : Located) (position : EntryPosition)
    (cause : IndexingFailure) :
    (position, .inr cause) ∈ events part ↔ part.2 = some (position, cause) := by
  obtain ⟨items, _ | failure⟩ := part <;> simp [events, Prod.map, Prod.ext_iff, eq_comm]

end Located

mutual

/-- The files of an entry with their positions. -/
def located (rules : Exclusion) (path : PathName) : Tree → Located
  | file place => ([([], ⟨path, place⟩)], none)
  | other => ([], none)
  | closed reason =>
    if rules.prunes path then ([], none)
    else ([], some ([], .walkFailed (PathName.display path) reason))
  | directory entries => if rules.prunes path then ([], none) else locatedIn rules path 0 entries

/-- The files of the entries of a directory, numbered from `number`. -/
def locatedIn (rules : Exclusion) (path : PathName) (number : Nat) :
    List (PathName × Tree) → Located
  | [] => ([], none)
  | (name, tree) :: later =>
    Harvest.followedBy
      (Located.under number (located rules (PathName.join path name) tree))
      (locatedIn rules path (number + 1) later)

end

mutual

theorem forget_located (rules : Exclusion) (path : PathName) (tree : Tree) :
    Located.forget (located rules path tree) = files rules path tree := by
  match tree with
  | file place => rw [located, files]; rfl
  | other => rw [located, files]; rfl
  | closed reason =>
      rw [located, files]
      split <;> rfl
  | directory entries =>
      rw [located, files]
      split
      · rfl
      · exact forget_locatedIn rules path 0 entries

theorem forget_locatedIn (rules : Exclusion) (path : PathName) (number : Nat)
    (entries : List (PathName × Tree)) :
    Located.forget (locatedIn rules path number entries) = filesIn rules path entries := by
  match entries with
  | [] => rw [locatedIn, filesIn]; rfl
  | (name, tree) :: later =>
      rw [locatedIn, filesIn_cons, Located.forget_followedBy, Located.forget_under,
        forget_located rules _ tree, forget_locatedIn rules path (number + 1) later]

end

theorem shown_directory (rules : Exclusion) (path : PathName) (entries : List (PathName × Tree))
    (position : EntryPosition) (event : Event) :
    Shown rules path (directory entries) position event ↔
      rules.prunes path = false ∧ ShownIn rules path 0 entries position event := by
  constructor
  · rintro ⟨place, inner, met, shows⟩
    cases met with
    | here => cases shows
    | @deeper _ name _ _ child _ number rest kept listed met =>
        exact ⟨kept, number, rest, name, child, by rw [Nat.zero_add], listed, place, inner, met,
          shows⟩
  · rintro ⟨kept, index, rest, name, child, rfl, listed, place, inner, met, shows⟩
    rw [Nat.zero_add]
    exact ⟨place, inner, .deeper kept listed met, shows⟩

theorem shown_leaf (rules : Exclusion) (path : PathName) (tree : Tree) (position : EntryPosition)
    (event : Event) (leaf : ∀ entries, tree ≠ directory entries) :
    Shown rules path tree position event ↔ position = [] ∧ Shows rules path tree event := by
  constructor
  · rintro ⟨place, inner, met, shows⟩
    cases met with
    | here => exact ⟨rfl, shows⟩
    | deeper => exact absurd rfl (leaf _)
  · rintro ⟨rfl, shows⟩
    exact ⟨path, tree, .here path tree, shows⟩

theorem shownIn_cons (rules : Exclusion) (path name : PathName) (number : Nat) (tree : Tree)
    (later : List (PathName × Tree)) (position : EntryPosition) (event : Event) :
    ShownIn rules path number ((name, tree) :: later) position event ↔
      (∃ rest, position = number :: rest ∧
        Shown rules (PathName.join path name) tree rest event) ∨
      ShownIn rules path (number + 1) later position event := by
  constructor
  · rintro ⟨index, rest, entry, child, rfl, listed, shown⟩
    cases index with
    | zero =>
        obtain ⟨rfl, rfl⟩ : name = entry ∧ tree = child := by simpa using listed
        exact Or.inl ⟨rest, rfl, shown⟩
    | succ index =>
        refine Or.inr ⟨index, rest, entry, child, ?_, by simpa using listed, shown⟩
        rw [Nat.add_right_comm, Nat.add_assoc]
  · rintro (⟨rest, rfl, shown⟩ | ⟨index, rest, entry, child, rfl, listed, shown⟩)
    · exact ⟨0, rest, name, tree, rfl, rfl, shown⟩
    · refine ⟨index + 1, rest, entry, child, ?_, by simpa using listed, shown⟩
      rw [Nat.add_right_comm, Nat.add_assoc]

mutual

/-- Whatever the traversal of an entry gives lies in it, at the position given. -/
theorem shown_of_mem_located (rules : Exclusion) (path : PathName) (tree : Tree)
    (position : EntryPosition) (event : Event) :
    (position, event) ∈ Located.events (located rules path tree) →
      Shown rules path tree position event := by
  match tree with
  | file place =>
      intro member
      obtain ⟨rfl, rfl⟩ : position = [] ∧ event = .inl ⟨path, place⟩ := by
        simpa [located, Located.events, Prod.map] using member
      exact ⟨path, _, .here path _, .file place⟩
  | other => simp [located, Located.events]
  | closed reason =>
      intro member
      rw [located] at member
      split at member
      · simp [Located.events] at member
      · rename_i kept
        obtain ⟨rfl, rfl⟩ : position = [] ∧
            event = .inr (.walkFailed (PathName.display path) reason) := by
          simpa [Located.events, Prod.map] using member
        exact ⟨path, _, .here path _, .closed reason (by simpa using kept)⟩
  | directory entries =>
      intro member
      rw [located] at member
      split at member
      · simp [Located.events] at member
      · rename_i kept
        exact (shown_directory rules path entries position event).mpr
          ⟨by simpa using kept, shownIn_of_mem_locatedIn rules path 0 entries position event member⟩

theorem shownIn_of_mem_locatedIn (rules : Exclusion) (path : PathName) (number : Nat)
    (entries : List (PathName × Tree)) (position : EntryPosition) (event : Event) :
    (position, event) ∈ Located.events (locatedIn rules path number entries) →
      ShownIn rules path number entries position event := by
  match entries with
  | [] => simp [locatedIn, Located.events]
  | (name, tree) :: later =>
      intro member
      rw [locatedIn, Located.events_followedBy] at member
      have parted : (position, event) ∈ Located.events
            (Located.under number (located rules (PathName.join path name) tree)) ∨
          (position, event) ∈ Located.events (locatedIn rules path (number + 1) later) := by
        split at member
        · exact Or.inl member
        · exact List.mem_append.mp member
      rw [shownIn_cons]
      rcases parted with first | second
      · rw [Located.events_under] at first
        obtain ⟨⟨rest, inner⟩, innerMember, same⟩ := List.mem_map.mp first
        obtain ⟨rfl, rfl⟩ : number :: rest = position ∧ inner = event := by
          simpa [Prod.map] using same
        exact Or.inl ⟨rest, rfl, shown_of_mem_located rules _ tree rest inner innerMember⟩
      · exact Or.inr (shownIn_of_mem_locatedIn rules path (number + 1) later position event second)

end

mutual

/-- Whatever lies in an entry is given, unless a failure comes before it. -/
theorem mem_located_of_shown (rules : Exclusion) (path : PathName) (tree : Tree)
    (position : EntryPosition) (event : Event) (shown : Shown rules path tree position event) :
    (position, event) ∈ Located.events (located rules path tree) ∨
      ∃ stop ∈ (located rules path tree).2, EntryPosition.Before stop.1 position := by
  match tree with
  | file place =>
      obtain ⟨rfl, ⟨⟩⟩ := (shown_leaf rules path _ position event (by simp)).mp shown
      exact Or.inl (by simp [located, Located.events, Prod.map])
  | other =>
      obtain ⟨rfl, ⟨⟩⟩ := (shown_leaf rules path _ position event (by simp)).mp shown
  | closed reason =>
      obtain ⟨rfl, ⟨⟩ | ⟨_, kept⟩⟩ := (shown_leaf rules path _ position event (by simp)).mp shown
      exact Or.inl (by simp [located, kept, Located.events, Prod.map])
  | directory entries =>
      obtain ⟨kept, shown⟩ := (shown_directory rules path entries position event).mp shown
      simp only [located, kept, Bool.false_eq_true, ↓reduceIte]
      exact mem_locatedIn_of_shownIn rules path 0 entries position event shown

theorem mem_locatedIn_of_shownIn (rules : Exclusion) (path : PathName) (number : Nat)
    (entries : List (PathName × Tree)) (position : EntryPosition) (event : Event)
    (shown : ShownIn rules path number entries position event) :
    (position, event) ∈ Located.events (locatedIn rules path number entries) ∨
      ∃ stop ∈ (locatedIn rules path number entries).2, EntryPosition.Before stop.1 position := by
  match entries with
  | [] =>
      obtain ⟨index, rest, name, child, _, listed, _⟩ := shown
      simp at listed
  | (name, tree) :: later =>
      rw [locatedIn, Located.events_followedBy]
      rcases (shownIn_cons rules path name number tree later position event).mp shown with
        ⟨rest, rfl, first⟩ | second
      · rcases mem_located_of_shown rules _ tree rest event first with
          member | ⟨stop, stopped, less⟩
        · have moved : (number :: rest, event) ∈ Located.events
              (Located.under number (located rules (PathName.join path name) tree)) := by
            rw [Located.events_under]
            exact List.mem_map.mpr ⟨(rest, event), member, rfl⟩
          left
          split
          · exact moved
          · exact List.mem_append_left _ moved
        · right
          rw [Option.mem_def] at stopped
          refine ⟨Prod.map (number :: ·) id stop, ?_, ?_⟩
          · simp [Located.under, Harvest.map, stopped]
          · exact .deeper number less
      · cases failed : (located rules (PathName.join path name) tree).2 with
        | none =>
            have open' : (Located.under number
                (located rules (PathName.join path name) tree)).2 = none := by
              simp [Located.under, Harvest.map, failed]
            rcases mem_locatedIn_of_shownIn rules path (number + 1) later position event second with
              member | ⟨stop, stopped, less⟩
            · left
              simp [open', member]
            · right
              refine ⟨stop, ?_, less⟩
              exact (Harvest.failure_followedBy_eq_some _ _ _).mpr (Or.inr ⟨open', stopped⟩)
        | some stop =>
            right
            refine ⟨Prod.map (number :: ·) id stop, ?_, ?_⟩
            · simp [Located.under, Harvest.map, failed]
            · obtain ⟨index, rest, _, _, rfl, _⟩ := second
              exact .earlier (by omega) _ _

end

mutual

theorem ordered_located (rules : Exclusion) (path : PathName) (tree : Tree) :
    (Located.events (located rules path tree)).Pairwise
      fun first later => first.1.Before later.1 := by
  match tree with
  | file place => simp [located, Located.events]
  | other => simp [located, Located.events]
  | closed reason =>
      rw [located]
      split <;> simp [Located.events]
  | directory entries =>
      rw [located]
      split
      · simp [Located.events]
      · exact ordered_locatedIn rules path 0 entries

/-- Later entries have greater numbers, so what they give has later positions. -/
theorem ordered_locatedIn (rules : Exclusion) (path : PathName) (number : Nat)
    (entries : List (PathName × Tree)) :
    (Located.events (locatedIn rules path number entries)).Pairwise
      fun first later => first.1.Before later.1 := by
  match entries with
  | [] => simp [locatedIn, Located.events]
  | (name, tree) :: later =>
      have inside : (Located.events (Located.under number
          (located rules (PathName.join path name) tree))).Pairwise
            fun first later => first.1.Before later.1 := by
        rw [Located.events_under]
        refine (ordered_located rules (PathName.join path name) tree).map _ ?_
        intro first second less
        exact .deeper number less
      rw [locatedIn, Located.events_followedBy]
      split
      · exact inside
      · refine List.pairwise_append.mpr
          ⟨inside, ordered_locatedIn rules path (number + 1) later, ?_⟩
        rintro first firstIn ⟨position, event⟩ secondIn
        rw [Located.events_under] at firstIn
        obtain ⟨_, _, rfl⟩ := List.mem_map.mp firstIn
        obtain ⟨index, rest, _, _, rfl, _⟩ :=
          shownIn_of_mem_locatedIn rules path (number + 1) later position event secondIn
        exact .earlier (by omega) _ _

end

/-- The files below a root with their positions. -/
def locatedFrom (rules : Exclusion) (root : PathName) : Tree → Located
  | directory entries => locatedIn rules root 0 entries
  | closed reason => ([], some ([], .walkFailed (PathName.display root) reason))
  | _ => ([], some ([], .walkFailed (PathName.display root) PathFault.notADirectory.message))

theorem forget_locatedFrom (rules : Exclusion) (root : PathName) (tree : Tree) :
    Located.forget (locatedFrom rules root tree) = traversal rules root tree := by
  cases tree with
  | directory entries => exact forget_locatedIn rules root 0 entries
  | file place => rfl
  | closed reason => rfl
  | other => rfl

theorem reached_iff_shownIn (rules : Exclusion) (root : PathName) (entries : List (PathName × Tree))
    (position : EntryPosition) (found : Found) :
    Reached rules root (directory entries) position found.path (file found.place) ↔
      ShownIn rules root 0 entries position (.inl found) := by
  constructor
  · intro reached
    cases reached with
    | @entry name _ _ child _ number rest listed met =>
        exact ⟨number, rest, name, child, by rw [Nat.zero_add], listed, found.path, _, met,
          .file found.place⟩
  · rintro ⟨index, rest, name, child, rfl, listed, place, inner, met, ⟨⟩⟩
    rw [Nat.zero_add]
    exact .entry listed met

theorem blocked_iff_shownIn (rules : Exclusion) (root : PathName) (entries : List (PathName × Tree))
    (position : EntryPosition) (cause : IndexingFailure) :
    Blocked rules root (directory entries) position cause ↔
      ShownIn rules root 0 entries position (.inr cause) := by
  constructor
  · intro blocked
    cases blocked with
    | @entry _ _ place reason reached kept =>
        cases reached with
        | @entry name _ _ child _ number rest listed met =>
            exact ⟨number, rest, name, child, by rw [Nat.zero_add], listed, place, _, met,
              .closed reason kept⟩
  · rintro ⟨index, rest, name, child, rfl, listed, place, inner, met, _ | ⟨reason, kept⟩⟩
    rw [Nat.zero_add]
    exact .entry (.entry listed met) kept

theorem traversed_of_blocked_root (rules : Exclusion) (root : PathName) (tree : Tree)
    (cause : IndexingFailure) (blocked : Blocked rules root tree [] cause)
    (leaf : ∀ entries, tree ≠ directory entries) :
    Traversed rules root tree [] (some ([], cause)) := by
  refine ⟨List.Pairwise.nil, ?_, ?_, ?_⟩
  · intro position found
    simp only [List.not_mem_nil, false_iff, not_and]
    rintro ⟨⟩
    exact absurd rfl (leaf _)
  · intro absent
    cases absent
  · rintro position reason ⟨⟩
    refine ⟨blocked, ?_⟩
    intro other _ _ before
    cases before

theorem traversed_locatedFrom (rules : Exclusion) (root : PathName) (tree : Tree) :
    Traversed rules root tree (locatedFrom rules root tree).1
      (locatedFrom rules root tree).2 := by
  cases tree with
  | file place => exact traversed_of_blocked_root _ _ _ _ (.fileRoot place) (by simp)
  | closed reason => exact traversed_of_blocked_root _ _ _ _ (.closedRoot reason) (by simp)
  | other => exact traversed_of_blocked_root _ _ _ _ .otherRoot (by simp)
  | directory entries =>
      have ordered := ordered_locatedIn rules root 0 entries
      have sound := shownIn_of_mem_locatedIn rules root 0 entries
      have full := mem_locatedIn_of_shownIn rules root 0 entries
      simp only [locatedFrom]
      -- Files and failure are one ordered list of events, and the failure is the last of them.
      generalize locatedIn rules root 0 entries = part at *
      obtain ⟨items, stop⟩ := part
      simp only [Located.events, List.pairwise_append, List.pairwise_map] at ordered
      refine ⟨ordered.1, ?_, ?_, ?_⟩
      · intro position found
        rw [reached_iff_shownIn, ← Located.mem_events_file (items, stop)]
        constructor
        · intro member
          refine ⟨sound _ _ member, ?_⟩
          intro last stopped
          have given := (Located.mem_events_file (items, stop) _ _).mp member
          exact ordered.2.2 _ (List.mem_map_of_mem given) _
            (Option.mem_toList.mpr (Option.mem_map_of_mem _ stopped))
        · rintro ⟨shown, before⟩
          rcases full _ _ shown with member | ⟨last, stopped, less⟩
          · exact member
          · exact absurd less (before last stopped).asymm
      · rintro rfl position cause blocked
        rw [blocked_iff_shownIn] at blocked
        rcases full _ _ blocked with member | ⟨last, stopped, _⟩
        · exact nomatch (Located.mem_events_failure (items, none) _ _).mp member
        · cases stopped
      · rintro position cause rfl
        constructor
        · rw [blocked_iff_shownIn]
          exact sound _ _ ((Located.mem_events_failure (items, _) _ _).mpr rfl)
        · intro other reason blocked
          rw [blocked_iff_shownIn] at blocked
          rcases full _ _ blocked with member | ⟨last, stopped, less⟩
          · cases (Located.mem_events_failure (items, _) _ _).mp member
            exact fun before => before.asymm before
          · cases stopped
            exact less.asymm

end Tree

namespace Entry

/-- The entry at a position, on a way through directories only. -/
def at? : Entry → EntryPosition → Option Entry
  | entry, [] => some entry
  | directory entries, number :: position =>
    match entries[number]? with
    | some (_, entry) => at? entry position
    | none => none
  | _, _ :: _ => none

def isRegular : Entry → Bool
  | file _ => true
  | closedFile _ => true
  | _ => false

end Entry

namespace FileSystem

theorem getElem?_treesOf (path : PathName) (place : Location) (entries : List (PathName × Entry))
    (number : Nat) :
    (treesOf path place entries)[number]? =
      (entries[number]?).map fun (name, entry) =>
        (name, treeOf (PathName.join path name) (place ++ [name]) entry) := by
  induction entries generalizing number with
  | nil => rw [treesOf]; simp
  | cons first later ih =>
      obtain ⟨name, entry⟩ := first
      cases number with
      | zero => simp [treesOf]
      | succ number => simp [treesOf, ih]

theorem directory_of_treeOf {path : PathName} {base : Location} {entry : Entry}
    {trees : List (PathName × Tree)} (same : treeOf path base entry = .directory trees) :
    ∃ entries, entry = .directory entries ∧ trees = treesOf path base entries := by
  cases entry with
  | directory entries =>
      rw [treeOf] at same
      split at same
      · exact ⟨entries, rfl, by injection same with same; exact same.symm⟩
      · cases same
  | _ => rw [treeOf] at same; cases same

theorem at?_of_met {rules : Exclusion} {path place : PathName} {tree inner : Tree}
    {position : EntryPosition} (met : Tree.Met rules path tree position place inner) :
    ∀ base entry, tree = treeOf path base entry →
      ∃ deeper reached, entry.at? position = some reached ∧
        inner = treeOf place deeper reached := by
  induction met with
  | here path tree => exact fun base entry same => ⟨base, entry, by rw [Entry.at?], same⟩
  | deeper kept listed met ih =>
      intro base entry same
      obtain ⟨entries, rfl, rfl⟩ := directory_of_treeOf same.symm
      rw [getElem?_treesOf] at listed
      obtain ⟨⟨name, child⟩, found, same⟩ := Option.map_eq_some_iff.mp listed
      cases same
      obtain ⟨deeper, reached, at', same⟩ := ih _ child rfl
      exact ⟨deeper, reached, by rw [Entry.at?, found]; exact at', same⟩

theorem isRegular_of_treeOf {path : PathName} {base location : Location} {entry : Entry}
    (same : .file location = treeOf path base entry) : entry.isRegular = true := by
  cases entry with
  | file content => rfl
  | closedFile size => rfl
  | directory entries =>
      rw [treeOf] at same
      split at same <;> cases same
  | _ => rw [treeOf] at same; cases same

/-- A link is not followed and is no file: what is reached below an entry as a file is one. -/
theorem isRegular_of_reached {rules : Exclusion} {root place : PathName} {base location : Location}
    {entry : Entry} {position : EntryPosition}
    (reached : Tree.Reached rules root (treeOf root base entry) position place (.file location)) :
    ∃ held, entry.at? position = some held ∧ held.isRegular = true := by
  generalize same : treeOf root base entry = tree at reached
  cases reached with
  | entry listed met =>
      obtain ⟨entries, rfl, rfl⟩ := directory_of_treeOf same
      rw [getElem?_treesOf] at listed
      obtain ⟨⟨name, child⟩, found, same⟩ := Option.map_eq_some_iff.mp listed
      cases same
      obtain ⟨deeper, held, at', same⟩ := at?_of_met met _ child rfl
      exact ⟨held, by rw [Entry.at?, found]; exact at', isRegular_of_treeOf same⟩

end FileSystem

namespace Walk

/-- The first `count` pulls give the first `count` items of the plain traversal, for each count;
after the last item nothing more comes. The traversal gives every regular file that is reached
below the root, once and in the order of the positions, up to the first directory reached that
cannot be opened; links are neither followed nor given. -/
theorem take_eq_take_traversal (rules : Exclusion) (root : PathName) (tree : Tree) :
    (∀ count, (ofTree rules root tree).take count = (tree.traversal rules root).take count) ∧
    (∀ count, (tree.traversal rules root).1.length < count →
      (ofTree rules root tree).take count =
        ((tree.traversal rules root).1.map (·.path), (tree.traversal rules root).2)) ∧
    (∃ located stop, Tree.Traversed rules root tree located stop ∧
      tree.traversal rules root = (located.map Prod.snd, stop.map Prod.snd)) ∧
    ∀ entry base position place location, tree = FileSystem.treeOf root base entry →
      Tree.Reached rules root tree position place (.file location) →
      ∃ held, entry.at? position = some held ∧ held.isRegular = true := by
  refine ⟨take_ofTree rules root tree, ?_, ?_, ?_⟩
  · intro count beyond
    have short : ((tree.traversal rules root).1.map (·.path)).length ≤ count := by
      rw [List.length_map]
      omega
    rw [take_ofTree, Harvest.take, List.take_of_length_le short, if_pos beyond]
  · exact ⟨_, _, Tree.traversed_locatedFrom rules root tree,
      (Tree.forget_locatedFrom rules root tree).symm⟩
  · rintro entry base position place location rfl reached
    exact FileSystem.isRegular_of_reached reached

/-- A directory with a link to the directory above it, and one directory that is left out. -/
def linkedEntry : Entry :=
  .folder [
    ("up", .link ".."),
    ("src", .folder [("a.go", .file [])]),
    ("dist", .folder [("b.go", .file [])])]

theorem take_linkedEntry :
    (ofTree {} "r" (FileSystem.treeOf "r" [] linkedEntry)).take 3 =
        ([Text.encode "r/src/a.go"], none) ∧
      ∃ held, linkedEntry.at? [1, 0] = some held ∧ held.isRegular = true := by
  obtain ⟨-, whole, -, files⟩ :=
    take_eq_take_traversal {} "r" (FileSystem.treeOf "r" [] linkedEntry)
  have reached : Tree.Reached {} "r" (FileSystem.treeOf "r" [] linkedEntry) [1, 0] "r/src/a.go"
      (.file ["src", "a.go"]) := .entry rfl (.deeper rfl rfl (.here "r/src/a.go" _))
  exact ⟨(whole 3 (by decide)).trans rfl, files linkedEntry [] [1, 0] _ _ rfl reached⟩

end Walk

end SourceIndex
