import SourceIndex.Proofs.Exclusion.Bases
import SourceIndex.Proofs.FileTree.Placing

set_option autoImplicit false

namespace SourceIndex.FileSystem

theorem entryAt_concat (files : FileSystem) (here : Location) (name : PathName)
    (entries : Listing) (directory : files.entryAt here = some (.directory entries)) :
    files.entryAt (here ++ [name]) = Listing.get? entries name := by
  rw [entryAt] at directory ⊢
  rw [entryFrom_append, directory, Option.bind_some, entryFrom]
  cases Listing.get? entries name <;> rfl

/-- A part of a path that names an entry of the directory it stands in. -/
structure Names (part : PathName) : Prop where
  stays : (part.isEmpty || part == [PathName.dot]) = false
  rises : (part == [PathName.dot, PathName.dot]) = false
  fits : ¬ nameLimit < part.length

/-- The parts of a path lead from one place to another. Of the two bounds, one is on the steps, and
one on the links followed. -/
inductive Leads (files : FileSystem) (follow : Bool) :
    Nat → Nat → Location → List PathName → Location → Prop
  | arrived (fuel links : Nat) (here : Location) :
      Leads files follow (fuel + 1) links here [] here
  | stays {fuel links : Nat} {here place : Location} {part : PathName} {later : List PathName}
      {entries : Listing} (directory : files.entryAt here = some (.directory entries))
      (stays : (part.isEmpty || part == [PathName.dot]) = true)
      (leads : Leads files follow fuel links here later place) :
      Leads files follow (fuel + 1) links here (part :: later) place
  | rises {fuel links : Nat} {here place : Location} {part : PathName} {later : List PathName}
      {entries : Listing} (directory : files.entryAt here = some (.directory entries))
      (moves : (part.isEmpty || part == [PathName.dot]) = false)
      (rises : (part == [PathName.dot, PathName.dot]) = true)
      (leads : Leads files follow fuel links here.dropLast later place) :
      Leads files follow (fuel + 1) links here (part :: later) place
  | enters {fuel links : Nat} {here place : Location} {part : PathName} {later : List PathName}
      {entries : Listing} {next : Entry} (names : Names part)
      (directory : files.entryAt here = some (.directory entries))
      (found : files.entryAt (here ++ [part]) = some next)
      (solid : ∀ target, next.kind ≠ .link target)
      (leads : Leads files follow fuel links (here ++ [part]) later place) :
      Leads files follow (fuel + 1) links here (part :: later) place
  | fresh {fuel links : Nat} {here : Location} {part : PathName} {entries : Listing}
      (names : Names part) (directory : files.entryAt here = some (.directory entries))
      (absent : files.entryAt (here ++ [part]) = none) :
      Leads files follow (fuel + 1) links here [part] (here ++ [part])
  | stops {fuel links : Nat} {here : Location} {part target : PathName} {entries : Listing}
      (names : Names part) (directory : files.entryAt here = some (.directory entries))
      (found : files.entryAt (here ++ [part]) = some (.link target)) (unfollowed : follow = false) :
      Leads files follow (fuel + 1) links here [part] (here ++ [part])
  | follows {fuel links : Nat} {here place : Location} {part target : PathName}
      {later : List PathName} {entries : Listing} (names : Names part)
      (directory : files.entryAt here = some (.directory entries))
      (found : files.entryAt (here ++ [part]) = some (.link target))
      (goes : (later.isEmpty && !follow) = false)
      (leads : Leads files follow fuel links (if PathName.isAbsolute target then [] else here)
        (parts target ++ later) place) :
      Leads files follow (fuel + 1) (links + 1) here (part :: later) place
  | rests {fuel links : Nat} {here place : Location} {part : PathName} {later : List PathName}
      (closed : files.entryAt here = some .closedDirectory) (none : part.isEmpty = true)
      (leads : Leads files follow fuel links here later place) :
      Leads files follow (fuel + 1) links here (part :: later) place

theorem leads_of_resolveFrom (files : FileSystem) (follow : Bool) (fuel links : Nat)
    (here place : Location) (path : List PathName)
    (resolved : files.resolveFrom follow fuel links here path = .ok place) :
    Leads files follow fuel links here path place := by
  induction fuel generalizing links here path with
  | zero => simp only [resolveFrom, reduceCtorEq] at resolved
  | succ fuel ih =>
      cases path with
      | nil =>
          rw [resolveFrom, Except.ok.injEq] at resolved
          exact resolved ▸ .arrived fuel links here
      | cons part later =>
          rw [resolveFrom] at resolved
          split at resolved
          · cases resolved
          · rename_i entries directory
            have inside := files.entryAt_concat here part entries directory
            by_cases stays : (part.isEmpty || part == [PathName.dot]) = true
            · rw [if_pos stays] at resolved
              exact .stays directory stays (ih _ _ _ resolved)
            by_cases rises : (part == [PathName.dot, PathName.dot]) = true
            · rw [if_neg stays, if_pos rises] at resolved
              exact .rises directory (Bool.eq_false_iff.mpr stays) rises (ih _ _ _ resolved)
            by_cases long : nameLimit < part.length
            · rw [if_neg stays, if_neg rises, if_pos long] at resolved
              cases resolved
            have names : Names part :=
              ⟨Bool.eq_false_iff.mpr stays, Bool.eq_false_iff.mpr rises, long⟩
            rw [if_neg stays, if_neg rises, if_neg long] at resolved
            split at resolved
            · rename_i absent
              cases later with
              | nil =>
                  rw [List.isEmpty_nil, if_pos rfl, Except.ok.injEq] at resolved
                  exact resolved ▸ .fresh names directory (inside.trans absent)
              | cons next later => cases resolved
            · rename_i target found
              by_cases stops : (later.isEmpty && !follow) = true
              · rw [if_pos stops, Except.ok.injEq] at resolved
                rw [Bool.and_eq_true, List.isEmpty_iff, Bool.not_eq_true'] at stops
                obtain ⟨rfl, unfollowed⟩ := stops
                exact resolved ▸ .stops names directory (inside.trans found) unfollowed
              · rw [if_neg stops] at resolved
                cases links with
                | zero => cases resolved
                | succ links =>
                    exact .follows names directory (inside.trans found)
                      (Bool.eq_false_iff.mpr stops) (ih _ _ _ resolved)
            · rename_i next other found
              have solid : ∀ target, next.kind ≠ .link target := fun target kind =>
                other target (next.eq_link target kind)
              exact .enters names directory (inside.trans found) solid (ih _ _ _ resolved)
          · rename_i closed
            by_cases none : part.isEmpty = true
            · rw [if_pos none] at resolved
              exact .rests closed none (ih _ _ _ resolved)
            · rw [if_neg none] at resolved
              cases resolved
          · cases resolved

theorem resolveFrom_of_leads (files : FileSystem) (follow : Bool) (fuel links : Nat)
    (here place : Location) (path : List PathName)
    (leads : Leads files follow fuel links here path place) :
    files.resolveFrom follow fuel links here path = .ok place := by
  induction leads with
  | arrived fuel links here => rw [resolveFrom]
  | stays directory stays leads ih => simp only [resolveFrom, directory, stays, ↓reduceIte, ih]
  | rises directory moves rises leads ih =>
      simp only [resolveFrom, directory, moves, rises, Bool.false_eq_true, ↓reduceIte, ih]
  | @enters fuel links here place part later entries next names directory found solid leads ih =>
      rw [files.entryAt_concat here part entries directory] at found
      simp only [resolveFrom, directory, names.stays, names.rises, names.fits, found,
        Bool.false_eq_true, ↓reduceIte, ih]
      cases next with
      | link target => exact absurd rfl (solid target)
      | _ => rfl
  | @fresh fuel links here part entries names directory absent =>
      rw [files.entryAt_concat here part entries directory] at absent
      simp only [resolveFrom, directory, names.stays, names.rises, names.fits, absent,
        Bool.false_eq_true, ↓reduceIte, List.isEmpty_nil]
  | @stops fuel links here part target entries names directory found unfollowed =>
      rw [files.entryAt_concat here part entries directory] at found
      simp only [resolveFrom, directory, names.stays, names.rises, names.fits, found, unfollowed,
        Bool.false_eq_true, ↓reduceIte, List.isEmpty_nil, Bool.not_false, Bool.and_self]
  | @follows fuel links here place part target later entries names directory found goes leads ih =>
      rw [files.entryAt_concat here part entries directory] at found
      simp only [resolveFrom, directory, names.stays, names.rises, names.fits, found, goes,
        Bool.false_eq_true, ↓reduceIte, ih]
  | rests closed none leads ih => simp only [resolveFrom, closed, none, ↓reduceIte, ih]

theorem KeepsKinds.leads {before after : FileSystem} (keeps : KeepsKinds before after)
    {follow : Bool} {fuel links : Nat} {here place : Location} {path : List PathName}
    {entry : Entry} (leads : Leads before follow fuel links here path place)
    (held : before.entryAt place = some entry) : Leads after follow fuel links here path place := by
  have directories (here : Location) (entries : Listing)
      (directory : before.entryAt here = some (.directory entries)) :
      ∃ others, after.entryAt here = some (.directory others) := by
    obtain ⟨other, there, kind⟩ := keeps.kinds here _ directory
    obtain ⟨others, rfl⟩ := other.eq_directory kind
    exact ⟨others, there⟩
  induction leads with
  | arrived fuel links here => exact .arrived fuel links here
  | stays directory stays leads ih =>
      obtain ⟨others, there⟩ := directories _ _ directory
      exact .stays there stays (ih held)
  | rises directory moves rises leads ih =>
      obtain ⟨others, there⟩ := directories _ _ directory
      exact .rises there moves rises (ih held)
  | enters names directory found solid leads ih =>
      obtain ⟨others, there⟩ := directories _ _ directory
      obtain ⟨next, present, kind⟩ := keeps.kinds _ _ found
      exact .enters names there present (fun target => kind ▸ solid target) (ih held)
  | fresh names directory absent =>
      rw [absent] at held
      cases held
  | stops names directory found unfollowed =>
      obtain ⟨others, there⟩ := directories _ _ directory
      obtain ⟨next, present, kind⟩ := keeps.kinds _ _ found
      obtain rfl := next.eq_link _ kind
      exact .stops names there present unfollowed
  | follows names directory found goes leads ih =>
      obtain ⟨others, there⟩ := directories _ _ directory
      obtain ⟨next, present, kind⟩ := keeps.kinds _ _ found
      obtain rfl := next.eq_link _ kind
      exact .follows names there present goes (ih held)
  | rests closed none leads ih =>
      obtain ⟨other, there, kind⟩ := keeps.kinds _ _ closed
      obtain rfl := other.eq_closedDirectory kind
      exact .rests there none (ih held)

theorem parts_ne_nil (path : PathName) : parts path ≠ [] :=
  Text.pieces_ne_nil PathName.slash path

theorem entryAt_dropLast (files : FileSystem) (place : Location) (entries : Listing)
    (directory : files.entryAt place = some (.directory entries)) :
    ∃ others, files.entryAt place.dropLast = some (.directory others) := by
  by_cases top : place = []
  · subst top
    exact ⟨entries, directory⟩
  · rw [entryAt, ← List.dropLast_concat_getLast top, entryFrom_append,
      Option.bind_eq_some_iff] at directory
    obtain ⟨above, held, inside⟩ := directory
    obtain ⟨others, inner, rfl, -⟩ := entryFrom_cons above _ _ [] inside
    exact ⟨others, held⟩

/-- Where a path whose links are followed ends: at an entry that is no link, or at an empty place
in a directory. -/
structure Lands (files : FileSystem) (place : Location) : Prop where
  solid : ∀ entry, files.entryAt place = some entry → ∀ target, entry.kind ≠ .link target
  above : files.entryAt place = none → ∃ above name entries, place = above ++ [name] ∧
    files.entryAt above = some (.directory entries)

/-- An entry that is no link, if there is one at the place. -/
def Solid (files : FileSystem) (place : Location) : Prop :=
  ∀ entry, files.entryAt place = some entry → ∀ target, entry.kind ≠ .link target

theorem solid_of_directory (files : FileSystem) (place : Location) (entries : Listing)
    (directory : files.entryAt place = some (.directory entries)) : Solid files place := by
  intro entry held target
  rw [directory, Option.some.injEq] at held
  subst held
  exact EntryKind.noConfusion

theorem Leads.solid {files : FileSystem} {follow : Bool} {fuel links : Nat} {here place : Location}
    {path : List PathName} (leads : Leads files follow fuel links here path place)
    (followed : follow = true) (start : path = [] → Solid files here) : Solid files place := by
  induction leads with
  | arrived fuel links here => exact start rfl
  | stays directory stays leads ih => exact ih fun _ => solid_of_directory files _ _ directory
  | rises directory moves rises leads ih =>
      obtain ⟨others, above⟩ := entryAt_dropLast files _ _ directory
      exact ih fun _ => solid_of_directory files _ _ above
  | enters names directory found solid leads ih =>
      refine ih fun _ entry held => ?_
      rw [found, Option.some.injEq] at held
      exact held ▸ solid
  | fresh names directory absent =>
      intro entry held
      rw [absent] at held
      cases held
  | stops names directory found unfollowed =>
      rw [followed] at unfollowed
      cases unfollowed
  | @follows fuel links here place part target later entries names directory found goes leads ih =>
      exact ih fun none => absurd (List.append_eq_nil_iff.mp none).1 (parts_ne_nil target)
  | rests closed none leads ih =>
      refine ih fun _ entry held target => ?_
      rw [closed, Option.some.injEq] at held
      exact held ▸ EntryKind.noConfusion

theorem not_mem_of_mem_parts (path part : PathName) (among : part ∈ parts path) :
    PathName.slash ∉ part :=
  Text.not_mem_of_mem_pieces PathName.slash path part among

theorem Names.isName {part : PathName} (names : Names part) (whole : PathName.slash ∉ part) :
    PathName.isName part = true := by
  have stays := names.stays
  rw [Bool.or_eq_false_iff, List.isEmpty_eq_false_iff, beq_eq_false_iff_ne] at stays
  exact (PathName.isName_iff part).mpr
    ⟨stays.1, whole, stays.2, beq_eq_false_iff_ne.mp names.rises⟩

/-- An empty place at which something can be made: it has a name, and lies in a directory. -/
structure Vacant (files : FileSystem) (place : Location) : Prop where
  absent : files.entryAt place = none
  above : ∃ above name entries, place = above ++ [name] ∧ PathName.isName name = true ∧
    files.entryAt above = some (.directory entries)

theorem Leads.vacant {files : FileSystem} {follow : Bool} {fuel links : Nat}
    {here place : Location} {path : List PathName}
    (leads : Leads files follow fuel links here path place)
    (plain : ∀ part ∈ path, PathName.slash ∉ part)
    (start : path = [] → ∃ entry, files.entryAt here = some entry)
    (absent : files.entryAt place = none) : Vacant files place := by
  -- The way never goes over an empty place, so only the last name can be that of one.
  have later {part : PathName} {later : List PathName}
      (plain : ∀ other ∈ part :: later, PathName.slash ∉ other) :
      ∀ other ∈ later, PathName.slash ∉ other :=
    fun other among => plain other (List.mem_cons_of_mem part among)
  induction leads with
  | arrived fuel links here =>
      obtain ⟨entry, held⟩ := start rfl
      rw [held] at absent
      cases absent
  | stays directory stays leads ih => exact ih (later plain) (fun _ => ⟨_, directory⟩) absent
  | rises directory moves rises leads ih =>
      obtain ⟨others, above⟩ := entryAt_dropLast files _ _ directory
      exact ih (later plain) (fun _ => ⟨_, above⟩) absent
  | enters names directory found solid leads ih =>
      exact ih (later plain) (fun _ => ⟨_, found⟩) absent
  | fresh names directory none =>
      exact ⟨none, _, _, _, rfl, names.isName (plain _ List.mem_cons_self), directory⟩
  | stops names directory found unfollowed =>
      rw [found] at absent
      cases absent
  | @follows fuel links here place part target rest entries names directory found goes leads ih =>
      refine ih ?_ (fun none => absurd (List.append_eq_nil_iff.mp none).1 (parts_ne_nil target))
        absent
      exact List.forall_mem_append.mpr ⟨not_mem_of_mem_parts target, later plain⟩
  | rests closed none leads ih => exact ih (later plain) (fun _ => ⟨_, closed⟩) absent

theorem KeepsKinds.resolve {before after : FileSystem} (keeps : KeepsKinds before after)
    (follow : Bool) (path : PathName) (place : Location) (entry : Entry)
    (resolved : before.resolve follow path = .ok place) (held : before.entryAt place = some entry) :
    after.resolve follow path = .ok place := by
  rw [FileSystem.resolve] at resolved ⊢
  split at resolved
  · cases resolved
  · rename_i given
    rw [if_neg given]
    split at resolved
    · cases resolved
    · rename_i fits
      have led := keeps.leads (leads_of_resolveFrom before _ _ _ _ _ _ resolved) held
      rw [if_neg fits, keeps.workingDirectory]
      exact resolveFrom_of_leads after _ _ _ _ _ _ led

theorem find_eq_ok (files : FileSystem) (path : PathName) (place : Location) (entry : Entry) :
    files.find path = .ok (place, entry) ↔
      files.resolve true path = .ok place ∧ files.entryAt place = some entry := by
  simp only [FileSystem.find, bind, Except.bind]
  cases files.resolve true path with
  | error fault => simp only [reduceCtorEq, false_and]
  | ok here =>
      rw [Except.ok.injEq]
      constructor
      · intro found
        cases there : files.entryAt here with
        | none =>
            simp only [there] at found
            cases found
        | some other =>
            simp only [there] at found
            cases found
            exact ⟨rfl, there⟩
      · rintro ⟨rfl, held⟩
        simp only [held]
        rfl

theorem resolve_vacant (files : FileSystem) (follow : Bool) (path : PathName) (place : Location)
    (resolved : files.resolve follow path = .ok place) (absent : files.entryAt place = none) :
    Vacant files place := by
  rw [resolve] at resolved
  split at resolved
  · cases resolved
  · split at resolved
    · cases resolved
    · exact (leads_of_resolveFrom files follow _ _ _ _ _ resolved).vacant
        (not_mem_of_mem_parts path) (fun none => absurd none (parts_ne_nil path)) absent

theorem resolve_lands (files : FileSystem) (path : PathName) (place : Location)
    (resolved : files.resolve true path = .ok place) : Lands files place := by
  refine ⟨?_, fun absent => ?_⟩
  · rw [resolve] at resolved
    split at resolved
    · cases resolved
    · split at resolved
      · cases resolved
      · exact (leads_of_resolveFrom files true _ _ _ _ _ resolved).solid rfl
          fun none => absurd none (parts_ne_nil path)
  · obtain ⟨above, name, entries, same, -, directory⟩ :=
      (resolve_vacant files true path place resolved absent).above
    exact ⟨above, name, entries, same, directory⟩

end SourceIndex.FileSystem
