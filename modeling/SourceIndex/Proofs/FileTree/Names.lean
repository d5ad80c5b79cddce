import SourceIndex.Proofs.Exclusion.Bases
import SourceIndex.Proofs.FileTree.Placing

set_option autoImplicit false

namespace SourceIndex

namespace Listing

def names (listing : Listing) : List PathName := listing.map Prod.fst

theorem mem_of_get? (listing : Listing) (name : PathName) (entry : Entry)
    (found : get? listing name = some entry) : (name, entry) ∈ listing := by
  rw [get?, Option.map_eq_some_iff] at found
  obtain ⟨⟨other, held⟩, first, rfl⟩ := found
  have same : other = name := by simpa using List.find?_some first
  exact same ▸ List.mem_of_find?_eq_some first

theorem mem_put (name : PathName) (entry : Entry) (listing : Listing) (member : PathName × Entry)
    (among : member ∈ put name entry listing) : member = (name, entry) ∨ member ∈ listing := by
  induction listing with
  | nil => exact .inl (List.mem_singleton.mp among)
  | cons head later ih =>
      obtain ⟨other, held⟩ := head
      rw [put] at among
      split at among
      · rcases List.mem_cons.mp among with same | inside
        · exact .inl same
        · exact .inr (List.mem_cons_of_mem _ inside)
      · rcases List.mem_cons.mp among with same | inside
        · exact .inr (same ▸ List.mem_cons_self)
        · exact (ih inside).imp_right (List.mem_cons_of_mem _)

theorem nodup_names_put (name : PathName) (entry : Entry) (listing : Listing)
    (distinct : (names listing).Nodup) : (names (put name entry listing)).Nodup := by
  induction listing with
  | nil => exact List.pairwise_singleton _ name
  | cons head later ih =>
      obtain ⟨other, held⟩ := head
      rw [names, List.map_cons, List.nodup_cons] at distinct
      obtain ⟨apart, rest⟩ := distinct
      rw [put]
      split
      · rename_i same
        rw [names, List.map_cons, List.nodup_cons, ← eq_of_beq same]
        exact ⟨apart, rest⟩
      · rename_i different
        rw [names, List.map_cons, List.nodup_cons]
        refine ⟨fun given => ?_, ih rest⟩
        obtain ⟨member, among, same⟩ := List.mem_map.mp given
        rcases mem_put name entry later member among with rfl | inside
        · exact different (beq_iff_eq.mpr same.symm)
        · exact apart (same ▸ List.mem_map_of_mem inside)

end Listing

namespace Entry

mutual

/-- Whether everything that lies in an entry has a name, which no other entry of the same directory
has. -/
def wellNamed : Entry → Bool
  | .directory entries => allWellNamed entries
  | _ => true

def allWellNamed : List (PathName × Entry) → Bool
  | [] => true
  | (name, entry) :: later =>
    PathName.isName name && later.all (fun other => other.1 != name) && wellNamed entry &&
      allWellNamed later

end

theorem allWellNamed_iff (entries : Listing) : allWellNamed entries = true ↔
    (∀ name entry, (name, entry) ∈ entries →
      PathName.isName name = true ∧ entry.wellNamed = true) ∧
    (Listing.names entries).Nodup := by
  induction entries with
  | nil => simp [allWellNamed, Listing.names]
  | cons head later ih =>
      obtain ⟨name, entry⟩ := head
      have fresh : (later.all fun other => other.1 != name) = true ↔
          name ∉ Listing.names later := by
        simp only [List.all_eq_true, bne_iff_ne, Listing.names, List.mem_map, not_exists, not_and,
          ne_eq]
      simp only [allWellNamed, Bool.and_eq_true, ih, fresh, Listing.names, List.map_cons,
        List.nodup_cons, List.mem_cons, Prod.mk.injEq]
      constructor
      · rintro ⟨⟨⟨named, apart⟩, deeper⟩, inside, distinct⟩
        refine ⟨?_, apart, distinct⟩
        rintro other held (⟨rfl, rfl⟩ | member)
        · exact ⟨named, deeper⟩
        · exact inside other held member
      · rintro ⟨inside, apart, distinct⟩
        obtain ⟨named, deeper⟩ := inside name entry (.inl ⟨rfl, rfl⟩)
        exact ⟨⟨⟨named, apart⟩, deeper⟩, fun other held member => inside other held (.inr member),
          distinct⟩

theorem allWellNamed_put (name : PathName) (entry : Entry) (entries : Listing)
    (given : allWellNamed entries = true) (named : PathName.isName name = true)
    (deeper : entry.wellNamed = true) : allWellNamed (Listing.put name entry entries) = true := by
  rw [allWellNamed_iff] at given ⊢
  obtain ⟨inside, distinct⟩ := given
  refine ⟨?_, Listing.nodup_names_put name entry entries distinct⟩
  intro other held member
  rcases Listing.mem_put name entry entries _ member with same | member
  · cases same
    exact ⟨named, deeper⟩
  · exact inside other held member

theorem wellNamed_of_get? {entries : Listing} {name : PathName} {entry : Entry}
    (given : (directory entries).wellNamed = true)
    (found : Listing.get? entries name = some entry) : entry.wellNamed = true :=
  (((allWellNamed_iff entries).mp given).1 name entry (Listing.mem_of_get? _ _ _ found)).2

end Entry

namespace FileSystem

theorem wellNamed_of_entryFrom (entry found : Entry) (place : Location)
    (given : entry.wellNamed = true) (held : entryFrom entry place = some found) :
    found.wellNamed = true := by
  induction place generalizing entry with
  | nil =>
      rw [entryFrom, Option.some.injEq] at held
      exact held ▸ given
  | cons name names ih =>
      obtain ⟨entries, inner, rfl, present, deeper⟩ := entryFrom_cons entry found name names held
      exact ih inner (Entry.wellNamed_of_get? given present) deeper

/-- Names are left as they are where an entry is put in the place of another one, or at a place
with a name. -/
theorem wellNamed_placed (new entry : Entry) (location : Location)
    (given : entry.wellNamed = true) (fresh : new.wellNamed = true)
    (named : entryFrom entry location = none → ∃ above name, location = above ++ [name] ∧
      PathName.isName name = true) :
    (placed new entry location).wellNamed = true := by
  induction location generalizing entry with
  | nil => rwa [placed_nil]
  | cons first later ih =>
      cases entry with
      | directory entries =>
          rw [Entry.wellNamed] at given
          cases found : Listing.get? entries first with
          | some inner =>
              have member := Listing.mem_of_get? entries first inner found
              obtain ⟨isName, deeper⟩ := ((Entry.allWellNamed_iff entries).mp given).1 _ _ member
              rw [placed_found new inner entries first later found, Entry.wellNamed]
              refine Entry.allWellNamed_put first _ entries given isName (ih inner deeper ?_)
              intro absent
              obtain ⟨above, name, same, last⟩ := named (by simpa only [entryFrom, found])
              cases above with
              | nil =>
                  obtain ⟨rfl, rfl⟩ := List.cons.inj same
                  rw [entryFrom] at absent
                  cases absent
              | cons other above => exact ⟨above, name, (List.cons.inj same).2, last⟩
          | none =>
              rw [placed_fresh new entries first later found, Entry.wellNamed]
              cases later with
              | cons next later => exact given
              | nil =>
                  obtain ⟨above, name, same, isName⟩ := named (by simp only [entryFrom, found])
                  have last : PathName.isName first = true := by
                    rw [← List.nil_append [first]] at same
                    exact (List.cons.inj (List.append_inj_right' same rfl)).1 ▸ isName
                  exact Entry.allWellNamed_put first new entries given last fresh
      | _ => rwa [placed_other new _ first later fun _ => Entry.noConfusion]

end FileSystem

end SourceIndex
