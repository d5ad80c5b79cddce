import SourceIndex.Proofs.Json.Conforming
import SourceIndex.Proofs.Json.Members

set_option autoImplicit false

namespace SourceIndex.Json

/-- The fields of a record: for a name, the field that goes by it and how its value is taken. -/
abbrev FieldTaker := String → Option (String × (Json → Except Cause Json))

/-- What members give, in their order: nothing if no field goes by the name, and else the field with
its value. -/
inductive Gives (taker : FieldTaker) : List (String × Json) → List (String × Json) → Prop
  | none : Gives taker [] []
  | passed (key : String) (value : Json) (members found : List (String × Json))
      (unknown : taker key = none) (later : Gives taker members found) :
      Gives taker ((key, value) :: members) found
  | taken (key own : String) (value given : Json) (take : Json → Except Cause Json)
      (members found : List (String × Json)) (known : taker key = some (own, take))
      (here : take value = .ok given) (later : Gives taker members found) :
      Gives taker ((key, value) :: members) ((own, given) :: found)

variable {taker : FieldTaker} {members found : List (String × Json)}

theorem Gives.mem_iff (gives : Gives taker members found) (own : String) (given : Json) :
    (own, given) ∈ found ↔ ∃ key value take, (key, value) ∈ members ∧
      taker key = some (own, take) ∧ take value = .ok given := by
  induction gives with
  | none =>
      constructor
      · intro absent
        cases absent
      · rintro ⟨key, value, take, absent, -⟩
        cases absent
  | passed key value members found unknown later ih =>
      rw [ih]
      constructor
      · rintro ⟨other, held, take, member, known, here⟩
        exact ⟨other, held, take, List.mem_cons_of_mem _ member, known, here⟩
      · rintro ⟨other, held, take, member, known, here⟩
        rcases List.mem_cons.mp member with same | member
        · cases same
          rw [unknown] at known
          cases known
        · exact ⟨other, held, take, member, known, here⟩
  | taken key name value held take members found known here later ih =>
      rw [List.mem_cons, ih]
      constructor
      · rintro (same | ⟨other, held, take, member, known, here⟩)
        · cases same
          exact ⟨key, value, take, List.mem_cons_self, known, here⟩
        · exact ⟨other, held, take, List.mem_cons_of_mem _ member, known, here⟩
      · rintro ⟨other, kept, take', member, known', here'⟩
        rcases List.mem_cons.mp member with same | member
        · cases same
          cases known.symm.trans known'
          cases here.symm.trans here'
          exact .inl rfl
        · exact .inr ⟨other, kept, take', member, known', here'⟩

theorem Gives.mem_names_iff (gives : Gives taker members found) (own : String) :
    own ∈ found.map (·.1) ↔ ∃ member ∈ members, ∃ take, taker member.1 = some (own, take) := by
  induction gives with
  | none => simp
  | passed key value members found unknown later ih => simp [ih, unknown]
  | taken key name value given take members found known here later ih =>
      simp [ih, known, eq_comm]

/-- Fields are found once each just if no two members go by names of one field. -/
theorem Gives.nodup_iff (gives : Gives taker members found) (ordered : Ordered members) :
    (found.map (·.1)).Nodup ↔ ∀ first ∈ members, ∀ second ∈ members, ∀ own take take',
      taker first.1 = some (own, take) → taker second.1 = some (own, take') → first = second := by
  induction gives with
  | none => simp
  | passed key value members found unknown later ih =>
      rw [ih ordered.of_cons]
      simp [unknown]
  | taken key name value given take members found known here later ih =>
      obtain ⟨above, rest⟩ := List.pairwise_cons.mp ordered
      rw [List.map_cons, List.nodup_cons, ih rest, later.mem_names_iff]
      constructor
      · rintro ⟨fresh, once⟩ first inFirst second inSecond own one other atFirst atSecond
        rcases List.mem_cons.mp inFirst with rfl | inFirst <;>
          rcases List.mem_cons.mp inSecond with rfl | inSecond
        · rfl
        · cases known.symm.trans atFirst
          exact absurd ⟨second, inSecond, other, atSecond⟩ fresh
        · cases known.symm.trans atSecond
          exact absurd ⟨first, inFirst, one, atFirst⟩ fresh
        · exact once first inFirst second inSecond own one other atFirst atSecond
      · intro once
        constructor
        · rintro ⟨member, inside, other, at'⟩
          have same := once _ List.mem_cons_self member (List.mem_cons_of_mem _ inside) name take
            other known at'
          exact String.lt_irrefl member.1 (same ▸ above member inside)
        · exact fun first inFirst second inSecond => once first (List.mem_cons_of_mem _ inFirst)
            second (List.mem_cons_of_mem _ inSecond)

theorem exists_gives (taker : FieldTaker) (members : List (String × Json))
    (each : ∀ member ∈ members, ∀ own take, taker member.1 = some (own, take) →
      ∃ given, take member.2 = .ok given) : ∃ found, Gives taker members found := by
  induction members with
  | nil => exact ⟨[], .none⟩
  | cons member members ih =>
      obtain ⟨here, later⟩ := List.forall_mem_cons.mp each
      obtain ⟨found, gives⟩ := ih later
      cases known : taker member.1 with
      | none => exact ⟨found, .passed _ _ _ _ known gives⟩
      | some field =>
          obtain ⟨given, taken⟩ := here field.1 field.2 known
          exact ⟨_, .taken _ _ _ given _ _ _ known taken gives⟩

/-- Members are taken as fields just if each gives what its field asks for, and no field is found
twice. The last one found stands first. -/
theorem conformMembers_eq_ok_iff (taker : FieldTaker) (before after : List (String × Json)) :
    conformMembers taker members before = .ok after ↔
      ∃ found, Gives taker members found ∧ (found.map (·.1)).Nodup ∧
        (∀ name ∈ found.map (·.1), name ∉ before.map (·.1)) ∧ after = found.reverse ++ before := by
  induction members generalizing before with
  | nil =>
      constructor
      · intro same
        cases same
        exact ⟨[], .none, List.nodup_nil, List.forall_mem_nil _, rfl⟩
      · rintro ⟨found, gives, -, -, rfl⟩
        cases gives
        rfl
  | cons member members ih =>
      obtain ⟨key, value⟩ := member
      cases known : taker key with
      | none =>
          simp only [conformMembers, known, ih]
          constructor
          · rintro ⟨found, gives, rest⟩
            exact ⟨found, .passed key value members found known gives, rest⟩
          · rintro ⟨found, gives, rest⟩
            cases gives with
            | passed key value members found unknown later => exact ⟨found, later, rest⟩
            | taken key own value given take members found known' here later =>
                rw [known] at known'
                cases known'
      | some field =>
          obtain ⟨own, take⟩ := field
          simp only [conformMembers, known]
          have seen : (before.any fun member => member.1 == own) = true ↔
              own ∈ before.map (·.1) := by simp
          split
          · rename_i again
            constructor
            · intro absent
              cases absent
            · rintro ⟨found, gives, -, fresh, -⟩
              cases gives with
              | passed key value members found unknown later =>
                  rw [known] at unknown
                  cases unknown
              | taken key name value given take members found known' here later =>
                  cases known.symm.trans known'
                  exact absurd (seen.mp again) (fresh own List.mem_cons_self)
          · rename_i first
            simp only [bind_eq_ok, ih]
            constructor
            · rintro ⟨given, here, found, gives, once, fresh, rfl⟩
              refine ⟨(own, given) :: found,
                .taken key own value given take members found known here gives,
                List.nodup_cons.mpr ⟨fun member => ?_, once⟩, ?_, ?_⟩
              · exact fresh own member List.mem_cons_self
              · exact List.forall_mem_cons.mpr ⟨fun member => first (seen.mpr member),
                  fun name member old => fresh name member (List.mem_cons_of_mem _ old)⟩
              · rw [List.reverse_cons, List.append_assoc, List.singleton_append]
            · rintro ⟨found, gives, once, fresh, rfl⟩
              cases gives with
              | passed key value members found unknown later =>
                  rw [known] at unknown
                  cases unknown
              | taken key name value given take members found known' here later =>
                  cases known.symm.trans known'
                  obtain ⟨distinct, rest⟩ := List.nodup_cons.mp once
                  refine ⟨given, here, found, later, rest, fun other member old => ?_, ?_⟩
                  · rcases List.mem_cons.mp old with rfl | old
                    · exact distinct member
                    · exact fresh other (List.mem_cons_of_mem _ member) old
                  · rw [List.reverse_cons, List.append_assoc, List.singleton_append]

/-- Exactly one of some names stands for a value. -/
def Under (names : List String) (lookup : String → Option Json) (value : Json) : Prop :=
  ∃ name ∈ names, lookup name = some value ∧ ∀ other ∈ names, other ≠ name → lookup other = none

/-- A field of a record: the names it goes by, and how its value is taken. -/
structure GoesBy (taker : FieldTaker) (own : String) (names : List String)
    (take : Json → Except Cause Json) : Prop where
  known (key : String) (member : key ∈ names) : taker key = some (own, take)
  only (key : String) (other : Json → Except Cause Json) (found : taker key = some (own, other)) :
    key ∈ names

theorem mem_names_of_conformField {key own : String} {take : Json → Except Cause Json} :
    {fields : Fields} → conformField fields key = some (own, take) → own ∈ fields.names
  | .none, found => nomatch found
  | .field name aliases fallback shape later, found => by
      rw [conformField] at found
      split at found
      · cases found
        exact List.mem_cons_self
      · exact List.mem_cons_of_mem name (mem_names_of_conformField found)

section

variable (name : String) (aliases : List String) (fallback : Option Json) (shape : Shape)
  (later : Fields)

theorem goesBy_first (apart : name ∉ later.names) :
    GoesBy (fun key => conformField (.field name aliases fallback shape later) key) name
      (name :: aliases) (fun value => conform shape value) := by
  constructor
  · intro key member
    rw [conformField, if_pos]
    simpa using member
  · intro key other found
    rw [conformField] at found
    split at found
    · rename_i here
      simpa using here
    · exact absurd (mem_names_of_conformField found) apart

theorem goesBy_later {own : String} {names : List String} {take : Json → Except Cause Json}
    (field : GoesBy (fun key => conformField later key) own names take) (different : own ≠ name)
    (apart : ∀ key ∈ names, (key == name || aliases.contains key) = false) :
    GoesBy (fun key => conformField (.field name aliases fallback shape later) key) own names
      take := by
  constructor
  · intro key member
    rw [conformField, apart key member, if_neg Bool.false_ne_true]
    exact field.known key member
  · intro key other found
    rw [conformField] at found
    split at found
    · cases found
      exact absurd rfl different
    · exact field.only key other found

end

/-- A field that is found once has the value that stands under exactly one of its names. -/
theorem Gives.field_iff (gives : Gives taker members found) (ordered : Ordered members)
    (once : (found.map (·.1)).Nodup) {own : String} {names : List String}
    {take : Json → Except Cause Json} (field : GoesBy taker own names take) (given : Json) :
    (own, given) ∈ found ↔
      ∃ value, Under names (fun name => member? name (.object members)) value ∧
        take value = .ok given := by
  rw [gives.mem_iff]
  constructor
  · rintro ⟨key, value, take', member, known, here⟩
    have spelled := field.only key take' known
    cases known.symm.trans (field.known key spelled)
    refine ⟨value, ⟨key, spelled, (member?_eq_some_iff ordered key value).mpr member, ?_⟩, here⟩
    intro other listed apart
    refine Option.eq_none_iff_forall_ne_some.mpr fun held found => apart ?_
    have second := (member?_eq_some_iff ordered other held).mp found
    exact congrArg Prod.fst ((gives.nodup_iff ordered).mp once _ second _ member own _ _
      (field.known other listed) known)
  · rintro ⟨value, ⟨key, listed, held, -⟩, here⟩
    exact ⟨key, value, take, (member?_eq_some_iff ordered key value).mp held,
      field.known key listed, here⟩

/-- Only one value stands under the names, and under only one of them. -/
theorem Under.unique {names : List String} {lookup : String → Option Json} {value held : Json}
    {name key : String} (under : Under names lookup value) (first : name ∈ names)
    (second : key ∈ names) (given : lookup name = some held) {other : Json}
    (found : lookup key = some other) : held = value ∧ key = name := by
  obtain ⟨own, listed, stands, apart⟩ := under
  have only (spelling : String) (member : spelling ∈ names) (kept : Json)
      (here : lookup spelling = some kept) : spelling = own := by
    refine Decidable.byContradiction fun different => ?_
    rw [apart spelling member different] at here
    cases here
  obtain rfl := only name first held given
  obtain rfl := only key second other found
  cases given.symm.trans stands
  exact ⟨rfl, rfl⟩

/-- If every field that a member may go by stands under exactly one of its names with a value that
can be taken, all members are taken, and no field is found twice. -/
theorem exists_gives_once (taker : FieldTaker) (ordered : Ordered members)
    (each : ∀ key own take, taker key = some (own, take) → ∃ names value given,
      GoesBy taker own names take ∧
        Under names (fun name => member? name (.object members)) value ∧ take value = .ok given) :
    ∃ found, Gives taker members found ∧ (found.map (·.1)).Nodup := by
  have held (member : String × Json) (inside : member ∈ members) :
      member? member.1 (.object members) = some member.2 :=
    (member?_eq_some_iff ordered member.1 member.2).mpr inside
  obtain ⟨found, gives⟩ := exists_gives taker members
    fun member inside own take known => by
      obtain ⟨names, value, given, field, under, taken⟩ := each member.1 own take known
      have listed := field.only member.1 take known
      obtain ⟨rfl, -⟩ := under.unique listed listed (held member inside) (held member inside)
      exact ⟨given, taken⟩
  refine ⟨found, gives, (gives.nodup_iff ordered).mpr ?_⟩
  intro first inFirst second inSecond own take take' known known'
  obtain ⟨names, value, given, field, under, taken⟩ := each first.1 own take known
  have listed := field.only first.1 take known
  have other := field.only second.1 take' known'
  obtain ⟨one, same⟩ := under.unique listed other (held first inFirst) (held second inSecond)
  obtain ⟨two, -⟩ := under.unique other listed (held second inSecond) (held first inFirst)
  exact Prod.ext same.symm (one.trans two.symm)

/-- A field that has no fallback and may not be null has to be found. -/
theorem complete_required_iff {name : String} {aliases : List String} {shape : Shape}
    {later : Fields} {record : List (String × Json)} (required : shape.isOptional = false)
    (once : (found.map (·.1)).Nodup) :
    complete (.field name aliases none shape later) found = .ok record ↔
      ∃ value rest, record = (name, value) :: rest ∧ (name, value) ∈ found ∧
        complete later found = .ok rest := by
  constructor
  · intro completed
    obtain ⟨value, rest, same, behind, member | absent | ⟨optional, -⟩⟩ := complete_eq_ok completed
    · exact ⟨value, rest, same, member, behind⟩
    · cases absent
    · rw [required] at optional
      cases optional
  · rintro ⟨value, rest, rfl, member, behind⟩
    have here := (find?_eq_some_iff found name (name, value) once).mpr ⟨member, rfl⟩
    simp only [complete, here, behind]
    rfl

/-- A field that has no fallback has to be the next item of a list. -/
theorem conformInOrder_required_iff (name : String) (aliases : List String) (shape : Shape)
    (later : Fields) (index : Nat) (expected : String) (items left : List Json)
    (record : List (String × Json)) :
    conformInOrder (.field name aliases none shape later) index expected items =
        .ok (record, left) ↔
      ∃ item rest given others, items = item :: rest ∧ conform shape item = .ok given ∧
        conformInOrder later (index + 1) expected rest = .ok (others, left) ∧
          record = (name, given) :: others := by
  cases items with
  | nil =>
      constructor
      · intro absent
        obtain ⟨others, lacking, -⟩ := bind_eq_ok.mp absent
        cases lacking
      · rintro ⟨item, rest, given, others, absent, -⟩
        cases absent
  | cons item rest =>
      constructor
      · intro taken
        obtain ⟨given, here, taken⟩ := bind_eq_ok.mp taken
        obtain ⟨⟨others, after⟩, behind, same⟩ := bind_eq_ok.mp taken
        cases same
        exact ⟨item, rest, given, others, rfl, here, behind, rfl⟩
      · rintro ⟨item, rest, given, others, same, here, behind, rfl⟩
        cases same
        exact bind_eq_ok.mpr ⟨given, here, bind_eq_ok.mpr ⟨(others, left), behind, rfl⟩⟩

end SourceIndex.Json
