import SourceIndex.Proofs.Json.Layouts
import SourceIndex.Proofs.Json.Reading

set_option autoImplicit false

namespace SourceIndex.Json

/-- Names grow from member to member, so each stands once. -/
def Ordered (members : List (String × Json)) : Prop :=
  members.Pairwise fun first second => first.1 < second.1

theorem mem_insertMember {name : String} {value : Json} {members : List (String × Json)}
    {entry : String × Json} (member : entry ∈ insertMember name value members) :
    entry = (name, value) ∨ entry ∈ members := by
  induction members with
  | nil => exact .inl (List.mem_singleton.mp member)
  | cons head members ih =>
      rw [insertMember] at member
      split at member
      · exact (List.mem_cons.mp member).imp_right (List.mem_cons_of_mem head)
      split at member
      · exact List.mem_cons.mp member
      · rcases List.mem_cons.mp member with rfl | member
        · exact .inr List.mem_cons_self
        · exact (ih member).imp_right (List.mem_cons_of_mem head)

theorem ordered_insertMember (name : String) (value : Json) {members : List (String × Json)}
    (ordered : Ordered members) : Ordered (insertMember name value members) := by
  induction members with
  | nil => exact List.pairwise_singleton _ _
  | cons head members ih =>
      obtain ⟨above, later⟩ := List.pairwise_cons.mp ordered
      rw [insertMember]
      split
      · rename_i same
        rw [beq_iff_eq] at same
        exact List.pairwise_cons.mpr ⟨fun entry member => same ▸ above entry member, later⟩
      split
      · rename_i less
        refine List.pairwise_cons.mpr ⟨fun entry member => ?_, ordered⟩
        rcases List.mem_cons.mp member with rfl | member
        · exact less
        · exact String.lt_trans less (above entry member)
      · rename_i other notLess
        have more : head.1 < name := Std.lt_of_le_of_ne (String.not_lt.mp notLess)
          fun same => other (beq_iff_eq.mpr same.symm)
        refine List.pairwise_cons.mpr ⟨fun entry member => ?_, ih later⟩
        rcases mem_insertMember member with rfl | member
        · exact more
        · exact above entry member

theorem member?_cons (key name : String) (value : Json) (members : List (String × Json)) :
    member? key (.object ((name, value) :: members)) =
      if name = key then some value else member? key (.object members) := by
  by_cases same : name = key
  · simp only [member?, List.find?_cons, same, beq_self_eq_true, Option.map_some, ↓reduceIte]
  · have other : (name == key) = false := beq_eq_false_iff_ne.mpr same
    simp only [member?, List.find?_cons, other, same, ↓reduceIte]

theorem member?_insertMember (key name : String) (value : Json) (members : List (String × Json)) :
    member? key (.object (insertMember name value members)) =
      if name = key then some value else member? key (.object members) := by
  induction members with
  | nil => rw [insertMember, member?_cons]
  | cons head members ih =>
      obtain ⟨other, held⟩ := head
      rw [insertMember]
      split
      · rename_i same
        obtain rfl : name = other := beq_iff_eq.mp same
        by_cases here : name = key
        · rw [member?_cons, if_pos here, if_pos here]
        · rw [member?_cons, member?_cons, if_neg here, if_neg here, if_neg here]
      split
      · rw [member?_cons]
      · rename_i different _
        rw [member?_cons, ih, member?_cons]
        by_cases here : name = key
        · have apart : other ≠ key := fun same => different (beq_iff_eq.mpr (here.trans same.symm))
          rw [if_pos here, if_pos here, if_neg apart]
        · rw [if_neg here, if_neg here]

theorem member?_eq_some_iff {members : List (String × Json)} (ordered : Ordered members)
    (name : String) (value : Json) :
    member? name (.object members) = some value ↔ (name, value) ∈ members := by
  induction members with
  | nil => constructor <;> intro absent <;> cases absent
  | cons head members ih =>
      obtain ⟨other, held⟩ := head
      obtain ⟨above, later⟩ := List.pairwise_cons.mp ordered
      rw [member?_cons, List.mem_cons, Prod.mk.injEq]
      by_cases here : other = name
      · have absent : (name, value) ∉ members := fun member =>
          String.lt_irrefl name (here ▸ above _ member)
        simp [here, absent, eq_comm]
      · simp [here, Ne.symm here, ih later]

/-- What is made of members that are read one after the other. -/
def gather (members : List (String × Json)) : List (String × Json) :=
  members.foldl (fun found member => insertMember member.1 member.2 found) []

/-- The value of the last member called `name`. -/
def lastCalled (name : String) : List (String × Json) → Option Json
  | [] => none
  | (key, value) :: members =>
    (lastCalled name members).or (if key = name then some value else none)

theorem member?_gather (name : String) (members : List (String × Json)) :
    member? name (.object (gather members)) = lastCalled name members := by
  have from' (found : List (String × Json)) :
      member? name (.object (members.foldl
        (fun found member => insertMember member.1 member.2 found) found)) =
        (lastCalled name members).or (member? name (.object found)) := by
    induction members generalizing found with
    | nil => rfl
    | cons head members ih =>
        rw [List.foldl_cons, ih, member?_insertMember, lastCalled]
        cases lastCalled name members with
        | some value => rfl
        | none => split <;> rfl
  rw [gather, from']
  exact Option.or_none

/-- A value that some text gives. -/
inductive Readable : Json → Prop
  | null : Readable .null
  | bool (value : Bool) : Readable (.bool value)
  | number (value : Json) (numeric : Numeric value) : Readable value
  | string (value : String) : Readable (.string value)
  | array (items : List Json) (each : ∀ item ∈ items, Readable item) : Readable (.array items)
  | object (members : List (String × Json)) (ordered : Ordered members)
      (each : ∀ member ∈ members, Readable member.2) : Readable (.object members)

theorem readWith_readable {bound : Nat} {inner : Option (Scan Json)}
    (within : ∀ read, inner = some read → ∀ text value rest, read text = .ok (value, rest) →
      Readable value)
    {text rest : List Char} {value : Json} (read : readWith bound inner text = .ok (value, rest)) :
    Readable value := by
  obtain ⟨c, later, -, from'⟩ := readWith_eq_ok read
  cases from' with
  | null => exact .null
  | yes => exact .bool true
  | no => exact .bool false
  | number c value opens numeric => exact .number value numeric
  | string value => exact .string value
  | array reader items text rest given inside =>
      exact .array items (forall_mem_readItems (within reader given) (List.forall_mem_nil _) inside)
  | object reader members text rest given inside =>
      have kept := readMembers_keeps
        (P := fun members => Ordered members ∧ ∀ member ∈ members, Readable member.2)
        (fun before name text after rest kept step => by
          obtain ⟨colon, -, step⟩ := bind_eq_ok.mp step
          obtain ⟨⟨value, later⟩, here, same⟩ := bind_eq_ok.mp step
          cases same
          refine ⟨ordered_insertMember name value kept.1, fun member inside => ?_⟩
          rcases mem_insertMember inside with rfl | inside
          · exact within reader given _ value _ here
          · exact kept.2 member inside)
        ⟨List.Pairwise.nil, List.forall_mem_nil _⟩ inside
      exact .object members kept.1 kept.2

theorem readValue_readable {bound depth : Nat} {text rest : List Char} {value : Json}
    (read : readValue bound depth text = .ok (value, rest)) : Readable value := by
  induction depth generalizing text value rest with
  | zero =>
      refine readWith_readable (fun inner absent => ?_) read
      cases absent
  | succ depth ih =>
      refine readWith_readable (fun inner given text value rest inside => ?_) read
      cases given
      exact ih inside

theorem parse_readable {text : String} {value : Json} (read : parse text = .ok value) :
    Readable value := by
  obtain ⟨⟨value, rest⟩, first, read⟩ := bind_eq_ok.mp read
  obtain ⟨⟨⟩, -, same⟩ := bind_eq_ok.mp read
  cases same
  exact readValue_readable first

/-- A value as it is written, with at most so many lists and objects in one another, and what its
text gives in every layout. Members may be written in any order, and a name more than once. -/
inductive Rereads : Nat → Json → Json → Prop
  | scalar (depth : Nat) (written value : Json)
      (reads : ∀ layout bound inner, ReadsBack layout bound (readWith bound inner) written value) :
      Rereads depth written value
  | array (depth : Nat) (items : List (Json × Json))
      (each : ∀ item ∈ items, Rereads depth item.1 item.2) :
      Rereads (depth + 1) (.array (items.map (·.1))) (.array (items.map (·.2)))
  | object (depth : Nat) (members : List (String × Json × Json))
      (each : ∀ member ∈ members, Rereads depth member.2.1 member.2.2) :
      Rereads (depth + 1) (.object (members.map fun member => (member.1, member.2.1)))
        (.object (gather (members.map fun member => (member.1, member.2.2))))

theorem Rereads.string (depth : Nat) (value : String) :
    Rereads depth (.string value) (.string value) :=
  .scalar depth _ _ fun _ bound inner =>
    ⟨readWith_skipSpaces bound inner,
      fun rest room _ => readWith_quoted bound inner value rest room⟩

theorem readValue_skipSpaces (bound depth : Nat) (text : List Char) :
    readValue bound depth (skipSpaces text) = readValue bound depth text := by
  cases depth <;> exact readWith_skipSpaces bound _ text

/-- Members are taken in one after the other, each in its place by name. -/
theorem takesIn_gather (layout : Layout) (bound : Nat) (read : Scan Json)
    (members : List (String × Json × Json))
    (each : ∀ member ∈ members, ReadsBack layout.inner bound read member.2.1 member.2.2)
    (found : List (String × Json)) :
    TakesIn layout bound
      (fun (members : List (String × Json)) name => fun text => do
        let text ← scanColon text
        let (value, text) ← read text
        return (insertMember name value members, text))
      found (members.map fun member => (member.1, member.2.1))
      ((members.map fun member => (member.1, member.2.2)).foldl
        (fun found member => insertMember member.1 member.2 found) found) := by
  induction members generalizing found with
  | nil => exact .none found
  | cons member members ih =>
      obtain ⟨here, later⟩ := List.forall_mem_cons.mp each
      refine .member found _ _ member.1 member.2.1 _ (fun rest room ends => ?_)
        (ih later (insertMember member.1 member.2.2 found))
      have value : read (layout.gap ++ (member.2.1.render layout.inner ++ rest)) =
          .ok (member.2.2, rest) := by
        rw [← here.passes, skipSpaces_gap, here.passes, here.back rest room ends]
      simp only [scanColon_colon, bind, Except.bind, value]
      rfl

theorem Rereads.readsBack {depth : Nat} {written value : Json}
    (rereads : Rereads depth written value) (layout : Layout) (bound : Nat) :
    ReadsBack layout bound (readValue bound depth) written value := by
  refine ⟨readValue_skipSpaces bound depth, ?_⟩
  induction rereads generalizing layout with
  | scalar depth written value reads =>
      cases depth <;> exact (reads layout bound _).back
  | array depth items each ih =>
      intro rest room ends
      obtain ⟨text, opens, inside⟩ := readItems_render layout bound (readValue bound depth) items
        (fun item member => ⟨readValue_skipSpaces bound depth, ih item member layout.inner⟩) rest
        room
      rw [opens]
      simp only [readValue, readWith, skipSpaces_cons '[' _ rfl, show ('[' == 'n') = false from rfl,
        show ('[' == 't') = false from rfl, show ('[' == 'f') = false from rfl,
        show ('[' == '-') = false from rfl, show isDigit '[' = false from rfl,
        show ('[' == '"') = false from rfl, beq_self_eq_true, Bool.false_eq_true, ↓reduceIte,
        inside, bind, Except.bind, closeList, skipSpaces_cons ']' _ rfl]
      rfl
  | object depth members each ih =>
      intro rest room ends
      have takes := takesIn_gather layout bound (readValue bound depth) members
        (fun member inside => ⟨readValue_skipSpaces bound depth, ih member inside layout.inner⟩) []
      obtain ⟨text, opens, inside⟩ := readMembers_render layout bound _ takes rest room
      rw [opens]
      simp only [readValue, readWith, skipSpaces_cons '\x7b' _ rfl,
        show ('\x7b' == 'n') = false from rfl, show ('\x7b' == 't') = false from rfl,
        show ('\x7b' == 'f') = false from rfl, show ('\x7b' == '-') = false from rfl,
        show isDigit '\x7b' = false from rfl, show ('\x7b' == '"') = false from rfl,
        show ('\x7b' == '[') = false from rfl, beq_self_eq_true, Bool.false_eq_true, ↓reduceIte]
      simp only [bind, Except.bind] at inside ⊢
      simp only [inside, closeObject, skipSpaces_cons '\x7d' _ rfl, beq_self_eq_true, ↓reduceIte]
      rfl

theorem Rereads.parse_render {written value : Json} (rereads : Rereads depthLimit written value)
    (layout : Layout) : parse (String.ofList (written.render layout)) = .ok value := by
  have text := (rereads.readsBack layout ((written.render layout).length + 1)).back []
    (by rw [List.append_nil]; exact Nat.lt_succ_self _) rfl
  rw [List.append_nil] at text
  simp only [parse, String.toList_ofList, text, bind, Except.bind, closeText]
  rfl

end SourceIndex.Json
