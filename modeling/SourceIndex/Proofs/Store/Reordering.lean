import SourceIndex.Proofs.FileTree.Reordering
import SourceIndex.Proofs.Store.Creation

set_option autoImplicit false

namespace SourceIndex

/-- Two attempts that fail for one reason, or have related results. -/
inductive Concur {ε α β : Type} (related : α → β → Prop) : Except ε α → Except ε β → Prop where
  | fault (fault : ε) : Concur related (.error fault) (.error fault)
  | result {first : α} {second : β} (same : related first second) :
      Concur related (.ok first) (.ok second)

theorem Concur.cases {ε α β : Type} {related : α → β → Prop} {first : Except ε α}
    {second : Except ε β} (concur : Concur related first second) :
    (∃ fault, first = .error fault ∧ second = .error fault) ∨
      ∃ value value', first = .ok value ∧ second = .ok value' ∧ related value value' := by
  cases concur with
  | fault fault => exact .inl ⟨fault, rfl, rfl⟩
  | result same => exact .inr ⟨_, _, rfl, rfl, same⟩

theorem Concur.of_ok {ε α β : Type} {related : α → β → Prop} {first : Except ε α}
    {second : Except ε β} {value : α} (concur : Concur related first second)
    (given : first = .ok value) : ∃ value', second = .ok value' ∧ related value value' := by
  cases concur with
  | fault fault => cases given
  | result same =>
      cases given
      exact ⟨_, rfl, same⟩

theorem Concur.bind {ε α β γ δ : Type} {related : α → β → Prop} {related' : γ → δ → Prop}
    {first : Except ε α} {second : Except ε β} {next : α → Except ε γ} {next' : β → Except ε δ}
    (concur : Concur related first second)
    (onward : ∀ value value', related value value' →
      Concur related' (next value) (next' value')) :
    Concur related' (first.bind next) (second.bind next') := by
  cases concur with
  | fault fault => exact .fault fault
  | result same => exact onward _ _ same

theorem Concur.mapError {ε δ α β : Type} {related : α → β → Prop} {first : Except ε α}
    {second : Except ε β} (concur : Concur related first second) (name : ε → δ) :
    Concur related (first.mapError name) (second.mapError name) := by
  cases concur with
  | fault fault => exact .fault (name fault)
  | result same => exact .result same

namespace FileSystem

def SamePlace {α : Type} (related : α → α → Prop) (first second : Location × α) : Prop :=
  first.1 = second.1 ∧ related first.2 second.2

/-- A store is made once the directories are there that it lies in. -/
theorem createStore_eq (files : FileSystem) (path : String) :
    files.createStore path =
      ((match parent? path with
        | some above => files.makeAll above
        | none => .ok files).bind fun ready => ready.create path).mapError
          fun fault : PathFault => .indexing (.writeFailed path fault.message) := by
  rw [FileSystem.createStore]
  cases parent? path with
  | none =>
      dsimp only [bind, Except.bind, pure, Except.pure]
      cases files.create path <;> rfl
  | some above =>
      dsimp only [bind, Except.bind, pure, Except.pure]
      cases files.makeAll above with
      | error fault => rfl
      | ok ready =>
          dsimp only
          cases ready.create path <;> rfl

namespace Reordered

variable {files others : FileSystem}

theorem find (reordered : files.Reordered others) (path : PathName) :
    Concur (SamePlace Entry.Reordered) (files.find path) (others.find path) := by
  simp only [FileSystem.find, bind, Except.bind, reordered.resolve]
  split
  · exact .fault _
  · rename_i place resolved
    rcases reordered.entryAt_cases place with ⟨none, none'⟩ | ⟨held, held', found, found', same⟩
    · rw [none, none']
      exact .fault _
    · rw [found, found']
      exact .result ⟨rfl, same⟩

theorem isDirectory (reordered : files.Reordered others) (path : PathName) :
    others.isDirectory path = files.isDirectory path := by
  rw [FileSystem.isDirectory, FileSystem.isDirectory]
  rcases (reordered.find path).cases with
    ⟨fault, failed, failed'⟩ | ⟨⟨_, entry⟩, ⟨_, entry'⟩, found, found', -, same⟩
  · rw [failed, failed']
  · rw [found, found']
    cases same <;> rfl

theorem makeDirectory (reordered : files.Reordered others) (path : PathName) :
    Concur Reordered (files.makeDirectory path) (others.makeDirectory path) := by
  simp only [FileSystem.makeDirectory, bind, Except.bind, reordered.resolve]
  split
  · exact .fault _
  · rename_i place resolved
    rcases reordered.entryAt_cases place with ⟨none, none'⟩ | ⟨held, held', found, found', -⟩
    · rw [none, none']
      have vacant := resolve_vacant files false path place resolved none
      have named := wellNamed_put files place .empty reordered.named rfl fun _ => vacant
      exact .result (reordered.put place (.refl .empty) named)
    · rw [found, found']
      exact .fault _

/-- A directory that is there already is left as it is in both trees. -/
theorem settle (reordered : files.Reordered others) (path : PathName) (fault : PathFault) :
    Concur Reordered (if files.isDirectory path then .ok files else .error fault)
      (if others.isDirectory path then .ok others else .error fault) := by
  rw [reordered.isDirectory]
  split
  · exact .result reordered
  · exact .fault fault

theorem makeDirectories (reordered : files.Reordered others) (fuel : Nat) (path : PathName) :
    Concur Reordered (FileSystem.makeDirectories fuel files path)
      (FileSystem.makeDirectories fuel others path) := by
  induction fuel generalizing files others path with
  | zero => exact .fault _
  | succ fuel ih =>
      rw [FileSystem.makeDirectories, FileSystem.makeDirectories]
      split
      · exact .result reordered
      · rcases (reordered.makeDirectory path).cases with
          ⟨fault, failed, failed'⟩ | ⟨made, made', step, step', same⟩
        · rw [failed, failed']
          cases fault with
          | missing =>
              dsimp only
              split
              · exact .fault _
              · rename_i above _
                refine (ih reordered above).bind fun ready ready' same => ?_
                rcases (same.makeDirectory path).cases with
                  ⟨fault, failed, failed'⟩ | ⟨made, made', step, step', same'⟩
                · rw [failed, failed']
                  exact same.settle path fault
                · rw [step, step']
                  exact .result same'
          | _ => exact reordered.settle path _
        · rw [step, step']
          exact .result same

theorem create (reordered : files.Reordered others) (path : PathName) :
    Concur (SamePlace Reordered) (files.create path) (others.create path) := by
  simp only [FileSystem.create, bind, Except.bind, reordered.resolve]
  split
  · split <;> exact .fault _
  · split
    · exact .fault _
    · rename_i place resolved
      have named := wellNamed_put files place (.file []) reordered.named rfl
        (resolve_vacant files true path place resolved)
      have emptied : Concur (SamePlace Reordered) (Except.ok (place, files.put place (.file [])))
          (Except.ok (place, others.put place (.file [])) : Except PathFault _) :=
        .result ⟨rfl, reordered.put place (.refl _) named⟩
      rcases reordered.entryAt_cases place with ⟨none, none'⟩ | ⟨held, held', found, found', same⟩
      · rw [none, none']
        exact emptied
      · rw [found, found']
        cases same with
        | directory listed => exact .fault _
        | device kind => exact .result ⟨rfl, reordered⟩
        | closedFile size => exact .fault _
        | closedDirectory => exact .fault _
        | file content => exact emptied
        | link target => exact emptied

/-- A store is made at one place in both trees, or in neither of them. -/
theorem createStore (reordered : files.Reordered others) (path : String) :
    Concur (SamePlace Reordered) (files.createStore path) (others.createStore path) := by
  have ready : Concur Reordered
      (match parent? path with
        | some above => files.makeAll above
        | none => .ok files)
      (match parent? path with
        | some above => others.makeAll above
        | none => .ok others) := by
    split
    · exact reordered.makeDirectories _ _
    · exact .result reordered
  rw [createStore_eq, createStore_eq]
  exact (ready.bind fun _ _ same => same.create path).mapError _

theorem exists_createStore (reordered : files.Reordered others) {path : String}
    {location : Location} {made : FileSystem}
    (created : files.createStore path = .ok (location, made)) :
    ∃ made', others.createStore path = .ok (location, made') ∧ made.Reordered made' := by
  obtain ⟨⟨_, made'⟩, created', rfl, same⟩ := (reordered.createStore path).of_ok created
  exact ⟨made', created', same⟩

end Reordered

end FileSystem

end SourceIndex
