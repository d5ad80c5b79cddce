import SourceIndex.Config
import SourceIndex.Report

set_option autoImplicit false

namespace SourceIndex

/-- A call of a collaborator. -/
inductive Call where
  | rank (query : String) (count : Nat)
  | complete (messages : List Message)
deriving DecidableEq, Repr, Inhabited

/-- The ranker and the completion, if there is one, over a state of the world. -/
structure Collaborators (σ : Type) where
  rank : String → Nat → StateM σ (Except RetrievalFailure (List RankedChunk))
  complete : Option (List Message → StateM σ (Except CompletionFailure String))

/-- What a question gives: the calls that were made, in order, and the answer or a failure. -/
structure Asked where
  calls : List Call
  result : Except Failure Answer

/-- A question that may be put to the ranker. -/
structure Question where
  query : String
  count : Nat
deriving DecidableEq, Repr, Inhabited

/-- The question with its blanks trimmed, and the number of chunks wanted. `answerable` says that
someone can answer it, or that only the prompt is wanted. -/
def Question.check (config : Config) (query : String) (top : Option Nat) (answerable : Bool) :
    Except Failure Question :=
  let query := Text.trimString query
  let count := top.getD config.retrieval.topK
  if query.isEmpty then .error (.validation (.empty "query"))
  else if count == 0 then .error (.validation (.invalidValue "top" "must be greater than 0"))
  else if !answerable then .error (.completion .notConfigured)
  else .ok ⟨query, count⟩

/-- Asks a question. With `promptOnly` the completion is not called. -/
def ask {σ : Type} (config : Config) (collaborators : Collaborators σ) (query : String)
    (top : Option Nat) (promptOnly : Bool) : StateM σ Asked := do
  let completion := if promptOnly then none else collaborators.complete
  match Question.check config query top (promptOnly || collaborators.complete.isSome) with
  | .error failure => return ⟨[], .error failure⟩
  | .ok question =>
    let ranked := Call.rank question.query question.count
    match ← collaborators.rank question.query question.count with
    | .error cause => return ⟨[ranked], .error (.retrieval cause)⟩
    | .ok chunks =>
      let prompt := Conversation.prompt config.completion.systemPrompt question.query chunks
      match completion with
      | none => return ⟨[ranked], .ok ⟨chunks, prompt, none⟩⟩
      | some complete =>
        match ← complete prompt with
        | .error cause => return ⟨[ranked, .complete prompt], .error (.completion cause)⟩
        | .ok text => return ⟨[ranked, .complete prompt], .ok ⟨chunks, prompt, some text⟩⟩

end SourceIndex
