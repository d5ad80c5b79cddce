import SourceIndex.Ask

/-
Collaborators that note every call show what reaches them: a question gets to the ranker only when
nothing is left to be refused, and to the completion only with chunks.
-/

set_option autoImplicit false

namespace SourceIndex

def Call.isRanking : Call → Bool
  | rank _ _ => true
  | complete _ => false

/-- The same collaborators over a world in which every call that reaches them is noted, the last
one at the end. -/
def Collaborators.noting {σ : Type} (collaborators : Collaborators σ) :
    Collaborators (List Call × σ) where
  rank query count := fun (calls, world) =>
    let (ranked, after) := collaborators.rank query count world
    (ranked, calls ++ [.rank query count], after)
  complete := collaborators.complete.map fun complete messages => fun (calls, world) =>
    let (completed, after) := complete messages world
    (completed, calls ++ [.complete messages], after)

/-- All that the course of a question depends on. -/
structure Inquiry (σ : Type) where
  config : Config
  collaborators : Collaborators σ
  query : String
  top : Option Nat
  promptOnly : Bool
  world : σ

namespace Inquiry

variable {σ : Type} (inquiry : Inquiry σ)

def question : Question :=
  ⟨Text.trimString inquiry.query, inquiry.top.getD inquiry.config.retrieval.topK⟩

/-- Somebody can answer, or only the prompt is wanted. -/
def answerable : Bool := inquiry.promptOnly || inquiry.collaborators.complete.isSome

/-- What can be refused before any call, in the order in which it is. -/
def refusals : List (Option Failure) :=
  [if inquiry.question.query = "" then some (.validation (.empty "query")) else none,
    if inquiry.question.count = 0 then
      some (.validation (.invalidValue "top" "must be greater than 0"))
    else none,
    if inquiry.answerable then none else some (.completion .notConfigured)]

/-- Nothing is to be refused. -/
structure Permitted : Prop where
  query : inquiry.question.query ≠ ""
  count : inquiry.question.count ≠ 0
  answerable : inquiry.promptOnly = true ∨ inquiry.collaborators.complete.isSome = true

/-- What the ranker makes of the question, and the world after it. -/
def ranked : Except RetrievalFailure (List RankedChunk) × σ :=
  inquiry.collaborators.rank inquiry.question.query inquiry.question.count inquiry.world

/-- The messages that ask the question about chunks. -/
def prompt (chunks : List RankedChunk) : List Message :=
  Conversation.prompt inquiry.config.completion.systemPrompt inquiry.question.query chunks

/-- What the completion makes of the ranked chunks, if it is wanted and there are chunks. -/
def completed? : Option (Except CompletionFailure String) :=
  match inquiry.promptOnly, inquiry.collaborators.complete, inquiry.ranked with
  | false, some complete, (.ok chunks, world) => some (complete (inquiry.prompt chunks) world).1
  | _, _, _ => none

/-- The failure of a call, in the words of the whole. -/
def failureOf {ε α : Type} (wrap : ε → Failure) : Except ε α → Option Failure
  | .error cause => some (wrap cause)
  | .ok _ => none

/-- All that can fail, in the order in which it is come to. -/
def failures : List (Option Failure) :=
  inquiry.refusals ++
    [failureOf .retrieval inquiry.ranked.1,
      inquiry.completed?.bind (failureOf .completion)]

/-- The first thing to be refused. -/
def refusal? : Option Failure := inquiry.refusals.findSome? id

theorem check_eq :
    Question.check inquiry.config inquiry.query inquiry.top inquiry.answerable =
      match inquiry.refusal? with
      | some failure => .error failure
      | none => .ok inquiry.question := by
  simp only [Question.check, refusal?, refusals, question, String.isEmpty_iff, beq_iff_eq]
  by_cases blank : Text.trimString inquiry.query = ""
  · simp [blank]
  by_cases zero : inquiry.top.getD inquiry.config.retrieval.topK = 0
  · simp [blank, zero]
  cases inquiry.answerable <;> simp [blank, zero]

theorem refusal?_eq_none : inquiry.refusal? = none ↔ inquiry.Permitted := by
  constructor
  · intro free
    simp only [refusal?, refusals, List.findSome?_eq_none_iff, List.forall_mem_cons, id_eq,
      ite_eq_right_iff, ite_eq_left_iff, reduceCtorEq, imp_false, Decidable.not_not] at free
    obtain ⟨query, count, answerable, -⟩ := free
    exact ⟨query, count, Bool.or_eq_true_iff.mp answerable⟩
  · rintro ⟨query, count, answerable⟩
    simp [refusal?, refusals, query, count, Inquiry.answerable, answerable]

def asked : Asked × σ :=
  ask inquiry.config inquiry.collaborators inquiry.query inquiry.top inquiry.promptOnly
    inquiry.world

/-- The call that the ranker gets, if it gets one. -/
def ranking : Call := .rank inquiry.question.query inquiry.question.count

theorem asked_of_refusal (failure : Failure) (refused : inquiry.refusal? = some failure) :
    inquiry.asked = (⟨[], .error failure⟩, inquiry.world) := by
  have checked := inquiry.check_eq
  rw [refused, answerable] at checked
  simp only [asked, ask, checked]
  rfl

theorem asked_of_permitted (free : inquiry.refusal? = none) :
    inquiry.asked =
      match inquiry.ranked with
      | (.error cause, after) => (⟨[inquiry.ranking], .error (.retrieval cause)⟩, after)
      | (.ok chunks, after) =>
        match if inquiry.promptOnly then none else inquiry.collaborators.complete with
        | none => (⟨[inquiry.ranking], .ok ⟨chunks, inquiry.prompt chunks, none⟩⟩, after)
        | some complete =>
          let calls := [inquiry.ranking, .complete (inquiry.prompt chunks)]
          match complete (inquiry.prompt chunks) after with
          | (.error cause, last) => (⟨calls, .error (.completion cause)⟩, last)
          | (.ok text, last) =>
            (⟨calls, .ok ⟨chunks, inquiry.prompt chunks, some text⟩⟩, last) := by
  have checked := inquiry.check_eq
  rw [free, answerable] at checked
  simp only [asked, ask, checked, bind, StateT.bind, ranked]
  rcases inquiry.collaborators.rank inquiry.question.query inquiry.question.count inquiry.world with
    ⟨cause | chunks, after⟩
  · rfl
  · simp only
    cases if inquiry.promptOnly then none else inquiry.collaborators.complete with
    | none => rfl
    | some complete =>
        simp only [prompt, StateT.bind]
        rcases complete (Conversation.prompt inquiry.config.completion.systemPrompt
          inquiry.question.query chunks) after with ⟨cause | text, last⟩ <;> rfl

/-- The same question, with every call noted after those of a list. -/
def noted (calls : List Call) : Inquiry (List Call × σ) where
  config := inquiry.config
  collaborators := inquiry.collaborators.noting
  query := inquiry.query
  top := inquiry.top
  promptOnly := inquiry.promptOnly
  world := (calls, inquiry.world)

theorem refusal?_noted (calls : List Call) :
    (inquiry.noted calls).refusal? = inquiry.refusal? := by
  have same : (inquiry.noted calls).answerable = inquiry.answerable := by
    simp only [answerable, noted, Collaborators.noting, Option.isSome_map]
  simp only [refusal?, refusals, same]
  rfl

theorem ranked_noted (calls : List Call) :
    (inquiry.noted calls).ranked =
      (inquiry.ranked.1, calls ++ [inquiry.ranking], inquiry.ranked.2) := rfl

/-- The calls that asking tells of are those that get to the collaborators, and to note them
changes nothing. -/
theorem asked_noted (calls : List Call) :
    (inquiry.noted calls).asked =
      (inquiry.asked.1, calls ++ inquiry.asked.1.calls, inquiry.asked.2) := by
  have same := inquiry.refusal?_noted calls
  cases refusal : inquiry.refusal? with
  | some failure =>
      rw [refusal] at same
      rw [asked_of_refusal _ failure same, inquiry.asked_of_refusal failure refusal,
        List.append_nil]
      rfl
  | none =>
      rw [refusal] at same
      have wanted : (inquiry.noted calls).promptOnly = inquiry.promptOnly := rfl
      have completion : (inquiry.noted calls).collaborators.complete =
          inquiry.collaborators.noting.complete := rfl
      rw [asked_of_permitted _ same, inquiry.asked_of_permitted refusal, ranked_noted, wanted,
        completion, Collaborators.noting]
      rcases inquiry.ranked with ⟨cause | chunks, after⟩
      · rfl
      · cases inquiry.promptOnly with
        | true => rfl
        | false =>
            cases inquiry.collaborators.complete with
            | none => rfl
            | some complete =>
                have messages : (inquiry.noted calls).prompt chunks = inquiry.prompt chunks := rfl
                simp only [Bool.false_eq_true, ↓reduceIte, Option.map_some, messages]
                rcases complete (inquiry.prompt chunks) after with ⟨cause | text, last⟩
                · simp only [List.append_assoc, List.singleton_append]
                  rfl
                · simp only [List.append_assoc, List.singleton_append]
                  rfl

theorem asked_cases (permitted : inquiry.Permitted) :
    (∃ cause, inquiry.ranked.1 = .error cause ∧ inquiry.completed? = none ∧
        inquiry.asked.1 = ⟨[inquiry.ranking], .error (.retrieval cause)⟩) ∨
      ∃ chunks, inquiry.ranked.1 = .ok chunks ∧
        (inquiry.promptOnly = true ∧ inquiry.completed? = none ∧
            inquiry.asked.1 = ⟨[inquiry.ranking], .ok ⟨chunks, inquiry.prompt chunks, none⟩⟩ ∨
          inquiry.promptOnly = false ∧ ∃ made, inquiry.completed? = some made ∧
            inquiry.asked.1 = ⟨[inquiry.ranking, .complete (inquiry.prompt chunks)],
              (made.mapError Failure.completion).map fun text =>
                ⟨chunks, inquiry.prompt chunks, some text⟩⟩) := by
  rw [inquiry.asked_of_permitted (inquiry.refusal?_eq_none.mpr permitted), completed?]
  rcases inquiry.ranked with ⟨cause | chunks, after⟩
  · refine .inl ⟨cause, rfl, ?_, rfl⟩
    split
    · rename_i ranked
      cases ranked
    · rfl
  · refine .inr ⟨chunks, rfl, ?_⟩
    cases wanted : inquiry.promptOnly with
    | true => exact .inl ⟨rfl, rfl, rfl⟩
    | false =>
        have answerable := permitted.answerable
        rw [wanted] at answerable
        cases completion : inquiry.collaborators.complete with
        | none => simp [completion] at answerable
        | some complete =>
            refine .inr ⟨rfl, (complete (inquiry.prompt chunks) after).1, rfl, ?_⟩
            simp only [Bool.false_eq_true, ↓reduceIte]
            rcases complete (inquiry.prompt chunks) after with ⟨cause | text, last⟩ <;> rfl

/-- The calls and the result of a question, by what its collaborators do. -/
structure Traced (calls : List Call) (result : Except Failure Answer) : Prop where
  /-- The ranker gets one call, if nothing is refused, and else none. -/
  ranks : inquiry.Permitted ∧ calls.filter Call.isRanking =
      [.rank inquiry.question.query inquiry.question.count] ∨
    ¬ inquiry.Permitted ∧ calls.filter Call.isRanking = []
  /-- The completion gets one call, if it is wanted and there are ranked chunks, and else none. -/
  completes : (∃ chunks, inquiry.Permitted ∧ inquiry.promptOnly = false ∧
      inquiry.ranked.1 = .ok chunks ∧
      calls.filter (!·.isRanking) = [.complete (inquiry.prompt chunks)]) ∨
    (¬ ∃ chunks, inquiry.Permitted ∧ inquiry.promptOnly = false ∧ inquiry.ranked.1 = .ok chunks) ∧
      calls.filter (!·.isRanking) = []
  ordered : calls = calls.filter Call.isRanking ++ calls.filter (!·.isRanking)
  answered : ∀ answer, result = .ok answer ↔
    inquiry.Permitted ∧ ∃ chunks text, inquiry.ranked.1 = .ok chunks ∧
      answer = ⟨chunks, inquiry.prompt chunks, text⟩ ∧
      (inquiry.promptOnly = true ∧ text = none ∨
        inquiry.promptOnly = false ∧ ∃ words, inquiry.completed? = some (.ok words) ∧
          text = some words)
  failed : ∀ failure, result = .error failure ↔
    inquiry.failures.findSome? id = some failure

theorem failures_of_refusal (failure : Failure) (refused : inquiry.refusal? = some failure) :
    inquiry.failures.findSome? id = some failure := by
  rw [refusal?] at refused
  rw [failures, List.findSome?_append, refused, Option.some_or]

theorem failures_of_permitted (free : inquiry.refusal? = none) :
    inquiry.failures.findSome? id =
      (failureOf .retrieval inquiry.ranked.1).or
        (inquiry.completed?.bind (failureOf .completion)) := by
  rw [refusal?] at free
  rw [failures, List.findSome?_append, free, Option.none_or]
  cases failureOf Failure.retrieval inquiry.ranked.1 with
  | none => cases inquiry.completed?.bind (failureOf .completion) <;> rfl
  | some failure => rfl

theorem traced_of_refusal (failure : Failure) (refused : inquiry.refusal? = some failure) :
    inquiry.Traced [] (.error failure) := by
  have forbidden : ¬ inquiry.Permitted := by
    rw [← refusal?_eq_none, refused]
    exact Option.some_ne_none failure
  refine ⟨.inr ⟨forbidden, rfl⟩, .inr ⟨fun ⟨_, permitted, _⟩ => forbidden permitted, rfl⟩, rfl,
    ?_, ?_⟩
  · simp only [reduceCtorEq, forbidden, false_and, implies_true]
  · rw [inquiry.failures_of_refusal failure refused]
    simp only [Except.error.injEq, Option.some.injEq, implies_true]

theorem traced_of_rank_failed (cause : RetrievalFailure) (permitted : inquiry.Permitted)
    (ranked : inquiry.ranked.1 = .error cause) (silent : inquiry.completed? = none) :
    inquiry.Traced [inquiry.ranking] (.error (.retrieval cause)) := by
  have failing := inquiry.failures_of_permitted (inquiry.refusal?_eq_none.mpr permitted)
  rw [ranked, silent] at failing
  refine ⟨.inl ⟨permitted, rfl⟩, .inr ⟨?_, rfl⟩, rfl, ?_, ?_⟩
  · simp only [ranked, reduceCtorEq, and_false, exists_false, not_false_eq_true]
  · simp [ranked]
  · simp [failing, failureOf]

theorem traced_of_prompt_only (chunks : List RankedChunk) (permitted : inquiry.Permitted)
    (ranked : inquiry.ranked.1 = .ok chunks) (unwanted : inquiry.promptOnly = true)
    (silent : inquiry.completed? = none) :
    inquiry.Traced [inquiry.ranking] (.ok ⟨chunks, inquiry.prompt chunks, none⟩) := by
  have failing := inquiry.failures_of_permitted (inquiry.refusal?_eq_none.mpr permitted)
  rw [ranked, silent] at failing
  refine ⟨.inl ⟨permitted, rfl⟩, .inr ⟨?_, rfl⟩, rfl, ?_, ?_⟩
  · simp only [unwanted, Bool.true_eq_false, false_and, and_false, exists_false,
      not_false_eq_true]
  · intro answer
    constructor
    · rintro ⟨⟩
      exact ⟨permitted, chunks, none, ranked, rfl, .inl ⟨unwanted, rfl⟩⟩
    · rintro ⟨-, others, text, given, rfl, ⟨-, rfl⟩ | ⟨wanted, -⟩⟩
      · rw [ranked] at given
        cases given
        rfl
      · rw [unwanted] at wanted
        cases wanted
  · simp [failing, failureOf]

theorem traced_of_completed (chunks : List RankedChunk) (made : Except CompletionFailure String)
    (permitted : inquiry.Permitted) (ranked : inquiry.ranked.1 = .ok chunks)
    (wanted : inquiry.promptOnly = false) (completed : inquiry.completed? = some made) :
    inquiry.Traced [inquiry.ranking, .complete (inquiry.prompt chunks)]
      ((made.mapError Failure.completion).map fun text =>
        ⟨chunks, inquiry.prompt chunks, some text⟩) := by
  have failing := inquiry.failures_of_permitted (inquiry.refusal?_eq_none.mpr permitted)
  rw [ranked, completed] at failing
  refine ⟨.inl ⟨permitted, rfl⟩, .inl ⟨chunks, permitted, wanted, ranked, rfl⟩, rfl, ?_, ?_⟩
  · intro answer
    constructor
    · cases made with
      | error cause => rintro ⟨⟩
      | ok text =>
          rintro ⟨⟩
          exact ⟨permitted, chunks, some text, ranked, rfl, .inr ⟨wanted, text, completed, rfl⟩⟩
    · rintro ⟨-, others, text, given, rfl, ⟨unwanted, -⟩ | ⟨-, words, answered, rfl⟩⟩
      · rw [wanted] at unwanted
        cases unwanted
      · rw [ranked] at given
        rw [completed] at answered
        cases given
        cases answered
        rfl
  · rw [failing]
    intro failure
    cases made with
    | error cause => constructor <;> rintro ⟨⟩ <;> rfl
    | ok text => constructor <;> rintro ⟨⟩

theorem traced_asked : inquiry.Traced inquiry.asked.1.calls inquiry.asked.1.result := by
  cases refusal : inquiry.refusal? with
  | some failure =>
      rw [inquiry.asked_of_refusal failure refusal]
      exact inquiry.traced_of_refusal failure refusal
  | none =>
      have permitted := inquiry.refusal?_eq_none.mp refusal
      rcases inquiry.asked_cases permitted with ⟨cause, ranked, silent, ended⟩ |
        ⟨chunks, ranked, ⟨unwanted, silent, ended⟩ | ⟨wanted, made, completed, ended⟩⟩
      · rw [ended]
        exact inquiry.traced_of_rank_failed cause permitted ranked silent
      · rw [ended]
        exact inquiry.traced_of_prompt_only chunks permitted ranked unwanted silent
      · rw [ended]
        exact inquiry.traced_of_completed chunks made permitted ranked wanted completed

/-- The calls that get to the collaborators, and what a question gives. -/
theorem ask_noting_traced :
    ∃ asked calls after,
      ask inquiry.config inquiry.collaborators.noting inquiry.query inquiry.top inquiry.promptOnly
        ([], inquiry.world) = (asked, calls, after) ∧
      ask inquiry.config inquiry.collaborators inquiry.query inquiry.top inquiry.promptOnly
        inquiry.world = (asked, after) ∧
      asked.calls = calls ∧ inquiry.Traced calls asked.result := by
  have noted := inquiry.asked_noted []
  have traced := inquiry.traced_asked
  rw [List.nil_append] at noted
  cases ended : inquiry.asked with
  | mk asked after =>
      rw [ended] at noted traced
      exact ⟨asked, asked.calls, after, noted, ended, rfl, traced⟩

end Inquiry

/-- The ranker gets the question without its blanks, and the usual count. -/
example : (ask {} ⟨fun _ _ => pure (.ok []), none⟩ " main\t" none true ()).1.calls =
    [.rank "main" 3] := by
  decide +kernel

end SourceIndex
