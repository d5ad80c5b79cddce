import SourceIndex.Json.Shape
import SourceIndex.Ranking

set_option autoImplicit false

namespace SourceIndex

inductive Role where
  | system
  | user
deriving DecidableEq, Repr, Inhabited

namespace Role

def word : Role → String
  | system => "system"
  | user => "user"

def ofWord? (text : String) : Option Role :=
  if text == "system" then some .system else if text == "user" then some .user else none

end Role

structure Message where
  role : Role
  content : String
deriving DecidableEq, Repr, Inhabited

namespace Message

def shape : Shape :=
  .record "ChatMessage" <|
    .field "role" [] none (.choice [Role.word .system, Role.word .user]) <|
    .field "content" [] none .text
      .none

def toJson (message : Message) : Json :=
  .object [("role", .string message.role.word), ("content", .string message.content)]

def ofJson? : Json → Option Message
  | .object [(_, .string role), (_, .string content)] =>
    (Role.ofWord? role).map fun role => ⟨role, content⟩
  | _ => none

end Message

namespace Conversation

/-- Instructions that keep an answer to the code it is given. -/
def defaultInstructions : String :=
  "You are a senior engineer answering questions about a codebase. Use only the provided code " ++
    "snippets to answer. If code reveals config, structure, or usage patterns, summarize those " ++
    "clearly. Do not guess or include general explanations unless they are directly inferred " ++
    "from the code."

def excerpt (chunk : RankedChunk) : String :=
  "\n---\nFile: " ++ chunk.file ++ "\n" ++ chunk.code ++ "\n"

/-- The question, and below it the chunks in their order. -/
def question (query : String) (chunks : List RankedChunk) : String :=
  "Question: " ++ query ++ "\n\nRelevant Code:\n\n" ++ String.join (chunks.map excerpt)

def prompt (instructions query : String) (chunks : List RankedChunk) : List Message :=
  [⟨.system, instructions⟩, ⟨.user, question query chunks⟩]

/-- Messages as they are given to the command that answers. -/
def toJson (messages : List Message) : Json := .array (messages.map Message.toJson)

end Conversation

end SourceIndex
