set_option autoImplicit false

namespace SourceIndex.Shell

/-- What stands in for a parameter. -/
inductive Substitute where
  /-- The text, if the parameter is unset; `orEmpty` says also if it is empty. -/
  | fallback (orEmpty : Bool) (text : String)
  /-- The text, if the parameter is set; `notEmpty` says only if it is not empty. -/
  | replacement (notEmpty : Bool) (text : String)
  /-- The number of its characters. -/
  | length
deriving DecidableEq, Repr, Inhabited

/-- A part of a word. What is quoted is not cut into fields. -/
inductive Part where
  | literal (text : String) (quoted : Bool)
  | parameter (name : String) (substitute : Option Substitute) (quoted : Bool)
  | arithmetic (text : String) (quoted : Bool)
  /-- The output of a script. -/
  | output (script : String) (quoted : Bool)
deriving DecidableEq, Repr, Inhabited

abbrev Word := List Part

inductive RedirectionKind where
  | read
  | write
  | append
  | duplicate
  /-- The word is itself what is read. -/
  | text
deriving DecidableEq, Repr, Inhabited

structure Redirection where
  stream : Nat
  kind : RedirectionKind
  target : Word
deriving DecidableEq, Repr, Inhabited

structure SimpleCommand where
  /-- The line it stands on, for messages. -/
  line : Nat
  assignments : List (String × Word)
  words : List Word
  redirections : List Redirection
deriving DecidableEq, Repr, Inhabited

inductive Script where
  | nothing
  | simple (command : SimpleCommand)
  | following (first second : Script)
  /-- The second runs if the first succeeds. -/
  | both (first second : Script)
  /-- The second runs if the first fails. -/
  | either (first second : Script)
  | negated (body : Script)
  /-- The output of the first is the input of the second. -/
  | piped (first second : Script)
  | branch (condition consequent alternative : Script)
  /-- Runs while the condition succeeds, or until it does. -/
  | loop (untilTrue : Bool) (condition body : Script)
  | each (name : String) (items : Option (List Word)) (body : Script)
  /-- Runs apart: what it changes is undone. -/
  | isolated (body : Script)
  /-- Nobody waits for it. -/
  | background (body : Script)
  | redirected (line : Nat) (body : Script) (redirections : List Redirection)
deriving Repr, Inhabited

end SourceIndex.Shell
