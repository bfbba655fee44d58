/-!
# Scripts of the system's shell

The system brings a shell of its own, which runs scripts: lists of commands with pipes, conditions,
loops, functions, redirections, quotes and variables. A word is made of parts. What a part that is not
quoted stands for may come apart into several words, and may be a pattern for names of files.
-/

set_option autoImplicit false

namespace CommandShell

namespace Script

inductive Substitute where
  | use
  | assign
  | complain
  | replace
  deriving DecidableEq, Repr

inductive Change where
  | length
  /-- With `orEmpty` an empty value counts as none. -/
  | substitute (how : Substitute) (orEmpty : Bool) (word : String)
  /-- Takes off what matches a pattern at one end, as little or as much as can be. -/
  | trim (atEnd longest : Bool) (pattern : String)
  deriving DecidableEq, Repr

/-- A part of a word. The text in an arithmetic part or in a change is read when it is needed. -/
inductive Part where
  | text (text : String)
  | quoted (text : String)
  | variable (name : String) (inQuotes : Bool) (change : Option Change)
  | command (script : String) (inQuotes : Bool)
  | arithmetic (expression : String) (inQuotes : Bool)
  /-- A dollar sign before braces that hold no variable. -/
  | senseless
  deriving DecidableEq, Repr

abbrev Word := List Part

inductive Target where
  | read (file : Word)
  | write (file : Word)
  | append (file : Word)
  | change (file : Word)
  | copy (descriptor : Word)
  /-- Lets the text be read. -/
  | document (text : Word)
  deriving DecidableEq, Repr

structure Redirect where
  descriptor : Nat
  target : Target
  deriving DecidableEq, Repr

structure Simple where
  line : Nat
  assignments : List (String × Word) := []
  words : List Word := []
  redirects : List Redirect := []
  deriving DecidableEq, Repr

end Script

inductive Script where
  | empty
  | simple (command : Script.Simple)
  | subshell (body : Script)
  /-- A command with redirections of its own. -/
  | redirected (line : Nat) (body : Script) (redirects : List Script.Redirect)
  | pipe (left right : Script)
  | negated (body : Script)
  | conjunction (left right : Script)
  | disjunction (left right : Script)
  | sequence (left right : Script)
  | background (body : Script)
  | choice (condition yes no : Script)
  /-- Runs the body while the condition comes out, or until it does. -/
  | loop (untilTrue : Bool) (condition body : Script)
  /-- Runs the body for each of some words, or of the arguments. -/
  | each (line : Nat) (name : String) (words : Option (List Script.Word)) (body : Script)
  /-- Sets the subject that the branches are about. -/
  | cases (line : Nat) (subject : Script.Word) (branches : Script)
  | branch (patterns : List Script.Word) (body others : Script)
  | function (name : String) (body : Script)
  deriving Repr

end CommandShell
