/-!
# Commands

A line is a tree of commands. Assignments and redirections belong to a stage, which is a simple
command or a parenthesised list, and to nothing larger. A list item is followed by a separator; the
last one may end with a separator that nothing follows.
-/

set_option autoImplicit false

namespace CommandShell

structure Assignment where
  name : String
  value : String
  deriving DecidableEq, Repr

inductive RedirectOp where
  | input
  | output
  | append
  deriving DecidableEq, Repr

def RedirectOp.spelling : RedirectOp → String
  | .input => "<"
  | .output => ">"
  | .append => ">>"

structure Redirection where
  operator : RedirectOp
  filename : String
  deriving DecidableEq, Repr

/-- What a stage may carry besides the work itself: assignments in the order written, and at most one
redirection of each of the two standard streams. -/
structure StageParts where
  locals : List Assignment := []
  input : Option Redirection := none
  output : Option Redirection := none
  deriving DecidableEq, Repr

structure SimpleCommand where
  parts : StageParts := {}
  program : String
  arguments : List String := []
  deriving DecidableEq, Repr

def SimpleCommand.argv (c : SimpleCommand) : List String := c.program :: c.arguments

inductive Connective where
  | and
  | or
  deriving DecidableEq, Repr

def Connective.proceeds : Connective → Int → Bool
  | .and, status => status == 0
  | .or, status => status != 0

inductive Separator where
  | sequence
  | background
  deriving DecidableEq, Repr

inductive Command where
  | simple (command : SimpleCommand)
  | subshell (parts : StageParts) (body : Command)
  | pipe (left right : Command)
  | andOr (connective : Connective) (left right : Command)
  /-- An item that its separator ends. -/
  | ended (separator : Separator) (left : Command)
  | list (separator : Separator) (left right : Command)
  deriving DecidableEq, Repr

end CommandShell
