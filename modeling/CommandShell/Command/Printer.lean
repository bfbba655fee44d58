import CommandShell.Command
import CommandShell.Text.Quoted

/-!
# Commands as text

Words are quoted where they need it, the input redirection comes before the output redirection, and
no parentheses are added.
-/

set_option autoImplicit false

namespace CommandShell

def Assignment.text (a : Assignment) : String := a.name ++ "=" ++ Text.quote a.value

def Redirection.text (r : Redirection) : String := r.operator.spelling ++ Text.quote r.filename

namespace StageParts

def localsText (parts : StageParts) : String :=
  String.join (parts.locals.map fun a => a.text ++ " ")

def redirectionsText (parts : StageParts) : String :=
  String.join ((parts.input.toList ++ parts.output.toList).map fun r => " " ++ r.text)

end StageParts

def SimpleCommand.text (c : SimpleCommand) : String :=
  c.parts.localsText ++ Text.quoteAll c.argv ++ c.parts.redirectionsText

def Connective.spelling : Connective → String
  | .and => "&&"
  | .or => "||"

def Separator.spelling : Separator → String
  | .sequence => ";"
  | .background => "&"

def Command.text : Command → String
  | .simple c => c.text
  | .subshell parts body => parts.localsText ++ "(" ++ body.text ++ ")" ++ parts.redirectionsText
  | .pipe left right => left.text ++ " | " ++ right.text
  | .andOr op left right => left.text ++ " " ++ op.spelling ++ " " ++ right.text
  | .ended sep left => left.text ++ " " ++ sep.spelling
  | .list sep left right => left.text ++ " " ++ sep.spelling ++ " " ++ right.text

end CommandShell
