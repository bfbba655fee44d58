/-!
# Quoting a word for display

A word is shown as it is when it holds nothing special to a shell, and between single quotes
otherwise; a single quote inside is shown by closing the section, an escaped quote and a new section.
-/

set_option autoImplicit false

namespace CommandShell.Text

def isSpecial (c : Char) : Bool :=
  "|&;<>()$`\\\"' \t\n*?[#~=%".toList.contains c

/-- A single quote as it is written inside single quotes. -/
def quoteBody : List Char → List Char
  | [] => []
  | c :: rest => if c = '\'' then ['\'', '\\', '\'', '\''] ++ quoteBody rest else c :: quoteBody rest

def quote (s : String) : String :=
  if s.isEmpty then "''"
  else if s.toList.any isSpecial then String.ofList (['\''] ++ quoteBody s.toList ++ ['\''])
  else s

def quoteAll (words : List String) : String :=
  " ".intercalate (words.map quote)

end CommandShell.Text
