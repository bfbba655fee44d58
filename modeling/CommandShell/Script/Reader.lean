import CommandShell.Script.Item

/-!
# Reading scripts

The items of a script are read as commands, a line of commands at a time. Reading ends at the first thing
that cannot go on; what it met there, and in which line, makes up the complaint.
-/

set_option autoImplicit false

namespace CommandShell.Script

structure SyntaxError where
  line : Nat
  text : String
  deriving DecidableEq, Repr

def bareText? (word : Word) : Option String :=
  word.foldr (fun part text? => match part, text? with
    | .text text, some rest => some (text ++ rest)
    | _, _ => none) (some "")

def reserved : List String :=
  ["!", "\x7b", "\x7d", "case", "do", "done", "elif", "else", "esac", "fi", "for", "if", "in", "then",
    "until", "while"]

def reserved? (word : Word) : Option String := (bareText? word).filter reserved.contains

def endings : List String := ["\x7d", "do", "done", "elif", "else", "esac", "fi", "then"]

def redirectOperator? (spelling : String) : Option (Nat × (Word → Target)) :=
  let digits := spelling.toList.takeWhile Char.isDigit
  let number := Text.natural? digits
  match String.ofList (spelling.toList.drop digits.length) with
  | "<" => some (number.getD 0, .read)
  | ">" | ">|" => some (number.getD 1, .write)
  | ">>" => some (number.getD 1, .append)
  | "<>" => some (number.getD 0, .change)
  | ">&" => some (number.getD 1, .copy)
  | "<&" => some (number.getD 0, .copy)
  | "<<" | "<<-" => some (number.getD 0, .document)
  | _ => none

def lineOf : List Item → Nat
  | .word _ line :: _ => line
  | .operator _ line :: _ => line
  | .fault line _ :: _ => line
  | _ => 1

def itemName (asCommand : Bool) : List Item → String
  | [] => "end of file"
  | .operator "\n" _ :: _ => "newline"
  | .operator spelling _ :: _ =>
    if (redirectOperator? spelling).isSome then "redirection" else "\"" ++ spelling ++ "\""
  | .word word _ :: _ =>
    match (reserved? word).filter fun _ => asCommand with
    | some text => "\"" ++ text ++ "\""
    | none => "word"
  | _ => "word"

def unexpected {α : Type} (rest : List Item) (expected : String) (asCommand : Bool) :
    Except SyntaxError α :=
  match rest with
  | .fault line text :: _ => .error ⟨line, text⟩
  | rest => .error ⟨lineOf rest, "Syntax error: " ++ itemName asCommand rest ++ " unexpected" ++
      (if expected.isEmpty then "" else " (expecting " ++ expected ++ ")")⟩

def assignment? (word : Word) : Option (String × Word) :=
  let leading := word.takeWhile fun
    | .text text => text != "="
    | _ => false
  let name := plainText leading
  match word.drop leading.length with
  | .text _ :: value => if isName name.toList then some (name, value) else none
  | _ => none

def readRedirect : List Item → Except SyntaxError (Option Redirect × List Item)
  | .operator spelling line :: rest =>
    match redirectOperator? spelling with
    | none => .ok (none, .operator spelling line :: rest)
    | some (descriptor, target) =>
      match rest with
      | .word word _ :: rest => .ok (some ⟨descriptor, target word⟩, rest)
      | .document text :: rest => .ok (some ⟨descriptor, target text⟩, rest)
      | rest => unexpected rest "" false
  | rest => .ok (none, rest)

def readRedirects : Nat → List Item → Except SyntaxError (List Redirect × List Item)
  | 0, rest => .ok ([], rest)
  | fuel + 1, rest => do
    match ← readRedirect rest with
    | (none, rest) => return ([], rest)
    | (some redirect, rest) =>
      let (redirects, rest) ← readRedirects fuel rest
      return (redirect :: redirects, rest)

def readSimple : Nat → Simple → List Item → Except SyntaxError (Simple × List Item)
  | 0, command, rest => .ok (command, rest)
  | fuel + 1, command, .word word _ :: rest =>
    match command.words, assignment? word with
    | [], some assignment =>
      readSimple fuel { command with assignments := command.assignments ++ [assignment] } rest
    | _, _ => readSimple fuel { command with words := command.words ++ [word] } rest
  | fuel + 1, command, rest => do
    match ← readRedirect rest with
    | (none, .fault line text :: _) => .error ⟨line, text⟩
    | (none, rest) => return (command, rest)
    | (some redirect, rest) =>
      readSimple fuel { command with redirects := command.redirects ++ [redirect] } rest

def skipNewlines (rest : List Item) : List Item :=
  rest.dropWhile fun
    | .operator "\n" _ => true
    | _ => false

def keyword? : List Item → Option String
  | .word word _ :: _ => reserved? word
  | _ => none

def expect (keyword : String) (rest : List Item) : Except SyntaxError (List Item) :=
  if keyword? rest = some keyword then .ok (rest.drop 1)
  else unexpected rest ("\"" ++ keyword ++ "\"") true

def takeWords : List Item → List Word × List Item
  | .word word _ :: rest =>
    let (words, rest) := takeWords rest
    (word :: words, rest)
  | rest => ([], rest)

/-- The patterns of a branch up to the parenthesis that ends them. What follows a bar is taken as a
pattern, whatever it is. -/
def readPatterns : List Item → Except SyntaxError (List Word × List Item)
  | .word word _ :: .operator "|" _ :: next :: rest => do
    let (patterns, rest) ← match next with
      | .word _ _ => readPatterns (next :: rest)
      | _ => unexpected rest "\")\"" false
    return (word :: patterns, rest)
  | .word word _ :: .operator ")" _ :: rest => .ok ([word], rest)
  | .word _ _ :: rest => unexpected rest "\")\"" false
  | rest => unexpected (rest.drop 1) "\")\"" false

def specialBuiltins : List String :=
  [".", ":", "break", "continue", "eval", "exec", "exit", "export", "readonly", "return", "set",
    "shift", "times", "trap", "unset"]

def endsList (rest : List Item) : Bool :=
  match rest with
  | [] => true
  | .operator ")" _ :: _ => true
  | .operator ";;" _ :: _ => true
  | rest => (keyword? rest).any endings.contains

mutual

def readCommand : Nat → List Item → Except SyntaxError (Script × List Item)
  | 0, rest => unexpected rest "" true
  | fuel + 1, .operator "(" line :: rest => do
    let (body, rest) ← readList fuel false rest
    match rest with
    | .operator ")" _ :: rest => closeCommand fuel line (.subshell body) rest
    | rest => unexpected rest "\")\"" true
  | fuel + 1, .word word line :: rest =>
    match reserved? word with
    | some "\x7b" => do
      let (body, rest) ← readList fuel false rest
      closeCommand fuel line body (← expect "\x7d" rest)
    | some "if" => do
      let (body, rest) ← readChoice fuel rest
      closeCommand fuel line body rest
    | some "while" => do
      let (body, rest) ← readLoop fuel false rest
      closeCommand fuel line body rest
    | some "until" => do
      let (body, rest) ← readLoop fuel true rest
      closeCommand fuel line body rest
    | some "for" => do
      let (body, rest) ← readEach fuel line rest
      closeCommand fuel line body rest
    | some "case" => do
      let (body, rest) ← readCases fuel line rest
      closeCommand fuel line body rest
    | some _ => unexpected (.word word line :: rest) "" true
    | none =>
      match rest with
      | .operator "(" parenthesis :: rest =>
        if (assignment? word).isSome then
          unexpected (.operator "(" parenthesis :: rest) "" true
        else match rest with
          | .operator ")" _ :: rest =>
            let name := (bareText? word).getD ""
            if !isName name.toList || specialBuiltins.contains name then
              .error ⟨line, "Syntax error: Bad function name"⟩
            else do
              let (body, rest) ← readCommand fuel (skipNewlines rest)
              return (.function name body, rest)
          | rest => unexpected rest "\")\"" false
      | rest => do
        let (command, rest) ← readSimple (rest.length + 2) { line } (.word word line :: rest)
        return (.simple command, rest)
  | _ + 1, .operator spelling line :: rest =>
    if (redirectOperator? spelling).isSome then do
      let (command, rest) ← readSimple (rest.length + 2) { line } (.operator spelling line :: rest)
      return (.simple command, rest)
    else unexpected (.operator spelling line :: rest) "" true
  | _ + 1, rest => unexpected rest "" true

def closeCommand : Nat → Nat → Script → List Item → Except SyntaxError (Script × List Item)
  | _, line, body, rest => do
    let (redirects, rest) ← readRedirects (rest.length + 1) rest
    return (if redirects.isEmpty then body else .redirected line body redirects, rest)

def readChoice : Nat → List Item → Except SyntaxError (Script × List Item)
  | 0, rest => unexpected rest "" true
  | fuel + 1, rest => do
    let (condition, rest) ← readList fuel false rest
    let (yes, rest) ← readList fuel false (← expect "then" rest)
    match keyword? rest with
    | some "elif" =>
      let (no, rest) ← readChoice fuel (rest.drop 1)
      return (.choice condition yes no, rest)
    | some "else" =>
      let (no, rest) ← readList fuel false (rest.drop 1)
      return (.choice condition yes no, ← expect "fi" rest)
    | _ => return (.choice condition yes .empty, ← expect "fi" rest)

def readLoop : Nat → Bool → List Item → Except SyntaxError (Script × List Item)
  | 0, _, rest => unexpected rest "" true
  | fuel + 1, untilTrue, rest => do
    let (condition, rest) ← readList fuel false rest
    let (body, rest) ← readList fuel false (← expect "do" rest)
    return (.loop untilTrue condition body, ← expect "done" rest)

def readEach : Nat → Nat → List Item → Except SyntaxError (Script × List Item)
  | 0, _, rest => unexpected rest "" true
  | fuel + 1, line, rest =>
    match rest with
    | .fault line text :: _ => .error ⟨line, text⟩
    | .word word _ :: rest =>
      match (bareText? word).filter fun name => isName name.toList with
      | none => .error ⟨line, "Syntax error: Bad for loop variable"⟩
      | some name => do
        let rest := skipNewlines rest
        let (words, rest) ←
          if keyword? rest = some "in" then
            match takeWords (rest.drop 1) with
            | (words, .operator ";" _ :: rest) => pure (some words, rest)
            | (words, .operator "\n" _ :: rest) => pure (some words, rest)
            | (_, rest) => unexpected rest "" false
          else match rest with
            | .operator ";" _ :: rest => pure (none, rest)
            | rest => pure (none, rest)
        let rest := skipNewlines rest
        let rest ← if keyword? rest = some "do" then pure (rest.drop 1)
          else unexpected rest "\"do\"" ((keyword? rest).isSome)
        let (body, rest) ← readList fuel false rest
        return (.each line name words body, ← expect "done" rest)
    | _ => .error ⟨line, "Syntax error: Bad for loop variable"⟩

def readCases : Nat → Nat → List Item → Except SyntaxError (Script × List Item)
  | 0, _, rest => unexpected rest "" true
  | fuel + 1, line, rest =>
    match rest with
    | .word subject _ :: rest => do
      let rest := skipNewlines rest
      if keyword? rest ≠ some "in" then unexpected rest "\"in\"" false
      else
        let (branches, rest) ← readBranches fuel (rest.drop 1)
        return (.cases line subject branches, rest)
    | rest => unexpected rest "word" false

def readBranches : Nat → List Item → Except SyntaxError (Script × List Item)
  | 0, rest => unexpected rest "" true
  | fuel + 1, rest => do
    let rest := skipNewlines rest
    if keyword? rest = some "esac" then return (.empty, rest.drop 1)
    let rest := match rest with
      | .operator "(" _ :: rest => rest
      | rest => rest
    let (patterns, rest) ← readPatterns rest
    let (body, rest) ← readList fuel true rest
    let rest := skipNewlines rest
    match rest with
    | .operator ";;" _ :: rest =>
      let (others, rest) ← readBranches fuel rest
      return (.branch patterns body others, rest)
    | rest =>
      if keyword? rest = some "esac" then return (.branch patterns body .empty, rest.drop 1)
      else unexpected rest "\";;\"" true

def readPipe : Nat → List Item → Except SyntaxError (Script × List Item)
  | 0, rest => unexpected rest "" true
  | fuel + 1, rest => do
    let (left, rest) ← readCommand fuel rest
    match rest with
    | .operator "|" _ :: rest =>
      let (right, rest) ← readPipe fuel (skipNewlines rest)
      return (.pipe left right, rest)
    | rest => return (left, rest)

def readNegated : Nat → List Item → Except SyntaxError (Script × List Item)
  | 0, rest => unexpected rest "" true
  | fuel + 1, rest =>
    if keyword? rest = some "!" then do
      let (body, rest) ← readPipe fuel (rest.drop 1)
      return (.negated body, rest)
    else readPipe fuel rest

def readChain : Nat → Script → List Item → Except SyntaxError (Script × List Item)
  | 0, left, rest => .ok (left, rest)
  | fuel + 1, left, .operator "&&" _ :: rest => do
    let (right, rest) ← readNegated fuel (skipNewlines rest)
    readChain fuel (.conjunction left right) rest
  | fuel + 1, left, .operator "||" _ :: rest => do
    let (right, rest) ← readNegated fuel (skipNewlines rest)
    readChain fuel (.disjunction left right) rest
  | _ + 1, left, rest => .ok (left, rest)

/-- The commands up to where a list ends. A list may be empty where that is said, or where the text
ends. -/
def readList : Nat → Bool → List Item → Except SyntaxError (Script × List Item)
  | 0, _, rest => unexpected rest "" true
  | fuel + 1, mayEnd, rest => do
    let rest := skipNewlines rest
    if rest.isEmpty || (mayEnd && endsList rest) then return (.empty, rest)
    let (first, rest) ← readNegated fuel rest
    let (item, rest) ← readChain fuel first rest
    match rest with
    | .operator ";" _ :: rest =>
      let (others, rest) ← readList fuel true rest
      return (.sequence item others, rest)
    | .operator "\n" _ :: rest =>
      let (others, rest) ← readList fuel true rest
      return (.sequence item others, rest)
    | .operator "&" _ :: rest =>
      let (others, rest) ← readList fuel true rest
      return (.sequence (.background item) others, rest)
    | rest => return (item, rest)

end

def readLine : Nat → List Item → Except SyntaxError (Script × List Item)
  | 0, rest => unexpected rest "" true
  | fuel + 1, rest => do
    let depth := 4 * rest.length + 4
    let (first, rest) ← readNegated depth rest
    let (item, rest) ← readChain depth first rest
    let further (item : Script) (rest : List Item) : Except SyntaxError (Script × List Item) :=
      match rest with
      | [] => .ok (item, [])
      | .operator "\n" _ :: rest => .ok (item, rest)
      | rest => (readLine fuel rest).map fun (others, rest) => (.sequence item others, rest)
    match rest with
    | .operator ";" _ :: rest => further item rest
    | .operator "&" _ :: rest => further (.background item) rest
    | [] => return (item, [])
    | .operator "\n" _ :: rest => return (item, rest)
    | rest => unexpected rest "" true

/-- The lines of a script as far as they can be read, and why it cannot be read further. -/
def readLines : Nat → List Item → List Script × Option SyntaxError
  | 0, _ => ([], none)
  | fuel + 1, rest =>
    match skipNewlines rest with
    | [] => ([], none)
    | rest =>
      match readLine (rest.length + 1) rest with
      | .error e => ([], some e)
      | .ok (script, rest) =>
        let (scripts, error) := readLines fuel rest
        (script :: scripts, error)

def read (text : String) : List Script × Option SyntaxError :=
  let items := items text
  readLines (items.length + 1) items

end CommandShell.Script
