import CommandShell.Script
import CommandShell.Text.Decimal

/-!
# Words and operators of scripts

A script is cut into words and operators. What cannot be cut is a fault, and ends the items; it matters
only to who reads that far. The text of a document follows the line that asks for it.
-/

set_option autoImplicit false

namespace CommandShell.Script

inductive Item where
  | word (word : Word) (line : Nat)
  | operator (spelling : String) (line : Nat)
  | document (text : Word)
  | fault (line : Nat) (text : String)
  deriving DecidableEq, Repr

def isNameStart (c : Char) : Bool := c.isAlpha || c == '_'
def isNameChar (c : Char) : Bool := c.isAlphanum || c == '_'
def isName (chars : List Char) : Bool :=
  !chars.isEmpty && isNameStart (chars.headD ' ') && chars.all isNameChar

def isSpecial (c : Char) : Bool := "?$#!@*-".toList.contains c

/-- What stands before the closing character and what follows it, in at most so many steps. Quotes and
brackets that open on the way are closed first. -/
def enclosed (closing : Char) : Nat → List Char → Option (List Char × List Char)
  | 0, _ => none
  | _, [] => none
  | fuel + 1, c :: rest =>
    let within (opening : List Char) (inner : Char) (rest : List Char) : Option (List Char × List Char) :=
      match enclosed inner fuel rest with
      | none => none
      | some (inside, rest) => (enclosed closing fuel rest).map fun (more, rest) =>
        (opening ++ inside ++ inner :: more, rest)
    if c = closing then some ([], rest)
    else if closing = '\'' then (enclosed closing fuel rest).map fun (more, rest) => (c :: more, rest)
    else match c, rest with
      | '\\', d :: rest => (enclosed closing fuel rest).map fun (more, rest) => (c :: d :: more, rest)
      | '\'', rest =>
        if closing = '"' then (enclosed closing fuel rest).map fun (more, rest) => (c :: more, rest)
        else within [c] '\'' rest
      | '"', rest => within [c] '"' rest
      | '\x60', rest => within [c] '\x60' rest
      | '$', '\x7b' :: rest => within ['$', '\x7b'] '\x7d' rest
      | '$', '(' :: rest => within ['$', '('] ')' rest
      | '(', rest =>
        if closing = ')' then within [c] ')' rest
        else (enclosed closing fuel rest).map fun (more, rest) => (c :: more, rest)
      | c, rest => (enclosed closing fuel rest).map fun (more, rest) => (c :: more, rest)

def change? (chars : List Char) : Option (Option Change) :=
  let substitute (orEmpty : Bool) (c : Char) (word : List Char) : Option (Option Change) :=
    let how : Option Substitute := match c with
      | '-' => some .use
      | '=' => some .assign
      | '?' => some .complain
      | '+' => some .replace
      | _ => none
    how.map fun how => some (.substitute how orEmpty (String.ofList word))
  match chars with
  | [] => some none
  | '#' :: '#' :: pattern => some (some (.trim false true (String.ofList pattern)))
  | '#' :: pattern => some (some (.trim false false (String.ofList pattern)))
  | '%' :: '%' :: pattern => some (some (.trim true true (String.ofList pattern)))
  | '%' :: pattern => some (some (.trim true false (String.ofList pattern)))
  | ':' :: c :: word => substitute true c word
  | c :: word => substitute false c word

def bracedPart (inQuotes : Bool) (inside : List Char) : Part :=
  let named (chars : List Char) : Option (List Char × List Char) :=
    match chars with
    | [] => none
    | c :: rest =>
      if isNameStart c then some (chars.takeWhile isNameChar, chars.dropWhile isNameChar)
      else if c.isDigit then some (chars.takeWhile Char.isDigit, chars.dropWhile Char.isDigit)
      else if isSpecial c then some ([c], rest)
      else none
  let length? : Option Part := match inside with
    | '#' :: rest =>
      match named rest with
      | some (name, []) => some (.variable (String.ofList name) inQuotes (some .length))
      | _ => none
    | _ => none
  length?.getD (((named inside).bind fun (name, rest) =>
    (change? rest).map fun change => .variable (String.ofList name) inQuotes change).getD .senseless)

def isUnfinished (inside : List Char) : Bool :=
  match inside.getLast? with
  | some ':' => inside.dropLast.all isNameChar && inside.length > 1
  | _ => false

/-- The script between backquotes: a backslash there keeps the character after it from its work. -/
def unescapeScript (inQuotes : Bool) : List Char → List Char
  | '\\' :: c :: rest =>
    if "$\x60\\".toList.contains c || (inQuotes && c = '"') then c :: unescapeScript inQuotes rest
    else '\\' :: c :: unescapeScript inQuotes rest
  | c :: rest => c :: unescapeScript inQuotes rest
  | [] => []

abbrev Cut := Except String (List Part × List Char)

def unclosedQuote : String := "Syntax error: Unterminated quoted string"

def afterDollar (inQuotes : Bool) (chars : List Char) : Cut :=
  match chars with
  | '\x7b' :: rest =>
    match (enclosed '\x7d' (rest.length + 1) rest).filter fun found => !isUnfinished found.1 with
    | some (inside, rest) => .ok ([bracedPart inQuotes inside], rest)
    | none => .error (if inQuotes then unclosedQuote else "Syntax error: Missing '\x7d'")
  | '(' :: '(' :: rest =>
    match enclosed ')' (rest.length + 1) rest with
    | some (inside, ')' :: rest) => .ok ([.arithmetic (String.ofList inside) inQuotes], rest)
    | _ => .error "Syntax error: Missing '))'"
  | '(' :: rest =>
    match enclosed ')' (rest.length + 1) rest with
    | some (inside, rest) => .ok ([.command (String.ofList inside) inQuotes], rest)
    | none =>
      .error (if inQuotes then unclosedQuote
        else "Syntax error: end of file unexpected (expecting \")\")")
  | c :: rest =>
    if isSpecial c || c.isDigit then .ok ([.variable c.toString inQuotes none], rest)
    else if isNameStart c then
      let name := c :: rest.takeWhile isNameChar
      .ok ([.variable (String.ofList name) inQuotes none], rest.dropWhile isNameChar)
    else .ok ([if inQuotes then .quoted "$" else .text "$"], chars)
  | [] => .ok ([if inQuotes then .quoted "$" else .text "$"], [])

def afterBackquote (inQuotes : Bool) (chars : List Char) : Cut :=
  match enclosed '\x60' (chars.length + 1) chars with
  | some (inside, rest) =>
    .ok ([.command (String.ofList (unescapeScript inQuotes inside)) inQuotes], rest)
  | none =>
    .error (if inQuotes then unclosedQuote else "Syntax error: EOF in backquote substitution")

def quotedParts (closing : Option Char) : Nat → List Char → Cut
  | 0, chars => .ok ([], chars)
  | _, [] => if closing.isSome then .error unclosedQuote else .ok ([], [])
  | fuel + 1, c :: rest =>
    let further (parts : List Part) (rest : List Char) : Cut :=
      (quotedParts closing fuel rest).map fun (more, rest) => (parts ++ more, rest)
    if some c = closing then .ok ([], rest)
    else match c, rest with
      | '$', rest =>
        match afterDollar true rest with
        | .ok (parts, rest) => further parts rest
        | .error text => .error text
      | '\x60', rest =>
        match afterBackquote true rest with
        | .ok (parts, rest) => further parts rest
        | .error text => .error text
      | '\\', '\n' :: rest => further [] rest
      | '\\', d :: rest =>
        if "$\x60\\".toList.contains d || some d = closing then further [.quoted d.toString] rest
        else further [.quoted (String.ofList ['\\', d])] rest
      | c, rest => further [.quoted c.toString] rest

def piece (chars : List Char) : Cut :=
  match chars with
  | '\'' :: rest =>
    match enclosed '\'' (rest.length + 1) rest with
    | some (inside, rest) => .ok ([.quoted (String.ofList inside)], rest)
    | none => .error unclosedQuote
  | '"' :: rest =>
    (quotedParts (some '"') (rest.length + 1) rest).map fun (parts, rest) =>
      (if parts.isEmpty then [.quoted ""] else parts, rest)
  | '\\' :: '\n' :: rest => .ok ([], rest)
  | '\\' :: c :: rest => .ok ([.quoted c.toString], rest)
  | '$' :: rest => afterDollar false rest
  | '\x60' :: rest => afterBackquote false rest
  | c :: rest => .ok ([.text c.toString], rest)
  | [] => .ok ([], [])

def pieces : Nat → List Char → Except String (List Part)
  | 0, _ => .ok []
  | _, [] => .ok []
  | fuel + 1, chars => do
    let (parts, rest) ← piece chars
    return parts ++ (← pieces fuel rest)

def wordOf (inQuotes : Bool) (text : String) : Except String Word :=
  let chars := text.toList
  if inQuotes then (quotedParts none (chars.length + 1) (chars.filter (· != '"'))).map (·.1)
  else pieces (chars.length + 1) chars

/-- A document that is still to come: the line that ends it, whether tabs before its lines are dropped,
and whether it is taken as it is. -/
structure Awaited where
  delimiter : String
  dropsTabs : Bool
  verbatim : Bool
  deriving DecidableEq, Repr

/-- What has been read: items, newest first; the parts of the word that has begun; the number of the
line; whether the next word is the delimiter of a document, and which documents are still to come. -/
structure Reading where
  items : List Item := []
  parts : Option (List Part) := none
  line : Nat := 1
  delimiter : Option Bool := none
  awaited : List Awaited := []
  deriving DecidableEq, Repr

def plainText (word : Word) : String :=
  String.join (word.map fun
    | .text text => text
    | .quoted text => text
    | _ => "")

def isQuoted (word : Word) : Bool :=
  word.any fun
    | .quoted _ => true
    | _ => false

namespace Reading

def addParts (r : Reading) (parts : List Part) : Reading :=
  { r with parts := some (r.parts.getD [] ++ parts) }

def endWord (r : Reading) : Reading :=
  match r.parts with
  | none => r
  | some parts =>
    let r := { r with items := .word parts r.line :: r.items, parts := none }
    match r.delimiter with
    | none => r
    | some dropsTabs => { r with
      delimiter := none
      awaited := r.awaited ++ [⟨plainText parts, dropsTabs, isQuoted parts⟩] }

def addOperator (r : Reading) (spelling : String) : Reading :=
  let r := r.endWord
  { r with items := .operator spelling r.line :: r.items }

def fault (r : Reading) (text : String) : List Item := (.fault r.line text :: r.items).reverse

def count (r : Reading) (chars rest : List Char) : Reading :=
  { r with line := r.line + (chars.take (chars.length - rest.length)).count '\n' }

end Reading

def operators : List String :=
  ["&&", "||", ";;", "<<-", "<<", ">>", ">&", "<&", ">|", "<>", ";", "&", "|", "(", ")", "<", ">"]

def operatorAt? (chars : List Char) : Option String :=
  operators.find? fun spelling => spelling.toList.isPrefixOf chars

def pendingDescriptor? (r : Reading) : Option String :=
  (r.parts.filter fun parts => !parts.isEmpty && parts.all fun
    | .text text => text.toList.all Char.isDigit
    | _ => false).map plainText

def documentLines (awaited : Awaited) : Nat → List Char → List Char × List Char
  | 0, chars => ([], chars)
  | _, [] => ([], [])
  | fuel + 1, chars =>
    let line := chars.takeWhile (· != '\n')
    let rest := (chars.drop line.length).drop 1
    let line := if awaited.dropsTabs then line.dropWhile (· == '\t') else line
    if String.ofList line = awaited.delimiter then ([], rest)
    else
      let (lines, rest) := documentLines awaited fuel rest
      (line ++ '\n' :: lines, rest)

def readDocuments (r : Reading) (chars : List Char) : Reading × List Char :=
  r.awaited.foldl (fun (r, chars) awaited =>
    let (lines, rest) := documentLines awaited (chars.length + 1) chars
    let text : Word := if awaited.verbatim then [.quoted (String.ofList lines)]
      else match quotedParts none (lines.length + 1) lines with
        | .ok (parts, _) => parts
        | .error _ => [.quoted (String.ofList lines)]
    (({ r with items := .document text :: r.items }).count chars rest, rest))
    ({ r with awaited := [] }, chars)

def scan : Nat → Reading → List Char → List Item
  | 0, r, _ => r.endWord.items.reverse
  | _, r, [] => r.endWord.items.reverse
  | fuel + 1, r, c :: rest =>
    if c = '\n' then
      let r := r.addOperator "\n"
      let (r, rest) := readDocuments { r with line := r.line + 1 } rest
      scan fuel r rest
    else if c = ' ' || c = '\t' then scan fuel r.endWord rest
    else if c = '#' && r.parts.isNone then scan fuel r (rest.dropWhile (· != '\n'))
    else match operatorAt? (c :: rest) with
      | some spelling =>
        let after := rest.drop (spelling.length - 1)
        let r := if c = '<' || c = '>' then
            match pendingDescriptor? r with
            | some number => { r with parts := none }.addOperator (number ++ spelling)
            | none => r.addOperator spelling
          else r.addOperator spelling
        let r := if spelling = "<<" then { r with delimiter := some false }
          else if spelling = "<<-" then { r with delimiter := some true } else r
        scan fuel r after
      | none =>
        match piece (c :: rest) with
        | .error text => r.fault text
        | .ok ([], rest') => scan fuel (r.count (c :: rest) rest') rest'
        | .ok (parts, rest') => scan fuel ((r.addParts parts).count (c :: rest) rest') rest'

def placeDocuments : List Word → List Item → List Item
  | texts, .operator spelling line :: .word word wordLine :: rest =>
    if spelling.endsWith "<<" || spelling.endsWith "<<-" then
      .operator spelling line :: .document (texts.headD []) :: placeDocuments (texts.drop 1) rest
    else .operator spelling line :: placeDocuments texts (.word word wordLine :: rest)
  | texts, .document _ :: rest => placeDocuments texts rest
  | texts, item :: rest => item :: placeDocuments texts rest
  | _, [] => []

def items (text : String) : List Item :=
  let items := scan (text.length + 1) {} text.toList
  placeDocuments (items.filterMap fun
    | .document text => some text
    | _ => none) items

end CommandShell.Script
