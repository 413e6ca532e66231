import Telemetry.Toml.Numeral
import Telemetry.Toml.Quoted
import Telemetry.Toml.Value
/-!
Reading TOML documents. `Toml.read?` accepts a whole document and gives its table; a document with
any fault has none.
-/

namespace Telemetry.Toml

def isBlank (letter : Char) : Bool := letter == ' ' || letter == '\t'

def skipBlanks (text : List Char) : List Char := text.dropWhile isBlank

/-- Skips blanks, ends of lines and comments, each of which has an end of its line. -/
def skipLines? : (inComment : Bool) → List Char → Option (List Char)
  | inComment, [] => if inComment then none else some []
  | inComment, letter :: rest =>
    if letter = '\n' then skipLines? false rest
    else if letter = '\r' then
      match rest with
      | '\n' :: _ => skipLines? false rest
      | _ => none
    else if inComment then if isPlain letter then skipLines? true rest else none
    else if isBlank letter then skipLines? false rest
    else if letter = '#' then skipLines? true rest
    else some (letter :: rest)

def endLine? (text : List Char) : Option (List Char) :=
  let ending := match skipBlanks text with
    | '#' :: comment => comment.dropWhile isPlain
    | other => other
  match ending with
  | [] => some []
  | '\n' :: rest => some rest
  | '\r' :: '\n' :: rest => some rest
  | _ => none

def isBare (letter : Char) : Bool := letter.isAlphanum || letter == '-' || letter == '_'

def simpleKey? (text : List Char) : Option (String × List Char) :=
  match text with
  | [] => none
  | first :: rest =>
    if first = '"' ∨ first = '\'' then shortText? first rest
    else
      let bare := text.takeWhile isBare
      if bare.isEmpty then none else some (String.ofList bare, text.dropWhile isBare)

/-- How deep values and paths may be. -/
def depthLimit : Nat := 79

/-- The keys of a path, separated by dots, with blanks around them; at most `room` of them. -/
def keyPath? : (room : Nat) → List Char → Option (List String × List Char)
  | 0, _ => none
  | room + 1, text => do
    let (key, rest) ← simpleKey? (skipBlanks text)
    match skipBlanks rest with
    | '.' :: after =>
      let (path, rest) ← keyPath? room after
      return (key :: path, rest)
    | rest => return ([key], rest)

def splitPath? (path : List String) : Option (List String × String) :=
  path.getLast?.map fun key => (path.dropLast, key)

abbrev ValueReader := List Char → Option (Value × List Char)

/-- The items of an array after its opening bracket, with those before in reverse. -/
def items? (element : ValueReader) : (steps : Nat) → (done : List Value) → ValueReader
  | 0, _, _ => none
  | steps + 1, done, text => do
    match ← skipLines? false text with
    | ']' :: rest => return (.array done.reverse, rest)
    | start =>
      let (item, rest) ← element start
      match ← skipLines? false rest with
      | ',' :: rest => items? element steps (item :: done) rest
      | ']' :: rest => return (.array (item :: done).reverse, rest)
      | _ => none

def pair? (element : ValueReader) (text : List Char) :
    Option (List String × String × Value × List Char) := do
  let (path, rest) ← keyPath? depthLimit text
  let (path, key) ← splitPath? path
  match rest with
  | '=' :: rest =>
    let (value, rest) ← element (skipBlanks rest)
    return (path, key, value, rest)
  | _ => none

/-- The pairs of a table that is written as a value, the first of which is there. -/
def pairs? (element : ValueReader) : (steps : Nat) → (done : Table) → ValueReader
  | 0, _, _ => none
  | steps + 1, done, text => do
    let (path, key, value, rest) ← pair? element text
    let table ← done.insert path key value .inline
    match skipBlanks rest with
    | ',' :: rest => pairs? element steps table rest
    | '\x7d' :: rest => return (.table .inline table, rest)
    | _ => none

def scalar? (text : List Char) : Option (Value × List Char) :=
  match text with
  | 't' :: 'r' :: 'u' :: 'e' :: rest => some (.boolean true, rest)
  | 'f' :: 'a' :: 'l' :: 's' :: 'e' :: rest => some (.boolean false, rest)
  | [] => none
  | first :: rest =>
    if first = '"' ∨ first = '\'' then
      (quotedText? first rest).map fun (text, rest) => (.string text, rest)
    else
      match DateTime.read? text, float? text, integer? text with
      | some (instant, rest), _, _ => some (.dateTime instant, rest)
      | none, some (number, rest), _ => some (.float number, rest)
      | none, none, some (number, rest) => some (.integer number, rest)
      | none, none, none => none

def value? : (depth : Nat) → ValueReader
  | 0, text => scalar? text
  | depth + 1, text =>
    match text with
    | '[' :: rest => items? (value? depth) text.length [] rest
    | '\x7b' :: rest =>
      match skipBlanks rest with
      | '\x7d' :: rest => some (.table .inline [], rest)
      | start => pairs? (value? depth) text.length [] start
    | _ => scalar? text

/-- The document so far: its table and the path of the header that is in force. -/
structure Draft where
  root : Table
  path : List String

def header? (brackets : Nat) (text : List Char) : Option (List String × String × List Char) := do
  let (path, rest) ← keyPath? depthLimit text
  let (path, key) ← splitPath? path
  if rest.take brackets = List.replicate brackets ']' then
    return (path, key, rest.drop brackets)
  else none

def statement? (draft : Draft) (text : List Char) : Option (Draft × List Char) :=
  match text with
  | '[' :: '[' :: rest => do
    let (path, key, rest) ← header? 2 rest
    return (⟨← draft.root.openMember path key, path ++ [key]⟩, rest)
  | '[' :: rest => do
    let (path, key, rest) ← header? 1 rest
    return (⟨← draft.root.openTable path key, path ++ [key]⟩, rest)
  | _ => do
    let (path, key, value, rest) ← pair? (value? depthLimit) text
    let root ← draft.root.within false (Table.insert path key value) draft.path .header
    return (⟨root, draft.path⟩, rest)

def lines? : (steps : Nat) → Draft → List Char → Option Table
  | 0, _, _ => none
  | steps + 1, draft, text =>
    match skipBlanks text with
    | [] => some draft.root
    | first :: rest =>
      if first = '\n' ∨ first = '\r' ∨ first = '#' then
        (endLine? (first :: rest)).bind (lines? steps draft)
      else do
        let (next, after) ← statement? draft (first :: rest)
        lines? steps next (← endLine? after)

/-- The table of a document, which may begin with a byte order mark. -/
def read? (document : String) : Option Table :=
  let text := match document.toList with
    | '\uFEFF' :: rest => rest
    | other => other
  lines? (text.length + 1) ⟨[], []⟩ text

end Telemetry.Toml
