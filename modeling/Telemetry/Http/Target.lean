import Telemetry.Text.Blank
/-!
Request targets. The usual form is a path with an optional query; a target may also name a scheme
and an authority in front of it, or be an authority alone, or an asterisk. What follows a number
sign is not part of a target.
-/

namespace Telemetry.Http

structure Target where
  text : String
  path : String
deriving DecidableEq, Repr, Inhabited

namespace Target

/-- The characters of a path; those outside of ASCII are taken as they are. -/
def isPathLetter (letter : Char) : Bool :=
  let code := letter.toNat
  code == 0x21 || code == 0x22 || (0x24 ≤ code && code ≤ 0x3B) || code == 0x3D ||
    (0x40 ≤ code && code ≤ 0x5F) || (0x61 ≤ code && code ≤ 0x7E) || 0x7F ≤ code

def isQueryLetter (letter : Char) : Bool :=
  let code := letter.toNat
  code == 0x21 || (0x24 ≤ code && code ≤ 0x3B) || code == 0x3D || 0x3F ≤ code

def isAuthorityLetter (letter : Char) : Bool :=
  letter.isAlphanum || "-._~!$&'()*+,;=:@[]%".toList.contains letter

def isSchemeLetter (letter : Char) : Bool := letter.isAlphanum || "+-.".toList.contains letter

/-- The path and the query, with its question mark, at the front of a text. -/
def pathAndQuery? (text : List Char) : Option (List Char × List Char) :=
  let text := text.takeWhile (· != '#')
  let path := text.takeWhile (· != '?')
  let query := text.dropWhile (· != '?')
  if path.all isPathLetter && (query.drop 1).all isQueryLetter then some (path, query) else none

def afterScheme? (scheme text : List Char) : Option Target :=
  let isAuthority (letter : Char) : Bool := letter != '/' && letter != '?' && letter != '#'
  let authority := text.takeWhile isAuthority
  if authority.isEmpty || !authority.all isAuthorityLetter then none
  else
    (pathAndQuery? (text.dropWhile isAuthority)).map fun (path, query) =>
      let path := if path.isEmpty then ['/'] else path
      { text := String.ofList (scheme ++ "://".toList ++ authority ++ path ++ query)
        path := String.ofList path }

/-- No target is longer than this, in octets. -/
def longest : Nat := 65534

def ofText? (text : String) : Option Target :=
  if longest < text.utf8ByteSize then none
  else
    match text.toList with
    | [] => none
    | ['*'] => some ⟨"*", "*"⟩
    | '/' :: rest =>
      (pathAndQuery? ('/' :: rest)).map fun (path, query) =>
        ⟨String.ofList (path ++ query), String.ofList path⟩
    | letters =>
      let scheme := letters.takeWhile isSchemeLetter
      match letters.dropWhile isSchemeLetter with
      | ':' :: '/' :: '/' :: rest => if scheme.isEmpty then none else afterScheme? scheme rest
      | _ => if letters.all isAuthorityLetter then some ⟨text, ""⟩ else none

end Target

end Telemetry.Http
