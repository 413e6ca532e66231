import Telemetry.Json.Basic
/-!
Writing JSON documents, in two layouts: compact, without any blanks, and indented, with each item
and member on a line of its own, two more blanks per level, and one blank after a colon.
In texts the quote, the backslash and the controls are escaped, and nothing else.
-/

namespace Telemetry.Json

def hexOctet (digit : Nat) : UInt8 :=
  if digit < 10 then UInt8.ofNat (48 + digit) else UInt8.ofNat (87 + digit)

def escapeOctet (octet : UInt8) : Bytes :=
  let letter (name : Char) : Bytes := [Bytes.ascii '\\', Bytes.ascii name]
  if octet = Bytes.ascii '"' then letter '"'
  else if octet = Bytes.ascii '\\' then letter '\\'
  else if octet = 0x08 then letter 'b'
  else if octet = 0x0C then letter 'f'
  else if octet = 0x0A then letter 'n'
  else if octet = 0x0D then letter 'r'
  else if octet = 0x09 then letter 't'
  else if octet.toNat < 0x20 then
    ['\\', 'u', '0', '0'].map Bytes.ascii ++
      [hexOctet (octet.toNat / 16), hexOctet (octet.toNat % 16)]
  else [octet]

/-- The octets that are written by a backslash and a letter. -/
def namedOctets : Bytes :=
  [Bytes.ascii '"', Bytes.ascii '\\', 0x08, 0x0C, 0x0A, 0x0D, 0x09]

theorem escapeOctet_of_not_mem {octet : UInt8} (plain : octet ∉ namedOctets) :
    escapeOctet octet =
      if octet.toNat < 0x20 then
        ['\\', 'u', '0', '0'].map Bytes.ascii ++
          [hexOctet (octet.toNat / 16), hexOctet (octet.toNat % 16)]
      else [octet] := by
  simp only [namedOctets, List.mem_cons, List.not_mem_nil, or_false, not_or] at plain
  obtain ⟨noQuote, noBackslash, noB, noF, noN, noR, noT⟩ := plain
  rw [escapeOctet, if_neg noQuote, if_neg noBackslash, if_neg noB, if_neg noF, if_neg noN,
    if_neg noR, if_neg noT]

def writeText (text : Option String) : Bytes :=
  Bytes.ascii '"' ::
    ((text.map Bytes.ofText).getD []).flatMap escapeOctet ++ [Bytes.ascii '"']

def writeWord (word : String) : Bytes := word.toList.map Bytes.ascii

mutual

def compact : Json → Bytes
  | .null => writeWord "null"
  | .bool true => writeWord "true"
  | .bool false => writeWord "false"
  | .number numeral => numeral.write
  | .string text => writeText text
  | .array items => Bytes.ascii '[' :: compactItems items ++ [Bytes.ascii ']']
  | .object members => Bytes.ascii '\x7b' :: compactMembers members ++ [Bytes.ascii '\x7d']

def compactItems : List Json → Bytes
  | [] => []
  | [item] => compact item
  | item :: next :: rest => compact item ++ Bytes.ascii ',' :: compactItems (next :: rest)

def compactMembers : List (Option String × Json) → Bytes
  | [] => []
  | [(key, value)] => writeText key ++ Bytes.ascii ':' :: compact value
  | (key, value) :: next :: rest =>
    writeText key ++ Bytes.ascii ':' :: compact value ++
      Bytes.ascii ',' :: compactMembers (next :: rest)

end

def lineBreak (depth : Nat) : Bytes := 0x0A :: List.replicate (2 * depth) 0x20

mutual

def indented (depth : Nat) : Json → Bytes
  | .null => writeWord "null"
  | .bool true => writeWord "true"
  | .bool false => writeWord "false"
  | .number numeral => numeral.write
  | .string text => writeText text
  | .array [] => writeWord "[]"
  | .array (item :: rest) =>
    Bytes.ascii '[' :: indentedItems (depth + 1) (item :: rest) ++
      lineBreak depth ++ [Bytes.ascii ']']
  | .object [] => [Bytes.ascii '\x7b', Bytes.ascii '\x7d']
  | .object (member :: rest) =>
    Bytes.ascii '\x7b' :: indentedMembers (depth + 1) (member :: rest) ++
      lineBreak depth ++ [Bytes.ascii '\x7d']

def indentedItems (depth : Nat) : List Json → Bytes
  | [] => []
  | [item] => lineBreak depth ++ indented depth item
  | item :: next :: rest =>
    lineBreak depth ++ indented depth item ++
      Bytes.ascii ',' :: indentedItems depth (next :: rest)

def indentedMembers (depth : Nat) : List (Option String × Json) → Bytes
  | [] => []
  | [(key, value)] =>
    lineBreak depth ++ writeText key ++ Bytes.ascii ':' :: 0x20 :: indented depth value
  | (key, value) :: next :: rest =>
    lineBreak depth ++ writeText key ++ Bytes.ascii ':' :: 0x20 :: indented depth value ++
      Bytes.ascii ',' :: indentedMembers depth (next :: rest)

end

def pretty (value : Json) : Bytes := indented 0 value

end Telemetry.Json
