import Telemetry.Text.Unseen
/-!
Texts in quotes, for messages. A quote and a backslash are preceded by a backslash, the four
usual controls are written by letter, and a character without a visible form of its own is
written by its number.
-/

namespace Telemetry.Text

def byNumber (letter : Char) : List Char :=
  ['\\', 'u', '\x7b'] ++ Nat.toDigits 16 letter.toNat ++ ['\x7d']

def quotedLetter (letter : Char) : List Char :=
  if letter = '\x00' then ['\\', '0']
  else if letter = '\t' then ['\\', 't']
  else if letter = '\r' then ['\\', 'r']
  else if letter = '\n' then ['\\', 'n']
  else if letter = '\\' then ['\\', '\\']
  else if letter = '"' then ['\\', '"']
  else if Unseen.contains letter then byNumber letter
  else [letter]

def quoted (text : String) : String :=
  String.ofList ('"' :: text.toList.flatMap quotedLetter ++ ['"'])

end Telemetry.Text
