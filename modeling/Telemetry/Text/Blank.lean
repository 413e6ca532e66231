import Telemetry.Bytes
/-!
Blank characters: those with the Unicode property White_Space, and texts without blanks at
either end.
-/

namespace Telemetry.Text

/-- The characters with the property White_Space. -/
def isBlank (letter : Char) : Bool :=
  let code := letter.toNat
  (0x09 ≤ code && code ≤ 0x0D) || code == 0x20 || code == 0x85 || code == 0xA0 ||
    code == 0x1680 || (0x2000 ≤ code && code ≤ 0x200A) || code == 0x2028 || code == 0x2029 ||
    code == 0x202F || code == 0x205F || code == 0x3000

def trim (text : String) : String :=
  String.ofList ((text.toList.dropWhile isBlank).reverse.dropWhile isBlank).reverse

def isBlankText (text : String) : Bool := text.toList.all isBlank

/-- The pieces between the occurrences of a separator; there is always at least one. -/
def split (separator : Char) (text : String) : List String :=
  (text.toList.splitOn separator).map String.ofList

def before (separator : Char) (text : String) : String :=
  String.ofList (text.toList.takeWhile (· != separator))

end Telemetry.Text
