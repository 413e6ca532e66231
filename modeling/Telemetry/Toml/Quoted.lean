import Telemetry.Net.Address
/-!
Quoted texts of TOML documents. There are four styles: in double or single quotes, on one line or,
in three quotes each, on several. Only double quotes know escapes. A text on several lines may hold
up to two quotes in a row, also before the three that end it.
-/

namespace Telemetry.Toml

/-- The characters of texts and comments that stand for themselves. -/
def isPlain (letter : Char) : Bool :=
  letter == '\t' || (0x20 ≤ letter.toNat && letter.toNat != 0x7F)

structure QuoteStyle where
  quote : Char
  /-- Whether a backslash begins an escape. -/
  escapes : Bool
  /-- Whether the text may go on on another line. -/
  isLong : Bool

/-- What has been read of something that takes more than one character. -/
inductive QuoteMode where
  | plain
  | escaped
  /-- Within the digits of a code point, of which some are left. -/
  | code (left : Nat) (value : Nat)
  | carriage
  /-- Within the blanks that a backslash at the end of a line removes, before or after that end. -/
  | folding (ended : Bool)
  | foldingCarriage
  | quotes (count : Nat)

def QuoteMode.quoteCount : QuoteMode → Nat
  | .quotes count => count
  | _ => 0

def charOfCode? (code : Nat) : Option Char :=
  if code.isValidChar then some (Char.ofNat code) else none

def escape? : Char → Option Char
  | 'b' => some '\x08'
  | 't' => some '\t'
  | 'n' => some '\n'
  | 'f' => some '\x0c'
  | 'r' => some '\r'
  | '"' => some '"'
  | '\\' => some '\\'
  | _ => none

namespace QuoteStyle

def plainStep (style : QuoteStyle) (done : List Char) (letter : Char) :
    Option (QuoteMode × List Char) :=
  if letter = style.quote then some (.quotes 1, done)
  else if letter = '\\' ∧ style.escapes then some (.escaped, done)
  else if isPlain letter then some (.plain, letter :: done)
  else if style.isLong ∧ letter = '\n' then some (.plain, '\n' :: done)
  else if style.isLong ∧ letter = '\r' then some (.carriage, done)
  else none

def escapedStep (style : QuoteStyle) (done : List Char) (letter : Char) :
    Option (QuoteMode × List Char) :=
  match escape? letter with
  | some meant => some (.plain, meant :: done)
  | none =>
    if letter = 'u' then some (.code 4 0, done)
    else if letter = 'U' then some (.code 8 0, done)
    else if !style.isLong then none
    else if letter = ' ' ∨ letter = '\t' then some (.folding false, done)
    else if letter = '\n' then some (.folding true, done)
    else if letter = '\r' then some (.foldingCarriage, done)
    else none

/-- What a character makes of what was read; `done` is the text so far in reverse. -/
def step (style : QuoteStyle) (mode : QuoteMode) (done : List Char) (letter : Char) :
    Option (QuoteMode × List Char) :=
  match mode with
  | .plain => style.plainStep done letter
  | .escaped => style.escapedStep done letter
  | .code left value => do
    let digit ← Net.Address.hexDigit? letter
    let next := value * 16 + digit
    if left ≤ 1 then
      let meant ← charOfCode? next
      return (.plain, meant :: done)
    else return (.code (left - 1) next, done)
  | .carriage => if letter = '\n' then some (.plain, '\n' :: done) else none
  | .folding ended =>
    if letter = ' ' ∨ letter = '\t' then some (.folding ended, done)
    else if letter = '\n' then some (.folding true, done)
    else if letter = '\r' then some (.foldingCarriage, done)
    else if ended then style.plainStep done letter
    else none
  | .foldingCarriage => if letter = '\n' then some (.folding true, done) else none
  | .quotes count =>
    if letter = style.quote then some (.quotes (count + 1), done)
    else style.plainStep (List.replicate count style.quote ++ done) letter

def close (style : QuoteStyle) (count : Nat) (done : List Char) (rest : List Char) :
    String × List Char :=
  (String.ofList (List.replicate count style.quote ++ done).reverse, rest)

/-- The rest of a text on several lines, after the quotes that open it. Five quotes in a row end
it in any case; three or four do if there is no other. -/
def readLong? (style : QuoteStyle) :
    QuoteMode → (done : List Char) → List Char → Option (String × List Char)
  | mode, done, [] =>
    if 3 ≤ mode.quoteCount then some (style.close (mode.quoteCount - 3) done []) else none
  | mode, done, letter :: rest =>
    if letter = style.quote ∧ mode.quoteCount = 4 then some (style.close 2 done rest)
    else if letter ≠ style.quote ∧ 3 ≤ mode.quoteCount then
      some (style.close (mode.quoteCount - 3) done (letter :: rest))
    else
      match style.step mode done letter with
      | some (next, text) => readLong? style next text rest
      | none => none

/-- The rest of a text on one line, after the quote that opens it. -/
def readShort? (style : QuoteStyle) :
    QuoteMode → (done : List Char) → List Char → Option (String × List Char)
  | .quotes _, done, rest => some (style.close 0 done rest)
  | _, _, [] => none
  | mode, done, letter :: rest =>
    match style.step mode done letter with
    | some (next, text) => readShort? style next text rest
    | none => none

def ofQuote (quote : Char) (isLong : Bool) : QuoteStyle := ⟨quote, quote == '"', isLong⟩

end QuoteStyle

def shortText? (quote : Char) (text : List Char) : Option (String × List Char) :=
  (QuoteStyle.ofQuote quote false).readShort? .plain [] text

/-- A text in any style, after its first quote. The end of the line that the quotes open is not
part of a text on several lines. -/
def quotedText? (quote : Char) (text : List Char) : Option (String × List Char) :=
  match text with
  | second :: third :: rest =>
    if second = quote ∧ third = quote then
      let body := match rest with
        | '\n' :: body => body
        | '\r' :: '\n' :: body => body
        | body => body
      (QuoteStyle.ofQuote quote true).readLong? .plain [] body
    else shortText? quote text
  | _ => shortText? quote text

end Telemetry.Toml
