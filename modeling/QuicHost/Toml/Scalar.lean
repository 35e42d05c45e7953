import QuicHost.Toml.Scan
import QuicHost.Toml.Value
import QuicHost.Word

/-!
# Single values of a TOML document

Texts, numbers, dates and truth values. A text keeps its characters and a whole
number its value, within 64 bits with a sign; floats and dates are checked and
keep their text.
-/

namespace QuicHost.Toml

open Scan

/-! ## Texts -/

/-- The characters that a backslash and one letter stand for. -/
def shortEscapes : List (Char × Char) :=
  [('b', '\x08'), ('t', '\t'), ('n', '\n'), ('f', '\x0c'), ('r', '\r'), ('"', '"'), ('\\', '\\')]

/-- The value of a digit up to base sixteen. -/
def digitValue (c : Char) : Nat :=
  if c ≤ '9' then c.toNat - 48 else if c ≤ 'F' then c.toNat - 55 else c.toNat - 87

/-- The number that digits of a base write. -/
def numberOf (base : Nat) (digits : List Char) : Nat :=
  digits.foldl (fun n c => n * base + digitValue c) 0

def isHexDigit (c : Char) : Bool := c.isDigit || ('a' ≤ c && c ≤ 'f') || ('A' ≤ c && c ≤ 'F')

/-- As many results of `p` as stated. -/
def times {α : Type} (p : Scan α) : Nat → Scan (List α)
  | 0 => pure []
  | n + 1 => do
    let first ← p
    return first :: (← times p n)

/-- The character with the code that `width` hexadecimal digits write.
Surrogates are none. -/
def codePoint (width : Nat) : Scan Char := do
  let n := numberOf 16 (← times (item isHexDigit) width)
  if h : n.isValidChar then return Char.ofNatAux n h else failure

/-- A character written with a backslash. -/
def escaped : Scan Char := do
  char '\\'
  let c ← item fun _ => true
  match shortEscapes.lookup c with
  | some e => return e
  | none => if c == 'u' then codePoint 4 else if c == 'U' then codePoint 8 else failure

/-- A character of a text in double quotes, on one line. -/
def basicChar : Scan Char := escaped <|> item fun c => isPlain c && c != '"' && c != '\\'

/-- A character of a text in single quotes, on one line. -/
def literalChar : Scan Char := item fun c => isPlain c && c != '\''

/-- The end of a line within a text. -/
def lineBreak : Scan (List Char) := do
  newline
  return ['\n']

/-- A quotation mark that does not begin the closing marks. -/
def loneQuote (quote : Char) : Scan (List Char) := do
  if (List.replicate 3 quote).isPrefixOf (← get) then failure
  char quote
  return [quote]

/-- A backslash at the end of a line, with all the blanks and line ends after
it. -/
def foldedLine : Scan (List Char) := do
  char '\\'
  blanks
  newline
  blankLines
  return []

/-- A text over several lines: three quotation marks around it, and one line end
after the first three left out. Up to two marks before the closing three belong
to the text. -/
def multiLine (quote : Char) (piece : Scan (List Char)) : Scan (List Char) := do
  let marks := times (char quote) 3
  let _ ← marks
  let _ ← maybe newline
  let body ← repeated (piece <|> lineBreak <|> loneQuote quote)
  let _ ← marks
  let extra ← repeated (char quote)
  if extra.length ≤ 2 then return body.flatten ++ extra.map fun _ => quote else failure

/-- A text on one line, in double or single quotes. -/
def lineText : Scan (List Char) :=
  char '"' *> repeated basicChar <* char '"' <|> char '\'' *> repeated literalChar <* char '\''

/-- A text. -/
def text : Scan Value := do
  let cs ← multiLine '"' (([·]) <$> basicChar <|> foldedLine)
    <|> multiLine '\'' (([·]) <$> literalChar) <|> lineText
  return .string (String.ofList cs)

/-! ## Numbers -/

/-- Digits with single underscores between them. -/
def digits (p : Char → Bool) : Scan (List Char) := do
  let first ← item p
  return first :: (← repeated (maybe (char '_') *> item p))

/-- Decimal digits that do not begin with a zero, or a zero alone. -/
def wholeDigits : Scan (List Char) := do
  match ← maybe (char '0') with
  | some _ => return ['0']
  | none => digits Char.isDigit

/-- A sign; true for a minus. -/
def sign : Scan Bool := (fun _ => true) <$> char '-' <|> (fun _ => false) <$> maybe (char '+')

/-- A number after `0x`, `0o` or `0b`. -/
def based : Scan Nat := do
  char '0'
  (char 'x' *> numberOf 16 <$> digits isHexDigit)
    <|> (char 'o' *> numberOf 8 <$> digits fun c => '0' ≤ c && c ≤ '7')
    <|> (char 'b' *> numberOf 2 <$> digits fun c => c == '0' || c == '1')

/-- A decimal number with its sign. -/
def decimal : Scan Int := do
  let negative ← sign
  let n := numberOf 10 (← wholeDigits)
  return if negative then - (n : Int) else n

/-- A whole number of 64 bits with a sign. -/
def integer : Scan Value := do
  let n ← Int.ofNat <$> based <|> decimal
  if FitsWord n then return .integer n else failure

/-- Whether `digits` times ten to the power `exponent` rounds to infinity as a
float of 64 bits: the limit lies halfway between the largest one and the next
power of two. -/
def overflows (digits : Nat) (exponent : Int) : Bool :=
  let size : Int := (toString digits).length + exponent
  digits ≠ 0 && 300 < size && (310 < size ||
    (1 <<< 1024 - 1 <<< 970) * Nat.pow 10 (- exponent).toNat ≤ digits * Nat.pow 10 exponent.toNat)

/-- The exponent of a float. -/
def exponent : Scan Int := do
  let _ ← item fun c => c == 'e' || c == 'E'
  let negative ← sign
  let n := numberOf 10 (← digits Char.isDigit)
  return if negative then - (n : Int) else n

/-- A float in digits, which has a fraction or an exponent. One above all finite
floats is refused. -/
def floatDigits : Scan Unit := do
  let negative ← sign
  let whole ← wholeDigits
  let fraction ← maybe (char '.' *> digits Char.isDigit)
  let power ← maybe exponent
  if fraction.isNone && power.isNone then failure
  let tail := fraction.getD []
  if !negative && overflows (numberOf 10 (whole ++ tail)) (power.getD 0 - tail.length) then failure

/-- A float. -/
def float : Scan Value :=
  .float <$> spelling (floatDigits <|> (sign *> (word "inf" <|> word "nan")))

/-! ## Dates and times -/

/-- A number of `width` decimal digits, within bounds. -/
def field (width least most : Nat) : Scan Nat := do
  let n := numberOf 10 (← times (item Char.isDigit) width)
  if least ≤ n ∧ n ≤ most then return n else failure

/-- The number of days of a month. -/
def daysInMonth (year month : Nat) : Nat :=
  if month = 2 then
    if year % 4 = 0 ∧ (year % 100 ≠ 0 ∨ year % 400 = 0) then 29 else 28
  else if month ∈ [4, 6, 9, 11] then 30 else 31

/-- A day of the calendar. -/
def date : Scan Unit := do
  let year ← field 4 0 9999
  char '-'
  let month ← field 2 1 12
  char '-'
  let _ ← field 2 1 (daysInMonth year month)

/-- A time of day, with a leap second and with fractions of a second. -/
def time : Scan Unit := do
  let _ ← field 2 0 23
  char ':'
  let _ ← field 2 0 59
  char ':'
  let _ ← field 2 0 60
  let _ ← maybe (char '.' *> run1 Char.isDigit)

/-- The distance of a time zone. -/
def offset : Scan Unit :=
  char 'Z' <|> char 'z' <|> do
    let _ ← item fun c => c == '+' || c == '-'
    let _ ← field 2 0 23
    char ':'
    let _ ← field 2 0 59

/-- A date, a time, or a date with a time. -/
def dateTime : Scan Value :=
  .dateTime <$> spelling (time <|> do
    date
    let _ ← maybe ((item fun c => c == 'T' || c == 't' || c == ' ') *> time *> maybe offset))

/-! ## All of them -/

/-- A truth value. -/
def boolean : Scan Value :=
  word "true" *> pure (.boolean true) <|> word "false" *> pure (.boolean false)

/-- A value that holds no others. -/
def scalar : Scan Value := text <|> dateTime <|> float <|> integer <|> boolean

end QuicHost.Toml
