/-!
# Scanning text

A scanner takes characters from the front of a text and answers with what they
mean, or refuses. It is plain state passing over `Option`, so `p <|> q` runs `q`
on the text that `p` saw. Repetition ends when the repeated scanner refuses or
takes nothing, and is total for that reason.
-/

namespace QuicHost.Toml

/-- A scanner over the text that is left. -/
abbrev Scan (α : Type) := StateT (List Char) Option α

namespace Scan

/-- One character that satisfies `p`. -/
def item (p : Char → Bool) : Scan Char := fun text =>
  match text with
  | c :: rest => if p c then some (c, rest) else none
  | [] => none

/-- The character `c`. -/
def char (c : Char) : Scan Unit := do
  let _ ← item (· == c)

/-- The characters of `w`, one after the other. -/
def word (w : String) : Scan Unit := w.toList.forM char

/-- The longest run of characters that satisfy `p`, which may be empty. -/
def run (p : Char → Bool) : Scan (List Char) := fun text =>
  some (text.takeWhile p, text.dropWhile p)

/-- The longest run of characters that satisfy `p`, with at least one. -/
def run1 (p : Char → Bool) : Scan (List Char) := do
  let first ← item p
  return first :: (← run p)

/-- Nothing, at the end of the text only. -/
def atEnd : Scan Unit := fun text => if text.isEmpty then some ((), text) else none

/-- The results of `p`, as often as it takes something. -/
def many {α : Type} (p : Scan α) (text : List Char) : List α × List Char :=
  match p text with
  | none => ([], text)
  | some (a, rest) =>
    if rest.length < text.length then
      let (others, rest) := many p rest
      (a :: others, rest)
    else ([], text)
termination_by text.length

/-- The results of `p`, as often as it takes something, as a scanner. -/
def repeated {α : Type} (p : Scan α) : Scan (List α) := fun text => some (many p text)

/-- One or more results of `p` with `separator` between them. -/
def separated1 {α : Type} (p : Scan α) (separator : Scan Unit) : Scan (List α) := do
  let first ← p
  return first :: (← repeated (separator *> p))

/-- Results of `p` with `separator` between them, or none at all. -/
def separated {α : Type} (p : Scan α) (separator : Scan Unit) : Scan (List α) :=
  separated1 p separator <|> pure []

/-- What `p` says, if it says anything. -/
def maybe {α : Type} (p : Scan α) : Scan (Option α) := some <$> p <|> pure none

/-- The text that `p` takes. -/
def spelling {α : Type} (p : Scan α) : Scan String := fun text =>
  (p text).map fun r => (String.ofList (text.take (text.length - r.2.length)), r.2)

/-! ## Blanks, comments and line ends -/

/-- A space or a tab. -/
def isBlank (c : Char) : Bool := c == ' ' || c == '\t'

/-- A character that may stand within a line: no control character but the tab. -/
def isPlain (c : Char) : Bool := c == '\t' || (' ' ≤ c && c != '\x7f')

/-- Spaces and tabs. -/
def blanks : Scan Unit := do
  let _ ← run isBlank

/-- The end of a line. -/
def newline : Scan Unit := char '\n' <|> word "\r\n"

/-- The rest of the line after a number sign. -/
def comment : Scan Unit := do
  char '#'
  let _ ← run isPlain

/-- Spaces, tabs and line ends. -/
def blankLines : Scan Unit := do
  let _ ← repeated (blanks *> newline)
  blanks

/-- Spaces, tabs, line ends and comments. -/
def gap : Scan Unit := do
  let _ ← repeated (blanks *> (newline <|> comment *> newline))
  blanks

/-- `many` leaves no more than it was given. -/
theorem length_many_le {α : Type} (p : Scan α) (text : List Char) :
    (many p text).2.length ≤ text.length := by
  fun_induction many p text with
  | case1 => simp
  | case2 text a rest h hlt others rest' hrec ih => simp_all; omega
  | case3 => simp

end Scan

end QuicHost.Toml
