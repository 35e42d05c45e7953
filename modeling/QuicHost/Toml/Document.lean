import QuicHost.Toml.Scalar

/-!
# TOML documents

A document is read in two steps. Its text is scanned into lines, each of which
opens a table or gives a key its value, and the lines then grow the table of the
document one after the other. Brackets nest, and keys have parts, up to a fixed
bound; it makes the recursion over nested values structural.
-/

namespace QuicHost.Toml

open Scan

/-- Brackets and dotted keys go less deep than this. -/
def maxDepth : Nat := 80

/-! ## Keys -/

/-- A character of a key without quotes. -/
def isBareKeyChar (c : Char) : Bool := c.isAlphanum || c == '_' || c == '-'

/-- One part of a key. -/
def simpleKey : Scan String := String.ofList <$> (run1 isBareKeyChar <|> lineText)

/-- A key: names with dots between them. -/
def key : Scan (List String) := do
  let names ← separated1 (blanks *> simpleKey <* blanks) (char '.')
  if names.length < maxDepth then return names else failure

/-! ## Values -/

/-- Values in brackets, over several lines if need be. A comma may follow the
last one. -/
def array (value : Scan Value) : Scan Value := do
  char '['
  let items ← separated (gap *> value <* gap) (char ',')
  if !items.isEmpty then
    let _ ← maybe (char ',')
  gap
  char ']'
  return .array items

/-- A key, an equals sign and a value. -/
def assignment (value : Scan Value) : Scan (List String × Value) := do
  let names ← key
  char '='
  blanks
  return (names, ← value)

/-- Assignments in braces, on one line. -/
def bracedTable (value : Scan Value) : Scan Value := do
  char '\x7b'
  let assignments ← separated (assignment value <* blanks) (char ',')
  blanks
  char '\x7d'
  match assignments.foldlM (fun es a => Entries.assign es a.1 a.2) [] with
  | some es => return .table .braces es
  | none => failure

/-- A value in which brackets nest at most so often. -/
def value : Nat → Scan Value
  | 0 => scalar
  | depth + 1 => scalar <|> array (value depth) <|> bracedTable (value depth)

/-! ## Lines -/

/-- What a line does. -/
inductive Line where
  /-- nothing: it is blank or a comment -/
  | blank
  /-- opens a table -/
  | tableHeader (names : List String)
  /-- opens one more of the tables of a name -/
  | elementHeader (names : List String)
  /-- gives a key its value -/
  | assign (names : List String) (v : Value)

/-- What a line does, without the comment at its end. -/
def lineContent : Scan Line :=
  Line.elementHeader <$> (word "[[" *> key <* word "]]")
    <|> Line.tableHeader <$> (char '[' *> key <* char ']')
    <|> (fun a => Line.assign a.1 a.2) <$> assignment (value (maxDepth - 1))
    <|> pure .blank

/-- A line with its end. -/
def line : Scan Line := do
  blanks
  let content ← lineContent
  blanks
  let _ ← maybe comment
  newline <|> atEnd
  return content

/-! ## Growing the document -/

/-- A document half read: its table, and the names of the table that the last
header opened. -/
structure Draft where
  /-- the table of the document -/
  entries : Entries := []
  /-- where keys are assigned -/
  current : List String := []

/-- Opens a table with `create` at the end of a header. -/
def Draft.openWith (create : String → Entries → Option Entries) (d : Draft) (names : List String) :
    Option Draft := do
  let name ← names.getLast?
  let entries ← d.entries.within (create name) names.dropLast
  return ⟨entries, names⟩

/-- What a line does to the document. -/
def Draft.add (d : Draft) : Line → Option Draft
  | .blank => some d
  | .tableHeader names => d.openWith Entries.openTable names
  | .elementHeader names => d.openWith Entries.openElement names
  | .assign names v => do
    let entries ← d.entries.within (·.assign names v) d.current
    return { d with entries }

/-- The table that a text describes, if it is a document. A byte order mark at
its beginning is left out. -/
def document? (source : String) : Option Entries := do
  let (_, text) ← maybe (char '\ufeff') source.toList
  let (lines, rest) := many line text
  if rest.isEmpty then
    let draft ← lines.foldlM Draft.add ({} : Draft)
    return draft.entries
  else none

end QuicHost.Toml
