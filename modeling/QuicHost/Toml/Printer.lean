import QuicHost.Bytes
import QuicHost.Toml.Document

/-!
# Writing TOML

A document is written in two levels. What holds a table at the top gets a
header, with the entries of the table on the lines below it; everything else
stands on a line of its own behind its key.
-/

namespace QuicHost.Toml

/-- A character of a text in double quotes. -/
def quotedChar (c : Char) : List Char :=
  match shortEscapes.find? (·.2 = c) with
  | some e => ['\\', e.1]
  | none =>
    if Scan.isPlain c then [c]
    else "\\u00".toList ++ Bytes.hexPair (UInt8.ofNat c.toNat)

/-- A text in double quotes. Control characters and quotes are written with a
backslash. -/
def quoted (s : String) : String :=
  String.ofList ('"' :: s.toList.flatMap quotedChar ++ ['"'])

/-- One part of a key, in quotes if it needs them. -/
def keyText (name : String) : String :=
  if !name.isEmpty && name.toList.all isBareKeyChar then name else quoted name

mutual

/-- A value on one line. -/
def Value.text : Value → String
  | .string s => quoted s
  | .integer n => toString n
  | .boolean b => if b then "true" else "false"
  | .float spelling => spelling
  | .dateTime spelling => spelling
  | .array items => "[" ++ ", ".intercalate (Value.texts items) ++ "]"
  | .table _ entries => Value.bracesText entries
  | .tables items => "[" ++ ", ".intercalate (Value.tableTexts items) ++ "]"

/-- Values on one line, each by itself. -/
def Value.texts : List Value → List String
  | [] => []
  | v :: rest => v.text :: Value.texts rest

/-- Entries, each with its key. -/
def Value.entryTexts : List (String × Value) → List String
  | [] => []
  | (name, v) :: rest => (keyText name ++ " = " ++ v.text) :: Value.entryTexts rest

/-- A table in braces. -/
def Value.bracesText : List (String × Value) → String
  | [] => "\x7b\x7d"
  | (name, v) :: rest =>
    "\x7b " ++ ", ".intercalate ((keyText name ++ " = " ++ v.text) :: Value.entryTexts rest) ++
      " \x7d"

/-- Tables in braces, each by itself. -/
def Value.tableTexts : List (List (String × Value)) → List String
  | [] => []
  | entries :: rest => Value.bracesText entries :: Value.tableTexts rest

end

/-- Lines, each with its end. -/
def linesText (lines : List String) : String :=
  String.join (lines.map (· ++ "\n"))

/-- The entries of a table that stand above its headers. -/
def plainEntries (entries : Entries) : Entries :=
  entries.filter fun e => match e.2 with
    | .table .. => false
    | _ => true

/-- The tables of a document, with their names. -/
def tableEntries (entries : Entries) : List (String × Entries) :=
  entries.filterMap fun e => match e.2 with
    | .table _ es => some (e.1, es)
    | _ => none

/-- The text of a document. -/
def documentText (entries : Entries) : String :=
  let top := match plainEntries entries with
    | [] => []
    | plain => [linesText (Value.entryTexts plain)]
  "\n".intercalate (top ++ (tableEntries entries).map fun t =>
    linesText (("[" ++ keyText t.1 ++ "]") :: Value.entryTexts t.2))

end QuicHost.Toml
