/-!
# Values of a TOML document

A document is a table of values. What a table may still receive depends on how
it came about: a table in braces is complete where it stands, a table opened by
its header is filled by the lines below it, and a table that is only passed
through by a longer header or by a dotted key can still be added to in the same
way. So every table carries its origin, and the two functions that grow a
document, `assign` for a key with its value and `openTable` for a header, decide
by it. Both refuse to define anything twice.

A float or a date keeps the text it is written in, since nothing here computes
with one.
-/

namespace QuicHost.Toml

/-- How a table came about. -/
inductive TableOrigin where
  /-- written in braces, and complete -/
  | braces
  /-- opened by a header of its own -/
  | header
  /-- passed through by a longer header -/
  | passage
  /-- passed through by a dotted key -/
  | dotted
deriving DecidableEq, Repr

/-- A value of a document. -/
inductive Value where
  /-- a text -/
  | string (s : String)
  /-- a whole number -/
  | integer (n : Int)
  /-- a truth value -/
  | boolean (b : Bool)
  /-- a number with a fraction or an exponent, an infinity, or not a number -/
  | float (spelling : String)
  /-- a date, a time, or both -/
  | dateTime (spelling : String)
  /-- values in brackets -/
  | array (items : List Value)
  /-- values by name -/
  | table (origin : TableOrigin) (entries : List (String × Value))
  /-- tables of one name, each opened by a header in double brackets -/
  | tables (items : List (List (String × Value)))
deriving Inhabited

/-- Values by name. -/
abbrev Entries := List (String × Value)

namespace Entries

/-- Replaces the value of the first entry of that name. -/
def replace (entries : Entries) (name : String) (v : Value) : Entries :=
  match entries with
  | [] => []
  | e :: rest => if e.1 = name then (name, v) :: rest else e :: replace rest name v

/-- Changes the last of the tables, if there is one. -/
def onLast (f : Entries → Option Entries) : List Entries → Option (List Entries)
  | [] => none
  | [last] => (f last).map ([·])
  | first :: rest => (onLast f rest).map (first :: ·)

/-! ## Keys with a value -/

/-- Gives a dotted key its value. On the way the key may create tables and pass
through tables that keys or headers only passed through before. The table that
receives the last name must be one of dotted keys, unless the key is a single
name. -/
def assign (entries : Entries) : List String → Value → Option Entries
  | [], _ => none
  | [name], v => if (entries.lookup name).isSome then none else some (entries ++ [(name, v)])
  | name :: rest, v =>
    match entries.lookup name with
    | none => (assign [] rest v).map fun es => entries ++ [(name, .table .dotted es)]
    | some (.table .dotted es) =>
      (assign es rest v).map fun es => entries.replace name (.table .dotted es)
    | some (.table .passage es) =>
      if rest.length = 1 then none
      else (assign es rest v).map fun es => entries.replace name (.table .passage es)
    | some (.tables items) =>
      if rest.length = 1 then none
      else (onLast (assign · rest v) items).map fun items => entries.replace name (.tables items)
    | some _ => none

/-! ## Headers -/

/-- Follows the names of a header, creating the tables that are missing, and
changes the table at their end with `f`. Of tables of one name it enters the
last. -/
def within (f : Entries → Option Entries) (entries : Entries) : List String → Option Entries
  | [] => f entries
  | name :: rest =>
    match entries.lookup name with
    | none => (within f [] rest).map fun es => entries ++ [(name, .table .passage es)]
    | some (.table .braces _) => none
    | some (.table origin es) =>
      (within f es rest).map fun es => entries.replace name (.table origin es)
    | some (.tables items) =>
      (onLast (within f · rest) items).map fun items => entries.replace name (.tables items)
    | some _ => none

/-- Opens the table of that name: a new one, or one that was only passed through
by headers. -/
def openTable (name : String) (entries : Entries) : Option Entries :=
  match entries.lookup name with
  | none => some (entries ++ [(name, .table .header [])])
  | some (.table .passage es) => some (entries.replace name (.table .header es))
  | some _ => none

/-- Opens one more of the tables of that name. -/
def openElement (name : String) (entries : Entries) : Option Entries :=
  match entries.lookup name with
  | none => some (entries ++ [(name, .tables [[]])])
  | some (.tables items) => some (entries.replace name (.tables (items ++ [[]])))
  | some _ => none

end Entries

end QuicHost.Toml
