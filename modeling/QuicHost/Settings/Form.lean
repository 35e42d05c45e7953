import QuicHost.Time
import QuicHost.Toml.Value

/-!
# Written forms of settings

A form says how a value of one type is written in a document and read back. The
form of a structure is put together from its fields, each with a name, a form,
and the two ways between the field and the structure. Reading starts from given
values: a field that the document does not name stays as it is, and a name that
is no field is passed over.
-/

namespace QuicHost.Settings

open Toml

/-- How values of a type are written in a document. -/
structure Form (α : Type) where
  /-- the value that is written, if it is one of the type -/
  read : Value → Option α
  /-- the way a value is written -/
  write : α → Value

/-- A field of a structure. -/
structure Field (σ : Type) where
  /-- the name of the field in a document -/
  name : String
  /-- the structure with the field as it is written, if that is a value of the
  field -/
  read : Value → σ → Option σ
  /-- the way the field of a structure is written -/
  write : σ → Value

/-- A field by its name, its form, and its place in the structure. -/
def Field.of {σ α : Type} (name : String) (form : Form α) (get : σ → α) (set : σ → α → σ) :
    Field σ where
  name := name
  read v s := (form.read v).map (set s)
  write s := form.write (get s)

namespace Form

/-- A whole number from zero up to `limit`. -/
def number (limit : Nat) : Form Nat where
  read
    | .integer n => if 0 ≤ n ∧ n ≤ limit then some n.toNat else none
    | _ => none
  write n := .integer n

/-- A number of 64 bits. -/
def word : Form Nat := number maxWord

/-- A truth value. -/
def flag : Form Bool where
  read
    | .boolean b => some b
    | _ => none
  write := .boolean

/-- The values that stand one after the other. -/
def elements? : Value → Option (List Value)
  | .array items => some items
  | .tables items => some (items.map (.table .header))
  | _ => none

/-- Any number of values of one form. -/
def list {α : Type} (form : Form α) : Form (List α) where
  read v := do (← elements? v).mapM form.read
  write l := .array (l.map form.write)

/-- Whether a value holds nothing. -/
def isHollow : Value → Bool
  | .array items => items.isEmpty
  | .table _ entries => entries.isEmpty
  | _ => false

/-- One of the values of a list, by its name: the name as a text, or as the only
key of a table, with nothing under it. -/
def choice {α : Type} (all : List α) (name : α → String) : Form α where
  read
    | .string s => all.find? (name · = s)
    | .table _ [(s, v)] => if isHollow v then all.find? (name · = s) else none
    | _ => none
  write a := .string (name a)

/-- A structure. It is written as a table; a sequence is read as the fields in
their order, as far as it goes. A date has none of the fields. -/
def record {σ : Type} (fields : List (Field σ)) (start : σ) : Form σ where
  read
    | .table _ entries => fields.foldlM (fun s f => match entries.lookup f.name with
        | some v => f.read v s
        | none => some s) start
    | .dateTime _ => some start
    | v => do (fields.zip (← elements? v)).foldlM (fun s p => p.1.read p.2 s) start
  write s := .table .header (fields.map fun f => (f.name, f.write s))

/-- A number is read back from its own form, as long as it is within the limit. -/
theorem read_write_number {limit n : Nat} (h : n ≤ limit) :
    (number limit).read ((number limit).write n) = some n := by
  simp [number]; omega

/-- A truth value is read back from its own form. -/
theorem read_write_flag (b : Bool) : flag.read (flag.write b) = some b := rfl

end Form

end QuicHost.Settings
