import QuicHost.Settings.Basic

/-!
# Settings from the environment

A few settings can be overridden by environment variables. A variable stands for
the setting whose path remains when its name is put in lower case, the common
beginning is cut off and every pair of underscores becomes a dot. Values are
texts: one that does not read as what the setting is made of is passed over, but
a number below zero is an error. Letters other than those of the Latin alphabet
occur in no path and in no value that reads as something, so case is that of the
Latin alphabet.
-/

namespace QuicHost.Settings

/-- The variables of an environment, with their values. -/
abbrev Environment := List (String × String)

/-- The beginning that the names of our variables have in common. -/
def environmentStem : List Char := "qbind_".toList

/-- Writes a dot for every pair of underscores, from the left. -/
def dotted : List Char → List Char
  | '_' :: '_' :: rest => '.' :: dotted rest
  | c :: rest => c :: dotted rest
  | [] => []

/-- The path of the setting that a variable stands for, if it is one of ours. -/
def pathOf? (name : String) : Option String :=
  let lower := name.toLower.toList
  if environmentStem.isPrefixOf lower then
    some (String.ofList (dotted (lower.drop environmentStem.length)))
  else none

/-- The value of the setting at a path: the last variable that stands for it
decides. -/
def Environment.value? (env : Environment) (path : String) : Option String :=
  (env.reverse.find? fun e => pathOf? e.1 = some path).map Prod.snd

/-! ## Reading values -/

/-- The words for yes. -/
def yesWords : List String := ["true", "on", "yes"]

/-- The words for no. -/
def noWords : List String := ["false", "off", "no"]

/-- A number in decimal digits. -/
def digitsNumber? (digits : List Char) : Option Nat :=
  if !digits.isEmpty && digits.all Char.isDigit then
    some (digits.foldl (fun n c => n * 10 + (c.toNat - 48)) 0)
  else none

/-- A number in decimal digits, with or without a sign. -/
def signedNumber? : List Char → Option Int
  | '-' :: digits => (digitsNumber? digits).map fun n => - (n : Int)
  | '+' :: digits => (digitsNumber? digits).map fun n => (n : Int)
  | digits => (digitsNumber? digits).map fun n => (n : Int)

/-- A whole number of 64 bits with a sign; yes is one and no is zero. -/
def integer? (s : String) : Option Int :=
  if s.toLower ∈ yesWords then some 1
  else if s.toLower ∈ noWords then some 0
  else (signedNumber? s.toList).filter fun n => FitsWord n

/-- A truth value. -/
def flag? (s : String) : Option Bool :=
  if s.toLower ∈ "1" :: yesWords then some true
  else if s.toLower ∈ "0" :: noWords then some false
  else none

/-! ## Overriding -/

/-- A setting that was given a number below zero. -/
structure NegativeOverride where
  /-- the path of the setting -/
  path : String
deriving DecidableEq, Repr

/-- The text of the error. -/
def NegativeOverride.message (e : NegativeOverride) : String := e.path ++ " must not be negative"

/-- Overrides a number. -/
def overrideNumber (env : Environment) (path : String) (set : Settings → Nat → Settings)
    (s : Settings) : Except NegativeOverride Settings :=
  match (env.value? path).bind integer? with
  | some n => if n < 0 then .error ⟨path⟩ else .ok (set s n.toNat)
  | none => .ok s

/-- Overrides a truth value. -/
def overrideFlag (env : Environment) (path : String) (set : Settings → Bool → Settings)
    (s : Settings) : Settings :=
  (((env.value? path).bind flag?).map (set s)).getD s

/-- The settings, with all that the environment overrides. -/
def override (env : Environment) (s : Settings) : Except NegativeOverride Settings := do
  let s ← overrideNumber env "endpoint.max_connections"
    (fun s n => { s with endpoint := { s.endpoint with maxConnections := n } }) s
  let s := overrideFlag env "endpoint.accept_incoming"
    (fun s b => { s with endpoint := { s.endpoint with acceptIncoming := b } }) s
  let s := overrideFlag env "endpoint.stateless_reset"
    (fun s b => { s with endpoint := { s.endpoint with statelessReset := b } }) s
  let s ← overrideNumber env "connection.idle_timeout_ms"
    (fun s n => { s with connection := { s.connection with idleTimeoutMs := n } }) s
  let s ← overrideNumber env "connection.drain_timeout_ms"
    (fun s n => { s with connection := { s.connection with drainTimeoutMs := n } }) s
  match (env.value? "logging.level").bind LogLevel.ofText? with
  | some level => return { s with logging := { s.logging with level := level } }
  | none => return s

/-- A variable that is none of ours overrides nothing. -/
theorem value?_cons_of_pathOf?_eq_none {env : Environment} {name value path : String}
    (h : pathOf? name = none) :
    Environment.value? ((name, value) :: env) path = env.value? path := by
  simp [Environment.value?, List.find?_append, h]

end QuicHost.Settings
