/-!
# Log levels

Five levels in order of weight. A level is written by its lower-case name; in a
request it may be written in any case, and a warning by either of two words.
Case here is that of the Latin alphabet: no other letter has a lower-case form
that any of the names begins with or holds.
-/

namespace QuicHost

/-- How much weight a message must have to be logged. -/
inductive LogLevel where
  /-- everything, step by step -/
  | trace
  /-- what helps to find faults -/
  | debug
  /-- what happens -/
  | info
  /-- what may be wrong -/
  | warn
  /-- what went wrong -/
  | error
deriving DecidableEq, Repr, Inhabited

namespace LogLevel

/-- The levels, lightest first. -/
def all : List LogLevel := [trace, debug, info, warn, error]

/-- The name of a level. -/
def name : LogLevel → String
  | trace => "trace"
  | debug => "debug"
  | info => "info"
  | warn => "warn"
  | error => "error"

/-- The weight of a level. -/
def rank : LogLevel → Nat
  | trace => 0
  | debug => 1
  | info => 2
  | warn => 3
  | error => 4

/-- The level that a text asks for, in any case. -/
def ofText? (s : String) : Option LogLevel :=
  let lower := s.toLower
  if lower = "warning" then some warn else all.find? (·.name = lower)

/-- What is said of a text that asks for no level. -/
def invalidMessage (s : String) : String := "Invalid log level: " ++ s

end LogLevel

end QuicHost
