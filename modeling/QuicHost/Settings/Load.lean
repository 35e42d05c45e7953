import QuicHost.Settings.Document
import QuicHost.Settings.Environment

/-!
# Loading settings

Settings come from a file, if there is one, on top of the defaults, and from the
environment on top of the file. Settings with a problem are not loaded.
-/

namespace QuicHost.Settings

/-- Why settings cannot be loaded. -/
inductive LoadError where
  /-- the file holds no text -/
  | unreadable
  /-- the text is no document, or a value in it is not what the setting is made
  of -/
  | malformed
  /-- the environment overrides a number with one below zero -/
  | override (e : NegativeOverride)
  /-- something is wrong with the settings -/
  | invalid (problems : List Problem)
deriving DecidableEq, Repr

/-- The text of an error in the settings themselves. -/
def LoadError.message? : LoadError → Option String
  | unreadable => none
  | malformed => none
  | override e => some e.message
  | invalid problems =>
    some ("\n".intercalate ("Configuration validation failed:" :: problems.map Problem.message))

/-- The settings that a file describes; without a file, the defaults. -/
def ofFile : Option Bytes → Except LoadError Settings
  | none => .ok {}
  | some content =>
    match String.fromUTF8? content.toByteArray with
    | none => .error .unreadable
    | some source =>
      match ofDocument? source with
      | none => .error .malformed
      | some s => .ok s

/-- The settings of a file and an environment. -/
def load (file : Option Bytes) (env : Environment) : Except LoadError Settings := do
  let s ← ofFile file
  match override env s with
  | .error e => throw (.override e)
  | .ok s => if s.Valid then return s else throw (.invalid s.problems)

/-- Only valid settings are loaded. -/
theorem valid_of_load {file : Option Bytes} {env : Environment} {s : Settings}
    (h : load file env = .ok s) : s.Valid := by
  simp only [load, bind, Except.bind] at h
  split at h
  · simp at h
  · split at h
    · simp [throw, throwThe, MonadExceptOf.throw] at h
    · split at h
      · next hv => simp only [pure, Except.pure, Except.ok.injEq] at h; exact h ▸ hv
      · simp [throw, throwThe, MonadExceptOf.throw] at h

end QuicHost.Settings
