/-
  ComponentMarkup.LoadFailure
  ────────────────────────────────
  **Why settings or a catalog could not be loaded.**

  A failure has one cause and a trail of what was being done, the outermost step first.
-/
import ComponentMarkup.CompileError

namespace ComponentMarkup

/-- Why loading failed. -/
inductive LoadCause where
  /-- The content is well formed and the compiler refuses it. -/
  | refused (error : CompileError)
  /-- The content is no JSON text, or one of the wrong shape. -/
  | unfitJson
  /-- There is no file that could be read. -/
  | unreadable
deriving DecidableEq, Repr

/-- A failed attempt to load something. -/
structure LoadFailure where
  cause : LoadCause
  context : List String := []
deriving DecidableEq, Repr

namespace LoadFailure

/-- What is loaded, or the failure with one more outer step on its trail. -/
def within {α : Type} (step : String) : Except LoadFailure α → Except LoadFailure α :=
  Except.mapError fun failure => { failure with context := step :: failure.context }

/-- What a step gives that the compiler may refuse. -/
def ofCompileError {α : Type} : Except CompileError α → Except LoadFailure α :=
  Except.mapError fun error => { cause := .refused error }

/-- What reading a JSON text gives, if the text fits. -/
def ofReading {α : Type} : Option α → Except LoadFailure α
  | some value => .ok value
  | none => .error { cause := .unfitJson }

end LoadFailure

end ComponentMarkup
