/-
  ComponentMarkup.Pipeline.Basic
  ────────────────────────────────
  **Passes and pipelines.**

  A pass changes a document, if it applies to it.  A pipeline holds passes in ascending order;
  passes of the same order stand as they were registered.  A run may be given a cancellation
  token, which is looked at before every pass and at no other time, so that a document is never
  left in the middle of a pass.  A token that is set stays set.
-/
import ComponentMarkup.Document
import ComponentMarkup.Text.Quoted

namespace ComponentMarkup

/-! ## §1. Passes. -/

/-- What a pass leaves behind: the document, whether it asked for the run to be cancelled, and the
error with which it failed, if it did. -/
structure PassOutcome where
  document : Document
  asksToCancel : Bool := false
  failure : Option CompileError := none

/-- A step of compilation. -/
structure Pass where
  name : String
  order : Int
  applies : Document → Bool
  run : Document → PassOutcome

/-- The name and the order of a pass, as they are shown. -/
def Pass.display (pass : Pass) : String :=
  "PassDescriptor \x7b name: " ++ Text.quote pass.name ++ ", order: " ++ Int.repr pass.order
    ++ " \x7d"

/-! ## §2. Pipelines. -/

/-- Passes in the order in which they run. -/
structure Pipeline where
  passes : List Pass

namespace Pipeline

/-- The pipeline without passes. -/
def empty : Pipeline := ⟨[]⟩

/-- The pipeline with one more pass, after all that are not of a higher order. -/
def register (pipeline : Pipeline) (pass : Pass) : Pipeline :=
  ⟨(pipeline.passes ++ [pass]).mergeSort fun first second => decide (first.order ≤ second.order)⟩

/-- The pipeline with more passes, registered from first to last. -/
def registerAll (pipeline : Pipeline) (passes : List Pass) : Pipeline :=
  passes.foldl register pipeline

/-- The names of the passes in the order in which they run. -/
def names (pipeline : Pipeline) : List String := pipeline.passes.map Pass.name

end Pipeline

/-! ## §3. Runs. -/

/-- A request to stop, once it is made. -/
structure Cancellation where
  requested : Bool := false
deriving DecidableEq

/-- The token after one more chance to set it. -/
def Cancellation.heed (token : Cancellation) (request : Bool) : Cancellation :=
  ⟨token.requested || request⟩

/-- How a run ended: the document and the token as they are left, and the error that stopped the
run, if one did. -/
structure PipelineRun where
  document : Document
  token : Option Cancellation
  failure : Option CompileError

namespace Pipeline

/-- Runs passes on a document.  The caller may set the token before the check of every pass, which
`requests` tells by the number of the check.  Without a token nobody can cancel the run. -/
def runPasses (requests : Nat → Bool) :
    Nat → Option Cancellation → Document → List Pass → PipelineRun
  | _, token, document, [] => ⟨document, token, none⟩
  | check, token, document, pass :: rest =>
    let token := token.map (·.heed (requests check))
    if token.any (·.requested) then ⟨document, token, some (.cancelled pass.name)⟩
    else if pass.applies document then
      let outcome := pass.run document
      let token := token.map (·.heed outcome.asksToCancel)
      match outcome.failure with
      | some error => ⟨outcome.document, token, some error⟩
      | none => runPasses requests (check + 1) token outcome.document rest
    -- A pass that does not apply was still a place where the run could stop.
    else runPasses requests (check + 1) token document rest

/-- Runs every pass that applies, unless one fails. -/
def run (pipeline : Pipeline) (document : Document) : PipelineRun :=
  runPasses (fun _ => false) 0 none document pipeline.passes

/-- Runs every pass that applies, unless one fails or the token is set before it. -/
def runUnder (pipeline : Pipeline) (token : Cancellation)
    (document : Document) (requests : Nat → Bool := fun _ => false) : PipelineRun :=
  runPasses requests 0 (some token) document pipeline.passes

end Pipeline

end ComponentMarkup
