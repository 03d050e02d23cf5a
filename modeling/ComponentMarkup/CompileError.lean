/-
  ComponentMarkup.CompileError
  ────────────────────────────────
  **Mistakes of the caller.**

  A compile error says that the compiler was asked for something it cannot do.  Problems in
  authored markup are never errors: they are diagnostics.  `message` is the wording.
-/
import ComponentMarkup.Tree.Fault

namespace ComponentMarkup

/-- A text that a declaration cannot do without. -/
inductive RequiredArgument where
  | kind
  | name
  | assemblyName
deriving DecidableEq, Repr

/-- How an error names the argument. -/
def RequiredArgument.label : RequiredArgument → String
  | .kind => "kind"
  | .name => "name"
  | .assemblyName => "assembly_name"

/-- Why the compiler refused a request. -/
inductive CompileError where
  /-- A required text is missing or empty. -/
  | missingArgument (argument : RequiredArgument)
  /-- The text names no language version. -/
  | invalidLanguageVersion (text : String)
  /-- The text names no kind of file. -/
  | unknownFileKind (text : String)
  /-- The compilation was cancelled at the boundary before a pass. -/
  | cancelled (beforePass : String)
  /-- The document tree is malformed, or an edit would have made it so. -/
  | malformedTree (fault : TreeFault)
deriving DecidableEq, Repr

/-- The wording of an error. -/
def CompileError.message : CompileError → String
  | .missingArgument argument => "value cannot be null or empty: `" ++ argument.label ++ "`"
  | .invalidLanguageVersion text => "'" ++ text ++ "' is not a valid language version"
  | .unknownFileKind text => "'" ++ text ++ "' is not a known file kind"
  | .cancelled beforePass => "compilation cancelled before pass `" ++ beforePass ++ "`"
  | .malformedTree fault => "intermediate tree is malformed: " ++ fault.message

/-- Accepts a text that is not empty; otherwise names the argument that is missing. -/
def requireText (argument : RequiredArgument) (text : String) : Except CompileError String :=
  if text.isEmpty then .error (.missingArgument argument) else .ok text

end ComponentMarkup
