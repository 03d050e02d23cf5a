/-
  ComponentMarkup.Compiler
  ────────────────────────────────
  **The compiler.**

  A compiler has settings, a catalog and a pipeline.  It takes a document through the pipeline and
  accepts the result if its tree is well formed.  What is wrong with the authored markup stands in
  the diagnostics of the compiled document and is no error of the compiler.
-/
import ComponentMarkup.Files.Loading
import ComponentMarkup.Pipeline.Standard
import ComponentMarkup.Tree.Validation

namespace ComponentMarkup

/-- A compiler of templates. -/
structure Compiler where
  settings : Settings
  catalog : Catalog
  pipeline : Pipeline := .standard

/-- A document that went through the compiler. -/
structure Compilation where
  tree : MarkupTree
  catalog : Catalog
  capabilities : Capabilities
  fileKind : FileKind
deriving DecidableEq

namespace Compilation

/-- What is reported about the document. -/
def diagnostics (compiled : Compilation) : List Diagnostic := compiled.tree.diagnostics

/-- Whether an error is reported about the document. -/
def hasErrors (compiled : Compilation) : Bool :=
  ComponentMarkup.hasErrors compiled.diagnostics

end Compilation

namespace Compiler

/-- A compiler with the catalog that its settings name. -/
def ofSettings (set : FileSet) (settings : Settings) : Except LoadFailure Compiler := do
  return { settings := settings, catalog := ← settings.namedCatalog set }

/-- A document for this compiler, of the given kind of file or else of the configured one. -/
def documentFor (compiler : Compiler) (tree : MarkupTree)
    (fileKind : FileKind := compiler.settings.fileKind) : Document :=
  .ofTree tree fileKind compiler.settings.languageVersion compiler.catalog

/-- The compiled document of a run, if the run was not stopped and left a well-formed tree. -/
def finish (run : PipelineRun) : Except CompileError Compilation := do
  if let some error := run.failure then throw error
  run.document.tree.validate
  return {
    tree := run.document.tree
    catalog := run.document.catalog
    capabilities := run.document.capabilities
    fileKind := run.document.fileKind }

/-- Compiles a document. -/
def compile (compiler : Compiler) (document : Document) : Except CompileError Compilation :=
  finish (compiler.pipeline.run document)

/-- Compiles a document unless the token is set, and gives the token as it is left. -/
def compileUnder (compiler : Compiler) (token : Cancellation)
    (document : Document) : Except CompileError Compilation × Cancellation :=
  let run := compiler.pipeline.runUnder token document
  (finish run, run.token.getD token)

/-- Compiles documents independently of each other. -/
def compileMany (compiler : Compiler) (documents : List Document) :
    List (Except CompileError Compilation) :=
  documents.map compiler.compile

end Compiler

end ComponentMarkup
