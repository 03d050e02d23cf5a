import ComponentMarkup.Capabilities.Json
import ComponentMarkup.Compiler
import ComponentMarkup.TagHelper.Digest
import ComponentMarkup.TagHelper.Json
import ComponentMarkup.Tree.Json
import ComponentMarkup.Tree.Outline
import ComponentMarkup.Proofs.Links.Chains
import ComponentMarkup.Proofs.Links.Edits
import ComponentMarkup.Proofs.Links.Walk
import ComponentMarkup.Proofs.Links.Refusals
import ComponentMarkup.Proofs.Links.Validation
import ComponentMarkup.Proofs.Contents.Located
import ComponentMarkup.Proofs.Contents.Splicing
import ComponentMarkup.Proofs.Contents.Traversals
import ComponentMarkup.Proofs.Lowering.Rewrite
import ComponentMarkup.Proofs.Lowering.Step
import ComponentMarkup.Proofs.Lowering.Settling
import ComponentMarkup.Proofs.Lowering.Simulation
import ComponentMarkup.Proofs.Lowering.Idempotence
import ComponentMarkup.Proofs.Lowering.Preservation
import ComponentMarkup.Proofs.Compilation.Annotation
import ComponentMarkup.Proofs.Compilation.DuplicateReports
import ComponentMarkup.Proofs.Compilation.Standard
import ComponentMarkup.Proofs.Pipeline.Boundaries
import ComponentMarkup.Proofs.Pipeline.Registration
import ComponentMarkup.Proofs.Text.Utf8
import ComponentMarkup.Proofs.Text.LowerCase
import ComponentMarkup.Proofs.Descriptors.Equality
import ComponentMarkup.Proofs.Descriptors.Digest
import ComponentMarkup.Proofs.Descriptors.Validity
import ComponentMarkup.Proofs.Descriptors.CaseBlindness
import ComponentMarkup.Proofs.Descriptors.Binding
import ComponentMarkup.Proofs.Descriptors.Collapse
import ComponentMarkup.Proofs.Descriptors.Shadowing
import ComponentMarkup.Proofs.Descriptors.CollapsedErrors
import ComponentMarkup.Proofs.Descriptors.FirstOccurrences
import ComponentMarkup.Proofs.Descriptors.IllegalCharacters
import ComponentMarkup.Proofs.Descriptors.ParameterSpellings
import ComponentMarkup.Proofs.Descriptors.PrefixRules
import ComponentMarkup.Proofs.Descriptors.ClauseOrder
import ComponentMarkup.Proofs.Descriptors.OrderBlindness
import ComponentMarkup.Proofs.Catalog.MissingTexts
import ComponentMarkup.Proofs.Versions.Spellings
import ComponentMarkup.Proofs.Versions.Growth
import ComponentMarkup.Proofs.Json.RoundTrip
import ComponentMarkup.Proofs.Json.Records
