import GlslBuild.Cache.Request
import GlslBuild.Cache.Shutdown
import GlslBuild.Proofs.Cache.Session
import GlslBuild.Proofs.Table
import GlslBuild.Proofs.Cache.Operation
import GlslBuild.Proofs.Cache.Move
import GlslBuild.Proofs.Cache.Attribution
import GlslBuild.Proofs.Cache.Balance
import GlslBuild.Proofs.Cache.Custody
import GlslBuild.Proofs.Cache.Rollback
import GlslBuild.Proofs.Conditional.Block
import GlslBuild.Proofs.Conditional.Nesting
import GlslBuild.Proofs.Cache.Fleet
import GlslBuild.Proofs.CommentRemoval
import GlslBuild.Proofs.Identity
import GlslBuild.Proofs.Condition.Derivation
import GlslBuild.Proofs.Condition.Arithmetic
import GlslBuild.Proofs.Condition.Row
import GlslBuild.Proofs.Condition.Phrase
import GlslBuild.Proofs.Condition.Reading
import GlslBuild.Proofs.Condition.Reduction
import GlslBuild.Proofs.Library.Entry
import GlslBuild.Proofs.Library.Growth
import GlslBuild.Proofs.Library.Registry
import GlslBuild.Proofs.Library.Tables
import GlslBuild.Proofs.Cache.Opaque
import GlslBuild.Proofs.Cache.Step
import GlslBuild.Proofs.Cache.Numbering
import GlslBuild.Proofs.Cache.Provenance
import GlslBuild.Proofs.Cache.Shelter
import GlslBuild.Proofs.Conditional.Acceptance
import GlslBuild.Proofs.Word
import GlslBuild.Proofs.Condition.DefinedTest
import GlslBuild.Proofs.Condition.Juxtaposition
import GlslBuild.Proofs.Condition.Soundness
import GlslBuild.Proofs.DirectiveLine
import GlslBuild.Proofs.VersionLines
import GlslBuild.Proofs.CommentLexer
import GlslBuild.Proofs.Expansion.Substitution
import GlslBuild.Proofs.Expansion.Unfolding
import GlslBuild.Proofs.Condition.Expression
import GlslBuild.Proofs.Condition.Evaluation
import GlslBuild.Proofs.AssembledLines
import GlslBuild.Proofs.Extent
import GlslBuild.Proofs.Scanning
import GlslBuild.Proofs.Conditional.Concatenation
import GlslBuild.Proofs.Conditional.InPlace
import GlslBuild.Proofs.Expansion.PassLimit
import GlslBuild.Proofs.Conditional.PassLimit
import GlslBuild.Proofs.Condition.Enclosing
import GlslBuild.Proofs.Conditional.Predefinition
import GlslBuild.Proofs.Cache.Shutdown
import GlslBuild.Proofs.Cache.Cascade
import GlslBuild.Proofs.Trimming
import GlslBuild.Proofs.Emission
import GlslBuild.Proofs.Expansion.Arguments
import GlslBuild.Proofs.Expansion.CallSite
import GlslBuild.Proofs.Conditional.CommentBlock
import GlslBuild.Proofs.Definition.Spelling
import GlslBuild.Proofs.Expansion.Shelves
import GlslBuild.Proofs.FaultLine
import GlslBuild.Proofs.Expansion.Token
import GlslBuild.Proofs.Definition.Renaming
import GlslBuild.Proofs.LineEndings
import GlslBuild.Proofs.Conditional.History
import GlslBuild.Proofs.Condition.Spacing
import GlslBuild.Proofs.Expansion.Reader
