import SdlWorkbench.Main
import SdlWorkbench.Schema.Equality
import SdlWorkbench.Schema.EditForm
import SdlWorkbench.Proofs.Command.Checking
import SdlWorkbench.Proofs.Command.Editing
import SdlWorkbench.Proofs.Document.Modular
import SdlWorkbench.Proofs.Document.Places
import SdlWorkbench.Proofs.Directive.Codec
import SdlWorkbench.Proofs.Schema.Independence
import SdlWorkbench.Proofs.Schema.Metadata
import SdlWorkbench.Proofs.Schema.Directives
import SdlWorkbench.Proofs.Schema.Moves
import SdlWorkbench.Proofs.Schema.Clashes
import SdlWorkbench.Proofs.Schema.Layout
import SdlWorkbench.Proofs.Schema.Definitions
import SdlWorkbench.Proofs.Schema.Variants
import SdlWorkbench.Proofs.Token.Coverage
import SdlWorkbench.Proofs.Editor.Session
import SdlWorkbench.Proofs.Directive.Reencoding
import SdlWorkbench.Proofs.Schema.AnnotatedType
import SdlWorkbench.Proofs.Schema.BlockDescriptions
import SdlWorkbench.Proofs.Script.Resolution
import SdlWorkbench.Proofs.Document.Emission
import SdlWorkbench.Proofs.Document.Labels
import SdlWorkbench.Proofs.Editor.Stepwise
import SdlWorkbench.Proofs.Schema.Undoing
import SdlWorkbench.Proofs.Name.Search
import SdlWorkbench.Proofs.Data.Reading
import SdlWorkbench.Proofs.Schema.Offered
import SdlWorkbench.Proofs.Schema.Form
import SdlWorkbench.Proofs.Document.Progress
import SdlWorkbench.Proofs.Token.Contents
import SdlWorkbench.Proofs.Schema.Erasure
import SdlWorkbench.Proofs.Command.Wording
import SdlWorkbench.Proofs.Command.Formatting
