import SpecGrammar.Main
import SpecGrammar.Retry
import SpecGrammar.Proofs.Selection
import SpecGrammar.Proofs.Notation.Accounting
import SpecGrammar.Proofs.Notation.Completeness
import SpecGrammar.Proofs.Notation.Soundness
import SpecGrammar.Proofs.Document.Assembly
import SpecGrammar.Proofs.Extraction
import SpecGrammar.Proofs.Text.Line
import SpecGrammar.Proofs.Joining
import SpecGrammar.Proofs.Json.Grammar
import SpecGrammar.Proofs.Json.Reader
import SpecGrammar.Proofs.Json.Writing
import SpecGrammar.Proofs.Document.Written
import SpecGrammar.Proofs.Files
import SpecGrammar.Proofs.Specification
import SpecGrammar.Proofs.Cache
import SpecGrammar.Proofs.Run
import SpecGrammar.Proofs.Reference.Escaped
import SpecGrammar.Proofs.Markup.Tag
import SpecGrammar.Proofs.Markup.Scanning
import SpecGrammar.Proofs.Markup.Recovery
import SpecGrammar.Proofs.Document.Normal
import SpecGrammar.Proofs.Notation.Header
import SpecGrammar.Proofs.Notation.Disjoint
import SpecGrammar.Proofs.Tree
import SpecGrammar.Proofs.Replacement
import SpecGrammar.Proofs.Notation.Form
import SpecGrammar.Proofs.Decoding
import SpecGrammar.Proofs.Text.Margin
import SpecGrammar.Proofs.Notation.Indentation
import SpecGrammar.Proofs.Notation.Undercut
import SpecGrammar.Proofs.Notation.Placement
import SpecGrammar.Proofs.Notation.Listing
import SpecGrammar.Proofs.Notation.Verbatim
import SpecGrammar.Proofs.Settings
import SpecGrammar.Proofs.Yaml.View
import SpecGrammar.Proofs.Precedence
import SpecGrammar.Proofs.Notation.HeaderPattern
import SpecGrammar.Proofs.Notation.HeaderCut
