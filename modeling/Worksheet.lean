import Worksheet.Main
import Worksheet.Template.Report
import Worksheet.Proofs.Template.Tokenization
import Worksheet.Proofs.Template.RoundTrip
import Worksheet.Proofs.Template.Blame
import Worksheet.Proofs.Rendering.Scope
import Worksheet.Proofs.Rendering.Budget
import Worksheet.Proofs.Rendering.History
import Worksheet.Proofs.Descriptor.Validity
import Worksheet.Proofs.Descriptor.Binding
import Worksheet.Proofs.Rendering.Relevance
import Worksheet.Proofs.Command.Agreement
import Worksheet.Proofs.Descriptor.Warnings
import Worksheet.Proofs.Descriptor.Lossless
import Worksheet.Proofs.Template.Position
import Worksheet.Proofs.Descriptor.Lookalikes
import Worksheet.Proofs.Template.Depth
import Worksheet.Proofs.Rendering.Cache
import Worksheet.Proofs.Rendering.Sharing
import Worksheet.Proofs.Rendering.Trimming
import Worksheet.Proofs.Rendering.Observation
import Worksheet.Proofs.Rendering.Concatenation
import Worksheet.Proofs.Template.Wrapping
import Worksheet.Proofs.Template.Excerpt
import Worksheet.Proofs.Descriptor.Independence
import Worksheet.Proofs.Value.Conversion
import Worksheet.Proofs.Command.Assignments
import Worksheet.Proofs.Command.Strictness
import Worksheet.Proofs.Template.Outline
import Worksheet.Proofs.Failure.Advice
import Worksheet.Proofs.Descriptor.Suggestions
