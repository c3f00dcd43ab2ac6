import FormLetter.Main
import FormLetter.Proofs.Csv.Quoting
import FormLetter.Proofs.Csv.Records
import FormLetter.Proofs.Csv.Rows
import FormLetter.Proofs.Csv.Written
import FormLetter.Proofs.Csv.Lockstep
import FormLetter.Proofs.Files.Growth
import FormLetter.Proofs.Files.Opening
import FormLetter.Proofs.Files.Parents
import FormLetter.Proofs.Files.Plain
import FormLetter.Proofs.Files.Overwriting
import FormLetter.Proofs.Files.Making
import FormLetter.Proofs.Files.Reopening
import FormLetter.Proofs.Render.Rows
import FormLetter.Proofs.Render.Recorded
import FormLetter.Proofs.Render.Unforced
import FormLetter.Proofs.Render.Batch
import FormLetter.Proofs.Render.Joined
import FormLetter.Proofs.Render.Settled
import FormLetter.Proofs.Render.Forced
import FormLetter.Proofs.CommandLine.Limited
import FormLetter.Proofs.CommandLine.Prepared
import FormLetter.Proofs.Template.Text
import FormLetter.Proofs.Template.Verbatim
import FormLetter.Proofs.Template.Reading
import FormLetter.Proofs.Template.Insertion
import FormLetter.Proofs.Csv.Kept
import FormLetter.Proofs.Csv.Wide
import FormLetter.Proofs.Text.Decoding
import FormLetter.Proofs.Input.Source
import FormLetter.Proofs.Csv.Placed
import FormLetter.Proofs.Text.Truncation
import FormLetter.Proofs.CommandLine.Reported
import FormLetter.Proofs.Render.Failing
import FormLetter.Proofs.Template.ByName
import FormLetter.Proofs.Template.Serving
import FormLetter.Proofs.Text.Cut
import FormLetter.Proofs.Text.Longest
import FormLetter.Proofs.Csv.Earliest
import FormLetter.Proofs.Csv.Empty
import FormLetter.Proofs.Csv.Refused
import FormLetter.Proofs.Csv.Shape
import FormLetter.Output.Buffer
import FormLetter.Proofs.Files.Changes
import FormLetter.Proofs.Render.Emitted
import FormLetter.Proofs.CommandLine.Inlet
import FormLetter.Proofs.CommandLine.Validated
import FormLetter.Proofs.Files.Following
import FormLetter.Proofs.Input.Classified
import FormLetter.Proofs.Decimal.Digits
import FormLetter.Proofs.Decimal.Bounded
import FormLetter.Proofs.Template.Shown
import FormLetter.Proofs.Text.Padding
import FormLetter.Proofs.Text.Excerpt
import FormLetter.Proofs.Decimal.Lenient
import FormLetter.Proofs.Text.Slug
