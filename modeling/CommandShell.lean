import CommandShell.Jobs.Held
import CommandShell.Log.Tee
import CommandShell.Main
import CommandShell.Proofs.Command.Grammar
import CommandShell.Proofs.Command.Soundness
import CommandShell.Proofs.Evaluation.Chain
import CommandShell.Proofs.Command.Completeness
import CommandShell.Proofs.Command.RoundTrip
import CommandShell.Proofs.Evaluation.Noted
import CommandShell.Proofs.Jobs.Calm
import CommandShell.Proofs.Jobs.Children
import CommandShell.Proofs.Command.Sequence
import CommandShell.Proofs.Evaluation.Operations
import CommandShell.Proofs.Evaluation.Frame
import CommandShell.Proofs.Descriptors.Table
import CommandShell.Proofs.Descriptors.Descent
import CommandShell.Proofs.Status.Deeds
import CommandShell.Proofs.Status.Lives
import CommandShell.Proofs.Status.Passing
import CommandShell.Proofs.Status.Transparency
import CommandShell.Proofs.Token.Marks
import CommandShell.Proofs.Variables.Status
import CommandShell.Proofs.Evaluation.Parts
import CommandShell.Proofs.Evaluation.Checked
import CommandShell.Proofs.Evaluation.Scope
import CommandShell.Proofs.Evaluation.Failure
import CommandShell.Proofs.Session.Lines
import CommandShell.Proofs.Token.Written
import CommandShell.Proofs.Token.Quoting
import CommandShell.Proofs.Command.Completion
import CommandShell.Proofs.Variables.Segments
import CommandShell.Proofs.Variables.Quoted
import CommandShell.Proofs.Variables.Numerals
import CommandShell.Proofs.Log.Prefixes
import CommandShell.Proofs.Machine.Storage
import CommandShell.Proofs.Descriptors.Refusal
import CommandShell.Proofs.Jobs.ExactlyOnce
import CommandShell.Proofs.Jobs.Indexes
import CommandShell.Proofs.Command.Renaming
import CommandShell.Proofs.Command.Balance
import CommandShell.Proofs.Token.Locality
