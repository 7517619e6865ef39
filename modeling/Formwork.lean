import Formwork.Main
import Formwork.Proofs.Session.Independence
import Formwork.Proofs.Pattern.Ending
import Formwork.Proofs.Validation.Agreement
import Formwork.Proofs.Session.Stateless
import Formwork.Proofs.Session.Reordering
import Formwork.Proofs.Session.Submission
import Formwork.Proofs.Session.Noninterference
import Formwork.Proofs.Session.Refusal
import Formwork.Proofs.Session.Admission
import Formwork.Proofs.Session.Repeats
import Formwork.Proofs.Session.News
import Formwork.Proofs.Session.History
import Formwork.Proofs.Form.Acceptance
import Formwork.Proofs.Session.Misfits
import Formwork.Proofs.Choice.LastQuery
import Formwork.Proofs.Cascade.Bound
import Formwork.Proofs.CommandLine.Validity
import Formwork.Proofs.Validation.Cleared
import Formwork.Proofs.Validation.FirstFailures
import Formwork.Proofs.Form.UnknownKeys
import Formwork.Proofs.Theme.Resolution
import Formwork.Proofs.Choice.Filter
import Formwork.Proofs.Validation.Addresses
import Formwork.Proofs.Condition.Ordering
import Formwork.Proofs.Validation.LostRules
import Formwork.Proofs.Session.Storage
import Formwork.Proofs.Session.SingleMoves
import Formwork.Proofs.Session.Repetition
import Formwork.Proofs.Record.Writes
