import GrantList.Main
import GrantList.Proofs.Attaching
import GrantList.Proofs.Composition
import GrantList.Proofs.Except
import GrantList.Proofs.Granting
import GrantList.Proofs.Loading
import GrantList.Proofs.Reference.Binding
import GrantList.Proofs.Reference.Denotation
import GrantList.Proofs.Reference.Table
import GrantList.Proofs.Reference.Types
import GrantList.Proofs.Registry
import GrantList.Proofs.Reloading
import GrantList.Proofs.RoundTrip
import GrantList.Proofs.RuleSet.Validation
import GrantList.Proofs.Saving
import GrantList.Proofs.Text.Sorting
import GrantList.Proofs.Text.Splitting
import GrantList.Proofs.Text.Trimming
import GrantList.Proofs.Value.Bracket
import GrantList.Proofs.Value.Canonical
import GrantList.Proofs.Value.Decoding
import GrantList.Proofs.Value.Encoding
import GrantList.Proofs.Value.Interning
import GrantList.Proofs.Value.Segment
import GrantList.Proofs.Value.Separator
import GrantList.Proofs.Value.Written
import GrantList.Proofs.Shape
import GrantList.Proofs.Giving
import GrantList.Proofs.Sense
import GrantList.Proofs.Session
import GrantList.Proofs.Grammar
import GrantList.Proofs.Reference.Agreement
import GrantList.Proofs.RuleSet.Rejection
import GrantList.Proofs.Reference.History
import GrantList.Proofs.Reference.Index
import GrantList.Proofs.Workspace
import GrantList.Proofs.Value.Fault
import GrantList.Proofs.Value.Reading
import GrantList.Proofs.Reordering
import GrantList.Proofs.Holdings
import GrantList.Proofs.Undoing
import GrantList.Proofs.Integrity
import GrantList.Proofs.Refusal
import GrantList.Proofs.RuleSet.Diagnostics
import GrantList.Proofs.Text.LetterCase
import GrantList.Proofs.Reference.Spelling
import GrantList.Proofs.RuleSet.Places
import GrantList.Proofs.RuleSet.Lookup
import GrantList.Proofs.Recipient
import GrantList.Proofs.Value.Offsets
import GrantList.Proofs.Registry.Index
import GrantList.Proofs.Reference.Growth
