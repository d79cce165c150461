import RuleBound.Text.Pattern
import RuleBound.Event.Bus
import RuleBound.Retry.Described
import RuleBound.Store.Rehearsal
import RuleBound.Main
import RuleBound.Journal.Call
import RuleBound.Validation.Described
import RuleBound.Proofs.Registry.Policy
import RuleBound.Proofs.Registry.EventLaw
import RuleBound.Proofs.Registry.Persistence
import RuleBound.Proofs.Registry.Refusals
import RuleBound.Proofs.Registry.Binding
import RuleBound.Proofs.Exchange.Store
import RuleBound.Proofs.Exchange.Opening
import RuleBound.Proofs.Exchange.Watch
import RuleBound.Proofs.Registry.Keyed
import RuleBound.Proofs.Exchange.Disclosure
import RuleBound.Proofs.Cipher.Gcm
import RuleBound.Proofs.Text.Base64
import RuleBound.Proofs.Text.Hex
import RuleBound.Proofs.Key
import RuleBound.Proofs.Link
import RuleBound.Proofs.Metadata
import RuleBound.Proofs.Disk
import RuleBound.Proofs.Store
import RuleBound.Proofs.Exchange.Course
import RuleBound.Proofs.Exchange.Creation
import RuleBound.Proofs.Exchange.Delivery
import RuleBound.Proofs.Exchange.Rehearsal
import RuleBound.Proofs.Exchange.Tampering
import RuleBound.Proofs.Tidy
import RuleBound.Proofs.Exchange.Audit
import RuleBound.Proofs.Registry.Interference
import RuleBound.Proofs.Registry.Traceless
import RuleBound.Proofs.Exchange.Outage
import RuleBound.Proofs.Document.Sameness
import RuleBound.Proofs.Document.Unordered
import RuleBound.Proofs.Rules.Decoding
import RuleBound.Proofs.Rules.Commitment
import RuleBound.Proofs.Rules.Verification
import RuleBound.Proofs.Registry.Growth
import RuleBound.Proofs.Exchange.Atomicity
import RuleBound.Proofs.Delay
import RuleBound.Proofs.Exchange.Transparency
import RuleBound.Proofs.Cli.Keeping
import RuleBound.Proofs.Registry.WellFormed
import RuleBound.Proofs.Registry.Recheck
import RuleBound.Proofs.Validation.Passage
import RuleBound.Proofs.Agreement
import RuleBound.Proofs.Registry.Legacy
import RuleBound.Proofs.Origin
import RuleBound.Proofs.Event.Ledger
import RuleBound.Proofs.Settings.Precedence
import RuleBound.Proofs.Cli.Ending
import RuleBound.Proofs.LinkReading
import RuleBound.Proofs.Rules.Totality
import RuleBound.Proofs.Registry.Abort
import RuleBound.Proofs.StoreFault
import RuleBound.Proofs.Validation.Identity
import RuleBound.Proofs.Settings.Rejection
import RuleBound.Proofs.Registry.Priority
import RuleBound.Proofs.Attempts
import RuleBound.Proofs.Registry.Freshness
import RuleBound.Proofs.Number.Order
import RuleBound.Proofs.Number.Rounding
import RuleBound.Proofs.Backoff
import RuleBound.Proofs.Event.Dispatch
import RuleBound.Proofs.Registry.Status
import RuleBound.Proofs.Confinement
