import Covenant.Main
import Covenant.Session.Config
import Covenant.Session.Demo
import Covenant.Session.Inspect
import Covenant.Session.Snapshot
import Covenant.Proofs.Machine.Links
import Covenant.Proofs.Machine.Alike
import Covenant.Proofs.Machine.Sparing
import Covenant.Proofs.Contract.Unwinding
import Covenant.Proofs.Object.Attribute
import Covenant.Proofs.Object.Number
import Covenant.Proofs.Contract.Agreement
import Covenant.Proofs.Contract.Profiles
import Covenant.Proofs.Contract.Bracket
import Covenant.Proofs.Contract.Course
import Covenant.Proofs.Contract.Refinement
import Covenant.Proofs.Contract.Chain
import Covenant.Proofs.Demo.Object
import Covenant.Proofs.Demo.Queue.Ring
import Covenant.Proofs.Demo.Queue.Operation
import Covenant.Proofs.Demo.Queue.Start
import Covenant.Proofs.Demo.Queue.Fifo
import Covenant.Proofs.Demo.Queue.Vacant
import Covenant.Proofs.Demo.Bank.Holding
import Covenant.Proofs.Demo.Bank.Account
import Covenant.Proofs.Demo.Bank.Profiles
import Covenant.Proofs.Demo.Bank.Operation
import Covenant.Proofs.Demo.Bank.Batch
import Covenant.Proofs.Demo.Bank.Deal
import Covenant.Proofs.Demo.Bank.Ledger
import Covenant.Proofs.Demo.Bank.Safety
import Covenant.Proofs.Demo.Play.Stage
import Covenant.Proofs.Demo.Play.Scene
import Covenant.Proofs.Demo.Play.Deals
import Covenant.Proofs.Demo.Play.Queues
import Covenant.Proofs.Demo.Play.Profiles
import Covenant.Proofs.Contract.Record
import Covenant.Proofs.Contract.Broken
import Covenant.Proofs.Contract.Blame
import Covenant.Proofs.Contract.Nesting
import Covenant.Proofs.Contract.Lookup
import Covenant.Proofs.Contract.Decoration
import Covenant.Proofs.Contract.Verdict
import Covenant.Proofs.Contract.Assertion
import Covenant.Proofs.Demo.Bank.Guards
import Covenant.Proofs.Demo.Bank.Fold
import Covenant.Proofs.Demo.Bank.Closed
import Covenant.Proofs.Demo.Queue.Invariant
import Covenant.Proofs.Demo.Queue.Unchecked
import Covenant.Proofs.Contract.Intact
import Covenant.Proofs.Contract.Shapes
import Covenant.Proofs.Contract.Twins
import Covenant.Proofs.Object.Snapshot
import Covenant.Proofs.Object.Acceptance
import Covenant.Proofs.Text.Case
import Covenant.Proofs.Config.Sources
import Covenant.Proofs.Config.Profile
import Covenant.Proofs.Config.InEffect
import Covenant.Proofs.Config.EnvFile
import Covenant.Proofs.Config.Settings
import Covenant.Proofs.Span.Independence
import Covenant.Proofs.Span.Independence
import Covenant.Proofs.Span.Independence
