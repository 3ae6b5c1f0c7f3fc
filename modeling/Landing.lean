import Landing.Main
import Landing.Rehearsal
import Landing.Proofs.History.Agreement
import Landing.Proofs.History.Ancestry
import Landing.Proofs.History.Graph
import Landing.Proofs.History.Reduction
import Landing.Proofs.Rehearsal
import Landing.Proofs.Submission.Conclude
import Landing.Proofs.Submission.Course
import Landing.Proofs.Submission.Fault
import Landing.Proofs.Submission.Halting
import Landing.Proofs.Submission.Local
import Landing.Proofs.Submission.Mirrored
import Landing.Proofs.Submission.Outcomes
import Landing.Proofs.Submission.Sequence
import Landing.Proofs.Submission.Forward
import Landing.Proofs.Submission.Parity
import Landing.Proofs.History.Line
import Landing.Proofs.Submission.Resumption
import Landing.Proofs.Review
import Landing.Proofs.Submission.Lockstep
import Landing.Proofs.Submission.Unauthored
import Landing.Proofs.Submission.Attempt
import Landing.Proofs.Submission.Audit
import Landing.Proofs.Submission.Contention
import Landing.Proofs.Submission.Resubmission
import Landing.Proofs.History.Ending
import Landing.Proofs.History.Reading
import Landing.Proofs.Submission.DryRun
import Landing.Proofs.Submission.Failure
import Landing.Proofs.Submission.Dropped
import Landing.Proofs.History.Partition
import Landing.Proofs.Submission.Secrecy
import Landing.Proofs.CommitId
import Landing.Proofs.Datum
import Landing.Proofs.Review.Spelling
import Landing.Proofs.Ascii
import Landing.Proofs.Git
import Landing.Proofs.Repository.Objects
import Landing.Proofs.Repository.Refs
import Landing.Proofs.OnDisk
import Landing.Proofs.CommandLine
import Landing.Proofs.History.Answers
import Landing.Proofs.History.Collection
import Landing.Proofs.History.Cursor
import Landing.Proofs.Submission.Marking
import Landing.Proofs.Ticket
import Landing.Proofs.Review.Chronology
import Landing.Proofs.Review.RefName
import Landing.Proofs.Utf8
import Landing.Proofs.Digits
import Landing.Proofs.Toml.Quoted
import Landing.Proofs.Toml.Document
import Landing.Proofs.Toml.Tree
import Landing.Proofs.Credentials.Rendered
import Landing.Proofs.Credentials.Store
import Landing.Proofs.Credentials.Update
import Landing.Proofs.Credentials.Reload
import Landing.Proofs.Credentials.Armour
import Landing.Proofs.Pattern.Match
import Landing.Proofs.Ticket.Default
import Landing.Proofs.History.Endless
import Landing.Proofs.History.Postorder
import Landing.Proofs.Submission.PushOrder
import Landing.Proofs.History.Folding
import Landing.Proofs.Firsts
import Landing.Proofs.PendingSet
import Landing.Proofs.Outcome.Ledger
