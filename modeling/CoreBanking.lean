import CoreBanking.Base.GoMap
import CoreBanking.Base.Ident
import CoreBanking.Base.Call
import CoreBanking.Base.Time
import CoreBanking.Ledger.Types
import CoreBanking.Ledger.Book
import CoreBanking.Base.DoubleEntry
import CoreBanking.Base.Run
import CoreBanking.Ledger.Posting
import CoreBanking.Ledger.Invariant
import CoreBanking.Base.Int64
import CoreBanking.Ledger.TrialBalance
import CoreBanking.Ledger.Solvency
import CoreBanking.Ledger.MachineArithmetic
import CoreBanking.Deposit.Register
import CoreBanking.Payment.Network
import CoreBanking.Ledger.Transfer
import CoreBanking.Deposit.Effects
import CoreBanking.Deposit.Invariant
import CoreBanking.Payment.Banks
import CoreBanking.Base.Loop
import CoreBanking.Payment.Effects
import CoreBanking.Payment.PaymentEffects
import CoreBanking.Payment.Records
import CoreBanking.Payment.Cycles
import CoreBanking.Payment.Positions
import CoreBanking.Ledger.Keyed
import CoreBanking.Payment.Legs
import CoreBanking.Payment.Settling
import CoreBanking.Payment.Calls
import CoreBanking.Payment.Invariant
import CoreBanking.Payment.Lifecycle
import CoreBanking.Payment.Bookkeeping
import CoreBanking.Payment.ExactlyOnce
import CoreBanking.Payment.Accounting
import CoreBanking.Payment.Balances
import CoreBanking.Payment.Coverage
import CoreBanking.Payment.Persistence
import CoreBanking.Payment.Failures
import CoreBanking.Payment.AllOrNothing
import CoreBanking.Payment.Netting
import CoreBanking.Ledger.Idempotency
import CoreBanking.Ledger.AuditLog
import CoreBanking.Ledger.Replay
import CoreBanking.Base.Chains
import CoreBanking.Ledger.Reversals
import CoreBanking.Deposit.Runs
import CoreBanking.Deposit.Holds
import CoreBanking.Deposit.Available
import CoreBanking.Deposit.Overdraft
import CoreBanking.Deposit.Statuses
import CoreBanking.Deposit.AuditLog
import CoreBanking.Ledger.Postings
import CoreBanking.Payment.Movements
import CoreBanking.Payment.Interleaving
import CoreBanking.Ledger.Acceptance
import CoreBanking.Deposit.Captures
import CoreBanking.Deposit.Expiry
import CoreBanking.Payment.Mandates
import CoreBanking.Payment.EndToEnd
import CoreBanking.Payment.Frames
import CoreBanking.Payment.IterationOrder
import CoreBanking.Base.Agree
import CoreBanking.Payment.BankTwins
import CoreBanking.Payment.Twins
import CoreBanking.Payment.TwinCalls
import CoreBanking.Payment.ClientKeys
import CoreBanking.Deposit.MachineArithmetic
import CoreBanking.Deposit.Snapshots
import CoreBanking.Base.Sorting
import CoreBanking.Base.Creation
import CoreBanking.Ledger.References
import CoreBanking.Ledger.List
import CoreBanking.Deposit.List
import CoreBanking.Base.Guarantee
import CoreBanking.Deposit.References
import CoreBanking.Base.Numbering
import CoreBanking.Ledger.Numbering
import CoreBanking.Deposit.Numbering
import CoreBanking.Payment.References
import CoreBanking.Payment.Numbering
import CoreBanking.Base.Log
import CoreBanking.Base.Pool
import CoreBanking.Base.Program
import CoreBanking.Deposit.Types
import CoreBanking.Payment.Holdings
import CoreBanking.Payment.Participant
import CoreBanking.Payment.Scheme
import CoreBanking.Payment.Types
import CoreBanking.Payment.Updates
import CoreBanking.Base.Interference
import CoreBanking.Concurrent.Register
import CoreBanking.Concurrent.Network
import CoreBanking.Concurrent.Order
import CoreBanking.Base.Commute
import CoreBanking.Concurrent.Interference
import CoreBanking.Concurrent.Sections
import CoreBanking.Concurrent.Safety
import CoreBanking.Payment.List
import CoreBanking.Api.Errors
import CoreBanking.Api.Types
import CoreBanking.Base.Calendar
import CoreBanking.Api.Handlers
import CoreBanking.Concurrent.Atomic
import CoreBanking.Api.Order
import CoreBanking.Api.View
import CoreBanking.Api.Atomic
import CoreBanking.Api.Present
import CoreBanking.Api.Links
import CoreBanking.Api.Served
import CoreBanking.Api.Safety
import CoreBanking.Api.Sessions
import CoreBanking.Api.Serial
import CoreBanking.Api.Calls
import CoreBanking.Api.Refused
import CoreBanking.Api.Snapshots
import CoreBanking.Api.Chart
