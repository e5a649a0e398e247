import Imds.Address
import Imds.Backoff
import Imds.Blocking.Client
import Imds.Blocking.Desk
import Imds.Blocking.Nic
import Imds.Blocking.World
import Imds.Catalog
import Imds.Client
import Imds.Crowd
import Imds.Desk
import Imds.Duration
import Imds.Failure
import Imds.Gate
import Imds.Identity
import Imds.Json.Numeral
import Imds.Json.Quoted
import Imds.Json.Reader
import Imds.Json.Value
import Imds.Lease.Commons
import Imds.Lease.Operation
import Imds.Lease.Step
import Imds.Nic
import Imds.Plan
import Imds.Pool.Channel
import Imds.Pool.Job
import Imds.Pool.State
import Imds.Rehearsal
import Imds.Request
import Imds.Script
import Imds.Site
import Imds.Table
import Imds.Task
import Imds.Text.Blank
import Imds.Text.Composed
import Imds.Text.Composites
import Imds.Text.Folded
import Imds.Text.Lines
import Imds.Text.Mark
import Imds.Text.Number
import Imds.Text.Pieces
import Imds.Text.Runs
import Imds.Update
import Imds.Variable
import Imds.Wire.Escape
import Imds.Wire.Exchange
import Imds.Wire.Header
import Imds.Wire.Host
import Imds.Wire.Host.Direction
import Imds.Wire.Host.Joiner
import Imds.Wire.Host.Label
import Imds.Wire.Host.Numeric
import Imds.Wire.Host.Punycode
import Imds.Wire.Host.Spelling
import Imds.Wire.Reply
import Imds.Wire.Url
import Imds.Proofs.Dialogue
import Imds.Proofs.Conduct
import Imds.Proofs.Fetch.Rounds
import Imds.Proofs.Fetch.Outcome
import Imds.Proofs.Fetch.Conduct
import Imds.Proofs.Fetch.Halting
import Imds.Proofs.Blocking.Likeness
import Imds.Proofs.Blocking.Agreement
import Imds.Proofs.Cache.Conduct
import Imds.Proofs.Cache.Memo
import Imds.Proofs.Cache.Scene
import Imds.Proofs.Cache.Safety
import Imds.Proofs.Lease.Balance
import Imds.Proofs.Lease.Counting
import Imds.Proofs.Lease.Visit
import Imds.Proofs.Lease.Source
import Imds.Proofs.Lease.Absence
import Imds.Proofs.Lease.Single
import Imds.Proofs.Pool.Response
import Imds.Proofs.Pool.Loss
import Imds.Proofs.Switch.Client
import Imds.Proofs.Switch.Handle
import Imds.Proofs.Crowd.Chronicle
import Imds.Proofs.Closing.Fetch
import Imds.Proofs.Closing.Barrier
import Imds.Proofs.Nic.Conduct
import Imds.Proofs.Nic.Memory
import Imds.Proofs.Crowd.Solo
import Imds.Proofs.Nic.Record
import Imds.Proofs.Nic.Alone
import Imds.Proofs.Nic.Snapshot
import Imds.Proofs.Identity.Written
import Imds.Proofs.Lease.Signal
import Imds.Proofs.Lease.Completion
import Imds.Proofs.Lease.Rest
import Imds.Proofs.Lease.Unlent
import Imds.Proofs.Lease.Lending
import Imds.Proofs.Pool.Reactor
import Imds.Proofs.Pool.Ownership
import Imds.Proofs.Wire.Body
import Imds.Proofs.Identity.Fields
import Imds.Proofs.Retry.Course
import Imds.Proofs.Retry.Countdown
import Imds.Proofs.Cache.Bypass
import Imds.Proofs.Retry.Pause
import Imds.Proofs.Text.Trimming
import Imds.Proofs.Fetch.Views
import Imds.Proofs.Catalog.Devices
import Imds.Proofs.Pool.Withdrawal
import Imds.Proofs.Text.Stripping
import Imds.Proofs.Address.Resolution
import Imds.Proofs.Catalog.Interfaces
