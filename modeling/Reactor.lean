import Reactor.Address
import Reactor.Address.Reader
import Reactor.CommandLine
import Reactor.Echo
import Reactor.Echo.Server
import Reactor.Environment
import Reactor.Environment.Process
import Reactor.Event
import Reactor.Executor
import Reactor.Handle
import Reactor.Host
import Reactor.Json.Blank
import Reactor.Json.Head
import Reactor.Json.Number
import Reactor.Json.Printer
import Reactor.Json.Text
import Reactor.Json.Value
import Reactor.Loop
import Reactor.Loop.Operations
import Reactor.LoopError
import Reactor.Machine
import Reactor.Machine.Call
import Reactor.Machine.Dispatch
import Reactor.Machine.Step
import Reactor.Main
import Reactor.Metrics
import Reactor.Options
import Reactor.Options.Reader
import Reactor.Options.Refusal
import Reactor.Queue
import Reactor.ReadBuffer
import Reactor.Registry
import Reactor.Scenario.Enter
import Reactor.Scenario.Session
import Reactor.Scenario.Step
import Reactor.SortedMap
import Reactor.Status
import Reactor.Text.Binary64
import Reactor.Text.Extender
import Reactor.Text.Quoted
import Reactor.Text.Shortest
import Reactor.Text.Unprintable
import Reactor.Tick
import Reactor.Transport
import Reactor.Transport.Detached
import Reactor.Transport.Injected
import Reactor.Transport.Memory
import Reactor.Proofs.Machine.Rules
import Reactor.Proofs.Machine.Run
import Reactor.Proofs.Registry
import Reactor.Proofs.Loop.Frames
import Reactor.Proofs.References.Balance
import Reactor.Proofs.References.Operations
import Reactor.Proofs.References
import Reactor.Proofs.Loop.Effects
import Reactor.Proofs.Completion.Traffic
import Reactor.Proofs.Completion
import Reactor.Proofs.Closing.Aging
import Reactor.Proofs.Closing.Refusals
import Reactor.Proofs.Closing.Turns
import Reactor.Proofs.Closing
import Reactor.Proofs.Memory.Coupling
import Reactor.Proofs.Memory.Transfers
import Reactor.Proofs.Memory.Operations
import Reactor.Proofs.Memory.Steps
import Reactor.Proofs.Memory
import Reactor.Proofs.Stream.Grammar
import Reactor.Proofs.Stream.Views
import Reactor.Proofs.Stream.Moves
import Reactor.Proofs.Stream
import Reactor.Proofs.Stream.Buffers
import Reactor.Proofs.Memory.Reading
import Reactor.Proofs.Closing.Parting
import Reactor.Proofs.Memory.Leftovers
import Reactor.Proofs.Machine.Progress
import Reactor.Proofs.Memory.Reclaiming
import Reactor.Proofs.Buffers.Rewrites
import Reactor.Proofs.Buffers.Lending
import Reactor.Proofs.Buffers.Dispatches
import Reactor.Proofs.Buffers
import Reactor.Proofs.Machine.Eventful
import Reactor.Proofs.Memory.Drained
import Reactor.Proofs.Memory.Idling
import Reactor.Proofs.Memory.Ledger
import Reactor.Proofs.Memory.Outcomes
import Reactor.Proofs.Memory.Writing
import Reactor.Proofs.Drivers.Hush
import Reactor.Proofs.Drivers.Deaf
import Reactor.Proofs.Drivers.Steps
import Reactor.Proofs.Memory.Vain
import Reactor.Proofs.Drivers.Lockstep
import Reactor.Proofs.Machine.Steps
import Reactor.Proofs.Drivers.Rounds
import Reactor.Proofs.Drivers.Running
import Reactor.Proofs.Drivers.Polling
import Reactor.Proofs.Drivers
import Reactor.Proofs.Inert
import Reactor.Proofs.Closing.LastWord
import Reactor.Proofs.Machine.Leads
import Reactor.Proofs.Loop.Outlines
import Reactor.Proofs.Echo.Turns
import Reactor.Proofs.Memory.Connections
import Reactor.Proofs.Echo.Serving
import Reactor.Proofs.Echo.Survival
import Reactor.Proofs.Memory.Accepting
import Reactor.Proofs.Echo.Accounts
import Reactor.Proofs.Echo.Exactness
import Reactor.Proofs.Loop.Asides
import Reactor.Proofs.Metrics.Samples
import Reactor.Proofs.Metrics.Tallies
import Reactor.Proofs.Metrics
import Reactor.Proofs.Stopping
import Reactor.Proofs.Refusals.Untouched
import Reactor.Proofs.Refusals.Cues
import Reactor.Proofs.Refusals
import Reactor.Proofs.Machine.Exactness
import Reactor.Proofs.Forgiving.Counterparts
import Reactor.Proofs.Forgiving.Steps
import Reactor.Proofs.Forgiving.Results
import Reactor.Proofs.Forgiving
import Reactor.Proofs.Machine.Observers
import Reactor.Proofs.Refusals.Listening
import Reactor.Proofs.Environment
import Reactor.Proofs.Buffers.Watching
import Reactor.Proofs.Memory.Pieces
import Reactor.Proofs.Memory.Reads
import Reactor.Proofs.Memory.Lines
import Reactor.Proofs.Memory.Turns
import Reactor.Proofs.Memory.Order
import Reactor.Proofs.Memory.Burden
import Reactor.Proofs.Memory.Halting
import Reactor.Proofs.Text.Binary64
import Reactor.Proofs.Json.Spelling
import Reactor.Proofs.Json.Literals
import Reactor.Proofs.Options.Documents
import Reactor.Proofs.Options.Reading
import Reactor.Proofs.Options
import Reactor.Proofs.Machine.Discretion
import Reactor.Proofs.Echo.Setup
import Reactor.Proofs.Stranding
