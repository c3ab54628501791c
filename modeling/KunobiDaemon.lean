import KunobiDaemon.Control.Acceptance
import KunobiDaemon.Control.Exchange
import KunobiDaemon.Generations.Monotone
import KunobiDaemon.Generations.Wakeups
import KunobiDaemon.Identity
import KunobiDaemon.Launch
import KunobiDaemon.Lib.Bags
import KunobiDaemon.Lib.Bytes
import KunobiDaemon.Lib.Duplex
import KunobiDaemon.Lib.Interference
import KunobiDaemon.Lib.Reuse
import KunobiDaemon.Lib.Systems
import KunobiDaemon.Lib.Threads
import KunobiDaemon.Lib.Totals
import KunobiDaemon.Local.Attributes
import KunobiDaemon.Local.Cleanup
import KunobiDaemon.Local.Contention
import KunobiDaemon.Local.Environment
import KunobiDaemon.Local.PipeDelivery
import KunobiDaemon.Local.PipeName
import KunobiDaemon.Local.PipeOperations
import KunobiDaemon.Local.PipeReader
import KunobiDaemon.Local.ReadyPipe
import KunobiDaemon.Observation.Adapters
import KunobiDaemon.Observation.Balance
import KunobiDaemon.Observation.Books
import KunobiDaemon.Observation.Ledger
import KunobiDaemon.Observation.Sharing
import KunobiDaemon.Process.Exits
import KunobiDaemon.Process.Handle
import KunobiDaemon.Process.Kernel
import KunobiDaemon.Process.Spawning
import KunobiDaemon.Publication.Linearizable
import KunobiDaemon.Publication.Replacing
import KunobiDaemon.Publication.Retrying
import KunobiDaemon.Publication.Temporaries
import KunobiDaemon.Readiness.Decoding
import KunobiDaemon.Readiness.News
import KunobiDaemon.Readiness.Signaled
import KunobiDaemon.Replacement.Asynchronous
import KunobiDaemon.Retry
import KunobiDaemon.Selection.Asynchronous
import KunobiDaemon.Serve.Accounting
import KunobiDaemon.Transport.Delivery
import KunobiDaemon.Transport.HalfClose
import KunobiDaemon.Transport.Handoff
import KunobiDaemon.Transport.Records
import KunobiDaemon.Transport.Refinement
import KunobiDaemon.Transport.Waiting
import KunobiDaemon.Upgrade
import KunobiDaemon.Wire.Alike
import KunobiDaemon.Wire.Async
import KunobiDaemon.Wire.Handshake
import KunobiDaemon.Wire.Poisoning
import KunobiDaemon.Wire.Refusals
import KunobiDaemon.Wire.Retrying
import KunobiDaemon.Wire.Splitting
