import ClockDiscipline.Exchange.Bench
import ClockDiscipline.Exchange.Daemon
import ClockDiscipline.Exchange.KernelSteps
import ClockDiscipline.Exchange.Socket
import ClockDiscipline.Main
import ClockDiscipline.Proofs.Action
import ClockDiscipline.Time.Counter
import ClockDiscipline.Proofs.BusFault
import ClockDiscipline.Proofs.Events
import ClockDiscipline.Proofs.Collecting
import ClockDiscipline.Proofs.Waiting
import ClockDiscipline.Proofs.Cycle
import ClockDiscipline.Proofs.ReportedOffset
import ClockDiscipline.Proofs.Reachable
import ClockDiscipline.Proofs.Selection
import ClockDiscipline.Proofs.DestinationFlag
import ClockDiscipline.Proofs.Timeline
import ClockDiscipline.Proofs.Doubles
import ClockDiscipline.Proofs.RateRegister
import ClockDiscipline.Proofs.Polling
import ClockDiscipline.Proofs.Reports
import ClockDiscipline.Proofs.SpoiledCycle
import ClockDiscipline.Proofs.Handles
import ClockDiscipline.Proofs.Measuring
import ClockDiscipline.Proofs.Phases
import ClockDiscipline.Proofs.Transactions
import ClockDiscipline.Proofs.PendingReset
import ClockDiscipline.Proofs.Alignment
import ClockDiscipline.Proofs.PortHistory
import ClockDiscipline.Proofs.ElectedSource
import ClockDiscipline.Proofs.LockHistory
import ClockDiscipline.Proofs.RegisterFile
import ClockDiscipline.Proofs.Requests
import ClockDiscipline.Proofs.ClockLife
import ClockDiscipline.Proofs.LastFrequency
import ClockDiscipline.Proofs.FailedStep
import ClockDiscipline.Proofs.FallingEdge
import ClockDiscipline.Proofs.GarbledCounter
import ClockDiscipline.Proofs.Operations
import ClockDiscipline.Proofs.LiveHandles
import ClockDiscipline.Proofs.Observing
import ClockDiscipline.Proofs.FreeRunning
import ClockDiscipline.Proofs.TwoRuns
import ClockDiscipline.Proofs.DeviceCalls
import ClockDiscipline.Proofs.SourceTurns
import ClockDiscipline.Proofs.ReadyOrder
import ClockDiscipline.Proofs.Asides
import ClockDiscipline.Proofs.RunsApart
import ClockDiscipline.Proofs.BenchApart
import ClockDiscipline.Proofs.FaultIsolation
import ClockDiscipline.Proofs.FailedSource
import ClockDiscipline.Proofs.SharedClocks
import ClockDiscipline.Proofs.SelectedSource
import ClockDiscipline.Proofs.ServoStates
import ClockDiscipline.Daemon.Still
import ClockDiscipline.Proofs.Shutdown
import ClockDiscipline.Proofs.EmptyWaits
import ClockDiscipline.Proofs.SoundSettings
import ClockDiscipline.Proofs.Contemporary
import ClockDiscipline.Proofs.CyclesInRange
import ClockDiscipline.Proofs.DaemonInRange
import ClockDiscipline.Proofs.ReferenceApart
import ClockDiscipline.Proofs.LatchedTimes
import ClockDiscipline.Proofs.RisingEdge
import ClockDiscipline.Proofs.FiniteDoubles
import ClockDiscipline.Proofs.ServoInBounds
import ClockDiscipline.Proofs.ReadingBetween
import ClockDiscipline.Proofs.BestReading
import ClockDiscipline.Proofs.EdgeRounding
import ClockDiscipline.Proofs.RegisterGrid
import ClockDiscipline.Proofs.SplitTimes
import ClockDiscipline.Proofs.Stepping
