import PilotLamp.Bench.Scripts
import PilotLamp.EntryPoints
import PilotLamp.Main
import PilotLamp.Proofs.HeldDrivers
import PilotLamp.Proofs.LevelHistory
import PilotLamp.Proofs.ServingOrder
import PilotLamp.Proofs.SingleInstance
import PilotLamp.Proofs.PortHardware
import PilotLamp.Proofs.HardwareAgreement
import PilotLamp.Proofs.BlinkCycles
import PilotLamp.Proofs.FailureReports
import PilotLamp.Proofs.PollSchedules
import PilotLamp.Proofs.JournaledBackends
import PilotLamp.Proofs.DriverCustody
import PilotLamp.Proofs.CleanFailures
import PilotLamp.Proofs.DriverFaults
import PilotLamp.Proofs.PinStock
import PilotLamp.Proofs.Acceptance
import PilotLamp.Proofs.TraceLines
import PilotLamp.Proofs.EntryTrace
import PilotLamp.Proofs.BusTraces
import PilotLamp.Proofs.RecorderHistory
import PilotLamp.Proofs.BusDiscipline
import PilotLamp.Proofs.TraceReplay
import PilotLamp.Proofs.UnconfiguredWrites
import PilotLamp.Proofs.BlinkOutput
import PilotLamp.Proofs.DriverEvents
import PilotLamp.Proofs.GpioOwnership
import PilotLamp.Proofs.PinConservation
import PilotLamp.Proofs.TickCounts
import PilotLamp.Proofs.LineInterleavings
import PilotLamp.Proofs.RepeatedConfigurations
import PilotLamp.Proofs.PairedRuns
import PilotLamp.Proofs.TraceTranscripts
import PilotLamp.Proofs.LimitedSinks
import PilotLamp.Proofs.ReportedFailures
import PilotLamp.Proofs.RecordedMemory
import PilotLamp.Proofs.BlinkAftermath
import PilotLamp.Proofs.PinAllocation
import PilotLamp.Proofs.StrayKeys
import PilotLamp.Proofs.SplitWaits
import PilotLamp.Proofs.SpinCounts
import PilotLamp.Proofs.PlansAsJson
