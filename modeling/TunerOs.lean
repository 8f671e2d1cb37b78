import TunerOs.Ecu.FaultIsolation
import TunerOs.Ecu.FrameDecoding
import TunerOs.Ecu.PublicationSchedule
import TunerOs.Diagnostics.History
import TunerOs.Telemetry.EngineRuns
import TunerOs.Telemetry.Subscription
import TunerOs.Session.Lifecycle
import TunerOs.Investigation.CenterState
import TunerOs.Simulator.StateValidity
import TunerOs.Frontend.CanFollowing
import TunerOs.Frontend.Freshness
import TunerOs.Frontend.ServiceStateRuns
import TunerOs.Api.CanSerialization
import TunerOs.Can.ExplorerInvariant
import TunerOs.Frontend.CanState
import TunerOs.Telemetry.ExplorerStream
import TunerOs.Lib.PiecewiseLinear
import TunerOs.Simulator.Lookup
import TunerOs.Ecu.GatewayMain
import TunerOs.Diagnostics.Evidence
import TunerOs.Telemetry.Atomicity
import TunerOs.Frontend.ChartHistory
import TunerOs.Frontend.FreezeView
import TunerOs.Session.Integrity
import TunerOs.Session.Readback
import TunerOs.Frontend.InvestigationState
import TunerOs.Session.Listing
import TunerOs.Live.CoarseSteps
import TunerOs.Live.Detection
import TunerOs.Live.Dashboard
