import ThermalCore.Run
import ThermalCore.Accepted
import ThermalCore.Stages
import ThermalCore.Marks
import ThermalCore.Atomicity
import ThermalCore.Reach
import ThermalCore.Safety
import ThermalCore.Fallback
import ThermalCore.Dwell
import ThermalCore.SpinUp
import ThermalCore.Detectors
import ThermalCore.FaultEvents
import ThermalCore.ShadowConfig
import ThermalCore.IncrementalChecks
import ThermalCore.Monotone
import ThermalCore.Comparison
import ThermalCore.Checked.Parts
import ThermalCore.Checked.Validate
import ThermalCore.SampleOrder
import ThermalCore.Advisory
import ThermalCore.ClockShift
import ThermalCore.Rollover
import ThermalCore.ClearGate
import ThermalCore.ShutdownLatch
import ThermalCore.Escalation
import ThermalCore.Silence
import ThermalCore.TelemetryCadence
import ThermalCore.Lib.LittleEndian
import ThermalCore.Wire.Codec
import ThermalCore.Lib.Crc
import ThermalCore.Wire.RoundTrip
import ThermalCore.Wire.Integrity
import ThermalCore.Lib.Framing
import ThermalCore.Wire.Serial
import ThermalCore.Wire.CommandChannel
import ThermalCore.Checked.Runs
import ThermalCore.Aggregation
import ThermalCore.FlatSensor
import ThermalCore.FaultTrace
import ThermalCore.Lib.RingBuffer
import ThermalCore.Lib.RingQueue
import ThermalCore.RunawayWindow
import ThermalCore.FilterHull
import ThermalCore.DutyEnvelope
import ThermalCore.PwmCap
import ThermalCore.StallDuty
import ThermalCore.StuckExclusion
import ThermalCore.Lib.Interpolation
import ThermalCore.Typed
import ThermalCore.EffectiveTrips
import ThermalCore.CurveShape
import ThermalCore.FanHealthRuns
import ThermalCore.PidArithmetic
import ThermalCore.Hysteresis
import ThermalCore.Linux.CanFreshness
import ThermalCore.Lib.Footprint
import ThermalCore.Linux.LoaderSections
import ThermalCore.Linux.SelectorViews
import ThermalCore.Linux.KeyOrder
import ThermalCore.Linux.CanCadence
import ThermalCore.Wire.PythonCodec
import ThermalCore.Hash.Canonical
import ThermalCore.Lib.BlockBuffer
import ThermalCore.Hash.Sha256
import ThermalCore.Ch32.TelemetryRing
import ThermalCore.Lib.Lines
import ThermalCore.Ch32.Command
import ThermalCore.Linux.Tokens
import ThermalCore.Lib.Logged
import ThermalCore.Linux.Jsmn
import ThermalCore.Linux.TokenScan
import ThermalCore.PidMonotone
import ThermalCore.Linux.TokenLoader
import ThermalCore.Linux.TokenComplete
import ThermalCore.Esp32.HilPeripheral
import ThermalCore.Linux.HilSerial
import ThermalCore.Wire.Line
import ThermalCore.Wire.HilLink
import ThermalCore.Wire.HilReadings
import ThermalCore.Linux.HilDaemon
import ThermalCore.Ch32.MainLoop
import ThermalCore.Linux.TokenDocument
import ThermalCore.Linux.TokenSections
import ThermalCore.Linux.JsonText
import ThermalCore.Linux.TextLoader
import ThermalCore.Linux.WallClock
import ThermalCore.Linux.Uplink
import ThermalCore.Esp32.Standalone
