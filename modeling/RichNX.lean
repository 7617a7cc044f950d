import RichNX.CString
import RichNX.Format
import RichNX.Logger
import RichNX.Json.Decoder
import RichNX.Json.Escape
import RichNX.Telemetry.State
import RichNX.Telemetry.Detect
import RichNX.Telemetry.Update
import RichNX.Telemetry.Hysteresis
import RichNX.Telemetry.Counters
import RichNX.Telemetry.Throttle
import RichNX.Telemetry.Clock
import RichNX.Telemetry.Invariant
import RichNX.Telemetry.Refinement
import RichNX.Telemetry.Firmware
import RichNX.Telemetry.Json
import RichNX.Http.Server
import RichNX.Http.Loop
import RichNX.Http.Descriptors
import RichNX.Http.Report
import RichNX.Http.Control
import RichNX.Service
