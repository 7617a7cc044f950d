import RichNX.Format

/-! # The telemetry record

`TelemetryState` as `telemetry.h` declares it, without its `RMutex`: a critical
section is one step of the model, so holding the lock is the step's atomicity
(`Telemetry.Invariant`). `Result` is libnx's `u32`. Here are also
`telemetry_init`, `telemetry_set_firmware` and the two texts the poller
publishes in `active_game`: the `HOME` sentinel and the label `0x%016llX`. -/
namespace RichNX.Telemetry.State
open RichNX.CString RichNX.Format

structure TelemetryState where
  startedSec : BitVec 64
  lastUpdateSec : BitVec 64
  sampleCount : BitVec 64
  firmware : CStr 32
  activeProgramId : BitVec 64
  activeGame : CStr 256
  lastPmResult : BitVec 32
  lastPminfoResult : BitVec 32
  lastNsResult : BitVec 32
  lastSvcResult : BitVec 32
  lastProcessId : BitVec 64
  detectionSource : BitVec 32
  nextQuerySec : BitVec 64
  pendingProgramId : BitVec 64
  pendingMatchCount : BitVec 8
  detectionMode : Bool
  detectionAttemptCount : BitVec 64
  detectionSuccessCount : BitVec 64
  detectionFailCount : BitVec 64
  detectionFailStreak : BitVec 32
  detectionLastQuerySec : BitVec 64
  detectionLastSuccessSec : BitVec 64
  deriving DecidableEq

/-- `PROGRAM_QUERY_INTERVAL_SEC`. -/
def programQueryIntervalSec : BitVec 64 := 3

/-- `sec_since_boot_now()`, on the nanoseconds `armTicksToNs(armGetSystemTick())` returns. -/
def secSinceBootNow (ns : BitVec 64) : BitVec 64 := ns / 1000000000

/-- The greatest reading: `(2^64 - 1) / 10^9`. -/
theorem secSinceBootNow_le (ns : BitVec 64) : (secSinceBootNow ns).toNat ≤ 18446744073 := by
  have h : (1000000000 : BitVec 64).toNat = 1000000000 := rfl
  have := ns.isLt
  simp only [secSinceBootNow, BitVec.toNat_udiv, h]
  omega

/-- `snprintf(active_game, sizeof active_game, "HOME")`. -/
def homeGame : CStr 256 := CStr.ofSnprintf (bytesOf "HOME") (by decide) (by decide)

theorem homeGame_bytes : homeGame.bytes = bytesOf "HOME" := snprintf_of_length_lt (by decide)

/-- The copy `copy_utf8_trunc(active_game, sizeof active_game, "HOME")` makes. -/
theorem copyUtf8Trunc_home (dst : CStr 256) : copyUtf8Trunc dst (some (bytesOf "HOME")) = homeGame :=
  CStr.ext (by rw [copyUtf8Trunc_of_fits dst (by decide) (by decide), homeGame_bytes])

/-- The label `"0x%016llX"` of a program id. -/
def gameLabelText (programId : BitVec 64) : List UInt8 := bytesOf "0x" ++ hexFixed 16 programId.toNat

theorem zero_not_mem_gameLabelText (programId : BitVec 64) :
    (0 : UInt8) ∉ gameLabelText programId := by
  intro h
  rcases List.mem_append.mp h with h | h
  · revert h; decide
  · exact absurd (mem_hexFixed h) (by decide)

/-- `snprintf(active_game, sizeof active_game, "0x%016llX", program_id)`. -/
def gameLabel (programId : BitVec 64) : CStr 256 :=
  CStr.ofSnprintf (gameLabelText programId) (zero_not_mem_gameLabelText programId) (by decide)

theorem gameLabel_bytes (programId : BitVec 64) :
    (gameLabel programId).bytes = gameLabelText programId :=
  snprintf_of_length_lt (by simp [gameLabelText, bytesOf])

/-- `telemetry_init`, the clock reading `ns` nanoseconds. -/
def telemetryInit (ns : BitVec 64) : TelemetryState where
  startedSec := secSinceBootNow ns
  lastUpdateSec := 0
  sampleCount := 0
  firmware := CStr.ofSnprintf (bytesOf "unknown") (by decide) (by decide)
  activeProgramId := 0
  activeGame := homeGame
  lastPmResult := 0
  lastPminfoResult := 0
  lastNsResult := 0
  lastSvcResult := 0
  lastProcessId := 0
  detectionSource := 0
  nextQuerySec := secSinceBootNow ns
  pendingProgramId := 0
  pendingMatchCount := 0
  detectionMode := false
  detectionAttemptCount := 0
  detectionSuccessCount := 0
  detectionFailCount := 0
  detectionFailStreak := 0
  detectionLastQuerySec := 0
  detectionLastSuccessSec := 0

/-- `telemetry_set_firmware`, `none` for a null `firmware`. -/
def telemetrySetFirmware (st : TelemetryState) (firmware : Option (List UInt8)) : TelemetryState :=
  { st with firmware := copyUtf8Trunc st.firmware (some (firmware.getD (bytesOf "unknown"))) }

end RichNX.Telemetry.State
