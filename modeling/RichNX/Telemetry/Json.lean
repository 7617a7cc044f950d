import RichNX.Json.Escape
import RichNX.Telemetry.State

/-! # `telemetry_build_json`

The reader copies the record under the lock, escapes its two strings into local buffers
and prints the body with one `snprintf`. The strings have room in their escape buffers
and every number has a bounded width, so the body stays under 1293 bytes, far from the
2048 the server gives it: it is never cut, and the JSON reader reads it back as the
twenty fields of the record, in the schema's order. -/
namespace RichNX.Telemetry.Json
open RichNX.CString RichNX.Format RichNX.Json.Decoder RichNX.Json.Escape RichNX.Telemetry.State

/-- The text the `snprintf` of `telemetry_build_json` formats, before `out_size` cuts it. -/
def telemetryJsonText (st : TelemetryState) : List UInt8 :=
  let activeGame := copyUtf8Trunc (CStr.uninit (by decide) : CStr 256) (some st.activeGame.bytes)
  let firmware := copyUtf8Trunc (CStr.uninit (by decide) : CStr 32) (some st.firmware.bytes)
  let escapedGame := jsonEscape activeGame.bytes (CStr.uninit (by decide) : CStr 512)
  let escapedFirmware := jsonEscape firmware.bytes (CStr.uninit (by decide) : CStr 64)
  bytesOf "\x7b\"service\":\"SwitchDCActivity\",\"firmware\":\"" ++ escapedFirmware.bytes ++
  bytesOf "\",\"active_program_id\":\"0x" ++ hexFixed 16 st.activeProgramId.toNat ++
  bytesOf "\",\"active_game\":\"" ++ escapedGame.bytes ++
  bytesOf "\",\"started_sec\":" ++ decimal st.startedSec.toNat ++
  bytesOf ",\"last_update_sec\":" ++ decimal st.lastUpdateSec.toNat ++
  bytesOf ",\"sample_count\":" ++ decimal st.sampleCount.toNat ++
  bytesOf ",\"last_pm_result\":\"0x" ++ hexFixed 8 st.lastPmResult.toNat ++
  bytesOf "\",\"last_pminfo_result\":\"0x" ++ hexFixed 8 st.lastPminfoResult.toNat ++
  bytesOf "\",\"last_ns_result\":\"0x" ++ hexFixed 8 st.lastNsResult.toNat ++
  bytesOf "\",\"last_svc_result\":\"0x" ++ hexFixed 8 st.lastSvcResult.toNat ++
  bytesOf "\",\"last_process_id\":\"0x" ++ hexFixed 16 st.lastProcessId.toNat ++
  bytesOf "\",\"detection_source\":" ++ decimal st.detectionSource.toNat ++
  bytesOf ",\"detection_mode\":" ++ bytesOf (if st.detectionMode then "true" else "false") ++
  bytesOf ",\"detection_attempt_count\":" ++ decimal st.detectionAttemptCount.toNat ++
  bytesOf ",\"detection_success_count\":" ++ decimal st.detectionSuccessCount.toNat ++
  bytesOf ",\"detection_fail_count\":" ++ decimal st.detectionFailCount.toNat ++
  bytesOf ",\"detection_fail_streak\":" ++ decimal st.detectionFailStreak.toNat ++
  bytesOf ",\"detection_last_query_sec\":" ++ decimal st.detectionLastQuerySec.toNat ++
  bytesOf ",\"detection_last_success_sec\":" ++ decimal st.detectionLastSuccessSec.toNat ++
  bytesOf "\x7d"

/-- `telemetry_build_json(state, out, out_size)`: what `out` holds. -/
def telemetryBuildJson (st : TelemetryState) (outSize : Nat) : List UInt8 :=
  snprintf outSize (telemetryJsonText st)

/-- A hex field as the schema gives it. -/
def hexText (w n : Nat) : List UInt8 := bytesOf "0x" ++ hexFixed w n

/-- The body as the schema describes it: the service name, the two strings with their
control bytes made spaces, the ids and result codes in hex, the rest in decimal. -/
def telemetrySchema (st : TelemetryState) : List (List UInt8 × Scalar) :=
  [(bytesOf "service", .str (bytesOf "SwitchDCActivity")),
   (bytesOf "firmware", .str (sanitize st.firmware.bytes)),
   (bytesOf "active_program_id", .str (hexText 16 st.activeProgramId.toNat)),
   (bytesOf "active_game", .str (sanitize st.activeGame.bytes)),
   (bytesOf "started_sec", .num st.startedSec.toNat),
   (bytesOf "last_update_sec", .num st.lastUpdateSec.toNat),
   (bytesOf "sample_count", .num st.sampleCount.toNat),
   (bytesOf "last_pm_result", .str (hexText 8 st.lastPmResult.toNat)),
   (bytesOf "last_pminfo_result", .str (hexText 8 st.lastPminfoResult.toNat)),
   (bytesOf "last_ns_result", .str (hexText 8 st.lastNsResult.toNat)),
   (bytesOf "last_svc_result", .str (hexText 8 st.lastSvcResult.toNat)),
   (bytesOf "last_process_id", .str (hexText 16 st.lastProcessId.toNat)),
   (bytesOf "detection_source", .num st.detectionSource.toNat),
   (bytesOf "detection_mode", .bool st.detectionMode),
   (bytesOf "detection_attempt_count", .num st.detectionAttemptCount.toNat),
   (bytesOf "detection_success_count", .num st.detectionSuccessCount.toNat),
   (bytesOf "detection_fail_count", .num st.detectionFailCount.toNat),
   (bytesOf "detection_fail_streak", .num st.detectionFailStreak.toNat),
   (bytesOf "detection_last_query_sec", .num st.detectionLastQuerySec.toNat),
   (bytesOf "detection_last_success_sec", .num st.detectionLastSuccessSec.toNat)]

/-! ## The escaped strings -/

theorem hexBytes_plain : ∀ c ∈ hexBytes, (c ≠ 34 ∧ c ≠ 92) ∧ 32 ≤ c := by decide

theorem escapeBody_hexText (w n : Nat) : escapeBody (hexText w n) = hexText w n := by
  refine escapeBody_of_plain fun c hc => ?_
  rcases List.mem_append.mp hc with hc | hc
  · exact (show ∀ c ∈ bytesOf "0x", c ≠ 34 ∧ c ≠ 92 by decide) c hc
  · exact (hexBytes_plain c (mem_hexFixed hc)).1

theorem printable_hexText (w n : Nat) : Printable (hexText w n) :=
  printable_append.mpr ⟨by decide, fun c hc => (hexBytes_plain c (mem_hexFixed hc)).2⟩

/-- The firmware string as `telemetry_build_json` prints it. -/
theorem escapedFirmware_bytes (st : TelemetryState) :
    (jsonEscape (copyUtf8Trunc (CStr.uninit (by decide) : CStr 32) (some st.firmware.bytes)).bytes
      (CStr.uninit (by decide) : CStr 64)).bytes = escapeBody (sanitize st.firmware.bytes) := by
  rw [copyUtf8Trunc_of_fits _ st.firmware.noNul st.firmware.fits]
  exact jsonEscape_of_room _ st.firmware.noNul (by have := st.firmware.fits; omega)

theorem escapedGame_bytes (st : TelemetryState) :
    (jsonEscape (copyUtf8Trunc (CStr.uninit (by decide) : CStr 256) (some st.activeGame.bytes)).bytes
      (CStr.uninit (by decide) : CStr 512)).bytes = escapeBody (sanitize st.activeGame.bytes) := by
  rw [copyUtf8Trunc_of_fits _ st.activeGame.noNul st.activeGame.fits]
  exact jsonEscape_of_room _ st.activeGame.noNul (by have := st.activeGame.fits; omega)

/-! ## The body is the schema, written -/

set_option maxRecDepth 2048 in
/-- The format string is the canonical writer applied to the schema. -/
theorem telemetryJsonText_eq_writeObject (st : TelemetryState) :
    telemetryJsonText st = writeObject (telemetrySchema st) := by
  simp only [telemetryJsonText, escapedFirmware_bytes, escapedGame_bytes, writeObject,
    telemetrySchema, writeMembers, memberText, scalarText, escapeBody_hexText, signedDecimal_natCast,
    List.append_assoc, List.cons_append]
  rfl

theorem writable_telemetrySchema (st : TelemetryState) : ∀ m ∈ telemetrySchema st, Writable m := by
  simp only [telemetrySchema, List.forall_mem_cons]
  exact ⟨.str (by decide) (by decide), .str (by decide) (printable_sanitize _),
    .str (by decide) (printable_hexText _ _), .str (by decide) (printable_sanitize _),
    .num (by decide) _, .num (by decide) _, .num (by decide) _,
    .str (by decide) (printable_hexText _ _), .str (by decide) (printable_hexText _ _),
    .str (by decide) (printable_hexText _ _), .str (by decide) (printable_hexText _ _),
    .str (by decide) (printable_hexText _ _), .num (by decide) _, .bool (by decide) _,
    .num (by decide) _, .num (by decide) _, .num (by decide) _, .num (by decide) _,
    .num (by decide) _, .num (by decide) _, fun _ h => by cases h⟩

theorem zero_not_mem_telemetryJsonText (st : TelemetryState) : (0 : UInt8) ∉ telemetryJsonText st := by
  rw [telemetryJsonText_eq_writeObject]
  exact zero_not_mem_of_printable (printable_writeObject (writable_telemetrySchema st))

/-- The longest body: 451 bytes of format text, both strings all quotes, every
number at its type's widest. -/
theorem telemetryJsonText_length_le (st : TelemetryState) : (telemetryJsonText st).length ≤ 1292 := by
  have hf : (escapeBody (sanitize st.firmware.bytes)).length ≤ 2 * st.firmware.bytes.length :=
    sanitize_length st.firmware.bytes ▸ escapeBody_length_le _
  have hg : (escapeBody (sanitize st.activeGame.bytes)).length ≤ 2 * st.activeGame.bytes.length :=
    sanitize_length st.activeGame.bytes ▸ escapeBody_length_le _
  have := st.firmware.fits; have := st.activeGame.fits
  have := decimal_length_u64 st.startedSec; have := decimal_length_u64 st.lastUpdateSec
  have := decimal_length_u64 st.sampleCount; have := decimal_length_u32 st.detectionSource
  have := decimal_length_u64 st.detectionAttemptCount
  have := decimal_length_u64 st.detectionSuccessCount
  have := decimal_length_u64 st.detectionFailCount; have := decimal_length_u32 st.detectionFailStreak
  have := decimal_length_u64 st.detectionLastQuerySec
  have := decimal_length_u64 st.detectionLastSuccessSec
  have hb : (if st.detectionMode then "true" else "false").data.length ≤ 5 := by split <;> decide
  simp only [telemetryJsonText, escapedFirmware_bytes, escapedGame_bytes, List.length_append,
    hexFixed_length, bytesOf_length, String.length, List.length_cons, List.length_nil]
  omega

theorem decodeObject_telemetryJsonText (st : TelemetryState) :
    decodeObject (telemetryJsonText st) = some (telemetrySchema st) := by
  rw [telemetryJsonText_eq_writeObject]
  exact decode_writeObject _ (writable_telemetrySchema st)

/-- `telemetry_build_json` into a buffer of 2048 bytes writes the whole text. -/
theorem telemetryBuildJson_2048 (st : TelemetryState) :
    telemetryBuildJson st 2048 = telemetryJsonText st :=
  snprintf_of_length_lt (by have := telemetryJsonText_length_le st; omega)

/-- **The telemetry body reads back as the record.** For every record, the body
`telemetry_build_json` writes into the 2048 bytes the server gives it is the whole
formatted text, at most 1292 bytes long, and it reads back as one JSON object whose
members are the twenty of the schema, in order, with the record's values. -/
theorem telemetry_json_reads_back (st : TelemetryState) :
    telemetryBuildJson st 2048 = telemetryJsonText st ∧
    (telemetryBuildJson st 2048).length ≤ 1292 ∧
    decodeObject (telemetryBuildJson st 2048) = some (telemetrySchema st) := by
  rw [telemetryBuildJson_2048]
  exact ⟨rfl, telemetryJsonText_length_le st, decodeObject_telemetryJsonText st⟩

end RichNX.Telemetry.Json
