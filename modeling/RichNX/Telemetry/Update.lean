import RichNX.Telemetry.Detect

/-! # `telemetry_update`

The update as its two critical sections. `updateEnter` counts the sample and
either returns at the throttle gate or moves `next_query_sec` on; `updateExit`
records the query cycle (`recordQuery`) and applies the hysteresis
(`applyHysteresis`). Between the two the lock is released and the Provider answers
(`detect`). A sequential run applies whole calls, `telemetry_set_firmware`
included, and lists for the calls that pass the gate their `QueryCycle`: the clock
reading and the program found, if any. -/
namespace RichNX.Telemetry.Update
open RichNX.CString RichNX.Format RichNX.Telemetry.State RichNX.Telemetry.Detect

/-- The first critical section on the clock reading `now`: the state at its
`rmutexUnlock`, and whether the call goes on to query. -/
def updateEnter (st : TelemetryState) (now : BitVec 64) (allowPmQuery : Bool) :
    TelemetryState × Bool :=
  let st := { st with
    sampleCount := st.sampleCount + 1
    lastUpdateSec := now
    detectionMode := if allowPmQuery then true else st.detectionMode }
  if allowPmQuery = false ∨ now < st.nextQuerySec then (st, false)
  else ({ st with nextQuerySec := now + programQueryIntervalSec }, true)

/-- The bookkeeping of the second critical section; `query_attempted` always holds there. -/
def recordQuery (st : TelemetryState) (now : BitVec 64) (d : Detection) : TelemetryState :=
  let st := { st with
    detectionAttemptCount := st.detectionAttemptCount + 1
    detectionLastQuerySec := now
    lastPmResult := d.pmRc
    lastPminfoResult := d.pminfoRc
    lastNsResult := d.nsRc
    lastSvcResult := d.svcRc
    lastProcessId := d.processId
    detectionSource := d.source }
  if d.haveProgram then
    { st with
      detectionSuccessCount := st.detectionSuccessCount + 1
      detectionFailStreak := 0
      detectionLastSuccessSec := now }
  else
    { st with
      detectionFailCount := st.detectionFailCount + 1
      detectionFailStreak := if st.detectionFailStreak < 0xFFFFFFFF
        then st.detectionFailStreak + 1 else st.detectionFailStreak }

/-- The pending buffer of the hysteresis, on a found program. -/
def bumpPending (st : TelemetryState) (programId : BitVec 64) : TelemetryState :=
  if st.pendingProgramId = programId then
    { st with pendingMatchCount := if st.pendingMatchCount < 255
        then st.pendingMatchCount + 1 else st.pendingMatchCount }
  else { st with pendingProgramId := programId, pendingMatchCount := 1 }

/-- Publishing once the pending program has matched twice. -/
def publishConfirmed (st : TelemetryState) (programId : BitVec 64) : TelemetryState :=
  if 2 ≤ st.pendingMatchCount then
    { st with activeProgramId := programId, activeGame := gameLabel programId }
  else st

/-- The hysteresis of the second critical section. -/
def applyHysteresis (st : TelemetryState) (d : Detection) : TelemetryState :=
  if d.haveProgram = false then
    { st with
      pendingProgramId := 0
      pendingMatchCount := 0
      activeProgramId := 0
      activeGame := copyUtf8Trunc st.activeGame (some (bytesOf "HOME")) }
  else publishConfirmed (bumpPending st d.programId) d.programId

/-- The second critical section, on the reading `now` of the first. -/
def updateExit (st : TelemetryState) (now : BitVec 64) (d : Detection) : TelemetryState :=
  applyHysteresis (recordQuery st now d) d

/-- `telemetry_update`, run alone: the clock reads `ns` nanoseconds and the Provider
answers `a`. -/
def telemetryUpdate (st : TelemetryState) (ns : BitVec 64) (allowPmQuery : Bool)
    (a : ProviderAnswers) : TelemetryState :=
  let now := secSinceBootNow ns
  let e := updateEnter st now allowPmQuery
  if e.2 then updateExit e.1 now (detect a) else e.1

/-! ## Runs -/

/-- A call of the telemetry API that writes the state. -/
inductive Call
  | update (ns : BitVec 64) (allowPmQuery : Bool) (answers : ProviderAnswers)
  | setFirmware (firmware : Option (List UInt8))

def Call.isUpdate : Call → Bool
  | .update .. => true
  | .setFirmware _ => false

/-- The clock reading a call takes: `sec_since_boot_now()` for an update, none for
`telemetry_set_firmware`. -/
def Call.reading : Call → Option (BitVec 64)
  | .update ns _ _ => some (secSinceBootNow ns)
  | .setFirmware _ => none

/-- A query cycle: the clock reading of its call, and the program it found. -/
structure QueryCycle where
  now : BitVec 64
  found : Option (BitVec 64)
  deriving DecidableEq

def Call.apply : Call → TelemetryState → TelemetryState
  | .update ns allow a, st => telemetryUpdate st ns allow a
  | .setFirmware fw, st => telemetrySetFirmware st fw

/-- The query cycle a call performs from `st`, if it passes the gate. -/
def Call.cycle : Call → TelemetryState → Option QueryCycle
  | .update ns allow a, st =>
    if (updateEnter st (secSinceBootNow ns) allow).2 then
      some ⟨secSinceBootNow ns, (detect a).found⟩
    else none
  | .setFirmware _, _ => none

def run (st : TelemetryState) (calls : List Call) : TelemetryState := calls.foldl (fun st c => c.apply st) st

/-- The query cycles of a run, in order. -/
def cycles : TelemetryState → List Call → List QueryCycle
  | _, [] => []
  | st, c :: cs => (c.cycle st).toList ++ cycles (c.apply st) cs

/-- A relation between the state, the calls so far and their query cycles that every
call keeps holds after any run. -/
theorem run_induction (R : TelemetryState → List Call → List QueryCycle → Prop)
    (step : ∀ st calls cyc c, R st calls cyc → R (c.apply st) (calls ++ [c]) (cyc ++ (c.cycle st).toList))
    {st : TelemetryState} {calls : List Call} {cyc : List QueryCycle} (h : R st calls cyc)
    (cs : List Call) : R (run st cs) (calls ++ cs) (cyc ++ cycles st cs) := by
  induction cs generalizing st calls cyc with
  | nil => simpa [run, cycles] using h
  | cons c cs ih =>
    have := ih (step st calls cyc c h)
    simpa [run, cycles] using this

/-- What one call does: `telemetry_set_firmware`, an update stopped at the gate, or an
update that performs a query cycle. -/
theorem Call.step_cases (c : Call) (st : TelemetryState) :
    (∃ fw, c = .setFirmware fw ∧ c.apply st = telemetrySetFirmware st fw ∧ c.cycle st = none) ∨
    (∃ ns allow a, c = .update ns allow a ∧ (updateEnter st (secSinceBootNow ns) allow).2 = false ∧
      c.apply st = (updateEnter st (secSinceBootNow ns) allow).1 ∧ c.cycle st = none) ∨
    (∃ ns allow a, c = .update ns allow a ∧ (updateEnter st (secSinceBootNow ns) allow).2 = true ∧
      c.apply st = updateExit (updateEnter st (secSinceBootNow ns) allow).1 (secSinceBootNow ns)
        (detect a) ∧
      c.cycle st = some ⟨secSinceBootNow ns, (detect a).found⟩) := by
  cases c with
  | setFirmware fw => exact .inl ⟨fw, rfl, rfl, rfl⟩
  | update ns allow a =>
    cases h : (updateEnter st (secSinceBootNow ns) allow).2
    · exact .inr (.inl ⟨ns, allow, a, rfl, h, by simp [Call.apply, telemetryUpdate, h],
        by simp [Call.cycle, h]⟩)
    · exact .inr (.inr ⟨ns, allow, a, rfl, h, by simp [Call.apply, telemetryUpdate, h],
        by simp [Call.cycle, h]⟩)

/-! ## The two critical sections -/

theorem updateEnter_snd (st : TelemetryState) (now : BitVec 64) (allow : Bool) :
    (updateEnter st now allow).2 = true ↔ allow = true ∧ st.nextQuerySec ≤ now := by
  by_cases h : now < st.nextQuerySec <;> cases allow <;>
    simp [updateEnter, h, BitVec.not_lt.mp]

theorem updateEnter_fst (st : TelemetryState) (now : BitVec 64) (allow : Bool) :
    (updateEnter st now allow).1 = { st with
      sampleCount := st.sampleCount + 1
      lastUpdateSec := now
      detectionMode := st.detectionMode || allow
      nextQuerySec := if (updateEnter st now allow).2 then now + programQueryIntervalSec
        else st.nextQuerySec } := by
  by_cases h : now < st.nextQuerySec <;> cases allow <;> simp [updateEnter, h]

theorem recordQuery_hit (st : TelemetryState) (now : BitVec 64) {d : Detection}
    (hd : d.haveProgram = true) : recordQuery st now d = { st with
      detectionAttemptCount := st.detectionAttemptCount + 1
      detectionLastQuerySec := now
      lastPmResult := d.pmRc
      lastPminfoResult := d.pminfoRc
      lastNsResult := d.nsRc
      lastSvcResult := d.svcRc
      lastProcessId := d.processId
      detectionSource := d.source
      detectionSuccessCount := st.detectionSuccessCount + 1
      detectionFailStreak := 0
      detectionLastSuccessSec := now } := by
  simp only [recordQuery, hd, if_true]

theorem recordQuery_miss (st : TelemetryState) (now : BitVec 64) {d : Detection}
    (hd : d.haveProgram = false) : recordQuery st now d = { st with
      detectionAttemptCount := st.detectionAttemptCount + 1
      detectionLastQuerySec := now
      lastPmResult := d.pmRc
      lastPminfoResult := d.pminfoRc
      lastNsResult := d.nsRc
      lastSvcResult := d.svcRc
      lastProcessId := d.processId
      detectionSource := d.source
      detectionFailCount := st.detectionFailCount + 1
      detectionFailStreak := if st.detectionFailStreak < 0xFFFFFFFF
        then st.detectionFailStreak + 1 else st.detectionFailStreak } := by
  simp only [recordQuery, hd, Bool.false_eq_true, if_false]

theorem applyHysteresis_miss (st : TelemetryState) {d : Detection} (hd : d.haveProgram = false) :
    applyHysteresis st d = { st with
      pendingProgramId := 0
      pendingMatchCount := 0
      activeProgramId := 0
      activeGame := homeGame } := by
  simp only [applyHysteresis, hd, if_true, copyUtf8Trunc_home]

theorem applyHysteresis_hit (st : TelemetryState) {d : Detection} (hd : d.haveProgram = true) :
    applyHysteresis st d = publishConfirmed (bumpPending st d.programId) d.programId := by
  simp only [applyHysteresis, hd, Bool.true_eq_false, if_false]

/-- The pending buffer after a hit holds the hit, once more if it was pending already. -/
theorem bumpPending_eq (st : TelemetryState) (x : BitVec 64) :
    ∃ c : BitVec 8, bumpPending st x = { st with pendingProgramId := x, pendingMatchCount := c } ∧
      c.toNat = if st.pendingProgramId = x then min 255 (st.pendingMatchCount.toNat + 1) else 1 := by
  unfold bumpPending
  split
  · rename_i h
    refine ⟨_, by rw [h], ?_⟩
    split <;> bv_omega
  · exact ⟨_, rfl, rfl⟩

section Frame
variable (st : TelemetryState) (now : BitVec 64) (d : Detection)

@[simp] theorem recordQuery_pendingProgramId :
    (recordQuery st now d).pendingProgramId = st.pendingProgramId := by
  unfold recordQuery; split <;> rfl
@[simp] theorem recordQuery_pendingMatchCount :
    (recordQuery st now d).pendingMatchCount = st.pendingMatchCount := by
  unfold recordQuery; split <;> rfl
@[simp] theorem recordQuery_activeProgramId :
    (recordQuery st now d).activeProgramId = st.activeProgramId := by
  unfold recordQuery; split <;> rfl
@[simp] theorem recordQuery_activeGame : (recordQuery st now d).activeGame = st.activeGame := by
  unfold recordQuery; split <;> rfl
@[simp] theorem recordQuery_nextQuerySec :
    (recordQuery st now d).nextQuerySec = st.nextQuerySec := by
  unfold recordQuery; split <;> rfl
@[simp] theorem recordQuery_sampleCount : (recordQuery st now d).sampleCount = st.sampleCount := by
  unfold recordQuery; split <;> rfl
@[simp] theorem recordQuery_lastUpdateSec :
    (recordQuery st now d).lastUpdateSec = st.lastUpdateSec := by
  unfold recordQuery; split <;> rfl
@[simp] theorem recordQuery_detectionLastQuerySec : (recordQuery st now d).detectionLastQuerySec = now := by
  unfold recordQuery; split <;> rfl

/-- The last success is the reading on a hit, and as it was on a miss. -/
theorem recordQuery_detectionLastSuccessSec :
    (recordQuery st now d).detectionLastSuccessSec = now ∨
      (recordQuery st now d).detectionLastSuccessSec = st.detectionLastSuccessSec := by
  unfold recordQuery
  split
  · exact .inl rfl
  · exact .inr rfl

/-- The hysteresis writes the pending buffer and the published answer, nothing else. -/
theorem applyHysteresis_frame : ∃ p c a g, applyHysteresis st d = { st with
    pendingProgramId := p, pendingMatchCount := c, activeProgramId := a, activeGame := g } := by
  unfold applyHysteresis
  split
  · exact ⟨_, _, _, _, rfl⟩
  · unfold publishConfirmed bumpPending
    (repeat' split) <;> exact ⟨_, _, _, _, rfl⟩

@[simp] theorem applyHysteresis_sampleCount :
    (applyHysteresis st d).sampleCount = st.sampleCount := by
  obtain ⟨_, _, _, _, h⟩ := applyHysteresis_frame st d; rw [h]
@[simp] theorem applyHysteresis_nextQuerySec :
    (applyHysteresis st d).nextQuerySec = st.nextQuerySec := by
  obtain ⟨_, _, _, _, h⟩ := applyHysteresis_frame st d; rw [h]
@[simp] theorem applyHysteresis_detectionAttemptCount :
    (applyHysteresis st d).detectionAttemptCount = st.detectionAttemptCount := by
  obtain ⟨_, _, _, _, h⟩ := applyHysteresis_frame st d; rw [h]
@[simp] theorem applyHysteresis_detectionSuccessCount :
    (applyHysteresis st d).detectionSuccessCount = st.detectionSuccessCount := by
  obtain ⟨_, _, _, _, h⟩ := applyHysteresis_frame st d; rw [h]
@[simp] theorem applyHysteresis_detectionFailCount :
    (applyHysteresis st d).detectionFailCount = st.detectionFailCount := by
  obtain ⟨_, _, _, _, h⟩ := applyHysteresis_frame st d; rw [h]
@[simp] theorem applyHysteresis_detectionFailStreak :
    (applyHysteresis st d).detectionFailStreak = st.detectionFailStreak := by
  obtain ⟨_, _, _, _, h⟩ := applyHysteresis_frame st d; rw [h]
@[simp] theorem applyHysteresis_detectionSource :
    (applyHysteresis st d).detectionSource = st.detectionSource := by
  obtain ⟨_, _, _, _, h⟩ := applyHysteresis_frame st d; rw [h]
@[simp] theorem applyHysteresis_detectionLastQuerySec :
    (applyHysteresis st d).detectionLastQuerySec = st.detectionLastQuerySec := by
  obtain ⟨_, _, _, _, h⟩ := applyHysteresis_frame st d; rw [h]
@[simp] theorem applyHysteresis_detectionLastSuccessSec :
    (applyHysteresis st d).detectionLastSuccessSec = st.detectionLastSuccessSec := by
  obtain ⟨_, _, _, _, h⟩ := applyHysteresis_frame st d; rw [h]
@[simp] theorem applyHysteresis_lastUpdateSec :
    (applyHysteresis st d).lastUpdateSec = st.lastUpdateSec := by
  obtain ⟨_, _, _, _, h⟩ := applyHysteresis_frame st d; rw [h]

end Frame

/-- A call that performs no query cycle writes neither the pending buffer nor the
published answer. -/
theorem Call.hysteresis_frame {c : Call} {st : TelemetryState} (h : c.cycle st = none) :
    (c.apply st).pendingProgramId = st.pendingProgramId ∧
    (c.apply st).pendingMatchCount = st.pendingMatchCount ∧
    (c.apply st).activeProgramId = st.activeProgramId ∧ (c.apply st).activeGame = st.activeGame := by
  rcases c.step_cases st with ⟨fw, -, ha, -⟩ | ⟨ns, allow, -, -, -, ha, -⟩ | ⟨_, _, _, -, -, -, hc⟩
  · rw [ha]; exact ⟨rfl, rfl, rfl, rfl⟩
  · rw [ha, updateEnter_fst]; exact ⟨rfl, rfl, rfl, rfl⟩
  · rw [hc] at h; cases h

end RichNX.Telemetry.Update
