import RichNX.Telemetry.Update

/-! # The clock fields

`telemetry_update` writes four readings of the clock into the record: `last_update_sec`
at every call, `next_query_sec` when the gate opens, and `detection_last_query_sec` and,
on a hit, `detection_last_success_sec` in its second section. Whatever the clock reads,
the last success is never after the last query and the last query never after the gate,
since a query cycle happens only once the clock has reached the gate. The system tick
never goes back; given that, the last query is never after the last update, and the gate
is never more than three seconds past the latest reading, so an update that is allowed
to query and comes three seconds or more after the previous call always does: the
poller is never locked out. -/
namespace RichNX.Telemetry.Clock
open RichNX.Telemetry.State RichNX.Telemetry.Detect RichNX.Telemetry.Update

/-- The clock never goes back: `telemetry_init` and the updates of the run read it in
non-decreasing order. -/
def ClockMonotone (ns : BitVec 64) (calls : List Call) : Prop :=
  List.Chain (· ≤ ·) (secSinceBootNow ns) (calls.filterMap Call.reading)

/-- Deciding a chain of readings, one comparison at a time. -/
def decideChain : (t : BitVec 64) → (l : List (BitVec 64)) → Decidable (List.Chain (· ≤ ·) t l)
  | _, [] => isTrue .nil
  | t, x :: l =>
    have := decideChain x l
    decidable_of_iff (t ≤ x ∧ List.Chain (· ≤ ·) x l) List.chain_cons.symm

instance (ns : BitVec 64) (calls : List Call) : Decidable (ClockMonotone ns calls) :=
  decideChain _ _

/-- The latest reading of a run: its last update's, or `telemetry_init`'s. -/
def lastReading (ns : BitVec 64) (calls : List Call) : BitVec 64 :=
  (calls.filterMap Call.reading).getLastD (secSinceBootNow ns)

/-! ## One call -/

/-- The detection fields of the clock are as they were. -/
def Kept (st st' : TelemetryState) : Prop :=
  st'.detectionLastQuerySec = st.detectionLastQuerySec ∧
    st'.detectionLastSuccessSec = st.detectionLastSuccessSec ∧ st'.nextQuerySec = st.nextQuerySec

/-- What one call does to the clock fields: `telemetry_set_firmware` nothing; an update
writes its reading into `last_update_sec`, and, if it passes the gate, which needs the
reading at or past `next_query_sec`, into the last query, into the last success or not,
and three seconds later into the gate. -/
theorem times_step (c : Call) (st : TelemetryState) :
    (c.reading = none ∧ (c.apply st).lastUpdateSec = st.lastUpdateSec ∧ Kept st (c.apply st)) ∨
    (∃ now, c.reading = some now ∧ (c.apply st).lastUpdateSec = now ∧
      (Kept st (c.apply st) ∨
        (st.nextQuerySec ≤ now ∧ (c.apply st).detectionLastQuerySec = now ∧
          ((c.apply st).detectionLastSuccessSec = now ∨
            (c.apply st).detectionLastSuccessSec = st.detectionLastSuccessSec) ∧
          (c.apply st).nextQuerySec.toNat = now.toNat + 3))) := by
  rcases c.step_cases st with ⟨fw, rfl, ha, -⟩ | ⟨ns, allow, a, rfl, hg, ha, -⟩ |
    ⟨ns, allow, a, rfl, hg, ha, -⟩
  · exact .inl ⟨rfl, by rw [ha]; rfl, by rw [ha]; exact ⟨rfl, rfl, rfl⟩⟩
  · refine .inr ⟨_, rfl, by rw [ha, updateEnter_fst], .inl ?_⟩
    rw [ha, updateEnter_fst, hg]
    exact ⟨rfl, rfl, rfl⟩
  · have hb := secSinceBootNow_le ns
    have hs := recordQuery_detectionLastSuccessSec (updateEnter st (secSinceBootNow ns) allow).1
      (secSinceBootNow ns) (detect a)
    rw [ha, updateExit]
    simp only [applyHysteresis_lastUpdateSec, recordQuery_lastUpdateSec,
      applyHysteresis_detectionLastQuerySec, applyHysteresis_detectionLastSuccessSec,
      applyHysteresis_nextQuerySec, recordQuery_nextQuerySec, recordQuery_detectionLastQuerySec]
    refine .inr ⟨_, rfl, by rw [updateEnter_fst], .inr ⟨((updateEnter_snd _ _ _).mp hg).2, rfl,
      hs.imp_right fun h => by rw [h, updateEnter_fst], ?_⟩⟩
    rw [updateEnter_fst, hg, if_pos rfl, programQueryIntervalSec]
    bv_omega

/-- The order that holds whatever the clock reads. -/
structure Ordered (st : TelemetryState) : Prop where
  success_le_query : st.detectionLastSuccessSec ≤ st.detectionLastQuerySec
  query_le_gate : st.detectionLastQuerySec ≤ st.nextQuerySec

theorem Ordered.step {st : TelemetryState} (ho : Ordered st) (c : Call) : Ordered (c.apply st) := by
  rcases times_step c st with ⟨-, -, hq, hs, hn⟩ | ⟨now, -, -, ⟨hq, hs, hn⟩ | ⟨hle, hq, hs, hn⟩⟩
  · exact ⟨hs ▸ hq ▸ ho.1, hq ▸ hn ▸ ho.2⟩
  · exact ⟨hs ▸ hq ▸ ho.1, hq ▸ hn ▸ ho.2⟩
  · have h1 := BitVec.le_def.mp ho.1
    have h2 := BitVec.le_def.mp ho.2
    have h3 := BitVec.le_def.mp hle
    refine ⟨BitVec.le_def.mpr ?_, BitVec.le_def.mpr ?_⟩
    · rcases hs with hs | hs
      · rw [hs, hq]
      · rw [hs, hq]; omega
    · rw [hq]; omega

/-- What holds when the clock never goes back, `t` its latest reading. -/
structure Timely (t : BitVec 64) (st : TelemetryState) : Prop where
  query_le_update : st.detectionLastQuerySec ≤ st.lastUpdateSec
  update_le_clock : st.lastUpdateSec ≤ t
  gate_le : st.nextQuerySec.toNat ≤ t.toNat + 3

/-- A call whose reading is not before `t` keeps `Timely`, at its reading. -/
theorem Timely.step {t : BitVec 64} {st : TelemetryState} (hi : Timely t st) (c : Call)
    (ht : ∀ now, c.reading = some now → t ≤ now) : Timely (c.reading.getD t) (c.apply st) := by
  rcases times_step c st with ⟨hr, hu, hq, -, hn⟩ | ⟨now, hr, hu, hk⟩
  · rw [hr, Option.getD_none]
    exact ⟨hu ▸ hq ▸ hi.1, hu ▸ hi.2, hn ▸ hi.3⟩
  · rw [hr, Option.getD_some]
    have h1 := BitVec.le_def.mp hi.1
    have h2 := BitVec.le_def.mp hi.2
    have h3 := BitVec.le_def.mp (ht now hr)
    have h4 := hi.3
    refine ⟨BitVec.le_def.mpr ?_, hu ▸ BitVec.le_refl _, ?_⟩
    · rcases hk with ⟨hq, -, -⟩ | ⟨-, hq, -, -⟩
      · rw [hq, hu]; omega
      · rw [hq, hu]
    · rcases hk with ⟨-, -, hn⟩ | ⟨-, -, -, hn⟩
      · rw [hn]; omega
      · omega

/-- From a `Timely` record, an update allowed to query three seconds or more after the
latest reading passes the gate. -/
theorem Timely.cycle_due {t : BitVec 64} {st : TelemetryState} (hi : Timely t st) {ns : BitVec 64}
    (h3 : t.toNat + 3 ≤ (secSinceBootNow ns).toNat) (a : ProviderAnswers) :
    (Call.update ns true a).cycle st = some ⟨secSinceBootNow ns, (detect a).found⟩ := by
  have := hi.3
  simp only [Call.cycle]
  rw [if_pos ((updateEnter_snd _ _ _).mpr ⟨rfl, BitVec.le_def.mpr (by omega)⟩)]

/-! ## Runs -/

theorem ordered_run {st : TelemetryState} (ho : Ordered st) (calls : List Call) :
    Ordered (run st calls) := by
  induction calls generalizing st with
  | nil => exact ho
  | cons c cs ih => exact ih (ho.step c)

theorem timely_run {t : BitVec 64} {st : TelemetryState} (hi : Timely t st) (calls : List Call)
    (hc : List.Chain (· ≤ ·) t (calls.filterMap Call.reading)) :
    Timely ((calls.filterMap Call.reading).getLastD t) (run st calls) := by
  induction calls generalizing t st with
  | nil => exact hi
  | cons c cs ih =>
    cases hr : c.reading with
    | none =>
      rw [List.filterMap_cons_none hr] at hc ⊢
      have := hi.step c (fun now h => absurd (hr.symm.trans h) (by simp))
      rw [hr, Option.getD_none] at this
      exact ih this hc
    | some now =>
      rw [List.filterMap_cons_some hr, List.chain_cons] at hc
      rw [List.filterMap_cons_some hr, List.getLastD_cons]
      have := hi.step c (fun now' h => by rw [hr, Option.some.injEq] at h; exact h ▸ hc.1)
      rw [hr, Option.getD_some] at this
      exact ih this hc.2

/-- **The clock fields are ordered, and the poller is never locked out.** After any run
from `telemetry_init`, whatever the clock reads, `detection_last_success_sec` is at most
`detection_last_query_sec`, which is at most `next_query_sec`. If the clock never goes
back, moreover `detection_last_query_sec` is at most `last_update_sec`, which is at most
the latest reading; `next_query_sec` is at most three seconds past that reading; and an
update allowed to query, reading the clock three seconds or more after it, performs a
query cycle. -/
theorem detection_times_ordered (ns : BitVec 64) (calls : List Call) :
    let st := run (telemetryInit ns) calls
    st.detectionLastSuccessSec ≤ st.detectionLastQuerySec ∧
    st.detectionLastQuerySec ≤ st.nextQuerySec ∧
    (ClockMonotone ns calls →
      st.detectionLastQuerySec ≤ st.lastUpdateSec ∧ st.lastUpdateSec ≤ lastReading ns calls ∧
      st.nextQuerySec.toNat ≤ (lastReading ns calls).toNat + 3 ∧
      ∀ ns' a, (lastReading ns calls).toNat + 3 ≤ (secSinceBootNow ns').toNat →
        (Call.update ns' true a).cycle st = some ⟨secSinceBootNow ns', (detect a).found⟩) := by
  have ho : Ordered (run (telemetryInit ns) calls) :=
    ordered_run ⟨BitVec.le_refl _, BitVec.le_def.mpr (Nat.zero_le _)⟩ calls
  refine ⟨ho.1, ho.2, fun hc => ?_⟩
  have hi : Timely (lastReading ns calls) (run (telemetryInit ns) calls) :=
    timely_run ⟨BitVec.le_refl _, BitVec.le_def.mpr (Nat.zero_le _), by simp [telemetryInit]⟩ calls hc
  exact ⟨hi.1, hi.2, hi.3, fun ns' a h => hi.cycle_due h a⟩

/-- An update at 5 s allowed to query, a firmware write, and an update at 9 s that is not. -/
def readingsFiveNine : List Call :=
  [.update 5000000000 true ⟨0, 0, 0, 0, 0, [], Nat.zero_le _⟩, .setFirmware none,
    .update 9000000000 false ⟨0, 0, 0, 0, 0, [], Nat.zero_le _⟩]

theorem detection_times_at_five_nine :
    ClockMonotone 0 readingsFiveNine ∧
    let st := run (telemetryInit 0) readingsFiveNine
    st.detectionLastQuerySec ≤ st.lastUpdateSec ∧ st.lastUpdateSec ≤ lastReading 0 readingsFiveNine ∧
    st.nextQuerySec.toNat ≤ (lastReading 0 readingsFiveNine).toNat + 3 ∧
    ∀ ns' a, (lastReading 0 readingsFiveNine).toNat + 3 ≤ (secSinceBootNow ns').toNat →
      (Call.update ns' true a).cycle st = some ⟨secSinceBootNow ns', (detect a).found⟩ :=
  have hc : ClockMonotone 0 readingsFiveNine := by decide
  ⟨hc, (detection_times_ordered 0 readingsFiveNine).2.2 hc⟩

end RichNX.Telemetry.Clock
