import RichNX.Telemetry.Update

/-! # The telemetry invariant under every interleaving

The lock makes each critical section atomic, so a concurrent run is a sequence of
critical sections of any number of threads: the first or the second section of any
`telemetry_update` call, `telemetry_set_firmware`, and the copies
`telemetry_build_json` takes. Between its two sections an update holds only its clock
reading; the Provider answers it with anything at all. `Inv` holds at every release
of the lock, so every copy a reader takes satisfies it. -/
namespace RichNX.Telemetry.Invariant
open RichNX.CString RichNX.Format RichNX.Telemetry.State RichNX.Telemetry.Detect
open RichNX.Telemetry.Update

/-- The consistency of the published answer, the pending buffer and the detection
bookkeeping. -/
structure Inv (st : TelemetryState) : Prop where
  home : st.activeProgramId = 0 ↔ st.activeGame.bytes = bytesOf "HOME"
  label : st.activeProgramId ≠ 0 →
    st.activeGame.bytes = bytesOf "0x" ++ hexFixed 16 st.activeProgramId.toNat
  pending : st.pendingProgramId = 0 ↔ st.pendingMatchCount = 0
  published : 2 ≤ st.pendingMatchCount → st.activeProgramId = st.pendingProgramId
  failing : 0 < st.detectionFailStreak →
    st.activeProgramId = 0 ∧ st.pendingProgramId = 0 ∧ st.detectionSource = 0
  source : st.detectionSource = 0 ∨ st.detectionSource = 1 ∨ st.detectionSource = 2
  succeeded : st.detectionSource ≠ 0 → st.detectionFailStreak = 0 ∧ st.pendingProgramId ≠ 0 ∧
    st.detectionLastSuccessSec = st.detectionLastQuerySec

theorem homeGame_bytes_ne_label (x : BitVec 64) : bytesOf "HOME" ≠ gameLabelText x := by
  intro h
  have := congrArg List.length h
  simp [gameLabelText, bytesOf] at this

theorem inv_telemetryInit (ns : BitVec 64) : Inv (telemetryInit ns) where
  home := ⟨fun _ => homeGame_bytes, fun _ => rfl⟩
  label := fun h => absurd rfl h
  pending := Iff.rfl.trans ⟨fun _ => rfl, fun _ => rfl⟩
  published := fun h => absurd h (by show ¬(2 : BitVec 8) ≤ 0; decide)
  failing := fun h => absurd h (by show ¬(0 : BitVec 32) < 0; decide)
  source := .inl rfl
  succeeded := fun h => absurd rfl h

/-- The fields `Inv` reads are the same. -/
theorem Inv.congr {st st' : TelemetryState} (hi : Inv st)
    (h1 : st'.activeProgramId = st.activeProgramId) (h2 : st'.activeGame = st.activeGame)
    (h3 : st'.pendingProgramId = st.pendingProgramId)
    (h4 : st'.pendingMatchCount = st.pendingMatchCount)
    (h5 : st'.detectionFailStreak = st.detectionFailStreak)
    (h6 : st'.detectionSource = st.detectionSource)
    (h7 : st'.detectionLastSuccessSec = st.detectionLastSuccessSec)
    (h8 : st'.detectionLastQuerySec = st.detectionLastQuerySec) : Inv st' := by
  obtain ⟨a, b, c, d, e, f, g⟩ := hi
  rw [← h1, ← h2] at a b
  rw [← h3, ← h4] at c
  rw [← h1, ← h3, ← h4] at d
  rw [← h1, ← h3, ← h5, ← h6] at e
  rw [← h6] at f
  rw [← h3, ← h5, ← h6, ← h7, ← h8] at g
  exact ⟨a, b, c, d, e, f, g⟩

/-- The first critical section keeps `Inv`. -/
theorem Inv.enter {st : TelemetryState} (hi : Inv st) (now : BitVec 64) (allow : Bool) :
    Inv (updateEnter st now allow).1 := by
  rw [updateEnter_fst]
  exact hi.congr rfl rfl rfl rfl rfl rfl rfl rfl

theorem Inv.setFirmware {st : TelemetryState} (hi : Inv st) (fw : Option (List UInt8)) :
    Inv (telemetrySetFirmware st fw) :=
  hi.congr rfl rfl rfl rfl rfl rfl rfl rfl

/-- The second critical section keeps `Inv`, whatever the Provider answered. -/
theorem Inv.exit {st : TelemetryState} (hi : Inv st) (now : BitVec 64) (a : ProviderAnswers) :
    Inv (updateExit st now (detect a)) := by
  obtain ⟨hfound, hmiss⟩ := detect_found a
  unfold updateExit
  cases hd : (detect a).haveProgram
  · rw [applyHysteresis_miss _ hd, recordQuery_miss _ _ hd]
    have hs := hmiss hd
    refine ⟨⟨fun _ => homeGame_bytes, fun _ => rfl⟩, fun h => absurd rfl h, ⟨fun _ => rfl, fun _ => rfl⟩,
      fun h => absurd h (by show ¬(2 : BitVec 8) ≤ 0; decide), fun _ => ⟨rfl, rfl, hs⟩, .inl hs,
      fun h => absurd hs h⟩
  · obtain ⟨hx, hsrc⟩ := hfound hd
    obtain ⟨c, hb, hc⟩ := bumpPending_eq (recordQuery st now (detect a)) (detect a).programId
    have hc1 : 1 ≤ c.toNat := by rw [hc]; split <;> omega
    rw [applyHysteresis_hit _ hd, hb]
    unfold publishConfirmed
    simp only [recordQuery_hit _ _ hd]
    have hpend : c ≠ 0 := fun h => by rw [h] at hc1; simp at hc1
    split
    · rename_i h2
      refine ⟨?_, fun _ => gameLabel_bytes _, ⟨fun h => absurd h hx, fun h => absurd h hpend⟩,
        fun _ => rfl, fun h => absurd h (by show ¬(0 : BitVec 32) < 0; decide), .inr hsrc,
        fun _ => ⟨rfl, hx, rfl⟩⟩
      rw [gameLabel_bytes]
      exact ⟨fun h => absurd h hx, fun h => absurd h (homeGame_bytes_ne_label _).symm⟩
    · rename_i h2
      refine ⟨hi.home, hi.label, ⟨fun h => absurd h hx, fun h => absurd h hpend⟩,
        fun h => absurd h h2, fun h => absurd h (by show ¬(0 : BitVec 32) < 0; decide),
        .inr hsrc,
        fun _ => ⟨rfl, hx, rfl⟩⟩

/-! ## Interleavings -/

/-- The record, and the `telemetry_update` calls between their two critical sections,
each by the clock reading of its first. -/
structure Sys where
  st : TelemetryState
  inFlight : List (BitVec 64)

/-- One critical section of any thread. -/
inductive Step : Sys → Sys → Prop
  | enter (s : Sys) (ns : BitVec 64) (allow : Bool) :
      Step s ⟨(updateEnter s.st (secSinceBootNow ns) allow).1,
        if (updateEnter s.st (secSinceBootNow ns) allow).2 then secSinceBootNow ns :: s.inFlight
        else s.inFlight⟩
  | exit (s : Sys) (i : Fin s.inFlight.length) (a : ProviderAnswers) :
      Step s ⟨updateExit s.st (s.inFlight.get i) (detect a), s.inFlight.eraseIdx i⟩
  | setFirmware (s : Sys) (fw : Option (List UInt8)) :
      Step s ⟨telemetrySetFirmware s.st fw, s.inFlight⟩
  | buildJson (s : Sys) : Step s s

/-- The states reachable from `telemetry_init`. -/
inductive Reachable (ns : BitVec 64) : Sys → Prop
  | init : Reachable ns ⟨telemetryInit ns, []⟩
  | step {s s' : Sys} : Reachable ns s → Step s s' → Reachable ns s'

/-- **The invariant holds at every release of the lock.** In every interleaving of the
critical sections of any number of updates, `telemetry_set_firmware` and readers,
with any Provider answers and clock readings, `Inv` holds in every state reached, so
in every state a reader copies. -/
theorem inv_at_every_release (ns : BitVec 64) {s : Sys} (h : Reachable ns s) : Inv s.st := by
  induction h with
  | init => exact inv_telemetryInit ns
  | step _ hstep ih =>
    cases hstep with
    | enter ns allow => exact ih.enter _ _
    | exit i a => exact ih.exit _ _
    | setFirmware fw => exact ih.setFirmware fw
    | buildJson => exact ih

/-- Provider answers in which `pmdmnt` and `pminfo` find the title `0x0100000000010000`. -/
def hitAnswers : ProviderAnswers := ⟨0, 0x51, 0, 0x0100000000010000, 0, [], Nat.zero_le _⟩

/-- The record after one update at boot, through its two critical sections, whose
Provider finds a title: the first match is pending. -/
def afterHit : Sys :=
  ⟨updateExit (updateEnter (telemetryInit 0) (secSinceBootNow 0) true).1 (secSinceBootNow 0)
    (detect hitAnswers), []⟩

theorem inv_after_hit :
    Reachable 0 afterHit ∧ afterHit.st.pendingProgramId = 0x0100000000010000 ∧
      afterHit.st.pendingMatchCount = 1 ∧ Inv afterHit.st :=
  have h1 : Reachable 0 ⟨(updateEnter (telemetryInit 0) (secSinceBootNow 0) true).1, [secSinceBootNow 0]⟩ := by
    have h := Reachable.step (@Reachable.init 0) (.enter _ 0 true)
    rwa [if_pos (show (updateEnter (telemetryInit 0) (secSinceBootNow 0) true).2 = true by decide)] at h
  have h2 : Reachable 0 afterHit := .step h1
    (.exit ⟨(updateEnter (telemetryInit 0) (secSinceBootNow 0) true).1, [secSinceBootNow 0]⟩
      ⟨0, Nat.zero_lt_one⟩ hitAnswers)
  ⟨h2, by decide, by decide, inv_at_every_release 0 h2⟩

end RichNX.Telemetry.Invariant
