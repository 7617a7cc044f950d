import RichNX.Telemetry.Invariant

/-! # The interleaved record is a sequential one

`telemetry_update` is called by the one periodic driver of the Detection Poller, so at
most one update is between its two critical sections at a time, while
`telemetry_set_firmware` and the readers of `telemetry_build_json` interleave freely. Under that discipline every state of the
interleaving is one the sequential model `run` reaches: with no update in flight the
record is `run` of some whole calls from `telemetry_init`, and with one in flight it is
that update's first section applied to such a record, whose second section, whatever
the Provider answers, ends the same sequential call. A firmware write in the middle of
an update counts as made before it: the two touch different fields. So what is proved of
`run` (the hysteresis law, the throttle, the counters) holds of the concurrent program. -/
namespace RichNX.Telemetry.Refinement
open RichNX.Telemetry.State RichNX.Telemetry.Detect RichNX.Telemetry.Update
open RichNX.Telemetry.Invariant

/-- The critical sections as the program's threads run them: the poller begins an
update only once the previous one has left its second section. -/
inductive PollerStep : Sys → Sys → Prop
  | enter (s : Sys) (ns : BitVec 64) (allow : Bool) (h : s.inFlight = []) :
      PollerStep s ⟨(updateEnter s.st (secSinceBootNow ns) allow).1,
        if (updateEnter s.st (secSinceBootNow ns) allow).2 then secSinceBootNow ns :: s.inFlight
        else s.inFlight⟩
  | exit (s : Sys) (i : Fin s.inFlight.length) (a : ProviderAnswers) :
      PollerStep s ⟨updateExit s.st (s.inFlight.get i) (detect a), s.inFlight.eraseIdx i⟩
  | setFirmware (s : Sys) (fw : Option (List UInt8)) :
      PollerStep s ⟨telemetrySetFirmware s.st fw, s.inFlight⟩
  | buildJson (s : Sys) : PollerStep s s

inductive PollerReachable (ns : BitVec 64) : Sys → Prop
  | init : PollerReachable ns ⟨telemetryInit ns, []⟩
  | step {s s' : Sys} : PollerReachable ns s → PollerStep s s' → PollerReachable ns s'

/-! ## The sequential calls -/

theorem run_snoc (st : TelemetryState) (calls : List Call) (c : Call) :
    run st (calls ++ [c]) = c.apply (run st calls) := by
  simp [run]

/-- A Provider that answers nothing; an update stopped at the gate never asks it. -/
def silentProvider : ProviderAnswers := ⟨0, 0, 0, 0, 0, [], Nat.zero_le _⟩

/-- A firmware write commutes with the first section of an update: the gate does not
read the firmware, and the section does not write it. -/
theorem updateEnter_setFirmware (st : TelemetryState) (now : BitVec 64) (allow : Bool)
    (fw : Option (List UInt8)) :
    updateEnter (telemetrySetFirmware st fw) now allow =
      (telemetrySetFirmware (updateEnter st now allow).1 fw, (updateEnter st now allow).2) := by
  simp only [updateEnter, telemetrySetFirmware]
  split <;> rfl

/-- The second section completes the sequential call the first one began. -/
theorem updateExit_completes {st : TelemetryState} {ns : BitVec 64} {allow : Bool}
    (h : (updateEnter st (secSinceBootNow ns) allow).2 = true) (a : ProviderAnswers) :
    updateExit (updateEnter st (secSinceBootNow ns) allow).1 (secSinceBootNow ns) (detect a) =
      (Call.update ns allow a).apply st := by
  simp [Call.apply, telemetryUpdate, h]

/-- The one update in flight is the one the poller's exit section completes. -/
theorem get_eraseIdx_of_eq_singleton {α : Type} {l : List α} {x : α} (i : Fin l.length)
    (h : l = [x]) : l.get i = x ∧ l.eraseIdx i = [] := by
  subst h
  obtain ⟨_ | n, hn⟩ := i
  · exact ⟨rfl, rfl⟩
  · simp at hn

/-- What an interleaved state is in the sequential model. -/
def Sequential (ns : BitVec 64) (s : Sys) : Prop :=
  (s.inFlight = [] ∧ ∃ calls, s.st = run (telemetryInit ns) calls) ∨
  (∃ calls ns' allow, s.inFlight = [secSinceBootNow ns'] ∧
    (updateEnter (run (telemetryInit ns) calls) (secSinceBootNow ns') allow).2 = true ∧
    s.st = (updateEnter (run (telemetryInit ns) calls) (secSinceBootNow ns') allow).1)

theorem Sequential.step {ns : BitVec 64} {s s' : Sys} (hs : Sequential ns s) (h : PollerStep s s') :
    Sequential ns s' := by
  cases h with
  | enter ns' allow hin =>
    rcases hs with ⟨-, calls, hst⟩ | ⟨calls, _, _, hin', -⟩
    · rw [hst, hin]
      cases hg : (updateEnter (run (telemetryInit ns) calls) (secSinceBootNow ns') allow).2
      · refine .inl ⟨by simp, calls ++ [.update ns' allow silentProvider], ?_⟩
        simp [run_snoc, Call.apply, telemetryUpdate, hg]
      · exact .inr ⟨calls, ns', allow, by simp, hg, rfl⟩
    · rw [hin'] at hin; cases hin
  | exit i a =>
    rcases hs with ⟨hin, -⟩ | ⟨calls, ns', allow, hin, hg, hst⟩
    · exact absurd i.isLt (by simp [hin])
    · obtain ⟨hx, he⟩ := get_eraseIdx_of_eq_singleton i hin
      refine .inl ⟨he, calls ++ [.update ns' allow a], ?_⟩
      rw [hx, hst, updateExit_completes hg, run_snoc]
  | setFirmware fw =>
    rcases hs with ⟨hin, calls, hst⟩ | ⟨calls, ns', allow, hin, hg, hst⟩
    · exact .inl ⟨hin, calls ++ [.setFirmware fw], by rw [hst, run_snoc]; rfl⟩
    · refine .inr ⟨calls ++ [.setFirmware fw], ns', allow, hin, ?_, ?_⟩
      · rw [run_snoc, Call.apply, updateEnter_setFirmware]
        exact hg
      · rw [run_snoc, Call.apply, updateEnter_setFirmware, hst]
  | buildJson => exact hs

/-- **The poller's interleavings refine the sequential model.** In every interleaving of
the one poller's two critical sections with firmware writes and readers, from
`telemetry_init`: with no update in flight the record is the record `run` gives for some
sequence of whole `telemetry_set_firmware` and `telemetry_update` calls; with one update
in flight it is that update's first section applied to such a record, its gate passed,
and its second section, whatever the Provider answers, gives the record of the same
sequence extended by the whole update. -/
theorem poller_refines_run (ns : BitVec 64) {s : Sys} (h : PollerReachable ns s) :
    (s.inFlight = [] ∧ ∃ calls, s.st = run (telemetryInit ns) calls) ∨
    (∃ calls ns' allow, s.inFlight = [secSinceBootNow ns'] ∧
      s.st = (updateEnter (run (telemetryInit ns) calls) (secSinceBootNow ns') allow).1 ∧
      ∀ a, updateExit s.st (secSinceBootNow ns') (detect a) =
        run (telemetryInit ns) (calls ++ [.update ns' allow a])) := by
  have hs : Sequential ns s := by
    induction h with
    | init => exact .inl ⟨rfl, [], rfl⟩
    | step _ hstep ih => exact ih.step hstep
  rcases hs with h0 | ⟨calls, ns', allow, hin, hg, hst⟩
  · exact .inl h0
  · refine .inr ⟨calls, ns', allow, hin, hst, fun a => ?_⟩
    rw [hst, updateExit_completes hg, run_snoc]

/-- The state after the poller's first section at boot, with the query gate open. -/
def midUpdate : Sys := ⟨(updateEnter (telemetryInit 0) (secSinceBootNow 0) true).1, [secSinceBootNow 0]⟩

theorem poller_refines_run_mid_update :
    PollerReachable 0 midUpdate ∧
    ((midUpdate.inFlight = [] ∧ ∃ calls, midUpdate.st = run (telemetryInit 0) calls) ∨
    (∃ calls ns' allow, midUpdate.inFlight = [secSinceBootNow ns'] ∧
      midUpdate.st = (updateEnter (run (telemetryInit 0) calls) (secSinceBootNow ns') allow).1 ∧
      ∀ a, updateExit midUpdate.st (secSinceBootNow ns') (detect a) =
        run (telemetryInit 0) (calls ++ [.update ns' allow a]))) :=
  have h : PollerReachable 0 midUpdate := by
    have h1 := PollerReachable.step .init (PollerStep.enter ⟨telemetryInit 0, []⟩ 0 true rfl)
    rwa [if_pos (show (updateEnter (telemetryInit 0) (secSinceBootNow 0) true).2 = true by decide)] at h1
  ⟨h, poller_refines_run 0 h⟩

end RichNX.Telemetry.Refinement
