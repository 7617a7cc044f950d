import RichNX.Telemetry.Update

/-! # The detection counters

`sample_count` counts the calls of `telemetry_update`, and the attempt, success and
fail counters count the query cycles and their two kinds of outcome, all modulo
`2^64`, so attempts are successes plus fails in `u64` arithmetic. The fail streak
counts the misses since the last hit and stops at `0xFFFFFFFF` instead of wrapping. -/
namespace RichNX.Telemetry.Counters
open RichNX.Format RichNX.Telemetry.State RichNX.Telemetry.Detect RichNX.Telemetry.Update

/-- Misses at the end of the query cycles. -/
def trailingMisses (cyc : List QueryCycle) : Nat :=
  (cyc.reverse.takeWhile (·.found.isNone)).length

/-- The counters as the calls so far and their query cycles fix them. -/
structure Counts (st : TelemetryState) (calls : List Call) (cyc : List QueryCycle) : Prop where
  samples : st.sampleCount.toNat = calls.countP Call.isUpdate % 2 ^ 64
  attempts : st.detectionAttemptCount.toNat = cyc.length % 2 ^ 64
  successes : st.detectionSuccessCount.toNat = cyc.countP (·.found.isSome) % 2 ^ 64
  fails : st.detectionFailCount.toNat = cyc.countP (·.found.isNone) % 2 ^ 64
  streak : st.detectionFailStreak.toNat = min (2 ^ 32 - 1) (trailingMisses cyc)

theorem counts_telemetryInit (ns : BitVec 64) : Counts (telemetryInit ns) [] [] :=
  ⟨rfl, rfl, rfl, rfl, rfl⟩

theorem trailingMisses_snoc (cyc : List QueryCycle) (q : QueryCycle) :
    trailingMisses (cyc ++ [q]) = if q.found.isNone then trailingMisses cyc + 1 else 0 := by
  cases h : q.found.isNone <;> simp [trailingMisses, List.takeWhile_cons, h]

/-- Every query cycle is a hit or a miss. -/
theorem length_eq_hits_add_misses (cyc : List QueryCycle) :
    cyc.length = cyc.countP (·.found.isSome) + cyc.countP (·.found.isNone) := by
  induction cyc with
  | nil => rfl
  | cons q cyc ih => cases h : q.found <;> simp [List.countP_cons, h, ih] <;> omega

theorem Counts.step {st : TelemetryState} {calls : List Call} {cyc : List QueryCycle}
    (hc : Counts st calls cyc) (c : Call) :
    Counts (c.apply st) (calls ++ [c]) (cyc ++ (c.cycle st).toList) := by
  obtain ⟨h1, h2, h3, h4, h5⟩ := hc
  rcases c.step_cases st with ⟨fw, rfl, ha, hcy⟩ | ⟨ns, allow, a, rfl, -, ha, hcy⟩ |
    ⟨ns, allow, a, rfl, -, ha, hcy⟩
  · rw [ha, hcy, Option.toList_none, List.append_nil]
    exact ⟨by rw [List.countP_append]; exact h1, h2, h3, h4, h5⟩
  · rw [ha, hcy, updateEnter_fst, Option.toList_none, List.append_nil]
    exact ⟨by rw [List.countP_append]; exact toNat_succ_mod h1, h2, h3, h4, h5⟩
  · rw [ha, hcy, Option.toList_some, updateExit, updateEnter_fst]
    have hs : (calls ++ [Call.update ns allow a]).countP Call.isUpdate = calls.countP Call.isUpdate + 1 :=
      List.countP_append _ _ _
    cases hd : (detect a).haveProgram
    · rw [recordQuery_miss _ _ hd, Detection.found_of_miss hd]
      refine ⟨?_, ?_, ?_, ?_, ?_⟩
      · rw [applyHysteresis_sampleCount, hs]; exact toNat_succ_mod h1
      · rw [applyHysteresis_detectionAttemptCount, List.length_append]; exact toNat_succ_mod h2
      · rw [applyHysteresis_detectionSuccessCount, List.countP_append]; exact h3
      · rw [applyHysteresis_detectionFailCount, List.countP_append]; exact toNat_succ_mod h4
      · simp only [applyHysteresis_detectionFailStreak, trailingMisses_snoc, Option.isNone_none,
          if_true]
        split <;> bv_omega
    · rw [recordQuery_hit _ _ hd, Detection.found_of_hit hd]
      refine ⟨?_, ?_, ?_, ?_, ?_⟩
      · rw [applyHysteresis_sampleCount, hs]; exact toNat_succ_mod h1
      · rw [applyHysteresis_detectionAttemptCount, List.length_append]; exact toNat_succ_mod h2
      · rw [applyHysteresis_detectionSuccessCount, List.countP_append]; exact toNat_succ_mod h3
      · rw [applyHysteresis_detectionFailCount, List.countP_append]; exact h4
      · rw [applyHysteresis_detectionFailStreak, trailingMisses_snoc]; rfl

/-- **The counters count.** After any run from `telemetry_init`, `sample_count` is the
number of updates, and the attempt, success and fail counters the numbers of query
cycles, hits and misses, all modulo `2^64`, so attempts equal successes plus fails in
`u64` arithmetic; the fail streak is the number of misses since the last hit, held at
`2^32 - 1`. -/
theorem counters_count_cycles (ns : BitVec 64) (calls : List Call) :
    let st := run (telemetryInit ns) calls
    let cyc := cycles (telemetryInit ns) calls
    st.sampleCount.toNat = calls.countP Call.isUpdate % 2 ^ 64 ∧
    st.detectionAttemptCount.toNat = cyc.length % 2 ^ 64 ∧
    st.detectionSuccessCount.toNat = cyc.countP (·.found.isSome) % 2 ^ 64 ∧
    st.detectionFailCount.toNat = cyc.countP (·.found.isNone) % 2 ^ 64 ∧
    st.detectionAttemptCount = st.detectionSuccessCount + st.detectionFailCount ∧
    st.detectionFailStreak.toNat =
      min (2 ^ 32 - 1) (cyc.reverse.takeWhile (·.found.isNone)).length := by
  intro st cyc
  have hc : Counts st calls cyc := by
    simpa using @run_induction Counts (fun _ _ _ c h => h.step c) (telemetryInit ns) [] []
      (counts_telemetryInit ns) calls
  refine ⟨hc.samples, hc.attempts, hc.successes, hc.fails, ?_, hc.streak⟩
  have := length_eq_hits_add_misses cyc
  have := hc.attempts; have := hc.successes; have := hc.fails
  bv_omega

end RichNX.Telemetry.Counters
