import RichNX.Telemetry.Update

/-! # The throttle gate

A call queries the Provider only when it is allowed to and the clock has reached
`next_query_sec`, which then moves to three seconds after the reading. The clock
reads at most `(2^64 - 1) / 10^9`, so `now + 3` never wraps, and the gate stays
ahead of every earlier cycle: any two query cycles of a run are three seconds apart,
whatever order the readings come in. -/
namespace RichNX.Telemetry.Throttle
open RichNX.Telemetry.State RichNX.Telemetry.Detect RichNX.Telemetry.Update

/-- What a call does to the gate: nothing without a query cycle, and with one, a
reading at or past the gate that moves it to three seconds later. -/
theorem nextQuerySec_step (c : Call) (st : TelemetryState) :
    (c.cycle st = none ∧ (c.apply st).nextQuerySec = st.nextQuerySec) ∨
    (∃ q, c.cycle st = some q ∧ st.nextQuerySec.toNat ≤ q.now.toNat ∧
      (c.apply st).nextQuerySec.toNat = q.now.toNat + 3) := by
  rcases c.step_cases st with ⟨fw, -, ha, hc⟩ | ⟨ns, allow, a, -, hg, ha, hc⟩ |
    ⟨ns, allow, a, -, hg, ha, hc⟩
  · exact .inl ⟨hc, by rw [ha]; rfl⟩
  · exact .inl ⟨hc, by rw [ha, updateEnter_fst, hg]; rfl⟩
  · refine .inr ⟨_, hc, ?_, ?_⟩
    · exact BitVec.le_def.mp ((updateEnter_snd _ _ _).mp hg).2
    · have := secSinceBootNow_le ns
      rw [ha, updateExit, applyHysteresis_nextQuerySec, recordQuery_nextQuerySec, updateEnter_fst,
        hg, if_pos rfl, programQueryIntervalSec]
      bv_omega

/-- Earlier cycles are three seconds apart, and all three seconds before the gate. -/
structure Spaced (st : TelemetryState) (cyc : List QueryCycle) : Prop where
  pairwise : cyc.Pairwise fun p q => p.now.toNat + 3 ≤ q.now.toNat
  gate : ∀ p ∈ cyc, p.now.toNat + 3 ≤ st.nextQuerySec.toNat

theorem Spaced.step {st : TelemetryState} {cyc : List QueryCycle} (hs : Spaced st cyc) (c : Call) :
    Spaced (c.apply st) (cyc ++ (c.cycle st).toList) := by
  rcases nextQuerySec_step c st with ⟨hc, hn⟩ | ⟨q, hc, hle, hn⟩
  · rw [hc, Option.toList_none, List.append_nil]
    exact ⟨hs.pairwise, fun p hp => hn ▸ hs.gate p hp⟩
  · rw [hc, Option.toList_some]
    refine ⟨List.pairwise_append.mpr ⟨hs.pairwise, List.pairwise_singleton _ _, ?_⟩, ?_⟩
    · intro p hp q' hq'
      rw [List.mem_singleton.mp hq']
      exact Nat.le_trans (hs.gate p hp) hle
    · intro p hp
      rcases List.mem_append.mp hp with hp | hp
      · have := hs.gate p hp; omega
      · rw [List.mem_singleton.mp hp]; omega

/-- **The throttle.** The query cycles of any run from `telemetry_init` are pairwise
three seconds apart. From any state, an update performs a query cycle exactly when it
is allowed to and its reading has reached `next_query_sec`; a call without one leaves
`next_query_sec` alone, and an update without one writes only `sample_count`,
`last_update_sec` and `detection_mode`; a call with one sets `next_query_sec` to the
reading plus three, without wraparound and past its old value. -/
theorem throttle_spaces_cycles (ns : BitVec 64) (calls : List Call) :
    (cycles (telemetryInit ns) calls).Pairwise (fun p q => p.now.toNat + 3 ≤ q.now.toNat) ∧
    ∀ (st : TelemetryState) (c : Call),
      (∀ ns' allow a, c = .update ns' allow a →
        ((c.cycle st).isSome ↔ allow = true ∧ st.nextQuerySec ≤ secSinceBootNow ns')) ∧
      (c.cycle st = none → (c.apply st).nextQuerySec = st.nextQuerySec) ∧
      (∀ q, c.cycle st = some q → (c.apply st).nextQuerySec.toNat = q.now.toNat + 3 ∧
        st.nextQuerySec.toNat < (c.apply st).nextQuerySec.toNat) ∧
      (∀ ns' allow a, c = .update ns' allow a → c.cycle st = none →
        c.apply st = { st with
          sampleCount := st.sampleCount + 1
          lastUpdateSec := secSinceBootNow ns'
          detectionMode := st.detectionMode || allow }) := by
  refine ⟨?_, fun st c => ⟨?_, ?_, ?_, ?_⟩⟩
  · have := @run_induction (fun st _ cyc => Spaced st cyc) (fun _ _ _ c h => h.step c)
      (telemetryInit ns) [] [] ⟨List.Pairwise.nil, fun _ h => by cases h⟩ calls
    exact this.pairwise
  · rintro ns' allow a rfl
    rw [← updateEnter_snd]
    simp only [Call.cycle]
    split <;> simp_all
  · intro h
    rcases nextQuerySec_step c st with ⟨-, hn⟩ | ⟨q, hc, -, -⟩
    · exact hn
    · rw [hc] at h; cases h
  · intro q h
    rcases nextQuerySec_step c st with ⟨hc, -⟩ | ⟨q', hc, hle, hn⟩
    · rw [hc] at h; cases h
    · rw [hc] at h; cases h; omega
  · rintro ns' allow a rfl h
    have hg : (updateEnter st (secSinceBootNow ns') allow).2 = false := by
      simp only [Call.cycle] at h; split at h <;> simp_all
    simp only [Call.apply, telemetryUpdate, hg, updateEnter_fst]
    rfl

end RichNX.Telemetry.Throttle
