import RichNX.Telemetry.Update

/-! # The hysteresis law

The pending buffer and the published answer as functions of the outcomes of the
query cycles so far: a miss clears both, a hit either extends the pending run or
starts a new one, and an answer is published at the second hit in a row. The
outcomes are kept newest first (`h`), where one more cycle is a cons; the law is
stated on the outcomes in call order, with the latest pair of equal consecutive
hits read off list positions. -/
namespace RichNX.Telemetry.Hysteresis
open RichNX.CString RichNX.Format RichNX.Telemetry.State RichNX.Telemetry.Detect
open RichNX.Telemetry.Update

/-! ## Latest pairs -/

/-- Outcomes `j - 1` and `j` (from 0) both found `x`, and no later cycle found nothing. -/
def PairAt (cs : List (Option (BitVec 64))) (j : Nat) (x : BitVec 64) : Prop :=
  0 < j ∧ cs[j - 1]? = some (some x) ∧ cs[j]? = some (some x) ∧ ∀ k, j < k → cs[k]? ≠ some none

/-- The latest such pair. -/
def LatestPair (cs : List (Option (BitVec 64))) (j : Nat) (x : BitVec 64) : Prop :=
  PairAt cs j x ∧ ∀ j' x', PairAt cs j' x' → j' ≤ j

/-- Newest first: the program of the latest pair of equal hits with no miss after it. -/
def lastPair : List (Option (BitVec 64)) → Option (BitVec 64)
  | some x :: rest => if rest.head? = some (some x) then some x else lastPair rest
  | _ => none

theorem getElem?_snoc {α : Type} (cs : List α) (c : α) (k : Nat) :
    (cs ++ [c])[k]? = if k < cs.length then cs[k]? else if k = cs.length then some c else none := by
  split_ifs with h1 h2
  · exact List.getElem?_append_left h1
  · subst h2; exact List.getElem?_concat_length cs c
  · rw [List.getElem?_eq_none_iff, List.length_append, List.length_singleton]; omega

theorem lt_length_of_pairAt {cs : List (Option (BitVec 64))} {j : Nat} {x : BitVec 64}
    (h : PairAt cs j x) : j < cs.length := by
  by_contra hj
  have := h.2.2.1
  rw [List.getElem?_eq_none (by omega)] at this
  cases this

theorem not_pairAt_snoc_none (cs : List (Option (BitVec 64))) (j : Nat) (x : BitVec 64) :
    ¬PairAt (cs ++ [none]) j x := by
  rintro ⟨-, -, h2, hk⟩
  rw [getElem?_snoc] at h2
  split_ifs at h2 with a b
  · exact hk cs.length a (List.getElem?_concat_length cs none)
  all_goals cases h2

theorem pairAt_snoc_some (cs : List (Option (BitVec 64))) (y : BitVec 64) (j : Nat) (x : BitVec 64) :
    PairAt (cs ++ [some y]) j x ↔
      PairAt cs j x ∨ (j = cs.length ∧ cs.getLast? = some (some x) ∧ y = x) := by
  constructor
  · rintro ⟨hj, h1, h2, hk⟩
    rw [getElem?_snoc] at h1 h2
    split_ifs at h2 with a b
    · refine .inl ⟨hj, by simpa [show j - 1 < cs.length by omega] using h1, h2, fun k hk' => ?_⟩
      have := hk k hk'
      rw [getElem?_snoc] at this
      split_ifs at this with c
      · exact this
      all_goals rw [List.getElem?_eq_none (by omega)]; simp
    · refine .inr ⟨b, ?_, by simpa using h2⟩
      rw [List.getLast?_eq_getElem?, ← b]
      rwa [if_pos (by omega)] at h1
  · rintro (⟨hj, h1, h2, hk⟩ | ⟨rfl, hl, rfl⟩)
    · have hlt := lt_length_of_pairAt ⟨hj, h1, h2, hk⟩
      refine ⟨hj, by rw [getElem?_snoc, if_pos (by omega)]; exact h1,
        by rw [getElem?_snoc, if_pos hlt]; exact h2, fun k hk' => ?_⟩
      rw [getElem?_snoc]
      split_ifs with a b
      · exact hk k hk'
      · simp
      · simp
    · have hpos : 0 < cs.length := by
        cases cs with
        | nil => cases hl
        | cons _ _ => simp
      refine ⟨hpos, ?_, List.getElem?_concat_length cs _, fun k hk => ?_⟩
      · rw [getElem?_snoc, if_pos (by omega), ← List.getLast?_eq_getElem?, hl]
      · rw [List.getElem?_eq_none (by simp; omega)]; simp

/-- `lastPair` of the outcomes newest first is the program of the latest pair. -/
theorem lastPair_spec (cs : List (Option (BitVec 64))) :
    (∀ x, lastPair cs.reverse = some x → ∃ j, LatestPair cs j x) ∧
    (lastPair cs.reverse = none → ∀ j x, ¬PairAt cs j x) := by
  induction cs using List.reverseRecOn with
  | nil =>
    refine ⟨(fun x h => by cases h), fun _ j x hp => ?_⟩
    exact absurd (lt_length_of_pairAt hp) (Nat.not_lt_zero _)
  | append_singleton cs c ih =>
    rw [List.reverse_append, List.reverse_singleton, List.singleton_append]
    cases c with
    | none => exact ⟨(fun x h => by cases h), fun _ => not_pairAt_snoc_none cs⟩
    | some y =>
      simp only [lastPair, List.head?_reverse]
      by_cases hl : cs.getLast? = some (some y)
      · rw [if_pos hl]
        refine ⟨fun x hx => ?_, (fun h => by cases h)⟩
        cases hx
        refine ⟨cs.length, (pairAt_snoc_some cs y _ y).mpr (.inr ⟨rfl, hl, rfl⟩), fun j' x' hp => ?_⟩
        rcases (pairAt_snoc_some cs y j' x').mp hp with hp | ⟨rfl, -, -⟩
        · exact Nat.le_of_lt (lt_length_of_pairAt hp)
        · exact Nat.le_refl _
      · rw [if_neg hl]
        have hsnoc : ∀ j x, PairAt (cs ++ [some y]) j x ↔ PairAt cs j x := fun j x => by
          rw [pairAt_snoc_some]
          exact ⟨fun h => h.elim id fun ⟨_, h', e⟩ => absurd (e ▸ h') hl, .inl⟩
        refine ⟨fun x hx => ?_, fun hn j x => (hsnoc j x).not.mpr (ih.2 hn j x)⟩
        obtain ⟨j, hp, hmax⟩ := ih.1 x hx
        exact ⟨j, (hsnoc j x).mpr hp, fun j' x' hp' => hmax j' x' ((hsnoc j' x').mp hp')⟩

/-! ## The pending buffer -/

/-- Hits of `x` at the front of the outcomes, newest first. -/
def runOf (x : BitVec 64) (h : List (Option (BitVec 64))) : Nat := (h.takeWhile (· == some x)).length

/-- Newest first: what the pending buffer holds. -/
def pendingOf : List (Option (BitVec 64)) → BitVec 64 × Nat
  | some x :: rest => (x, min 255 (runOf x (some x :: rest)))
  | _ => (0, 0)

theorem runOf_cons_self (x : BitVec 64) (h : List (Option (BitVec 64))) :
    runOf x (some x :: h) = runOf x h + 1 := by
  simp [runOf, List.takeWhile_cons]

theorem runOf_eq_zero {x : BitVec 64} {h : List (Option (BitVec 64))}
    (hne : h.head? ≠ some (some x)) : runOf x h = 0 := by
  cases h with
  | nil => rfl
  | cons c h =>
    have : (c == some x) = false := by simpa using hne
    simp [runOf, List.takeWhile_cons, this]

/-- The four fields the hysteresis writes, as the outcomes `h`, newest first, fix them. -/
structure Tracks (st : TelemetryState) (h : List (Option (BitVec 64))) : Prop where
  pending : st.pendingProgramId = (pendingOf h).1
  count : st.pendingMatchCount.toNat = (pendingOf h).2
  active : st.activeProgramId = (lastPair h).getD 0
  game : st.activeGame = ((lastPair h).map gameLabel).getD homeGame
  hits : ∀ x, some x ∈ h → x ≠ 0

theorem Tracks.congr {st st' : TelemetryState} {h : List (Option (BitVec 64))} (hT : Tracks st h)
    (h1 : st'.pendingProgramId = st.pendingProgramId)
    (h2 : st'.pendingMatchCount = st.pendingMatchCount)
    (h3 : st'.activeProgramId = st.activeProgramId) (h4 : st'.activeGame = st.activeGame) :
    Tracks st' h :=
  ⟨h1 ▸ hT.pending, h2 ▸ hT.count, h3 ▸ hT.active, h4 ▸ hT.game, hT.hits⟩

theorem Tracks.pending_eq_iff {st : TelemetryState} {h : List (Option (BitVec 64))} (hT : Tracks st h)
    {x : BitVec 64} (hx : x ≠ 0) : st.pendingProgramId = x ↔ h.head? = some (some x) := by
  rw [hT.pending]
  match h with
  | [] => exact ⟨fun e => absurd e.symm hx, fun e => by cases e⟩
  | none :: _ => exact ⟨fun e => absurd e.symm hx, fun e => by cases e⟩
  | some y :: _ => simp [pendingOf]

theorem Tracks.miss {st : TelemetryState} {h : List (Option (BitVec 64))} (hT : Tracks st h)
    {d : Detection} (hd : d.haveProgram = false) : Tracks (applyHysteresis st d) (none :: h) := by
  rw [applyHysteresis_miss _ hd]
  exact ⟨rfl, rfl, rfl, rfl, fun x hx => hT.hits x (by simpa using hx)⟩

theorem Tracks.hit {st : TelemetryState} {h : List (Option (BitVec 64))} (hT : Tracks st h)
    {d : Detection} (hd : d.haveProgram = true) (hx : d.programId ≠ 0) :
    Tracks (applyHysteresis st d) (some d.programId :: h) := by
  obtain ⟨c, hb, hc⟩ := bumpPending_eq st d.programId
  have hp := hT.pending_eq_iff hx
  have hcount : c.toNat = min 255 (runOf d.programId (some d.programId :: h)) := by
    rw [hc, runOf_cons_self]
    split
    · rename_i he
      obtain ⟨rest, rfl⟩ : ∃ rest, h = some d.programId :: rest := by
        match h, hp.mp he with
        | _ :: rest, rfl => exact ⟨rest, rfl⟩
      have hcnt : st.pendingMatchCount.toNat = min 255 (runOf d.programId rest + 1) := by
        rw [← runOf_cons_self]; exact hT.count
      rw [hcnt, runOf_cons_self]; omega
    · rw [runOf_eq_zero (fun e => ‹¬_› (hp.mpr e))]; rfl
  have hpub : 2 ≤ c ↔ h.head? = some (some d.programId) := by
    rw [BitVec.le_def, hcount, runOf_cons_self, show (2 : BitVec 8).toNat = 2 from rfl]
    by_cases he : h.head? = some (some d.programId)
    · obtain ⟨rest, rfl⟩ : ∃ rest, h = some d.programId :: rest := by
        match h, he with
        | _ :: rest, rfl => exact ⟨rest, rfl⟩
      rw [runOf_cons_self]; simp only [List.head?_cons, iff_true]; omega
    · rw [runOf_eq_zero he]; exact ⟨fun h2 => absurd h2 (by decide), fun h2 => absurd h2 he⟩
  have hits : ∀ y, some y ∈ some d.programId :: h → y ≠ 0 := fun y hy => by
    rcases List.mem_cons.mp hy with e | e
    · cases e; exact hx
    · exact hT.hits y e
  rw [applyHysteresis_hit _ hd, hb]
  unfold publishConfirmed
  split <;> rename_i h2
  · have hl : lastPair (some d.programId :: h) = some d.programId := by
      rw [lastPair, if_pos (hpub.mp h2)]
    exact ⟨rfl, hcount, by rw [hl]; rfl, by rw [hl]; rfl, hits⟩
  · have hl : lastPair (some d.programId :: h) = lastPair h := by
      rw [lastPair, if_neg (mt hpub.mpr h2)]
    exact ⟨rfl, hcount, by rw [hl]; exact hT.active, by rw [hl]; exact hT.game, hits⟩

/-! ## Runs -/

theorem tracks_telemetryInit (ns : BitVec 64) : Tracks (telemetryInit ns) [] :=
  ⟨rfl, rfl, rfl, rfl, fun _ h => by cases h⟩

theorem Tracks.step {st : TelemetryState} {h : List (Option (BitVec 64))} (hT : Tracks st h)
    (c : Call) : Tracks (c.apply st) (((c.cycle st).toList.map QueryCycle.found).reverse ++ h) := by
  rcases c.step_cases st with ⟨-, -, -, hc⟩ | ⟨-, -, -, -, -, -, hc⟩ | ⟨ns, allow, a, -, -, ha, hc⟩
  all_goals rw [hc]
  · obtain ⟨h1, h2, h3, h4⟩ := Call.hysteresis_frame hc
    exact hT.congr h1 h2 h3 h4
  · obtain ⟨h1, h2, h3, h4⟩ := Call.hysteresis_frame hc
    exact hT.congr h1 h2 h3 h4
  · rw [ha]
    have hT' : Tracks (recordQuery (updateEnter st (secSinceBootNow ns) allow).1
        (secSinceBootNow ns) (detect a)) h :=
      hT.congr (by simp [updateEnter_fst]) (by simp [updateEnter_fst])
        (by simp [updateEnter_fst]) (by simp [updateEnter_fst])
    have hf := detect_found a
    unfold updateExit
    cases hd : (detect a).haveProgram
    · simpa [Detection.found, hd] using hT'.miss hd
    · simpa [Detection.found, hd] using hT'.hit hd (hf.1 hd).1

/-- The hysteresis fields along every run from `telemetry_init`. -/
theorem tracks_run (ns : BitVec 64) (calls : List Call) :
    Tracks (run (telemetryInit ns) calls)
      ((cycles (telemetryInit ns) calls).map QueryCycle.found).reverse := by
  simpa using @run_induction (fun st _ cyc => Tracks st (cyc.map QueryCycle.found).reverse)
    (fun st _ _ c hT => by simpa using hT.step c) (telemetryInit ns) [] [] (tracks_telemetryInit ns) calls

/-- Before any query cycle, and after a miss, the pending buffer is empty. -/
theorem Tracks.pending_of_miss {st : TelemetryState} {cs : List (Option (BitVec 64))}
    (hT : Tracks st cs.reverse) (hl : cs.getLast? = none ∨ cs.getLast? = some none) :
    st.pendingProgramId = 0 ∧ st.pendingMatchCount = 0 := by
  rw [← List.head?_reverse] at hl
  have hp : pendingOf cs.reverse = (0, 0) := by
    rcases hl with hl | hl <;> match cs.reverse, hl with
      | [], _ => rfl
      | none :: _, _ => rfl
  have hpend := hT.pending
  have hcount := hT.count
  rw [hp] at hpend hcount
  exact ⟨hpend, BitVec.eq_of_toNat_eq hcount⟩

/-- After a hit of `x`, the buffer holds `x`, counted as often as the hits of `x` that end
the cycles, up to 255. -/
theorem Tracks.pending_of_hit {st : TelemetryState} {cs : List (Option (BitVec 64))}
    (hT : Tracks st cs.reverse) {x : BitVec 64} (hl : cs.getLast? = some (some x)) :
    st.pendingProgramId = x ∧
      st.pendingMatchCount.toNat = min 255 (cs.reverse.takeWhile (· == some x)).length := by
  rw [← List.head?_reverse] at hl
  obtain ⟨rest, hr⟩ : ∃ rest, cs.reverse = some x :: rest := by
    match cs.reverse, hl with
    | _ :: rest, rfl => exact ⟨rest, rfl⟩
  have hpend := hT.pending
  have hcount := hT.count
  rw [hr] at hpend hcount
  exact ⟨hpend, by rw [hcount, hr]; rfl⟩

/-- The published program is that of the latest pair of equal hits, labelled by its id, or
`HOME` and 0 when the cycles hold no such pair. -/
theorem Tracks.active_of_latestPair {st : TelemetryState} {cs : List (Option (BitVec 64))}
    (hT : Tracks st cs.reverse) :
    (∃ j, LatestPair cs j st.activeProgramId ∧
        st.activeGame.bytes = bytesOf "0x" ++ hexFixed 16 st.activeProgramId.toNat) ∨
      ((∀ j x, ¬PairAt cs j x) ∧ st.activeProgramId = 0 ∧ st.activeGame.bytes = bytesOf "HOME") := by
  have ha := hT.active
  have hg := hT.game
  obtain ⟨hsome, hnone⟩ := lastPair_spec cs
  cases hl : lastPair cs.reverse with
  | some x =>
    rw [hl] at ha hg
    obtain ⟨j, hj⟩ := hsome x hl
    refine .inl ⟨j, ?_, ?_⟩
    · rw [ha]; exact hj
    · rw [hg, ha]; exact gameLabel_bytes x
  | none =>
    rw [hl] at ha hg
    exact .inr ⟨hnone hl, ha, by rw [hg]; exact homeGame_bytes⟩

/-- **The hysteresis law.** After any run from `telemetry_init`, the pending buffer
holds the last outcome and the length of its run (capped at 255), or nothing after a
miss; the published answer is the program of the latest pair of equal consecutive
hits with no miss after it, or the `HOME` sentinel when there is none; and a call
without a query cycle changes none of the four. -/
theorem hysteresis_law (ns : BitVec 64) (calls : List Call) :
    let st := run (telemetryInit ns) calls
    let cs := (cycles (telemetryInit ns) calls).map QueryCycle.found
    ((cs.getLast? = none ∨ cs.getLast? = some none) →
      st.pendingProgramId = 0 ∧ st.pendingMatchCount = 0) ∧
    (∀ x, cs.getLast? = some (some x) → st.pendingProgramId = x ∧
      st.pendingMatchCount.toNat = min 255 (cs.reverse.takeWhile (· == some x)).length) ∧
    ((∃ j, LatestPair cs j st.activeProgramId ∧
        st.activeGame.bytes = bytesOf "0x" ++ hexFixed 16 st.activeProgramId.toNat) ∨
      ((∀ j x, ¬PairAt cs j x) ∧ st.activeProgramId = 0 ∧ st.activeGame.bytes = bytesOf "HOME")) ∧
    (∀ (st' : TelemetryState) (c : Call), c.cycle st' = none →
      (c.apply st').pendingProgramId = st'.pendingProgramId ∧
      (c.apply st').pendingMatchCount = st'.pendingMatchCount ∧
      (c.apply st').activeProgramId = st'.activeProgramId ∧
      (c.apply st').activeGame = st'.activeGame) := by
  intro st cs
  have hT : Tracks st cs.reverse := tracks_run ns calls
  exact ⟨hT.pending_of_miss, fun _ => hT.pending_of_hit, hT.active_of_latestPair,
    fun _ _ => Call.hysteresis_frame⟩

end RichNX.Telemetry.Hysteresis
