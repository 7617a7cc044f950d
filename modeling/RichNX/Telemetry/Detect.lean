import RichNX.Telemetry.State

/-! # Finding the foreground program

The part of `telemetry_update` that runs outside the lock: the primary query
through `pm:shell` and `pm:info`, then, when that finds nothing, the scan of
`svcGetProcessList` that keeps the greatest program id its filters let through.
The Provider is whatever it answers in one cycle (`ProviderAnswers`), and
`detect` returns the locals the second critical section reads.

The two mask tests of the scan admit exactly `[0x0100000000010000,
0x0100FFFFFFFFFFFF]`, which already leaves out qlaunch and the sysmodule id:
the scan picks the greatest id of that range any pid resolves to, from the
first pid that resolves to it. -/
namespace RichNX.Telemetry.Detect
open RichNX.Telemetry.State

/-- What `pminfoGetProgramId(&candidate, pid)` answered for one scanned pid. -/
structure ScanEntry where
  pid : BitVec 64
  rc : BitVec 32
  candidate : BitVec 64
  deriving DecidableEq

/-- The Provider's answers in one query cycle; each value is what the call wrote,
whatever its result code. `processList` is `pids[0..out_count)`. -/
structure ProviderAnswers where
  pmRc : BitVec 32
  shellProcessId : BitVec 64
  pminfoRc : BitVec 32
  shellProgramId : BitVec 64
  svcRc : BitVec 32
  processList : List ScanEntry
  listFits : processList.length ≤ 64
  deriving DecidableEq

/-- The locals of `telemetry_update` after the Provider calls. -/
structure Detection where
  processId : BitVec 64
  programId : BitVec 64
  pmRc : BitVec 32
  pminfoRc : BitVec 32
  nsRc : BitVec 32
  svcRc : BitVec 32
  haveProgram : Bool
  source : BitVec 32
  deriving DecidableEq

/-- The primary query. -/
def primaryQuery (a : ProviderAnswers) : Detection :=
  if a.pmRc = 0 ∧ a.shellProcessId ≠ 0 then
    if a.pminfoRc = 0 ∧ a.shellProgramId ≠ 0 then
      ⟨a.shellProcessId, a.shellProgramId, a.pmRc, a.pminfoRc, 0, 0, true, 1⟩
    else ⟨a.shellProcessId, a.shellProgramId, a.pmRc, a.pminfoRc, 0, 0, false, 0⟩
  else ⟨a.shellProcessId, 0, a.pmRc, 0, 0, 0, false, 0⟩

/-- The scan's `best`, and the locals it overwrites with the pid that gave it. -/
structure ScanBest where
  best : BitVec 64
  processId : BitVec 64
  programId : BitVec 64
  pminfoRc : BitVec 32
  deriving DecidableEq

/-- One pass of the scan loop's body. -/
def scanStep (acc : ScanBest) (e : ScanEntry) : ScanBest :=
  if e.rc ≠ 0 ∨ e.candidate = 0 then acc
  else if e.candidate &&& 0xFFFF000000000000 ≠ 0x0100000000000000 then acc
  else if e.candidate &&& 0xFFFFFFFFFFFF0000 = 0x0100000000000000 then acc
  else if e.candidate = 0x0100000000001000 then acc
  else if e.candidate = 0x00FF0000A1B2C3D4 then acc
  else if acc.best < e.candidate then ⟨e.candidate, e.pid, e.candidate, e.rc⟩
  else acc

/-- The fallback scan, entered with the primary query's locals. -/
def fallbackScan (d : Detection) (a : ProviderAnswers) : Detection :=
  let d := { d with svcRc := a.svcRc }
  if a.svcRc = 0 ∧ 0 < a.processList.length then
    let r := a.processList.foldl scanStep ⟨0, d.processId, d.programId, d.pminfoRc⟩
    let d := { d with processId := r.processId, programId := r.programId, pminfoRc := r.pminfoRc }
    if r.best ≠ 0 then { d with haveProgram := true, source := 2 } else d
  else d

/-- Both strategies, as `telemetry_update` runs them between its critical sections. -/
def detect (a : ProviderAnswers) : Detection :=
  let d := primaryQuery a
  if d.haveProgram then d else fallbackScan d a

/-- The outcome of a query cycle with these locals: the program found, if any. -/
def Detection.found (d : Detection) : Option (BitVec 64) :=
  if d.haveProgram then some d.programId else none

theorem Detection.found_of_hit {d : Detection} (h : d.haveProgram = true) : d.found = some d.programId := by
  simp [Detection.found, h]

theorem Detection.found_of_miss {d : Detection} (h : d.haveProgram = false) : d.found = none := by
  simp [Detection.found, h]

/-! ## The filters -/

/-- An id of the application range the scan's mask tests let through. -/
def InAppRange (c : BitVec 64) : Prop :=
  0x0100000000010000 ≤ c.toNat ∧ c.toNat ≤ 0x0100FFFFFFFFFFFF

instance (c : BitVec 64) : Decidable (InAppRange c) :=
  inferInstanceAs (Decidable (0x0100000000010000 ≤ c.toNat ∧ c.toNat ≤ 0x0100FFFFFFFFFFFF))

/-- A scanned pid the scan can pick: resolved, to an id of the application range. -/
def Resolves (e : ScanEntry) : Prop := e.rc = 0 ∧ InAppRange e.candidate

instance (e : ScanEntry) : Decidable (Resolves e) :=
  inferInstanceAs (Decidable (e.rc = 0 ∧ InAppRange e.candidate))

theorem and_shiftLeft_allOnes_toNat (c : BitVec 64) (k : Nat) :
    (c &&& BitVec.allOnes 64 <<< k).toNat = c.toNat / 2 ^ k * 2 ^ k := by
  rw [← BitVec.shiftLeft_ushiftRight, BitVec.toNat_shiftLeft, BitVec.toNat_ushiftRight,
    Nat.shiftLeft_eq, Nat.shiftRight_eq_div_pow]
  exact Nat.mod_eq_of_lt (Nat.lt_of_le_of_lt (Nat.div_mul_le_self _ _) c.isLt)

theorem high_mask_eq_iff (c : BitVec 64) :
    c &&& 0xFFFF000000000000 = 0x0100000000000000 ↔
      0x0100000000000000 ≤ c.toNat ∧ c.toNat < 0x0101000000000000 := by
  rw [show (0xFFFF000000000000 : BitVec 64) = BitVec.allOnes 64 <<< 48 by decide,
    BitVec.toNat_eq, and_shiftLeft_allOnes_toNat]
  simp only [BitVec.ofNat_eq_ofNat, BitVec.toNat_ofNat]
  omega

theorem low_mask_eq_iff (c : BitVec 64) :
    c &&& 0xFFFFFFFFFFFF0000 = 0x0100000000000000 ↔
      0x0100000000000000 ≤ c.toNat ∧ c.toNat < 0x0100000000010000 := by
  rw [show (0xFFFFFFFFFFFF0000 : BitVec 64) = BitVec.allOnes 64 <<< 16 by decide,
    BitVec.toNat_eq, and_shiftLeft_allOnes_toNat]
  simp only [BitVec.ofNat_eq_ofNat, BitVec.toNat_ofNat]
  omega

/-- The two mask tests admit exactly the application range. -/
theorem masks_admit_iff (c : BitVec 64) :
    (c &&& 0xFFFF000000000000 = 0x0100000000000000 ∧
      c &&& 0xFFFFFFFFFFFF0000 ≠ 0x0100000000000000) ↔ InAppRange c := by
  rw [ne_eq, high_mask_eq_iff, low_mask_eq_iff, InAppRange]
  omega

/-- Neither denylisted id is in the application range. -/
theorem ne_denylisted_of_inAppRange {c : BitVec 64} (h : InAppRange c) :
    c ≠ 0x0100000000001000 ∧ c ≠ 0x00FF0000A1B2C3D4 := by
  obtain ⟨h1, h2⟩ := h
  constructor <;> intro he <;> subst he <;> simp at h1 h2

/-- The scan loop's body, its filters folded into `Resolves`. -/
theorem scanStep_eq (acc : ScanBest) (e : ScanEntry) :
    scanStep acc e = if Resolves e ∧ acc.best < e.candidate
      then ⟨e.candidate, e.pid, e.candidate, e.rc⟩ else acc := by
  have hm := masks_admit_iff e.candidate
  have hd := @ne_denylisted_of_inAppRange e.candidate
  have hz : e.candidate = 0 → ¬InAppRange e.candidate := by
    rintro h ⟨h1, -⟩; rw [h] at h1; simp at h1
  unfold scanStep Resolves
  by_cases hin : InAppRange e.candidate
  · have hc0 : e.candidate ≠ 0 := fun h => hz h hin
    obtain ⟨hq, hs⟩ := hd hin
    obtain ⟨h1, h2⟩ := hm.mpr hin
    by_cases hr : e.rc = 0 <;>
      simp only [hr, hc0, hq, hs, h1, h2, hin, ne_eq, not_true_eq_false, not_false_eq_true, or_false,
        or_true, if_true, if_false, true_and, false_and]
  · rw [if_neg (show ¬((e.rc = 0 ∧ InAppRange e.candidate) ∧ acc.best < e.candidate) from
      fun h => hin h.1.2)]
    by_cases h0 : e.rc ≠ 0 ∨ e.candidate = 0
    · rw [if_pos h0]
    by_cases h1 : e.candidate &&& 0xFFFF000000000000 ≠ 0x0100000000000000
    · rw [if_neg h0, if_pos h1]
    rw [if_neg h0, if_neg h1, if_pos (not_not.mp fun h2 => hin (hm.mp ⟨not_not.mp h1, h2⟩))]

theorem candidate_pos_of_resolves {e : ScanEntry} (h : Resolves e) : 0 < e.candidate.toNat := by
  have := h.2.1; omega

/-- From `acc`, the scan either keeps `acc`, no resolving id being above `acc.best`, or
ends on the greatest resolving id above it, taken from the first pid resolving to it. -/
theorem foldl_scanStep (l : List ScanEntry) (acc : ScanBest) :
    (l.foldl scanStep acc = acc ∧ ∀ e ∈ l, Resolves e → e.candidate ≤ acc.best) ∨
    (∃ e ∈ l, Resolves e ∧ acc.best < e.candidate ∧
      l.foldl scanStep acc = ⟨e.candidate, e.pid, e.candidate, e.rc⟩ ∧
      (∀ e' ∈ l, Resolves e' → e'.candidate ≤ e.candidate) ∧
      l.find? (fun e' => e'.rc == 0 && e'.candidate == e.candidate) = some e) := by
  induction l generalizing acc with
  | nil => simp
  | cons x l ih =>
    simp only [BitVec.lt_def, BitVec.le_def] at ih ⊢
    rw [List.foldl_cons, scanStep_eq]
    by_cases hx : Resolves x ∧ acc.best < x.candidate
    · rw [if_pos hx]
      rw [BitVec.lt_def] at hx
      right
      rcases ih ⟨x.candidate, x.pid, x.candidate, x.rc⟩ with ⟨hr, hall⟩ | ⟨e, he, hre, hlt, hr, hall, hfind⟩
      · refine ⟨x, List.mem_cons_self _ _, hx.1, hx.2, hr, ?_, by simp [hx.1.1]⟩
        intro e' he' hre'
        rcases List.mem_cons.mp he' with rfl | h
        · exact Nat.le_refl _
        · exact hall e' h hre'
      · refine ⟨e, List.mem_cons_of_mem _ he, hre, by simp at hlt; omega, hr, ?_, ?_⟩
        · intro e' he' hre'
          rcases List.mem_cons.mp he' with rfl | h
          · simp at hlt; omega
          · exact hall e' h hre'
        · have : x.candidate ≠ e.candidate := fun h => by simp [h] at hlt
          rw [List.find?_cons_of_neg _ (by simp only [Bool.and_eq_true, beq_iff_eq]; tauto)]
          exact hfind
    · rw [if_neg hx]
      rw [BitVec.lt_def] at hx
      have hx' : Resolves x → x.candidate.toNat ≤ acc.best.toNat := fun h => by
        have := hx; simp only [h, true_and] at this; omega
      rcases ih acc with ⟨hr, hall⟩ | ⟨e, he, hre, hlt, hr, hall, hfind⟩
      · refine .inl ⟨hr, fun e' he' hre' => ?_⟩
        rcases List.mem_cons.mp he' with rfl | h
        · exact hx' hre'
        · exact hall e' h hre'
      · refine .inr ⟨e, List.mem_cons_of_mem _ he, hre, hlt, hr, fun e' he' hre' => ?_, ?_⟩
        · rcases List.mem_cons.mp he' with rfl | h
          · have := hx' hre'; omega
          · exact hall e' h hre'
        · have : ¬(x.rc = 0 ∧ x.candidate = e.candidate) := by
            rintro ⟨hrc, hc⟩
            have := hx' ⟨hrc, hc ▸ hre.2⟩
            rw [hc] at this; omega
          rw [List.find?_cons_of_neg _ (by simpa only [Bool.and_eq_true, beq_iff_eq] using this)]
          exact hfind

/-! ## The two strategies -/

/-- The primary query finds a program. -/
def PrimaryFinds (a : ProviderAnswers) : Prop :=
  a.pmRc = 0 ∧ a.shellProcessId ≠ 0 ∧ a.pminfoRc = 0 ∧ a.shellProgramId ≠ 0

instance (a : ProviderAnswers) : Decidable (PrimaryFinds a) :=
  inferInstanceAs (Decidable (a.pmRc = 0 ∧ a.shellProcessId ≠ 0 ∧ a.pminfoRc = 0 ∧ a.shellProgramId ≠ 0))

theorem primaryQuery_haveProgram (a : ProviderAnswers) :
    (primaryQuery a).haveProgram = true ↔ PrimaryFinds a := by
  unfold primaryQuery PrimaryFinds
  split_ifs <;> simp only [Bool.false_eq_true, false_iff, true_iff] <;> tauto

theorem primaryQuery_source (a : ProviderAnswers) :
    (primaryQuery a).source = if PrimaryFinds a then 1 else 0 := by
  unfold primaryQuery PrimaryFinds
  split_ifs <;> first | rfl | tauto

/-- Either the scan finds nothing, and the locals keep the primary query's
verdict, or it ends on a resolving pid whose id is the greatest any pid resolves to,
and the first pid to resolve to it. -/
theorem fallbackScan_spec (d : Detection) (a : ProviderAnswers) :
    ((fallbackScan d a).haveProgram = d.haveProgram ∧ (fallbackScan d a).source = d.source ∧
      ¬(a.svcRc = 0 ∧ ∃ e ∈ a.processList, Resolves e)) ∨
    (a.svcRc = 0 ∧ ∃ e ∈ a.processList, Resolves e ∧
      (fallbackScan d a).haveProgram = true ∧ (fallbackScan d a).source = 2 ∧
      (fallbackScan d a).programId = e.candidate ∧ (fallbackScan d a).processId = e.pid ∧
      (∀ e' ∈ a.processList, Resolves e' → e'.candidate ≤ e.candidate) ∧
      a.processList.find? (fun e' => e'.rc == 0 && e'.candidate == e.candidate) = some e) := by
  unfold fallbackScan
  by_cases hs : a.svcRc = 0 ∧ 0 < a.processList.length
  · rw [if_pos hs]
    rcases foldl_scanStep a.processList ⟨0, d.processId, d.programId, d.pminfoRc⟩ with
      ⟨hr, hall⟩ | ⟨e, he, hre, -, hr, hall, hfind⟩
    · left
      have hnone : ∀ e ∈ a.processList, ¬Resolves e := fun e he hre => by
        have := hall e he hre
        rw [BitVec.le_def] at this
        have := candidate_pos_of_resolves hre
        simp at *; omega
      simp only [hr, ne_eq, not_true_eq_false, if_false, true_and]
      exact fun ⟨_, e, he, hre⟩ => hnone e he hre
    · right
      have hb : e.candidate ≠ 0 := fun h => by
        have := candidate_pos_of_resolves hre; rw [h] at this; simp at this
      simp only [hr, ne_eq, hb, not_false_eq_true, if_true, true_and]
      exact ⟨hs.1, e, he, hre, rfl, rfl, hall, hfind⟩
  · rw [if_neg hs]
    left
    refine ⟨rfl, rfl, fun ⟨h0, e, he, _⟩ => hs ⟨h0, List.length_pos_of_mem he⟩⟩

/-- **The scan's choice.** A primary hit is published as source 1 without a scan;
otherwise the scan finds a program exactly when `svcGetProcessList` succeeds and some
pid resolves to an application id, and then it takes the greatest such id, from the
first pid resolving to it, as source 2. The explicit denylist never rejects an id the
mask tests admit. -/
theorem scan_picks_greatest_app_id (a : ProviderAnswers) :
    (PrimaryFinds a → detect a = primaryQuery a ∧ (detect a).source = 1) ∧
    (¬PrimaryFinds a →
      ((detect a).haveProgram = true ↔ a.svcRc = 0 ∧ ∃ e ∈ a.processList, Resolves e) ∧
      ((detect a).haveProgram = true →
        (detect a).source = 2 ∧
        (∃ e ∈ a.processList, Resolves e ∧ e.candidate = (detect a).programId) ∧
        (∀ e ∈ a.processList, Resolves e → e.candidate ≤ (detect a).programId) ∧
        ∃ e, a.processList.find? (fun e => e.rc == 0 && e.candidate == (detect a).programId) =
          some e ∧ (detect a).processId = e.pid)) ∧
    (∀ c : BitVec 64, (c &&& 0xFFFF000000000000 = 0x0100000000000000 ∧
        c &&& 0xFFFFFFFFFFFF0000 ≠ 0x0100000000000000) →
      c ≠ 0x0100000000001000 ∧ c ≠ 0x00FF0000A1B2C3D4) := by
  refine ⟨fun hp => ?_, fun hp => ?_, fun c hc => ne_denylisted_of_inAppRange ((masks_admit_iff c).mp hc)⟩
  · have hh := (primaryQuery_haveProgram a).mpr hp
    simp only [detect, hh, if_true, primaryQuery_source, if_pos hp, and_self]
  · have hh : (primaryQuery a).haveProgram = false :=
      Bool.eq_false_iff.mpr fun h => hp ((primaryQuery_haveProgram a).mp h)
    have hd : detect a = fallbackScan (primaryQuery a) a := by simp [detect, hh]
    rw [hd]
    rcases fallbackScan_spec (primaryQuery a) a with
      ⟨h1, -, h3⟩ | ⟨h0, e, he, hre, hh', hs, hid, hpid, hall, hfind⟩
    · rw [h1, hh]
      exact ⟨by simpa using h3, by simp⟩
    · rw [hid, hpid, hs, hh']
      exact ⟨by simpa using ⟨h0, e, he, hre⟩, fun _ => ⟨rfl, ⟨e, he, hre, rfl⟩, hall, e, hfind, rfl⟩⟩

/-- What the second critical section relies on: a found program is nonzero and comes
from one of the two strategies, and a miss records no source. -/
theorem detect_found (a : ProviderAnswers) :
    ((detect a).haveProgram = true → (detect a).programId ≠ 0 ∧
      ((detect a).source = 1 ∨ (detect a).source = 2)) ∧
    ((detect a).haveProgram = false → (detect a).source = 0) := by
  by_cases hp : PrimaryFinds a
  · have hh := (primaryQuery_haveProgram a).mpr hp
    have hd : detect a = primaryQuery a := by simp [detect, hh]
    rw [hd, hh, primaryQuery_source, if_pos hp]
    refine ⟨fun _ => ⟨?_, .inl rfl⟩, by simp⟩
    simp only [primaryQuery, if_pos (And.intro hp.1 hp.2.1), if_pos (And.intro hp.2.2.1 hp.2.2.2)]
    exact hp.2.2.2
  · have hh : (primaryQuery a).haveProgram = false :=
      Bool.eq_false_iff.mpr fun h => hp ((primaryQuery_haveProgram a).mp h)
    have hd : detect a = fallbackScan (primaryQuery a) a := by simp [detect, hh]
    rw [hd]
    rcases fallbackScan_spec (primaryQuery a) a with
      ⟨h1, h2, -⟩ | ⟨-, e, -, hre, hh', hs, hid, -⟩
    · rw [h1, h2, hh, primaryQuery_source, if_neg hp]
      simp
    · rw [hh', hs, hid]
      refine ⟨fun _ => ⟨fun h => ?_, .inr rfl⟩, by simp⟩
      have := candidate_pos_of_resolves hre
      rw [h] at this; simp at this

end RichNX.Telemetry.Detect
