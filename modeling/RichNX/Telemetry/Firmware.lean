import RichNX.Telemetry.State

/-! # The firmware text

`telemetry_set_firmware` stores the firmware text with `copy_utf8_trunc`, which copies
`strnlen(src, 31)` bytes and a NUL into `char firmware[32]`. It counts bytes, not
characters. Valid UTF-8 is taken here as what Lean's `String.utf8EncodeChar` writes for a
list of Unicode scalar values; a prefix of such a text is UTF-8 exactly when it ends on a
character boundary, the text's end or a byte that is not a continuation byte. So the stored
text is the longest prefix of at most 31 bytes that ends on a boundary, and is UTF-8,
exactly when the 31st byte is the last of a character; otherwise it keeps the first bytes
of the character that straddles the cut. -/
namespace RichNX.Telemetry.Firmware
open RichNX.CString RichNX.Telemetry.State

/-! ## UTF-8 -/

/-- A continuation byte, `10xxxxxx`: the second, third or fourth byte of a character. -/
def IsCont (b : UInt8) : Prop := 0x80 ≤ b.toNat ∧ b.toNat < 0xC0

instance : DecidablePred IsCont := fun _ => inferInstanceAs (Decidable (_ ∧ _))

/-- The length of a character, read from its first byte. -/
def leadLen (b : UInt8) : Nat :=
  if b.toNat < 0x80 then 1 else if b.toNat < 0xE0 then 2 else if b.toNat < 0xF0 then 3 else 4

/-- A byte the encoder builds as `x &&& m ||| k`, with `m` and `k` disjoint, lies in
`[k, k + m]`. -/
theorem masked_toNat (x : UInt8) {m k : UInt8} {M K : Nat} (hm : m.toNat = M) (hk : k.toNat = K)
    (h : m &&& k = 0) (hmk : M + K < 256) :
    K ≤ (x &&& m ||| k).toNat ∧ (x &&& m ||| k).toNat ≤ M + K := by
  subst hm hk
  have hand : (x &&& m).toNat ≤ m.toNat := by rw [UInt8.and_toNat]; exact Nat.and_le_right
  have hor : (x &&& m ||| k).toBitVec = (x &&& m).toBitVec + k.toBitVec :=
    (BitVec.add_eq_or_of_and_eq_zero _ _ (by
      rw [show (x &&& m).toBitVec = x.toBitVec &&& m.toBitVec from rfl, BitVec.and_assoc,
        show m.toBitVec &&& k.toBitVec = (m &&& k).toBitVec from rfl, h]; exact BitVec.and_zero)).symm
  have : (x &&& m ||| k).toNat = (x &&& m).toNat + k.toNat := by
    rw [UInt8.toNat, hor, BitVec.toNat_add, Nat.mod_eq_of_lt]
    · rfl
    · show (x &&& m).toNat + k.toNat < 2 ^ 8; omega
  omega

theorem cont_mask (x : UInt8) : IsCont (x &&& 0x3f ||| 0x80) := by
  have := masked_toNat x (m := 0x3f) (k := 0x80) (M := 63) (K := 128) rfl rfl (by decide) (by decide)
  exact ⟨this.1, by omega⟩

/-- What the encoder writes for a character: a first byte that is no continuation byte and
gives the length, then continuation bytes. -/
theorem utf8EncodeChar_shape (c : Char) : ∃ a rest, String.utf8EncodeChar c = a :: rest ∧
    ¬IsCont a ∧ leadLen a = rest.length + 1 ∧ ∀ b ∈ rest, IsCont b := by
  simp only [String.utf8EncodeChar]
  by_cases h1 : c.val ≤ 0x7f
  · have hv : c.val.toNat ≤ 127 := h1
    have : c.val.toUInt8.toNat = c.val.toNat :=
      UInt8.toNat_ofNat_of_lt (by simp only [UInt8.size]; omega)
    rw [if_pos h1]
    refine ⟨_, _, rfl, ?_, ?_, by simp⟩
    · simp only [IsCont, this]; omega
    · rw [leadLen, this, if_pos (by omega)]; rfl
  rw [if_neg h1]
  by_cases h2 : c.val ≤ 0x7ff
  · have := masked_toNat (c.val >>> 6).toUInt8 (m := 0x1f) (k := 0xc0) (M := 31) (K := 192) rfl rfl
      (by decide) (by decide)
    rw [if_pos h2]
    refine ⟨_, _, rfl, ?_, ?_, by simp [cont_mask]⟩
    · simp only [IsCont]; omega
    · rw [leadLen, if_neg (by omega), if_pos (by omega)]; rfl
  rw [if_neg h2]
  by_cases h3 : c.val ≤ 0xffff
  · have := masked_toNat (c.val >>> 12).toUInt8 (m := 0x0f) (k := 0xe0) (M := 15) (K := 224) rfl rfl
      (by decide) (by decide)
    rw [if_pos h3]
    refine ⟨_, _, rfl, ?_, ?_, by simp [cont_mask]⟩
    · simp only [IsCont]; omega
    · rw [leadLen, if_neg (by omega), if_neg (by omega), if_pos (by omega)]; rfl
  · have := masked_toNat (c.val >>> 18).toUInt8 (m := 0x07) (k := 0xf0) (M := 7) (K := 240) rfl rfl
      (by decide) (by decide)
    rw [if_neg h3]
    refine ⟨_, _, rfl, ?_, ?_, by simp [cont_mask]⟩
    · simp only [IsCont]; omega
    · rw [leadLen, if_neg (by omega), if_neg (by omega), if_neg (by omega)]; rfl

/-- Valid UTF-8: the encoding of a list of Unicode scalar values. -/
def Utf8 (s : List UInt8) : Prop := ∃ cs : List Char, s = cs.flatMap String.utf8EncodeChar

/-- Offset `k` of `s` is a character boundary: the end, or a byte that is no continuation
byte. -/
def IsCharBoundary (s : List UInt8) (k : Nat) : Prop := k ≤ s.length ∧ ∀ b ∈ s[k]?, ¬IsCont b

instance (s : List UInt8) (k : Nat) : Decidable (IsCharBoundary s k) :=
  inferInstanceAs (Decidable (_ ∧ _))

theorem isCharBoundary_append (p s : List UInt8) (k : Nat) :
    IsCharBoundary (p ++ s) (p.length + k) ↔ IsCharBoundary s k := by
  simp only [IsCharBoundary, List.length_append, List.getElem?_append_right (Nat.le_add_right _ _),
    Nat.add_sub_cancel_left, Nat.add_le_add_iff_left]

/-- The prefix up to a boundary is the encoding of the first characters. -/
theorem take_of_isCharBoundary (cs : List Char) {k : Nat}
    (h : IsCharBoundary (cs.flatMap String.utf8EncodeChar) k) :
    ∃ j, (cs.flatMap String.utf8EncodeChar).take k = (cs.take j).flatMap String.utf8EncodeChar := by
  induction cs generalizing k with
  | nil => exact ⟨0, by simp⟩
  | cons c cs ih =>
    obtain ⟨a, rest, he, -, -, hcont⟩ := utf8EncodeChar_shape c
    rw [List.flatMap_cons, he] at h ⊢
    rcases Nat.lt_or_ge k (rest.length + 1) with hk | hk
    · cases k with
      | zero => exact ⟨0, by simp⟩
      | succ k =>
        have hk' : k < rest.length := by omega
        have hb : (a :: rest ++ cs.flatMap String.utf8EncodeChar)[k + 1]? = some rest[k] := by
          rw [List.cons_append, List.getElem?_cons_succ, List.getElem?_append_left hk',
            List.getElem?_eq_getElem hk']
        exact absurd (hcont _ (List.getElem_mem hk')) (h.2 _ hb)
    · obtain ⟨k, rfl⟩ := Nat.exists_eq_add_of_le hk
      obtain ⟨j, hj⟩ := ih ((isCharBoundary_append (a :: rest) _ k).mp h)
      refine ⟨j + 1, ?_⟩
      rw [show rest.length + 1 + k = (a :: rest).length + k from rfl, List.take_append, hj]
      simp [he]

/-- A prefix that is itself UTF-8 ends on a boundary: the first byte of each character
fixes its length, so the two encodings agree character by character. -/
theorem isCharBoundary_of_take (cs : List Char) {k : Nat} {ds : List Char}
    (hk : k ≤ (cs.flatMap String.utf8EncodeChar).length)
    (h : (cs.flatMap String.utf8EncodeChar).take k = ds.flatMap String.utf8EncodeChar) :
    IsCharBoundary (cs.flatMap String.utf8EncodeChar) k := by
  induction cs generalizing k ds with
  | nil => exact ⟨hk, by simp⟩
  | cons c cs ih =>
    obtain ⟨a, rest, he, ha, hlen, -⟩ := utf8EncodeChar_shape c
    rw [List.flatMap_cons, he] at h hk ⊢
    cases k with
    | zero => exact ⟨hk, by simpa using ha⟩
    | succ k =>
      obtain _ | ⟨d, ds⟩ := ds
      · simp at h
      obtain ⟨a', rest', he', -, hlen', -⟩ := utf8EncodeChar_shape d
      rw [List.flatMap_cons, he', List.cons_append, List.cons_append, List.take_succ_cons,
        List.cons.injEq] at h
      obtain ⟨rfl, h⟩ := h
      have hr : rest'.length = rest.length := by omega
      have hkr : rest.length ≤ k := by
        have := congrArg List.length h
        simp only [List.length_take, List.length_append] at this hk
        omega
      obtain ⟨k, rfl⟩ := Nat.exists_eq_add_of_le hkr
      rw [List.take_append] at h
      obtain ⟨-, h⟩ := List.append_inj h hr.symm
      have := ih (by simp only [List.length_cons, List.length_append] at hk; omega) h
      rw [show rest.length + k + 1 = (a :: rest).length + k by simp only [List.length_cons]; omega]
      exact (isCharBoundary_append (a :: rest) _ k).mpr this

/-- A prefix of a UTF-8 text is UTF-8 exactly when it ends on a character boundary. -/
theorem utf8_take_iff {s : List UInt8} (hs : Utf8 s) {k : Nat} (hk : k ≤ s.length) :
    Utf8 (s.take k) ↔ IsCharBoundary s k := by
  obtain ⟨cs, rfl⟩ := hs
  exact ⟨fun ⟨_, h⟩ => isCharBoundary_of_take cs hk h,
    fun h => let ⟨j, hj⟩ := take_of_isCharBoundary cs h; ⟨cs.take j, hj⟩⟩

/-! ## The cut at a boundary -/

/-- The greatest character boundary of `s` at or below `k`, or 0. -/
def lastBoundary (s : List UInt8) : Nat → Nat
  | 0 => 0
  | k + 1 => if IsCharBoundary s (k + 1) then k + 1 else lastBoundary s k

/-- The truncation the specification asks for: the longest prefix of at most `n` bytes
that ends on a character boundary. -/
def utf8Trunc (n : Nat) (s : List UInt8) : List UInt8 := s.take (lastBoundary s (min n s.length))

theorem lastBoundary_le (s : List UInt8) (k : Nat) : lastBoundary s k ≤ k := by
  induction k with
  | zero => rfl
  | succ k ih => simp only [lastBoundary]; split <;> omega

theorem lastBoundary_of_isCharBoundary {s : List UInt8} {k : Nat} (h : IsCharBoundary s k) :
    lastBoundary s k = k := by
  cases k with
  | zero => rfl
  | succ k => simp [lastBoundary, h]

theorem isCharBoundary_lastBoundary {s : List UInt8} (h0 : IsCharBoundary s 0) (k : Nat) :
    IsCharBoundary s (lastBoundary s k) := by
  induction k with
  | zero => exact h0
  | succ k ih => simp only [lastBoundary]; split <;> assumption

theorem take_min_length (s : List UInt8) (n : Nat) : s.take (min n s.length) = s.take n := by
  rcases le_total n s.length with h | h
  · rw [Nat.min_eq_left h]
  · rw [Nat.min_eq_right h, List.take_length, List.take_of_length_le h]

/-! ## `telemetry_set_firmware` -/

/-- **The firmware is cut by bytes.** For every UTF-8 text without NUL passed to
`telemetry_set_firmware`, the stored firmware is its first 31 bytes; it is the longest
prefix of at most 31 bytes that ends on a character boundary, and it is UTF-8, each
exactly when the text has at most 31 bytes or its 32nd byte starts a character. -/
theorem set_firmware_cut (st : TelemetryState) (s : List UInt8) (hs : Utf8 s) (h0 : (0 : UInt8) ∉ s) :
    ((telemetrySetFirmware st (some s)).firmware.bytes = utf8Trunc 31 s ↔
      IsCharBoundary s (min 31 s.length)) ∧
    (Utf8 (telemetrySetFirmware st (some s)).firmware.bytes ↔ IsCharBoundary s (min 31 s.length)) := by
  have hfw : (telemetrySetFirmware st (some s)).firmware.bytes = s.take (min 31 s.length) := by
    rw [telemetrySetFirmware, Option.getD_some, copyUtf8Trunc_bytes, cstr_of_noNul h0, take_min_length]
  have hm : min 31 s.length ≤ s.length := Nat.min_le_right _ _
  have hb0 : IsCharBoundary s 0 := (utf8_take_iff hs (Nat.zero_le _)).mp ⟨[], by simp⟩
  refine ⟨⟨fun h => ?_, fun h => ?_⟩, by rw [hfw]; exact utf8_take_iff hs hm⟩
  · rw [hfw, utf8Trunc] at h
    have hlen := congrArg List.length h
    have hle := lastBoundary_le s (min 31 s.length)
    rw [List.length_take, List.length_take] at hlen
    have : lastBoundary s (min 31 s.length) = min 31 s.length := by omega
    exact this ▸ isCharBoundary_lastBoundary hb0 _
  · rw [hfw, utf8Trunc, lastBoundary_of_isCharBoundary h]

/-- Thirty `a` and an `é` (`C3 A9`): 32 bytes, whose last character straddles the cut. -/
def eAcuteAt31 : List UInt8 := List.replicate 30 0x61 ++ [0xC3, 0xA9]

theorem set_firmware_splits_e_acute :
    Utf8 eAcuteAt31 ∧ (0 : UInt8) ∉ eAcuteAt31 ∧
    (telemetrySetFirmware (telemetryInit 0) (some eAcuteAt31)).firmware.bytes =
      List.replicate 30 0x61 ++ [0xC3] ∧
    (telemetrySetFirmware (telemetryInit 0) (some eAcuteAt31)).firmware.bytes ≠ utf8Trunc 31 eAcuteAt31 ∧
    ¬Utf8 (telemetrySetFirmware (telemetryInit 0) (some eAcuteAt31)).firmware.bytes :=
  have hs : Utf8 eAcuteAt31 := ⟨List.replicate 30 'a' ++ ['é'], by decide⟩
  have h0 : (0 : UInt8) ∉ eAcuteAt31 := by decide
  have hb : ¬IsCharBoundary eAcuteAt31 (min 31 eAcuteAt31.length) := by decide
  ⟨hs, h0, by decide, fun h => hb ((set_firmware_cut _ _ hs h0).1.mp h),
    fun h => hb ((set_firmware_cut _ _ hs h0).2.mp h)⟩

end RichNX.Telemetry.Firmware
