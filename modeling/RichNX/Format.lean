import Mathlib.Data.Nat.Digits
import RichNX.CString

/-! # What `printf` prints

The conversions the two JSON encoders and the game label use: `%llu` and `%u`
(`decimal`), `%d` (`signedDecimal`), `%016llX` and `%08lX` (`hexFixed`), and the
truncation `snprintf` applies at its size argument. Each conversion prints only
digits, so a formatted text never holds a NUL and its length is bounded by the
width of the value's C type. -/
namespace RichNX.Format
open RichNX.CString

/-- The byte of the decimal digit `d`. -/
def digitByte (d : Nat) : UInt8 := (48 + d).toUInt8

/-- `%llu`, `%u`: the decimal digits of `n`, most significant first. -/
def decimal (n : Nat) : List UInt8 :=
  if n = 0 then [digitByte 0] else (Nat.digits 10 n).reverse.map digitByte

/-- `%d`. -/
def signedDecimal (i : Int) : List UInt8 :=
  if i < 0 then 45 :: decimal i.natAbs else decimal i.natAbs

/-- The byte of the uppercase hex digit `d`. -/
def hexDigit (d : Nat) : UInt8 := if d < 10 then (48 + d).toUInt8 else (55 + d).toUInt8

/-- `%0wX` on a value below `16 ^ w`: exactly `w` digits. -/
def hexFixed (w n : Nat) : List UInt8 :=
  (List.range w).reverse.map fun i => hexDigit (n / 16 ^ i % 16)

/-- The text `snprintf(out, n, ...)` leaves in `out` when the formatted text is `s`. -/
def snprintf (n : Nat) (s : List UInt8) : List UInt8 := s.take (n - 1)

/-- The decimal digit bytes, `'0'` to `'9'`. -/
def digitBytes : List UInt8 := (List.range 10).map digitByte

/-- The uppercase hex digit bytes. -/
def hexBytes : List UInt8 := (List.range 16).map hexDigit

/-! ## Alphabets and lengths -/

theorem mem_decimal {n : Nat} {c : UInt8} (h : c ∈ decimal n) : c ∈ digitBytes := by
  unfold decimal at h
  split at h
  · simp only [List.mem_singleton] at h; subst h; decide
  · obtain ⟨d, hd, rfl⟩ := List.mem_map.mp h
    exact List.mem_map.mpr ⟨d, List.mem_range.mpr
      (Nat.digits_lt_base (by norm_num) (List.mem_reverse.mp hd)), rfl⟩

theorem mem_signedDecimal {i : Int} {c : UInt8} (h : c ∈ signedDecimal i) :
    c = 45 ∨ c ∈ digitBytes := by
  unfold signedDecimal at h
  split at h
  · rcases List.mem_cons.mp h with h | h
    · exact .inl h
    · exact .inr (mem_decimal h)
  · exact .inr (mem_decimal h)

@[simp] theorem signedDecimal_natCast (n : Nat) : signedDecimal n = decimal n := by
  simp [signedDecimal]

theorem mem_hexFixed {w n : Nat} {c : UInt8} (h : c ∈ hexFixed w n) : c ∈ hexBytes := by
  obtain ⟨i, -, rfl⟩ := List.mem_map.mp h
  exact List.mem_map.mpr ⟨_, List.mem_range.mpr (Nat.mod_lt _ (by norm_num)), rfl⟩

@[simp] theorem hexFixed_length (w n : Nat) : (hexFixed w n).length = w := by
  simp [hexFixed]

theorem decimal_length_le {n k : Nat} (h : n < 10 ^ k) (hk : 0 < k) : (decimal n).length ≤ k := by
  unfold decimal
  split
  · simpa using hk
  · rename_i hn
    rw [List.length_map, List.length_reverse, Nat.digits_len 10 n (by norm_num) hn]
    exact Nat.log_lt_of_lt_pow hn h

theorem decimal_length_pos (n : Nat) : 0 < (decimal n).length := by
  unfold decimal
  split
  · simp
  · simpa [Nat.pos_iff_ne_zero] using Nat.digits_ne_nil_iff_ne_zero.mpr ‹_›

theorem signedDecimal_length_le {i : Int} {k : Nat} (h : i.natAbs < 10 ^ k) (hk : 0 < k) :
    (signedDecimal i).length ≤ k + 1 := by
  unfold signedDecimal
  split
  · simpa using decimal_length_le h hk
  · exact Nat.le_succ_of_le (decimal_length_le h hk)

/-- A 64-bit value prints in at most 20 digits. -/
theorem decimal_length_u64 (x : BitVec 64) : (decimal x.toNat).length ≤ 20 :=
  decimal_length_le (Nat.lt_of_lt_of_le x.isLt (by norm_num)) (by norm_num)

/-- A 32-bit value prints in at most 10 digits. -/
theorem decimal_length_u32 (x : BitVec 32) : (decimal x.toNat).length ≤ 10 :=
  decimal_length_le (Nat.lt_of_lt_of_le x.isLt (by norm_num)) (by norm_num)

/-- An `int` prints in at most 11 bytes. -/
theorem signedDecimal_length_i32 (x : BitVec 32) : (signedDecimal x.toInt).length ≤ 11 :=
  signedDecimal_length_le (by
    have := x.isLt
    rw [BitVec.toInt_eq_toNat_cond]; split <;> omega) (by norm_num)

/-! ## `snprintf` -/

theorem snprintf_of_length_lt {n : Nat} {s : List UInt8} (h : s.length < n) : snprintf n s = s :=
  List.take_of_length_le (by omega)

theorem snprintf_length_lt {n : Nat} (s : List UInt8) (hn : 0 < n) : (snprintf n s).length < n := by
  simp [snprintf]; omega

/-- `snprintf` into a `char[n]`, of a text without NUL. -/
def CStr.ofSnprintf {n : Nat} (s : List UInt8) (h : (0 : UInt8) ∉ s) (hn : 0 < n) : CStr n :=
  ⟨snprintf n s, fun hm => h (List.mem_of_mem_take hm), snprintf_length_lt s hn⟩

/-- A `u64` counter equal to `n` modulo `2^64` equals `n + 1` modulo `2^64` after `++`. -/
theorem toNat_succ_mod {x : BitVec 64} {n : Nat} (h : x.toNat = n % 2 ^ 64) :
    (x + 1).toNat = (n + 1) % 2 ^ 64 := by
  rw [BitVec.toNat_add, h, show (1 : BitVec 64).toNat = 1 from rfl, Nat.mod_add_mod]

end RichNX.Format
