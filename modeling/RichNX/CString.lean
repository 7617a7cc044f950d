import Mathlib.Data.List.Infix

/-! # C strings in byte arrays

The telemetry record keeps its two texts in fixed `char` arrays, and the server
matches requests with `strncmp`. A `CStr n` is what a `char[n]` holds up to its
terminator: no NUL inside and room left for one, so an unterminated array cannot
be built. A `const char*` argument is a `List UInt8` read up to its first NUL
(`cstr`); the end of the list reads as a NUL. -/
namespace RichNX.CString

/-- The bytes of an ASCII literal. -/
def bytesOf (s : String) : List UInt8 := s.toList.map Char.toUInt8

theorem bytesOf_length (s : String) : (bytesOf s).length = s.length := by
  rw [bytesOf, List.length_map]; rfl

/-- The contents of a NUL-terminated `char[n]`. -/
structure CStr (n : Nat) where
  bytes : List UInt8
  noNul : (0 : UInt8) ∉ bytes
  fits : bytes.length < n
  deriving DecidableEq

theorem CStr.size_pos (c : CStr n) : 0 < n := Nat.lt_of_le_of_lt (Nat.zero_le _) c.fits

theorem CStr.ext {a b : CStr n} (h : a.bytes = b.bytes) : a = b := by
  cases a; cases b; cases h; rfl

/-- A local `char[n]` before its first write. What it holds is never read where it
appears, a nonzero-sized buffer that `copy_utf8_trunc` or `json_escape` writes over. -/
def CStr.uninit (h : 0 < n) : CStr n := ⟨[], List.not_mem_nil _, h⟩

/-- The C string a pointer to `p` reads: the bytes before the first NUL. -/
def cstr (p : List UInt8) : List UInt8 := p.takeWhile (· != 0)

@[simp] theorem cstr_nil : cstr [] = [] := rfl

theorem cstr_cons (x : UInt8) (p : List UInt8) :
    cstr (x :: p) = if x = 0 then [] else x :: cstr p := by
  by_cases h : x = 0 <;> simp [cstr, List.takeWhile_cons, h]

theorem zero_not_mem_cstr (p : List UInt8) : (0 : UInt8) ∉ cstr p := by
  induction p with
  | nil => simp
  | cons x p ih => rw [cstr_cons]; split <;> simp_all [eq_comm]

theorem cstr_of_noNul {p : List UInt8} (h : (0 : UInt8) ∉ p) : cstr p = p := by
  induction p with
  | nil => rfl
  | cons x p ih =>
    rw [cstr_cons, if_neg (fun (hx : x = 0) => h (hx ▸ List.mem_cons_self _ _)),
      ih (fun hm => h (List.mem_cons_of_mem _ hm))]

/-- `strnlen(s, maxlen)`. -/
def strnlen (s : List UInt8) (maxlen : Nat) : Nat := min (cstr s).length maxlen

theorem take_strnlen (s : List UInt8) (k : Nat) : s.take (strnlen s k) = (cstr s).take k := by
  induction s generalizing k with
  | nil => simp [strnlen]
  | cons x s ih =>
    cases k with
    | zero => simp [strnlen]
    | succ k =>
      by_cases hx : x = 0
      · simp [strnlen, cstr_cons, hx]
      · have := ih k
        simp only [strnlen] at this
        simp [strnlen, cstr_cons, hx, Nat.succ_min_succ, this]

/-- `copy_utf8_trunc(dst, n, src)` on a `char dst[n]`, `none` for a null `src`:
`strnlen(src, n - 1)` bytes and a NUL. -/
def copyUtf8Trunc (dst : CStr n) : Option (List UInt8) → CStr n
  | none => if n = 0 then dst else ⟨[], by simp, dst.size_pos⟩
  | some src => if n = 0 then dst else
    ⟨src.take (strnlen src (n - 1)),
      by rw [take_strnlen]; exact fun h => zero_not_mem_cstr src (List.mem_of_mem_take h),
      by rw [take_strnlen, List.length_take]; have := dst.size_pos; omega⟩

theorem copyUtf8Trunc_bytes (dst : CStr n) (src : List UInt8) :
    (copyUtf8Trunc dst (some src)).bytes = (cstr src).take (n - 1) := by
  simp [copyUtf8Trunc, Nat.pos_iff_ne_zero.mp dst.size_pos, take_strnlen]

/-- Copying a string that fits leaves it whole. -/
theorem copyUtf8Trunc_of_fits (dst : CStr n) {src : List UInt8} (h : (0 : UInt8) ∉ src)
    (hn : src.length < n) : (copyUtf8Trunc dst (some src)).bytes = src := by
  rw [copyUtf8Trunc_bytes, cstr_of_noNul h, List.take_of_length_le (by omega)]

/-! ## `strncmp` -/

/-- `strncmp(a, b, k)` on unsigned bytes. -/
def strncmp : List UInt8 → List UInt8 → Nat → Int
  | _, _, 0 => 0
  | a, b, k + 1 =>
    if a.headD 0 ≠ b.headD 0 then ((a.headD 0).toNat : Int) - (b.headD 0).toNat
    else if a.headD 0 = 0 then 0
    else strncmp a.tail b.tail k

theorem toNat_sub_toNat_eq_zero {x y : UInt8} : (x.toNat : Int) - y.toNat = 0 ↔ x = y :=
  ⟨fun h => UInt8.toNat.inj (by omega), fun h => by rw [h]; omega⟩

/-- Against a pattern without NUL, `strncmp` finds exactly a prefix: a NUL in `r`
within the first `k` bytes is a mismatch like any other byte. -/
theorem strncmp_eq_zero_iff (r : List UInt8) {p : List UInt8} {k : Nat} (hp : (0 : UInt8) ∉ p)
    (hk : k ≤ p.length) : strncmp r p k = 0 ↔ p.take k <+: r := by
  induction k generalizing r p with
  | zero => simp [strncmp]
  | succ k ih =>
    obtain _ | ⟨y, p⟩ := p
    · simp at hk
    have hy : y ≠ 0 := fun h => hp (h ▸ List.mem_cons_self _ _)
    have ih' := fun r => @ih r p (fun h => hp (List.mem_cons_of_mem _ h)) (by simp at hk; omega)
    cases r with
    | nil =>
      have : y.toNat ≠ 0 := fun h => hy (UInt8.toNat.inj h)
      simp [strncmp, Ne.symm hy]; omega
    | cons x r =>
      by_cases hxy : x = y
      · subst hxy; simp [strncmp, hy, ih']
      · simp [strncmp, hxy, Ne.symm hxy, toNat_sub_toNat_eq_zero]

theorem prefix_append_nul {q r : List UInt8} (hq : (0 : UInt8) ∉ q) :
    q <+: r ++ [0] ↔ q <+: r := by
  refine ⟨fun h => ?_, fun h => h.trans (List.prefix_append r [0])⟩
  by_cases hl : q.length ≤ r.length
  · exact List.prefix_of_prefix_length_le h (List.prefix_append r [0]) hl
  · have : q = r ++ [0] := h.eq_of_length (Nat.le_antisymm h.length_le (by simp; omega))
    exact absurd (this ▸ List.mem_append_right r (List.mem_singleton_self 0)) hq

/-- A received request `r` sits in its buffer followed by the NUL the server writes. -/
theorem strncmp_request (r : List UInt8) {p : List UInt8} {k : Nat} (hp : (0 : UInt8) ∉ p)
    (hk : k ≤ p.length) : strncmp (r ++ [0]) p k = 0 ↔ p.take k <+: r := by
  rw [strncmp_eq_zero_iff _ hp hk,
    prefix_append_nul (fun h => hp (List.mem_of_mem_take h))]

end RichNX.CString
