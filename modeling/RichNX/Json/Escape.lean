import RichNX.Json.Decoder

/-! # `json_escape`

`json_escape(in, out, out_size)` copies a C string into `out`, a backslash before each
quote and backslash and a space for each byte below `0x20`, and stops where fewer than
three bytes of `out` remain. Given room for twice its input it cuts nothing: what it
writes is the input with its control bytes made spaces, escaped as the JSON writer
escapes a string's body. -/
namespace RichNX.Json.Escape
open RichNX.CString RichNX.Json.Decoder

/-- The loop of `json_escape` from output index `oi`: the bytes it writes before the NUL. -/
def escapeFrom (outSize : Nat) : Nat → List UInt8 → List UInt8
  | _, [] => []
  | oi, c :: rest =>
    if c = 0 ∨ ¬oi + 2 < outSize then []
    else if c = 92 ∨ c = 34 then
      if oi + 2 ≥ outSize then [] else 92 :: c :: escapeFrom outSize (oi + 2) rest
    else if c < 32 then 32 :: escapeFrom outSize (oi + 1) rest
    else c :: escapeFrom outSize (oi + 1) rest

theorem zero_not_mem_escapeFrom (n oi : Nat) (s : List UInt8) : (0 : UInt8) ∉ escapeFrom n oi s := by
  induction s generalizing oi with
  | nil => simp [escapeFrom]
  | cons c s ih =>
    simp only [escapeFrom]
    split
    · simp
    · rename_i h
      have hc : c ≠ 0 := fun hc => h (.inl hc)
      split
      · split
        · simp
        · simp [ih, Ne.symm hc]
      · split <;> simp [ih, Ne.symm hc]

theorem escapeFrom_length_lt {n oi : Nat} (s : List UInt8) (h : oi < n) :
    oi + (escapeFrom n oi s).length < n := by
  induction s generalizing oi with
  | nil => simpa [escapeFrom]
  | cons c s ih =>
    simp only [escapeFrom]
    split
    · simpa
    · rename_i h2
      have : oi + 2 < n := by simp only [not_or, not_not] at h2; exact h2.2
      split
      · split
        · simpa
        · have := ih (show oi + 2 < n by omega); simp only [List.length_cons]; omega
      · split <;> (have hih := ih (show oi + 1 < n by omega); simp only [List.length_cons]; omega)

/-- `json_escape(in, out, n)` on a `char out[n]`. -/
def jsonEscape (inp : List UInt8) (out : CStr n) : CStr n :=
  if h : n = 0 then out
  else ⟨escapeFrom n 0 inp, zero_not_mem_escapeFrom n 0 inp,
    by simpa using escapeFrom_length_lt inp (Nat.pos_of_ne_zero h)⟩

/-- The input as `json_escape` means it: every control byte a space. -/
def sanitize (s : List UInt8) : List UInt8 := s.map fun c => if c < 32 then 32 else c

theorem printable_sanitize (s : List UInt8) : Printable (sanitize s) := by
  intro c hc
  obtain ⟨x, -, rfl⟩ := List.mem_map.mp hc
  split
  · decide
  · rename_i h
    rw [UInt8.le_def]; rw [UInt8.lt_def] at h; exact BitVec.not_lt.mp h

theorem sanitize_length (s : List UInt8) : (sanitize s).length = s.length := List.length_map _ _

/-- With room for twice the input, `json_escape` cuts nothing. -/
theorem escapeFrom_of_room {n oi : Nat} {s : List UInt8} (h0 : (0 : UInt8) ∉ s)
    (h : oi + 2 * s.length < n) : escapeFrom n oi s = escapeBody (sanitize s) := by
  induction s generalizing oi with
  | nil => rfl
  | cons c s ih =>
    have hc : c ≠ 0 := fun hc => h0 (hc ▸ List.mem_cons_self _ _)
    simp only [List.length_cons] at h
    have hrec : ∀ j ≤ oi + 2, escapeFrom n j s = escapeBody (sanitize s) := fun j hj =>
      ih (fun hm => h0 (List.mem_cons_of_mem _ hm)) (by omega)
    have hsan : sanitize (c :: s) = (if c < 32 then 32 else c) :: sanitize s := rfl
    rw [escapeFrom, if_neg (by rintro (h' | h'); exacts [hc h', h' (by omega)]), hsan,
      escapeBody_cons]
    by_cases hq : c = 92 ∨ c = 34
    · have hlt : ¬c < 32 := by rcases hq with rfl | rfl <;> decide
      rw [if_pos hq, if_neg (by omega), hrec _ le_rfl, if_neg hlt, if_pos hq.symm]
      rfl
    · rw [if_neg hq]
      by_cases hlt : c < 32
      · simp only [if_pos hlt, hrec _ (by omega : oi + 1 ≤ oi + 2)]
        rfl
      · have hq' : ¬(c = 34 ∨ c = 92) := fun h' => hq h'.symm
        simp only [if_neg hlt, hrec _ (by omega : oi + 1 ≤ oi + 2), if_neg hq']
        rfl

theorem jsonEscape_of_room (out : CStr n) {s : List UInt8} (h0 : (0 : UInt8) ∉ s)
    (h : 2 * s.length < n) : (jsonEscape s out).bytes = escapeBody (sanitize s) := by
  rw [jsonEscape, dif_neg (by omega)]
  exact escapeFrom_of_room h0 (by omega)

/-! ## The stores of `json_escape` -/

/-- `out[i] = b` in a buffer of `out.length` bytes; `none` for a store outside it. -/
def storeByte (out : List UInt8) (i : Nat) (b : UInt8) : Option (List UInt8) :=
  if i < out.length then some (out.set i b) else none

/-- The loop of `json_escape` as it stores into `out` from output index `oi`: the buffer
and `oi` where the loop stops, or `none` if a store falls outside `out`. -/
def escapeInto (outSize : Nat) : List UInt8 → Nat → List UInt8 → Option (List UInt8 × Nat)
  | out, oi, [] => some (out, oi)
  | out, oi, c :: rest =>
    if c = 0 ∨ ¬oi + 2 < outSize then some (out, oi)
    else if c = 92 ∨ c = 34 then
      if oi + 2 ≥ outSize then some (out, oi)
      else do
        let out ← storeByte out oi 92
        let out ← storeByte out (oi + 1) c
        escapeInto outSize out (oi + 2) rest
    else if c < 32 then do
      let out ← storeByte out oi 32
      escapeInto outSize out (oi + 1) rest
    else do
      let out ← storeByte out oi c
      escapeInto outSize out (oi + 1) rest

/-- `json_escape(in, out, out_size)` on the bytes of `out`: the buffer after it, or `none`
if it stores outside `out`. -/
def jsonEscapeInto (inp out : List UInt8) (outSize : Nat) : Option (List UInt8) :=
  if outSize = 0 then some out
  else do
    let r ← escapeInto outSize out 0 inp
    storeByte r.1 r.2 0

theorem storeByte_append {pre : List UInt8} {i : Nat} (h : pre.length = i) (x b : UInt8)
    (post : List UInt8) : storeByte (pre ++ x :: post) i b = some (pre ++ b :: post) := by
  subst h
  rw [storeByte, if_pos (by simp), List.set_append_right _ _ le_rfl, Nat.sub_self, List.set_cons_zero]

/-- The stores of the loop write, from `oi` on, the bytes `escapeFrom` gives, and nothing
else, as long as `out` has its `outSize` bytes. -/
theorem escapeInto_eq {n oi : Nat} (pre post s : List UInt8) (hpre : pre.length = oi)
    (hroom : n ≤ pre.length + post.length) :
    escapeInto n (pre ++ post) oi s =
      some (pre ++ escapeFrom n oi s ++ post.drop (escapeFrom n oi s).length,
        oi + (escapeFrom n oi s).length) := by
  induction s generalizing pre post oi with
  | nil => simp [escapeInto, escapeFrom]
  | cons c s ih =>
    by_cases h0 : c = 0 ∨ ¬oi + 2 < n
    · rw [escapeInto, escapeFrom, if_pos h0, if_pos h0]; simp
    have hlt : oi + 2 < n := not_not.mp fun h => h0 (.inr h)
    obtain _ | ⟨x, _ | ⟨y, post⟩⟩ := post
    · simp at hroom; omega
    · simp at hroom; omega
    simp only [List.length_cons] at hroom
    rw [escapeInto, escapeFrom, if_neg h0, if_neg h0]
    by_cases hq : c = 92 ∨ c = 34
    · rw [if_pos hq, if_pos hq, if_neg (by omega), if_neg (by omega)]
      simp only [Option.bind_eq_bind, storeByte_append hpre, Option.some_bind]
      rw [List.append_cons pre 92, storeByte_append (by simp [hpre]) y c, Option.some_bind,
        show pre ++ [92] ++ c :: post = pre ++ [92, c] ++ post by simp,
        ih (pre ++ [92, c]) post (by simp [hpre]) (by simp; omega)]
      simp [Nat.add_assoc]; omega
    have hstep : ∀ b, (storeByte (pre ++ x :: y :: post) oi b).bind
        (fun out => escapeInto n out (oi + 1) s) =
        some (pre ++ b :: escapeFrom n (oi + 1) s ++
            (x :: y :: post).drop (b :: escapeFrom n (oi + 1) s).length,
          oi + (b :: escapeFrom n (oi + 1) s).length) := fun b => by
      rw [storeByte_append hpre, Option.some_bind, List.append_cons pre b,
        ih (pre ++ [b]) (y :: post) (by simp [hpre]) (by simp; omega)]
      simp [Nat.add_assoc]; omega
    rw [if_neg hq, if_neg hq]
    by_cases hc : c < 32
    · rw [if_pos hc, if_pos hc]; exact hstep 32
    · rw [if_neg hc, if_neg hc]; exact hstep c

/-- The buffer after `json_escape`: the bytes of the loop, a NUL, and the rest of `out` as
it was. -/
theorem jsonEscapeInto_eq (inp out : List UInt8) {n : Nat} (hn : 0 < n) (hout : n ≤ out.length) :
    jsonEscapeInto inp out n =
      some (escapeFrom n 0 inp ++ 0 :: out.drop ((escapeFrom n 0 inp).length + 1)) := by
  have hlt := escapeFrom_length_lt inp hn
  rw [Nat.zero_add] at hlt
  obtain ⟨x, rest, hx⟩ : ∃ x rest, out.drop (escapeFrom n 0 inp).length = x :: rest :=
    List.exists_cons_of_ne_nil (by simp; omega)
  have h := escapeInto_eq [] out inp rfl (by simpa using hout)
  simp only [List.nil_append, List.length_nil, Nat.zero_add] at h
  rw [jsonEscapeInto, if_neg (by omega), Option.bind_eq_bind, h, Option.some_bind, hx,
    storeByte_append rfl, ← List.drop_drop, hx]
  rfl

/-! ## What `json_escape` leaves in `out` -/

/-- The escape the specification states: a backslash before each backslash and double
quote, a space for each byte below `0x20`, and every other byte as it is. -/
def escapeSpec (s : List UInt8) : List UInt8 :=
  s.flatMap fun c => if c = 92 ∨ c = 34 then [92, c] else if c < 32 then [32] else [c]

@[simp] theorem escapeSpec_nil : escapeSpec [] = [] := rfl

theorem escapeSpec_length_le (s : List UInt8) : (escapeSpec s).length ≤ 2 * s.length := by
  induction s with
  | nil => rfl
  | cons c s ih =>
    simp only [escapeSpec, List.flatMap_cons, List.length_append, List.length_cons] at ih ⊢
    split_ifs <;> simp only [List.length_cons, List.length_nil] <;> omega

/-- Where the loop stops reading a C string `s`: at its end, or once what it has written
leaves fewer than three bytes of `out`, counting from output index `oi`. -/
def EscapeStop (outSize oi : Nat) (s : List UInt8) (k : Nat) : Prop :=
  k = s.length ∨ outSize ≤ oi + (escapeSpec (s.take k)).length + 2

/-- One byte of the loop, when it goes on: its escape, then the loop from the next index. -/
theorem escapeFrom_cons {n oi : Nat} {c : UInt8} (s : List UInt8) (hc : c ≠ 0) (h : oi + 2 < n) :
    escapeFrom n oi (c :: s) = escapeSpec [c] ++ escapeFrom n (oi + (escapeSpec [c]).length) s := by
  rw [escapeFrom, if_neg (by rintro (h' | h'); exacts [hc h', h' h])]
  by_cases hq : c = 92 ∨ c = 34
  · simp [escapeSpec, hq, show ¬n ≤ oi + 2 by omega]
  · by_cases hl : c < 32 <;> simp [escapeSpec, hq, hl]

/-- The loop writes the escape of the shortest prefix at which it stops. -/
theorem escapeFrom_eq_escapeSpec (n oi : Nat) (s : List UInt8) :
    ∃ k, escapeFrom n oi s = escapeSpec ((cstr s).take k) ∧ EscapeStop n oi (cstr s) k ∧
      ∀ j < k, ¬EscapeStop n oi (cstr s) j := by
  induction s generalizing oi with
  | nil => exact ⟨0, rfl, .inl rfl, fun j hj => absurd hj (Nat.not_lt_zero _)⟩
  | cons c s ih =>
    by_cases h0 : c = 0 ∨ ¬oi + 2 < n
    · refine ⟨0, by rw [escapeFrom, if_pos h0]; rfl, ?_, fun j hj => absurd hj (Nat.not_lt_zero _)⟩
      rcases h0 with h0 | h0
      · exact .inl (by simp [cstr_cons, h0])
      · exact .inr (by simp; omega)
    have hc : c ≠ 0 := fun h => h0 (.inl h)
    have hlt : oi + 2 < n := not_not.mp fun h => h0 (.inr h)
    obtain ⟨k, hk, hstop, hmin⟩ := ih (oi + (escapeSpec [c]).length)
    have hcs : cstr (c :: s) = c :: cstr s := by rw [cstr_cons, if_neg hc]
    have htake : ∀ j, escapeSpec ((c :: cstr s).take (j + 1)) =
        escapeSpec [c] ++ escapeSpec ((cstr s).take j) := fun j => by
      simp only [List.take_succ_cons, escapeSpec, List.flatMap_cons, List.flatMap_nil, List.append_nil]
    refine ⟨k + 1, by rw [escapeFrom_cons s hc hlt, hk, hcs, htake], ?_, fun j hj => ?_⟩
    · rw [hcs]
      rcases hstop with h | h
      · exact .inl (by simp [h])
      · exact .inr (by rw [htake, List.length_append]; omega)
    · rw [hcs]
      cases j with
      | zero => rintro (h | h) <;> simp at h; omega
      | succ j =>
        rintro (h | h)
        · exact hmin j (by omega) (.inl (by simpa using h))
        · exact hmin j (by omega) (.inr (by rw [htake, List.length_append] at h; omega))

/-- **`json_escape` writes the escape of a prefix.** For every C string `in`, every
`out_size ≥ 1` and every buffer `out` of at least `out_size` bytes, `json_escape` stores
only into `out[0..out_size)`: `out` holds `E(in[0..k))` and a NUL after it, with
`|E(in[0..k))| < out_size`, and the rest of `out` as it was. `E` is the specification's
escape and `k` the least index with `k = len(in)` or `|E(in[0..k))| + 2 ≥ out_size`. So no
escape pair is split, and with `out_size > 2 * len(in)` the whole input is written. -/
theorem json_escape_writes_prefix (inp out : List UInt8) (n : Nat) (hn : 1 ≤ n) (hout : n ≤ out.length) :
    ∃ k, jsonEscapeInto inp out n =
        some (escapeSpec ((cstr inp).take k) ++
          0 :: out.drop ((escapeSpec ((cstr inp).take k)).length + 1)) ∧
      (escapeSpec ((cstr inp).take k)).length < n ∧
      EscapeStop n 0 (cstr inp) k ∧ (∀ j < k, ¬EscapeStop n 0 (cstr inp) j) ∧
      (2 * (cstr inp).length < n → k = (cstr inp).length) := by
  obtain ⟨k, hk, hstop, hmin⟩ := escapeFrom_eq_escapeSpec n 0 inp
  have hlt := escapeFrom_length_lt inp hn
  rw [hk, Nat.zero_add] at hlt
  refine ⟨k, by rw [jsonEscapeInto_eq inp out hn hout, hk], hlt, hstop, hmin, fun h2 => ?_⟩
  rcases hstop with h | h
  · exact h
  · have hk' : k ≤ (cstr inp).length := by
      by_contra hgt
      exact hmin (cstr inp).length (by omega) (.inl rfl)
    have := escapeSpec_length_le ((cstr inp).take k)
    rw [List.length_take, Nat.min_eq_left hk'] at this
    omega

/-- A quote that lands on the last free pair: `a"b` into four bytes keeps `a\"` and a NUL. -/
theorem json_escape_into_four_bytes :
    1 ≤ 4 ∧ 4 ≤ [0, 0, 0, 0].length ∧
    ∃ k, jsonEscapeInto [97, 34, 98] [0, 0, 0, 0] 4 =
        some (escapeSpec ((cstr [97, 34, 98]).take k) ++
          0 :: [0, 0, 0, 0].drop ((escapeSpec ((cstr [97, 34, 98]).take k)).length + 1)) ∧
      (escapeSpec ((cstr [97, 34, 98]).take k)).length < 4 ∧
      EscapeStop 4 0 (cstr [97, 34, 98]) k ∧ (∀ j < k, ¬EscapeStop 4 0 (cstr [97, 34, 98]) j) ∧
      (2 * (cstr [97, 34, 98]).length < 4 → k = (cstr [97, 34, 98]).length) :=
  ⟨by decide, by decide, json_escape_writes_prefix [97, 34, 98] [0, 0, 0, 0] 4 (by decide) (by decide)⟩

end RichNX.Json.Escape
