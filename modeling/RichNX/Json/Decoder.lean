import RichNX.Format

/-! # Flat JSON objects, written and read back byte by byte

Both bodies the server sends are one JSON object whose values are strings, integers
and booleans. `decodeObject` is a client's reader for such objects: it takes the
bytes one at a time, as a streaming decoder does, and refuses what is not JSON (a raw
control byte inside a string, an unknown escape, a number with a leading zero, anything
after the closing brace). It reads no whitespace between tokens, and refuses the `\u`
escape, which neither encoder writes. `writeObject` is the canonical writer, quote and
backslash escaped and nothing else; `decode_writeObject` says that the reader inverts
it, which is how the encoders' bodies are shown to be the objects they describe. -/
namespace RichNX.Json.Decoder
open RichNX.CString RichNX.Format

/-- A value of a flat object. -/
inductive Scalar
  | str (s : List UInt8)
  | num (n : Int)
  | bool (b : Bool)
  deriving DecidableEq, Repr

/-! ## The writer -/

/-- A string's body: a backslash before each quote and backslash. -/
def escapeBody (s : List UInt8) : List UInt8 :=
  s.flatMap fun c => if c = 34 ∨ c = 92 then [92, c] else [c]

def scalarText : Scalar → List UInt8
  | .str s => 34 :: escapeBody s ++ [34]
  | .num n => signedDecimal n
  | .bool b => bytesOf (if b then "true" else "false")

def memberText (m : List UInt8 × Scalar) : List UInt8 :=
  34 :: escapeBody m.1 ++ 34 :: 58 :: scalarText m.2

/-- The members, comma-separated, and the closing brace. -/
def writeMembers : List (List UInt8 × Scalar) → List UInt8
  | [] => [125]
  | [m] => memberText m ++ [125]
  | m :: ms => memberText m ++ 44 :: writeMembers ms

def writeObject (ms : List (List UInt8 × Scalar)) : List UInt8 := 123 :: writeMembers ms

/-- Bytes a JSON string may hold once quote and backslash are escaped: no control byte. -/
def Printable (s : List UInt8) : Prop := ∀ c ∈ s, 32 ≤ c

/-- A member the writer writes readably: no control byte in its key or its string. -/
def Writable (m : List UInt8 × Scalar) : Prop :=
  Printable m.1 ∧ ∀ s, m.2 = .str s → Printable s

instance : DecidablePred Printable := fun s => inferInstanceAs (Decidable (∀ c ∈ s, 32 ≤ c))

theorem Writable.str {k s : List UInt8} (hk : Printable k) (hs : Printable s) :
    Writable (k, .str s) :=
  ⟨hk, fun _ h => Scalar.str.inj h ▸ hs⟩

theorem Writable.num {k : List UInt8} (hk : Printable k) (n : Int) : Writable (k, .num n) :=
  ⟨hk, fun _ h => Scalar.noConfusion h⟩

theorem Writable.bool {k : List UInt8} (hk : Printable k) (b : Bool) : Writable (k, .bool b) :=
  ⟨hk, fun _ h => Scalar.noConfusion h⟩

@[simp] theorem escapeBody_nil : escapeBody [] = [] := rfl

theorem escapeBody_cons (c : UInt8) (s : List UInt8) :
    escapeBody (c :: s) = (if c = 34 ∨ c = 92 then [92, c] else [c]) ++ escapeBody s :=
  List.flatMap_cons _ _ _

/-- Text without quote or backslash is its own body. -/
theorem escapeBody_of_plain {s : List UInt8} (h : ∀ c ∈ s, c ≠ 34 ∧ c ≠ 92) : escapeBody s = s := by
  induction s with
  | nil => rfl
  | cons c s ih =>
    have hc := h c (List.mem_cons_self _ _)
    rw [escapeBody_cons, if_neg (by rintro (h | h) <;> simp_all),
      ih fun x hx => h x (List.mem_cons_of_mem _ hx)]
    rfl

theorem escapeBody_length_le (s : List UInt8) : (escapeBody s).length ≤ 2 * s.length := by
  induction s with
  | nil => simp
  | cons c s ih => rw [escapeBody_cons]; split <;> simp <;> omega

/-! ## The writer writes no control byte -/

theorem printable_append {a b : List UInt8} : Printable (a ++ b) ↔ Printable a ∧ Printable b :=
  List.forall_mem_append

theorem printable_cons {c : UInt8} {s : List UInt8} : Printable (c :: s) ↔ 32 ≤ c ∧ Printable s :=
  List.forall_mem_cons

theorem printable_escapeBody {s : List UInt8} (h : Printable s) : Printable (escapeBody s) := by
  induction s with
  | nil => intro _ h; cases h
  | cons c s ih =>
    rw [printable_cons] at h
    rw [escapeBody_cons, printable_append]
    refine ⟨?_, ih h.2⟩
    split
    · exact printable_cons.mpr ⟨by decide, printable_cons.mpr ⟨h.1, fun _ h => by cases h⟩⟩
    · exact printable_cons.mpr ⟨h.1, fun _ h => by cases h⟩

theorem printable_scalarText {v : Scalar} (hv : ∀ s, v = .str s → Printable s) :
    Printable (scalarText v) := by
  cases v with
  | str s =>
    exact printable_append.mpr ⟨printable_cons.mpr ⟨by decide, printable_escapeBody (hv s rfl)⟩,
      by decide⟩
  | num i =>
    intro c hc
    rcases mem_signedDecimal hc with rfl | hc
    · decide
    · exact (show ∀ c ∈ digitBytes, 32 ≤ c by decide) c hc
  | bool b => cases b <;> decide

theorem printable_memberText {m : List UInt8 × Scalar} (hm : Writable m) :
    Printable (memberText m) :=
  printable_append.mpr ⟨printable_cons.mpr ⟨by decide, printable_escapeBody hm.1⟩,
    printable_cons.mpr ⟨by decide, printable_cons.mpr ⟨by decide, printable_scalarText hm.2⟩⟩⟩

/-- Every byte of a written object is printable, so none is a NUL. -/
theorem printable_writeObject {ms : List (List UInt8 × Scalar)} (hw : ∀ m ∈ ms, Writable m) :
    Printable (writeObject ms) := by
  suffices h : Printable (writeMembers ms) from printable_cons.mpr ⟨by decide, h⟩
  induction ms with
  | nil => decide
  | cons m ms ih =>
    have hm := printable_memberText (hw m (List.mem_cons_self _ _))
    have ih' := ih fun x hx => hw x (List.mem_cons_of_mem _ hx)
    cases ms with
    | nil => exact printable_append.mpr ⟨hm, by decide⟩
    | cons m' ms => exact printable_append.mpr ⟨hm, printable_cons.mpr ⟨by decide, ih'⟩⟩

theorem zero_not_mem_of_printable {s : List UInt8} (h : Printable s) : (0 : UInt8) ∉ s :=
  fun h0 => absurd (h 0 h0) (by decide)

/-! ## The reader -/

/-- Where a string's content goes at its closing quote. -/
inductive StrCtx
  | key
  | value (k : List UInt8)

/-- The reader's place in the object; a string, a number and a literal carry what they
have read so far, and the key they are the value of. -/
inductive Pos
  | start
  | firstKey
  | nextKey
  | str (ctx : StrCtx) (acc : List UInt8) (esc : Bool)
  | colon (k : List UInt8)
  | value (k : List UInt8)
  | num (k : List UInt8) (neg : Bool) (v : Nat) (digits : Nat)
  | lit (k : List UInt8) (rest : List UInt8) (b : Bool)
  | after
  | done

structure Reader where
  members : List (List UInt8 × Scalar)
  pos : Pos

/-- The byte a two-byte escape stands for. -/
def unescape (c : UInt8) : Option UInt8 :=
  if c = 34 then some 34 else if c = 92 then some 92 else if c = 47 then some 47
  else if c = 98 then some 8 else if c = 102 then some 12 else if c = 110 then some 10
  else if c = 114 then some 13 else if c = 116 then some 9 else none

/-- After a value: a comma, or the closing brace. -/
def afterValue (ms : List (List UInt8 × Scalar)) (c : UInt8) : Option Reader :=
  if c = 44 then some ⟨ms, .nextKey⟩ else if c = 125 then some ⟨ms, .done⟩ else none

def closeStr (ms : List (List UInt8 × Scalar)) : StrCtx → List UInt8 → Reader
  | .key, acc => ⟨ms, .colon acc⟩
  | .value k, acc => ⟨ms ++ [(k, .str acc)], .after⟩

/-- A digit of a number: none may follow a leading zero. -/
def digitStep (ms : List (List UInt8 × Scalar)) (k : List UInt8) (neg : Bool) (v n : Nat)
    (c : UInt8) : Option Reader :=
  if n ≠ 0 ∧ v = 0 then none else some ⟨ms, .num k neg (10 * v + (c.toNat - 48)) (n + 1)⟩

def step : Reader → UInt8 → Option Reader
  | ⟨ms, .start⟩, c => if c = 123 then some ⟨ms, .firstKey⟩ else none
  | ⟨ms, .firstKey⟩, c =>
    if c = 34 then some ⟨ms, .str .key [] false⟩ else if c = 125 then some ⟨ms, .done⟩ else none
  | ⟨ms, .nextKey⟩, c => if c = 34 then some ⟨ms, .str .key [] false⟩ else none
  | ⟨ms, .str ctx acc false⟩, c =>
    if c = 34 then some (closeStr ms ctx acc)
    else if c = 92 then some ⟨ms, .str ctx acc true⟩
    else if c < 32 then none
    else some ⟨ms, .str ctx (acc ++ [c]) false⟩
  | ⟨ms, .str ctx acc true⟩, c => (unescape c).map fun b => ⟨ms, .str ctx (acc ++ [b]) false⟩
  | ⟨ms, .colon k⟩, c => if c = 58 then some ⟨ms, .value k⟩ else none
  | ⟨ms, .value k⟩, c =>
    if c = 34 then some ⟨ms, .str (.value k) [] false⟩
    else if c = 116 then some ⟨ms, .lit k (bytesOf "rue") true⟩
    else if c = 102 then some ⟨ms, .lit k (bytesOf "alse") false⟩
    else if c = 45 then some ⟨ms, .num k true 0 0⟩
    else if 48 ≤ c ∧ c ≤ 57 then digitStep ms k false 0 0 c
    else none
  | ⟨ms, .num k neg v n⟩, c =>
    if 48 ≤ c ∧ c ≤ 57 then digitStep ms k neg v n c
    else if n = 0 then none
    else afterValue (ms ++ [(k, .num (if neg then -(v : Int) else v))]) c
  | ⟨ms, .lit k (x :: xs) b⟩, c => if c = x then some ⟨ms, .lit k xs b⟩ else none
  | ⟨ms, .lit k [] b⟩, c => afterValue (ms ++ [(k, .bool b)]) c
  | ⟨ms, .after⟩, c => afterValue ms c
  | ⟨_, .done⟩, _ => none

/-- The reader after a run of bytes, `none` once it has refused one. -/
def feed : Reader → List UInt8 → Option Reader
  | r, [] => some r
  | r, c :: cs => (step r c).bind fun r => feed r cs

/-- The members of the one flat object `bs` holds, with nothing after it. -/
def decodeObject (bs : List UInt8) : Option (List (List UInt8 × Scalar)) :=
  match feed ⟨[], .start⟩ bs with
  | some ⟨ms, .done⟩ => some ms
  | _ => none

example : decodeObject (bytesOf "\x7b\"a\":\"x\\\"y\",\"n\":-12,\"t\":true\x7d") =
    some [(bytesOf "a", .str (bytesOf "x\"y")), (bytesOf "n", .num (-12)),
      (bytesOf "t", .bool true)] := by decide

example : decodeObject (bytesOf "\x7b\"n\":012\x7d") = none := by decide

/-! ## Reading back what the writer wrote -/

@[simp] theorem feed_nil (r : Reader) : feed r [] = some r := rfl

theorem feed_cons (r : Reader) (c : UInt8) (cs : List UInt8) :
    feed r (c :: cs) = (step r c).bind fun r => feed r cs := rfl

theorem feed_append (r : Reader) (a b : List UInt8) :
    feed r (a ++ b) = (feed r a).bind fun r => feed r b := by
  induction a generalizing r with
  | nil => rfl
  | cons c a ih => simp only [List.cons_append, feed_cons, ih, Option.bind_assoc]

theorem feed_singleton (r : Reader) (c : UInt8) : feed r [c] = step r c := by
  simp [feed_cons]

section
variable (ms : List (List UInt8 × Scalar)) (k : List UInt8)

theorem not_lt_of_le {a b : UInt8} (h : a ≤ b) : ¬b < a := by
  rw [UInt8.lt_def]; rw [UInt8.le_def] at h; exact BitVec.not_lt.mpr h

theorem feed_escapeBody (ctx : StrCtx) (acc : List UInt8) {s : List UInt8} (hs : Printable s) :
    feed ⟨ms, .str ctx acc false⟩ (escapeBody s) = some ⟨ms, .str ctx (acc ++ s) false⟩ := by
  induction s generalizing acc with
  | nil => simp
  | cons c s ih =>
    have hc : 32 ≤ c := hs c (List.mem_cons_self _ _)
    have ih' := ih (acc ++ [c]) fun x hx => hs x (List.mem_cons_of_mem _ hx)
    rw [List.append_assoc, List.singleton_append] at ih'
    rw [escapeBody_cons, feed_append]
    split
    · rename_i hq
      have : feed ⟨ms, .str ctx acc false⟩ [92, c] = some ⟨ms, .str ctx (acc ++ [c]) false⟩ := by
        rcases hq with rfl | rfl <;> rfl
      rw [this, Option.some_bind, ih']
    · rename_i hq
      have : feed ⟨ms, .str ctx acc false⟩ [c] = some ⟨ms, .str ctx (acc ++ [c]) false⟩ := by
        rw [feed_singleton, step, if_neg fun h => hq (.inl h), if_neg fun h => hq (.inr h),
          if_neg (not_lt_of_le hc)]
      rw [this, Option.some_bind, ih']

/-- A string and its closing quote. -/
theorem feed_string (ctx : StrCtx) {s : List UInt8} (hs : Printable s) (rest : List UInt8) :
    feed ⟨ms, .str ctx [] false⟩ (escapeBody s ++ 34 :: rest) = feed (closeStr ms ctx s) rest := by
  rw [show (34 : UInt8) :: rest = [34] ++ rest from rfl, feed_append, feed_escapeBody _ _ _ hs,
    Option.some_bind]
  rfl

theorem digitByte_digit : ∀ d < 10, (48 ≤ digitByte d ∧ digitByte d ≤ 57) ∧
    (digitByte d).toNat - 48 = d := by decide

theorem feed_digits (neg : Bool) {ds : List Nat} (hds : ∀ d ∈ ds, d < 10) {v : Nat} (n : Nat)
    (hv : 0 < v) :
    feed ⟨ms, .num k neg v n⟩ (ds.map digitByte) =
      some ⟨ms, .num k neg (ds.foldl (fun a d => 10 * a + d) v) (n + ds.length)⟩ := by
  induction ds generalizing v n with
  | nil => rfl
  | cons d ds ih =>
    obtain ⟨hdig, hval⟩ := digitByte_digit d (hds d (List.mem_cons_self _ _))
    have ih' := @ih (fun x hx => hds x (List.mem_cons_of_mem _ hx)) (10 * v + d) (n + 1)
      (by omega)
    rw [List.map_cons, feed_cons, step, if_pos hdig, digitStep, if_neg (by omega), hval,
      Option.some_bind, ih']
    simp only [List.foldl_cons, List.length_cons]
    congr 3; omega

theorem foldl_digits (m : Nat) : (Nat.digits 10 m).reverse.foldl (fun a d => 10 * a + d) 0 = m := by
  rw [List.foldl_reverse]
  suffices h : ∀ l : List Nat, l.foldr (fun d a => 10 * a + d) 0 = Nat.ofDigits 10 l by
    rw [h, Nat.ofDigits_digits]
  intro l
  induction l with
  | nil => rfl
  | cons d l ih => rw [List.foldr_cons, ih, Nat.ofDigits_cons]; omega

/-- The most significant of the decimal digits of a positive number is not zero. -/
theorem digits_reverse_eq_cons {m : Nat} (hm : m ≠ 0) :
    ∃ d ds, (Nat.digits 10 m).reverse = d :: ds ∧ d ≠ 0 := by
  have hne := (@Nat.digits_ne_nil_iff_ne_zero 10 m).mpr hm
  cases h : (Nat.digits 10 m).reverse with
  | nil => exact absurd (List.reverse_eq_nil_iff.mp h) hne
  | cons d ds =>
    have hd := List.head?_reverse (Nat.digits 10 m)
    rw [h, List.getLast?_eq_getLast _ hne, List.head?_cons, Option.some.injEq] at hd
    exact ⟨d, ds, rfl, hd ▸ Nat.getLast_digit_ne_zero 10 hm⟩

theorem feed_decimal (neg : Bool) (m : Nat) :
    feed ⟨ms, .num k neg 0 0⟩ (decimal m) = some ⟨ms, .num k neg m (decimal m).length⟩ := by
  unfold decimal
  split
  · subst m; rfl
  · rename_i hm
    obtain ⟨d, ds, hL, hd⟩ := digits_reverse_eq_cons hm
    have hlt : ∀ x ∈ d :: ds, x < 10 := fun x hx =>
      Nat.digits_lt_base (by norm_num) (List.mem_reverse.mp (hL ▸ hx))
    obtain ⟨hdig, hval⟩ := digitByte_digit d (hlt d (List.mem_cons_self _ _))
    have hm' := foldl_digits m
    rw [hL, List.foldl_cons, Nat.mul_zero, Nat.zero_add] at hm'
    rw [hL, List.map_cons, feed_cons, step, if_pos hdig, digitStep, if_neg (by omega), hval,
      Option.some_bind, feed_digits _ _ _ (fun x hx => hlt x (List.mem_cons_of_mem _ hx)) _
        (by omega)]
    simp only [Nat.mul_zero, Nat.zero_add, hm', List.length_map, List.length_cons]
    rw [Nat.add_comm 1]

/-- A digit read where a value starts begins a number. -/
theorem step_value_digit {c : UInt8} (hc : 48 ≤ c ∧ c ≤ 57) :
    step ⟨ms, .value k⟩ c = step ⟨ms, .num k false 0 0⟩ c := by
  have h34 : c ≠ 34 := by rintro rfl; exact absurd hc (by decide)
  have h116 : c ≠ 116 := by rintro rfl; exact absurd hc (by decide)
  have h102 : c ≠ 102 := by rintro rfl; exact absurd hc (by decide)
  have h45 : c ≠ 45 := by rintro rfl; exact absurd hc (by decide)
  simp only [step, if_neg h34, if_neg h116, if_neg h102, if_neg h45, if_pos hc]

theorem digit_of_mem_decimal : ∀ c ∈ digitBytes, 48 ≤ c ∧ c ≤ 57 := by decide

theorem feed_value_decimal (m : Nat) (rest : List UInt8) :
    feed ⟨ms, .value k⟩ (decimal m ++ rest) = feed ⟨ms, .num k false 0 0⟩ (decimal m ++ rest) := by
  cases h : decimal m with
  | nil => exact absurd h (List.ne_nil_of_length_pos (decimal_length_pos m))
  | cons c cs =>
    have hc := digit_of_mem_decimal c (mem_decimal (h ▸ List.mem_cons_self c cs))
    rw [List.cons_append, feed_cons, feed_cons, step_value_digit _ _ hc]

/-- A number ends at the comma or brace after it. -/
theorem step_num_end (neg : Bool) (v : Nat) {n : Nat} (hn : n ≠ 0) {c : UInt8}
    (hc : c = 44 ∨ c = 125) :
    step ⟨ms, .num k neg v n⟩ c =
      afterValue (ms ++ [(k, .num (if neg then -(v : Int) else v))]) c := by
  have : ¬(48 ≤ c ∧ c ≤ 57) := by rcases hc with rfl | rfl <;> decide
  simp only [step, if_neg this, if_neg hn]

theorem feed_signedDecimal (i : Int) {c : UInt8} (hc : c = 44 ∨ c = 125) :
    feed ⟨ms, .value k⟩ (signedDecimal i ++ [c]) = afterValue (ms ++ [(k, .num i)]) c := by
  have hlen := decimal_length_pos i.natAbs
  unfold signedDecimal
  split
  · rename_i hi
    rw [List.cons_append, feed_cons, show step ⟨ms, .value k⟩ 45 = some ⟨ms, .num k true 0 0⟩ from rfl,
      Option.some_bind, feed_append, feed_decimal, Option.some_bind, feed_singleton,
      step_num_end _ _ _ _ (by omega) hc, if_pos rfl, show -(i.natAbs : Int) = i by omega]
  · rename_i hi
    rw [feed_value_decimal, feed_append, feed_decimal, Option.some_bind, feed_singleton,
      step_num_end _ _ _ _ (by omega) hc, if_neg Bool.false_ne_true,
      show (i.natAbs : Int) = i by omega]

theorem feed_scalar {v : Scalar} (hv : ∀ s, v = .str s → Printable s) {c : UInt8}
    (hc : c = 44 ∨ c = 125) :
    feed ⟨ms, .value k⟩ (scalarText v ++ [c]) = afterValue (ms ++ [(k, v)]) c := by
  cases v with
  | str s =>
    simp only [scalarText, List.cons_append, List.append_assoc, List.nil_append]
    rw [feed_cons, show step ⟨ms, .value k⟩ 34 = some ⟨ms, .str (.value k) [] false⟩ from rfl,
      Option.some_bind, feed_string _ _ (hv s rfl), feed_singleton]
    rfl
  | num i => exact feed_signedDecimal _ _ i hc
  | bool b =>
    have : feed ⟨ms, .value k⟩ (scalarText (.bool b)) = some ⟨ms, .lit k [] b⟩ := by
      cases b <;> rfl
    rw [feed_append, this, Option.some_bind, feed_singleton]
    rfl

/-- A member and the comma or brace after it, read where a key may start. -/
theorem feed_member {p : Pos} (hp : p = .firstKey ∨ p = .nextKey) {m : List UInt8 × Scalar}
    (hm : Writable m) {c : UInt8} (hc : c = 44 ∨ c = 125) :
    feed ⟨ms, p⟩ (memberText m ++ [c]) = afterValue (ms ++ [m]) c := by
  have hopen : step ⟨ms, p⟩ 34 = some ⟨ms, .str .key [] false⟩ := by rcases hp with rfl | rfl <;> rfl
  simp only [memberText, List.cons_append, List.append_assoc]
  rw [feed_cons, hopen, Option.some_bind, feed_string _ _ hm.1, feed_cons,
    show step (closeStr ms .key m.1) 58 = some ⟨ms, .value m.1⟩ from rfl, Option.some_bind,
    feed_scalar _ _ hm.2 hc]

end

theorem feed_writeMembers (ms : List (List UInt8 × Scalar)) {p : Pos}
    (hp : p = .firstKey ∨ p = .nextKey) (m : List UInt8 × Scalar) (rest : List (List UInt8 × Scalar))
    (hw : ∀ x ∈ m :: rest, Writable x) :
    feed ⟨ms, p⟩ (writeMembers (m :: rest)) = some ⟨ms ++ m :: rest, .done⟩ := by
  induction rest generalizing ms p m with
  | nil => simp only [writeMembers]; rw [feed_member _ hp (hw m (List.mem_cons_self _ _)) (.inr rfl)]; rfl
  | cons m' rest ih =>
    rw [show writeMembers (m :: m' :: rest) = memberText m ++ [44] ++ writeMembers (m' :: rest)
      by simp [writeMembers], feed_append,
      feed_member _ hp (hw m (List.mem_cons_self _ _)) (.inl rfl)]
    simp only [afterValue, if_pos, Option.some_bind]
    rw [ih _ (.inr rfl) m' fun x hx => hw x (List.mem_cons_of_mem _ hx)]
    simp

/-- **The reader inverts the writer.** Every flat object whose keys and strings hold
no control byte reads back as its members, in order. -/
theorem decode_writeObject (ms : List (List UInt8 × Scalar)) (hw : ∀ m ∈ ms, Writable m) :
    decodeObject (writeObject ms) = some ms := by
  cases ms with
  | nil => rfl
  | cons m rest =>
    rw [decodeObject, writeObject, feed_cons, show step ⟨[], .start⟩ 123 = some ⟨[], .firstKey⟩ from rfl,
      Option.some_bind, feed_writeMembers _ (.inl rfl) m rest hw]
    rfl

end RichNX.Json.Decoder
