import Mathlib

/-!
# Go integer conversions

Go code moves between `*big.Int`, `int64` and `uint64` through explicit calls whose
results are fixed by the low 64 bits of the value. This module names those calls over
Lean's `Int`, `Int64` and `UInt64`, whose arithmetic wraps modulo `2^64` exactly as Go's
does, so that a model can write a Go expression conversion by conversion.

* `bigInt64 x` is `x.Int64()`, `bigUint64 x` is `x.Uint64()`, `newInt v` is `big.NewInt(v)`;
* `int64(u)` for a `uint64` is `UInt64.toInt64` and `uint64(v)` is `Int64.toUInt64`, both
  reinterpretations of the same 64 bits, as in Lean's core library.

The lemmas say when a round trip through 64 bits is the identity: always from `int64`
through `*big.Int` and back, and from a `*big.Int` through `int64` when it fits in 63 bits.
The byte strings of `Bytes` and `SetBytes` are inverse, and `SetBytes` reads a fixed-width
big-endian value back modulo its width, and `BitLen` and a fixed-width
rendering's leading zeros are both bounds on the value. `strconv.Atoi` reads decimal text
into the same 64-bit range.
-/

namespace Go

/-- `x.Int64()` for a `*big.Int`: the low 64 bits of `x` in two's complement. Go takes the
low bits of `|x|` and negates them when `x < 0`, which is the same residue modulo `2^64`. -/
def bigInt64 (x : Int) : Int64 := Int64.ofInt x

/-- `x.Uint64()` for a `*big.Int`: the low 64 bits of `|x|` (the sign is dropped). -/
def bigUint64 (x : Int) : UInt64 := UInt64.ofNat x.natAbs

/-- `big.NewInt(v)`. -/
def newInt (v : Int64) : Int := v.toInt

@[simp] theorem bigInt64_newInt (v : Int64) : bigInt64 (newInt v) = v := by
  simp [bigInt64, newInt]

theorem newInt_bigInt64_of_lt {x : Int} (h0 : -2 ^ 63 ≤ x) (h1 : x < 2 ^ 63) :
    newInt (bigInt64 x) = x :=
  Int64.toInt_ofInt_of_le h0 h1

/-- A value that fits an `int64` keeps its sign in `Int64()`. -/
theorem bigInt64_nonneg_iff {x : Int} (h0 : -2 ^ 63 ≤ x) (h1 : x < 2 ^ 63) :
    0 ≤ bigInt64 x ↔ 0 ≤ x := by
  have hint : (bigInt64 x).toInt = x := newInt_bigInt64_of_lt h0 h1
  rw [Int64.le_iff_toInt_le, hint, Int64.toInt_zero]

theorem bigInt64_pos_iff {x : Int} (h0 : -2 ^ 63 ≤ x) (h1 : x < 2 ^ 63) :
    0 < bigInt64 x ↔ 0 < x := by
  have hint : (bigInt64 x).toInt = x := newInt_bigInt64_of_lt h0 h1
  rw [Int64.lt_iff_toInt_lt, hint, Int64.toInt_zero]

/-- A non-negative value that fits a `uint64` is its own `Uint64()`. -/
theorem toNat_bigUint64_of_nonneg {x : Int} (h0 : 0 ≤ x) (h1 : x < 2 ^ 64) :
    ((bigUint64 x).toNat : Int) = x := by
  rw [bigUint64, UInt64.toNat_ofNat_of_lt' (by rw [UInt64.size]; omega)]
  omega

theorem newInt_bigInt64_natCast {n : Nat} (h : n < 2 ^ 63) : newInt (bigInt64 n) = n :=
  newInt_bigInt64_of_lt (by omega) (by exact_mod_cast h)

theorem bigInt64_natCast_succ (n : Nat) : bigInt64 ((n + 1 : Nat) : Int) = bigInt64 n + 1 := by
  simp [bigInt64]

theorem bigUint64_natCast (n : Nat) : bigUint64 n = UInt64.ofNat n := by
  simp [bigUint64]

/-- `big.NewInt(int64(x.Uint64()))` gives back a number below `2^63`. -/
theorem newInt_toInt64_bigUint64 {n : Nat} (h : n < 2 ^ 63) :
    newInt (bigUint64 n).toInt64 = n := by
  rw [bigUint64_natCast, newInt, UInt64.toInt64_ofNat']
  exact Int64.toInt_ofNat_of_lt h

/-- Two naturals below `2^64` with the same `Uint64()` are equal. -/
theorem ofNat_inj_of_lt {m n : Nat} (hm : m < 2 ^ 64) (hn : n < 2 ^ 64)
    (h : UInt64.ofNat m = UInt64.ofNat n) : m = n := by
  have := congrArg UInt64.toNat h
  rwa [UInt64.toNat_ofNat_of_lt' hm, UInt64.toNat_ofNat_of_lt' hn] at this

/-- `s[i]` on a slice: the element, or a run-time panic when `i` is out of range. The panic
ends the call, so a model reads it as an error. -/
def index {α : Type} (s : List α) (i : Nat) : Except String α :=
  match s[i]? with
  | some a => .ok a
  | none => .error "index out of range"

theorem index_eq_ok {α : Type} {s : List α} {i : Nat} {a : α} (h : s[i]? = some a) :
    index s i = .ok a := by
  simp [index, h]

theorem index_eq_ok_of_drop {α : Type} {s t : List α} {i : Nat} {a : α}
    (h : s.drop i = a :: t) : index s i = .ok a := by
  apply index_eq_ok
  rw [← Nat.add_zero i, ← List.getElem?_drop, h]
  rfl

theorem drop_succ_of_drop {α : Type} {s t : List α} {i : Nat} {a : α}
    (h : s.drop i = a :: t) : s.drop (i + 1) = t := by
  rw [← List.drop_drop, h]
  rfl

/-! ## Byte strings of a `*big.Int` -/

/-- The bytes of `n` from the most significant one, prepended to `acc`: one division by 256
per step, so `n` steps are always enough. -/
def bigBytesAux : Nat → Nat → List UInt8 → List UInt8
  | 0, _, acc => acc
  | fuel + 1, n, acc => if n = 0 then acc else bigBytesAux fuel (n / 256) (UInt8.ofNat n :: acc)

/-- `x.Bytes()` for a `*big.Int` (here `x ≥ 0`): big-endian, with no leading zero byte, and
empty for zero. -/
def bigBytes (n : Nat) : List UInt8 := bigBytesAux n n []

/-- `new(big.Int).SetBytes(buf)`: `buf` read as a big-endian unsigned integer. -/
def setBytes (buf : List UInt8) : Nat := buf.foldl (fun acc b => acc * 256 + b.toNat) 0

theorem foldl_setBytes (buf : List UInt8) (a : Nat) :
    buf.foldl (fun acc b => acc * 256 + b.toNat) a = a * 256 ^ buf.length + setBytes buf := by
  induction buf generalizing a with
  | nil => simp [setBytes]
  | cons b buf ih =>
    have hb : setBytes (b :: buf) =
        buf.foldl (fun acc b => acc * 256 + b.toNat) (0 * 256 + b.toNat) := rfl
    rw [List.foldl_cons, hb, ih, ih, List.length_cons]
    ring

theorem setBytes_cons (b : UInt8) (buf : List UInt8) :
    setBytes (b :: buf) = b.toNat * 256 ^ buf.length + setBytes buf := by
  rw [setBytes, List.foldl_cons, foldl_setBytes]
  simp

theorem setBytes_bigBytesAux : ∀ (fuel n : Nat) (acc : List UInt8), n ≤ fuel →
    setBytes (bigBytesAux fuel n acc) = n * 256 ^ acc.length + setBytes acc
  | 0, n, acc, h => by
    have : n = 0 := by omega
    simp [bigBytesAux, this]
  | fuel + 1, n, acc, h => by
    by_cases h0 : n = 0
    · simp [bigBytesAux, h0]
    · -- one byte moves from `n` to the front of `acc`
      have hdiv : n / 256 ≤ fuel := by omega
      have hbyte : (UInt8.ofNat n).toNat = n % 256 := by simp
      rw [bigBytesAux, if_neg h0, setBytes_bigBytesAux fuel _ _ hdiv, setBytes_cons, hbyte,
        List.length_cons, Nat.pow_succ]
      have hn : n = n / 256 * 256 + n % 256 := (Nat.div_add_mod' n 256).symm
      conv => rhs; rw [hn]
      ring

/-- `SetBytes` reads back what `Bytes` wrote. -/
@[simp] theorem setBytes_bigBytes (n : Nat) : setBytes (bigBytes n) = n := by
  rw [bigBytes, setBytes_bigBytesAux n n [] le_rfl]
  simp [setBytes]

theorem length_bigBytesAux_le : ∀ (fuel n : Nat) (acc : List UInt8) (k : Nat), n < 256 ^ k →
    (bigBytesAux fuel n acc).length ≤ k + acc.length
  | 0, _, acc, k, _ => by simp [bigBytesAux]
  | fuel + 1, n, acc, k, h => by
    by_cases h0 : n = 0
    · simp [bigBytesAux, h0]
    · -- a non-zero `n` below `256 ^ k` needs `k ≥ 1`, and `n / 256` is below `256 ^ (k - 1)`
      cases k with
      | zero =>
        rw [Nat.pow_zero] at h
        omega
      | succ k =>
        have hdiv : n / 256 < 256 ^ k := by
          rw [Nat.div_lt_iff_lt_mul (by norm_num), ← Nat.pow_succ]
          exact h
        have ih := length_bigBytesAux_le fuel (n / 256) (UInt8.ofNat n :: acc) k hdiv
        rw [bigBytesAux, if_neg h0]
        rw [List.length_cons] at ih
        omega

/-- A number below `256 ^ k` has at most `k` bytes. -/
theorem length_bigBytes_le {n k : Nat} (h : n < 256 ^ k) : (bigBytes n).length ≤ k := by
  simpa [bigBytes] using length_bigBytesAux_le n n [] k h

theorem setBytes_append_singleton (buf : List UInt8) (b : UInt8) :
    setBytes (buf ++ [b]) = setBytes buf * 256 + b.toNat := by
  rw [setBytes, List.foldl_append]
  rfl

/-- `n` written into `m` big-endian bytes, as a fixed-size value such as a `gethcommon.Hash`
is: the bytes of `n % 256 ^ m`, leading zeros included. -/
def fixedBytes (m n : Nat) : List UInt8 :=
  (List.range m).map fun k => UInt8.ofNat (n / 256 ^ (m - 1 - k))

/-- `SetBytes` reads a fixed-size value back modulo its width. -/
theorem setBytes_fixedBytes (m n : Nat) : setBytes (fixedBytes m n) = n % 256 ^ m := by
  induction m generalizing n with
  | zero => simp [fixedBytes, setBytes, Nat.mod_one]
  | succ m ih =>
    -- the last byte is `n % 256`, and the bytes before it are those of `n / 256`
    have hinit : (List.range m).map (fun k => UInt8.ofNat (n / 256 ^ (m + 1 - 1 - k))) =
        fixedBytes m (n / 256) := by
      unfold fixedBytes
      apply List.map_congr_left
      intro k hk
      have hexp : m + 1 - 1 - k = (m - 1 - k) + 1 := by
        have := List.mem_range.mp hk
        omega
      rw [hexp, Nat.pow_succ', Nat.div_div_eq_div_mul]
    have hlast : (UInt8.ofNat (n / 256 ^ (m + 1 - 1 - m))).toNat = n % 256 := by simp
    rw [fixedBytes, List.range_succ, List.map_append, hinit, List.map_singleton,
      setBytes_append_singleton, ih, hlast, Nat.pow_succ', Nat.mod_mul]
    ring

/-! ## Lengths and digits -/

/-- `x.BitLen()` for a `*big.Int` (here `x ≥ 0`): the number of bits of `x`, `0` for zero. -/
def bitLen (n : Nat) : Nat := if n = 0 then 0 else n.log2 + 1

theorem bitLen_le_iff {n k : Nat} : bitLen n ≤ k ↔ n < 2 ^ k := by
  unfold bitLen
  split
  · subst n
    simp
  · rw [Nat.add_one_le_iff, Nat.log2_lt ‹n ≠ 0›]

theorem lt_bitLen_iff {n k : Nat} : k < bitLen n ↔ 2 ^ k ≤ n := by
  rw [← not_le, bitLen_le_iff, not_lt]

/-- Of the `m` base-`b` digits of `n < b ^ m`, most significant first, the leading `j` are zero
exactly when `n < b ^ (m - j)`. A fixed-width hex or decimal rendering starts with `j` zeros
on that condition. -/
theorem leadingDigits_zero_iff {b m n : Nat} (hb : 0 < b) (hn : n < b ^ m) :
    ∀ j ≤ m, (∀ k < j, n / b ^ (m - 1 - k) % b = 0) ↔ n < b ^ (m - j)
  | 0, _ => by simpa using hn
  | j + 1, hj => by
    have ih := leadingDigits_zero_iff hb hn j (by omega)
    -- the digit at position `j` is the quotient by `b ^ (m - 1 - j)`, below `b` by the others
    have hpow : b ^ (m - j) = b * b ^ (m - 1 - j) := by
      rw [← Nat.pow_succ']
      congr 1
      omega
    have hpos : 0 < b ^ (m - 1 - j) := Nat.pow_pos hb
    have hlt : n < b ^ (m - j) ↔ n / b ^ (m - 1 - j) < b := by
      rw [hpow, Nat.div_lt_iff_lt_mul hpos, Nat.mul_comm]
    have hzero : n < b ^ (m - (j + 1)) ↔ n / b ^ (m - 1 - j) = 0 := by
      rw [Nat.div_eq_zero_iff, show m - (j + 1) = m - 1 - j by omega]
      omega
    rw [hzero]
    constructor
    · intro h
      have hq : n / b ^ (m - 1 - j) < b := hlt.mp (ih.mp fun k hk => h k (by omega))
      rw [← Nat.mod_eq_of_lt hq]
      exact h j (by omega)
    · intro h k hk
      rcases Nat.lt_succ_iff_lt_or_eq.mp hk with hk | rfl
      · exact ih.mpr (hlt.mpr (by omega)) k hk
      · rw [h, Nat.zero_mod]

/-! ## Decimal text -/

/-- `strconv.Atoi(s)`: an optional sign, then one or more decimal digits, whose value fits in
Go's 64-bit `int`; anything else is an error. -/
def Atoi (s : String) : Option Int :=
  let (neg, digits) : Bool × List Char :=
    match s.toList with
    | '-' :: ds => (true, ds)
    | '+' :: ds => (false, ds)
    | ds => (false, ds)
  if digits.isEmpty || !digits.all Char.isDigit then none
  else
    let n : Nat := digits.foldl (fun acc d => 10 * acc + (d.toNat - '0'.toNat)) 0
    let v : Int := if neg then -n else n
    if -2 ^ 63 ≤ v ∧ v < 2 ^ 63 then some v else none

end Go
