import Mathlib

namespace MagalixAgent

/-! Go's `int64` and `time.Time` as the agent uses them. Arithmetic on `int64`
wraps modulo `2 ^ 64`; an instant is a count of nanoseconds from the Unix epoch,
without the bound that `UnixNano` imposes on it. -/

/-! ## Two's-complement wrapping -/

/-- The `int64` that Go's wrapping arithmetic leaves for the exact result `value`. -/
def wrapInt64 (value : Int) : Int := (value + 2 ^ 63) % 2 ^ 64 - 2 ^ 63

theorem wrapInt64_bounds (value : Int) :
    -2 ^ 63 ≤ wrapInt64 value ∧ wrapInt64 value < 2 ^ 63 := by
  have nonnegative := Int.emod_nonneg (value + 2 ^ 63) (by norm_num : (2 : Int) ^ 64 ≠ 0)
  have below := Int.emod_lt_of_pos (value + 2 ^ 63) (by norm_num : (0 : Int) < 2 ^ 64)
  unfold wrapInt64
  omega

theorem wrapInt64_of_bounds {value : Int} (lower : -2 ^ 63 ≤ value)
    (upper : value < 2 ^ 63) : wrapInt64 value = value := by
  unfold wrapInt64
  rw [Int.emod_eq_of_lt (by omega) (by omega)]
  omega

/-- Wrapping commutes with the ring operations, so a chain of `int64` operations
wraps its exact result once. -/
theorem wrapInt64_congr {left right : Int} (equal : left % 2 ^ 64 = right % 2 ^ 64) :
    wrapInt64 left = wrapInt64 right := by
  unfold wrapInt64
  rw [Int.add_emod, equal, ← Int.add_emod]

theorem wrapInt64_emod (value : Int) : wrapInt64 value % 2 ^ 64 = value % 2 ^ 64 := by
  unfold wrapInt64
  omega

/-! ## `int64` -/

/-- Go's `int64`. -/
structure Int64 where
  toInt : Int
  lower : -2 ^ 63 ≤ toInt
  upper : toInt < 2 ^ 63
deriving DecidableEq

namespace Int64

/-- The conversion `int64(value)` of an integer of any width: the low 64 bits. -/
def ofInt (value : Int) : Int64 :=
  ⟨wrapInt64 value, (wrapInt64_bounds value).1, (wrapInt64_bounds value).2⟩

instance : OfNat Int64 n := ⟨ofInt n⟩

instance : Repr Int64 := ⟨fun value _ => repr value.toInt⟩

instance : Neg Int64 := ⟨fun value => ofInt (-value.toInt)⟩

instance : Add Int64 := ⟨fun left right => ofInt (left.toInt + right.toInt)⟩

instance : Sub Int64 := ⟨fun left right => ofInt (left.toInt - right.toInt)⟩

instance : Mul Int64 := ⟨fun left right => ofInt (left.toInt * right.toInt)⟩

/-- Go's `/` on `int64`: truncation toward zero. The one overflowing quotient,
`-2 ^ 63 / -1`, wraps back to `-2 ^ 63`. -/
instance : Div Int64 := ⟨fun left right => ofInt (left.toInt.tdiv right.toInt)⟩

/-- Go's `%` on `int64`: the remainder of truncated division, with the sign of
the dividend. -/
instance : Mod Int64 := ⟨fun left right => ofInt (left.toInt.tmod right.toInt)⟩

instance : LT Int64 := ⟨fun left right => left.toInt < right.toInt⟩

instance : LE Int64 := ⟨fun left right => left.toInt ≤ right.toInt⟩

instance (left right : Int64) : Decidable (left < right) :=
  inferInstanceAs (Decidable (left.toInt < right.toInt))

instance (left right : Int64) : Decidable (left ≤ right) :=
  inferInstanceAs (Decidable (left.toInt ≤ right.toInt))

/-- Go's conversion `int64(x)` of a `float64`: truncation toward zero. Out of
range Go leaves the result to the implementation; here the magnitude saturates
to the uint64 range and the signed result wraps modulo `2^64`, so `1e19` gives
a negative value, and NaN gives 0. -/
def ofFloat (x : Float) : Int64 :=
  if x < 0 then ofInt (-((-x).toUInt64.toNat : Int)) else ofInt x.toUInt64.toNat

theorem ext {left right : Int64} (equal : left.toInt = right.toInt) : left = right := by
  cases left
  cases right
  cases equal
  rfl

@[simp] theorem toInt_ofInt (value : Int) : (ofInt value).toInt = wrapInt64 value := rfl

@[simp] theorem toInt_add (left right : Int64) :
    (left + right).toInt = wrapInt64 (left.toInt + right.toInt) := rfl

@[simp] theorem toInt_mod (left right : Int64) :
    (left % right).toInt = wrapInt64 (left.toInt.tmod right.toInt) := rfl

@[simp] theorem toInt_sub (left right : Int64) :
    (left - right).toInt = wrapInt64 (left.toInt - right.toInt) := rfl

@[simp] theorem toInt_mul (left right : Int64) :
    (left * right).toInt = wrapInt64 (left.toInt * right.toInt) := rfl

@[simp] theorem toInt_div (left right : Int64) :
    (left / right).toInt = wrapInt64 (left.toInt.tdiv right.toInt) := rfl

@[simp] theorem lt_iff (left right : Int64) : left < right ↔ left.toInt < right.toInt :=
  Iff.rfl

@[simp] theorem le_iff (left right : Int64) : left ≤ right ↔ left.toInt ≤ right.toInt :=
  Iff.rfl

@[simp] theorem toInt_zero : (0 : Int64).toInt = 0 := rfl

@[simp] theorem toInt_ofNat_of_lt {n : Nat} (small : n < 2 ^ 63) :
    (OfNat.ofNat n : Int64).toInt = n :=
  wrapInt64_of_bounds (by omega) (by exact_mod_cast small)

/-- Adding one commutes with the conversion: both wrap the same exact sum. -/
theorem ofInt_add_one (value : Int) : ofInt value + 1 = ofInt (value + 1) := by
  apply ext
  simp only [toInt_add, toInt_ofInt, toInt_ofNat_of_lt (by norm_num : 1 < 2 ^ 63)]
  exact wrapInt64_congr (by rw [Int.add_emod, wrapInt64_emod, ← Int.add_emod]; rfl)

end Int64

/-! ## Instants -/

/-- A `time.Time` as the instant it denotes: nanoseconds from the Unix epoch.
Location and monotonic reading are not modelled. -/
structure Time where
  nanos : Int
deriving DecidableEq, Repr

namespace Time

/-- `time.Time{}`: January 1, year 1, 00:00:00 UTC. -/
def zero : Time := ⟨-62135596800 * 1000000000⟩

/-- `time.Second.Nanoseconds()`. -/
def second : Int := 1000000000

/-- `time.Hour` in nanoseconds. -/
def hour : Int := 3600 * second

/-- `t.UnixNano()`: Go computes `sec * 1e9 + nsec` in `int64`, so outside the
years 1678 to 2262 the result wraps. -/
def unixNano (t : Time) : Int64 := Int64.ofInt t.nanos

/-- `t.Sub(u)`: the exact difference, saturated to the range of `time.Duration`. -/
def sub (t u : Time) : Int :=
  max (-2 ^ 63) (min (2 ^ 63 - 1) (t.nanos - u.nanos))

/-- `t.Equal(time.Time{})`. -/
def isZero (t : Time) : Bool := t == zero

/-- The timestamp that `addMetricValue` and `addMetricValueRate` record:
`tickTime` when `timestamp` is the zero time. -/
def orTickTime (timestamp tickTime : Time) : Time :=
  if timestamp.isZero then tickTime else timestamp

/-- Saturation never moves a difference across the one-hour threshold of
`collectGarbage`. -/
theorem sub_gt_hour_iff (t u : Time) : hour < sub t u ↔ hour < t.nanos - u.nanos := by
  unfold sub hour second
  omega

/-- The duration `calcRate` divides by: the difference of the two `UnixNano`
readings, which is the exact difference wrapped to `int64`. -/
theorem toInt_unixNano_sub (t u : Time) :
    (t.unixNano - u.unixNano).toInt = wrapInt64 (t.nanos - u.nanos) := by
  simp only [unixNano, Int64.toInt_sub, Int64.toInt_ofInt]
  apply wrapInt64_congr
  rw [Int.sub_emod, wrapInt64_emod, wrapInt64_emod, ← Int.sub_emod]

@[simp] theorem orTickTime_of_isZero {timestamp : Time} (tickTime : Time)
    (zero : timestamp.isZero = true) : orTickTime timestamp tickTime = tickTime := by
  simp [orTickTime, zero]

/-- A non-zero tick time leaves no zero timestamp behind. -/
theorem orTickTime_ne_zero {timestamp tickTime : Time} (nonzero : tickTime ≠ zero) :
    orTickTime timestamp tickTime ≠ zero := by
  unfold orTickTime isZero
  split
  · exact nonzero
  · rename_i nonzeroTimestamp
    simpa using nonzeroTimestamp

end Time

end MagalixAgent
