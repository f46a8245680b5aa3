import MagalixAgent.Scraper.Types

namespace MagalixAgent.Scraper

/-! # The rate table

`kubelet.previous` maps a rate key to the last sample stored under it. Each
`addMetricValueRate` call reads the entry (`getPreviousValue`), computes a rate
against it (`calcRate`), and then stores the new sample whatever the outcome
(`updatePreviousValue`). `collectGarbage` drops entries more than an hour old at
the start of every `GetMetrics` cycle. -/

/-- `kubelet.previous`. -/
def RateTable := String → Option KubeletValue

/-- The empty map `NewKubelet` starts with. -/
def RateTable.empty : RateTable := fun _ => none

/-- `getKey`: `"<entity>-<measurement>:<parentKey>:<entityKey>"`, without the
second `:` when `parentKey` is empty. -/
def getKey (entity parentKey entityKey measurement : String) : String :=
  let parentKey := if parentKey ≠ "" then parentKey ++ ":" else parentKey
  entity ++ "-" ++ measurement ++ ":" ++ parentKey ++ entityKey

/-- `getPreviousValue`. -/
def getPreviousValue (previous : RateTable) (key : String) : Except String KubeletValue :=
  match previous key with
  | none => .error "No previous value"
  | some sample => .ok sample

/-- `updatePreviousValue`. -/
def updatePreviousValue (previous : RateTable) (key : String) (value : KubeletValue) :
    RateTable :=
  Function.update previous key (some value)

/-- `collectGarbage`, with one reading `now` of the clock: an entry goes when
`now.Sub(previous.Timestamp) > time.Hour`. -/
def collectGarbage (now : Time) (previous : RateTable) : RateTable := fun key =>
  match previous key with
  | none => none
  | some sample => if Time.hour < now.sub sample.timestamp then none else some sample

/-- `time.Second.Nanoseconds()` as the `int64` `calcRate` compares with. -/
def secondNanoseconds : Int64 := 1000000000

/-- The counter value a rate is measured from: the stored one, or `0` after a
counter reset (`previousValue > value`). -/
def baseline (previousValue value : Int64) : Int64 :=
  if value < previousValue then 0 else previousValue

/-- The arithmetic of `calcRate` once `getPreviousValue` has found a sample: the
`UnixNano` difference must exceed a second, and the rate is
`multiplier * (value - previousValue) / duration` in `int64`. -/
def rateSince (previous : KubeletValue) (timestamp : Time) (value multiplier : Int64) :
    Except String Int64 :=
  let duration := timestamp.unixNano - previous.timestamp.unixNano
  if duration ≤ secondNanoseconds then .error "timestamp less than or equal previous one"
  else .ok (multiplier * (value - baseline previous.value value) / duration)

/-- `calcRate`. -/
def calcRate (previous : RateTable) (key : String) (timestamp : Time)
    (value multiplier : Int64) : Except String Int64 :=
  match getPreviousValue previous key with
  | .error message => .error message
  | .ok sample => rateSince sample timestamp value multiplier

@[simp] theorem updatePreviousValue_same (previous : RateTable) (key : String)
    (value : KubeletValue) : updatePreviousValue previous key value key = some value :=
  Function.update_same _ _ _

@[simp] theorem updatePreviousValue_other (previous : RateTable) {key other : String}
    (value : KubeletValue) (different : other ≠ key) :
    updatePreviousValue previous key value other = previous other :=
  Function.update_noteq different _ _

theorem calcRate_eq (previous : RateTable) (key : String) (timestamp : Time)
    (value multiplier : Int64) :
    calcRate previous key timestamp value multiplier =
      match previous key with
      | none => .error "No previous value"
      | some sample => rateSince sample timestamp value multiplier := by
  unfold calcRate getPreviousValue
  cases previous key <;> rfl

theorem collectGarbage_apply (now : Time) (previous : RateTable) (key : String) :
    collectGarbage now previous key =
      match previous key with
      | none => none
      | some sample =>
          if Time.hour < now.nanos - sample.timestamp.nanos then none else some sample := by
  unfold collectGarbage
  cases previous key <;> simp only [Time.sub_gt_hour_iff]

/-! ## The arithmetic of a rate -/

/-- `rateSince` answers by the duration check on the exact difference of the two
instants, wrapped to `int64`. -/
theorem rateSince_eq (previous : KubeletValue) (timestamp : Time) (value multiplier : Int64) :
    rateSince previous timestamp value multiplier =
      if wrapInt64 (timestamp.nanos - previous.timestamp.nanos) ≤ Time.second then
        .error "timestamp less than or equal previous one"
      else .ok (multiplier * (value - baseline previous.value value) /
        (timestamp.unixNano - previous.timestamp.unixNano)) := by
  simp only [rateSince, Int64.le_iff, Time.toInt_unixNano_sub, secondNanoseconds,
    Int64.toInt_ofNat_of_lt (by norm_num : 1000000000 < 2 ^ 63), Time.second, Nat.cast_ofNat]

/-- The rate itself: each `int64` operation wraps its exact result. -/
theorem toInt_rate (previous : KubeletValue) (timestamp : Time) (value multiplier : Int64) :
    (multiplier * (value - baseline previous.value value) /
        (timestamp.unixNano - previous.timestamp.unixNano)).toInt =
      wrapInt64 (Int.tdiv (wrapInt64 (multiplier.toInt *
          wrapInt64 (value.toInt - (baseline previous.value value).toInt)))
        (wrapInt64 (timestamp.nanos - previous.timestamp.nanos))) := by
  rw [Int64.toInt_div, Time.toInt_unixNano_sub, Int64.toInt_mul, Int64.toInt_sub]

/-- A truncated quotient by a positive divisor stays within `int64`. -/
theorem tdiv_bounds {numerator divisor : Int} (positive : 1 ≤ divisor)
    (lower : -2 ^ 63 ≤ numerator) (upper : numerator < 2 ^ 63) :
    -2 ^ 63 ≤ numerator.tdiv divisor ∧ numerator.tdiv divisor < 2 ^ 63 := by
  have magnitude := Int.natAbs_tdiv numerator divisor
  have shrinks : numerator.natAbs.div divisor.natAbs ≤ numerator.natAbs := Nat.div_le_self _ _
  have sign := Int.neg_tdiv (-numerator) divisor
  have nonnegative : 0 ≤ numerator → 0 ≤ divisor → 0 ≤ numerator.tdiv divisor :=
    Int.tdiv_nonneg
  have flipped : 0 ≤ -numerator → 0 ≤ divisor → 0 ≤ (-numerator).tdiv divisor :=
    Int.tdiv_nonneg
  rw [neg_neg] at sign
  omega

/-- Measured from its baseline, a counter never falls below `-2 ^ 63`. -/
theorem baseline_difference_lower (previousValue value : Int64) :
    -2 ^ 63 ≤ value.toInt - (baseline previousValue value).toInt := by
  have := value.lower
  unfold baseline
  split
  · simp
    omega
  · rename_i notReset
    simp only [Int64.lt_iff, not_lt] at notReset
    omega

/-- Within the range where no `int64` operation overflows, `rateSince` returns
the quotient over the integers, truncated toward zero. -/
theorem rateSince_of_bounds {previous : KubeletValue} {timestamp : Time}
    {value multiplier : Int64}
    (longEnough : Time.second < timestamp.nanos - previous.timestamp.nanos)
    (durationFits : timestamp.nanos - previous.timestamp.nanos < 2 ^ 63)
    (differenceFits : value.toInt - (baseline previous.value value).toInt < 2 ^ 63)
    (productFits :
      -2 ^ 63 ≤ multiplier.toInt * (value.toInt - (baseline previous.value value).toInt) ∧
        multiplier.toInt * (value.toInt - (baseline previous.value value).toInt) < 2 ^ 63) :
    ∃ rate, rateSince previous timestamp value multiplier = .ok rate ∧
      rate.toInt = Int.tdiv
        (multiplier.toInt * (value.toInt - (baseline previous.value value).toInt))
        (timestamp.nanos - previous.timestamp.nanos) := by
  have second : Time.second = 1000000000 := rfl
  have quotient := tdiv_bounds (by omega : 1 ≤ timestamp.nanos - previous.timestamp.nanos)
    productFits.1 productFits.2
  have exact := wrapInt64_of_bounds (by omega) durationFits
  rw [rateSince_eq, exact, if_neg (by omega)]
  refine ⟨_, rfl, ?_⟩
  rw [toInt_rate, exact, wrapInt64_of_bounds (baseline_difference_lower _ _) differenceFits,
    wrapInt64_of_bounds productFits.1 productFits.2, wrapInt64_of_bounds quotient.1 quotient.2]

/-- A network counter that grows by six megabytes in a minute, at the network
multiplier `1e9`, stays in range. -/
theorem rateSince_network_minute :
    ∃ rate, rateSince ⟨⟨0⟩, 0⟩ ⟨60000000000⟩ 6000000 1000000000 = .ok rate ∧
      rate.toInt = Int.tdiv ((1000000000 : Int64).toInt *
        ((6000000 : Int64).toInt - (baseline 0 6000000).toInt)) (60000000000 - 0) :=
  @rateSince_of_bounds ⟨⟨0⟩, 0⟩ ⟨60000000000⟩ 6000000 1000000000 (by decide) (by decide)
    (by decide) (by decide)

/-- A counter that grows by `10 ^ 10` in a minute from `0`, at the network
multiplier `1e9`: the `int64` product wraps and `calcRate` returns the negative
rate `-140779067`, where the quotient over the integers is `166666666`. -/
theorem calcRate_wraps_network_rate :
    calcRate (updatePreviousValue RateTable.empty "k" ⟨⟨0⟩, 0⟩) "k" ⟨60000000000⟩
        10000000000 1000000000 = .ok (Int64.ofInt (-140779067)) ∧
      Int.tdiv (1000000000 * (10000000000 - 0)) (60000000000 - 0) = 166666666 :=
  ⟨rfl, by decide⟩

end MagalixAgent.Scraper
