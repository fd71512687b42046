import CrowdTracking.Rounding

namespace CrowdTracking
set_option autoImplicit true

/-- A fix: its time in milliseconds, its accuracy in metres and the name of its provider. -/
structure Location where
  time : Int64
  accuracy : Rat
  provider : Option String
  accuracy_nonneg : 0 ≤ accuracy
deriving DecidableEq

namespace LocationUpdaterService

def TWO_MINUTES : Int64 := 10000

/-- `(int)` of a float: towards zero, and the nearest `int` for a value beyond the range. -/
def int (q : Rat) : Int := max (-2 ^ 31) (min (q.num.tdiv q.den) (2 ^ 31 - 1))

def isSameProvider (provider1 provider2 : Option String) : Bool :=
  match provider1 with
  | none => provider2.isNone
  | some provider1 => provider2 = some provider1

/-- The difference of two accuracies, rounded to the 24 digits of a float. It does not overflow, and
a difference below the normal floats is exact. -/
def floatMinus (x y : Rat) : Rat := Rounding.nearest 24 (x - y)

/-- Accuracies taken as exact numbers. -/
def exactMinus (x y : Rat) : Rat := x - y

/-- `minus` is the subtraction of the accuracies. -/
def isBetterLocation (minus : Rat → Rat → Rat) (location : Location)
    (currentBestLocation : Option Location) : Bool :=
  match currentBestLocation with
  | none => true
  | some currentBestLocation =>
    let timeDelta := location.time - currentBestLocation.time
    let isSignificantlyNewer : Bool := timeDelta > TWO_MINUTES
    let isSignificantlyOlder : Bool := timeDelta < -TWO_MINUTES
    let isNewer : Bool := timeDelta > 0
    if isSignificantlyNewer then true
    else if isSignificantlyOlder then false
    else
      let accuracyDelta := int (minus location.accuracy currentBestLocation.accuracy)
      let isLessAccurate : Bool := accuracyDelta > 0
      let isMoreAccurate : Bool := accuracyDelta < 0
      let isSignificantlyLessAccurate : Bool := accuracyDelta > 200
      let isFromSameProvider := isSameProvider location.provider currentBestLocation.provider
      if isMoreAccurate then true
      else if isNewer && !isLessAccurate then true
      else if isNewer && !isSignificantlyLessAccurate && isFromSameProvider then true
      else false

/-- The difference of the times is that of the exact times. -/
def Fits (a b : Location) : Prop :=
  -2 ^ 63 ≤ a.time.toInt - b.time.toInt ∧ a.time.toInt - b.time.toInt < 2 ^ 63

instance (a b : Location) : Decidable (Fits a b) := inferInstanceAs (Decidable (_ ∧ _))

/-- What makes a fix better, by how much later it is, how much less accurate, and whether it comes
from the same provider. -/
def Better (time : Int) (accuracy : Rat) (same : Prop) : Prop :=
  10000 < time ∨ (-10000 ≤ time ∧
    (accuracy ≤ -1 ∨ (0 < time ∧ (accuracy < 1 ∨ (accuracy < 201 ∧ same)))))

theorem isSameProvider_iff (p q : Option String) : isSameProvider p q ↔ p = q := by
  cases p with
  | none => cases q <;> simp [isSameProvider]
  | some p => simp [isSameProvider, eq_comm]

theorem le_tdiv_iff (q : Rat) (hn : 0 < n) : n ≤ q.num.tdiv q.den ↔ (n : Rat) ≤ q := by
  rcases le_total 0 q with hq | hq
  · rw [Int.tdiv_eq_ediv_of_nonneg (Rat.num_nonneg.2 hq), ← Rat.floor_def', Int.le_floor]
  · have hnum : 0 ≤ -q.num := neg_nonneg.2 (Rat.num_nonpos.2 hq)
    have hdiv : q.num.tdiv q.den ≤ 0 := by
      have h : 0 ≤ (-q.num).tdiv q.den := Int.tdiv_nonneg hnum (Int.natCast_nonneg _)
      rw [Int.neg_tdiv] at h
      exact neg_nonneg.1 h
    have hpos : (0 : Rat) < n := Int.cast_pos.2 hn
    exact iff_of_false (by omega) (by linarith)

theorem tdiv_le_iff (q : Rat) (hn : 0 < n) : q.num.tdiv q.den ≤ -n ↔ q ≤ -n := by
  have h := le_tdiv_iff (-q) hn
  rw [Rat.neg_num, Rat.neg_den, Int.neg_tdiv] at h
  constructor
  · intro hq
    have := h.1 (by omega)
    linarith
  · intro hq
    have := h.2 (by linarith)
    omega

theorem int_neg_iff (q : Rat) : int q < 0 ↔ q ≤ -1 := by
  have h := tdiv_le_iff q (n := 1) (by decide)
  rw [Int.cast_one] at h
  rw [← h, int]
  omega

theorem lt_int_iff (q : Rat) {n : Int} (hn : 0 ≤ n) (hmax : n < 2 ^ 31 - 1) :
    n < int q ↔ (n : Rat) + 1 ≤ q := by
  have h := le_tdiv_iff q (n := n + 1) (by omega)
  rw [Int.cast_add, Int.cast_one] at h
  rw [← h, int]
  omega

variable {minus : Rat → Rat → Rat} {a b : Location}

theorem toInt_timeDelta (h : Fits a b) :
    (a.time - b.time).toInt = a.time.toInt - b.time.toInt := by
  rw [Int64.toInt_sub, Int.bmod_eq_of_le]
  · exact h.1
  · exact h.2

/-- Without an overflow `isBetterLocation` decides by the exact difference of the times. -/
theorem isBetterLocation_iff (h : Fits a b) : isBetterLocation minus a (some b) ↔
    Better (a.time.toInt - b.time.toInt) (minus a.accuracy b.accuracy)
      (a.provider = b.provider) := by
  have hnewer : a.time - b.time > TWO_MINUTES ↔ 10000 < a.time.toInt - b.time.toInt := by
    rw [gt_iff_lt, Int64.lt_iff_toInt_lt, toInt_timeDelta h]
    rfl
  have holder : a.time - b.time < -TWO_MINUTES ↔ a.time.toInt - b.time.toInt < -10000 := by
    rw [Int64.lt_iff_toInt_lt, toInt_timeDelta h]
    rfl
  have hnew : a.time - b.time > 0 ↔ 0 < a.time.toInt - b.time.toInt := by
    rw [gt_iff_lt, Int64.lt_iff_toInt_lt, toInt_timeDelta h]
    rfl
  have hmore := int_neg_iff (minus a.accuracy b.accuracy)
  have hless := lt_int_iff (minus a.accuracy b.accuracy) (n := 0) (by decide) (by decide)
  have hmuch := lt_int_iff (minus a.accuracy b.accuracy) (n := 200) (by decide) (by decide)
  norm_num at hless hmuch
  have hsame := isSameProvider_iff a.provider b.provider
  simp only [isBetterLocation, Better, hnewer, holder, hnew, gt_iff_lt, hmore, hless, hmuch]
  grind

end LocationUpdaterService

end CrowdTracking
