import Mathlib.Data.Int.Log
import Mathlib.Data.Rat.Floor
import Mathlib.Tactic.Linarith

namespace Rounding
set_option autoImplicit true

/-- The nearest integer, and the even one of two. -/
def roundEven (x : Rat) : Int :=
  if x - ⌊x⌋ < 1 / 2 then ⌊x⌋
  else if 1 / 2 < x - ⌊x⌋ then ⌊x⌋ + 1
  else ⌊x⌋ + ⌊x⌋ % 2

/-- The place of the last of `p` binary digits of a positive number. -/
def ulp (p : Nat) (x : Rat) : Rat := 2 ^ (Int.log 2 x + 1 - p)

/-- A number rounded to `p` binary digits, without a bound on the exponent. -/
def nearest (p : Nat) (x : Rat) : Rat :=
  if 0 < x then roundEven (x / ulp p x) * ulp p x
  else if x < 0 then -(roundEven (-x / ulp p (-x)) * ulp p (-x))
  else 0

/-- What rounds to at most `2 ^ p - 1` units of `2 ^ e`. -/
def InRange (p : Nat) (e : Int) (x : Rat) : Prop := |x| < (2 ^ p - 1 / 2) * 2 ^ e

instance (p : Nat) (e : Int) (x : Rat) : Decidable (InRange p e x) :=
  inferInstanceAs (Decidable (_ < _))

variable {x y : Rat} {n : Int} {p : Nat} {e : Int}

theorem ulp_pos (p : Nat) (x : Rat) : 0 < ulp p x := zpow_pos (by norm_num) _

/-- Rounding does not pass an integer. -/
theorem le_roundEven (h : (n : Rat) ≤ x) : n ≤ roundEven x := by
  have hn : n ≤ ⌊x⌋ := Int.le_floor.2 h
  have hmod := Int.emod_nonneg ⌊x⌋ (b := 2) (by decide)
  rw [roundEven]
  split
  · exact hn
  · split
    · omega
    · omega

theorem roundEven_le (h : x < (n : Rat) + 1 / 2) : roundEven x ≤ n := by
  have hfloor : ⌊x⌋ < n + 1 := by
    rw [Int.floor_lt]
    push_cast
    linarith
  have hlt : ¬x - ⌊x⌋ < 1 / 2 → ⌊x⌋ < n := by
    intro hhalf
    rw [← Int.cast_lt (R := Rat)]
    linarith
  have hmod := Int.emod_lt_of_pos ⌊x⌋ (b := 2) (by decide)
  rw [roundEven]
  split
  · omega
  · rename_i hhalf
    have hlt := hlt hhalf
    split
    · omega
    · omega

theorem nearest_of_pos (h : 0 < x) : nearest p x = roundEven (x / ulp p x) * ulp p x := if_pos h

@[simp] theorem nearest_zero (p : Nat) : nearest p 0 = 0 := rfl

theorem nearest_neg (p : Nat) (x : Rat) : nearest p (-x) = -nearest p x := by
  rcases lt_trichotomy x 0 with h | rfl | h
  · have hneg : 0 < -x := by linarith
    rw [nearest_of_pos hneg, nearest, if_neg (not_lt.2 h.le), if_pos h, neg_neg]
  · rw [neg_zero, nearest_zero, neg_zero]
  · have hneg : -x < 0 := by linarith
    rw [nearest_of_pos h, nearest, if_neg (not_lt.2 hneg.le), if_pos hneg, neg_neg]

/-- A positive number has `p` digits before the place of its last one. -/
theorem le_div_ulp (h : 0 < x) : 2 ^ ((p : Int) - 1) ≤ x / ulp p x := by
  rw [le_div_iff₀ (ulp_pos p x), ulp, ← zpow_add₀ (by norm_num)]
  have hlog : (p : Int) - 1 + (Int.log 2 x + 1 - p) = Int.log 2 x := by omega
  rw [hlog]
  exact_mod_cast Int.zpow_log_le_self Nat.one_lt_two h

theorem div_ulp_lt (p : Nat) (x : Rat) : x / ulp p x < 2 ^ p := by
  rw [div_lt_iff₀ (ulp_pos p x), ulp, ← zpow_natCast, ← zpow_add₀ (by norm_num)]
  have hlog : (p : Int) + (Int.log 2 x + 1 - p) = Int.log 2 x + 1 := by omega
  rw [hlog]
  exact_mod_cast Int.lt_zpow_succ_log_self Nat.one_lt_two x

theorem nearest_pos (hp : 0 < p) (h : 0 < x) : 0 < nearest p x := by
  have hone : ((1 : Int) : Rat) ≤ x / ulp p x := by
    refine le_trans ?_ (le_div_ulp h)
    rw [Int.cast_one]
    exact one_le_zpow₀ (by norm_num) (by omega)
  have hround : 1 ≤ roundEven (x / ulp p x) := le_roundEven hone
  have hpos : (0 : Rat) < roundEven (x / ulp p x) := by
    rw [Int.cast_pos]
    omega
  rw [nearest_of_pos h]
  exact mul_pos hpos (ulp_pos p x)

/-- In range, the place of the last digit is not beyond the unit. -/
theorem log_of_inRange (h : 0 < x) (hx : InRange p e x) : Int.log 2 x + 1 - p ≤ e := by
  by_contra hlt
  have hle : (2 : Rat) ^ ((p : Int) + e) ≤ x := by
    have hmono : (2 : Rat) ^ ((p : Int) + e) ≤ 2 ^ Int.log 2 x :=
      zpow_le_zpow_right₀ (by norm_num) (by omega)
    have hlog : (2 : Rat) ^ Int.log 2 x ≤ x := by
      exact_mod_cast Int.zpow_log_le_self Nat.one_lt_two h
    exact hmono.trans hlog
  rw [InRange, abs_of_pos h] at hx
  rw [zpow_add₀ (by norm_num), zpow_natCast] at hle
  have hunit : (0 : Rat) < 2 ^ e := zpow_pos (by norm_num) _
  linarith

theorem nearest_le (hp : 0 < p) (h : 0 < x) (hx : InRange p e x) :
    nearest p x ≤ (2 ^ p - 1) * 2 ^ e := by
  rw [nearest_of_pos h]
  rcases (log_of_inRange h hx).eq_or_lt with heq | hlt
  · have hulp : ulp p x = 2 ^ e := by rw [ulp, heq]
    have hround : roundEven (x / ulp p x) ≤ 2 ^ p - 1 := by
      apply roundEven_le
      rw [div_lt_iff₀ (ulp_pos p x), hulp]
      rw [InRange, abs_of_pos h] at hx
      push_cast
      linarith
    rw [hulp] at hround ⊢
    apply mul_le_mul_of_nonneg_right ?_ (zpow_nonneg (by norm_num) _)
    exact_mod_cast hround
  · have hround : roundEven (x / ulp p x) ≤ 2 ^ p := by
      apply roundEven_le
      have hlt := div_ulp_lt p x
      push_cast
      linarith
    have hulp : ulp p x ≤ 2 ^ (e - 1) := zpow_le_zpow_right₀ (by norm_num) (by omega)
    calc (roundEven (x / ulp p x) : Rat) * ulp p x
        ≤ 2 ^ p * ulp p x := by
          apply mul_le_mul_of_nonneg_right ?_ (ulp_pos p x).le
          exact_mod_cast hround
      _ ≤ 2 ^ p * 2 ^ (e - 1) := mul_le_mul_of_nonneg_left hulp (by positivity)
      _ ≤ (2 ^ p - 1) * 2 ^ e := by
          have hhalf : (2 : Rat) ^ e = 2 * 2 ^ (e - 1) := by
            rw [← zpow_one_add₀ (by norm_num), add_sub_cancel]
          have htwo : (2 : Rat) ≤ 2 ^ p := le_self_pow₀ (by norm_num) (by omega)
          have hunit : (0 : Rat) < 2 ^ (e - 1) := zpow_pos (by norm_num) _
          rw [hhalf]
          nlinarith

/-- Rounding stays in range. -/
theorem abs_nearest_le (hp : 0 < p) (hx : InRange p e x) :
    |nearest p x| ≤ (2 ^ p - 1) * 2 ^ e := by
  rcases lt_trichotomy x 0 with h | rfl | h
  · have hneg : 0 < -x := by linarith
    have hx' : InRange p e (-x) := by
      rw [InRange, abs_neg]
      exact hx
    have hle := nearest_le hp hneg hx'
    have hpos := nearest_pos hp hneg
    rw [nearest_neg] at hle hpos
    rw [abs_of_neg (by linarith)]
    exact hle
  · have hone : (1 : Rat) ≤ 2 ^ p := one_le_pow₀ (by norm_num)
    have hunit : (0 : Rat) < 2 ^ e := zpow_pos (by norm_num) _
    rw [nearest_zero, abs_zero]
    exact mul_nonneg (by linarith) hunit.le
  · rw [abs_of_pos (nearest_pos hp h)]
    exact nearest_le hp h hx

theorem inRange_nearest (hp : 0 < p) (hx : InRange p e x) : InRange p e (nearest p x) := by
  have hle := abs_nearest_le hp hx
  have hunit : (0 : Rat) < 2 ^ e := zpow_pos (by norm_num) _
  rw [InRange]
  linarith

/-- Less than half a unit does not carry a rounded number out of range. -/
theorem inRange_add (hp : 0 < p) (hx : InRange p e x) (hy : 2 * |y| < 2 ^ e) :
    InRange p e (nearest p x + y) := by
  have hle := abs_nearest_le hp hx
  have habs := abs_add_le (nearest p x) y
  rw [InRange]
  linarith

end Rounding
