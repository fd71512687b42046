import CrowdTracking.PreviousBestLocation

namespace CrowdTracking.LocationUpdaterService
set_option autoImplicit true

/-- `a` is older and more accurate than `b`, neither by much, and from the same provider. The
difference of the accuracies is rounded to a float. -/
structure Tradeoff (a b : Location) : Prop where
  provider : a.provider = b.provider
  older : a.time.toInt < b.time.toInt
  recent : b.time.toInt - TWO_MINUTES.toInt ≤ a.time.toInt
  accurate : 1 ≤ floatMinus b.accuracy a.accuracy
  close : floatMinus b.accuracy a.accuracy < 201

/-- `n` deliveries of the two fixes in turn. -/
def alternating (a b : Location) : Nat → List Location
  | 0 => []
  | n + 1 => a :: alternating b a n

variable {a b : Location}

theorem neg_floatMinus (x y : Rat) : -floatMinus x y = floatMinus y x := by
  rw [floatMinus, floatMinus, ← Rounding.nearest_neg, neg_sub]

theorem Fits.swap (h : Fits a b) (hlow : -2 ^ 63 < a.time.toInt - b.time.toInt) : Fits b a := by
  obtain ⟨-, hhigh⟩ := h
  rw [Fits]
  omega

theorem Better.both (h : Better d x same) (h' : Better (-d) (-x) same) :
    same ∧ ((d < 0 ∧ -10000 ≤ d ∧ x ≤ -1 ∧ -201 < x) ∨ (0 < d ∧ d ≤ 10000 ∧ 1 ≤ x ∧ x < 201)) := by
  have hlow : -10000 ≤ d := by
    rcases h with h | h
    · omega
    · exact h.1
  have hhigh : d ≤ 10000 := by
    rcases h' with h' | h'
    · omega
    · omega
  rcases h with h | ⟨-, hx | ⟨hd, hx⟩⟩
  · omega
  · rcases h' with h' | ⟨-, hx' | ⟨hd', hx' | ⟨hx', hs⟩⟩⟩
    · omega
    · linarith
    · linarith
    · exact ⟨hs, .inl ⟨by omega, hlow, hx, by linarith⟩⟩
  · rcases h' with h' | ⟨-, hx' | ⟨hd', -⟩⟩
    · omega
    · rcases hx with hx | ⟨hx, hs⟩
      · linarith
      · exact ⟨hs, .inr ⟨hd, hhigh, by linarith, hx⟩⟩
    · omega

theorem Tradeoff.better (h : Tradeoff a b) :
    isBetterLocation floatMinus a (some b) ∧ isBetterLocation floatMinus b (some a) := by
  have ht : TWO_MINUTES.toInt = 10000 := rfl
  obtain ⟨hp, hold, hrecent, hacc, hclose⟩ := h
  rw [ht] at hrecent
  have hfits : Fits a b := by
    rw [Fits]
    omega
  have hfits' : Fits b a := by
    rw [Fits]
    omega
  have hneg := neg_floatMinus b.accuracy a.accuracy
  rw [isBetterLocation_iff hfits, isBetterLocation_iff hfits']
  constructor
  · exact .inr ⟨by omega, .inl (by linarith)⟩
  · exact .inr ⟨by omega, .inr ⟨by omega, .inr ⟨hclose, hp.symm⟩⟩⟩

/-- Each of two fixes is better than the other only in a trade-off. -/
theorem both_better_iff (h : Fits a b) :
    isBetterLocation floatMinus a (some b) ∧ isBetterLocation floatMinus b (some a) ↔
      Tradeoff a b ∨ Tradeoff b a := by
  constructor
  · rintro ⟨hab, hba⟩
    have hbetter := (isBetterLocation_iff h).1 hab
    -- the least difference overflows the other way round, but is out of the question
    have hlow : -10000 ≤ a.time.toInt - b.time.toInt := by
      rcases hbetter with hd | hd
      · omega
      · exact hd.1
    have hbetter' := (isBetterLocation_iff (h.swap (by omega))).1 hba
    have hneg := neg_floatMinus a.accuracy b.accuracy
    rw [← neg_sub a.time.toInt, ← hneg, eq_comm] at hbetter'
    obtain ⟨hp, ⟨hd, hd', hx, hx'⟩ | ⟨hd, hd', hx, hx'⟩⟩ := hbetter.both hbetter'
    · exact .inl ⟨hp, by omega, by change _ - 10000 ≤ _; omega, by linarith, by linarith⟩
    · exact .inr ⟨hp.symm, by omega, by change _ - 10000 ≤ _; omega, by linarith, by linarith⟩
  · rintro (ht | ht)
    · exact ht.better
    · exact ht.better.symm

theorem not_better_self (a : Location) : ¬isBetterLocation floatMinus a (some a) := by
  have hfits : Fits a a := by
    rw [Fits]
    omega
  rw [isBetterLocation_iff hfits, sub_self, floatMinus, sub_self, Rounding.nearest_zero, Better]
  norm_num

theorem mem_alternating (h : f ∈ alternating a b n) : f = a ∨ f = b := by
  induction n generalizing a b with
  | zero => cases h
  | succ n ih =>
    rcases List.mem_cons.1 h with h | h
    · exact .inl h
    · exact (ih h).symm

theorem accepted_both (h : isBetterLocation floatMinus a (some b))
    (h' : isBetterLocation floatMinus b (some a)) (n : Nat) :
    accepted floatMinus (some a) (alternating b a n) = n := by
  induction n generalizing a b with
  | zero => rfl
  | succ n ih =>
    rw [alternating, accepted_better h', ih h' h]
    omega

/-- Where one of the two is not better, it does not come back. -/
theorem accepted_one
    (h : ¬(isBetterLocation floatMinus a (some b) ∧ isBetterLocation floatMinus b (some a)))
    (n : Nat) : accepted floatMinus (some a) (alternating b a n) ≤ 1 := by
  by_cases hba : isBetterLocation floatMinus b (some a)
  · have hab : ¬isBetterLocation floatMinus a (some b) := fun hab => h ⟨hab, hba⟩
    cases n with
    | zero => exact Nat.zero_le 1
    | succ n =>
      rw [alternating, accepted_better hba, accepted_eq_zero]
      intro f hf
      rcases mem_alternating hf with rfl | rfl
      · exact hab
      · exact not_better_self f
  · rw [accepted_eq_zero]
    · exact Nat.zero_le 1
    · intro f hf
      rcases mem_alternating hf with rfl | rfl
      · exact hba
      · exact not_better_self f

/-- Two fixes are each better than the other exactly in a trade-off, and only then do alternating
deliveries keep replacing one with the other. -/
theorem better_tradeoff (a b : Location) (h : Fits a b) :
    (isBetterLocation floatMinus a (some b) ∧ isBetterLocation floatMinus b (some a) ↔
        Tradeoff a b ∨ Tradeoff b a) ∧
      ∀ n,
        (Tradeoff a b ∨ Tradeoff b a → accepted floatMinus (some a) (alternating b a n) = n) ∧
        (¬(Tradeoff a b ∨ Tradeoff b a) →
          accepted floatMinus (some a) (alternating b a n) ≤ 1) := by
  refine ⟨both_better_iff h, fun n => ⟨?_, ?_⟩⟩
  · intro ht
    obtain ⟨hab, hba⟩ := (both_better_iff h).2 ht
    exact accepted_both hab hba n
  · intro ht
    exact accepted_one (fun hboth => ht ((both_better_iff h).1 hboth)) n

/-- The older fix is better for its accuracy, the newer one for its time. -/
theorem better_tradeoff_gps :
    Fits (fix 0 10) (fix 1000 20) ∧
      (isBetterLocation floatMinus (fix 0 10) (some (fix 1000 20)) ∧
        isBetterLocation floatMinus (fix 1000 20) (some (fix 0 10))) ∧
      (Tradeoff (fix 0 10) (fix 1000 20) ∨ Tradeoff (fix 1000 20) (fix 0 10)) ∧
      ∀ n, accepted floatMinus (some (fix 0 10)) (alternating (fix 1000 20) (fix 0 10) n) = n := by
  have h : Fits (fix 0 10) (fix 1000 20) := by decide +kernel
  obtain ⟨hiff, haccepted⟩ := better_tradeoff (fix 0 10) (fix 1000 20) h
  have hboth : isBetterLocation floatMinus (fix 0 10) (some (fix 1000 20)) ∧
      isBetterLocation floatMinus (fix 1000 20) (some (fix 0 10)) := by decide +kernel
  exact ⟨h, hboth, hiff.1 hboth, fun n => (haccepted n).1 (hiff.1 hboth)⟩

/-- Two accuracies less than 201 metres apart, whose difference as floats is 201. -/
example : Rounding.nearest 24 214.659 - Rounding.nearest 24 13.659 < 201 ∧
    floatMinus (Rounding.nearest 24 214.659) (Rounding.nearest 24 13.659) = 201 := by
  decide +kernel

/-- The older of two fixes is more accurate, and the newer one not much less accurate. -/
theorem better_both_ways :
    ¬∀ a b : Location, Fits a b →
      ¬(isBetterLocation floatMinus a (some b) ∧ isBetterLocation floatMinus b (some a)) := by
  intro h
  have hboth := h (fix 0 10) (fix 1000 20) (by decide +kernel)
  exact absurd hboth (by decide +kernel)

end CrowdTracking.LocationUpdaterService
