import CrowdTracking.Location
import CrowdTracking.Runs

namespace CrowdTracking.LocationUpdaterService
set_option autoImplicit true
open Runs

section Deliveries

variable (minus : Rat → Rat → Rat)

/-- `previousBestLocation` after `onLocationChanged`. -/
def kept (previousBestLocation : Option Location) (location : Location) : Option Location :=
  if isBetterLocation minus location previousBestLocation then some location
  else previousBestLocation

def keptAfter (k : Option Location) (fs : List Location) : Option Location :=
  fs.foldl (kept minus) k

/-- The number of fixes for which `P` holds with the fix kept before them. -/
def countKept (P : Option Location → Location → Bool) : Option Location → List Location → Nat
  | _, [] => 0
  | k, f :: fs => (if P k f then 1 else 0) + countKept P (kept minus k f) fs

def accepted : Option Location → List Location → Nat :=
  countKept minus fun k f => isBetterLocation minus f k

/-- The number of accepted fixes that are older than the fix they replace. -/
def backward : Option Location → List Location → Nat :=
  countKept minus fun k f => isBetterLocation minus f k && k.any fun b => f.time < b.time

/-- The deliveries as a system, whose state is the kept fix. -/
def delivery (k : Option Location) (f : Location) : Option (Option Location) :=
  some (kept minus k f)

end Deliveries

/-- The difference to the time of the kept fix does not overflow. -/
def Exact (k : Option Location) (f : Location) : Prop := ∀ b ∈ k, Fits f b

/-- A fix that is accepted is not newer than the fix it replaces. -/
def NotNewer (k : Option Location) (f : Location) : Prop :=
  ∀ b ∈ k, isBetterLocation exactMinus f k → f.time ≤ b.time

instance (k : Option Location) (f : Location) : Decidable (Exact k f) :=
  inferInstanceAs (Decidable (∀ b ∈ k, _))

instance (k : Option Location) (f : Location) : Decidable (NotNewer k f) :=
  inferInstanceAs (Decidable (∀ b ∈ k, _ → _))

/-- As many fixes as the whole metres of the first one's accuracy, each a step of `TWO_MINUTES`. -/
def Bounded (b : Location) (fs : List Location) : Prop :=
  (accepted exactMinus (some b) fs : Int) ≤ ⌊b.accuracy⌋ ∧ ∀ c ∈ keptAfter exactMinus (some b) fs,
    b.time.toInt - c.time.toInt ≤ TWO_MINUTES.toInt * accepted exactMinus (some b) fs

instance (b : Location) (fs : List Location) : Decidable (Bounded b fs) :=
  inferInstanceAs (Decidable (_ ∧ ∀ c ∈ keptAfter _ _ _, _))

variable {minus : Rat → Rat → Rat} {a b c f : Location} {k : Option Location} {fs : List Location}

theorem kept_better (h : isBetterLocation minus f k) : kept minus k f = some f := if_pos h

theorem kept_worse (h : ¬isBetterLocation minus f k) : kept minus k f = k := if_neg h

theorem accepted_better (h : isBetterLocation minus f k) (fs : List Location) :
    accepted minus k (f :: fs) = 1 + accepted minus (some f) fs := by
  rw [accepted, countKept, if_pos h, kept_better h]

theorem accepted_worse (h : ¬isBetterLocation minus f k) (fs : List Location) :
    accepted minus k (f :: fs) = accepted minus k fs := by
  rw [accepted, countKept, if_neg h, kept_worse h, Nat.zero_add]

theorem accepted_eq_zero (h : ∀ f ∈ fs, ¬isBetterLocation minus f k) :
    accepted minus k fs = 0 := by
  induction fs with
  | nil => rfl
  | cons f fs ih =>
    rw [accepted_worse (h f List.mem_cons_self)]
    exact ih fun g hg => h g (List.mem_cons_of_mem f hg)

/-- An accepted fix that is not newer is at most `TWO_MINUTES` older, and more accurate by a whole
metre. -/
theorem better_not_newer (hf : Fits f b) (h : isBetterLocation minus f (some b))
    (hn : f.time ≤ b.time) :
    b.time.toInt - 10000 ≤ f.time.toInt ∧ minus f.accuracy b.accuracy ≤ -1 := by
  rw [Int64.le_iff_toInt_le] at hn
  rcases (isBetterLocation_iff hf).1 h with hd | ⟨hd, ha | ⟨hd', -⟩⟩
  · omega
  · exact ⟨by omega, ha⟩
  · omega

/-- The kept fix is at most `TWO_MINUTES` older than the one delivered. -/
theorem kept_recent (h : Exact k f) : ∃ b, kept minus k f = some b ∧
    f.time.toInt - 10000 ≤ b.time.toInt := by
  by_cases hb : isBetterLocation minus f k
  · exact ⟨f, kept_better hb, by omega⟩
  · rw [kept_worse hb]
    cases k with
    | none => exact absurd rfl hb
    | some b =>
      refine ⟨b, rfl, ?_⟩
      rw [isBetterLocation_iff (h b rfl), Better] at hb
      omega

theorem Better.back (h : Better d x same) (hd : d ≤ 10000) : -10000 ≤ d := by
  rcases h with h | h
  · omega
  · exact h.1

/-- The kept time goes back by at most `TWO_MINUTES`, and only with an accepted older fix. -/
theorem kept_time (h : Exact k f) (hb : b ∈ k) : ∃ c, kept minus k f = some c ∧
    b.time.toInt - 10000 * backward minus k [f] ≤ c.time.toInt := by
  rw [Option.mem_def] at hb
  subst hb
  have hback : backward minus (some b) [f] =
      if isBetterLocation minus f (some b) && decide (f.time < b.time) then 1 else 0 := rfl
  rw [hback]
  by_cases hf : isBetterLocation minus f (some b)
  · refine ⟨f, kept_better hf, ?_⟩
    rw [hf, Bool.true_and]
    by_cases ht : f.time < b.time
    · rw [decide_eq_true ht, if_pos rfl]
      rw [Int64.lt_iff_toInt_lt] at ht
      have hle := ((isBetterLocation_iff (h b rfl)).1 hf).back (by omega)
      omega
    · rw [decide_eq_false ht, if_neg Bool.false_ne_true]
      rw [Int64.lt_iff_toInt_lt] at ht
      omega
  · refine ⟨b, kept_worse hf, ?_⟩
    rw [Bool.eq_false_of_not_eq_true hf, Bool.false_and, if_neg Bool.false_ne_true]
    omega

theorem backward_cons (k : Option Location) (f : Location) (fs : List Location) :
    backward minus k (f :: fs) = backward minus k [f] + backward minus (kept minus k f) fs := rfl

/-- Over a run, each accepted older fix takes the kept time back by at most `TWO_MINUTES`. -/
theorem keptAfter_time (h : Along (delivery minus) Exact k fs) (hb : b ∈ k) :
    ∃ c, keptAfter minus k fs = some c ∧
      b.time.toInt - 10000 * backward minus k fs ≤ c.time.toInt := by
  induction fs generalizing k b with
  | nil =>
    refine ⟨b, hb, ?_⟩
    rw [backward, countKept]
    omega
  | cons f fs ih =>
    obtain ⟨c, hc, hle⟩ := kept_time (h.head rfl) hb
    obtain ⟨d, hd, hle'⟩ := ih (h.tail rfl) hc
    refine ⟨d, hd, ?_⟩
    rw [backward_cons]
    omega

theorem keptAfter_delivered (h : Along (delivery minus) Exact k (fs ++ f :: gs)) :
    ∃ b, keptAfter minus k (fs ++ f :: gs) = some b ∧
      f.time.toInt - 10000 * (1 + backward minus (keptAfter minus k (fs ++ [f])) gs) ≤
        b.time.toInt := by
  induction fs generalizing k with
  | nil =>
    obtain ⟨b, hb, hle⟩ := kept_recent (h.head rfl)
    obtain ⟨c, hc, hle'⟩ := keptAfter_time (h.tail rfl) hb
    refine ⟨c, hc, ?_⟩
    have hone : keptAfter minus k ([] ++ [f]) = kept minus k f := rfl
    rw [hone]
    omega
  | cons g fs ih => exact ih (h.tail rfl)

/-- The kept fix is older than a delivered one by at most `TWO_MINUTES`, and once more as much for
each older fix accepted since. -/
theorem kept_not_stale (minus : Rat → Rat → Rat) (fs gs : List Location) (f : Location)
    (h : Along (delivery minus) Exact none (fs ++ f :: gs)) :
    ∃ b, keptAfter minus none (fs ++ f :: gs) = some b ∧
      f.time.toInt -
          TWO_MINUTES.toInt * (1 + backward minus (keptAfter minus none (fs ++ [f])) gs) ≤
        b.time.toInt :=
  keptAfter_delivered h

def fix (time : Int64) (accuracy : Nat) : Location :=
  ⟨time, accuracy, some "gps", Nat.cast_nonneg _⟩

def stepsBack : List Location := [fix (-10000) 50, fix 0 300]

/-- The older fix is kept, 10000 milliseconds before the first one. -/
theorem kept_not_stale_older :
    Along (delivery floatMinus) Exact none ([] ++ fix 0 100 :: stepsBack) ∧
      (∃ b, keptAfter floatMinus none ([] ++ fix 0 100 :: stepsBack) = some b ∧
        (fix 0 100).time.toInt - TWO_MINUTES.toInt *
            (1 + backward floatMinus (keptAfter floatMinus none ([] ++ [fix 0 100])) stepsBack) ≤
          b.time.toInt) ∧
      keptAfter floatMinus none ([] ++ fix 0 100 :: stepsBack) = some (fix (-10000) 50) := by
  have h : Along (delivery floatMinus) Exact none ([] ++ fix 0 100 :: stepsBack) := by
    decide +kernel
  exact ⟨h, kept_not_stale _ _ _ _ h, by decide +kernel⟩

/-- Two steps back, each to a more accurate fix. -/
theorem kept_stale :
    ¬∀ fs : List Location, ∀ b ∈ keptAfter exactMinus none fs, ∀ f ∈ fs,
      f.time.toInt - TWO_MINUTES.toInt ≤ b.time.toInt := by
  intro h
  have hrun := h [fix 0 100, fix (-10000) 50, fix (-20000) 10]
  exact absurd hrun (by decide +kernel)

/-- Each accepted fix that is not newer uses up a metre of the accuracy. -/
theorem accepted_accuracy (hn : Along (delivery exactMinus) NotNewer (some b) fs)
    (h : Along (delivery exactMinus) Exact (some b) fs) :
    ∃ c, keptAfter exactMinus (some b) fs = some c ∧
      accepted exactMinus (some b) fs + c.accuracy ≤ b.accuracy ∧
      b.time.toInt - c.time.toInt ≤ 10000 * accepted exactMinus (some b) fs := by
  induction fs generalizing b with
  | nil =>
    refine ⟨b, rfl, ?_, ?_⟩
    · rw [accepted, countKept, Nat.cast_zero, zero_add]
    · rw [accepted, countKept]
      omega
  | cons f fs ih =>
    by_cases hf : isBetterLocation exactMinus f (some b)
    · have hkept : delivery exactMinus (some b) f = some (some f) := congrArg some (kept_better hf)
      obtain ⟨ht, ha⟩ := better_not_newer (h.head hkept b rfl) hf (hn.head hkept b rfl hf)
      rw [exactMinus] at ha
      obtain ⟨c, hc, hacc, htime⟩ := ih (hn.tail hkept) (h.tail hkept)
      refine ⟨c, ?_, ?_, ?_⟩
      · rw [keptAfter, List.foldl_cons, kept_better hf]
        exact hc
      · rw [accepted_better hf]
        push_cast
        linarith
      · rw [accepted_better hf]
        push_cast
        omega
    · have hkept : delivery exactMinus (some b) f = some (some b) := congrArg some (kept_worse hf)
      obtain ⟨c, hc, hacc, htime⟩ := ih (hn.tail hkept) (h.tail hkept)
      rw [accepted_worse hf]
      refine ⟨c, ?_, hacc, htime⟩
      rw [keptAfter, List.foldl_cons, kept_worse hf]
      exact hc

/-- While no accepted fix is newer than the one it replaces, the fixes accepted and the way back
are bounded. -/
theorem backward_bounded (b : Location) (fs : List Location)
    (hn : Along (delivery exactMinus) NotNewer (some b) fs)
    (h : Along (delivery exactMinus) Exact (some b) fs) :
    Bounded b fs := by
  obtain ⟨c, hc, hacc, htime⟩ := accepted_accuracy hn h
  refine ⟨?_, ?_⟩
  · rw [Int.le_floor]
    have hnonneg := c.accuracy_nonneg
    push_cast
    linarith
  · intro d hd
    rw [hc] at hd
    cases hd
    exact htime

theorem backward_bounded_rejecting :
    (Along (delivery exactMinus) NotNewer (some (fix 0 100)) stepsBack ∧
        Along (delivery exactMinus) Exact (some (fix 0 100)) stepsBack) ∧
      Bounded (fix 0 100) stepsBack ∧ accepted exactMinus (some (fix 0 100)) stepsBack = 1 := by
  have hn : Along (delivery exactMinus) NotNewer (some (fix 0 100)) stepsBack := by
    decide +kernel
  have h : Along (delivery exactMinus) Exact (some (fix 0 100)) stepsBack := by
    decide +kernel
  exact ⟨⟨hn, h⟩, backward_bounded _ _ hn h, by decide +kernel⟩

/-- An overflow makes the oldest time look newer than the latest. -/
theorem overflow_accepted :
    ¬∀ (b : Location) (fs : List Location),
      Along (delivery exactMinus) NotNewer (some b) fs → Bounded b fs := by
  intro h
  have hrun := h (fix Int64.maxValue 0) [fix Int64.minValue 0]
  exact absurd hrun (by decide +kernel)

end CrowdTracking.LocationUpdaterService
