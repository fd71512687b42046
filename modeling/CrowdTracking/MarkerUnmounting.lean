import CrowdTracking.MarkerIntervals

namespace CrowdTracking
set_option autoImplicit true
open Script Runs

namespace MyMarker

/-- An unmounted marker has no interval left, and so no callback to run. -/
def Inert (m : MyMarker) : Prop :=
  ¬m.mounted → m.intervals = [] ∧ ∀ t n, m.fired (t, .interval n) = none

/-- A snapshot on which the handler starts a timer. -/
def StartsTimer (c : Record Json) (v : Json) : Prop := Restarts c v ∧ v ≠ .str "inActive"

instance (c : Record Json) (v : Json) : Decidable (StartsTimer c v) :=
  inferInstanceAs (Decidable (_ ∧ _))

/-- The marker is unmounted with no other interval than the stored one, and afterwards no snapshot
starts a timer. -/
def ClearsAll (m : MyMarker) (e : Nat × MarkerEvent) : Prop :=
  match e.2 with
  | .unmount => ∀ i ∈ m.intervals, some i.id = m.intervalId
  | .childChanged _ v => ¬m.mounted → ¬StartsTimer m.crowd v
  | _ => True

variable {degrees : Number → Number → Number} {m m' : MyMarker}

theorem inert_iff (m : MyMarker) : m.Inert ↔ (¬m.mounted → m.intervals = []) := by
  refine forall_congr' fun _ => and_iff_left_of_imp ?_
  intro h t n
  have hdue : (m.atTime t).dueInterval n = none := by
    rw [dueInterval, List.find?_eq_none]
    intro i hi
    have hmem : i ∈ m.intervals := hi
    rw [h] at hmem
    cases hmem
  simp only [fired, hdue, Option.map_none]

instance : DecidablePred Inert := fun m => decidable_of_iff _ (inert_iff m).symm

theorem componentWillUnmount_intervals :
    m.componentWillUnmount.intervals = [] ↔ ∀ i ∈ m.intervals, some i.id = m.intervalId := by
  rw [componentWillUnmount, clearInterval, List.filter_eq_nil_iff]
  simp

/-- What a snapshot does to an unmounted marker without intervals. -/
theorem handled_inert (h : Handled degrees m v m') (hm : ¬m.mounted) (hi : m.intervals = []) :
    m'.intervals = [] ↔ ¬StartsTimer m.crowd v := by
  have hcleared : ¬m.clearInterval.mounted := hm
  have hrestarted : ¬(m.clearInterval.setInterval .timer).mounted := hm
  have hstarted : (m.clearInterval.setInterval .timer).intervals ≠ [] := by
    rw [setInterval]
    exact List.append_ne_nil_of_right_ne_nil _ (List.cons_ne_nil _ _)
  cases h with
  | location hlat hloc =>
    rw [setCrowd_unmounted hrestarted, iff_false_left hstarted, not_not]
    refine ⟨.inl ⟨hlat, Option.isSome_of_eq_some hloc⟩, ?_⟩
    rintro rfl
    cases hlat
  | count hlat hnum =>
    rw [setCrowd_unmounted hm, iff_true_left hi]
    rintro ⟨hr | hr, -⟩
    · exact hlat hr.1
    · rw [hnum] at hr
      exact Bool.false_ne_true hr.2.1
  | inActive hv =>
    rw [setCrowd_unmounted hcleared, iff_true_right fun h => h.2 hv, clearInterval, hi]
    rfl
  | status hlat hnum hv hne =>
    rw [setCrowd_unmounted hrestarted, iff_false_left hstarted, not_not]
    exact ⟨.inr ⟨hlat, hnum, hv⟩, hne⟩
  | ignored hlat hnum hv =>
    rw [iff_true_left hi]
    rintro ⟨hr | hr, -⟩
    · exact hlat hr.1
    · exact hv hr.2.2

theorem not_startsTimer_of_throws (h : Throws c v) : ¬StartsTimer c v := by
  rintro ⟨hr | hr, -⟩
  · rw [h.2] at hr
    cases hr.2
  · exact hr.1 h.1

/-- A step keeps the marker inert exactly when it clears every interval. -/
theorem stepped_inert (h : m.Inert) (hs : Stepped degrees m t e m') :
    m'.Inert ↔ ClearsAll m (t, e) := by
  rw [inert_iff] at h ⊢
  have hmounted (hm : m.mounted) (hm' : m'.mounted = m.mounted) :
      ¬m'.mounted → m'.intervals = [] := fun hne => absurd (hm'.trans hm) hne
  cases hs with
  | handled hh =>
    have hm' := (handled_frame hh).2.2.1
    by_cases hm : m.mounted
    · exact iff_of_true (hmounted hm hm') fun hne => absurd hm hne
    · have hinert := handled_inert hh hm (h hm)
      have hunmounted : ¬m'.mounted := by rwa [hm']
      exact ⟨fun hi _ => hinert.1 (hi hunmounted), fun hc _ => hinert.2 (hc hm)⟩
  | thrown ht => exact iff_of_true h fun _ => not_startsTimer_of_throws ht
  | newProps p hm => exact iff_of_true (hmounted hm (rerender_mounted _)) trivial
  | interval hi =>
    have hm : m.mounted := by
      by_contra hne
      rw [h hne] at hi
      cases hi
    refine iff_of_true (hmounted hm ?_) trivial
    rw [fire_eq, setCrowd_mounted]
    rfl
  | unmount hm =>
    have hcleared := componentWillUnmount_intervals (m := m.atTime t)
    exact ⟨fun hi => hcleared.1 (hi Bool.false_ne_true), fun hc _ => hcleared.2 hc⟩

/-- An unmounted marker is inert exactly as long as it was unmounted with the stored interval alone
and no later snapshot starts a timer. -/
theorem inert_after_unmount (degrees : Number → Number → Number) (props : Props) (t : Nat)
    (es : List (Nat × MarkerEvent)) :
    Always (step degrees) Inert (mount props t) es ↔
      Along (step degrees) ClearsAll (mount props t) es := by
  apply always_iff_along Inert
  · exact fun _ h => h
  · exact fun m e m' h hs hC => (stepped_inert h (step_stepped hs).2).2 hC
  · exact fun m e m' h hs hP => (stepped_inert h (step_stepped hs).2).1 hP
  · exact fun hm => absurd (mount_mounted props t) hm

/-- Mounting an inActive crowd starts three intervals, and unmounting clears one of them. -/
theorem intervals_left :
    ¬∀ (degrees : Number → Number → Number) (props : Props) (t : Nat)
      (es : List (Nat × MarkerEvent)), Always (step degrees) Inert (mount props t) es := by
  intro h
  have hrun := h (fun _ _ => .nan) ⟨"k", 0, crowdValue "inActive" 21 39, true, true, true⟩ 0
    [(0, .unmount)]
  exact absurd hrun (by decide +kernel)

end MyMarker

end CrowdTracking
