import CrowdTracking.MyMarker
import CrowdTracking.Runs

namespace CrowdTracking
set_option autoImplicit true
open Script

inductive MarkerEvent where
  | childChanged (key : String) (value : Json)
  | newProps (props : Props)
  | interval (id : Nat)
  | unmount
deriving DecidableEq

namespace MyMarker

/-- The interval that may fire now under an identifier. -/
def dueInterval (m : MyMarker) (id : Nat) : Option Interval :=
  m.intervals.find? fun i => i.id = id ∧ i.due ≤ m.clock

def reschedule (m : MyMarker) (id : Nat) : MyMarker :=
  { m with intervals := m.intervals.map fun i =>
      if i.id = id then { i with due := i.due + 10000 } else i }

def atTime (m : MyMarker) (t : Nat) : MyMarker := { m with clock := t }

/-- One timed event. The clock never goes back, an interval fires no earlier than it is due and
only a mounted component is rendered or unmounted; the subscription outlives the component. -/
def step (degrees : Number → Number → Number) (m : MyMarker) (e : Nat × MarkerEvent) :
    Option MyMarker :=
  if e.1 < m.clock then none
  else
    let m := m.atTime e.1
    match e.2 with
    | .childChanged _ v => some (m.deliver degrees v)
    | .newProps p => if m.mounted then some (m.newProps p) else none
    | .interval id =>
      match m.dueInterval id with
      | some i => some ((m.reschedule id).fire i.callback)
      | none => none
    | .unmount => if m.mounted then some m.componentWillUnmount else none

def fired (m : MyMarker) (e : Nat × MarkerEvent) : Option Callback :=
  match e.2 with
  | .interval id => ((m.atTime e.1).dueInterval id).map Interval.callback
  | _ => none

/-- The ways a timed event is taken. -/
inductive Stepped (degrees : Number → Number → Number) (m : MyMarker) (t : Nat) :
    MarkerEvent → MyMarker → Prop where
  | handled (h : Handled degrees (m.atTime t) v m') : Stepped degrees m t (.childChanged k v) m'
  | thrown (h : Throws m.crowd v) : Stepped degrees m t (.childChanged k v) (m.atTime t)
  | newProps (p : Props) (hm : m.mounted) :
      Stepped degrees m t (.newProps p) ((m.atTime t).newProps p)
  | interval (hi : i ∈ m.intervals) (hid : i.id = n) (hdue : i.due ≤ t)
      (hf : m.fired (t, .interval n) = some i.callback) :
      Stepped degrees m t (.interval n) (((m.atTime t).reschedule n).fire i.callback)
  | unmount (hm : m.mounted) : Stepped degrees m t .unmount (m.atTime t).componentWillUnmount

variable {degrees : Number → Number → Number} {m m' : MyMarker}

theorem deliver_stepped (m : MyMarker) (t : Nat) (k : String) (v : Json) :
    Stepped degrees m t (.childChanged k v) ((m.atTime t).deliver degrees v) := by
  rw [deliver]
  cases hc : (m.atTime t).childChanged degrees v with
  | none => exact .thrown (childChanged_eq_none_iff (m := m.atTime t).1 hc)
  | some m' => exact .handled (childChanged_handled hc)

theorem step_stepped (h : m.step degrees e = some m') :
    m.clock ≤ e.1 ∧ Stepped degrees m e.1 e.2 m' := by
  obtain ⟨t, e⟩ := e
  rw [step] at h
  split at h
  · cases h
  · rename_i ht
    refine ⟨Nat.le_of_not_lt ht, ?_⟩
    cases e with
    | childChanged k v =>
      cases h
      exact deliver_stepped m t k v
    | newProps p =>
      simp only at h
      split at h
      · rename_i hm
        cases h
        exact .newProps p hm
      · cases h
    | interval id =>
      simp only at h
      cases hd : (m.atTime t).dueInterval id with
      | none =>
        rw [hd] at h
        cases h
      | some i =>
        rw [hd] at h
        cases h
        have hi := List.mem_of_find?_eq_some hd
        have hp := List.find?_some hd
        simp only [Bool.decide_and, Bool.and_eq_true, decide_eq_true_eq] at hp
        refine .interval hi hp.1 hp.2 ?_
        simp only [fired, hd, Option.map_some]
    | unmount =>
      simp only at h
      split at h
      · rename_i hm
        cases h
        exact .unmount hm
      · cases h

theorem mem_setInterval : i ∈ (m.setInterval cb).intervals ↔
    i ∈ m.intervals ∨ i = ⟨m.nextId, cb, m.clock + 10000⟩ := by
  simp only [setInterval, List.mem_append, List.mem_singleton]

theorem mem_clearInterval : i ∈ m.clearInterval.intervals ↔
    i ∈ m.intervals ∧ some i.id ≠ m.intervalId := by
  simp only [clearInterval, List.mem_filter, decide_eq_true_eq]

/-- An interval started by the step that led to `m`. Removal intervals are started by rendering
an inActive marker. -/
def Started (m : MyMarker) (i : Interval) : Prop :=
  i.due = m.clock + 10000 ∧
    (i.callback = .removeMarker → m.mounted ∧ m.status = some (.str "inActive"))

theorem rerender_intervals (hm : m.mounted) (hi : i ∈ m.rerender.intervals) :
    i ∈ m.intervals ∨ Started m.rerender i := by
  rw [Started, status]
  rw [rerender_clock, rerender_mounted, rerender_crowd]
  rw [rerender_eq] at hi
  split at hi
  · rename_i hs
    obtain hi | rfl := mem_setInterval.1 hi
    · exact .inl hi
    · exact .inr ⟨rfl, fun _ => ⟨hm, hs⟩⟩
  · exact .inl hi

theorem setCrowd_intervals {c : Record Json} (hi : i ∈ (m.setCrowd c).intervals) :
    i ∈ m.intervals ∨ Started (m.setCrowd c) i := by
  rw [setCrowd] at hi ⊢
  split at hi
  · rename_i hm
    rw [if_pos hm]
    exact rerender_intervals (m := { m with crowd := c }) hm hi
  · exact .inl hi

theorem Started.of_timer (hi : i = ⟨n, .timer, t + 10000⟩) (ht : m.clock = t) : Started m i := by
  subst hi ht
  exact ⟨rfl, fun h => by cases h⟩

/-- The silence timer of the constructor, and for an inActive crowd one removal interval for each
of the two renders. -/
theorem mount_intervals {props : Props} (hi : i ∈ (mount props t).intervals) :
    Started (mount props t) i := by
  have hconstructed {j : Interval} (hj : j ∈ (constructor props t).intervals) :
      Started (mount props t) j := by
    obtain hj | hj := mem_setInterval.1 hj
    · cases hj
    · exact .of_timer hj (mount_clock props t)
  rw [mount, componentDidMount] at hi
  obtain hi | hi := setCrowd_intervals hi
  · have hrendered : i ∈ (constructor props t).rerender.intervals := hi
    rw [rerender_eq] at hrendered
    split at hrendered
    · rename_i hs
      obtain hi | rfl := mem_setInterval.1 hrendered
      · exact hconstructed hi
      · refine ⟨congrArg (· + 10000) (mount_clock props t).symm, ?_⟩
        intro _
        refine ⟨mount_mounted props t, ?_⟩
        rw [status, mount_crowd]
        exact hs
    · exact hconstructed hrendered
  · exact hi

theorem handled_intervals (h : Handled degrees m v m') (hi : i ∈ m'.intervals) :
    (i ∈ m.intervals ∧ (Restarts m.crowd v → some i.id ≠ m.intervalId)) ∨ Started m' i := by
  have hrestarted {c : Record Json}
      (hi : i ∈ ((m.clearInterval.setInterval .timer).setCrowd c).intervals) :
      (i ∈ m.intervals ∧ some i.id ≠ m.intervalId) ∨
        Started ((m.clearInterval.setInterval .timer).setCrowd c) i := by
    obtain hi | hi := setCrowd_intervals hi
    · obtain hi | hi := mem_setInterval.1 hi
      · exact .inl (mem_clearInterval.1 hi)
      · exact .inr (.of_timer hi (setCrowd_clock _ _))
    · exact .inr hi
  cases h with
  | location hlat hloc => exact (hrestarted hi).imp (fun h => ⟨h.1, fun _ => h.2⟩) id
  | count hlat hnum =>
    refine (setCrowd_intervals hi).imp (fun h => ⟨h, ?_⟩) id
    rintro (hr | hr)
    · exact absurd hr.1 hlat
    · exact absurd hr.2.1 (by rw [hnum]; exact Bool.false_ne_true)
  | inActive hv =>
    refine (setCrowd_intervals hi).imp (fun h => ?_) id
    obtain ⟨h, hne⟩ := mem_clearInterval.1 h
    exact ⟨h, fun _ => hne⟩
  | status hlat hnum hv hne => exact (hrestarted hi).imp (fun h => ⟨h.1, fun _ => h.2⟩) id
  | ignored hlat hnum hv =>
    refine .inl ⟨hi, ?_⟩
    rintro (hr | hr)
    · exact absurd hr.1 hlat
    · exact absurd hr.2.2 hv

/-- A live interval is an earlier one, due no earlier than it was, or a new one. An earlier one
was not cleared: if the step reached `clearInterval`, its identifier was not the stored one. -/
theorem stepped_intervals (h : Stepped degrees m t e m') (hi : i ∈ m'.intervals) :
    (∃ j ∈ m.intervals, j.id = i.id ∧ j.callback = i.callback ∧ j.due ≤ i.due ∧
      ∀ k v, e = .childChanged k v → Restarts m.crowd v → some j.id ≠ m.intervalId) ∨
    Started m' i := by
  cases h with
  | handled h =>
    refine (handled_intervals h hi).imp (fun ⟨hi, hr⟩ => ?_) id
    refine ⟨i, hi, rfl, rfl, Nat.le_refl _, ?_⟩
    rintro k v ⟨⟩
    exact hr
  | thrown h =>
    refine .inl ⟨i, hi, rfl, rfl, Nat.le_refl _, ?_⟩
    rintro k v ⟨⟩ (hr | hr)
    · rw [h.2] at hr
      exact absurd hr.2 Bool.false_ne_true
    · exact absurd h.1 hr.1
  | newProps p hm =>
    have hm' : ({ m.atTime t with props := p }).mounted := hm
    refine (rerender_intervals hm' hi).imp (fun hi => ?_) id
    exact ⟨i, hi, rfl, rfl, Nat.le_refl _, by rintro k v ⟨⟩⟩
  | interval hj hid hdue hf =>
    rw [fire_eq] at hi ⊢
    refine (setCrowd_intervals hi).imp (fun hi => ?_) id
    obtain ⟨j, hj, rfl⟩ := List.mem_map.1 hi
    refine ⟨j, hj, ?_, ?_, ?_, by rintro k v ⟨⟩⟩ <;> split <;> simp
  | unmount hm =>
    obtain ⟨hi, -⟩ := mem_clearInterval.1 hi
    exact .inl ⟨i, hi, rfl, rfl, Nat.le_refl _, by rintro k v ⟨⟩⟩

theorem stepped_clock (h : Stepped degrees m t e m') : m'.clock = t := by
  cases h with
  | handled h => exact (handled_frame h).2.2.2
  | thrown h => rfl
  | newProps p hm => exact rerender_clock _
  | interval hi hid hdue hf =>
    rw [fire_eq, setCrowd_clock]
    rfl
  | unmount hm => rfl

theorem stepped_mounted (h : Stepped degrees m t e m') (hm : m'.mounted) : m.mounted := by
  cases h with
  | handled h =>
    rw [(handled_frame h).2.2.1] at hm
    exact hm
  | thrown h => exact hm
  | newProps p hm' => exact hm'
  | interval hi hid hdue hf =>
    rw [fire_eq, setCrowd_mounted] at hm
    exact hm
  | unmount hm' => exact hm'

theorem stepped_crowd (h : Stepped degrees m t e m') :
    m'.crowd = m.crowd ∨ (m.mounted ∧
      ((∃ k v, e = .childChanged k v ∧ m'.crowd = nextCrowd degrees m.crowd v) ∨
        (m.fired (t, e) = some .timer ∧ m'.crowd = m.crowd.put "lost" (.bool true)) ∨
        (m.fired (t, e) = some .removeMarker ∧
          m'.crowd = m.crowd.put "status" (.str "Terminated")))) := by
  cases h with
  | @handled v m' k h =>
    by_cases hm : m.mounted
    · exact .inr ⟨hm, .inl ⟨k, v, rfl, handled_crowd (m := m.atTime t) h hm⟩⟩
    · exact .inl (handled_crowd_unmounted (m := m.atTime t) h hm)
  | thrown h => exact .inl rfl
  | newProps p hm => exact .inl (rerender_crowd _)
  | @interval i n hi hid hdue hf =>
    have hmounted : ((m.atTime t).reschedule n).mounted = m.mounted := rfl
    rw [fire_eq]
    by_cases hm : m.mounted
    · rw [setCrowd_crowd (hmounted.trans hm)]
      cases hc : i.callback with
      | timer => exact .inr ⟨hm, .inr (.inl ⟨hf.trans (congrArg some hc), rfl⟩)⟩
      | removeMarker => exact .inr ⟨hm, .inr (.inr ⟨hf.trans (congrArg some hc), rfl⟩)⟩
    · rw [setCrowd_unmounted (by rwa [hmounted])]
      exact .inl rfl
  | unmount hm => exact .inl rfl

theorem fired_due (h : Stepped degrees m t e m') (hf : m.fired (t, e) = some cb) :
    ∃ i ∈ m.intervals, i.callback = cb ∧ i.due ≤ t := by
  cases h with
  | @interval i n hi hid hdue hf' =>
    rw [hf'] at hf
    exact ⟨i, hi, Option.some.inj hf, hdue⟩
  | _ => cases hf

theorem stepped_childChanged (h : Stepped degrees m t (.childChanged k v) m') (hm : m.mounted) :
    m'.crowd = nextCrowd degrees m.crowd v := by
  cases h with
  | handled h => exact handled_crowd (m := m.atTime t) h hm
  | thrown h =>
    obtain ⟨hlat, hloc⟩ := h
    simp only [nextCrowd, hlat, hloc, ↓reduceIte]
    rfl

theorem rerender_removal (hs : m.status = some (.str "inActive")) :
    ∃ i ∈ m.rerender.intervals, i.callback = .removeMarker := by
  rw [rerender_eq, if_pos hs]
  exact ⟨_, mem_setInterval.2 (.inr rfl), rfl⟩

theorem setCrowd_removal (hm : (m.setCrowd c).mounted)
    (hs : (m.setCrowd c).status = some (.str "inActive")) :
    ∃ i ∈ (m.setCrowd c).intervals, i.callback = .removeMarker := by
  rw [setCrowd_mounted] at hm
  rw [status, setCrowd_crowd hm] at hs
  rw [setCrowd, if_pos hm]
  exact rerender_removal hs

theorem stepped_removal (h : Stepped degrees m t e m') (hm : m'.mounted)
    (hs : m'.status = some (.str "inActive")) :
    (∃ i ∈ m'.intervals, i.callback = .removeMarker) ∨
      (m'.intervals = m.intervals ∧ m'.status = m.status) := by
  cases h with
  | handled h =>
    cases h with
    | ignored hlat hnum hv => exact .inr ⟨rfl, rfl⟩
    | _ => exact .inl (setCrowd_removal hm hs)
  | thrown h => exact .inr ⟨rfl, rfl⟩
  | newProps p hm =>
    have hs' := hs
    rw [newProps, status, rerender_crowd] at hs'
    exact .inl (rerender_removal hs')
  | interval hi hid hdue hf =>
    rw [fire_eq] at hm hs ⊢
    exact .inl (setCrowd_removal hm hs)
  | unmount hm' => exact absurd hm Bool.false_ne_true

end MyMarker

end CrowdTracking
