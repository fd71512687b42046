import CrowdTracking.Crowd
import CrowdTracking.Script

namespace CrowdTracking
set_option autoImplicit true
open Script

structure Props where
  campaign_id : String
  index : Nat
  crowd : Record Json
  showActive : Bool
  showInActive : Bool
  showLost : Bool
deriving DecidableEq

inductive Callback where
  | timer
  | removeMarker
deriving DecidableEq

/-- A live interval, with the earliest time of its next firing in milliseconds. -/
structure Interval where
  id : Nat
  callback : Callback
  due : Nat
deriving DecidableEq

/-- A marker instance: `crowd` and `intervalId` are its React state, `intervals` are the intervals
it has started and not cleared, `subscription` is the crowd node it listens to. -/
structure MyMarker where
  props : Props
  crowd : Record Json
  intervalId : Option Nat
  subscription : Option String
  mounted : Bool
  clock : Nat
  nextId : Nat
  intervals : List Interval
deriving DecidableEq

inductive SymbolPath where
  | FORWARD_CLOSED_ARROW
  | CIRCLE
deriving DecidableEq

structure View where
  lat : Json
  lng : Option Json
  path : SymbolPath
  scale : Number
  fillColor : String
  rotation : Json
deriving DecidableEq

namespace MyMarker

def status (m : MyMarker) : Option Json := m.crowd.get "status"

def lost (m : MyMarker) : Bool := truthy (m.crowd.get "lost")

/-- `this.state.intervalId = setInterval(callback, 10000)` -/
def setInterval (m : MyMarker) (callback : Callback) : MyMarker :=
  { m with
    intervals := m.intervals ++ [⟨m.nextId, callback, m.clock + 10000⟩]
    intervalId := some m.nextId
    nextId := m.nextId + 1 }

/-- `clearInterval(this.state.intervalId)` -/
def clearInterval (m : MyMarker) : MyMarker :=
  { m with intervals := m.intervals.filter fun i => some i.id ≠ m.intervalId }

/-- `Math.min(3 + n / 30, 15)` -/
def scaleOf : Number → Number
  | .finite q => .finite (min (3 + q / 30) 15)
  | .posInfinity => .finite 15
  | n => n

/-- Rendering returns the element and, for an inActive marker, starts a removal interval. -/
def render (m : MyMarker) : MyMarker × Option View :=
  let status := m.status
  let lost := m.lost
  let (color, path, m) :=
    if lost ∧ status = some (.str "Active") then ("#FF1744", SymbolPath.CIRCLE, m)
    else if status = some (.str "inActive") then
      ("#2979FF", SymbolPath.CIRCLE, m.setInterval .removeMarker)
    else ("#00E676", SymbolPath.FORWARD_CLOSED_ARROW, m)
  let scale :=
    match m.crowd.get "numberOfPeople" with
    | some n => scaleOf (parseInt n)
    | none => .finite 3
  let view :=
    if status = some (.str "Terminated") then none
    else if status = some (.str "Active") ∧ ¬m.props.showActive ∧ ¬lost then none
    else if status = some (.str "inActive") ∧ ¬m.props.showInActive then none
    else if lost ∧ ¬m.props.showLost then none
    else
      match m.crowd.get "location" with
      | none => none
      | some location =>
        match location.child "lat" with
        | none => none
        | some lat =>
          some ⟨lat, location.child "lng", path, scale, color,
            (location.child "heading").getD (.num (.finite 0))⟩
  (m, view)

def rerender (m : MyMarker) : MyMarker := m.render.1

def view (m : MyMarker) : Option View := m.render.2

/-- `setState({crowd})`: an unmounted component ignores it. -/
def setCrowd (m : MyMarker) (crowd : Record Json) : MyMarker :=
  if m.mounted then { m with crowd := crowd }.rerender else m

def timer (m : MyMarker) : MyMarker := m.setCrowd (m.crowd.put "lost" (.bool true))

def removeMarker (m : MyMarker) : MyMarker :=
  m.setCrowd (m.crowd.put "status" (.str "Terminated"))

def constructor (props : Props) (clock : Nat) : MyMarker :=
  { props := props, crowd := props.crowd, intervalId := none, subscription := none,
    mounted := false, clock := clock, nextId := 0, intervals := [] : MyMarker }.setInterval .timer

/-- `setState({...this.props})` is applied after the subscription is made. -/
def componentDidMount (m : MyMarker) : MyMarker :=
  { m with mounted := true, subscription := some m.props.campaign_id }.setCrowd m.props.crowd

def componentWillUnmount (m : MyMarker) : MyMarker := { m.clearInterval with mounted := false }

/-- React mounts an element: constructor, first render, `componentDidMount`. -/
def mount (props : Props) (clock : Nat) : MyMarker :=
  (constructor props clock).rerender.componentDidMount

def newProps (m : MyMarker) (props : Props) : MyMarker := { m with props := props }.rerender

/-- The `child_changed` handler on the snapshot's value; `none` is a thrown `TypeError`.
`degrees y x` stands for `Math.atan2(y, x) * (180 / Math.PI)`. -/
def childChanged (degrees : Number → Number → Number) (m : MyMarker) (crowd : Json) :
    Option MyMarker :=
  if truthy (crowd.child "lat") then
    match m.crowd.get "location" with
    | none => none
    | some location =>
      let lat_1 := parseFloat (location.child "lat")
      let lng_1 := parseFloat (location.child "lng")
      let lat_2 := parseFloat (crowd.child "lat")
      let lng_2 := parseFloat (crowd.child "lng")
      let degree := degrees (lng_2.sub lng_1) (lat_2.sub lat_1)
      let crowd := Json.obj (crowd.fields.put "heading" (.num degree))
      let m := m.clearInterval.setInterval .timer
      some (m.setCrowd
        (((m.crowd.put "location" crowd).put "lost" (.bool false)).put "status" (.str "Active")))
  else if ¬isNaN crowd then
    some (m.setCrowd (m.crowd.put "numberOfPeople" crowd))
  else if truthy (some crowd) then
    let m := m.clearInterval
    let m := if crowd = .str "inActive" then m.clearInterval else m.setInterval .timer
    some (m.setCrowd (m.crowd.put "status" crowd))
  else some m

/-- The database library reports a throwing handler and keeps delivering. -/
def deliver (degrees : Number → Number → Number) (m : MyMarker) (crowd : Json) : MyMarker :=
  (m.childChanged degrees crowd).getD m

def fire (m : MyMarker) : Callback → MyMarker
  | .timer => m.timer
  | .removeMarker => m.removeMarker

/-- The location the handler stores: the snapshot with the computed heading. -/
def turned (degrees : Number → Number → Number) (location crowd : Json) : Json :=
  .obj (crowd.fields.put "heading" (.num (degrees
    ((parseFloat (crowd.child "lng")).sub (parseFloat (location.child "lng")))
    ((parseFloat (crowd.child "lat")).sub (parseFloat (location.child "lat"))))))

def moved (degrees : Number → Number → Number) (c : Record Json) (location crowd : Json) :
    Record Json :=
  ((c.put "location" (turned degrees location crowd)).put "lost" (.bool false)).put
    "status" (.str "Active")

/-- The handler reads `this.state.crowd.location.lat` of a crowd without a location. -/
def Throws (c : Record Json) (v : Json) : Prop :=
  truthy (v.child "lat") ∧ c.get "location" = none

/-- The handler reaches `clearInterval(this.state.intervalId)`. -/
def Restarts (c : Record Json) (v : Json) : Prop :=
  (truthy (v.child "lat") ∧ (c.get "location").isSome) ∨
    (¬truthy (v.child "lat") ∧ isNaN v ∧ truthy (some v))

instance (c : Record Json) (v : Json) : Decidable (Restarts c v) :=
  inferInstanceAs (Decidable (_ ∨ _))

/-- The ways through the `child_changed` handler that return. -/
inductive Handled (degrees : Number → Number → Number) (m : MyMarker) (v : Json) :
    MyMarker → Prop where
  | location (hlat : truthy (v.child "lat")) (hloc : m.crowd.get "location" = some l) :
      Handled degrees m v
        ((m.clearInterval.setInterval .timer).setCrowd (moved degrees m.crowd l v))
  | count (hlat : ¬truthy (v.child "lat")) (hnum : isNaN v = false) :
      Handled degrees m v (m.setCrowd (m.crowd.put "numberOfPeople" v))
  | inActive (hv : v = .str "inActive") :
      Handled degrees m v (m.clearInterval.setCrowd (m.crowd.put "status" v))
  | status (hlat : ¬truthy (v.child "lat")) (hnum : isNaN v) (hv : truthy (some v))
      (hne : v ≠ .str "inActive") :
      Handled degrees m v
        ((m.clearInterval.setInterval .timer).setCrowd (m.crowd.put "status" v))
  | ignored (hlat : ¬truthy (v.child "lat")) (hnum : isNaN v) (hv : ¬truthy (some v)) :
      Handled degrees m v m

variable {degrees : Number → Number → Number} {m m' : MyMarker} {v : Json}

theorem clearInterval_clearInterval (m : MyMarker) :
    m.clearInterval.clearInterval = m.clearInterval := by
  simp [clearInterval, List.filter_filter]

theorem childChanged_handled (h : m.childChanged degrees v = some m') :
    Handled degrees m v m' := by
  rw [childChanged] at h
  split at h
  · rename_i hlat
    cases hl : m.crowd.get "location" with
    | none =>
      rw [hl] at h
      cases h
    | some l =>
      rw [hl] at h
      cases h
      exact .location hlat hl
  · rename_i hlat
    split at h
    · rename_i hnum
      cases h
      exact .count hlat (by simpa using hnum)
    · rename_i hnum
      split at h
      · rename_i hv
        by_cases hi : v = .str "inActive"
        · cases h
          simp only [if_pos hi, clearInterval_clearInterval]
          exact .inActive hi
        · cases h
          simp only [if_neg hi]
          exact .status hlat (by simpa using hnum) hv hi
      · rename_i hv
        cases h
        exact .ignored hlat (by simpa using hnum) hv

theorem childChanged_eq_none_iff : m.childChanged degrees v = none ↔ Throws m.crowd v := by
  rw [childChanged, Throws]
  by_cases hlat : truthy (v.child "lat")
  · cases hl : m.crowd.get "location" <;> simp [hlat]
  · simp only [hlat, Bool.false_eq_true, ↓reduceIte, false_and, iff_false]
    split
    · exact Option.some_ne_none _
    · split <;> exact Option.some_ne_none _

theorem rerender_eq (m : MyMarker) :
    m.rerender = if m.status = some (.str "inActive") then m.setInterval .removeMarker else m := by
  rw [rerender, render]
  by_cases hi : m.status = some (.str "inActive")
  · simp [hi]
  · by_cases ha : m.lost ∧ m.status = some (.str "Active")
    · simp [ha]
    · simp [hi, ha]

/-- A render touches the intervals only. -/
theorem rerender_unchanged (f : MyMarker → α) (hf : ∀ m cb, f (m.setInterval cb) = f m)
    (m : MyMarker) : f m.rerender = f m := by
  rw [rerender_eq]
  split
  · exact hf m .removeMarker
  · rfl

@[simp] theorem rerender_props (m : MyMarker) : m.rerender.props = m.props :=
  rerender_unchanged props (fun _ _ => rfl) m

@[simp] theorem rerender_crowd (m : MyMarker) : m.rerender.crowd = m.crowd :=
  rerender_unchanged crowd (fun _ _ => rfl) m

@[simp] theorem rerender_subscription (m : MyMarker) :
    m.rerender.subscription = m.subscription :=
  rerender_unchanged subscription (fun _ _ => rfl) m

@[simp] theorem rerender_mounted (m : MyMarker) : m.rerender.mounted = m.mounted :=
  rerender_unchanged mounted (fun _ _ => rfl) m

@[simp] theorem rerender_clock (m : MyMarker) : m.rerender.clock = m.clock :=
  rerender_unchanged clock (fun _ _ => rfl) m

theorem setCrowd_unchanged (f : MyMarker → α) (hf : ∀ m cb, f (m.setInterval cb) = f m)
    (hc : ∀ (m : MyMarker) c, f { m with crowd := c } = f m) (m : MyMarker) (c : Record Json) :
    f (m.setCrowd c) = f m := by
  rw [setCrowd]
  split
  · rw [rerender_unchanged f hf, hc]
  · rfl

@[simp] theorem setCrowd_props (m : MyMarker) (c : Record Json) :
    (m.setCrowd c).props = m.props :=
  setCrowd_unchanged props (fun _ _ => rfl) (fun _ _ => rfl) m c

@[simp] theorem setCrowd_subscription (m : MyMarker) (c : Record Json) :
    (m.setCrowd c).subscription = m.subscription :=
  setCrowd_unchanged subscription (fun _ _ => rfl) (fun _ _ => rfl) m c

@[simp] theorem setCrowd_mounted (m : MyMarker) (c : Record Json) :
    (m.setCrowd c).mounted = m.mounted :=
  setCrowd_unchanged mounted (fun _ _ => rfl) (fun _ _ => rfl) m c

@[simp] theorem setCrowd_clock (m : MyMarker) (c : Record Json) :
    (m.setCrowd c).clock = m.clock :=
  setCrowd_unchanged clock (fun _ _ => rfl) (fun _ _ => rfl) m c

theorem setCrowd_unmounted (hm : ¬m.mounted) (c : Record Json) : m.setCrowd c = m := by
  simp only [setCrowd, hm, Bool.false_eq_true, ↓reduceIte]

theorem setCrowd_crowd (hm : m.mounted) (c : Record Json) : (m.setCrowd c).crowd = c := by
  simp only [setCrowd, hm, ↓reduceIte, rerender_crowd]

theorem fire_eq (m : MyMarker) (cb : Callback) :
    m.fire cb = m.setCrowd (match cb with
      | .timer => m.crowd.put "lost" (.bool true)
      | .removeMarker => m.crowd.put "status" (.str "Terminated")) := by
  cases cb <;> rfl

@[simp] theorem mount_props (props : Props) (clock : Nat) : (mount props clock).props = props := by
  simp only [mount, componentDidMount, setCrowd_props, rerender_props]
  rfl

@[simp] theorem mount_subscription (props : Props) (clock : Nat) :
    (mount props clock).subscription = some props.campaign_id := by
  simp only [mount, componentDidMount, setCrowd_subscription, rerender_props]
  rfl

@[simp] theorem mount_mounted (props : Props) (clock : Nat) : (mount props clock).mounted := by
  simp only [mount, componentDidMount, setCrowd_mounted]

@[simp] theorem mount_clock (props : Props) (clock : Nat) : (mount props clock).clock = clock := by
  rw [mount, componentDidMount, setCrowd_clock]
  exact rerender_clock (constructor props clock)

@[simp] theorem mount_crowd (props : Props) (clock : Nat) :
    (mount props clock).crowd = props.crowd := by
  rw [mount, componentDidMount, setCrowd_crowd rfl, rerender_props]
  rfl

/-- What a delivered snapshot does to the crowd shown: a function of the crowd alone. -/
def nextCrowd (degrees : Number → Number → Number) (c : Record Json) (v : Json) : Record Json :=
  if truthy (v.child "lat") then
    match c.get "location" with
    | none => c
    | some l => moved degrees c l v
  else if ¬isNaN v then c.put "numberOfPeople" v
  else if truthy (some v) then c.put "status" v
  else c

theorem nextCrowd_status_of_restarts {c : Record Json} (h : Restarts c v) :
    (nextCrowd degrees c v).get "status" =
      some (if truthy (v.child "lat") then .str "Active" else v) := by
  rw [nextCrowd]
  rcases h with ⟨hlat, hloc⟩ | ⟨hlat, hnum, hv⟩
  · obtain ⟨l, hl⟩ := Option.isSome_iff_exists.1 hloc
    rw [if_pos hlat, if_pos hlat, hl]
    exact Record.get_put_self _ _ _
  · rw [if_neg hlat, if_neg hlat, hnum, if_neg (not_not.2 rfl), if_pos hv]
    exact Record.get_put_self _ _ _

theorem nextCrowd_status_of_not_restarts {c : Record Json} (h : ¬Restarts c v) :
    (nextCrowd degrees c v).get "status" = c.get "status" := by
  rw [nextCrowd]
  by_cases hlat : truthy (v.child "lat")
  · cases hl : c.get "location" with
    | none => rw [if_pos hlat]
    | some l => exact absurd (.inl ⟨hlat, by rw [hl]; rfl⟩) h
  · rw [if_neg hlat]
    split
    · exact Record.get_put_of_ne _ _ (by decide)
    · rename_i hnum
      split
      · rename_i hv
        exact absurd (.inr ⟨hlat, by simpa using hnum, hv⟩) h
      · rfl

theorem nextCrowd_lost {c : Record Json}
    (h : (nextCrowd degrees c v).get "lost" = some (.bool true)) :
    c.get "lost" = some (.bool true) := by
  rw [nextCrowd] at h
  split at h
  · cases hl : c.get "location" with
    | none =>
      rw [hl] at h
      exact h
    | some l =>
      rw [hl] at h
      simp [moved, Record.get_put] at h
  · split at h
    · rwa [Record.get_put_of_ne _ _ (by decide)] at h
    · split at h
      · rwa [Record.get_put_of_ne _ _ (by decide)] at h
      · exact h

theorem handled_crowd (h : Handled degrees m v m') (hm : m.mounted) :
    m'.crowd = nextCrowd degrees m.crowd v := by
  have hcleared : m.clearInterval.mounted := hm
  have hrestarted : (m.clearInterval.setInterval .timer).mounted := hm
  rw [nextCrowd]
  cases h with
  | location hlat hloc => rw [setCrowd_crowd hrestarted, if_pos hlat, hloc]
  | count hlat hnum => rw [setCrowd_crowd hm, if_neg hlat, hnum, if_pos Bool.false_ne_true]
  | inActive hv =>
    subst v
    rw [setCrowd_crowd hcleared]
    rfl
  | status hlat hnum hv hne =>
    rw [setCrowd_crowd hrestarted, if_neg hlat, hnum, if_neg (not_not.2 rfl), if_pos hv]
  | ignored hlat hnum hv => rw [if_neg hlat, hnum, if_neg (not_not.2 rfl), if_neg hv]

theorem handled_crowd_unmounted (h : Handled degrees m v m') (hm : ¬m.mounted) :
    m'.crowd = m.crowd := by
  have hcleared : ¬m.clearInterval.mounted := hm
  have hrestarted : ¬(m.clearInterval.setInterval .timer).mounted := hm
  cases h with
  | location hlat hloc =>
    rw [setCrowd_unmounted hrestarted]
    rfl
  | count hlat hnum => rw [setCrowd_unmounted hm]
  | inActive hv =>
    rw [setCrowd_unmounted hcleared]
    rfl
  | status hlat hnum hv hne =>
    rw [setCrowd_unmounted hrestarted]
    rfl
  | ignored hlat hnum hv => rfl

theorem deliver_crowd (hm : m.mounted) (v : Json) :
    (m.deliver degrees v).crowd = nextCrowd degrees m.crowd v := by
  rw [deliver]
  cases h : m.childChanged degrees v with
  | none =>
    obtain ⟨hlat, hloc⟩ := childChanged_eq_none_iff.1 h
    simp only [Option.getD_none, nextCrowd, hlat, hloc, ↓reduceIte]
  | some m' => exact handled_crowd (childChanged_handled h) hm

theorem deliver_crowd_unmounted (hm : ¬m.mounted) (v : Json) :
    (m.deliver degrees v).crowd = m.crowd := by
  rw [deliver]
  cases h : m.childChanged degrees v with
  | none => rfl
  | some m' => exact handled_crowd_unmounted (childChanged_handled h) hm

theorem handled_frame (h : Handled degrees m v m') :
    m'.props = m.props ∧ m'.subscription = m.subscription ∧ m'.mounted = m.mounted ∧
      m'.clock = m.clock := by
  cases h <;> simp [setInterval, clearInterval]

theorem deliver_frame (m : MyMarker) (v : Json) :
    (m.deliver degrees v).props = m.props ∧ (m.deliver degrees v).subscription = m.subscription ∧
      (m.deliver degrees v).mounted = m.mounted ∧ (m.deliver degrees v).clock = m.clock := by
  rw [deliver]
  cases h : m.childChanged degrees v with
  | none => exact ⟨rfl, rfl, rfl, rfl⟩
  | some m' => exact handled_frame (childChanged_handled h)

end MyMarker

end CrowdTracking
