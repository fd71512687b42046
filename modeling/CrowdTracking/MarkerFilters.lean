import CrowdTracking.MarkerIntervals

namespace CrowdTracking
set_option autoImplicit true
open Script Runs

namespace MyMarker

def color (m : MyMarker) : String :=
  if m.lost ∧ m.status = some (.str "Active") then "#FF1744"
  else if m.status = some (.str "inActive") then "#2979FF"
  else "#00E676"

/-- The filters and the states that `render` answers with an empty element. -/
def Hidden (m : MyMarker) : Prop :=
  m.status = some (.str "Terminated") ∨
    (m.status = some (.str "Active") ∧ ¬m.props.showActive ∧ ¬m.lost) ∨
    (m.status = some (.str "inActive") ∧ ¬m.props.showInActive) ∨ (m.lost ∧ ¬m.props.showLost)

def HasPosition (m : MyMarker) : Prop :=
  ((m.crowd.get "location").bind (·.child "lat")).isSome

/-- The checkbox of the category that the color stands for. -/
def ticked (m : MyMarker) : Bool :=
  if m.color = "#FF1744" then m.props.showLost
  else if m.color = "#2979FF" then m.props.showInActive
  else m.props.showActive

/-- On the map exactly with the checkbox of its color ticked. -/
def FollowsCheckbox (m : MyMarker) : Prop :=
  m.mounted → m.HasPosition → m.status ≠ some (.str "Terminated") → (m.view.isSome ↔ m.ticked)

/-- The events of a marker, with the callback that each firing of an interval calls. -/
abbrev MarkerRecord := List (MarkerEvent × Option Callback)

def record (degrees : Number → Number → Number) (s : MyMarker × MarkerRecord)
    (e : Nat × MarkerEvent) : Option (MyMarker × MarkerRecord) :=
  (s.1.step degrees e).map fun m => (m, s.2 ++ [(e.2, s.1.fired e)])

/-- The status that an event tells. A position tells it to a marker mounted with a location. -/
def statusTold (props : Props) : MarkerEvent × Option Callback → Option Json
  | (.childChanged _ v, _) =>
    if truthy (v.child "lat") then
      if (props.crowd.get "location").isSome then some (.str "Active") else none
    else if isNaN v ∧ truthy (some v) then some v
    else none
  | (.interval _, some .removeMarker) => some (.str "Terminated")
  | _ => none

/-- A position finds a marker again, its silence timer loses it. -/
def lostTold (props : Props) : MarkerEvent × Option Callback → Option Bool
  | (.childChanged _ v, _) =>
    if truthy (v.child "lat") ∧ (props.crowd.get "location").isSome then some false else none
  | (.interval _, some .timer) => some true
  | _ => none

/-- A click on a checkbox gives the marker new props. -/
def propsGiven : MarkerEvent × Option Callback → Option Props
  | (.newProps p, _) => some p
  | _ => none

def lastStatus (props : Props) (hist : MarkerRecord) : Option Json :=
  (latest (statusTold props) hist).or (props.crowd.get "status")

def lastLost (props : Props) (hist : MarkerRecord) : Bool :=
  (latest (lostTold props) hist).getD (truthy (props.crowd.get "lost"))

def lastProps (props : Props) (hist : MarkerRecord) : Props :=
  (latest propsGiven hist).getD props

/-- The crowd was mounted with a position, or with a location and a position has come since. -/
def Positioned (props : Props) (hist : MarkerRecord) : Prop :=
  ∃ location, props.crowd.get "location" = some location ∧
    ((location.child "lat").isSome ∨
      ∃ e ∈ hist, ∃ k v, e.1 = .childChanged k v ∧ truthy (v.child "lat"))

/-- A blue marker is not lost with only `showInActive` ticked of the two; a green one of another
status than Active is lost with `showLost` unticked exactly if `showActive` is unticked. -/
structure FiltersAgree (status : Option Json) (lost : Bool) (props : Props) : Prop where
  blue : status = some (.str "inActive") → ¬(lost ∧ props.showInActive ∧ ¬props.showLost)
  green : status ≠ some (.str "inActive") → status ≠ some (.str "Active") →
    (lost ∧ ¬props.showLost ↔ ¬props.showActive)

/-- The filters agree on what the events of a marker say, while it is mounted, has a position and
is not Terminated. -/
def Filtered (props : Props) (hist : MarkerRecord) : Prop :=
  (∀ e ∈ hist, e.1 ≠ .unmount) → Positioned props hist →
    lastStatus props hist ≠ some (.str "Terminated") →
      FiltersAgree (lastStatus props hist) (lastLost props hist) (lastProps props hist)

instance (m : MyMarker) : Decidable m.HasPosition :=
  inferInstanceAs (Decidable ((_ : Option Json).isSome = true))

instance : DecidablePred FollowsCheckbox := fun _ =>
  inferInstanceAs (Decidable (_ → _ → _ → (_ ↔ _)))

variable {m : MyMarker}

theorem view_hidden (h : m.Hidden) : m.view = none := by
  rw [Hidden] at h
  simp only [view, render]
  by_cases hc : m.lost ∧ m.status = some (.str "Active")
  · simp only [if_pos hc]
    grind
  · by_cases hs : m.status = some (.str "inActive")
    · simp only [if_neg hc, if_pos hs, setInterval]
      grind
    · simp only [if_neg hc, if_neg hs]
      grind

/-- The last part of `render`. -/
theorem drawn_at (crowd : Record Json) (path : SymbolPath) (scale : Number) (color : String) :
    (match crowd.get "location" with
      | none => none
      | some location =>
        match location.child "lat" with
        | none => none
        | some lat =>
          some (⟨lat, location.child "lng", path, scale, color,
            (location.child "heading").getD (.num (.finite 0))⟩ : View)) =
      (crowd.get "location").bind fun location => (location.child "lat").map fun lat =>
        ⟨lat, location.child "lng", path, scale, color,
          (location.child "heading").getD (.num (.finite 0))⟩ := by
  cases crowd.get "location" with
  | none => rfl
  | some location =>
    simp only [Option.bind_some]
    cases location.child "lat" <;> rfl

/-- A marker that is not hidden is drawn in its color at the location of its crowd. -/
theorem view_shown (h : ¬m.Hidden) : ∃ path scale,
    m.view = (m.crowd.get "location").bind fun location => (location.child "lat").map fun lat =>
      ⟨lat, location.child "lng", path, scale, m.color,
        (location.child "heading").getD (.num (.finite 0))⟩ := by
  simp only [Hidden, not_or] at h
  obtain ⟨ht, ha, hi, hl⟩ := h
  simp only [view, render, color]
  by_cases hc : m.lost ∧ m.status = some (.str "Active")
  · simp only [if_pos hc, if_neg ht, if_neg ha, if_neg hi, if_neg hl]
    exact ⟨_, _, drawn_at _ _ _ _⟩
  · by_cases hs : m.status = some (.str "inActive")
    · simp only [if_neg hc, if_pos hs, if_neg ht, if_neg ha, if_neg hi, if_neg hl, setInterval]
      exact ⟨_, _, drawn_at _ _ _ _⟩
    · simp only [if_neg hc, if_neg hs, if_neg ht, if_neg ha, if_neg hi, if_neg hl]
      exact ⟨_, _, drawn_at _ _ _ _⟩

theorem view_eq_some (hv : m.view = some v) : v.fillColor = m.color ∧ ∃ location,
    m.crowd.get "location" = some location ∧ location.child "lat" = some v.lat ∧
      v.lng = location.child "lng" := by
  have hh : ¬m.Hidden := by
    intro hh
    rw [view_hidden hh] at hv
    cases hv
  obtain ⟨path, scale, h⟩ := view_shown hh
  rw [h] at hv
  obtain ⟨location, hl, hv⟩ := Option.bind_eq_some_iff.1 hv
  obtain ⟨lat, hlat, rfl⟩ := Option.map_eq_some_iff.1 hv
  exact ⟨rfl, location, hl, hlat, rfl⟩

theorem view_isSome_iff : m.view.isSome ↔
    ¬m.Hidden ∧ ∃ location, m.crowd.get "location" = some location ∧
      (location.child "lat").isSome := by
  by_cases hh : m.Hidden
  · rw [view_hidden hh]
    exact iff_of_false Bool.false_ne_true fun h => h.1 hh
  · obtain ⟨path, scale, h⟩ := view_shown hh
    rw [h, and_iff_right hh]
    cases m.crowd.get "location" <;> simp

theorem view_of_position (hp : m.HasPosition) : m.view.isSome ↔ ¬m.Hidden := by
  rw [view_isSome_iff, and_iff_left_iff_imp]
  intro _
  rw [HasPosition] at hp
  cases hl : m.crowd.get "location" with
  | none =>
    rw [hl] at hp
    cases hp
  | some location =>
    rw [hl] at hp
    exact ⟨location, rfl, hp⟩

/-- The blue markers. -/
theorem ticked_inActive (hs : m.status = some (.str "inActive")) :
    m.ticked = m.props.showInActive := by
  have hcolor : m.color = "#2979FF" := by simp [color, hs]
  rw [ticked, hcolor]
  rfl

/-- The red and the green markers of the status Active. -/
theorem ticked_active (hs : m.status = some (.str "Active")) :
    m.ticked = if m.lost then m.props.showLost else m.props.showActive := by
  have hcolor : m.color = if m.lost then "#FF1744" else "#00E676" := by simp [color, hs]
  rw [ticked, hcolor]
  cases m.lost <;> rfl

/-- The green markers of another status. -/
theorem ticked_other (hi : m.status ≠ some (.str "inActive"))
    (ha : m.status ≠ some (.str "Active")) : m.ticked = m.props.showActive := by
  have hcolor : m.color = "#00E676" := by simp [color, hi, ha]
  rw [ticked, hcolor]
  rfl

theorem filtersAgree_iff (hs : m.status ≠ some (.str "Terminated")) :
    (¬m.Hidden ↔ m.ticked) ↔ FiltersAgree m.status m.lost m.props := by
  by_cases hi : m.status = some (.str "inActive")
  · have hhidden : m.Hidden ↔ ¬m.props.showInActive ∨ (m.lost ∧ ¬m.props.showLost) := by
      simp [Hidden, hi]
    have hagree : FiltersAgree m.status m.lost m.props ↔
        ¬(m.lost ∧ m.props.showInActive ∧ ¬m.props.showLost) :=
      ⟨fun h => h.blue hi, fun h => ⟨fun _ => h, fun hne => absurd hi hne⟩⟩
    rw [hhidden, ticked_inActive hi, hagree, not_or, not_not, and_iff_left_iff_imp]
    constructor
    · exact fun h hbad => h hbad.2.1 ⟨hbad.1, hbad.2.2⟩
    · exact fun h hshow hbad => h ⟨hbad.1, hshow, hbad.2⟩
  by_cases ha : m.status = some (.str "Active")
  · have hhidden : m.Hidden ↔
        (¬m.props.showActive ∧ ¬m.lost) ∨ (m.lost ∧ ¬m.props.showLost) := by
      simp [Hidden, ha]
    have hagree : FiltersAgree m.status m.lost m.props :=
      ⟨fun h => absurd h hi, fun _ hne => absurd ha hne⟩
    rw [hhidden, ticked_active ha, iff_true_right hagree]
    cases m.lost <;> simp
  · have hhidden : m.Hidden ↔ (m.lost ∧ ¬m.props.showLost) := by
      simp [Hidden, hi, ha, hs]
    have hagree : FiltersAgree m.status m.lost m.props ↔
        (m.lost ∧ ¬m.props.showLost ↔ ¬m.props.showActive) :=
      ⟨fun h => h.green hi ha, fun h => ⟨fun h' => absurd h' hi, fun _ _ => h⟩⟩
    rw [hhidden, ticked_other hi ha, hagree]
    exact not_iff_comm.trans Iff.comm

/-- The state of a mounted marker is what its events say. -/
structure Told (props : Props) (m : MyMarker) (hist : MarkerRecord) : Prop where
  status : m.status = lastStatus props hist
  lost : m.lost = lastLost props hist
  given : m.props = lastProps props hist
  location : (m.crowd.get "location").isSome = (props.crowd.get "location").isSome
  position : m.HasPosition ↔ Positioned props hist

/-- A marker is mounted until it is unmounted. -/
structure Tracks (props : Props) (s : MyMarker × MarkerRecord) : Prop where
  mounted : s.1.mounted ↔ ∀ e ∈ s.2, e.1 ≠ .unmount
  told : s.1.mounted → Told props s.1 s.2

variable {props : Props} {m' : MyMarker} {hist : MarkerRecord} {s s' : MyMarker × MarkerRecord}
  {e : MarkerEvent × Option Callback} {degrees : Number → Number → Number}

theorem Tracks.iff (h : Tracks props s) : s.1.FollowsCheckbox ↔ Filtered props s.2 := by
  rw [FollowsCheckbox, Filtered, ← h.mounted]
  refine forall_congr' fun hm => ?_
  obtain ⟨hstatus, hlost, hprops, -, hposition⟩ := h.told hm
  rw [← hstatus, ← hlost, ← hprops, ← hposition]
  refine forall_congr' fun hp => forall_congr' fun hs => ?_
  rw [view_of_position hp, filtersAgree_iff hs]

theorem tracks_mount (props : Props) (t : Nat) : Tracks props (mount props t, []) := by
  refine ⟨iff_of_true (mount_mounted props t) (List.forall_mem_nil _), fun _ => ?_⟩
  refine ⟨?_, ?_, ?_, ?_, ?_⟩
  · rw [status, mount_crowd]
    rfl
  · rw [lost, mount_crowd]
    rfl
  · exact mount_props props t
  · rw [mount_crowd]
  · rw [HasPosition, mount_crowd, Positioned]
    cases props.crowd.get "location" <;> simp

theorem lastStatus_append (props : Props) (hist : MarkerRecord)
    (e : MarkerEvent × Option Callback) :
    lastStatus props (hist ++ [e]) = (statusTold props e).or (lastStatus props hist) := by
  rw [lastStatus, latest_append, Option.or_assoc]
  rfl

theorem lastLost_append (props : Props) (hist : MarkerRecord)
    (e : MarkerEvent × Option Callback) :
    lastLost props (hist ++ [e]) = (lostTold props e).getD (lastLost props hist) := by
  rw [lastLost, latest_append]
  cases lostTold props e <;> rfl

theorem lastProps_append (props : Props) (hist : MarkerRecord)
    (e : MarkerEvent × Option Callback) :
    lastProps props (hist ++ [e]) = (propsGiven e).getD (lastProps props hist) := by
  rw [lastProps, latest_append]
  cases propsGiven e <;> rfl

theorem positioned_append : Positioned props (hist ++ [e]) ↔ Positioned props hist ∨
    (props.crowd.get "location").isSome ∧
      ∃ k v, e.1 = .childChanged k v ∧ truthy (v.child "lat") := by
  rw [Positioned, Positioned]
  cases props.crowd.get "location" with
  | none => simp
  | some location => simp [or_and_right, exists_or, or_assoc]

/-- An event that the filters do not depend on. -/
theorem Told.same (h : Told props m hist) (hcrowd : m'.crowd = m.crowd)
    (hprops : m'.props = (propsGiven e).getD m.props) (hstatus : statusTold props e = none)
    (hlost : lostTold props e = none) (hnew : (props.crowd.get "location").isSome →
      ∀ k v, e.1 = .childChanged k v → ¬truthy (v.child "lat")) :
    Told props m' (hist ++ [e]) := by
  refine ⟨?_, ?_, ?_, ?_, ?_⟩
  · rw [lastStatus_append, hstatus, Option.none_or, ← h.status, MyMarker.status, hcrowd]
    rfl
  · rw [lastLost_append, hlost, Option.getD_none, ← h.lost, MyMarker.lost, hcrowd]
    rfl
  · rw [lastProps_append, hprops, h.given]
  · rw [hcrowd, h.location]
  · rw [positioned_append, HasPosition, hcrowd, ← h.position]
    refine (or_iff_left ?_).symm
    rintro ⟨hsome, k, v, he, hlat⟩
    exact hnew hsome k v he hlat

theorem Told.fired (h : Told props m hist) (cb : Callback) (n : Nat)
    (hprops : m'.props = m.props)
    (hcrowd : m'.crowd = match cb with
      | .timer => m.crowd.put "lost" (.bool true)
      | .removeMarker => m.crowd.put "status" (.str "Terminated")) :
    Told props m' (hist ++ [(.interval n, some cb)]) := by
  have hlocation : m'.crowd.get "location" = m.crowd.get "location" := by
    rw [hcrowd]
    cases cb <;> exact Record.get_put_of_ne _ _ (by decide)
  refine ⟨?_, ?_, ?_, ?_, ?_⟩
  · rw [lastStatus_append, ← h.status, MyMarker.status, hcrowd]
    cases cb with
    | timer => exact Record.get_put_of_ne _ _ (by decide)
    | removeMarker => exact Record.get_put_self _ _ _
  · rw [lastLost_append, ← h.lost, MyMarker.lost, hcrowd]
    cases cb with
    | timer =>
      rw [Record.get_put_self]
      rfl
    | removeMarker =>
      rw [Record.get_put_of_ne _ _ (by decide)]
      rfl
  · rw [lastProps_append, hprops, h.given]
    rfl
  · rw [hlocation, h.location]
  · rw [positioned_append, HasPosition, hlocation, ← h.position]
    simp [HasPosition]

theorem turned_lat (l v : Json) : (turned degrees l v).child "lat" = v.child "lat" := by
  rw [turned, Json.child_obj, Record.get_put_of_ne _ _ (by decide)]
  rfl

/-- A position of a crowd with a location. -/
theorem Told.moved (h : Told props m hist) (hlat : truthy (v.child "lat"))
    (hl : (m.crowd.get "location").isSome) (hprops : m'.props = m.props)
    (hcrowd : m'.crowd = MyMarker.moved degrees m.crowd l v) :
    Told props m' (hist ++ [(.childChanged k v, none)]) := by
  rw [h.location] at hl
  have hlocation : m'.crowd.get "location" = some (turned degrees l v) := by
    simp [hcrowd, MyMarker.moved, Record.get_put]
  refine ⟨?_, ?_, ?_, ?_, ?_⟩
  · rw [lastStatus_append, statusTold, if_pos hlat, if_pos hl, MyMarker.status, hcrowd]
    exact Record.get_put_self _ _ _
  · rw [lastLost_append, lostTold, if_pos ⟨hlat, hl⟩, MyMarker.lost, hcrowd]
    simp [MyMarker.moved, Record.get_put, truthy]
  · rw [lastProps_append, hprops, h.given]
    rfl
  · rw [hlocation, hl]
    rfl
  · rw [positioned_append, HasPosition, hlocation, Option.bind_some, turned_lat]
    refine iff_of_true ?_ (.inr ⟨hl, k, v, rfl, hlat⟩)
    by_contra hnone
    rw [Option.not_isSome_iff_eq_none.1 hnone] at hlat
    cases hlat

/-- A status, a count or a value that is ignored. -/
theorem Told.read (h : Told props m hist) (hlat : ¬truthy (v.child "lat"))
    (hprops : m'.props = m.props) (hcrowd : m'.crowd = nextCrowd degrees m.crowd v) :
    Told props m' (hist ++ [(.childChanged k v, none)]) := by
  rw [nextCrowd, if_neg hlat] at hcrowd
  have hother {c : String} (hc : "numberOfPeople" ≠ c) (hs : "status" ≠ c) :
      m'.crowd.get c = m.crowd.get c := by
    rw [hcrowd]
    split
    · exact Record.get_put_of_ne _ _ hc
    · split
      · exact Record.get_put_of_ne _ _ hs
      · rfl
  have hlocation := hother (c := "location") (by decide) (by decide)
  refine ⟨?_, ?_, ?_, ?_, ?_⟩
  · rw [lastStatus_append, statusTold, if_neg hlat, ← h.status, MyMarker.status, hcrowd]
    by_cases hnum : isNaN v
    · rw [if_neg (not_not.2 hnum)]
      by_cases hv : truthy (some v)
      · rw [if_pos hv, if_pos ⟨hnum, hv⟩]
        exact Record.get_put_self _ _ _
      · rw [if_neg hv, if_neg fun h => hv h.2]
        rfl
    · rw [if_pos hnum, if_neg fun h => hnum h.1]
      exact Record.get_put_of_ne _ _ (by decide)
  · rw [lastLost_append, lostTold, if_neg fun h => hlat h.1, ← h.lost, MyMarker.lost,
      hother (by decide) (by decide)]
    rfl
  · rw [lastProps_append, hprops, h.given]
    rfl
  · rw [hlocation, h.location]
  · rw [positioned_append, HasPosition, hlocation, ← h.position]
    simp [HasPosition, hlat]

theorem Told.heard (h : Told props m hist) (hprops : m'.props = m.props)
    (hcrowd : m'.crowd = nextCrowd degrees m.crowd v) :
    Told props m' (hist ++ [(.childChanged k v, none)]) := by
  by_cases hlat : truthy (v.child "lat")
  · rw [nextCrowd, if_pos hlat] at hcrowd
    cases hl : m.crowd.get "location" with
    | none =>
      -- the handler throws
      have hnone : (props.crowd.get "location").isSome = false := by rw [← h.location, hl]; rfl
      rw [hl] at hcrowd
      refine h.same hcrowd hprops ?_ ?_ ?_
      · rw [statusTold, if_pos hlat, hnone]
        rfl
      · rw [lostTold, hnone, if_neg fun h => Bool.false_ne_true h.2]
      · rw [hnone]
        exact fun h => absurd h Bool.false_ne_true
    | some l =>
      rw [hl] at hcrowd
      exact h.moved hlat (by rw [hl]; rfl) hprops hcrowd
  · exact h.read hlat hprops hcrowd

theorem stepped_told {e : MarkerEvent} (h : Told props m hist) (hm : m.mounted)
    (hs : Stepped degrees m t e m') (hm' : m'.mounted) :
    Told props m' (hist ++ [(e, m.fired (t, e))]) := by
  cases hs with
  | handled hs => exact h.heard (handled_frame hs).1 (handled_crowd (m := m.atTime t) hs hm)
  | thrown hs =>
    refine h.heard rfl (?_ : _ = nextCrowd degrees _ _)
    simp only [nextCrowd, hs.1, hs.2, ↓reduceIte]
    rfl
  | newProps p =>
    refine h.same (rerender_crowd _) (rerender_props _) rfl rfl ?_
    exact fun _ _ _ h => by cases h
  | interval hi hid hdue hf =>
    rw [hf]
    rw [fire_eq] at hm' ⊢
    rw [setCrowd_mounted] at hm'
    exact h.fired _ _ (setCrowd_props _ _) (setCrowd_crowd hm' _)
  | unmount => exact absurd hm' Bool.false_ne_true

theorem stepped_mounted_iff {e : MarkerEvent} (h : Stepped degrees m t e m') :
    m'.mounted ↔ m.mounted ∧ e ≠ .unmount := by
  constructor
  · intro hm
    refine ⟨stepped_mounted h hm, ?_⟩
    rintro rfl
    cases h with
    | unmount => exact absurd hm Bool.false_ne_true
  · rintro ⟨hm, he⟩
    cases h with
    | handled h => exact (handled_frame h).2.2.1.trans hm
    | thrown h => exact hm
    | newProps p => exact (rerender_mounted _).trans hm
    | interval hi hid hdue hf =>
      rw [fire_eq, setCrowd_mounted]
      exact hm
    | unmount => exact absurd rfl he

theorem Tracks.step {e : Nat × MarkerEvent} (h : Tracks props s)
    (hs : record degrees s e = some s') : Tracks props s' := by
  obtain ⟨m', hm', rfl⟩ := Option.map_eq_some_iff.1 hs
  obtain ⟨-, hstep⟩ := step_stepped hm'
  refine ⟨?_, fun hmounted => ?_⟩
  · rw [stepped_mounted_iff hstep, h.mounted]
    simp [or_imp, forall_and]
  · have hm := stepped_mounted hstep hmounted
    exact stepped_told (h.told hm) hm hstep hmounted

end MyMarker

end CrowdTracking
