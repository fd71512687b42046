import CrowdTracking.MarkerFilters

namespace CrowdTracking
set_option autoImplicit true
open Script Runs

/-- The snapshot that an event delivers. -/
def MarkerEvent.snapshot : MarkerEvent → Option Json
  | .childChanged _ v => some v
  | _ => none

namespace MyMarker

/-- The rotation that a marker is drawn with. -/
def rotation (m : MyMarker) : Json :=
  ((m.crowd.get "location").bind (·.child "heading")).getD (.num (.finite 0))

/-- How far a coordinate of a snapshot is from that of a location. -/
def displacement (coordinate : String) (l v : Json) : Number :=
  (parseFloat (v.child coordinate)).sub (parseFloat (l.child coordinate))

/-- A snapshot of a location with the coordinates that the marker has. -/
def Stationary (m : MyMarker) (v : Json) : Prop :=
  truthy (v.child "lat") ∧ ∃ l ∈ m.crowd.get "location",
    displacement "lat" l v = .finite 0 ∧ displacement "lng" l v = .finite 0

instance (m : MyMarker) (v : Json) : Decidable (m.Stationary v) :=
  inferInstanceAs (Decidable (_ ∧ ∃ l ∈ m.crowd.get "location", _))

/-- A stationary snapshot leaves the rotation, and a repeated one the marker. -/
def Steady (s : MyMarker × List (Nat × MarkerEvent)) (e : Nat × MarkerEvent)
    (s' : MyMarker × List (Nat × MarkerEvent)) : Prop :=
  ∀ v ∈ e.2.snapshot, s.1.Stationary v → s'.1.rotation = s.1.rotation ∧
    (v ∈ s.2.getLast?.bind (·.2.snapshot) → s'.1.crowd = s.1.crowd ∧ s'.1.view = s.1.view)

/-- A stationary snapshot finds the marker unrotated. -/
def FindsUnrotated (m : MyMarker) (e : Nat × MarkerEvent) : Prop :=
  ∀ v ∈ e.2.snapshot, m.mounted → m.Stationary v → m.rotation = .num (.finite 0)

instance (s : MyMarker × List (Nat × MarkerEvent)) (e : Nat × MarkerEvent)
    (s' : MyMarker × List (Nat × MarkerEvent)) : Decidable (Steady s e s') :=
  inferInstanceAs (Decidable (∀ v ∈ e.2.snapshot, _ → _))

variable {degrees : Number → Number → Number} {m m' : MyMarker} {l v : Json}

theorem view_rotation (hv : m.view = some w) : w.rotation = m.rotation := by
  have hh : ¬m.Hidden := by
    intro hh
    rw [view_hidden hh] at hv
    cases hv
  obtain ⟨path, scale, h⟩ := view_shown hh
  rw [h] at hv
  obtain ⟨location, hl, hv⟩ := Option.bind_eq_some_iff.1 hv
  obtain ⟨lat, hlat, rfl⟩ := Option.map_eq_some_iff.1 hv
  rw [rotation, hl, Option.bind_some]

/-- What is drawn is a function of the crowd and the filters. -/
theorem view_congr (hc : m'.crowd = m.crowd) (hp : m'.props = m.props) : m'.view = m.view := by
  have hs : m'.status = m.status := by rw [status, status, hc]
  have hl : m'.lost = m.lost := by rw [lost, lost, hc]
  by_cases ha : m.lost ∧ m.status = some (.str "Active")
  · simp only [view, render, hs, hl, if_pos ha, hc, hp]
  · by_cases hi : m.status = some (.str "inActive")
    · simp only [view, render, hs, hl, if_neg ha, if_pos hi, setInterval, hc, hp]
    · simp only [view, render, hs, hl, if_neg ha, if_neg hi, hc, hp]

/-- The heading that a location snapshot is stored with. -/
theorem rotation_of_moved (h : m.crowd = moved degrees c l v) :
    m.rotation = .num (degrees (displacement "lng" l v) (displacement "lat" l v)) := by
  have hl : m.crowd.get "location" = some (turned degrees l v) := by
    rw [h, moved, Record.get_put_of_ne _ _ (by decide), Record.get_put_of_ne _ _ (by decide),
      Record.get_put_self]
  rw [rotation, hl, Option.bind_some, turned, Json.child_obj, Record.get_put_self, Option.getD_some]
  rfl

/-- The crowd of a mounted marker after a snapshot with its own coordinates. -/
theorem stationary_crowd (degrees : Number → Number → Number) (hm : m.mounted)
    (h : m.Stationary v) :
    ∃ l, m.crowd.get "location" = some l ∧ displacement "lat" l v = .finite 0 ∧
      displacement "lng" l v = .finite 0 ∧
      (m.deliver degrees v).crowd = moved degrees m.crowd l v := by
  obtain ⟨hlat, l, hl, h₁, h₂⟩ := h
  rw [Option.mem_def] at hl
  refine ⟨l, hl, h₁, h₂, ?_⟩
  rw [deliver_crowd hm, nextCrowd, if_pos hlat, hl]

theorem stationary_rotation (h0 : degrees (.finite 0) (.finite 0) = .finite 0) (hm : m.mounted)
    (h : m.Stationary v) : (m.deliver degrees v).rotation = .num (.finite 0) := by
  obtain ⟨l, hl, hlat, hlng, hc⟩ := stationary_crowd degrees hm h
  rw [rotation_of_moved hc, hlat, hlng, h0]

/-- The crowd of a located marker is what the snapshot just delivered makes of it. -/
def Recorded (degrees : Number → Number → Number) (s : MyMarker × List (Nat × MarkerEvent)) :
    Prop :=
  ∀ v ∈ s.2.getLast?.bind (·.2.snapshot), s.1.mounted → truthy (v.child "lat") →
    (s.1.crowd.get "location").isSome → ∃ c l, s.1.crowd = moved degrees c l v

theorem step_snapshot (hs : m.step degrees e = some m') (hv : v ∈ e.2.snapshot) :
    m' = (m.atTime e.1).deliver degrees v := by
  obtain ⟨t, e⟩ := e
  cases e with
  | childChanged k w =>
    cases hv
    rw [step] at hs
    split at hs
    · cases hs
    · exact (Option.some.inj hs).symm
  | newProps p => cases hv
  | interval id => cases hv
  | unmount => cases hv

theorem recorded_step (hs : withHistory (step degrees) s e = some s') : Recorded degrees s' := by
  obtain ⟨hstep, hhist⟩ := withHistory_some hs
  intro v hv hm hlat hloc
  rw [hhist, List.getLast?_concat, Option.bind_some] at hv
  rw [step_snapshot hstep hv] at hm hloc ⊢
  rw [(deliver_frame _ v).2.2.1] at hm
  rw [deliver_crowd hm, nextCrowd, if_pos hlat] at hloc ⊢
  cases hl : (s.1.atTime e.1).crowd.get "location" with
  | none =>
    rw [hl] at hloc
    rw [hl] at hloc
    cases hloc
  | some l => exact ⟨_, l, rfl⟩

/-- Putting the same location again changes nothing. -/
theorem moved_moved (ht : turned degrees l v = turned degrees l' v) :
    moved degrees (moved degrees c l' v) l v = moved degrees c l' v := by
  have hlocation : (moved degrees c l' v).get "location" = some (turned degrees l v) := by
    rw [moved, Record.get_put_of_ne _ _ (by decide), Record.get_put_of_ne _ _ (by decide),
      Record.get_put_self, ht]
  have hlost : (moved degrees c l' v).get "lost" = some (.bool false) := by
    rw [moved, Record.get_put_of_ne _ _ (by decide), Record.get_put_self]
  have hstatus : (moved degrees c l' v).get "status" = some (.str "Active") := by
    rw [moved, Record.get_put_self]
  generalize moved degrees c l' v = r at hlocation hlost hstatus ⊢
  rw [moved, Record.put_of_get hlocation, Record.put_of_get hlost, Record.put_of_get hstatus]

theorem stationary_steady (h0 : degrees (.finite 0) (.finite 0) = .finite 0) (hm : m.mounted)
    (h : m.Stationary v) (hr : m.rotation = .num (.finite 0))
    (hc : m.crowd = moved degrees c l v) : (m.deliver degrees v).crowd = m.crowd := by
  obtain ⟨l', hl', hlat, hlng, hcrowd⟩ := stationary_crowd degrees hm h
  rw [rotation_of_moved hc, Json.num.injEq] at hr
  have ht : turned degrees l' v = turned degrees l v := by
    rw [turned, turned, ← displacement, ← displacement, ← displacement, ← displacement]
    rw [hlat, hlng, h0, hr]
  rw [hcrowd, hc, moved_moved ht]

theorem steady_of_unrotated (h0 : degrees (.finite 0) (.finite 0) = .finite 0)
    (hrec : Recorded degrees s) (hs : withHistory (step degrees) s e = some s')
    (hC : FindsUnrotated s.1 e) : Steady s e s' := by
  obtain ⟨hstep, -⟩ := withHistory_some hs
  intro v hv h
  have hv' := step_snapshot hstep hv
  have hprops : s'.1.props = s.1.props := by
    rw [hv']
    exact (deliver_frame _ v).1
  by_cases hm : s.1.mounted
  · have hr := hC v hv hm h
    refine ⟨?_, fun hlast => ?_⟩
    · rw [hr, hv']
      exact stationary_rotation h0 hm h
    · obtain ⟨hlat, l', hl', -⟩ := id h
      obtain ⟨c, l, hc⟩ := hrec v hlast hm hlat (Option.isSome_of_mem hl')
      have hcrowd : s'.1.crowd = s.1.crowd := by
        rw [hv']
        exact stationary_steady (m := s.1.atTime e.1) h0 hm h hr hc
      exact ⟨hcrowd, view_congr hcrowd hprops⟩
  · have hcrowd : s'.1.crowd = s.1.crowd := by
      rw [hv']
      exact deliver_crowd_unmounted (m := s.1.atTime e.1) hm v
    refine ⟨?_, fun _ => ⟨hcrowd, view_congr hcrowd hprops⟩⟩
    rw [rotation, rotation, hcrowd]

theorem unrotated_of_steady (h0 : degrees (.finite 0) (.finite 0) = .finite 0)
    (hs : withHistory (step degrees) s e = some s') (hQ : Steady s e s') :
    FindsUnrotated s.1 e := by
  obtain ⟨hstep, -⟩ := withHistory_some hs
  intro v hv hm h
  rw [← (hQ v hv h).1, step_snapshot hstep hv]
  exact stationary_rotation (m := s.1.atTime e.1) h0 hm h

/-- Stationary snapshots leave the drawn marker exactly as long as each of them finds it
unrotated. -/
theorem steady_iff_unrotated (degrees : Number → Number → Number)
    (h0 : degrees (.finite 0) (.finite 0) = .finite 0) (props : Props) (t : Nat)
    (es : List (Nat × MarkerEvent)) :
    Each (withHistory (step degrees)) Steady (mount props t, []) es ↔
      Along (withHistory (step degrees)) (fun s e => FindsUnrotated s.1 e)
        (mount props t, []) es := by
  apply each_iff (Recorded degrees)
  · exact fun s e s' hrec hs hC => ⟨steady_of_unrotated h0 hrec hs hC, recorded_step hs⟩
  · exact fun s e s' _ hs hQ => unrotated_of_steady h0 hs hQ
  · exact fun v hv => by cases hv

/-- The bearing of no displacement, of the one to the north-east, and of no other. -/
def northEast (y x : Number) : Number :=
  if y = .finite 1 ∧ x = .finite 1 then .finite 45 else .finite 0

def stationary : List (Nat × MarkerEvent) :=
  [(0, .childChanged "location" (position 21 39)), (5, .childChanged "location" (position 21 39))]

theorem steady_unrotated :
    northEast (.finite 0) (.finite 0) = .finite 0 ∧
      Along (withHistory (step northEast)) (fun s e => FindsUnrotated s.1 e)
        (mount ⟨"k", 0, crowdValue "Active" 21 39, true, true, true⟩ 0, []) stationary ∧
      Each (withHistory (step northEast)) Steady
        (mount ⟨"k", 0, crowdValue "Active" 21 39, true, true, true⟩ 0, []) stationary ∧
      (run (step northEast) (mount ⟨"k", 0, crowdValue "Active" 21 39, true, true, true⟩ 0)
          stationary).map (fun m => m.view.map View.rotation) =
        some (some (.num (.finite 0))) := by
  have h0 : northEast (.finite 0) (.finite 0) = .finite 0 := by decide +kernel
  have hsteady : Each (withHistory (step northEast)) Steady
      (mount ⟨"k", 0, crowdValue "Active" 21 39, true, true, true⟩ 0, []) stationary := by
    decide +kernel
  exact ⟨h0, (steady_iff_unrotated northEast h0 _ _ _).1 hsteady, hsteady, by decide +kernel⟩

/-- The marker turns to the north-east with the first snapshot and back with the second. -/
theorem repeated_turns :
    ¬∀ degrees : Number → Number → Number, degrees (.finite 0) (.finite 0) = .finite 0 →
      ∀ (props : Props) (t : Nat) (es : List (Nat × MarkerEvent)),
        Each (withHistory (step degrees)) Steady (mount props t, []) es := by
  intro h
  have hrun := h northEast (by decide +kernel)
    ⟨"k", 0, crowdValue "Active" 21 39, true, true, true⟩ 0
    [(0, .childChanged "location" (position 22 40)), (5, .childChanged "location" (position 22 40))]
  exact absurd hrun (by decide +kernel)

end MyMarker

end CrowdTracking
