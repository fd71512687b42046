import CrowdTracking.ClientNode
import CrowdTracking.MarkerDraining
import CrowdTracking.MarkerFilters

namespace CrowdTracking
set_option autoImplicit true
open Script Database Runs

namespace MyMarker

/-- The position of a marker that is on the map. -/
def drawn (m : MyMarker) : Option (Json × Option Json) :=
  if m.mounted then m.view.map fun v => (v.lat, v.lng) else none

end MyMarker

def OnlyReported (ps : List (Rat × Rat)) (marker : Option MyMarker) : Prop :=
  ∀ q ∈ marker.bind MyMarker.drawn,
    ∃ p ∈ ps, q = (.num (.finite p.1), some (.num (.finite p.2)))

instance (ps : List (Rat × Rat)) (marker : Option MyMarker) :
    Decidable (OnlyReported ps marker) :=
  inferInstanceAs (Decidable (∀ q ∈ marker.bind MyMarker.drawn, _))

/-- A value with a latitude has one of the positions. -/
def Reported (ps : List (Rat × Rat)) (l : Json) : Prop :=
  l.child "lat" = none ∨ ∃ p ∈ ps, l.child "lat" = some (.num (.finite p.1)) ∧
    l.child "lng" = some (.num (.finite p.2))

/-- Whatever reaches a marker as its location has been reported: the values of the node, the
snapshots raised and the location shown. -/
structure Sound (ps : List (Rat × Rat)) (node : Json) (pending : List Json)
    (marker : Option MyMarker) : Prop where
  node : ∀ k v, node.child k = some v → Reported ps v
  pending : ∀ v ∈ pending, Reported ps v
  marker : ∀ m ∈ marker, ∀ l ∈ m.crowd.get "location", Reported ps l

variable {ps qs : List (Rat × Rat)} {node : Json} {pending : List Json}
  {marker : Option MyMarker} {degrees : Number → Number → Number}

theorem Reported.mono (h : Reported ps l) (hp : ∀ p ∈ ps, p ∈ qs) :
    Reported qs l := by
  rcases h with h | ⟨p, hmem, h⟩
  · exact .inl h
  · exact .inr ⟨p, hp p hmem, h⟩

theorem reported_str (s : String) : Reported ps (.str s) := .inl rfl

theorem reported_num (n : Number) : Reported ps (.num n) := .inl rfl

theorem Reported.congr (h : Reported ps l) (hlat : l'.child "lat" = l.child "lat")
    (hlng : l'.child "lng" = l.child "lng") : Reported ps l' := by
  rw [Reported, hlat, hlng]
  exact h

theorem Sound.mono (h : Sound ps node pending marker)
    (hp : ∀ p ∈ ps, p ∈ qs) : Sound qs node pending marker :=
  ⟨fun k v hv => (h.node k v hv).mono hp, fun v hv => (h.pending v hv).mono hp,
    fun m hm l hl => (h.marker m hm l hl).mono hp⟩

theorem Reported.turned (h : Reported ps v) (l : Json) :
    Reported ps (MyMarker.turned degrees l v) :=
  h.congr (Record.get_put_of_ne _ _ (by decide)) (Record.get_put_of_ne _ _ (by decide))

/-- A delivered snapshot is the only source of another location. -/
theorem Reported.nextCrowd {c : Record Json} (h : ∀ l ∈ c.get "location", Reported ps l)
    (hv : Reported ps v) :
    ∀ l ∈ (MyMarker.nextCrowd degrees c v).get "location", Reported ps l := by
  intro l hl
  rw [Option.mem_def, MyMarker.nextCrowd_location] at hl
  split at hl
  · obtain ⟨l', -, rfl⟩ := Option.map_eq_some_iff.1 hl
    exact hv.turned l'
  · exact h l hl

theorem onlyReported_of_marker (h : ∀ m ∈ marker, ∀ l ∈ m.crowd.get "location", Reported ps l) :
    OnlyReported ps marker := by
  intro q hq
  obtain ⟨m, hm, hq⟩ := Option.bind_eq_some_iff.1 hq
  obtain ⟨-, hq⟩ := Option.ite_none_right_eq_some.1 hq
  obtain ⟨v, hv, rfl⟩ := Option.map_eq_some_iff.1 hq
  obtain ⟨-, l, hl, hlat, hlng⟩ := MyMarker.view_eq_some hv
  rcases h m hm l hl with hnone | ⟨p, hp, hlat', hlng'⟩
  · rw [hnone] at hlat
    cases hlat
  · rw [hlat', Option.some.injEq] at hlat
    exact ⟨p, hp, by rw [← hlat, hlng, hlng']⟩

theorem Sound.mounted (h : Sound ps node pending marker) (props : Props) (t : Nat)
    (hp : props.crowd = node.fields) :
    Sound ps node [] (some (.mount props t)) := by
  refine ⟨h.node, nofun, ?_⟩
  rintro m ⟨⟩ l hl
  rw [MyMarker.mount_crowd, hp] at hl
  exact h.node "location" l hl

theorem Sound.delivered {m : MyMarker} (h : Sound ps node (v :: pending) (some m))
    (hm : m.mounted) (t : Nat) :
    Sound ps node pending (some ((m.atTime t).deliver degrees v)) := by
  refine ⟨h.node, fun w hw => h.pending w (List.mem_cons_of_mem v hw), ?_⟩
  rintro m' ⟨⟩ l hl
  rw [MyMarker.deliver_crowd (m := m.atTime t) hm] at hl
  exact Reported.nextCrowd (h.marker m rfl) (h.pending v List.mem_cons_self) l hl

namespace Tracking

/-- The positions of the location callbacks, in order. -/
def positions (hist : List TrackingEvent) : List (Rat × Rat) :=
  (hist.flatMap Past.fixesOf).map fun l => (l.latitude, l.longitude)

/-- What the marker takes has been reported by the client. -/
structure Tracked (s : Tracking × List TrackingEvent) : Prop where
  signed : Signed s.1
  mounted : ∀ m ∈ s.1.marker, m.mounted
  sound : Sound (positions s.2) s.1.node s.1.pending s.1.marker

variable {s s' : Tracking} {distance : CLLocation → CLLocation → Rat}

theorem mem_positions {e : TrackingEvent} (hp : p ∈ positions hist) :
    p ∈ positions (hist ++ [e]) := by
  rw [positions, List.flatMap_append, List.map_append]
  exact List.mem_append_left _ hp

theorem Sound.published (h : Sound ps s.node s.pending s.marker)
    (hp : Published s s' c v) (hv : Reported ps v) : Sound ps s'.node s'.pending s'.marker := by
  refine ⟨?_, ?_, ?_⟩
  · intro k w hw
    by_cases hk : k = c
    · rw [hk, hp.child, Option.some.injEq] at hw
      rwa [← hw]
    · rw [hp.other k hk] at hw
      exact h.node k w hw
  · intro w hw
    rw [hp.pending] at hw
    split at hw
    · rcases List.mem_append.1 hw with hw | hw
      · exact h.pending w hw
      · rwa [mem_raised hw]
    · exact h.pending w hw
  · rw [hp.marker]
    exact h.marker

/-- A write of the client brings positions of its fixes alone. -/
theorem sound_write (h : Sound ps s.node s.pending s.marker)
    (hw : HomeVC.Writes s.key e w)
    (hps : ∀ l ∈ Past.fixesOf (.client e), (l.latitude, l.longitude) ∈ ps) :
    Sound ps (s.publish w).node (s.publish w).pending (s.publish w).marker := by
  cases hw with
  | status => exact Sound.published h (published_setValue s "status" _) (reported_str _)
  | count total =>
    exact Sound.published h (published_setValue s "numberOfPeople" _) (reported_str _)
  | location l t d hl =>
    have hp := published_location s (AppDelegate.locationData l d t) (fun hd => by cases hd)
    apply Sound.published h hp
    refine .inr ⟨_, hps l (List.mem_map.2 ⟨(l, t), hl, rfl⟩), lat_locationData l d t _, ?_⟩
    simp [AppDelegate.locationData, Record.get_put]
  | heading ha =>
    rename_i newHeading
    have hp := published_location s (AppDelegate.headingData newHeading) (fun hd => by cases hd)
    apply Sound.published h hp
    cases hl : s.node.child "location" with
    | none => exact .inl rfl
    | some l =>
      have hlat := heading_child s newHeading (k := "lat") (by decide)
      have hlng := heading_child s newHeading (k := "lng") (by decide)
      rw [hl] at hlat hlng
      exact (h.node "location" l hl).congr hlat hlng

theorem Tracked.step {s s' : Tracking × List TrackingEvent} (h : Tracked s)
    (hs : withHistory (step distance degrees) s e = some s') : Tracked s' := by
  obtain ⟨t, hist⟩ := s
  obtain ⟨t', hist'⟩ := s'
  obtain ⟨hstep, hhist⟩ := withHistory_some hs
  have hsigned := h.signed.step hstep
  have hsound : Sound (positions (hist ++ [e])) t.node t.pending t.marker :=
    h.sound.mono fun p hp => mem_positions hp
  simp only at hhist hstep
  subst hhist
  cases step_moved hstep with
  | client hc =>
    rename_i c h' ws
    have hlast : ∀ l ∈ Past.fixesOf (.client c),
        (l.latitude, l.longitude) ∈ positions (hist ++ [.client c]) := by
      intro l hl
      rw [positions, List.flatMap_append, List.map_append]
      apply List.mem_append_right
      rw [List.flatMap_singleton]
      exact List.mem_map.2 ⟨l, hl, rfl⟩
    obtain ⟨hmounted, hsound⟩ := client_invariant
      (fun u => (∀ m ∈ u.marker, m.mounted) ∧
        Sound (positions (hist ++ [.client c])) u.node u.pending u.marker)
      h.signed hc ⟨h.mounted, hsound⟩
      fun u w hu _ _ hw => ⟨hu.1, sound_write hu.2 hw hlast⟩
    exact ⟨hsigned, hmounted, hsound⟩
  | mount hm =>
    refine ⟨hsigned, ?_, hsound.mounted _ _ rfl⟩
    rintro m ⟨⟩
    exact MyMarker.mount_mounted _ _
  | deliver m v vs n hm hp =>
    have hmounted := h.mounted m hm
    rw [hm, hp] at hsound
    refine ⟨hsigned, ?_, hsound.delivered hmounted n⟩
    rintro m' ⟨⟩
    rwa [(MyMarker.deliver_frame _ _).2.2.1]
  | marked m m' hm hk he =>
    have hmounted := h.mounted m hm
    refine ⟨hsigned, ?_, hsound.node, hsound.pending, ?_⟩
    · rintro _ ⟨⟩
      rwa [hk.mounted]
    · rintro _ ⟨⟩ l hl
      rw [hk.get hmounted (by decide) (by decide)] at hl
      exact hsound.marker m hm l hl

theorem tracked_registered (first : Option CLLocation) (uid key : String) (database : Json) :
    Tracked (registeredAt first uid key database, []) := by
  refine ⟨⟨uid, rfl⟩, fun m hm => absurd hm (Option.not_mem_none m), ?_,
    fun v hv => absurd hv List.not_mem_nil, fun m hm => absurd hm (Option.not_mem_none m)⟩
  intro k v hv
  rw [node_registeredAt, Json.child_obj, Record.get_put] at hv
  split at hv
  · cases hv
    exact reported_str uid
  · cases hv

theorem Tracked.always (distance : CLLocation → CLLocation → Rat)
    (degrees : Number → Number → Number) (first : Option CLLocation) (uid key : String)
    (database : Json) (es : List TrackingEvent) :
    Always (withHistory (Tracking.step distance degrees))
      (fun s => OnlyReported (positions s.2) s.1.marker) (registeredAt first uid key database, [])
      es :=
  always_of_invariant Tracked (fun _ h => onlyReported_of_marker h.sound.marker)
    (fun _ _ _ h hs => h.step hs) (tracked_registered first uid key database) es

end Tracking

end CrowdTracking
