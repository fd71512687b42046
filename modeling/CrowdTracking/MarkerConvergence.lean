import CrowdTracking.MarkerDraining
import CrowdTracking.Tracking

namespace CrowdTracking
set_option autoImplicit true
open Script Database Runs

namespace Tracking

open MyMarker

/-- The handler has not thrown, and with everything delivered the marker has the position and the
count of the node. -/
def Converged (s : Tracking) : Prop :=
  s.thrown = false ∧ ∀ m ∈ s.marker, s.pending = [] →
    coordinates (m.crowd.get "location") = coordinates (s.node.child "location") ∧
      m.crowd.get "numberOfPeople" = s.node.child "numberOfPeople"

instance (s : Tracking) : Decidable (Converged s) :=
  inferInstanceAs (Decidable (_ ∧ ∀ m ∈ s.marker, _))

/-- Once the marker is mounted, locations are published only if it was mounted from a value with a
location, at a latitude other than zero, and counts only if that value had a count. -/
def ReachesMarker (distance : CLLocation → CLLocation → Rat) (s : Tracking) :
    TrackingEvent → Prop
  | .client (.didUpdateLocations locations) => ∀ m ∈ s.marker, locations ≠ [] →
      (m.props.crowd.get "location").isSome ∧ ∀ l ∈ locations, l.1.latitude ≠ 0
  | .client .incrementHandler => ∀ m ∈ s.marker, s.writes distance .incrementHandler ≠ [] →
      (m.props.crowd.get "numberOfPeople").isSome
  | .client .decrementHandler => ∀ m ∈ s.marker, s.writes distance .decrementHandler ≠ [] →
      (m.props.crowd.get "numberOfPeople").isSome
  | _ => True

instance (distance : CLLocation → CLLocation → Rat) (s : Tracking) (e : TrackingEvent) :
    Decidable (ReachesMarker distance s e) :=
  match e with
  | .client (.didUpdateLocations _) => inferInstanceAs (Decidable (∀ m ∈ s.marker, _))
  | .client .incrementHandler => inferInstanceAs (Decidable (∀ m ∈ s.marker, _))
  | .client .decrementHandler => inferInstanceAs (Decidable (∀ m ∈ s.marker, _))
  | .client .startBtnHandler | .client .stopBtnHandler | .client (.didUpdateHeading _)
  | .client .observed | .mount .. | .deliver _ | .interval .. | .filters .. => isTrue trivial

/-- The marker of a node, with the snapshots `vs` on their way, will have what the node has. -/
structure Follows (degrees : Number → Number → Number) (node : Json) (vs : List Json)
    (m : MyMarker) : Prop where
  mounted : m.mounted
  hasLocation : (m.props.crowd.get "location").isSome →
    (m.crowd.get "location").isSome ∧ (node.child "location").isSome
  hasCount : (m.props.crowd.get "numberOfPeople").isSome → (node.child "numberOfPeople").isSome
  coordinates : coordinates ((drain degrees m.crowd vs).get "location") =
    MyMarker.coordinates (node.child "location")
  count : (drain degrees m.crowd vs).get "numberOfPeople" = node.child "numberOfPeople"
  quiet : m.crowd.get "location" = none →
    ¬truthy ((node.child "location").bind (·.child "lat")) ∧ ∀ v ∈ vs, ¬truthy (v.child "lat")

/-- No event has thrown or will throw, and the events on their way bring the marker to the node. -/
structure Converging (degrees : Number → Number → Number) (s : Tracking) : Prop where
  signed : Signed s
  thrown : s.thrown = false
  follows : ∀ m ∈ s.marker, Follows degrees s.node s.pending m

variable {s s' : Tracking} {degrees : Number → Number → Number}
  {distance : CLLocation → CLLocation → Rat} {m m' : MyMarker} {node node' : Json} {vs : List Json}

theorem Converging.converged (h : Converging degrees s) : Converged s := by
  refine ⟨h.thrown, ?_⟩
  intro m hm hp
  have hf := h.follows m hm
  rw [hp] at hf
  exact ⟨hf.coordinates, hf.count⟩

/-- A marker follows a node whose child takes a value when what the child shows is right both
without and with the snapshot. -/
theorem Follows.raise (h : Follows degrees node vs m) (old : Option Json) (v : Json)
    (hkept : old = none ∨ old = some v →
      MyMarker.coordinates (node.child "location") =
        MyMarker.coordinates (node'.child "location") ∧
      node.child "numberOfPeople" = node'.child "numberOfPeople")
    (hnext : ∀ w c, old = some w → MyMarker.coordinates (c.get "location") =
        MyMarker.coordinates (node.child "location") →
      c.get "numberOfPeople" = node.child "numberOfPeople" →
      ((m.crowd.get "location").isSome → (c.get "location").isSome) →
      MyMarker.coordinates ((nextCrowd degrees c v).get "location") =
        MyMarker.coordinates (node'.child "location") ∧
      (nextCrowd degrees c v).get "numberOfPeople" = node'.child "numberOfPeople")
    (hloc : (node.child "location").isSome → (node'.child "location").isSome)
    (hcount : (node.child "numberOfPeople").isSome → (node'.child "numberOfPeople").isSome)
    (hquiet : m.crowd.get "location" = none →
      ¬truthy ((node'.child "location").bind (·.child "lat")) ∧ ¬truthy (v.child "lat")) :
    Follows degrees node' (vs ++ raised old v) m := by
  have hshown : MyMarker.coordinates
        ((drain degrees m.crowd (vs ++ raised old v)).get "location") =
        MyMarker.coordinates (node'.child "location") ∧
      (drain degrees m.crowd (vs ++ raised old v)).get "numberOfPeople" =
        node'.child "numberOfPeople" := by
    rw [drain_append]
    rcases raised_cases old v with ⟨hr, hold⟩ | ⟨hr, w, hold⟩
    · obtain ⟨hc, hn⟩ := hkept hold
      rw [hr]
      exact ⟨h.coordinates.trans hc, h.count.trans hn⟩
    · rw [hr]
      exact hnext w _ hold h.coordinates h.count drain_location_isSome
  refine ⟨h.mounted, ?_, fun hc => hcount (h.hasCount hc), hshown.1, hshown.2, ?_⟩
  · intro hl
    exact ⟨(h.hasLocation hl).1, hloc (h.hasLocation hl).2⟩
  · intro hnone
    refine ⟨(hquiet hnone).1, ?_⟩
    intro u hu
    rcases List.mem_append.1 hu with hu | hu
    · exact (h.quiet hnone).2 u hu
    · rw [mem_raised hu]
      exact (hquiet hnone).2

theorem Follows.status (h : Follows degrees s.node s.pending m)
    (hp : Published s s' "status" (.str st)) (hst : isNaN (.str st)) :
    Follows degrees s'.node (s.pending ++ raised (s.node.child "status") (.str st)) m := by
  have hloc := hp.other "location" (by decide)
  have hcount := hp.other "numberOfPeople" (by decide)
  refine h.raise _ _ (fun _ => ⟨by rw [hloc], by rw [hcount]⟩) ?_ (by rw [hloc]; exact id)
    (by rw [hcount]; exact id) fun hnone => ⟨by rw [hloc]; exact (h.quiet hnone).1, nofun⟩
  intro w c _ hc hn _
  rw [nextCrowd_location, nextCrowd_numberOfPeople, if_neg nofun, if_neg fun h => h.2 hst,
    hloc, hcount]
  exact ⟨hc, hn⟩

theorem Follows.numberOfPeople (h : Follows degrees s.node s.pending m)
    (hp : Published s s' "numberOfPeople" (.str (toString (n : Int))))
    (hhas : (m.props.crowd.get "numberOfPeople").isSome) :
    Follows degrees s'.node
      (s.pending ++ raised (s.node.child "numberOfPeople") (.str (toString n))) m := by
  have hloc := hp.other "location" (by decide)
  have hsome := h.hasCount hhas
  refine h.raise _ _ (fun hold => ⟨by rw [hloc], ?_⟩) ?_ (by rw [hloc]; exact id)
    (fun _ => by rw [hp.child]; rfl) fun hnone => ⟨by rw [hloc]; exact (h.quiet hnone).1, nofun⟩
  · rcases hold with hold | hold
    · rw [hold] at hsome
      cases hsome
    · rw [hold, hp.child]
  · intro w c _ hc _ _
    have hnum : ¬isNaN (.str (toString n)) := by
      rw [isNaN_toString]
      exact Bool.false_ne_true
    rw [nextCrowd_location, nextCrowd_numberOfPeople, if_neg nofun, if_pos ⟨nofun, hnum⟩, hloc,
      hp.child]
    exact ⟨hc, rfl⟩

theorem Follows.location (h : Follows degrees s.node s.pending m)
    (hp : Published s s' "location" (.obj r)) (hlat : truthy ((Json.obj r).child "lat"))
    (hhas : (m.props.crowd.get "location").isSome) :
    Follows degrees s'.node (s.pending ++ raised (s.node.child "location") (.obj r)) m := by
  have hcount := hp.other "numberOfPeople" (by decide)
  obtain ⟨hmarker, hsome⟩ := h.hasLocation hhas
  refine h.raise _ _ (fun hold => ⟨?_, by rw [hcount]⟩) ?_ (fun _ => by rw [hp.child]; rfl)
    (by rw [hcount]; exact id) fun hnone => ?_
  · rcases hold with hold | hold
    · rw [hold] at hsome
      cases hsome
    · rw [hold, hp.child]
  · intro w c _ _ hn hc
    obtain ⟨l, hl⟩ := Option.isSome_iff_exists.1 (hc hmarker)
    rw [nextCrowd_location, nextCrowd_numberOfPeople, if_pos hlat, if_neg fun h => h.1 hlat, hl,
      Option.map_some, coordinates_turned, hp.child, hcount]
    exact ⟨rfl, hn⟩
  · rw [hnone] at hmarker
    cases hmarker

theorem Follows.heading (h : Follows degrees s.node s.pending m)
    (hp : Published s s' "location" (.obj r))
    (hsame : MyMarker.coordinates (some (.obj r)) =
      MyMarker.coordinates (s.node.child "location")) :
    Follows degrees s'.node (s.pending ++ raised (s.node.child "location") (.obj r)) m := by
  have hcount := hp.other "numberOfPeople" (by decide)
  have hlat : (Json.obj r).child "lat" = (s.node.child "location").bind (·.child "lat") :=
    congrArg Prod.fst hsame
  refine h.raise _ _ (fun _ => ⟨by rw [hp.child, hsame], by rw [hcount]⟩) ?_
    (fun _ => by rw [hp.child]; rfl) (by rw [hcount]; exact id) fun hnone => ?_
  · intro w c _ hc hn hsome
    rw [nextCrowd_location, nextCrowd_numberOfPeople, hp.child, hcount, hsame]
    by_cases htruthy : truthy ((Json.obj r).child "lat")
    · have hmarker : (m.crowd.get "location").isSome := by
        by_contra hnone
        rw [hlat] at htruthy
        exact (h.quiet (by simpa using hnone)).1 htruthy
      obtain ⟨l, hl⟩ := Option.isSome_iff_exists.1 (hsome hmarker)
      rw [if_pos htruthy, if_neg fun h => h.1 htruthy, hl, Option.map_some, coordinates_turned]
      exact ⟨hsame, hn⟩
    · have hobj : ¬(¬truthy ((Json.obj r).child "lat") ∧ ¬isNaN (.obj r)) := fun h => h.2 rfl
      rw [if_neg htruthy, if_neg hobj]
      exact ⟨hc, hn⟩
  · rw [hp.child, Option.bind_some, hlat]
    exact ⟨(h.quiet hnone).1, (h.quiet hnone).1⟩

theorem Converging.published (h : Converging degrees s) (hp : Published s s' c v)
    (hf : ∀ m ∈ s.marker, Follows degrees s'.node (s.pending ++ raised (s.node.child c) v) m) :
    Converging degrees s' := by
  refine ⟨h.signed.published hp, by rw [hp.thrown]; exact h.thrown, ?_⟩
  intro m hm
  rw [hp.marker] at hm
  rw [hp.pending, if_pos (Option.isSome_of_eq_some hm)]
  exact hf m hm

/-- What the event of a write asks of the marker. -/
def Reaches (e : ClientEvent) (s : Tracking) : Prop :=
  ∀ m ∈ s.marker,
    (∀ ls, e = .didUpdateLocations ls → ls ≠ [] →
      (m.props.crowd.get "location").isSome ∧ ∀ l ∈ ls, l.1.latitude ≠ 0) ∧
    (e = .incrementHandler ∨ e = .decrementHandler → (m.props.crowd.get "numberOfPeople").isSome)

theorem converging_write (h : Converging degrees s) (hw : HomeVC.Writes s.key e w)
    (hC : Reaches e s) : Converging degrees (s.publish w) := by
  cases hw with
  | status hs he =>
    apply h.published (published_setValue s "status" _)
    intro m hm
    exact (h.follows m hm).status (published_setValue s "status" _) (by
      rcases hs with rfl | rfl <;> decide)
  | count total he =>
    apply h.published (published_setValue s "numberOfPeople" _)
    intro m hm
    exact (h.follows m hm).numberOfPeople (published_setValue s "numberOfPeople" _)
      ((hC m hm).2 he)
  | location l t d hl =>
    have hp := published_location s (AppDelegate.locationData l d t) nofun
    apply h.published hp
    intro m hm
    obtain ⟨hhas, hlat⟩ := (hC m hm).1 _ rfl (List.ne_nil_of_mem hl)
    apply (h.follows m hm).location hp ?_ hhas
    rw [lat_locationData]
    simpa [truthy] using hlat _ hl
  | heading ha =>
    rename_i newHeading
    have hp := published_location s (AppDelegate.headingData newHeading) nofun
    refine h.published hp fun m hm => (h.follows m hm).heading hp ?_
    rw [coordinates, coordinates, Option.bind_some, Option.bind_some,
      heading_child s _ (by decide), heading_child s _ (by decide)]

theorem Follows.delivered (h : Follows degrees node (v :: vs) m) (t : Nat) :
    Follows degrees node vs ((m.atTime t).deliver degrees v) := by
  have hmounted : (m.atTime t).mounted := h.mounted
  have hprops : ((m.atTime t).deliver degrees v).props = m.props := (deliver_frame _ v).1
  have hstays : ((m.atTime t).deliver degrees v).mounted = m.mounted := (deliver_frame _ v).2.2.1
  have hcrowd : ((m.atTime t).deliver degrees v).crowd = nextCrowd degrees m.crowd v :=
    deliver_crowd hmounted v
  refine ⟨hstays.trans hmounted, ?_, ?_, ?_, ?_, ?_⟩
  · rw [hprops, hcrowd]
    intro hhas
    exact ⟨nextCrowd_location_isSome (h.hasLocation hhas).1, (h.hasLocation hhas).2⟩
  · rw [hprops]
    exact h.hasCount
  · rw [hcrowd]
    exact h.coordinates
  · rw [hcrowd]
    exact h.count
  · rw [hcrowd]
    intro hnone
    have hbefore : m.crowd.get "location" = none := by
      by_contra hsome
      have hstill : ((nextCrowd degrees m.crowd v).get "location").isSome :=
        nextCrowd_location_isSome (Option.isSome_iff_ne_none.2 hsome)
      rw [hnone] at hstill
      cases hstill
    exact ⟨(h.quiet hbefore).1, fun u hu => (h.quiet hbefore).2 u (List.mem_cons_of_mem v hu)⟩

theorem Follows.not_thrown (h : Follows degrees node (v :: vs) m) (t : Nat) :
    ((m.atTime t).childChanged degrees v).isNone = false := by
  rw [Option.isNone_eq_false_iff, Option.isSome_iff_ne_none]
  intro hnone
  obtain ⟨hlat, hloc⟩ := childChanged_eq_none_iff.1 hnone
  exact (h.quiet hloc).2 v List.mem_cons_self hlat

theorem Follows.kept (h : Follows degrees node vs m) (hk : Kept m m') :
    Follows degrees node vs m' := by
  have hloc := hk.get h.mounted (k := "location") (by decide) (by decide)
  have hcount := hk.get h.mounted (k := "numberOfPeople") (by decide) (by decide)
  refine ⟨hk.mounted.trans h.mounted, ?_, ?_, ?_, ?_, ?_⟩
  · rw [hk.props, hloc]
    exact h.hasLocation
  · rw [hk.props]
    exact h.hasCount
  · rw [drain_location_congr hloc]
    exact h.coordinates
  · rw [drain_numberOfPeople_congr hcount]
    exact h.count
  · rw [hloc]
    exact h.quiet

theorem follows_mount (p : Props) (t : Nat) (hp : p.crowd = node.fields) :
    Follows degrees node [] (mount p t) := by
  refine ⟨mount_mounted p t, ?_, ?_, ?_, ?_, ?_⟩
  · rw [mount_props, mount_crowd, hp]
    exact fun h => ⟨h, h⟩
  · rw [mount_props, hp]
    exact id
  · rw [mount_crowd, hp]
    rfl
  · rw [mount_crowd, hp]
    rfl
  · rw [mount_crowd, hp]
    intro hnone
    refine ⟨?_, nofun⟩
    rw [show node.child "location" = none from hnone]
    nofun

theorem reaches_of_writes (hC : ReachesMarker distance s (.client e))
    (hw : s.writes distance e ≠ []) : Reaches e s := by
  intro m hm
  constructor
  · rintro ls rfl hls
    exact hC m hm hls
  · rintro (rfl | rfl)
    · exact hC m hm hw
    · exact hC m hm hw

theorem converging_step (h : Converging degrees s) (hs : s.step distance degrees e = some s')
    (hC : ReachesMarker distance s e) : Converging degrees s' := by
  have hsigned := h.signed.step hs
  cases step_moved hs with
  | client hc =>
    rename_i e h' ws
    have hopened : Converging degrees { s with home := h' } := by
      obtain ⟨uid, hcampaign⟩ := h.signed
      exact ⟨⟨uid, by rw [HomeVC.step_campaign hc, hcampaign]⟩, h.thrown, h.follows⟩
    by_cases hws : ws = []
    · rw [hws]
      exact hopened
    · have hreach : Reaches e s := reaches_of_writes hC (by rwa [writes, hc])
      apply client_invariant (Converging degrees) h.signed hc hopened ?_
      intro t w ht _ hmarker hw
      apply converging_write ht hw ?_
      rw [Reaches, hmarker]
      exact hreach
  | mount hm =>
    refine ⟨hsigned, h.thrown, ?_⟩
    rintro m ⟨⟩
    exact follows_mount _ _ rfl
  | deliver m v vs t hm hp =>
    have hf := h.follows m hm
    rw [hp] at hf
    refine ⟨hsigned, ?_, ?_⟩
    · rw [hf.not_thrown t, h.thrown]
      rfl
    · rintro m' ⟨⟩
      exact hf.delivered t
  | marked m m' hm hk he =>
    refine ⟨hsigned, h.thrown, ?_⟩
    rintro m' ⟨⟩
    exact (h.follows m hm).kept hk

/-- While only what reaches the marker is published, the handler never throws and a marker that has
received every event has the position and the count of its node. -/
theorem marker_converges (distance : CLLocation → CLLocation → Rat)
    (degrees : Number → Number → Number) (uid key : String) (database : Json)
    (es : List TrackingEvent)
    (h : Along (step distance degrees) (ReachesMarker distance) (registered uid key database) es) :
    Always (step distance degrees) Converged (registered uid key database) es :=
  Always.of_invariant (Converging degrees) (fun _ hI => hI.converged)
    (fun _ _ _ hI hs hC => converging_step hI hs hC)
    ⟨signed_opened uid key _, rfl, nofun⟩ h

def mountedLater : List TrackingEvent :=
  [.client (.didUpdateLocations [(⟨21, 39⟩, 1)]), .client .observed, .client .incrementHandler,
    .mount 0 true true true 0, .client (.didUpdateLocations [(⟨22, 39⟩, 2)]), .deliver 0,
    .client .incrementHandler, .deliver 0]

theorem marker_converges_mountedLater :
    Along (step (fun _ _ => 0) (fun _ _ => .nan)) (ReachesMarker fun _ _ => 0)
        (registered "c" "k" (.obj .empty)) mountedLater ∧
      Always (step (fun _ _ => 0) (fun _ _ => .nan)) Converged
        (registered "c" "k" (.obj .empty)) mountedLater ∧
      (run (step (fun _ _ => 0) (fun _ _ => .nan)) (registered "c" "k" (.obj .empty))
          mountedLater).map (fun s => (s.pending, s.marker.bind fun m =>
            m.view.map fun v => (v.lat, v.lng, v.scale))) =
        some ([], some (.num (.finite 22), some (.num (.finite 39)), .finite (3 + 20 / 30))) := by
  have h : Along (step (fun _ _ => 0) (fun _ _ => .nan)) (ReachesMarker fun _ _ => 0)
      (registered "c" "k" (.obj .empty)) mountedLater := by
    decide +kernel
  exact ⟨h, marker_converges _ _ "c" "k" (.obj .empty) mountedLater h, by decide +kernel⟩

/-- A marker mounted from the registered node does not see the first location and throws on the
second one. -/
theorem thrown_after_registration :
    ¬Always (step (fun _ _ => 0) (fun _ _ => .nan)) Converged (registered "c" "k" (.obj .empty))
      [.mount 0 true true true 0, .client (.didUpdateLocations [(⟨21, 39⟩, 1), (⟨22, 39⟩, 2)]),
        .deliver 0] := by
  decide +kernel

end Tracking

end CrowdTracking
