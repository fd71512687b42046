import CrowdTracking.MarkerDraining
import CrowdTracking.Tracking

namespace CrowdTracking
set_option autoImplicit true
open Script Database Runs

namespace Tracking

/-- With everything delivered, the marker is Active only if the node is. -/
def StopRespected (s : Tracking) : Prop :=
  ∀ m ∈ s.marker, s.pending = [] → m.status = some (.str "Active") →
    s.node.child "status" = some (.str "Active")

instance (s : Tracking) : Decidable (StopRespected s) :=
  inferInstanceAs (Decidable (∀ m ∈ s.marker, _))

/-- Once the marker is mounted, a position is published only while the status is Active: a location
with a latitude other than zero, and a heading of a node with one. -/
def PublishesActive (s : Tracking) : TrackingEvent → Prop
  | .client (.didUpdateLocations locations) =>
    s.marker.isSome → (∃ l ∈ locations, l.1.latitude ≠ 0) →
      s.node.child "status" = some (.str "Active")
  | .client (.didUpdateHeading newHeading) =>
    s.marker.isSome → AppDelegate.Accepted newHeading →
      truthy ((s.node.child "location").bind (·.child "lat")) →
      s.node.child "status" = some (.str "Active")
  | _ => True

instance (s : Tracking) (e : TrackingEvent) : Decidable (PublishesActive s e) :=
  match e with
  | .client (.didUpdateLocations _) => inferInstanceAs (Decidable (_ → _ → _))
  | .client (.didUpdateHeading _) => inferInstanceAs (Decidable (_ → _ → _ → _))
  | .client .startBtnHandler | .client .stopBtnHandler | .client .incrementHandler
  | .client .decrementHandler | .client .observed | .mount .. | .deliver _ | .interval ..
  | .filters .. => isTrue trivial

/-- The events on their way leave the marker Active only if the node is. -/
structure Respectful (degrees : Number → Number → Number) (s : Tracking) : Prop where
  signed : Signed s
  mounted : ∀ m ∈ s.marker, m.mounted
  active : ∀ m ∈ s.marker,
    (MyMarker.drain degrees m.crowd s.pending).get "status" = some (.str "Active") →
      s.node.child "status" = some (.str "Active")

variable {s s' : Tracking} {degrees : Number → Number → Number}
  {distance : CLLocation → CLLocation → Rat}

theorem Respectful.stopRespected (h : Respectful degrees s) : StopRespected s := by
  intro m hm hp hs
  apply h.active m hm
  rw [hp]
  exact hs

theorem drain_published {m : MyMarker} (hp : Published s s' c v) (hm : m ∈ s.marker) :
    MyMarker.drain degrees m.crowd s'.pending =
      MyMarker.drain degrees (MyMarker.drain degrees m.crowd s.pending)
        (raised (s.node.child c) v) := by
  rw [hp.pending, if_pos (Option.isSome_of_eq_some hm), MyMarker.drain_append]

theorem Respectful.other (h : Respectful degrees s) (hp : Published s s' c v)
    (hc : c ≠ "status") (hv : v ≠ .str "Active")
    (hlat : s.marker.isSome → truthy (v.child "lat") →
      s.node.child "status" = some (.str "Active")) : Respectful degrees s' := by
  refine ⟨h.signed.published hp, by rw [hp.marker]; exact h.mounted, ?_⟩
  intro m hm hs
  rw [hp.marker] at hm
  rw [hp.other "status" (Ne.symm hc)]
  rw [drain_published hp hm] at hs
  rcases raised_cases (s.node.child c) v with ⟨hr, -⟩ | ⟨hr, -⟩
  · rw [hr] at hs
    exact h.active m hm hs
  · rw [hr] at hs
    rcases MyMarker.nextCrowd_active hs with htruthy | hactive | hs
    · exact hlat (Option.isSome_of_eq_some hm) htruthy
    · exact absurd hactive hv
    · exact h.active m hm hs

theorem Respectful.status (h : Respectful degrees s) (hp : Published s s' "status" (.str st))
    (hv : st = "Active" ∨ st = "inActive") : Respectful degrees s' := by
  refine ⟨h.signed.published hp, by rw [hp.marker]; exact h.mounted, ?_⟩
  intro m hm hs
  rw [hp.marker] at hm
  rw [hp.child]
  rcases hv with rfl | rfl
  · rfl
  · rw [drain_published hp hm] at hs
    rcases raised_cases (s.node.child "status") (.str "inActive") with ⟨hr, hold⟩ | ⟨hr, -⟩
    · rw [hr] at hs
      have hnode := h.active m hm hs
      rcases hold with hold | hold
      · rw [hold] at hnode
        cases hnode
      · rw [hold] at hnode
        exact hnode
    · have hrestarts : MyMarker.Restarts (MyMarker.drain degrees m.crowd s.pending)
          (.str "inActive") := .inr (by decide)
      rw [hr, MyMarker.drain_cons, MyMarker.drain, List.foldl_nil,
        MyMarker.nextCrowd_status_of_restarts hrestarts] at hs
      exact hs

theorem respectful_write (h : Respectful degrees s) (hw : HomeVC.Writes s.key e w)
    (hC : PublishesActive s (.client e)) : Respectful degrees (s.publish w) := by
  cases hw with
  | status hs he => exact h.status (published_setValue s "status" _) hs
  | count total he =>
    refine h.other (published_setValue s "numberOfPeople" _) (by decide) ?_ (fun _ => nofun)
    intro heq
    have hnum := isNaN_toString total
    rw [heq] at hnum
    revert hnum
    decide
  | location l t d hl =>
    have hp := published_location s (AppDelegate.locationData l d t) nofun
    apply h.other hp (by decide) nofun
    intro hm hlat
    rw [lat_locationData] at hlat
    exact hC hm ⟨_, hl, by simpa [truthy] using hlat⟩
  | heading ha =>
    rename_i newHeading
    have hp := published_location s (AppDelegate.headingData newHeading) nofun
    apply h.other hp (by decide) nofun
    intro hm hlat
    rw [heading_child s _ (by decide)] at hlat
    exact hC hm ha hlat

theorem publishesActive_write (hw : HomeVC.Writes s.key e w)
    (hC : PublishesActive s (.client e)) : PublishesActive (s.publish w) (.client e) := by
  cases hw with
  | status hs he => rcases he with rfl | rfl <;> trivial
  | count total he => rcases he with rfl | rfl <;> trivial
  | location l t d hl =>
    have hp := published_location s (AppDelegate.locationData l d t) nofun
    intro hm hlat
    rw [hp.other "status" (by decide)]
    exact hC hm hlat
  | heading ha =>
    rename_i newHeading
    have hp := published_location s (AppDelegate.headingData newHeading) nofun
    intro hm ha hlat
    rw [hp.child, Option.bind_some, heading_child s _ (by decide)] at hlat
    rw [hp.other "status" (by decide)]
    exact hC hm ha hlat

theorem respectful_step (h : Respectful degrees s) (hs : s.step distance degrees e = some s')
    (hC : PublishesActive s e) : Respectful degrees s' := by
  have hsigned := h.signed.step hs
  cases step_moved hs with
  | client hc =>
    refine (client_invariant (fun t => Respectful degrees t ∧ PublishesActive t (.client _))
      h.signed hc ⟨⟨?_, h.mounted, h.active⟩, hC⟩ ?_).1
    · obtain ⟨uid, hcampaign⟩ := h.signed
      exact ⟨uid, by rw [HomeVC.step_campaign hc, hcampaign]⟩
    · intro t w ht _ _ hw
      exact ⟨respectful_write ht.1 hw ht.2, publishesActive_write hw ht.2⟩
  | mount hm =>
    refine ⟨hsigned, ?_, ?_⟩
    · rintro m ⟨⟩
      exact MyMarker.mount_mounted _ _
    · rintro m ⟨⟩ hs
      rw [MyMarker.mount_crowd] at hs
      exact hs
  | deliver m v vs t hm hp =>
    have hmounted : (m.atTime t).mounted := h.mounted m hm
    refine ⟨hsigned, ?_, ?_⟩
    · rintro m' ⟨⟩
      rw [(MyMarker.deliver_frame _ _).2.2.1]
      exact hmounted
    · rintro m' ⟨⟩ hs
      rw [MyMarker.deliver_crowd hmounted] at hs
      apply h.active m hm
      rw [hp]
      exact hs
  | marked m m' hm hk he =>
    have hmounted := h.mounted m hm
    refine ⟨hsigned, ?_, ?_⟩
    · rintro _ ⟨⟩
      rw [hk.mounted]
      exact hmounted
    · rintro _ ⟨⟩ hs
      apply h.active m hm
      have hloc := hk.get hmounted (k := "location") (by decide) (by decide)
      have hdrain : (MyMarker.drain degrees m'.crowd s.pending).get "status" =
            some (.str "Terminated") ∨
          (MyMarker.drain degrees m'.crowd s.pending).get "status" =
            (MyMarker.drain degrees m.crowd s.pending).get "status" :=
        MyMarker.drain_status hloc (hk.status hmounted)
      rcases hdrain with hterm | hsame
      · exact absurd (hterm.symm.trans hs) (by decide)
      · exact hsame.symm.trans hs

theorem respectful_opened (uid key : String) (database : Json) :
    Respectful degrees (opened uid key database) :=
  ⟨signed_opened uid key database, nofun, nofun⟩

/-- While positions are published only with the status Active, a marker that has received every
event is Active only if its node is. -/
theorem stop_respected (distance : CLLocation → CLLocation → Rat)
    (degrees : Number → Number → Number) (uid key : String) (database : Json)
    (es : List TrackingEvent)
    (h : Along (step distance degrees) PublishesActive (opened uid key database) es) :
    Always (step distance degrees) StopRespected (opened uid key database) es :=
  Always.of_invariant (Respectful degrees) (fun _ hI => hI.stopRespected)
    (fun _ _ _ hI hs hC => respectful_step hI hs hC) (respectful_opened uid key database) h

def locatedNode : Json :=
  (Write.setValue (crowdPath "k") (.obj (crowdValue "inActive" 21 39))).apply (.obj .empty)

/-- Start, a location and Stop, each with its delivery. -/
def sharing : List TrackingEvent :=
  [.mount 0 true true true 0, .client .startBtnHandler, .deliver 0,
    .client (.didUpdateLocations [(⟨22, 39⟩, 1)]), .deliver 0, .client .stopBtnHandler, .deliver 0]

/-- Stop writes its status to the node, and the marker takes it. -/
theorem stop_respected_sharing :
    Along (step (fun _ _ => 0) (fun _ _ => .nan)) PublishesActive (opened "c" "k" locatedNode)
        sharing ∧
      Always (step (fun _ _ => 0) (fun _ _ => .nan)) StopRespected (opened "c" "k" locatedNode)
        sharing ∧
      (run (step (fun _ _ => 0) (fun _ _ => .nan)) (opened "c" "k" locatedNode) sharing).map
          (fun s => (s.node.child "status", s.marker.map MyMarker.status, s.pending)) =
        some (some (.str "inActive"), some (some (.str "inActive")), []) := by
  have h : Along (step (fun _ _ => 0) (fun _ _ => .nan)) PublishesActive
      (opened "c" "k" locatedNode) sharing := by
    decide +kernel
  exact ⟨h, stop_respected _ _ "c" "k" locatedNode sharing h, by decide +kernel⟩

/-- A location that follows Stop makes the marker Active again. -/
theorem active_after_stop :
    ¬Always (step (fun _ _ => 0) (fun _ _ => .nan)) StopRespected (opened "c" "k" locatedNode)
      (sharing ++ [.client (.didUpdateLocations [(⟨23, 39⟩, 2)]), .deliver 0]) := by
  decide +kernel

end Tracking

end CrowdTracking
