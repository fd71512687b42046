import CrowdTracking.HomeVC
import CrowdTracking.MarkerIntervals

namespace CrowdTracking
set_option autoImplicit true
open Script Database Runs

/-- A guide's client, the database and the marker of the guide's node on the dashboard, with the
`child_changed` events that have been raised for the marker and are not delivered yet. -/
structure Tracking where
  key : String
  home : HomeVC
  database : Json
  marker : Option MyMarker
  pending : List Json
  thrown : Bool
deriving DecidableEq

inductive TrackingEvent where
  | client (e : ClientEvent)
  | mount (index : Nat) (showActive showInActive showLost : Bool) (t : Nat)
  | deliver (t : Nat)
  | interval (t id : Nat)
  | filters (t index : Nat) (showActive showInActive showLost : Bool)
deriving DecidableEq

namespace Tracking

/-- The client opened on a node, before the dashboard shows it. -/
def opened (uid key : String) (database : Json) : Tracking :=
  { key := key, home := .opened ⟨uid, key⟩, database := database, marker := none, pending := [],
    thrown := false }

def registered (uid key : String) (database : Json) : Tracking :=
  opened uid key ((ViewController.registration uid key).apply database)

def node (s : Tracking) : Json := (getAt (crowdPath s.key) s.database).getD (.obj .empty)

/-- A write reaches the database and raises its events for a mounted marker. -/
def publish (s : Tracking) (w : Write) : Tracking :=
  let s' := { s with database := w.apply s.database }
  { s' with pending :=
      if s.marker.isSome then s.pending ++ (changedChildren s.node s'.node).map Prod.snd
      else s.pending }

def writes (distance : CLLocation → CLLocation → Rat) (s : Tracking) (e : ClientEvent) :
    List Write :=
  ((s.home.step distance s.node e).map Prod.snd).getD []

def step (distance : CLLocation → CLLocation → Rat) (degrees : Number → Number → Number)
    (s : Tracking) : TrackingEvent → Option Tracking
  | .client e => (s.home.step distance s.node e).map fun (home, writes) =>
      writes.foldl publish { s with home := home }
  | .mount index showActive showInActive showLost t =>
    let props : Props := ⟨s.key, index, s.node.fields, showActive, showInActive, showLost⟩
    if s.marker = none ∧ (getAt (crowdPath s.key) s.database).isSome then
      some { s with marker := some (.mount props t), pending := [] }
    else none
  | .deliver t =>
    match s.marker, s.pending with
    | some m, v :: pending => (m.step degrees (t, .childChanged s.key v)).map fun m' =>
        { s with
          marker := some m'
          pending := pending
          thrown := s.thrown || ((m.atTime t).childChanged degrees v).isNone }
    | _, _ => none
  | .interval t n => s.marker.bind fun m =>
      (m.step degrees (t, .interval n)).map fun m' => { s with marker := some m' }
  | .filters t index showActive showInActive showLost => s.marker.bind fun m =>
      (m.step degrees (t, .newProps ⟨m.props.campaign_id, index, m.props.crowd, showActive,
        showInActive, showLost⟩)).map fun m' => { s with marker := some m' }

/-- The event that a child raises for a marker when it takes a value. -/
def raised (old : Option Json) (v : Json) : List Json :=
  match old with
  | some w => if w = v then [] else [v]
  | none => []

/-- One child of the node takes a value. -/
structure Published (s s' : Tracking) (c : String) (v : Json) : Prop where
  key : s'.key = s.key
  home : s'.home = s.home
  marker : s'.marker = s.marker
  thrown : s'.thrown = s.thrown
  other : ∀ k, k ≠ c → s'.node.child k = s.node.child k
  child : s'.node.child c = some v
  pending : s'.pending =
    if s.marker.isSome then s.pending ++ raised (s.node.child c) v else s.pending

variable {s s' : Tracking}

theorem raised_cases (old : Option Json) (v : Json) :
    (raised old v = [] ∧ (old = none ∨ old = some v)) ∨
      (raised old v = [v] ∧ ∃ w, old = some w) := by
  simp only [raised]
  cases old with
  | none => exact .inl ⟨rfl, .inl rfl⟩
  | some w =>
    by_cases hw : w = v
    · exact .inl ⟨if_pos hw, .inr (by rw [hw])⟩
    · exact .inr ⟨if_neg hw, w, rfl⟩

theorem mem_raised {old : Option Json} {v w : Json} (h : w ∈ raised old v) : w = v := by
  rcases raised_cases old v with ⟨hr, -⟩ | ⟨hr, -⟩
  · rw [hr] at h
    cases h
  · rw [hr] at h
    exact List.mem_singleton.1 h

theorem published_of_node (s : Tracking) (w : Write)
    (hother : ∀ k, k ≠ c → (s.publish w).node.child k = s.node.child k)
    (hchild : (s.publish w).node.child c = some v) : Published s (s.publish w) c v := by
  refine ⟨rfl, rfl, rfl, rfl, hother, hchild, ?_⟩
  have hevents : changedChildren s.node (s.publish w).node =
      (match s.node.child c with
        | some u => if u = v then [] else [(c, v)]
        | none => []) := changedChildren_single hother hchild
  have hmap : (changedChildren s.node (s.publish w).node).map Prod.snd =
      raised (s.node.child c) v := by
    rw [hevents]
    simp only [raised]
    cases s.node.child c with
    | none => rfl
    | some u => by_cases hu : u = v <;> simp [hu]
  rw [← hmap]
  rfl

theorem published_setValue (s : Tracking) (c : String) (v : Json) :
    Published s (s.publish (.setValue (crowdPath s.key ++ [c]) v)) c v := by
  have hnode : (s.publish (.setValue (crowdPath s.key ++ [c]) v)).node =
      .obj (s.node.fields.put c v) := by
    rw [node, publish]
    simp only [Write.apply]
    rw [getAt_setAt_below]
    rfl
  apply published_of_node
  · intro k hk
    rw [hnode]
    exact Record.get_put_of_ne _ _ (Ne.symm hk)
  · rw [hnode]
    exact Record.get_put_self _ _ _

theorem published_location (s : Tracking) (data : List (String × Json)) (h : data ≠ []) :
    Published s (s.publish (.updateChildValues (crowdPath s.key ++ ["location"]) data)) "location"
      (.obj (data.foldl (fun r e => r.put e.1 e.2)
        ((s.node.child "location").getD (.obj .empty)).fields)) := by
  have hnode : (s.publish (.updateChildValues (crowdPath s.key ++ ["location"]) data)).node =
      updateAt ["location"] data s.node := by
    rw [node, publish]
    simp only [Write.apply]
    rw [getD_updateAt]
    rfl
  apply published_of_node
  · intro k hk
    rw [hnode]
    exact updateAt_child_of_ne data s.node hk
  · rw [hnode]
    exact updateAt_child_self data s.node h

def Signed (s : Tracking) : Prop := ∃ uid, s.home.campaign = some ⟨uid, s.key⟩

theorem signed_opened (uid key : String) (database : Json) : Signed (opened uid key database) :=
  ⟨uid, rfl⟩

theorem Signed.crowd_id (h : Signed s) (hk : s.home.crowd_id = some k) : k = s.key := by
  obtain ⟨uid, hc⟩ := h
  rw [HomeVC.crowd_id, hc, Option.map_some, Option.filter_eq_some_iff] at hk
  exact (Option.some.inj hk.1).symm

theorem Signed.published (h : Signed s) (hp : Published s s' c v) : Signed s' := by
  obtain ⟨uid, hc⟩ := h
  exact ⟨uid, by rw [hp.home, hp.key, hc]⟩

theorem lat_locationData (l : CLLocation) (d : Rat) (t : Nat) (r : Record Json) :
    (Json.obj ((AppDelegate.locationData l d t).foldl (fun r e => r.put e.1 e.2) r)).child "lat" =
      some (.num (.finite l.latitude)) := by
  simp [AppDelegate.locationData, Record.get_put]

theorem heading_child (s : Tracking) (newHeading : CLHeading) (h : k ≠ "heading") :
    (Json.obj ((AppDelegate.headingData newHeading).foldl (fun r e => r.put e.1 e.2)
      ((s.node.child "location").getD (.obj .empty)).fields)).child k =
      (s.node.child "location").bind (·.child k) := by
  rw [AppDelegate.headingData, List.foldl_cons, List.foldl_nil, Json.child_obj,
    Record.get_put_of_ne _ _ (Ne.symm h)]
  cases s.node.child "location" <;> rfl

theorem publish_key (s : Tracking) (ws : List Write) : (ws.foldl publish s).key = s.key := by
  induction ws generalizing s with
  | nil => rfl
  | cons w ws ih => exact ih (s.publish w)

theorem publish_home (s : Tracking) (ws : List Write) : (ws.foldl publish s).home = s.home := by
  induction ws generalizing s with
  | nil => rfl
  | cons w ws ih => exact ih (s.publish w)

/-- What every write of an event keeps, the event keeps. -/
theorem client_invariant {distance : CLLocation → CLLocation → Rat} (P : Tracking → Prop)
    (hsigned : Signed s) (hs : s.home.step distance s.node e = some (h', ws))
    (hP : P { s with home := h' })
    (hw : ∀ t w, P t → t.key = s.key → t.marker = s.marker → HomeVC.Writes t.key e w →
      P (t.publish w)) :
    P (ws.foldl publish { s with home := h' }) := by
  have hwrites : ∀ w ∈ ws, HomeVC.Writes s.key e w := by
    intro w hmem
    obtain ⟨k, hk, hwrite⟩ := HomeVC.step_writes hs hmem
    rwa [hsigned.crowd_id hk] at hwrite
  clear hs
  have hfold : ∀ (t : Tracking), P t → t.key = s.key → t.marker = s.marker →
      P (ws.foldl publish t) := by
    induction ws with
    | nil => exact fun t hP _ _ => hP
    | cons w ws ih =>
      intro t hP hkey hmarker
      have hwrite := hwrites w List.mem_cons_self
      rw [← hkey] at hwrite
      exact ih (fun w hmem => hwrites w (List.mem_cons_of_mem _ hmem)) (t.publish w)
        (hw t w hP hkey hmarker hwrite) hkey hmarker
  exact hfold _ hP rfl rfl

/-- An event of a marker that is no snapshot keeps its crowd but for `lost` and a removal. -/
structure Kept (m m' : MyMarker) : Prop where
  mounted : m'.mounted = m.mounted
  props : m'.props.crowd = m.props.crowd
  crowd : m.mounted → m'.crowd = m.crowd ∨ m'.crowd = m.crowd.put "lost" (.bool true) ∨
    m'.crowd = m.crowd.put "status" (.str "Terminated")

theorem Kept.get (h : Kept m m') (hm : m.mounted) (hlost : k ≠ "lost") (hstatus : k ≠ "status") :
    m'.crowd.get k = m.crowd.get k := by
  rcases h.crowd hm with hc | hc | hc
  · rw [hc]
  · rw [hc, Record.get_put_of_ne _ _ (Ne.symm hlost)]
  · rw [hc, Record.get_put_of_ne _ _ (Ne.symm hstatus)]

theorem Kept.status (h : Kept m m') (hm : m.mounted) :
    m'.crowd.get "status" = some (.str "Terminated") ∨
      m'.crowd.get "status" = m.crowd.get "status" := by
  rcases h.crowd hm with hc | hc | hc
  · exact .inr (by rw [hc])
  · exact .inr (by rw [hc, Record.get_put_of_ne _ _ (by decide)])
  · exact .inl (by rw [hc, Record.get_put_self])

inductive Moved (distance : CLLocation → CLLocation → Rat) (degrees : Number → Number → Number)
    (s : Tracking) : TrackingEvent → Tracking → Prop where
  | client (hs : s.home.step distance s.node e = some (h', ws)) :
      Moved distance degrees s (.client e) (ws.foldl publish { s with home := h' })
  | mount (hm : s.marker = none) :
      Moved distance degrees s (.mount index a i l t)
        { s with marker := some (.mount ⟨s.key, index, s.node.fields, a, i, l⟩ t), pending := [] }
  | deliver (m : MyMarker) (v : Json) (vs : List Json) (t : Nat) (hm : s.marker = some m)
      (hp : s.pending = v :: vs) :
      Moved distance degrees s (.deliver t)
        { s with
          marker := some ((m.atTime t).deliver degrees v)
          pending := vs
          thrown := s.thrown || ((m.atTime t).childChanged degrees v).isNone }
  | marked (m m' : MyMarker) (hm : s.marker = some m) (hk : Kept m m')
      (he : ∀ c, e ≠ .client c) :
      Moved distance degrees s e { s with marker := some m' }

variable {distance : CLLocation → CLLocation → Rat} {degrees : Number → Number → Number}

theorem kept_fire {m : MyMarker} (t n : Nat) (cb : Callback) :
    Kept m (((m.atTime t).reschedule n).fire cb) := by
  rw [MyMarker.fire_eq]
  refine ⟨by rw [MyMarker.setCrowd_mounted]; rfl, by rw [MyMarker.setCrowd_props]; rfl, ?_⟩
  intro hm
  have hm' : ((m.atTime t).reschedule n).mounted := hm
  rw [MyMarker.setCrowd_crowd hm']
  cases cb with
  | timer => exact .inr (.inl rfl)
  | removeMarker => exact .inr (.inr rfl)

theorem step_moved (h : s.step distance degrees e = some s') :
    Moved distance degrees s e s' := by
  cases e with
  | client e =>
    obtain ⟨⟨h', ws⟩, hs, rfl⟩ := Option.map_eq_some_iff.1 h
    exact .client hs
  | mount index a i l t =>
    obtain ⟨⟨hm, -⟩, h⟩ := Option.ite_none_right_eq_some.1 h
    cases h
    exact .mount hm
  | deliver t =>
    simp only [step] at h
    split at h
    · rename_i m v vs hm hp
      obtain ⟨m', hm', rfl⟩ := Option.map_eq_some_iff.1 h
      obtain ⟨hclock, hstepped⟩ := MyMarker.step_stepped hm'
      rw [MyMarker.step, if_neg (Nat.not_lt.2 hclock)] at hm'
      cases hm'
      exact .deliver m v vs t hm hp
    · cases h
  | interval t n =>
    obtain ⟨m, hm, h⟩ := Option.bind_eq_some_iff.1 h
    obtain ⟨m', hm', rfl⟩ := Option.map_eq_some_iff.1 h
    cases (MyMarker.step_stepped hm').2 with
    | interval hi hid hdue hf => exact .marked m _ hm (kept_fire t n _) fun c hc => by cases hc
  | filters t index a i l =>
    obtain ⟨m, hm, h⟩ := Option.bind_eq_some_iff.1 h
    obtain ⟨m', hm', rfl⟩ := Option.map_eq_some_iff.1 h
    cases (MyMarker.step_stepped hm').2 with
    | newProps p hmounted =>
      refine .marked m _ hm ⟨?_, ?_, fun _ => .inl ?_⟩ fun c hc => by cases hc
      · rw [MyMarker.newProps, MyMarker.rerender_mounted]
        rfl
      · rw [MyMarker.newProps, MyMarker.rerender_props]
      · rw [MyMarker.newProps, MyMarker.rerender_crowd]
        rfl

theorem Signed.step (h : Signed s) (hs : s.step distance degrees e = some s') : Signed s' := by
  cases step_moved hs with
  | client hc =>
    obtain ⟨uid, hcampaign⟩ := h
    refine ⟨uid, ?_⟩
    rw [publish_home, publish_key, HomeVC.step_campaign hc, hcampaign]
  | mount hm => exact h
  | deliver m v vs t hm hp => exact h
  | marked m m' hm hk he => exact h

end Tracking

end CrowdTracking
