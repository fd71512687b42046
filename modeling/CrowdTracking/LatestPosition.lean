import CrowdTracking.MapPositions
import CrowdTracking.Platform

namespace CrowdTracking
set_option autoImplicit true
open Script Database Runs

/-- A node after its guide has reported positions is at the last one; without a report its latitude
is absent or 0. Nothing but its location has a latitude. -/
structure Stands (ps : List (Rat × Rat)) (node : Json) : Prop where
  plain : ∀ c v, c ≠ "location" → node.child c = some v → v.child "lat" = none
  unreported : ps = [] → ¬truthy (Tracking.place node "lat")
  last : ∀ p, ps.getLast? = some p →
    Tracking.place node "lat" = some (.num (.finite p.1)) ∧
      Tracking.place node "lng" = some (.num (.finite p.2))

/-- The node of a crowd that is in the database. -/
structure StandsAt (k : String) (ps : List (Rat × Rat)) (t : Json) : Prop where
  there : (getAt (crowdPath k) t).isSome
  node : Stands ps ((getAt (crowdPath k) t).getD (.obj .empty))

/-- Writes to a node that each leave it at the last of the positions so far. -/
inductive Traces (k : String) :
    List (Rat × Rat) → Json → List Write → List (Rat × Rat) → Prop where
  | done (h : StandsAt k ps t) : Traces k ps t [] ps
  | write (rs : List (Rat × Rat)) (h : StandsAt k ps t) (hw : w.path = crowdPath k ++ q)
      (hkept : w.Kept) (hws : Traces k (ps ++ rs) (w.apply t) ws qs) :
      Traces k ps t (w :: ws) qs

variable {k : String} {ps qs rs : List (Rat × Rat)} {node t : Json} {w : Write} {ws : List Write}

theorem Stands.congr (h : Stands ps node)
    (hplain : ∀ c v, c ≠ "location" → node'.child c = some v → v.child "lat" = none)
    (hlat : Tracking.place node' "lat" = Tracking.place node "lat")
    (hlng : Tracking.place node' "lng" = Tracking.place node "lng") : Stands ps node' := by
  constructor
  · exact hplain
  · rw [hlat]
    exact h.unreported
  · rw [hlat, hlng]
    exact h.last

/-- A node that takes a position is at it. -/
theorem stands_moved {p : Rat × Rat}
    (hplain : ∀ c v, c ≠ "location" → node.child c = some v → v.child "lat" = none)
    (hlat : Tracking.place node "lat" = some (.num (.finite p.1)))
    (hlng : Tracking.place node "lng" = some (.num (.finite p.2))) : Stands (ps ++ [p]) node := by
  constructor
  · exact hplain
  · intro hnil
    exact absurd hnil (List.append_ne_nil_of_right_ne_nil ps (List.cons_ne_nil p []))
  · intro q hq
    rw [List.getLast?_concat, Option.some.injEq] at hq
    subst hq
    exact ⟨hlat, hlng⟩

theorem Stands.put {r : Record Json} (h : Stands ps (.obj r)) (hc : c ≠ "location")
    (hv : v.child "lat" = none) : Stands ps (.obj (r.put c v)) := by
  apply h.congr
  · intro d w hd hw
    rw [Json.child_obj, Record.get_put] at hw
    split at hw
    · cases hw
      exact hv
    · exact h.plain d w hd hw
  · rw [Tracking.place, Tracking.place, Json.child_obj, Record.get_put_of_ne _ _ hc]
    rfl
  · rw [Tracking.place, Tracking.place, Json.child_obj, Record.get_put_of_ne _ _ hc]
    rfl

theorem Stands.putLocation {r : Record Json} {p : Rat × Rat} (h : Stands ps (.obj r))
    (hlat : v.child "lat" = some (.num (.finite p.1)))
    (hlng : v.child "lng" = some (.num (.finite p.2))) :
    Stands (ps ++ [p]) (.obj (r.put "location" v)) := by
  apply stands_moved
  · intro d w hd hw
    rw [Json.child_obj, Record.get_put_of_ne _ _ (Ne.symm hd)] at hw
    exact h.plain d w hd hw
  · rw [Tracking.place, Json.child_obj, Record.get_put_self, Option.bind_some, hlat]
  · rw [Tracking.place, Json.child_obj, Record.get_put_self, Option.bind_some, hlng]

theorem stands_empty : Stands [] (.obj .empty) := by
  constructor
  · intro c v hc hv
    cases hv
  · exact fun _ => Bool.false_ne_true
  · intro p hp
    cases hp

/-- A latitude of 0 is none. -/
theorem stands_nowhere {r : Record Json} (h : Stands [] (.obj r))
    (hlat : v.child "lat" = some (.num (.finite 0))) :
    Stands [] (.obj (r.put "location" v)) := by
  constructor
  · intro d w hd hw
    rw [Json.child_obj, Record.get_put_of_ne _ _ (Ne.symm hd)] at hw
    exact h.plain d w hd hw
  · intro _
    rw [Tracking.place, Json.child_obj, Record.get_put_self, Option.bind_some, hlat]
    decide
  · intro p hp
    cases hp

theorem Stands.erase {r : Record Json} (h : Stands ps (.obj r)) (hc : c ≠ "location") :
    Stands ps (.obj (r.erase c)) := by
  have hget : (r.erase c).get "location" = r.get "location" := by
    rw [Record.get_erase, if_neg hc]
  apply h.congr
  · intro d w hd hw
    rw [Json.child_obj, Record.get_erase] at hw
    exact h.plain d w hd (Option.ite_none_left_eq_some.1 hw).2
  · rw [Tracking.place, Tracking.place, Json.child_obj, hget]
    rfl
  · rw [Tracking.place, Tracking.place, Json.child_obj, hget]
    rfl

theorem Stands.putNullable {r : Record Json} (h : Stands ps (.obj r)) (hc : c ≠ "location")
    (s : Option String) : Stands ps (.obj (putNullable r c s)) := by
  cases s with
  | some s => exact h.put hc rfl
  | none => exact h.erase hc

theorem Stands.ne_nil (h : Stands ps node) (hnode : Positioned node) : ps ≠ [] :=
  fun hps => h.unreported hps hnode.1

/-- A latitude other than 0 makes a position. -/
theorem Stands.positioned (h : Stands ps node) (hne : ps ≠ []) (hps : ∀ p ∈ ps, p.1 ≠ 0) :
    Positioned node := by
  obtain ⟨p, hp⟩ := Option.isSome_iff_exists.1 (List.getLast?_isSome.2 hne)
  constructor
  · have hlat : (node.child "location").bind (·.child "lat") = some (.num (.finite p.1)) :=
      (h.last p hp).1
    rw [hlat]
    apply decide_eq_true
    constructor
    · intro hnan
      cases hnan
    · intro hzero
      exact hps p (List.mem_of_getLast? hp) (Number.finite.inj hzero)
  · intro f hf hloc
    obtain ⟨v, hv⟩ := Option.isSome_iff_exists.1 ((Record.get_isSome_iff node.fields f).2 hf)
    have hchild : node.child f = some v := by
      cases node with
      | obj r => exact hv
      | _ => cases hf
    rw [hchild, Option.bind_some, h.plain f v hloc hchild]
    exact Bool.false_ne_true

theorem Stands.coordinates {p : Rat × Rat} (h : Stands ps node) (hp : ps.getLast? = some p) :
    MyMarker.coordinates (node.child "location") =
      MyMarker.coordinates (some (position p.1 p.2)) := by
  obtain ⟨hlat, hlng⟩ := h.last p hp
  exact Prod.ext hlat hlng

theorem Traces.start (h : Traces k ps t ws qs) : StandsAt k ps t := by
  cases h with
  | done h => exact h
  | write _ h => exact h

theorem Traces.extends (h : Traces k ps t ws qs) : ps <+: qs := by
  induction h with
  | done => exact List.prefix_refl _
  | write _ _ _ _ _ ih => exact (List.prefix_append _ _).trans ih

theorem Traces.last (h : Traces k ps t ws qs) :
    StandsAt k qs (ws.foldl (fun t w => w.apply t) t) := by
  induction h with
  | done h => exact h
  | write _ _ _ _ _ ih => exact ih

theorem Traces.written (h : Traces k ps t ws qs) : ∀ w ∈ ws, w.Kept := by
  induction h with
  | done => exact fun w hw => absurd hw List.not_mem_nil
  | write _ _ _ hkept _ ih => exact List.forall_mem_cons.2 ⟨hkept, ih⟩

theorem StandsAt.written (h : StandsAt k ps t) (hw : w.path = crowdPath k ++ q)
    (hnode : Stands qs ((getAt (crowdPath k) (w.apply t)).getD (.obj .empty))) :
    StandsAt k qs (w.apply t) :=
  ⟨getAt_apply_isSome hw h.there, hnode⟩

theorem Traces.kept (h : StandsAt k ps t) (hw : w.path = crowdPath k ++ q) (hkept : w.Kept)
    (hnode : Stands ps ((getAt (crowdPath k) (w.apply t)).getD (.obj .empty))) :
    Traces k ps t [w] ps := by
  apply Traces.write [] h hw hkept
  rw [List.append_nil]
  exact .done (h.written hw hnode)

/-- The position of a location callback. -/
def CLLocation.coordinate (l : CLLocation) : Rat × Rat := (l.latitude, l.longitude)

section Client

variable {s s' : Tracking} {distance : CLLocation → CLLocation → Rat} {h' : HomeVC}

theorem Stands.published (h : Stands ps s.node) (hp : Tracking.Published s s' c v)
    (hc : c ≠ "location") (hv : v.child "lat" = none) : Stands ps s'.node := by
  apply h.congr
  · intro d w hd hw
    by_cases hdc : d = c
    · rw [hdc, hp.child, Option.some.injEq] at hw
      rw [← hw]
      exact hv
    · rw [hp.other d hdc] at hw
      exact h.plain d w hd hw
  · exact Tracking.LastWrites.place_other hp hc "lat"
  · exact Tracking.LastWrites.place_other hp hc "lng"

theorem Stands.located (h : Stands ps s.node) (l : CLLocation) (d : Rat) (t : Nat) :
    Stands (ps ++ [l.coordinate]) (s.publish (.updateChildValues (crowdPath s.key ++ ["location"])
      (AppDelegate.locationData l d t))).node := by
  have hp := Tracking.published_location s (AppDelegate.locationData l d t) nofun
  have hplace := Tracking.place_location s (AppDelegate.locationData l d t) nofun
  apply stands_moved
  · intro c v hc hv
    rw [hp.other c hc] at hv
    exact h.plain c v hc hv
  · rw [hplace]
    exact Tracking.lat_locationData l d t _
  · rw [hplace]
    simp [AppDelegate.locationData, Record.get_put, CLLocation.coordinate]

theorem Stands.turned (h : Stands ps s.node) (newHeading : CLHeading) :
    Stands ps (s.publish (.updateChildValues (crowdPath s.key ++ ["location"])
      (AppDelegate.headingData newHeading))).node := by
  have hp := Tracking.published_location s (AppDelegate.headingData newHeading) nofun
  have hplace (k : String) (hk : k ≠ "heading") : Tracking.place (s.publish (.updateChildValues
      (crowdPath s.key ++ ["location"]) (AppDelegate.headingData newHeading))).node k =
      Tracking.place s.node k := by
    rw [Tracking.place, hp.child]
    exact Tracking.heading_child s newHeading hk
  apply h.congr
  · intro c v hc hv
    rw [hp.other c hc] at hv
    exact h.plain c v hc hv
  · exact hplace "lat" (by decide)
  · exact hplace "lng" (by decide)

theorem kept_setValue (p : List String) (s : String) : (Write.setValue p (.str s)).Kept := rfl

theorem kept_locationData (p : List String) (l : CLLocation) (d : Rat) (t : Nat) :
    (Write.updateChildValues p (AppDelegate.locationData l d t)).Kept := by
  simp only [Write.Kept, AppDelegate.locationData, List.forall_mem_cons]
  exact ⟨rfl, rfl, rfl, rfl, fun e he => absurd he List.not_mem_nil⟩

theorem kept_headingData (p : List String) (newHeading : CLHeading) :
    (Write.updateChildValues p (AppDelegate.headingData newHeading)).Kept := by
  simp only [Write.Kept, AppDelegate.headingData, List.forall_mem_cons]
  exact ⟨rfl, fun e he => absurd he List.not_mem_nil⟩

theorem StandsAt.located (h : StandsAt s.key ps s.database) (l : CLLocation) (d : Rat) (t : Nat) :
    StandsAt s.key (ps ++ [l.coordinate])
      ((Write.updateChildValues (crowdPath s.key ++ ["location"])
        (AppDelegate.locationData l d t)).apply s.database) :=
  h.written rfl (h.node.located (s := s) l d t)

theorem traces_locations (distance : CLLocation → CLLocation → Rat)
    (locations : List (CLLocation × Nat)) (s : Tracking) (h : HomeVC)
    (hk : h.crowd_id = some s.key) (hat : StandsAt s.key ps s.database) :
    Traces s.key ps s.database (AppDelegate.didUpdateLocations distance h locations).2
      (ps ++ locations.map fun l => l.1.coordinate) := by
  induction locations generalizing ps s h with
  | nil =>
    rw [List.map_nil, List.append_nil]
    exact .done hat
  | cons l locations ih =>
    obtain ⟨l, t⟩ := l
    simp only [AppDelegate.didUpdateLocations, AppDelegate.updateLocation, hk,
      List.singleton_append, List.map_cons]
    rw [List.append_cons ps l.coordinate]
    apply Traces.write [l.coordinate] hat rfl (kept_locationData _ l _ t)
    exact ih (s.publish (.updateChildValues (crowdPath s.key ++ ["location"])
      (AppDelegate.locationData l _ t))) { h with currentLocation := some l } hk (hat.located l _ t)

theorem Traces.unmoved {e : TrackingEvent} (h : Traces k ps t ws ps) (he : Past.fixesOf e = []) :
    Traces k ps t ws (ps ++ (Past.fixesOf e).map CLLocation.coordinate) := by
  rw [he, List.map_nil, List.append_nil]
  exact h

/-- What an iOS client writes on an event takes its node to the positions of the event. -/
theorem traces_client (hk : s.home.crowd_id = some s.key) (h : StandsAt s.key ps s.database)
    (hs : s.home.step distance s.node e = some (h', ws)) :
    Traces s.key ps s.database ws
      (ps ++ (Past.fixesOf (.client e)).map CLLocation.coordinate) := by
  cases e with
  | startBtnHandler | stopBtnHandler =>
    obtain ⟨-, hs⟩ := Option.ite_none_right_eq_some.1 hs
    cases hs
    rw [HomeVC.setStatus_eq hk]
    apply Traces.unmoved (.kept h rfl (kept_setValue _ _) ?_) rfl
    exact Stands.published (s := s) h.node (Tracking.published_setValue s "status" _) (by decide)
      rfl
  | incrementHandler | decrementHandler =>
    rcases HomeVC.step_total (by simp) hs with hr | ⟨total, hr⟩
    · cases hr
      exact Traces.unmoved (.done h) rfl
    · rw [HomeVC.setNumberOfPeople_eq hk] at hr
      cases hr
      apply Traces.unmoved (.kept h rfl (kept_setValue _ _) ?_) rfl
      exact Stands.published (s := s) h.node (Tracking.published_setValue s "numberOfPeople" _)
        (by decide) rfl
  | observed =>
    cases hs
    exact Traces.unmoved (.done h) rfl
  | didUpdateLocations locations =>
    rw [HomeVC.step, Option.some.injEq] at hs
    have htraces := traces_locations distance locations s s.home hk h
    rw [hs] at htraces
    rw [Past.fixesOf, List.map_map]
    exact htraces
  | didUpdateHeading newHeading =>
    cases hs
    apply Traces.unmoved ?_ rfl
    by_cases ha : AppDelegate.Accepted newHeading
    · have hw : AppDelegate.didUpdateHeading s.home newHeading =
          [.updateChildValues (crowdPath s.key ++ ["location"])
            (AppDelegate.headingData newHeading)] := by
        simp only [AppDelegate.didUpdateHeading, if_pos ha, AppDelegate.updateLocation, hk]
      rw [hw]
      exact .kept h rfl (kept_headingData _ newHeading) (h.node.turned (s := s) newHeading)
    · have hw : AppDelegate.didUpdateHeading s.home newHeading = [] := if_neg ha
      rw [hw]
      exact .done h

end Client

section Session

variable {a a' : MainActivity} {p p' : Phone} {e : MainEvent}

theorem MainActivity.Stepped.fix_or_writes (hs : a.Stepped p e a' p' ws) :
    (e.fix = none ∧ ws = []) ∨ ws = [.setValue (crowdPath a.child) (.obj a'.crowdData)] := by
  cases hs with
  | idle n fine coarse hf hl hfix => exact .inl ⟨hfix, rfl⟩
  | started hs => exact .inl ⟨MainActivity.fix_of_starts hs, rfl⟩
  | disabled he => exact .inl ⟨by rw [he]; rfl, rfl⟩
  | located | stopped => exact .inr rfl

/-- The map of the sharing screen goes to the position of an event. -/
theorem Stands.stepped (h : Stands ps (.obj a.crowdData)) (hs : a.Stepped p e a' p' ws) :
    Stands (ps ++ e.fix.toList) (.obj a'.crowdData) := by
  have hunmoved {r : Record Json} (he : e.fix = none) (hr : Stands ps (.obj r)) :
      Stands (ps ++ e.fix.toList) (.obj r) := by
    rw [he, Option.toList_none, List.append_nil]
    exact hr
  cases hs with
  | idle n fine coarse hf hl hfix => exact hunmoved hfix h
  | started hs => exact hunmoved (MainActivity.fix_of_starts hs) (h.put (by decide) rfl)
  | located he =>
    rename_i l lat lng _ _
    subst he
    apply Stands.putNullable ?_ (by decide)
    apply (h.putNullable (by decide) _).putLocation
    · simp [Record.get_put]
    · simp
  | disabled he => exact hunmoved (by rw [he]; rfl) h
  | stopped he => exact hunmoved (by rw [he]; rfl) (h.put (by decide) rfl)

theorem get_putNullable_of_ne (r : Record Json) (s : Option String) (h : k ≠ l) :
    (putNullable r k s).get l = r.get l := by
  cases s with
  | some s => exact Record.get_put_of_ne r _ h
  | none => exact (Record.get_erase r k l).trans (if_neg h)

theorem kept_putNullable {r : Record Json} (h : Json.KeptFields r) (k : String)
    (s : Option String) : Json.KeptFields (putNullable r k s) := by
  cases s with
  | some s => exact h.put k (Json.kept_str s)
  | none => exact h.erase k

/-- The values in the two maps of the sharing screen are kept as they are. -/
structure MainActivity.Held (a : MainActivity) : Prop where
  location : Json.KeptFields a.mLocation
  crowd : Json.KeptFields a.crowdData

theorem MainActivity.Held.onLocationChanged (h : a.Held) (p : Phone) (lat lng : Rat) :
    (a.onLocationChanged p lat lng).1.Held := by
  have hlocation : Json.KeptFields (a.onLocationChanged p lat lng).1.mLocation :=
    (h.location.put _ (Json.kept_num _)).put _ (Json.kept_num _)
  constructor
  · exact hlocation
  · apply kept_putNullable
    apply (kept_putNullable h.crowd _ _).put
    exact Json.kept_put (h.location.put _ (Json.kept_num _)) _ (Json.kept_num _)

theorem MainActivity.Stepped.held (hs : a.Stepped p e a' p' ws) (h : a.Held) : a'.Held := by
  cases hs with
  | idle => exact ⟨h.location, h.crowd⟩
  | started => exact ⟨h.location, h.crowd.put _ (Json.kept_num _)⟩
  | located => exact h.onLocationChanged p _ _
  | disabled => exact ⟨h.location, h.crowd⟩
  | stopped => exact ⟨h.location, h.crowd.put _ (Json.kept_str _)⟩

theorem MainActivity.Stepped.kept_write (hs : a.Stepped p e a' p' [w]) (h : a.Held) : w.Kept := by
  have hheld := hs.held h
  cases hs with
  | located =>
    rename_i l lat lng _ _ _
    have hget : (a.onLocationChanged p lat lng).1.crowdData.get "location" =
        some (.obj (a.onLocationChanged p lat lng).1.mLocation) := by
      simp only [MainActivity.onLocationChanged]
      rw [get_putNullable_of_ne _ _ (by decide), Record.get_put_self]
    exact Json.kept_obj hheld.crowd hget
  | stopped => exact Json.kept_put h.crowd _ (Json.kept_str _)

/-- What an Android session writes on an event takes its node to the position of the event. -/
theorem traces_session (h : StandsAt a.child ps t) (hdata : Stands ps (.obj a.crowdData))
    (hheld : a.Held) (hs : a.Stepped p e a' p' ws) :
    Traces a.child ps t ws (ps ++ e.fix.toList) := by
  rcases hs.fix_or_writes with ⟨hfix, rfl⟩ | rfl
  · rw [hfix, Option.toList_none, List.append_nil]
    exact .done h
  · have hpath : (Write.setValue (crowdPath a.child) (.obj a'.crowdData)).path =
        crowdPath a.child ++ [] := (List.append_nil _).symm
    apply Traces.write e.fix.toList h hpath (hs.kept_write hheld)
    apply Traces.done
    apply h.written hpath
    rw [Write.apply, getAt_setAt_self]
    exact hdata.stepped hs

end Session

/-- The positions that an event of a guide reports. -/
def GuideEvent.fixes : GuideEvent → List (Rat × Rat)
  | .ios e => (Past.fixesOf e).map CLLocation.coordinate
  | .android (.client e) => e.fix.toList
  | .android _ => []

namespace GuideApp

/-- An iOS client has its crowd, and an Android session holds its last position. -/
def Ready (ps : List (Rat × Rat)) : GuideApp → Prop
  | .ios s => s.home.crowd_id = some s.key
  | .android s => Stands ps (.obj s.session.activity.crowdData) ∧ s.session.activity.Held

/-- A guide whose node is at the last of its positions. -/
structure Sited (ps : List (Rat × Rat)) (g : GuideApp) : Prop where
  ready : g.Ready ps
  node : StandsAt g.key ps g.database

variable {distance : CLLocation → CLLocation → Rat} {degrees : Number → Number → Number}
  {g g' u : GuideApp} {e : GuideEvent}

theorem fixesOf_unmoved {e : TrackingEvent} (he : ∀ c, e ≠ .client c) : Past.fixesOf e = [] := by
  cases e with
  | client c => exact absurd rfl (he c)
  | _ => rfl

theorem fixes_unmoved {e : WatchEvent} (he : ∀ c, e ≠ .client c) :
    (GuideEvent.android e).fixes = [] := by
  cases e with
  | client c => exact absurd rfl (he c)
  | _ => rfl

/-- What an event writes takes the node to the positions that it reports. -/
theorem Sited.traces (h : g.Sited ps) (ha : Acted distance degrees g e g' ws) :
    Traces g.key ps g.database ws (ps ++ e.fixes) ∧ g'.Ready (ps ++ e.fixes) := by
  cases ha with
  | ios hs => exact ⟨traces_client h.ready h.node hs, (HomeVC.step_crowd_id hs).trans h.ready⟩
  | android hs =>
    have hstepped := MainActivity.step_stepped hs
    obtain ⟨hstands, hheld⟩ := h.ready
    exact ⟨traces_session h.node hstands hheld hstepped, hstands.stepped hstepped,
      hstepped.held hheld⟩
  | tracked he hs =>
    obtain ⟨hkey, hhome, -⟩ := tracked_frame he hs
    constructor
    · exact Traces.unmoved (.done h.node) (fixesOf_unmoved he)
    · rw [Ready, hkey, hhome]
      exact h.ready
  | watched he hs =>
    rw [fixes_unmoved he, List.append_nil]
    constructor
    · exact .done h.node
    · rw [Ready, watched_frame he hs]
      exact h.ready

theorem foldl_publish_ready (h : g.Ready ps) (ws : List Write) :
    (ws.foldl publish g).Ready ps := by
  induction ws generalizing g with
  | nil => exact h
  | cons w ws ih =>
    apply ih
    cases g with
    | ios s => exact h
    | android s => exact h

theorem Sited.step (h : g.Sited ps) (hs : g.step distance degrees e = some g') :
    g'.Sited (ps ++ e.fixes) := by
  obtain ⟨⟨g₁, ws⟩, hact, rfl⟩ := Option.map_eq_some_iff.1 hs
  have hacted := act_acted hact
  obtain ⟨hkey, hdatabase⟩ := hacted.frame
  obtain ⟨htraces, hready⟩ := h.traces hacted
  constructor
  · exact foldl_publish_ready hready ws
  · rw [foldl_publish_key, foldl_publish_database, hkey, hdatabase]
    exact htraces.last

theorem Sited.alike (h : g.Sited ps) (hu : Alike g u) : u.Sited ps := by
  obtain ⟨t, rfl, ht⟩ := hu
  constructor
  · cases g with
    | ios s => exact h.ready
    | android s => exact h.ready
  · rw [withDatabase_key, withDatabase_database]
    constructor
    · rw [ht]
      exact h.node.there
    · rw [ht]
      exact h.node.node

theorem sited_registeredAt (first : Option CLLocation) (uid : String) (t : Json) (hk : k ≠ "") :
    Sited [] (.ios (.registeredAt first uid k t)) := by
  constructor
  · exact Option.filter_eq_some_iff.2 ⟨rfl, decide_eq_true hk⟩
  · constructor
    · exact Option.isSome_of_eq_some (getAt_setAt_self _ _ _)
    · show Stands [] (Tracking.node (.registeredAt first uid k t))
      rw [Tracking.node_registeredAt]
      exact stands_empty.put (by decide) rfl

/-- The registered node of an Android session has the position 0, 0. -/
theorem sited_start (fine coarse service : Bool) (u : SignUp) (draw : Draw) (t : Json) :
    Sited [] (.android (.registered (.start fine coarse service u draw t))) := by
  constructor
  · exact ⟨stands_empty, Json.keptFields_empty, Json.keptFields_empty⟩
  · constructor
    · exact Option.isSome_of_eq_some (getAt_setAt_self _ _ _)
    · show Stands [] (Session.start fine coarse service u draw t).node
      rw [Session.node_start]
      apply Stands.put ?_ (by decide) rfl
      apply Stands.put ?_ (by decide) rfl
      apply stands_nowhere (stands_empty.put (by decide) rfl)
      rfl

theorem Registered.sited (h : g.Registered) (hk : g.key ≠ "") : g.Sited [] := by
  cases g with
  | ios s =>
    obtain ⟨first, uid, t, hu⟩ := h
    exact (sited_registeredAt first uid t hk).alike hu
  | android s =>
    obtain ⟨fine, coarse, service, u, draw, t, hu⟩ := h
    exact (sited_start fine coarse service u draw t).alike hu

end GuideApp

end CrowdTracking
