import CrowdTracking.Tracking

namespace CrowdTracking
set_option autoImplicit true
open Database Runs

/-- What has gone into a client's node: the statuses pressed, the totals written, the fixes and the
accepted headings, each in order. -/
structure Past where
  statuses : List String
  totals : List Json
  fixes : List CLLocation
  headings : List CLHeading

namespace Past

def nothing : Past := ⟨[], [], [], []⟩

def statusesOf : TrackingEvent → List String
  | .client .startBtnHandler => ["Active"]
  | .client .stopBtnHandler => ["inActive"]
  | _ => []

def total (key : String) : Write → Option Json
  | .setValue p v => if p = crowdPath key ++ ["numberOfPeople"] then some v else none
  | .updateChildValues _ _ => none

def fixesOf : TrackingEvent → List CLLocation
  | .client (.didUpdateLocations locations) => locations.map Prod.fst
  | _ => []

def headingsOf : TrackingEvent → List CLHeading
  | .client (.didUpdateHeading newHeading) =>
    if AppDelegate.Accepted newHeading then [newHeading] else []
  | _ => []

/-- An event with the writes it made. -/
def add (key : String) (p : Past) (e : TrackingEvent × List Write) : Past where
  statuses := p.statuses ++ statusesOf e.1
  totals := p.totals ++ e.2.filterMap (total key)
  fixes := p.fixes ++ fixesOf e.1
  headings := p.headings ++ headingsOf e.1

def of (key : String) (log : List (TrackingEvent × List Write)) : Past :=
  log.foldl (add key) nothing

/-- The distance published with the last of the fixes. -/
def moved (distance : CLLocation → CLLocation → Rat) (fixes : List CLLocation) : Rat :=
  match fixes.reverse with
  | newLocation :: oldLocation :: _ => distance newLocation oldLocation
  | _ => 0

theorem crowdPath_ne (k : String) {c d : String} (h : c ≠ d) :
    crowdPath k ++ [c] ≠ crowdPath k ++ [d] := by
  intro heq
  rw [List.append_cancel_left_eq, List.singleton_inj] at heq
  exact h heq

theorem add_status (p : Past) (key : String) (e : TrackingEvent) (v : Json)
    (hf : fixesOf e = []) (hh : headingsOf e = []) :
    p.add key (e, [.setValue (crowdPath key ++ ["status"]) v]) =
      { p with statuses := p.statuses ++ statusesOf e } := by
  have htotal : total key (.setValue (crowdPath key ++ ["status"]) v) = none :=
    if_neg (crowdPath_ne key (c := "status") (d := "numberOfPeople") (by decide))
  simp only [add, List.filterMap_cons, htotal, List.filterMap_nil, List.append_nil, hf, hh]

theorem add_total (p : Past) (key : String) (e : TrackingEvent) (v : Json)
    (hs : statusesOf e = []) (hf : fixesOf e = []) (hh : headingsOf e = []) :
    p.add key (e, [.setValue (crowdPath key ++ ["numberOfPeople"]) v]) =
      { p with totals := p.totals ++ [v] } := by
  have htotal : total key (.setValue (crowdPath key ++ ["numberOfPeople"]) v) = some v :=
    if_pos rfl
  simp only [add, List.filterMap_cons, htotal, List.filterMap_nil, List.append_nil, hs, hf, hh]

theorem add_fixes (p : Past) (key : String) (locations : List (CLLocation × Nat))
    (hws : ∀ w ∈ ws, ∃ k, HomeVC.Writes k (.didUpdateLocations locations) w) :
    p.add key (.client (.didUpdateLocations locations), ws) =
      { p with fixes := p.fixes ++ locations.map Prod.fst } := by
  have htotal : ws.filterMap (total key) = [] := by
    apply List.filterMap_eq_nil_iff.2
    intro w hw
    obtain ⟨k, hwrite⟩ := hws w hw
    cases hwrite with
    | status _ he => rcases he with he | he <;> cases he
    | count _ he => rcases he with he | he <;> cases he
    | location => rfl
  simp only [add, statusesOf, fixesOf, headingsOf, htotal, List.append_nil]

theorem add_heading (p : Past) (key : String) (newHeading : CLHeading) (path : List String)
    (data : List (String × Json)) (ha : AppDelegate.Accepted newHeading) :
    p.add key (.client (.didUpdateHeading newHeading), [.updateChildValues path data]) =
      { p with headings := p.headings ++ [newHeading] } := by
  simp only [add, statusesOf, fixesOf, headingsOf, if_pos ha, List.filterMap_cons, total,
    List.filterMap_nil, List.append_nil]

theorem add_nothing (p : Past) (key : String) (e : TrackingEvent)
    (hs : statusesOf e = []) (hf : fixesOf e = []) (hh : headingsOf e = []) :
    p.add key (e, []) = p := by
  simp only [add, List.filterMap_nil, List.append_nil, hs, hf, hh]

end Past

namespace Tracking

def place (node : Json) (k : String) : Option Json := (node.child "location").bind (·.child k)

/-- Every field of the node is the last value written to it, and is absent without one; `first` is
the fix of the client before it was registered. -/
structure LastWrites (distance : CLLocation → CLLocation → Rat) (first : Option CLLocation)
    (uid : String) (p : Past) (node : Json) : Prop where
  campaign_id : node.child "campaign_id" = some (.str uid)
  status : node.child "status" = p.statuses.getLast?.map .str
  numberOfPeople : node.child "numberOfPeople" = p.totals.getLast?
  lat : place node "lat" = p.fixes.getLast?.map fun l => .num (.finite l.latitude)
  lng : place node "lng" = p.fixes.getLast?.map fun l => .num (.finite l.longitude)
  distanceMoved : place node "distanceMoved" =
    p.fixes.getLast?.map fun _ => .num (.finite (Past.moved distance (first.toList ++ p.fixes)))
  heading : place node "heading" = p.headings.getLast?.map fun h =>
    .num (.finite (h.trueHeading.num.tdiv h.trueHeading.den))

def eventWrites (distance : CLLocation → CLLocation → Rat) (s : Tracking) :
    TrackingEvent → List Write
  | .client e => s.writes distance e
  | _ => []

/-- A step that also remembers its event and writes. -/
def logged (distance : CLLocation → CLLocation → Rat) (degrees : Number → Number → Number)
    (s : Tracking × List (TrackingEvent × List Write)) (e : TrackingEvent) :
    Option (Tracking × List (TrackingEvent × List Write)) :=
  (s.1.step distance degrees e).map fun s' => (s', s.2 ++ [(e, s.1.eventWrites distance e)])

/-- A client that may have had a fix before it is registered. -/
def registeredAt (first : Option CLLocation) (uid key : String) (database : Json) : Tracking :=
  let s := registered uid key database
  { s with home := { s.home with currentLocation := first } }

variable {distance : CLLocation → CLLocation → Rat} {degrees : Number → Number → Number}
  {first : Option CLLocation} {uid : String} {p : Past} {s s' : Tracking}

theorem moved_append (fixes : List CLLocation) (l : CLLocation) :
    Past.moved distance (fixes ++ [l]) =
      match fixes.getLast? with
      | some oldLocation => distance l oldLocation
      | none => 0 := by
  rw [Past.moved, List.reverse_append, List.getLast?_eq_head?_reverse]
  cases fixes.reverse <;> rfl

theorem LastWrites.place_other (hp : Published s s' c v) (hc : c ≠ "location") (k : String) :
    place s'.node k = place s.node k := by
  rw [place, place, hp.other "location" (Ne.symm hc)]

theorem LastWrites.pressed (h : LastWrites distance first uid p s.node)
    (hp : Published s s' "status" (.str v)) :
    LastWrites distance first uid { p with statuses := p.statuses ++ [v] } s'.node := by
  have hplace := LastWrites.place_other hp (by decide)
  constructor
  · rw [hp.other _ (by decide), h.campaign_id]
  · rw [hp.child, List.getLast?_concat]
    rfl
  · rw [hp.other _ (by decide), h.numberOfPeople]
  · rw [hplace, h.lat]
  · rw [hplace, h.lng]
  · rw [hplace, h.distanceMoved]
  · rw [hplace, h.heading]

theorem LastWrites.counted (h : LastWrites distance first uid p s.node)
    (hp : Published s s' "numberOfPeople" v) :
    LastWrites distance first uid { p with totals := p.totals ++ [v] } s'.node := by
  have hplace := LastWrites.place_other hp (by decide)
  constructor
  · rw [hp.other _ (by decide), h.campaign_id]
  · rw [hp.other _ (by decide), h.status]
  · rw [hp.child, List.getLast?_concat]
  · rw [hplace, h.lat]
  · rw [hplace, h.lng]
  · rw [hplace, h.distanceMoved]
  · rw [hplace, h.heading]

/-- The children of a published location. -/
theorem place_location (s : Tracking) (data : List (String × Json)) (hd : data ≠ []) (k : String) :
    place (s.publish (.updateChildValues (crowdPath s.key ++ ["location"]) data)).node k =
      (data.foldl (fun r e => r.put e.1 e.2)
        ((s.node.child "location").getD (.obj .empty)).fields).get k := by
  rw [place, (published_location s data hd).child]
  rfl

theorem place_get (s : Tracking) (k : String) :
    ((s.node.child "location").getD (.obj .empty)).fields.get k = place s.node k := by
  rw [place]
  cases s.node.child "location" <;> rfl

theorem LastWrites.located (h : LastWrites distance first uid p s.node) (l : CLLocation)
    (d : Rat) (t : Nat) (hd : d = Past.moved distance (first.toList ++ (p.fixes ++ [l]))) :
    LastWrites distance first uid { p with fixes := p.fixes ++ [l] }
      (s.publish (.updateChildValues (crowdPath s.key ++ ["location"])
        (AppDelegate.locationData l d t))).node := by
  have hp := published_location s (AppDelegate.locationData l d t) nofun
  have hplace := place_location s (AppDelegate.locationData l d t) nofun
  constructor
  · rw [hp.other _ (by decide), h.campaign_id]
  · rw [hp.other _ (by decide), h.status]
  · rw [hp.other _ (by decide), h.numberOfPeople]
  · rw [hplace, List.getLast?_concat]
    simp [AppDelegate.locationData, Record.get_put]
  · rw [hplace, List.getLast?_concat]
    simp [AppDelegate.locationData, Record.get_put]
  · rw [hplace, List.getLast?_concat, ← hd]
    simp [AppDelegate.locationData]
  · rw [hplace, ← h.heading, ← place_get]
    simp [AppDelegate.locationData, Record.get_put]

theorem LastWrites.turned (h : LastWrites distance first uid p s.node) (newHeading : CLHeading) :
    LastWrites distance first uid { p with headings := p.headings ++ [newHeading] }
      (s.publish (.updateChildValues (crowdPath s.key ++ ["location"])
        (AppDelegate.headingData newHeading))).node := by
  have hp := published_location s (AppDelegate.headingData newHeading) nofun
  have hplace := place_location s (AppDelegate.headingData newHeading) nofun
  have hother : ∀ k, k ≠ "heading" → place (s.publish (.updateChildValues
      (crowdPath s.key ++ ["location"]) (AppDelegate.headingData newHeading))).node k =
      place s.node k := by
    intro k hk
    rw [hplace, AppDelegate.headingData, List.foldl_cons, List.foldl_nil,
      Record.get_put_of_ne _ _ (Ne.symm hk), place_get]
  constructor
  · rw [hp.other _ (by decide), h.campaign_id]
  · rw [hp.other _ (by decide), h.status]
  · rw [hp.other _ (by decide), h.numberOfPeople]
  · rw [hother _ (by decide), h.lat]
  · rw [hother _ (by decide), h.lng]
  · rw [hother _ (by decide), h.distanceMoved]
  · rw [hplace, List.getLast?_concat, AppDelegate.headingData, List.foldl_cons, List.foldl_nil,
      Record.get_put_self]
    rfl

/-- A batch of fixes, the last fix being the one that the client holds. -/
theorem LastWrites.batch (locations : List (CLLocation × Nat)) (s : Tracking) (h : HomeVC)
    (p : Past) (hk : h.crowd_id = some s.key)
    (hc : h.currentLocation = (first.toList ++ p.fixes).getLast?)
    (hl : LastWrites distance first uid p s.node) :
    let p' := { p with fixes := p.fixes ++ locations.map Prod.fst }
    LastWrites distance first uid p'
        ((AppDelegate.didUpdateLocations distance h locations).2.foldl publish s).node ∧
      (AppDelegate.didUpdateLocations distance h locations).1.currentLocation =
        (first.toList ++ p'.fixes).getLast? := by
  induction locations generalizing s h p with
  | nil =>
    simp only [AppDelegate.didUpdateLocations, List.map_nil, List.append_nil, List.foldl_nil]
    exact ⟨hl, hc⟩
  | cons l locations ih =>
    obtain ⟨l, t⟩ := l
    have hmoved : Past.moved distance (first.toList ++ p.fixes ++ [l]) = _ :=
      moved_append (first.toList ++ p.fixes) l
    rw [← hc, List.append_assoc] at hmoved
    have hnext := ih (s.publish (.updateChildValues (crowdPath s.key ++ ["location"])
        (AppDelegate.locationData l (Past.moved distance (first.toList ++ (p.fixes ++ [l]))) t)))
      { h with currentLocation := some l } { p with fixes := p.fixes ++ [l] } hk
      (by rw [← List.append_assoc, List.getLast?_concat]) (hl.located l _ t rfl)
    simp only [List.append_assoc, List.singleton_append] at hnext
    simp only [AppDelegate.didUpdateLocations, AppDelegate.updateLocation, hk, List.foldl_append,
      List.foldl_cons, List.foldl_nil, List.map_cons]
    rw [hmoved] at hnext
    exact hnext

theorem LastWrites.client (h : LastWrites distance first uid p s.node)
    (hk : s.home.crowd_id = some s.key)
    (hc : s.home.currentLocation = (first.toList ++ p.fixes).getLast?)
    (hs : s.home.step distance s.node e = some (h', ws)) :
    let p' := p.add s.key (.client e, ws)
    LastWrites distance first uid p' (ws.foldl publish { s with home := h' }).node ∧
      h'.currentLocation = (first.toList ++ p'.fixes).getLast? := by
  cases e with
  | startBtnHandler | stopBtnHandler =>
    obtain ⟨-, hs⟩ := Option.ite_none_right_eq_some.1 hs
    cases hs
    rw [HomeVC.setStatus_eq hk, Past.add_status p s.key _ _ rfl rfl]
    refine ⟨?_, hc⟩
    exact LastWrites.pressed (s := { s with home := s.home.toggleStatus _ }) h
      (published_setValue _ "status" _)
  | incrementHandler | decrementHandler =>
    rcases HomeVC.step_total (by simp) hs with hr | ⟨total, hr⟩
    · cases hr
      rw [Past.add_nothing p s.key _ rfl rfl rfl]
      exact ⟨h, hc⟩
    · rw [HomeVC.setNumberOfPeople_eq hk] at hr
      cases hr
      rw [Past.add_total p s.key _ _ rfl rfl rfl]
      let s' := { s with home := { s.home with numberOfCrowd := some (toString total) } }
      exact ⟨LastWrites.counted (s := s') h (published_setValue s' "numberOfPeople" _), hc⟩
  | observed =>
    cases hs
    rw [Past.add_nothing p s.key _ rfl rfl rfl]
    refine ⟨h, ?_⟩
    rw [← hc]
    simp only [HomeVC.checkStatus]
    split <;> rfl
  | didUpdateLocations locations =>
    obtain ⟨hl, hcur⟩ := LastWrites.batch locations { s with home := h' } s.home p hk hc h
    have hws : ∀ w ∈ ws, ∃ k, HomeVC.Writes k (.didUpdateLocations locations) w := by
      intro w hw
      obtain ⟨k, -, hwrite⟩ := HomeVC.step_writes hs hw
      exact ⟨k, hwrite⟩
    rw [HomeVC.step, Option.some.injEq] at hs
    rw [hs] at hl hcur
    rw [Past.add_fixes p s.key locations hws]
    exact ⟨hl, hcur⟩
  | didUpdateHeading newHeading =>
    cases hs
    by_cases ha : AppDelegate.Accepted newHeading
    · have hw : AppDelegate.didUpdateHeading s.home newHeading =
          [.updateChildValues (crowdPath s.key ++ ["location"])
            (AppDelegate.headingData newHeading)] := by
        simp only [AppDelegate.didUpdateHeading, if_pos ha, AppDelegate.updateLocation, hk]
      rw [hw, Past.add_heading p s.key newHeading _ _ ha]
      exact ⟨h.turned newHeading, hc⟩
    · have hw : AppDelegate.didUpdateHeading s.home newHeading = [] := if_neg ha
      rw [hw, Past.add_nothing p s.key (.client (.didUpdateHeading newHeading)) rfl rfl (if_neg ha)]
      exact ⟨h, hc⟩

/-- The state of a run with its log. -/
structure Recorded (distance : CLLocation → CLLocation → Rat) (first : Option CLLocation)
    (uid k : String) (s : Tracking × List (TrackingEvent × List Write)) : Prop where
  node : s.1.key = k
  crowd_id : s.1.home.crowd_id = some k
  current : s.1.home.currentLocation = (first.toList ++ (Past.of k s.2).fixes).getLast?
  last : LastWrites distance first uid (Past.of k s.2) s.1.node

theorem node_registeredAt (first : Option CLLocation) (uid k : String) (database : Json) :
    (registeredAt first uid k database).node =
      .obj (Record.empty.put "campaign_id" (.str uid)) := by
  have hget := getAt_setAt_self (crowdPath k)
    (.obj (Record.empty.put "campaign_id" (.str uid))) database
  exact congrArg (Option.getD · (.obj .empty)) hget

theorem recorded_registered (first : Option CLLocation) (uid : String) (database : Json)
    (hk : k ≠ "") : Recorded distance first uid k (registeredAt first uid k database, []) := by
  refine ⟨rfl, ?_, ?_, ?_⟩
  · exact Option.filter_eq_some_iff.2 ⟨rfl, decide_eq_true hk⟩
  · cases first <;> rfl
  · rw [node_registeredAt]
    constructor <;> rfl

theorem Recorded.client {log : List (TrackingEvent × List Write)}
    (h : Recorded distance first uid k (s, log))
    (hs : s.home.step distance s.node e = some (h', ws)) :
    Recorded distance first uid k
      (ws.foldl publish { s with home := h' }, log ++ [(.client e, s.writes distance e)]) := by
  obtain ⟨rfl, hid, hcur, hlast⟩ := h
  have hws : s.writes distance e = ws := by
    rw [writes, hs]
    rfl
  have hof : Past.of s.key (log ++ [(.client e, ws)]) =
      (Past.of s.key log).add s.key (.client e, ws) := List.foldl_append
  obtain ⟨hl, hcur'⟩ := hlast.client hid hcur hs
  rw [hws]
  constructor
  · rw [publish_key]
  · rw [publish_home, HomeVC.step_crowd_id hs, hid]
  · rw [publish_home, hof]
    exact hcur'
  · rw [hof]
    exact hl

/-- An event of the marker does not touch the client or the database. -/
theorem Recorded.other {log : List (TrackingEvent × List Write)}
    (h : Recorded distance first uid k (s, log)) (he : ∀ c, e ≠ .client c)
    (hkey : s'.key = s.key) (hhome : s'.home = s.home) (hdatabase : s'.database = s.database) :
    Recorded distance first uid k (s', log ++ [(e, s.eventWrites distance e)]) := by
  have hof : Past.of k (log ++ [(e, s.eventWrites distance e)]) = Past.of k log := by
    rw [Past.of, List.foldl_append, List.foldl_cons, List.foldl_nil]
    cases e with
    | client c => exact absurd rfl (he c)
    | _ => exact Past.add_nothing _ _ _ rfl rfl rfl
  have hnode : s'.node = s.node := by
    rw [Tracking.node, Tracking.node, hkey, hdatabase]
  refine ⟨hkey.trans h.node, ?_, ?_, ?_⟩
  · rw [hhome]
    exact h.crowd_id
  · rw [hhome, hof]
    exact h.current
  · rw [hnode, hof]
    exact h.last

theorem Recorded.step {s s' : Tracking × List (TrackingEvent × List Write)}
    (h : Recorded distance first uid k s) (hs : logged distance degrees s e = some s') :
    Recorded distance first uid k s' := by
  obtain ⟨t, ht, rfl⟩ := Option.map_eq_some_iff.1 hs
  cases step_moved ht with
  | client hc => exact h.client hc
  | mount hm => exact h.other (fun c hc => by cases hc) rfl rfl rfl
  | deliver m v vs t hm hp => exact h.other (fun c hc => by cases hc) rfl rfl rfl
  | marked m m' hm hk he => exact h.other he rfl rfl rfl

/-- Every field of a registered node is the last value that the client has written to it. A batch
of fixes may be taken as any number of smaller ones. -/
theorem last_writes (distance : CLLocation → CLLocation → Rat)
    (degrees : Number → Number → Number) (first : Option CLLocation) (uid key : String)
    (database : Json) (hkey : key ≠ "") (es : List TrackingEvent) :
    Always (logged distance degrees)
      (fun s => LastWrites distance first uid (Past.of key s.2) s.1.node)
      (registeredAt first uid key database, []) es :=
  always_of_invariant (Recorded distance first uid key) (fun _ h => h.last)
    (fun _ _ _ h hs => h.step hs) (recorded_registered first uid database hkey) es

def sharingSession : List TrackingEvent :=
  [.client .observed, .client .startBtnHandler, .client .incrementHandler,
    .client (.didUpdateLocations [(⟨21, 39⟩, 1), (⟨22, 39⟩, 2)]), .client .stopBtnHandler]

theorem last_writes_sharing :
    "k" ≠ "" ∧ Always (logged (fun _ _ => 5) fun _ _ => .nan)
      (fun s => LastWrites (fun _ _ => 5) none "c" (Past.of "k" s.2) s.1.node)
      (registeredAt none "c" "k" (.obj .empty), []) sharingSession ∧
      (run (logged (fun _ _ => 5) fun _ _ => .nan) (registeredAt none "c" "k" (.obj .empty), [])
          sharingSession).map (fun s => (s.1.node.child "status", s.1.node.child "numberOfPeople",
            place s.1.node "lat", place s.1.node "distanceMoved")) =
        some (some (.str "inActive"), some (.str "10"), some (.num (.finite 22)),
          some (.num (.finite 5))) :=
  ⟨by decide, last_writes _ _ none "c" "k" _ (by decide) _, by decide +kernel⟩

end Tracking

end CrowdTracking
