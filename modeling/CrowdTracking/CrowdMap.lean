import CrowdTracking.MarkerIntervals
import CrowdTracking.MyMarkerClusterer

namespace CrowdTracking
set_option autoImplicit true
open Script Runs Database

/-- The page's checkboxes and its search box, which are its React state. -/
structure App where
  searchQuery : String
  showActive : Bool
  showInActive : Bool
  showLost : Bool
deriving DecidableEq

inductive AppEvent where
  | handleShowActive (checked : Bool)
  | handleShowInActive (checked : Bool)
  | handleShowLost (checked : Bool)
  | handleSearch (value : String)
deriving DecidableEq

namespace App

def INITIAL_STATE : App := ⟨"", true, true, true⟩

def filters (a : App) : Bool × Bool × Bool := (a.showActive, a.showInActive, a.showLost)

/-- The page after an event; `none` when its handler sets no state. Searching only logs the text. -/
def handle (a : App) : AppEvent → Option App
  | .handleShowActive checked => some { a with showActive := checked }
  | .handleShowInActive checked => some { a with showInActive := checked }
  | .handleShowLost checked => some { a with showLost := checked }
  | .handleSearch _ => none

end App

/-- The integer a key stands for in the order of the database: at most ten digits, in 32 bits. -/
def tryParseInt (key : String) : Option Int :=
  let value : Option Int :=
    match key.toList with
    | '-' :: ds => if ds ≠ [] ∧ ds.length ≤ 10 ∧ ds.all Char.isDigit then
        some (-(Nat.ofDigitChars 10 ds 0 : Int)) else none
    | ds => if ds ≠ [] ∧ ds.length ≤ 10 ∧ ds.all Char.isDigit then
        some (Nat.ofDigitChars 10 ds 0 : Int) else none
  value.filter fun n => -2147483648 ≤ n ∧ n ≤ 2147483647

/-- `nameCompare a b ≤ 0`: integers first, by value and then by length, then the other keys. -/
def nameLe (a b : String) : Bool :=
  match tryParseInt a, tryParseInt b with
  | some m, some n => if m = n then a.length ≤ b.length else m ≤ n
  | some _, none => true
  | none, some _ => false
  | none, none => a ≤ b

/-- The crowds of a database by their names. -/
def crowds (t : Json) : Record Json := ((t.child "Crowd").getD (.obj .empty)).fields

theorem getAt_crowdPath (k : String) (t : Json) :
    getAt (crowdPath k) t = (crowds t).get k := by
  rw [crowdPath, getAt, crowds]
  cases t.child "Crowd" with
  | none => rfl
  | some u =>
    rw [Option.bind_some, Option.getD_some, getAt]
    cases u with
    | obj r =>
      rw [Json.child_obj, Json.fields_obj]
      cases r.get k <;> rfl
    | _ => rfl

/-- The names of a record's children in the order of the database. -/
def childNames (r : Record Json) : List String :=
  r.keys.dedup.insertionSort fun a b => nameLe a b

/-- What anyone may do to the database: a write, or the removal of a crowd. -/
inductive Change where
  | write (w : Write)
  | remove (crowd_id : String)
deriving DecidableEq

def Change.apply : Change → Json → Json
  | .write w, t => w.store t
  | .remove k, t => setAt ["Crowd"] (.obj ((crowds t).erase k)) t

/-- What the server sends to a page that listens: the value first, then the changes to it. -/
inductive Message where
  | snapshot (database : Json)
  | change (c : Change)
deriving DecidableEq

def Message.apply : Message → Json → Json
  | .snapshot t, _ => t
  | .change c, t => c.apply t

/-- The children of one crowd that have changed. -/
def changesOf (old new : Record Json) (k : String) : List CrowdEvent :=
  match old.get k, new.get k with
  | some v, some w => (changedChildren v w).map fun c => .childChanged k c.2
  | _, _ => []

def changedEvents (old new : Record Json) : List CrowdEvent :=
  (childNames new).flatMap (changesOf old new)

def removedKeys (old new : Record Json) : List String :=
  (childNames old).filter fun k => (new.get k).isNone

/-- A crowd's value is spread into records: one that is no object has no fields. -/
def addedCrowds (old new : Record Json) : List (String × Record Json) :=
  ((childNames new).filter fun k => (old.get k).isNone).map fun k =>
    (k, ((new.get k).getD (.obj .empty)).fields)

/-- The events a page raises when the crowds change, in the order of the database library: those
of the listeners below the crowds come first, then the removed crowds, then the added ones. -/
def raisedEvents (old new : Record Json) : List CrowdEvent :=
  changedEvents old new ++ (removedKeys old new).map .childRemoved ++
    (addedCrowds old new).map fun c => .childAdded c.1 c.2

namespace MyMarkerClusterer

def atTime (c : MyMarkerClusterer) (t : Nat) : MyMarkerClusterer :=
  { c with clock := t, markers := c.markers.map (·.atTime t) }

/-- A due interval of the marker at a position fires. -/
def interval (c : MyMarkerClusterer) (i id : Nat) : Option MyMarkerClusterer :=
  match c.markers[i]? with
  | none => none
  | some m => (m.dueInterval id).map fun n =>
      { c with markers := c.markers.set i ((m.reschedule id).fire n.callback) }

end MyMarkerClusterer

/-- The database, one page and the messages on their way to it. The map is on the page when the
scripts are loaded, and the server sends changes once the map listens. -/
structure CrowdMap where
  database : Json
  inFlight : List Message
  listens : Bool
  view : Json
  app : App
  map : Option MyMarkerClusterer
  clock : Nat
deriving DecidableEq

inductive MapEvent where
  | change (c : Change)
  | load
  | listen
  | deliver
  | app (e : AppEvent)
  | interval (i id : Nat)
deriving DecidableEq

namespace CrowdMap

def initial (database : Json) (t : Nat) : CrowdMap :=
  ⟨database, [], false, .obj .empty, App.INITIAL_STATE, none, t⟩

def atTime (s : CrowdMap) (t : Nat) : CrowdMap :=
  { s with clock := t, map := s.map.map (·.atTime t) }

/-- The next message arrives, and the map handles the events that it raises. -/
def deliver (degrees : Number → Number → Number) (s : CrowdMap) : Option CrowdMap :=
  match s.inFlight, s.map with
  | m :: ms, some c =>
    let view := m.apply s.view
    (run (MyMarkerClusterer.step degrees) c (raisedEvents (crowds s.view) (crowds view))).map
      fun c => { s with inFlight := ms, view := view, map := some c }
  | _, _ => none

/-- A new state of the page reaches the map as its props. -/
def setApp (degrees : Number → Number → Number) (s : CrowdMap) (a : App) : CrowdMap :=
  { s with
    app := a
    map := s.map.bind fun c => c.step degrees (.filters a.showActive a.showInActive a.showLost) }

/-- One timed event. A mounted map asks for the value once before it listens. -/
def step (degrees : Number → Number → Number) (s : CrowdMap) (e : Nat × MapEvent) :
    Option CrowdMap :=
  if e.1 < s.clock then none
  else
    let s := s.atTime e.1
    match e.2 with
    | .change c => some { s with
        database := c.apply s.database
        inFlight := if s.listens then s.inFlight ++ [.change c] else s.inFlight }
    | .load => if s.map.isSome then none else some { s with
        map := some (.initial s.app.showActive s.app.showInActive s.app.showLost s.clock) }
    | .listen => if s.map.isNone ∨ s.listens then none else some { s with
        listens := true
        inFlight := [.snapshot s.database] }
    | .deliver => s.deliver degrees
    | .app e => some ((s.app.handle e).elim s (s.setApp degrees))
    | .interval i id => s.map.bind fun c => (c.interval i id).map fun c => { s with map := some c }

def markers (s : CrowdMap) : List MyMarker := (s.map.map (·.markers)).getD []

end CrowdMap

namespace MyMarkerClusterer

def Rendered (c : MyMarkerClusterer) : Prop :=
  c.markers.map MyMarker.props = c.elements ∧ c.crowds.keys.Nodup

def filters (c : MyMarkerClusterer) : Bool × Bool × Bool :=
  (c.showActive, c.showInActive, c.showLost)

variable {degrees : Number → Number → Number} {c c' : MyMarkerClusterer}

theorem reconcile_props (t : Nat) (ms : List MyMarker) (ps : List Props) :
    (reconcile t ms ps).map MyMarker.props = ps := by
  induction ps generalizing ms with
  | nil => cases ms <;> rfl
  | cons p ps ih =>
    cases ms with
    | nil => simp only [reconcile, List.map_cons, MyMarker.mount_props, ih]
    | cons m ms =>
      simp only [reconcile, List.map_cons, MyMarker.newProps, MyMarker.rerender_props, ih]

theorem render_eq (c : MyMarkerClusterer) :
    c.render = { c with markers := reconcile c.clock c.markers c.elements } := by
  have hm := c.render_markers
  rw [render] at hm ⊢
  split at hm
  · rename_i hk
    rw [if_pos hk, ← hm]
  · rename_i hk
    rw [if_neg hk]

theorem rendered_render (h : c.crowds.keys.Nodup) : c.render.Rendered := by
  rw [render_eq]
  exact ⟨reconcile_props _ _ _, h⟩

@[simp] theorem render_filters (c : MyMarkerClusterer) : c.render.filters = c.filters := by
  rw [render_eq]
  rfl

theorem Rendered.campaignIds (h : c.Rendered) : campaignIds c.markers = c.keys := by
  rw [← c.elements_campaign_id, ← h.1, List.map_map]
  rfl

/-- A change of the markers that keeps their props. -/
theorem Rendered.congr (h : c.Rendered) {ms : List MyMarker}
    (hp : ms.map MyMarker.props = c.markers.map MyMarker.props) :
    { c with markers := ms }.Rendered :=
  ⟨hp.trans h.1, h.2⟩

theorem childChanged_props (c : MyMarkerClusterer) (k : String) (v : Json) :
    (c.childChanged degrees k v).markers.map MyMarker.props = c.markers.map MyMarker.props := by
  rw [childChanged, List.map_map]
  apply List.map_congr_left
  intro m _
  rw [Function.comp_apply]
  split
  · exact (MyMarker.deliver_frame m v).1
  · rfl

/-- The events of the database leave the filters, the others leave the crowds. -/
theorem Rendered.step (h : c.Rendered) (hs : c.step degrees e = some c') : c'.Rendered := by
  cases e with
  | childAdded k v =>
    cases hs
    exact rendered_render (keys_assign_nodup h.2 k v)
  | childRemoved k =>
    cases hs
    apply rendered_render
    rw [Record.keys_erase]
    exact h.2.filter _
  | childChanged k v =>
    cases hs
    exact h.congr (c.childChanged_props k v)
  | filters a i l =>
    cases hs
    exact rendered_render h.2

theorem step_filters (hs : c.step degrees e = some c') (he : ∀ a i l, e ≠ .filters a i l) :
    c'.filters = c.filters := by
  cases e with
  | filters a i l => exact absurd rfl (he a i l)
  | childAdded k v =>
    cases hs
    exact render_filters _
  | childRemoved k =>
    cases hs
    exact render_filters _
  | childChanged k v =>
    cases hs
    rfl

theorem run_changed (hes : ∀ e ∈ es, ∃ k v, e = .childChanged k v)
    (hr : run (step degrees) c es = some c') : c'.crowds = c.crowds := by
  apply run_keeps (fun d : MyMarkerClusterer => d.crowds = c.crowds) rfl ?_ hr
  intro d e d' he hd hs
  obtain ⟨k, v, rfl⟩ := hes e he
  cases hs
  exact hd

theorem run_removed {ks : List String}
    (hr : run (step degrees) c (ks.map .childRemoved) = some c') :
    k ∈ c'.crowds.keys ↔ k ∈ c.crowds.keys ∧ k ∉ ks := by
  induction ks generalizing c with
  | nil =>
    cases hr
    simp
  | cons l ks ih =>
    obtain ⟨d, hd, hr⟩ := Option.bind_eq_some_iff.1 hr
    cases hd
    rw [ih hr, childRemoved, render_crowds, Record.keys_erase, List.mem_filter,
      decide_eq_true_eq, List.mem_cons, not_or, and_assoc]

theorem run_added {as : List (String × Record Json)}
    (hr : run (step degrees) c (as.map fun a => .childAdded a.1 a.2) = some c') :
    k ∈ c'.crowds.keys ↔ k ∈ c.crowds.keys ∨ (k ∈ as.map Prod.fst ∧ k ≠ "__proto__") := by
  induction as generalizing c with
  | nil =>
    cases hr
    simp
  | cons a as ih =>
    obtain ⟨d, hd, hr⟩ := Option.bind_eq_some_iff.1 hr
    cases hd
    have hone : (k = a.1 ∧ a.1 ≠ "__proto__") ↔ (k = a.1 ∧ k ≠ "__proto__") :=
      and_congr_right fun hk => by rw [hk]
    rw [ih hr, childAdded, render_crowds, mem_keys_assign, hone, List.map_cons, List.mem_cons,
      or_and_right, or_comm (b := k ∈ c.crowds.keys), or_assoc]

end MyMarkerClusterer

theorem mem_childNames {r : Record Json} : k ∈ childNames r ↔ (r.get k).isSome := by
  rw [childNames, List.mem_insertionSort, List.mem_dedup, Record.get_isSome_iff]

theorem mem_removedKeys {old new : Record Json} :
    k ∈ removedKeys old new ↔ (old.get k).isSome ∧ (new.get k).isNone := by
  rw [removedKeys, List.mem_filter, mem_childNames]

theorem mem_addedCrowds {old new : Record Json} :
    k ∈ (addedCrowds old new).map Prod.fst ↔ (new.get k).isSome ∧ (old.get k).isNone := by
  rw [addedCrowds, List.map_map]
  have hid : (Prod.fst ∘ fun k => (k, ((new.get k).getD (.obj .empty)).fields)) = id := rfl
  rw [hid, List.map_id, List.mem_filter, mem_childNames]

theorem mem_changesOf {old new : Record Json} (h : e ∈ changesOf old new k) :
    ∃ v, e = .childChanged k v := by
  rw [changesOf] at h
  split at h
  · obtain ⟨c, -, rfl⟩ := List.mem_map.1 h
    exact ⟨c.2, rfl⟩
  · cases h

theorem mem_changedEvents {old new : Record Json} (h : e ∈ changedEvents old new) :
    ∃ k v, e = .childChanged k v := by
  obtain ⟨k, -, he⟩ := List.mem_flatMap.1 h
  exact ⟨k, mem_changesOf he⟩

theorem raisedEvents_filters {old new : Record Json} (h : e ∈ raisedEvents old new)
    (a i l : Bool) : e ≠ .filters a i l := by
  rintro rfl
  rw [raisedEvents, List.mem_append, List.mem_append] at h
  rcases h with (h | h) | h
  · obtain ⟨k, v, he⟩ := mem_changedEvents h
    cases he
  · obtain ⟨k, -, he⟩ := List.mem_map.1 h
    cases he
  · obtain ⟨c, -, he⟩ := List.mem_map.1 h
    cases he

namespace CrowdMap

variable {degrees : Number → Number → Number} {s s' : CrowdMap} {c c' : MyMarkerClusterer}

theorem atTime_loaded (s : CrowdMap) (n : Nat) : (s.atTime n).map.isSome = s.map.isSome := by
  rw [CrowdMap.atTime, Option.isSome_map]

theorem step_change {c : Change} (hs : s.step degrees (n, .change c) = some s') :
    s'.database = c.apply s.database ∧ s'.listens = s.listens ∧ s'.view = s.view ∧
      s'.inFlight = (if s.listens then s.inFlight ++ [.change c] else s.inFlight) ∧
        s'.map.isSome = s.map.isSome := by
  rw [CrowdMap.step] at hs
  split at hs
  · cases hs
  · cases hs
    exact ⟨rfl, rfl, rfl, rfl, atTime_loaded s n⟩

theorem step_database (hs : s.step degrees e = some s') (he : ∀ c, e.2 ≠ .change c) :
    s'.database = s.database := by
  obtain ⟨t, e⟩ := e
  rw [CrowdMap.step] at hs
  split at hs
  · cases hs
  · cases e with
    | change c => exact absurd rfl (he c)
    | load =>
      obtain ⟨-, hs⟩ := Option.ite_none_left_eq_some.1 hs
      cases hs
      rfl
    | listen =>
      obtain ⟨-, hs⟩ := Option.ite_none_left_eq_some.1 hs
      cases hs
      rfl
    | deliver =>
      simp only [CrowdMap.deliver] at hs
      split at hs
      · obtain ⟨c', -, rfl⟩ := Option.map_eq_some_iff.1 hs
        rfl
      · cases hs
    | app e =>
      cases hs
      cases (s.atTime t).app.handle e <;> rfl
    | interval i n =>
      obtain ⟨c, -, hs⟩ := Option.bind_eq_some_iff.1 hs
      obtain ⟨c', -, rfl⟩ := Option.map_eq_some_iff.1 hs
      rfl

/-- The next message always arrives on a page with its map. -/
theorem arrives (hm : s.map.isSome) (hms : s.inFlight = m :: ms)
    (degrees : Number → Number → Number) :
    ∃ s', s.step degrees (s.clock, .deliver) = some s' ∧ s'.inFlight = ms ∧
      s'.clock = s.clock ∧ s'.listens = s.listens := by
  obtain ⟨c, hc⟩ := Option.isSome_iff_exists.1 ((atTime_loaded s s.clock).trans hm)
  have hms' : (s.atTime s.clock).inFlight = m :: ms := hms
  have htaken (es : List CrowdEvent) : (run (MyMarkerClusterer.step degrees) c es).isSome := by
    apply run_total
    intro d e
    cases e <;> rfl
  obtain ⟨c', hr⟩ := Option.isSome_iff_exists.1
    (htaken (raisedEvents (crowds (s.atTime s.clock).view)
      (crowds (m.apply (s.atTime s.clock).view))))
  refine ⟨{ s.atTime s.clock with
    inFlight := ms, view := m.apply (s.atTime s.clock).view, map := some c' }, ?_, rfl, rfl, rfl⟩
  rw [CrowdMap.step, if_neg (Nat.lt_irrefl s.clock)]
  simp only [CrowdMap.deliver, hms', hc, hr, Option.map_some]

/-- A map that shows the crowds of one value shows, after the events raised, those of the next. -/
theorem run_raisedEvents {old new : Record Json}
    (h : ∀ k, k ∈ c.crowds.keys ↔ (old.get k).isSome ∧ k ≠ "__proto__")
    (hr : run (MyMarkerClusterer.step degrees) c (raisedEvents old new) = some c') (k : String) :
    k ∈ c'.crowds.keys ↔ (new.get k).isSome ∧ k ≠ "__proto__" := by
  rw [raisedEvents, run_append, run_append, Option.bind_eq_some_iff] at hr
  obtain ⟨d, hd, hadded⟩ := hr
  obtain ⟨b, hchanged, hremoved⟩ := Option.bind_eq_some_iff.1 hd
  rw [MyMarkerClusterer.run_added hadded, MyMarkerClusterer.run_removed hremoved,
    MyMarkerClusterer.run_changed (fun e he => mem_changedEvents he) hchanged, h,
    mem_removedKeys, mem_addedCrowds]
  cases old.get k <;> cases new.get k <;> simp

/-- What the server has sent to the page after some events: the database as it is now, and the
values of it since the page listens, from the first on. -/
def nextSent (s : Json × List Json) : MapEvent → Json × List Json
  | .change c => (c.apply s.1, if s.2 = [] then [] else s.2 ++ [c.apply s.1])
  | .listen => (s.1, s.2 ++ [s.1])
  | _ => s

def serve (database : Json) (hist : List (Nat × MapEvent)) : Json × List Json :=
  hist.foldl (fun s e => nextSent s e.2) (database, [])

def sent (database : Json) (hist : List (Nat × MapEvent)) : List Json := (serve database hist).2

def delivered (hist : List (Nat × MapEvent)) : Nat := hist.countP fun e => e.2 = .deliver

/-- The last value of the database that has reached the page. -/
def received (database : Json) (hist : List (Nat × MapEvent)) : Json :=
  ((sent database hist).take (delivered hist)).getLast?.getD (.obj .empty)

def nextTicked (b : Bool × Bool × Bool) : MapEvent → Bool × Bool × Bool
  | .app (.handleShowActive checked) => (checked, b.2)
  | .app (.handleShowInActive checked) => (b.1, checked, b.2.2)
  | .app (.handleShowLost checked) => (b.1, b.2.1, checked)
  | _ => b

/-- The checkboxes as they were clicked; at first all are ticked. -/
def ticked (hist : List (Nat × MapEvent)) : Bool × Bool × Bool :=
  hist.foldl (fun b e => nextTicked b e.2) (true, true, true)

/-- The values that the messages bring, one after the other. -/
def arriving : Json → List Message → List Json
  | _, [] => []
  | t, m :: ms => m.apply t :: arriving (m.apply t) ms

/-- What was sent and has not been delivered is in flight. The page has one marker for each crowd
that it has received, with its place among them as the index and the ticked checkboxes as filters,
and its search box stays empty. -/
structure InStep (database : Json) (s : CrowdMap × List (Nat × MapEvent)) : Prop where
  lag : (sent database s.2).length = delivered s.2 + s.1.inFlight.length
  rest : (sent database s.2).drop (delivered s.2) =
    arriving (received database s.2) s.1.inFlight
  unique : (MyMarkerClusterer.campaignIds s.1.markers).Nodup
  ids : ∀ k, k ∈ MyMarkerClusterer.campaignIds s.1.markers ↔
    ((crowds (received database s.2)).get k).isSome ∧ k ≠ "__proto__"
  index : ∀ i (m : MyMarker), s.1.markers[i]? = some m → m.props.index = i
  filters : ∀ m ∈ s.1.markers,
    (m.props.showActive, m.props.showInActive, m.props.showLost) = ticked s.2
  search : s.1.app.searchQuery = ""

/-- The map is rendered from the crowds received, under the filters of the page. -/
structure Mapped (view : Json) (a : App) (c : MyMarkerClusterer) : Prop where
  rendered : c.Rendered
  keys : ∀ k, k ∈ c.crowds.keys ↔ ((crowds view).get k).isSome ∧ k ≠ "__proto__"
  filters : c.filters = a.filters

structure Mirrored (s : CrowdMap) : Prop where
  lag : s.listens → s.inFlight.foldl (fun t m => m.apply t) s.view = s.database
  unmapped : s.map = none → s.view = .obj .empty
  mapped : ∀ c, s.map = some c → Mapped s.view s.app c
  search : s.app.searchQuery = ""

/-- The page is mirrored, and it has received what was sent but for the messages in flight. -/
structure Served (database : Json) (s : CrowdMap × List (Nat × MapEvent)) : Prop
    extends Mirrored s.1 where
  stored : (serve database s.2).1 = s.1.database
  listening : sent database s.2 = [] ↔ ¬s.1.listens
  count : (sent database s.2).length = delivered s.2 + s.1.inFlight.length
  rest : (sent database s.2).drop (delivered s.2) = arriving s.1.view s.1.inFlight
  brought : received database s.2 = s.1.view
  boxes : ticked s.2 = s.1.app.filters

theorem markers_some (hc : s.map = some c) : s.markers = c.markers := by
  rw [markers, hc]
  rfl

theorem markers_none (hm : s.map = none) : s.markers = [] := by
  rw [markers, hm]
  rfl

theorem Mirrored.unique (h : s.Mirrored) : (MyMarkerClusterer.campaignIds s.markers).Nodup := by
  cases hm : s.map with
  | none =>
    rw [markers_none hm]
    exact List.nodup_nil
  | some c =>
    have hc := h.mapped c hm
    rw [markers_some hm, hc.rendered.campaignIds]
    exact ownKeys_nodup.2 hc.rendered.2

theorem Mirrored.ids (h : s.Mirrored) (k : String) :
    k ∈ MyMarkerClusterer.campaignIds s.markers ↔
      ((crowds s.view).get k).isSome ∧ k ≠ "__proto__" := by
  cases hm : s.map with
  | none =>
    rw [markers_none hm, h.unmapped hm]
    exact ⟨fun hk => absurd hk List.not_mem_nil, fun hk => by cases hk.1⟩
  | some c =>
    have hc := h.mapped c hm
    rw [markers_some hm, hc.rendered.campaignIds, MyMarkerClusterer.mem_keys]
    exact hc.keys k

/-- With nothing in flight, the markers are those of the database's crowds. -/
theorem Mirrored.current (h : s.Mirrored) (hl : s.listens) (hf : s.inFlight = []) (k : String) :
    k ∈ MyMarkerClusterer.campaignIds s.markers ↔
      ((crowds s.database).get k).isSome ∧ k ≠ "__proto__" := by
  rw [h.ids, ← h.lag hl, hf, List.foldl_nil]

theorem Mirrored.index (h : s.Mirrored) {m : MyMarker} (hi : s.markers[i]? = some m) :
    m.props.index = i := by
  cases hm : s.map with
  | none =>
    rw [markers_none hm] at hi
    cases hi
  | some c =>
    rw [markers_some hm] at hi
    have hp : c.elements[i]? = some m.props := by
      rw [← (h.mapped c hm).rendered.1, List.getElem?_map, hi, Option.map_some]
    rw [MyMarkerClusterer.elements, List.getElem?_mapIdx] at hp
    obtain ⟨k, -, hk⟩ := Option.map_eq_some_iff.1 hp
    rw [← hk]

theorem Mirrored.filters (h : s.Mirrored) {m : MyMarker} (hm : m ∈ s.markers) :
    (m.props.showActive, m.props.showInActive, m.props.showLost) = s.app.filters := by
  cases hc : s.map with
  | none =>
    rw [markers_none hc] at hm
    cases hm
  | some c =>
    have hmapped := h.mapped c hc
    rw [markers_some hc] at hm
    have hp : m.props ∈ c.elements := by
      rw [← hmapped.rendered.1]
      exact List.mem_map_of_mem hm
    obtain ⟨i, hi, he⟩ := List.mem_mapIdx.1 hp
    rw [← hmapped.filters, ← he]
    rfl

theorem Served.inStep {database : Json} {s : CrowdMap × List (Nat × MapEvent)}
    (h : Served database s) : InStep database s := by
  refine ⟨h.count, ?_, h.unique, fun k => ?_, fun i m hi => h.index hi, fun m hm => ?_,
    h.search⟩
  · rw [h.brought]
    exact h.rest
  · rw [h.brought]
    exact h.ids k
  · rw [h.boxes]
    exact h.filters hm

theorem Mapped.interval (h : Mapped t a c) (hc : c.interval i n = some c') : Mapped t a c' := by
  rw [MyMarkerClusterer.interval] at hc
  split at hc
  · cases hc
  · rename_i m hm
    obtain ⟨b, -, rfl⟩ := Option.map_eq_some_iff.1 hc
    refine ⟨h.rendered.congr ?_, h.keys, h.filters⟩
    have hp : ((m.reschedule n).fire b.callback).props = m.props := by
      rw [MyMarker.fire_eq, MyMarker.setCrowd_props]
      rfl
    obtain ⟨hi, rfl⟩ := List.getElem?_eq_some_iff.1 hm
    have hi' : i < (c.markers.map MyMarker.props).length := by rwa [List.length_map]
    have hget : (c.markers.map MyMarker.props)[i] = c.markers[i].props := List.getElem_map _
    rw [List.map_set, hp, ← hget, List.set_getElem_self]

theorem Mirrored.atTime (h : s.Mirrored) (t : Nat) : (s.atTime t).Mirrored := by
  refine ⟨h.lag, fun hm => h.unmapped (Option.map_eq_none_iff.1 hm), ?_, h.search⟩
  intro c hc
  obtain ⟨d, hd, rfl⟩ := Option.map_eq_some_iff.1 hc
  have hd := h.mapped d hd
  refine ⟨⟨?_, hd.rendered.2⟩, hd.keys, hd.filters⟩
  apply Eq.trans ?_ hd.rendered.1
  simp only [MyMarkerClusterer.atTime, List.map_map]
  rfl

theorem Mirrored.deliver (h : s.Mirrored) (hs : s.deliver degrees = some s') : s'.Mirrored := by
  rw [CrowdMap.deliver] at hs
  split at hs
  · rename_i m ms c hms hc
    obtain ⟨c', hr, rfl⟩ := Option.map_eq_some_iff.1 hs
    have hmapped := h.mapped c hc
    refine ⟨fun hl => ?_, (fun hm => by cases hm), ?_, h.search⟩
    · have hlag := h.lag hl
      rwa [hms, List.foldl_cons] at hlag
    · rintro d ⟨⟩
      refine ⟨?_, run_raisedEvents hmapped.keys hr, ?_⟩
      · exact run_keeps MyMarkerClusterer.Rendered hmapped.rendered
          (fun _ _ _ _ hI hs => hI.step hs) hr
      · apply run_keeps (fun d : MyMarkerClusterer => d.filters = s.app.filters) hmapped.filters
          ?_ hr
        intro d e d' he hd hs
        rw [MyMarkerClusterer.step_filters hs (raisedEvents_filters he), hd]
  · cases hs

theorem Mirrored.setApp (h : s.Mirrored) {a : App} (ha : a.searchQuery = "") :
    (s.setApp degrees a).Mirrored := by
  refine ⟨h.lag, fun hm => h.unmapped ?_, ?_, ha⟩
  · cases hc : s.map with
    | none => rfl
    | some c => simp [CrowdMap.setApp, hc, MyMarkerClusterer.step] at hm
  · intro c' hc'
    obtain ⟨c, hc, hs⟩ := Option.bind_eq_some_iff.1 hc'
    have hmapped := h.mapped c hc
    refine ⟨hmapped.rendered.step hs, ?_, ?_⟩
    · cases hs
      rw [MyMarkerClusterer.render_crowds]
      exact hmapped.keys
    · cases hs
      exact MyMarkerClusterer.render_filters _

theorem handle_searchQuery {a a' : App} (h : a.handle e = some a') :
    a'.searchQuery = a.searchQuery := by
  cases e <;> cases h <;> rfl

theorem Mirrored.step (h : s.Mirrored) (hs : s.step degrees e = some s') : s'.Mirrored := by
  obtain ⟨t, e⟩ := e
  rw [CrowdMap.step] at hs
  split at hs
  · cases hs
  · have h := h.atTime t
    cases e with
    | change c =>
      cases hs
      refine ⟨fun hl => ?_, h.unmapped, h.mapped, h.search⟩
      have hlag := h.lag hl
      have hl' : s.listens := hl
      simp only [CrowdMap.atTime, hl', ↓reduceIte, List.foldl_append, List.foldl_cons,
        List.foldl_nil, Message.apply] at hlag ⊢
      rw [hlag]
    | load =>
      obtain ⟨hm, hs⟩ := Option.ite_none_left_eq_some.1 hs
      cases hs
      refine ⟨h.lag, (fun hm => by cases hm), ?_, h.search⟩
      rintro c ⟨⟩
      have hview := h.unmapped (Option.not_isSome_iff_eq_none.1 hm)
      refine ⟨⟨rfl, List.nodup_nil⟩, fun k => ?_, rfl⟩
      rw [hview]
      exact ⟨fun hk => absurd hk List.not_mem_nil, fun hk => by cases hk.1⟩
    | listen =>
      obtain ⟨-, hs⟩ := Option.ite_none_left_eq_some.1 hs
      cases hs
      exact ⟨fun _ => rfl, h.unmapped, h.mapped, h.search⟩
    | deliver => exact h.deliver hs
    | app e =>
      cases hs
      cases ha : (s.atTime t).app.handle e with
      | none => exact h
      | some a => exact h.setApp ((handle_searchQuery ha).trans h.search)
    | interval i n =>
      obtain ⟨c, hc, hs⟩ := Option.bind_eq_some_iff.1 hs
      obtain ⟨c', hc', rfl⟩ := Option.map_eq_some_iff.1 hs
      refine ⟨h.lag, (fun hm => by cases hm), ?_, h.search⟩
      rintro d ⟨⟩
      exact (h.mapped c hc).interval hc'

theorem mirrored_initial (database : Json) (t : Nat) : (initial database t).Mirrored :=
  ⟨(fun hl => by cases hl), fun _ => rfl, (fun c hc => by cases hc), rfl⟩

theorem length_arriving (t : Json) (ms : List Message) :
    (arriving t ms).length = ms.length := by
  induction ms generalizing t with
  | nil => rfl
  | cons m ms ih => rw [arriving, List.length_cons, List.length_cons, ih]

theorem arriving_append (t : Json) (ms ns : List Message) :
    arriving t (ms ++ ns) =
      arriving t ms ++ arriving (ms.foldl (fun t m => m.apply t) t) ns := by
  induction ms generalizing t with
  | nil => rfl
  | cons m ms ih => rw [List.cons_append, arriving, ih, arriving, List.cons_append, List.foldl_cons]

section History

variable {database : Json} {hist : List (Nat × MapEvent)}

theorem serve_append (database : Json) (hist : List (Nat × MapEvent)) (e : Nat × MapEvent) :
    serve database (hist ++ [e]) = nextSent (serve database hist) e.2 := by
  rw [serve, List.foldl_append]
  rfl

theorem delivered_append (hist : List (Nat × MapEvent)) (e : Nat × MapEvent) :
    delivered (hist ++ [e]) = delivered hist + if e.2 = .deliver then 1 else 0 := by
  rw [delivered, List.countP_append, List.countP_singleton]
  simp only [decide_eq_true_eq]
  rfl

theorem ticked_append (hist : List (Nat × MapEvent)) (e : Nat × MapEvent) :
    ticked (hist ++ [e]) = nextTicked (ticked hist) e.2 := by
  rw [ticked, List.foldl_append]
  rfl

theorem nextTicked_handle {a a' : App} (h : a.handle e = some a') :
    nextTicked a.filters (.app e) = a'.filters := by
  cases e <;> cases h <;> rfl

/-- An event on which the server sends what becomes of the database, or nothing. -/
theorem Served.sends (ts : List Json) (ms : List Message) (h : Served database (s, hist))
    (hm : s'.Mirrored) (hn : e ≠ .deliver)
    (hserve : nextSent (s.database, sent database hist) e =
      (s'.database, sent database hist ++ ts))
    (hlistening : sent database hist ++ ts = [] ↔ ¬s'.listens)
    (hflight : s'.inFlight = s.inFlight ++ ms)
    (hms : arriving (s.inFlight.foldl (fun t m => m.apply t) s.view) ms = ts)
    (hview : s'.view = s.view) (hboxes : nextTicked s.app.filters e = s'.app.filters) :
    Served database (s', hist ++ [(n, e)]) := by
  have hserved : serve database (hist ++ [(n, e)]) = (s'.database, sent database hist ++ ts) := by
    rw [serve_append, ← hserve, ← h.stored]
    rfl
  have hsent : sent database (hist ++ [(n, e)]) = sent database hist ++ ts := by
    rw [sent, hserved]
  have hcount : delivered (hist ++ [(n, e)]) = delivered hist :=
    (delivered_append hist _).trans (congrArg _ (if_neg hn))
  have hle : delivered hist ≤ (sent database hist).length := by
    rw [h.count]
    exact Nat.le_add_right _ _
  refine ⟨hm, ?_, ?_, ?_, ?_, ?_, ?_⟩
  · rw [hserved]
  · rw [hsent]
    exact hlistening
  · rw [hsent, hcount, hflight, List.length_append, List.length_append, h.count, ← hms,
      length_arriving, Nat.add_assoc]
  · rw [hsent, hcount, hview, hflight, arriving_append, hms, List.drop_append_of_le_length hle,
      h.rest]
  · rw [received, hsent, hcount, hview, List.take_append_of_le_length hle]
    exact h.brought
  · rw [ticked_append, h.boxes]
    exact hboxes

/-- An event on which the server sends nothing. -/
theorem Served.silent (h : Served database (s, hist)) (hm : s'.Mirrored) (hn : e ≠ .deliver)
    (hserve : nextSent (s.database, sent database hist) e = (s'.database, sent database hist))
    (hlistens : s'.listens = s.listens) (hflight : s'.inFlight = s.inFlight)
    (hview : s'.view = s.view) (hboxes : nextTicked s.app.filters e = s'.app.filters) :
    Served database (s', hist ++ [(n, e)]) := by
  apply h.sends [] [] hm hn ?_ ?_ ?_ rfl hview hboxes
  · rw [List.append_nil]
    exact hserve
  · rw [List.append_nil, hlistens]
    exact h.listening
  · rw [List.append_nil]
    exact hflight

theorem Served.deliver (h : Served database (s, hist)) (hm : s'.Mirrored)
    (hs : s.deliver degrees = some s') : Served database (s', hist ++ [(n, .deliver)]) := by
  rw [CrowdMap.deliver] at hs
  split at hs
  · rename_i m ms c hms hc
    obtain ⟨c', -, rfl⟩ := Option.map_eq_some_iff.1 hs
    have hserved : serve database (hist ++ [(n, .deliver)]) = serve database hist :=
      serve_append database hist _
    have hsent : sent database (hist ++ [(n, .deliver)]) = sent database hist :=
      congrArg Prod.snd hserved
    have hcount : delivered (hist ++ [(n, .deliver)]) = delivered hist + 1 :=
      delivered_append hist _
    have hrest := h.rest
    have hlength := h.count
    rw [hms, arriving] at hrest
    rw [hms, List.length_cons] at hlength
    have hlast : (sent database hist)[delivered hist]? = some (m.apply s.view) := by
      rw [← List.head?_drop, hrest]
      rfl
    refine ⟨hm, ?_, ?_, ?_, ?_, ?_, ?_⟩
    · rw [hserved]
      exact h.stored
    · rw [hsent]
      exact h.listening
    · rw [hsent, hcount, hlength, Nat.add_right_comm]
      rfl
    · rw [hsent, hcount, ← List.tail_drop, hrest]
      rfl
    · rw [received, hsent, hcount, List.take_add_one, hlast]
      simp
    · rw [ticked_append]
      exact h.boxes
  · cases hs

theorem Served.change (h : Served database (s, hist)) {c : Change} (hm : s'.Mirrored)
    (hs : s' = { s with
      database := c.apply s.database
      inFlight := if s.listens then s.inFlight ++ [.change c] else s.inFlight }) :
    Served database (s', hist ++ [(n, .change c)]) := by
  subst hs
  by_cases hl : s.listens
  · have hsent : sent database hist ≠ [] := fun hnil => h.listening.1 hnil hl
    apply h.sends [c.apply s.database] [.change c] hm (by simp) ?_ ?_ ?_ ?_ rfl rfl
    · rw [nextSent, if_neg hsent]
    · exact iff_of_false (List.append_ne_nil_of_right_ne_nil _ (List.cons_ne_nil _ []))
        (not_not_intro hl)
    · exact if_pos hl
    · rw [h.lag hl]
      rfl
  · have hsent : sent database hist = [] := h.listening.2 hl
    apply h.silent hm (by simp) ?_ rfl ?_ rfl rfl
    · rw [nextSent, if_pos hsent, hsent]
    · exact if_neg hl

theorem Served.listen (h : Served database (s, hist)) (hm : s'.Mirrored) (hl : ¬s.listens)
    (hs : s' = { s with listens := true, inFlight := [.snapshot s.database] }) :
    Served database (s', hist ++ [(n, .listen)]) := by
  subst hs
  have hsent : sent database hist = [] := h.listening.2 hl
  have hlength := h.count
  rw [hsent, List.length_nil] at hlength
  have hflight : s.inFlight = [] :=
    List.length_eq_zero_iff.1 (Nat.add_eq_zero_iff.1 hlength.symm).2
  apply h.sends [s.database] [.snapshot s.database] hm (by simp) rfl ?_ ?_ rfl rfl rfl
  · exact iff_of_false (List.append_ne_nil_of_right_ne_nil _ (List.cons_ne_nil _ []))
      (not_not_intro rfl)
  · rw [hflight]
    rfl

theorem Served.app (h : Served database (s, hist)) {a : App}
    (hm : (s.setApp degrees a).Mirrored) (ha : s.app.handle e = some a) :
    Served database (s.setApp degrees a, hist ++ [(n, .app e)]) :=
  h.silent hm (by simp) rfl rfl rfl rfl (nextTicked_handle ha)

theorem Served.atTime (h : Served database (s, hist)) (t : Nat) :
    Served database (s.atTime t, hist) :=
  ⟨h.toMirrored.atTime t, h.stored, h.listening, h.count, h.rest, h.brought, h.boxes⟩

theorem Served.step (h : Served database (s, hist)) (hs : s.step degrees e = some s') :
    Served database (s', hist ++ [e]) := by
  have hm := h.toMirrored.step hs
  obtain ⟨t, e⟩ := e
  rw [CrowdMap.step] at hs
  split at hs
  · cases hs
  · have h := h.atTime t
    cases e with
    | change c =>
      cases hs
      exact h.change hm rfl
    | load =>
      obtain ⟨-, hs⟩ := Option.ite_none_left_eq_some.1 hs
      cases hs
      exact h.silent hm (by simp) rfl rfl rfl rfl rfl
    | listen =>
      obtain ⟨hl, hs⟩ := Option.ite_none_left_eq_some.1 hs
      cases hs
      exact h.listen hm (fun hl' => hl (.inr hl')) rfl
    | deliver => exact h.deliver hm hs
    | app e =>
      cases hs
      cases ha : (s.atTime t).app.handle e with
      | none =>
        rw [ha] at hm
        apply h.silent hm (by simp) rfl rfl rfl rfl
        cases e with
        | handleSearch => rfl
        | _ => cases ha
      | some a =>
        rw [ha] at hm
        exact h.app hm ha
    | interval i n =>
      obtain ⟨c, hc, hs⟩ := Option.bind_eq_some_iff.1 hs
      obtain ⟨c', hc', rfl⟩ := Option.map_eq_some_iff.1 hs
      exact h.silent hm (by simp) rfl rfl rfl rfl rfl

theorem served_initial (database : Json) (t : Nat) : Served database (initial database t, []) :=
  ⟨mirrored_initial database t, rfl, iff_of_true rfl Bool.false_ne_true, rfl, rfl, rfl, rfl⟩

end History

/-- Whatever is written and removed, and whenever the page loads, listens and is clicked. -/
theorem map_in_step (degrees : Number → Number → Number) (database : Json) (t : Nat)
    (es : List (Nat × MapEvent)) :
    Always (withHistory (step degrees)) (InStep database) (initial database t, []) es := by
  apply always_of_invariant (Served database) (fun _ h => h.inStep) ?_ (served_initial database t)
  rintro ⟨s, hist⟩ e ⟨s', hist'⟩ h hs
  obtain ⟨hs, rfl⟩ := withHistory_some hs
  exact h.step hs

/-- The first of two crowds is removed and a box unticked before the page has loaded its map. -/
example : (run (step fun _ _ => .nan) (initial (.obj (Record.empty.put "Crowd" (.obj
      ((Record.empty.put "A24" (.obj (crowdValue "Active" 21 39))).put "B13"
        (.obj (crowdValue "Active" 22 40)))))) 0)
    [(0, .app (.handleShowLost false)), (0, .load), (1, .listen), (1, .change (.remove "A24")),
      (2, .deliver), (3, .deliver)]).map (fun s => s.markers.map fun m =>
        (m.props.campaign_id, m.props.index, m.props.showLost)) = some [("B13", 0, false)] := by
  decide +kernel

end CrowdMap

end CrowdTracking
