import CrowdTracking.MapPositions

namespace CrowdTracking
set_option autoImplicit true
open Script Runs Database

/-- The `child_changed` events of one crowd among those that a page has raised. -/
def snapshotsOf (k : String) (past : List (Nat × CrowdEvent)) : List (Nat × String × Json) :=
  past.filterMap fun e => match e.2 with
    | .childChanged l v => if l = k then some (e.1, l, v) else none
    | _ => none

/-- The value that a crowd was last added with. -/
def lastAdded (k : String) (past : List (Nat × CrowdEvent)) : Option (Record Json) :=
  past.foldl (fun r e => match e.2 with
    | .childAdded l v => if l = k then some v else r
    | _ => r) none

namespace MyMarker

/-- What a marker hears of its node, and when. -/
def heard (es : List (Nat × MarkerEvent)) : List (Nat × String × Json) :=
  es.filterMap fun e => match e.2 with
    | .childChanged k v => some (e.1, k, v)
    | _ => none

/-- A mounted marker as a run of a single marker leaves it, at a later time. It was mounted when
the page raised that a crowd was added, with the value that its own crowd was last added with, and
of all events raised since then it has heard those of its own crowd, each at its time. -/
structure Lives (degrees : Number → Number → Number) (past : List (Nat × CrowdEvent)) (t : Nat)
    (m : MyMarker) : Prop where
  clock : m.clock = t
  mounted : m.mounted
  run : ∃ props t₀ k v before after es m₀, past = before ++ (t₀, .childAdded k v) :: after ∧
    lastAdded props.campaign_id (before ++ [(t₀, .childAdded k v)]) = some props.crowd ∧
    m.subscription = some props.campaign_id ∧ heard es = snapshotsOf props.campaign_id after ∧
    run (MyMarker.step degrees) (mount props t₀) es = some m₀ ∧ m₀.clock ≤ t ∧ m = m₀.atTime t

end MyMarker

variable {degrees : Number → Number → Number} {past new : List (Nat × CrowdEvent)}

theorem snapshotsOf_append (k : String) (past new : List (Nat × CrowdEvent)) :
    snapshotsOf k (past ++ new) = snapshotsOf k past ++ snapshotsOf k new :=
  List.filterMap_append

theorem lastAdded_append (k : String) (past : List (Nat × CrowdEvent)) (e : Nat × CrowdEvent) :
    lastAdded k (past ++ [e]) = match e.2 with
      | .childAdded l v => if l = k then some v else lastAdded k past
      | _ => lastAdded k past := by
  rw [lastAdded, List.foldl_append]
  rfl

namespace MyMarker

variable {m m' : MyMarker}

theorem step_atTime (h : m.clock ≤ t) (e : MarkerEvent) :
    (m.atTime t).step degrees (t, e) = m.step degrees (t, e) := by
  have hlt : ¬t < (m.atTime t).clock := Nat.lt_irrefl t
  simp only [step, hlt, Nat.not_lt.2 h, ↓reduceIte]
  rfl

theorem lives_mount {props : Props} {added : Record Json}
    (h : lastAdded props.campaign_id (past ++ [(t, .childAdded k added)]) = some props.crowd) :
    Lives degrees (past ++ [(t, .childAdded k added)]) t (mount props t) := by
  refine ⟨mount_clock props t, mount_mounted props t, props, t, k, added, past, [], [],
    mount props t, rfl, h, mount_subscription props t, rfl, rfl, ?_, ?_⟩
  · exact Nat.le_of_eq (mount_clock props t)
  · have h : (mount props t).atTime (mount props t).clock = mount props t := rfl
    rw [mount_clock] at h
    exact h.symm

theorem Lives.later (h : Lives degrees past t m) (ht : t ≤ t') :
    Lives degrees past t' (m.atTime t') := by
  obtain ⟨props, t₀, k, v, before, after, es, m₀, hpast, hadded, hsub, hheard, hr, hle, rfl⟩ :=
    h.run
  exact ⟨rfl, h.mounted, props, t₀, k, v, before, after, es, m₀, hpast, hadded, hsub, hheard, hr,
    Nat.le_trans hle ht, rfl⟩

/-- The page raises events that are none of the marker's crowd. -/
theorem Lives.unheard (h : Lives degrees past t m)
    (hnew : ∀ k, m.subscription = some k → snapshotsOf k new = []) :
    Lives degrees (past ++ new) t m := by
  obtain ⟨props, t₀, k, v, before, after, es, m₀, rfl, hadded, hsub, hheard, hr, hle, hm⟩ := h.run
  refine ⟨h.clock, h.mounted, props, t₀, k, v, before, after ++ new, es, m₀, ?_, hadded, hsub, ?_,
    hr, hle, hm⟩
  · rw [List.append_assoc, List.cons_append]
  · rw [snapshotsOf_append, hnew _ hsub, List.append_nil, hheard]

/-- The marker takes one more event, which is what the page raises about its crowd. -/
theorem Lives.step (h : Lives degrees past t m) (hs : m.step degrees (t, e) = some m')
    (hm : m'.mounted) (hclock : m'.clock = t) (hsub : m'.subscription = m.subscription)
    (hnew : ∀ k, m.subscription = some k → heard [(t, e)] = snapshotsOf k new) :
    Lives degrees (past ++ new) t m' := by
  obtain ⟨props, t₀, k, v, before, after, es, m₀, rfl, hadded, hprops, hheard, hr, hle, rfl⟩ :=
    h.run
  rw [step_atTime hle] at hs
  refine ⟨hclock, hm, props, t₀, k, v, before, after ++ new, es ++ [(t, e)], m', ?_, hadded,
    hsub.trans hprops, ?_, ?_, Nat.le_of_eq hclock, ?_⟩
  · rw [List.append_assoc, List.cons_append]
  · rw [snapshotsOf_append, ← hnew _ hprops, ← hheard]
    exact List.filterMap_append
  · rw [run_append, hr, Option.bind_some, run_cons, hs]
    rfl
  · subst hclock
    rfl

/-- The marker takes an event that the page does not raise about a crowd. -/
theorem Lives.step_silent (h : Lives degrees past t m) (hs : m.step degrees (t, e) = some m')
    (hm : m'.mounted) (hclock : m'.clock = t) (hsub : m'.subscription = m.subscription)
    (he : heard [(t, e)] = []) : Lives degrees past t m' := by
  have hlives : Lives degrees (past ++ []) t m' := h.step hs hm hclock hsub fun _ _ => he
  rwa [List.append_nil] at hlives

theorem Lives.deliver (h : Lives degrees past t m) (hk : m.subscription = some k) (v : Json) :
    Lives degrees (past ++ [(t, .childChanged k v)]) t (m.deliver degrees v) := by
  obtain ⟨-, hsub, hmounted, hclock⟩ := @deliver_frame degrees m v
  apply h.step (e := .childChanged k v) ?_ (by rw [hmounted, h.mounted])
    (hclock.trans h.clock) hsub
  · intro l hl
    cases hk.symm.trans hl
    simp [heard, snapshotsOf]
  · have hm : m.atTime t = m := by rw [← h.clock]; rfl
    rw [MyMarker.step, h.clock, if_neg (Nat.lt_irrefl t), hm]

/-- A marker hears what the page raises about its own crowd, and nothing else. -/
theorem Lives.hear (h : Lives degrees past t m) (k : String) (v : Json) :
    Lives degrees (past ++ [(t, .childChanged k v)]) t (m.hear degrees (.childChanged k v)) := by
  rw [MyMarker.hear]
  split
  · rename_i hk
    exact h.deliver hk v
  · rename_i hk
    apply h.unheard
    intro l hl
    have hne : k ≠ l := fun he => hk (he ▸ hl)
    simp [snapshotsOf, hne]

theorem Lives.newProps (h : Lives degrees past t m) (p : Props) :
    Lives degrees past t (m.newProps p) := by
  apply h.step_silent (e := .newProps p) ?_ ?_ ?_ ?_ rfl
  · have hm : m.atTime t = m := by rw [← h.clock]; rfl
    simp only [MyMarker.step, h.clock, Nat.lt_irrefl, ↓reduceIte, hm, h.mounted]
  · rw [MyMarker.newProps, rerender_mounted]
    exact h.mounted
  · rw [MyMarker.newProps, rerender_clock]
    exact h.clock
  · rw [MyMarker.newProps, rerender_subscription]

theorem Lives.fire (h : Lives degrees past t m) (hi : m.dueInterval n = some i) :
    Lives degrees past t ((m.reschedule n).fire i.callback) := by
  apply h.step_silent (e := .interval n) ?_ ?_ ?_ ?_ rfl
  · have hm : m.atTime t = m := by rw [← h.clock]; rfl
    simp only [MyMarker.step, h.clock, Nat.lt_irrefl, ↓reduceIte, hm, hi]
  · rw [fire_eq, setCrowd_mounted]
    exact h.mounted
  · rw [fire_eq, setCrowd_clock]
    exact h.clock
  · rw [fire_eq, setCrowd_subscription]
    rfl

end MyMarker

namespace MyMarkerClusterer

/-- The markers of a map at its time, after the events raised so far. -/
structure Alive (degrees : Number → Number → Number) (past : List (Nat × CrowdEvent)) (t : Nat)
    (c : MyMarkerClusterer) : Prop where
  rendered : c.Rendered
  clock : c.clock = t
  ordinary : c.crowds.get "__proto__" = none
  added : ∀ k v, c.crowds.get k = some v → lastAdded k past = some v
  lives : ∀ m ∈ c.markers, MyMarker.Lives degrees past t m

variable {c c' : MyMarkerClusterer}

/-- What is reconciled was there or is mounted beyond it. -/
theorem mem_reconcile {ms : List MyMarker} {ps : List Props} (hm : m ∈ reconcile t ms ps) :
    (∃ m₀ ∈ ms, ∃ p, m = m₀.newProps p) ∨ ∃ p ∈ ps.drop ms.length, m = .mount p t := by
  induction ps generalizing ms with
  | nil => cases ms <;> cases hm
  | cons p ps ih =>
    cases ms with
    | nil =>
      rcases List.mem_cons.1 hm with rfl | hm
      · exact .inr ⟨p, List.mem_cons_self, rfl⟩
      · rcases ih hm with ⟨m₀, hmem, -⟩ | ⟨q, hq, h⟩
        · cases hmem
        · exact .inr ⟨q, List.mem_cons_of_mem p hq, h⟩
    | cons m₀ ms =>
      rcases List.mem_cons.1 hm with rfl | hm
      · exact .inl ⟨m₀, List.mem_cons_self, p, rfl⟩
      · rcases ih hm with ⟨m₁, hmem, h⟩ | h
        · exact .inl ⟨m₁, List.mem_cons_of_mem m₀ hmem, h⟩
        · exact .inr h

theorem length_elements (c : MyMarkerClusterer) : c.elements.length = c.crowds.keys.length := by
  rw [elements, List.length_mapIdx, keys]
  exact (ownKeys_perm _).length_eq

theorem Rendered.length (h : c.Rendered) : c.markers.length = c.crowds.keys.length := by
  rw [← c.length_elements, ← h.1, List.length_map]

/-- A render with no more crowds than before mounts nothing. -/
theorem lives_rerendered (h : ∀ m ∈ c.markers, MyMarker.Lives degrees past t m)
    (hle : c.crowds.keys.length ≤ c.markers.length) :
    ∀ m ∈ c.render.markers, MyMarker.Lives degrees past t m := by
  intro m hm
  rw [render_markers] at hm
  rcases mem_reconcile hm with ⟨m₀, hm₀, p, rfl⟩ | ⟨p, hp, -⟩
  · exact (h m₀ hm₀).newProps p
  · rw [List.drop_of_length_le (c.length_elements ▸ hle)] at hp
    cases hp

/-- An element is built from the crowd of its key. -/
theorem get_of_mem_elements (hp : p ∈ c.elements) :
    c.crowds.get p.campaign_id = some p.crowd := by
  have hkey : p.campaign_id ∈ c.crowds.keys := by
    have hmem := List.mem_map_of_mem (f := Props.campaign_id) hp
    rwa [elements_campaign_id, mem_keys] at hmem
  obtain ⟨v, hv⟩ := Option.isSome_iff_exists.1 ((Record.get_isSome_iff _ _).2 hkey)
  rw [mem_elements hp, hv]
  rfl

theorem Alive.added_assign (h : c.Alive degrees past t)
    (hw : (assign c.crowds k v).get l = some w) :
    lastAdded l (past ++ [(t, .childAdded k v)]) = some w := by
  rw [lastAdded_append]
  by_cases hk : k = "__proto__"
  · subst hk
    rw [assign_proto] at hw
    have hne : "__proto__" ≠ l := by
      rintro rfl
      cases h.ordinary.symm.trans hw
    simp only [if_neg hne]
    exact h.added l w hw
  · rw [assign_of_ne _ _ hk, Record.get_put] at hw
    by_cases hkl : k = l
    · simpa only [if_pos hkl] using hw
    · simp only [if_neg hkl] at hw ⊢
      exact h.added l w hw

theorem Alive.childAdded (h : c.Alive degrees past t) (k : String) (v : Record Json) :
    (c.childAdded k v).Alive degrees (past ++ [(t, .childAdded k v)]) t := by
  have hs : c.step degrees (.childAdded k v) = some (c.childAdded k v) := rfl
  have hrendered := h.rendered.step hs
  refine ⟨hrendered, ?_, ?_, ?_, ?_⟩
  · rw [MyMarkerClusterer.childAdded, render_eq]
    exact h.clock
  · rw [MyMarkerClusterer.childAdded, render_crowds, assign]
    split
    · exact h.ordinary
    · rename_i hk
      exact (Record.get_put_of_ne _ _ hk).trans h.ordinary
  · rw [MyMarkerClusterer.childAdded, render_crowds]
    exact fun _ _ hw => h.added_assign hw
  · intro m hm
    rw [MyMarkerClusterer.childAdded, render_markers] at hm
    rcases mem_reconcile hm with ⟨m₀, hm₀, p, rfl⟩ | ⟨p, hp, rfl⟩
    · exact ((h.lives m₀ hm₀).newProps p).unheard fun _ _ => rfl
    · rw [show c.clock = t from h.clock]
      apply MyMarker.lives_mount
      exact h.added_assign (get_of_mem_elements (List.mem_of_mem_drop hp))

theorem Alive.childRemoved (h : c.Alive degrees past t) (k : String) :
    (c.childRemoved k).Alive degrees (past ++ [(t, .childRemoved k)]) t := by
  have hs : c.step degrees (.childRemoved k) = some (c.childRemoved k) := rfl
  have hrendered := h.rendered.step hs
  have hget : ∀ l w, (c.crowds.erase k).get l = some w → c.crowds.get l = some w := by
    intro l w hw
    rw [Record.get_erase] at hw
    exact (Option.ite_none_left_eq_some.1 hw).2
  refine ⟨hrendered, ?_, ?_, ?_, ?_⟩
  · rw [MyMarkerClusterer.childRemoved, render_eq]
    exact h.clock
  · rw [MyMarkerClusterer.childRemoved, render_crowds, Record.get_erase, h.ordinary]
    exact ite_self _
  · rw [MyMarkerClusterer.childRemoved, render_crowds]
    intro l w hw
    rw [lastAdded_append]
    exact h.added l w (hget l w hw)
  · apply lives_rerendered
    · exact fun m hm => (h.lives m hm).unheard fun _ _ => rfl
    · rw [h.rendered.length, Record.keys_erase]
      exact List.length_filter_le _ _

theorem Alive.childChanged (h : c.Alive degrees past t) (k : String) (v : Json) :
    (c.childChanged degrees k v).Alive degrees (past ++ [(t, .childChanged k v)]) t := by
  have hs : c.step degrees (.childChanged k v) = some (c.childChanged degrees k v) := rfl
  have hrendered := h.rendered.step hs
  refine ⟨hrendered, h.clock, h.ordinary, ?_, ?_⟩
  · intro l w hw
    rw [lastAdded_append]
    exact h.added l w hw
  · intro m' hm'
    obtain ⟨m, hm, rfl⟩ := List.mem_map.1 hm'
    exact (h.lives m hm).hear k v

/-- An event that the page raises. -/
theorem Alive.raised (h : c.Alive degrees past t) (hs : c.step degrees e = some c')
    (he : ∀ a i l, e ≠ .filters a i l) : c'.Alive degrees (past ++ [(t, e)]) t := by
  cases e with
  | childAdded k v =>
    cases hs
    exact h.childAdded k v
  | childRemoved k =>
    cases hs
    exact h.childRemoved k
  | childChanged k v =>
    cases hs
    exact h.childChanged k v
  | filters a i l => exact absurd rfl (he a i l)

theorem Alive.run {es : List CrowdEvent} (h : c.Alive degrees past t)
    (hr : run (MyMarkerClusterer.step degrees) c es = some c')
    (hes : ∀ e ∈ es, ∀ a i l, e ≠ .filters a i l) :
    c'.Alive degrees (past ++ es.map fun e => (t, e)) t := by
  induction es generalizing c past with
  | nil =>
    cases hr
    rwa [List.map_nil, List.append_nil]
  | cons e es ih =>
    obtain ⟨d, hd, hr⟩ := Option.bind_eq_some_iff.1 hr
    obtain ⟨he, hes⟩ := List.forall_mem_cons.1 hes
    have hlast := ih (h.raised hd he) hr hes
    rwa [List.append_assoc, List.singleton_append] at hlast

theorem Alive.filters (h : c.Alive degrees past t)
    (hs : c.step degrees (.filters a i l) = some c') : c'.Alive degrees past t := by
  have hrendered := h.rendered.step hs
  cases hs
  refine ⟨hrendered, ?_, ?_, ?_, ?_⟩
  · rw [render_eq]
    exact h.clock
  · rw [render_crowds]
    exact h.ordinary
  · rw [render_crowds]
    exact h.added
  · apply lives_rerendered (c := { c with showActive := a, showInActive := i, showLost := l })
      h.lives
    exact Nat.le_of_eq h.rendered.length.symm

theorem Alive.interval (h : c.Alive degrees past t) (hc : c.interval i n = some c')
    (hr : c'.Rendered) : c'.Alive degrees past t := by
  rw [MyMarkerClusterer.interval] at hc
  split at hc
  · cases hc
  · rename_i m hm
    obtain ⟨b, hb, rfl⟩ := Option.map_eq_some_iff.1 hc
    refine ⟨hr, h.clock, h.ordinary, h.added, fun m' hm' => ?_⟩
    rcases List.mem_or_eq_of_mem_set hm' with hm' | rfl
    · exact h.lives m' hm'
    · exact (h.lives m (List.mem_of_getElem? hm)).fire hb

end MyMarkerClusterer

namespace CrowdMap

variable {s s' : CrowdMap} {database : Json} {hist : List (Nat × MapEvent)}

/-- The events that a page raises when a message arrives: those between the value of the database
that it had received and the next one. -/
def newlyRaised (database : Json) (hist : List (Nat × MapEvent)) (e : Nat × MapEvent) :
    List (Nat × CrowdEvent) :=
  if e.2 = .deliver then
    (raisedEvents (crowds (received database hist)) (crowds (received database (hist ++ [e])))).map
      fun c => (e.1, c)
  else []

def raisedFrom (database : Json) (before : List (Nat × MapEvent)) :
    List (Nat × MapEvent) → List (Nat × CrowdEvent)
  | [] => []
  | e :: es => newlyRaised database before e ++ raisedFrom database (before ++ [e]) es

/-- The events that a page has raised. -/
def raised (database : Json) (hist : List (Nat × MapEvent)) : List (Nat × CrowdEvent) :=
  raisedFrom database [] hist

/-- Every marker on the page is a marker that a run of its own leaves. -/
structure Populated (degrees : Number → Number → Number) (database : Json)
    (s : CrowdMap × List (Nat × MapEvent)) : Prop extends Served database s where
  alive : ∀ c, s.1.map = some c → c.Alive degrees (raised database s.2) s.1.clock

theorem raised_append (database : Json) (hist : List (Nat × MapEvent)) (e : Nat × MapEvent) :
    raised database (hist ++ [e]) = raised database hist ++ newlyRaised database hist e := by
  have hfrom (before : List (Nat × MapEvent)) : raisedFrom database before (hist ++ [e]) =
      raisedFrom database before hist ++ newlyRaised database (before ++ hist) e := by
    induction hist generalizing before with
    | nil => simp [raisedFrom]
    | cons f hist ih =>
      rw [List.cons_append, raisedFrom, ih, raisedFrom, List.append_assoc, List.append_assoc,
        List.singleton_append]
  exact hfrom []

theorem raised_silent (database : Json) (hist : List (Nat × MapEvent)) (he : e ≠ .deliver) :
    raised database (hist ++ [(t, e)]) = raised database hist := by
  rw [raised_append, newlyRaised, if_neg he, List.append_nil]

theorem alive_atTime {c : MyMarkerClusterer} (h : c.Alive degrees past t) (ht : t ≤ t')
    (hr : (c.atTime t').Rendered) : (c.atTime t').Alive degrees past t' := by
  refine ⟨hr, rfl, h.ordinary, h.added, fun m' hm' => ?_⟩
  obtain ⟨m, hm, rfl⟩ := List.mem_map.1 hm'
  exact (h.lives m hm).later ht

theorem Populated.atTime (h : Populated degrees database (s, hist)) (ht : s.clock ≤ t) :
    Populated degrees database (s.atTime t, hist) := by
  have hserved := h.toServed.atTime t
  refine ⟨hserved, ?_⟩
  intro c hc
  have hrendered := (hserved.mapped c hc).rendered
  obtain ⟨d, hd, rfl⟩ := Option.map_eq_some_iff.1 hc
  exact alive_atTime (h.alive d hd) ht hrendered

theorem Populated.deliver (h : Populated degrees database (s, hist))
    (hserved : Served database (s', hist ++ [(s.clock, .deliver)]))
    (hs : s.deliver degrees = some s') :
    Populated degrees database (s', hist ++ [(s.clock, .deliver)]) := by
  refine ⟨hserved, ?_⟩
  have hview := h.brought
  have hview' := hserved.brought
  rw [raised_append, newlyRaised, if_pos rfl, hview, hview']
  simp only [CrowdMap.deliver] at hs
  split at hs
  · rename_i m ms c hms hc
    obtain ⟨c', hr, rfl⟩ := Option.map_eq_some_iff.1 hs
    rintro d ⟨⟩
    exact (h.alive c hc).run hr fun e he => raisedEvents_filters he
  · cases hs

theorem Populated.step (h : Populated degrees database (s, hist))
    (hs : s.step degrees e = some s') : Populated degrees database (s', hist ++ [e]) := by
  have hserved := h.toServed.step hs
  obtain ⟨t, e⟩ := e
  rw [CrowdMap.step] at hs
  split at hs
  · cases hs
  · rename_i ht
    have h := h.atTime (Nat.le_of_not_lt ht)
    cases e with
    | change c =>
      cases hs
      refine ⟨hserved, ?_⟩
      rw [raised_silent database hist (by simp)]
      exact h.alive
    | load =>
      obtain ⟨-, hs⟩ := Option.ite_none_left_eq_some.1 hs
      cases hs
      refine ⟨hserved, ?_⟩
      rintro c ⟨⟩
      refine ⟨⟨rfl, List.nodup_nil⟩, rfl, rfl, ?_, ?_⟩
      · exact fun k v hv => by cases hv
      · exact fun m hm => absurd hm List.not_mem_nil
    | listen =>
      obtain ⟨-, hs⟩ := Option.ite_none_left_eq_some.1 hs
      cases hs
      refine ⟨hserved, ?_⟩
      rw [raised_silent database hist (by simp)]
      exact h.alive
    | deliver => exact h.deliver hserved hs
    | app e =>
      cases hs
      refine ⟨hserved, ?_⟩
      rw [raised_silent database hist (by simp)]
      cases ha : (s.atTime t).app.handle e with
      | none => exact h.alive
      | some a =>
        intro c' hc'
        obtain ⟨c, hc, hs⟩ := Option.bind_eq_some_iff.1 hc'
        exact (h.alive c hc).filters hs
    | interval i n =>
      obtain ⟨c, hc, hs⟩ := Option.bind_eq_some_iff.1 hs
      obtain ⟨c', hc', rfl⟩ := Option.map_eq_some_iff.1 hs
      refine ⟨hserved, ?_⟩
      rw [raised_silent database hist (by simp)]
      rintro d ⟨⟩
      exact (h.alive c hc).interval hc' (hserved.mapped c' rfl).rendered

theorem populated_initial (degrees : Number → Number → Number) (database : Json) (t : Nat) :
    Populated degrees database (initial database t, []) :=
  ⟨served_initial database t, fun c hc => by cases hc⟩

/-- Whatever the page goes through, each of its markers only takes the steps of a single marker,
which hears what the page raises about the crowd it was mounted for. -/
theorem page_markers (degrees : Number → Number → Number) (database : Json) (t : Nat)
    (es : List (Nat × MapEvent)) :
    Always (withHistory (step degrees))
      (fun s => ∀ m ∈ s.1.markers, m.Lives degrees (raised database s.2) s.1.clock)
      (initial database t, []) es := by
  apply always_of_invariant (Populated degrees database) ?_ ?_
    (populated_initial degrees database t)
  · rintro ⟨s, hist⟩ h m hm
    cases hc : s.map with
    | none =>
      rw [markers_none hc] at hm
      cases hm
    | some c =>
      rw [markers_some hc] at hm
      exact (h.alive c hc).lives m hm
  · rintro ⟨s, hist⟩ e ⟨s', hist'⟩ h hs
    obtain ⟨hs, rfl⟩ := withHistory_some hs
    exact h.step hs

end CrowdMap

end CrowdTracking
