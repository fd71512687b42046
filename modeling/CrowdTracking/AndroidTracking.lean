import CrowdTracking.AndroidNode
import CrowdTracking.MarkerFilters
import CrowdTracking.ReportedPositions

namespace CrowdTracking
set_option autoImplicit true
open Script Database Runs

/-- A guide's Android session and the marker of its node on the dashboard, with the `child_changed`
events that have been raised for the marker and are not delivered yet. -/
structure Watched where
  session : Session
  marker : Option MyMarker
  pending : List Json
deriving DecidableEq

/-- `seen` is any event of the marker that is no snapshot. -/
inductive WatchEvent where
  | client (e : MainEvent)
  | mount (index : Nat) (showActive showInActive showLost : Bool) (t : Nat)
  | deliver (t : Nat)
  | seen (t : Nat) (e : MarkerEvent)
deriving DecidableEq

namespace Watched

def registered (session : Session) : Watched := ⟨session, none, []⟩

/-- A marker is mounted where there is none, or none any more. -/
def step (degrees : Number → Number → Number) (s : Watched) : WatchEvent → Option Watched
  | .client e => (s.session.step e).map fun session =>
      { s with
        session := session
        pending :=
          if s.marker.isSome then
            s.pending ++ (changedChildren s.session.node session.node).map Prod.snd
          else s.pending }
  | .mount index showActive showInActive showLost t =>
    let props : Props :=
      ⟨s.session.activity.child, index, s.session.node.fields, showActive, showInActive, showLost⟩
    if s.marker.all (!·.mounted) then some { s with marker := some (.mount props t), pending := [] }
    else none
  | .deliver t =>
    match s.marker, s.pending with
    | some m, v :: pending =>
      (m.step degrees (t, .childChanged s.session.activity.child v)).map fun m' =>
        { s with marker := some m', pending := pending }
    | _, _ => none
  | .seen t e =>
    match e with
    | .childChanged _ _ => none
    | e => s.marker.bind fun m =>
        (m.step degrees (t, e)).map fun m' => { s with marker := some m' }

/-- The positions of the location callbacks, in order. -/
def positions (hist : List WatchEvent) : List (Rat × Rat) :=
  hist.filterMap fun
    | .client e => e.fix
    | _ => none

/-- A marker is mounted only after the first fix, or while the node has no location. -/
def MountsReported (s : Watched × List WatchEvent) : WatchEvent → Prop
  | .mount .. => positions s.2 ≠ [] ∨ s.1.session.node.child "location" = none
  | _ => True

instance (s : Watched × List WatchEvent) : DecidablePred (MountsReported s)
  | .mount .. => inferInstanceAs (Decidable (_ ∨ _))
  | .client _ | .deliver _ | .seen _ _ => isTrue trivial

/-- The node as the verification wrote it. -/
def Unreported (node : Json) : Prop :=
  node.child "location" = some (position 0 0) ∧ node.child "status" = some (.str "InActive") ∧
    node.child "lost" = none

/-- The screen's map and a node without the registered position hold reported positions alone. -/
structure Reports (ps : List (Rat × Rat)) (r : Record Json) : Prop where
  reported : ∀ k v, r.get k = some v → Reported ps v
  unreported : ps = [] → r.get "location" = none

/-- What the marker takes has been reported by the device; only a node that no marker has seen may
still have the registered position. -/
structure Watching (s : Watched × List WatchEvent) : Prop where
  data : Reports (positions s.2) s.1.session.activity.crowdData
  node : Reports (positions s.2) s.1.session.node.fields ∨
    (positions s.2 = [] ∧ s.1.marker = none ∧ Unreported s.1.session.node)
  pending : ∀ v ∈ s.1.pending, Reported (positions s.2) v
  marker : ∀ m ∈ s.1.marker, ∀ l ∈ m.crowd.get "location", Reported (positions s.2) l

variable {ps qs : List (Rat × Rat)} {r : Record Json} {degrees : Number → Number → Number}

theorem positions_append (hist : List WatchEvent) (e : WatchEvent) :
    positions (hist ++ [e]) = positions hist ++ positions [e] :=
  List.filterMap_append

theorem Reports.mono (h : Reports ps r) (hp : ∀ p ∈ ps, p ∈ qs) : Reports qs r := by
  refine ⟨fun k v hv => (h.reported k v hv).mono hp, ?_⟩
  rintro rfl
  apply h.unreported
  exact List.eq_nil_iff_forall_not_mem.2 fun p hmem => List.not_mem_nil (hp p hmem)

theorem Reports.put (h : Reports ps r) (hk : k ≠ "location") (hv : Reported ps v) :
    Reports ps (r.put k v) := by
  refine ⟨?_, ?_⟩
  · intro l w hw
    rw [Record.get_put] at hw
    split at hw
    · cases hw
      exact hv
    · exact h.reported l w hw
  · intro hps
    rw [Record.get_put_of_ne _ _ hk, h.unreported hps]

theorem Reports.putLocation (h : Reports ps r) (hp : p ∈ ps)
    (hlat : v.child "lat" = some (.num (.finite p.1)))
    (hlng : v.child "lng" = some (.num (.finite p.2))) : Reports ps (r.put "location" v) := by
  refine ⟨?_, ?_⟩
  · intro l w hw
    rw [Record.get_put] at hw
    split at hw
    · cases hw
      exact .inr ⟨p, hp, hlat, hlng⟩
    · exact h.reported l w hw
  · rintro rfl
    cases hp

theorem Reports.putNullable (h : Reports ps r) (hk : k ≠ "location") (s : Option String) :
    Reports ps (putNullable r k s) := by
  cases s with
  | some s => exact h.put hk (reported_str s)
  | none =>
    refine ⟨?_, ?_⟩
    · intro l w hw
      exact h.reported l w (Option.ite_none_left_eq_some.1 (Record.get_erase r k l ▸ hw)).2
    · intro hps
      exact (Record.get_erase r k "location").trans ((if_neg hk).trans (h.unreported hps))

/-- The screen's map takes a position from a location callback alone. -/
theorem Reports.stepped {a : MainActivity} (h : Reports ps a.crowdData)
    (hs : a.Stepped p e a' p' ws) : Reports (ps ++ e.fix.toList) a'.crowdData := by
  have hmono : ∀ q ∈ ps, q ∈ ps ++ e.fix.toList := fun q hq => List.mem_append_left _ hq
  have hdata := h.mono hmono
  cases hs with
  | idle | disabled => exact hdata
  | started => exact hdata.put (by decide) (reported_num _)
  | located he =>
    rename_i l lat lng _ _
    subst he
    apply Reports.putNullable ?_ (by decide)
    apply Reports.putLocation (p := (lat, lng)) (hdata.putNullable (by decide) _)
    · exact List.mem_append_right _ (List.mem_singleton.2 rfl)
    · simp [Record.get_put]
    · simp
  | stopped => exact hdata.put (by decide) (reported_str _)

theorem stepped_location {m m' : MyMarker} (h : MyMarker.Stepped degrees m t e m') :
    m'.crowd.get "location" = m.crowd.get "location" ∨
      ∃ k v, e = .childChanged k v ∧ m'.crowd = MyMarker.nextCrowd degrees m.crowd v := by
  rcases MyMarker.stepped_crowd h with hc | ⟨-, hc | ⟨-, hc⟩ | ⟨-, hc⟩⟩
  · exact .inl (by rw [hc])
  · exact .inr hc
  · exact .inl (by rw [hc, Record.get_put_of_ne _ _ (by decide)])
  · exact .inl (by rw [hc, Record.get_put_of_ne _ _ (by decide)])

/-- A step of the session writes the screen's map, or brings no fix and leaves the node. -/
theorem node_cases {s s' : Session} (h : s.step e = some s') :
    (s'.node = s.node ∧ e.fix = none) ∨ s'.node = .obj s'.activity.crowdData := by
  obtain ⟨ws, hs, -, hdb⟩ := Session.step_stepped h
  rcases hs.writes with rfl | rfl
  · refine .inl ⟨Session.node_unwritten h hdb, ?_⟩
    obtain ⟨a', p', t', log'⟩ := s'
    cases hs with
    | idle n fine coarse hf hl hfix => exact hfix
    | started hstarts => exact MainActivity.fix_of_starts hstarts
    | disabled he =>
      rw [he]
      rfl
  · exact .inr (Session.node_written h hdb)

theorem Watching.client {s : Watched} (h : Watching (s, hist)) (hs : s.session.step e = some t) :
    Watching ({ s with
      session := t
      pending :=
        if s.marker.isSome then s.pending ++ (changedChildren s.session.node t.node).map Prod.snd
        else s.pending }, hist ++ [.client e]) := by
  have hpos : positions (hist ++ [.client e]) = positions hist ++ e.fix.toList := by
    rw [positions_append]
    cases he : e.fix <;> simp [positions, he]
  have hmono : ∀ p ∈ positions hist, p ∈ positions hist ++ e.fix.toList :=
    fun p hp => List.mem_append_left _ hp
  obtain ⟨ws, hstep, -⟩ := Session.step_stepped hs
  have hdata := h.data.stepped hstep
  have hnode (hr : Reports (positions hist) s.session.node.fields) :
      Reports (positions hist ++ e.fix.toList) t.node.fields := by
    rcases node_cases hs with ⟨hn, -⟩ | hn
    · rw [hn]
      exact hr.mono hmono
    · rw [hn]
      exact hdata
  refine ⟨by rw [hpos]; exact hdata, ?_, ?_, ?_⟩
  · rw [hpos]
    rcases h.node with hr | ⟨hnone, hm, hun⟩
    · exact .inl (hnode hr)
    · rcases node_cases hs with ⟨hn, hfix⟩ | hn
      · rw [hfix, hn]
        exact .inr ⟨by simpa using hnone, hm, hun⟩
      · rw [hn]
        exact .inl hdata
  · rw [hpos]
    intro v hv
    simp only at hv
    split at hv
    · rename_i hm
      rcases List.mem_append.1 hv with hv | hv
      · exact (h.pending v hv).mono hmono
      · obtain ⟨⟨k, w⟩, hkw, rfl⟩ := List.mem_map.1 hv
        rcases h.node with hr | ⟨-, hnone, -⟩
        · exact (hnode hr).reported k w (mem_changedChildren hkw)
        · rw [show s.marker = none from hnone] at hm
          cases hm
    · exact (h.pending v hv).mono hmono
  · rw [hpos]
    exact fun m hm l hl => (h.marker m hm l hl).mono hmono

theorem positions_seen {e : WatchEvent} (he : ∀ c, e ≠ .client c) (hist : List WatchEvent) :
    positions (hist ++ [e]) = positions hist := by
  rw [positions_append]
  cases e with
  | client c => exact absurd rfl (he c)
  | _ => exact List.append_nil _

/-- An event of the marker, with the snapshot taken from the queue if it is one. -/
theorem Watching.marked {s : Watched} (h : Watching (s, hist)) (hm : s.marker = some m)
    (hs : MyMarker.Stepped degrees m t e m') (hv : ∀ k v, e = .childChanged k v → v ∈ s.pending)
    (hp : ∀ v ∈ vs, v ∈ s.pending) :
    Watching ({ s with marker := some m', pending := vs }, hist) := by
  refine ⟨h.data, ?_, fun v hmem => h.pending v (hp v hmem), ?_⟩
  · rcases h.node with hr | ⟨-, hnone, -⟩
    · exact .inl hr
    · rw [hm] at hnone
      cases hnone
  · rintro _ ⟨⟩
    rcases stepped_location hs with hloc | ⟨k, v, he, hc⟩
    · rw [hloc]
      exact h.marker m hm
    · rw [hc]
      exact Reported.nextCrowd (h.marker m hm) (h.pending v (hv k v he))

/-- A marker takes the location of its node only where that has been reported. -/
theorem Watching.mounted {s : Watched} (h : Watching (s, hist))
    (hp : s.session.node.fields = p.crowd)
    (hC : positions hist ≠ [] ∨ s.session.node.child "location" = none) (t : Nat) :
    Watching ({ s with marker := some (.mount p t), pending := [] }, hist) := by
  have hr : Reports (positions hist) s.session.node.fields := by
    rcases h.node with hr | ⟨hnone, -, hloc, -⟩
    · exact hr
    · rcases hC with hne | hnoloc
      · exact absurd hnone hne
      · rw [hloc] at hnoloc
        cases hnoloc
  refine ⟨h.data, .inl hr, (fun v hv => by cases hv), ?_⟩
  rintro m ⟨⟩ l hl
  rw [MyMarker.mount_crowd, ← hp] at hl
  exact hr.reported "location" l hl

theorem Watching.step {s s' : Watched} (h : Watching (s, hist)) (hs : s.step degrees e = some s')
    (hC : MountsReported (s, hist) e) : Watching (s', hist ++ [e]) := by
  have hseen (he : ∀ c, e ≠ .client c) (hw : Watching (s', hist)) : Watching (s', hist ++ [e]) := by
    have hpos := positions_seen he hist
    obtain ⟨hdata, hnode, hpending, hmarker⟩ := hw
    exact ⟨by rwa [hpos], by rwa [hpos], by rwa [hpos], by rwa [hpos]⟩
  cases e with
  | client e =>
    obtain ⟨t, ht, rfl⟩ := Option.map_eq_some_iff.1 hs
    exact h.client ht
  | mount index a i l t =>
    obtain ⟨-, hs⟩ := Option.ite_none_right_eq_some.1 hs
    cases hs
    exact hseen (fun c hc => by cases hc) (h.mounted rfl hC t)
  | deliver t =>
    simp only [Watched.step] at hs
    split at hs
    · rename_i m v vs hm hp
      obtain ⟨m', hm', rfl⟩ := Option.map_eq_some_iff.1 hs
      apply hseen fun c hc => by cases hc
      refine h.marked hm (MyMarker.step_stepped hm').2 ?_ ?_
      · rintro k w ⟨⟩
        rw [hp]
        exact List.mem_cons_self
      · rw [hp]
        exact fun w hw => List.mem_cons_of_mem v hw
    · cases hs
  | seen t e =>
    apply hseen fun c hc => by cases hc
    cases e with
    | childChanged k v => cases hs
    | _ =>
      obtain ⟨m, hm, hs⟩ := Option.bind_eq_some_iff.1 hs
      obtain ⟨m', hm', rfl⟩ := Option.map_eq_some_iff.1 hs
      exact h.marked hm (MyMarker.step_stepped hm').2 (fun k v he => by cases he) fun w hw => hw

/-- A marker that is mounted on the registered node is drawn. -/
theorem drawn_unreported {node : Json} (p : Props) (hn : Unreported node)
    (hp : p.crowd = node.fields) (t : Nat) : (MyMarker.mount p t).drawn.isSome := by
  obtain ⟨hloc, hs, hlost⟩ := hn
  have hcrowd (k : String) : p.crowd.get k = node.child k := by
    rw [hp]
    rfl
  have hhidden : ¬(MyMarker.mount p t).Hidden := by
    simp [MyMarker.Hidden, MyMarker.status, MyMarker.lost, hcrowd, hs, hlost, truthy]
  rw [MyMarker.drawn, if_pos (MyMarker.mount_mounted p t), Option.isSome_map,
    MyMarker.view_isSome_iff]
  refine ⟨hhidden, position 0 0, ?_, rfl⟩
  rw [MyMarker.mount_crowd, hcrowd, hloc]

theorem Watching.bad {s s' : Watched} (h : Watching (s, hist)) (hs : s.step degrees e = some s')
    (hP : OnlyReported (positions (hist ++ [e])) s'.marker) : MountsReported (s, hist) e := by
  cases e with
  | mount index a i l t =>
    by_contra hC
    obtain ⟨hnone, hloc⟩ := not_or.1 hC
    have hpos : positions hist = [] := not_not.1 hnone
    rcases h.node with hr | ⟨-, -, hun⟩
    · exact hloc (hr.unreported hpos)
    · obtain ⟨-, hs⟩ := Option.ite_none_right_eq_some.1 hs
      cases hs
      have hdrawn :=
        drawn_unreported ⟨s.session.activity.child, index, s.session.node.fields, a, i, l⟩ hun rfl t
      obtain ⟨q, hq⟩ := Option.isSome_iff_exists.1 hdrawn
      obtain ⟨p, hp, -⟩ := hP q hq
      rw [positions_seen (fun c hc => by cases hc), hpos] at hp
      cases hp
  | _ => trivial

theorem watching_start (fine coarse service : Bool) (u : SignUp) (draw : Draw) (t : Json) :
    Watching (registered (.start fine coarse service u draw t), []) := by
  refine ⟨⟨(fun k v hv => by cases hv), fun _ => rfl⟩, .inr ⟨rfl, rfl, ?_⟩,
    (fun v hv => by cases hv), (fun m hm => by cases hm)⟩
  have hnode := Session.node_start fine coarse service u draw t
  rw [Unreported, registered, hnode]
  refine ⟨?_, ?_, ?_⟩
  · simp [Record.get_put, VerificationActivity.location]
  · simp
  · simp [Record.get_put]

/-- A marker of an iOS crowd is drawn at reported positions alone. A marker of an Android crowd is,
exactly as long as it is mounted after the first fix or while the node has no location. -/
theorem only_reported (distance : CLLocation → CLLocation → Rat)
    (degrees : Number → Number → Number) (first : Option CLLocation) (uid key : String)
    (database : Json) (es : List TrackingEvent) (fine coarse service : Bool) (u : SignUp)
    (draw : Draw) (t : Json) (fs : List WatchEvent) :
    Always (withHistory (Tracking.step distance degrees))
        (fun s => OnlyReported (Tracking.positions s.2) s.1.marker)
        (Tracking.registeredAt first uid key database, []) es ∧
      (Always (withHistory (step degrees))
          (fun s => OnlyReported (positions s.2) s.1.marker)
          (registered (.start fine coarse service u draw t), []) fs ↔
        Along (withHistory (step degrees)) MountsReported
          (registered (.start fine coarse service u draw t), []) fs) := by
  refine ⟨Tracking.Tracked.always distance degrees first uid key database es, ?_⟩
  apply always_iff_along Watching
  · exact fun _ h => onlyReported_of_marker h.marker
  · rintro ⟨s, hist⟩ e ⟨s', hist'⟩ h hs hC
    obtain ⟨hs, rfl⟩ := withHistory_some hs
    exact h.step hs hC
  · rintro ⟨s, hist⟩ e ⟨s', hist'⟩ h hs hP
    obtain ⟨hs, rfl⟩ := withHistory_some hs
    exact h.bad hs hP
  · exact watching_start fine coarse service u draw t

/-- A marker mounted right after the verification is drawn at the registered position. -/
theorem drawn_before_fix :
    ¬Always (withHistory (step fun _ _ => .nan)) (fun s => OnlyReported (positions s.2) s.1.marker)
      (registered (.start true true true ⟨"c", "p"⟩ ⟨0, 0, 0⟩ (.obj .empty)), [])
      [.mount 0 true true true 0] := by
  decide +kernel

end Watched

end CrowdTracking
