import CrowdTracking.AndroidNode
import CrowdTracking.MarkerFilters

namespace CrowdTracking
set_option autoImplicit true
open Database Runs

inductive Action where
  | registration
  | start
  | stop
deriving DecidableEq

/-- What the guide did last, and whether a Start after a Stop still waits for a fix. -/
structure Guide where
  action : Action
  unpublished : Bool
deriving DecidableEq

def Guide.next (g : Guide) (e : MainEvent) : Guide :=
  if e = .buttonStop then ⟨.stop, false⟩
  else if e.starts then ⟨.start, g.action = .stop || g.unpublished⟩
  else if e.fix.isSome then { g with unpublished := false }
  else g

def guide (hist : List MainEvent) : Guide := hist.foldl Guide.next ⟨.registration, false⟩

/-- A marker mounted from the crowd is blue, and the inActive filter hides it. -/
def DrawnInActive (crowd : Record Json) : Prop :=
  ∀ k i t showActive showLost,
    (∃ v, (MyMarker.mount ⟨k, i, crowd, showActive, true, showLost⟩ t).view = some v ∧
      v.fillColor = "#2979FF") ∧
    (MyMarker.mount ⟨k, i, crowd, showActive, false, showLost⟩ t).view = none

/-- A marker mounted from the crowd is green or red. -/
def DrawnActive (crowd : Record Json) : Prop :=
  ∀ k i t, ∃ v, (MyMarker.mount ⟨k, i, crowd, true, true, true⟩ t).view = some v ∧
    (v.fillColor = "#00E676" ∨ v.fillColor = "#FF1744")

theorem drawnInActive_of_status {crowd : Record Json}
    (hs : crowd.get "status" = some (.str "inActive")) (hlost : crowd.get "lost" = none)
    (hloc : crowd.get "location" = some (position lat lng)) : DrawnInActive crowd := by
  intro k i t showActive showLost
  constructor
  · have hsome : (MyMarker.mount ⟨k, i, crowd, showActive, true, showLost⟩ t).view.isSome := by
      rw [MyMarker.view_isSome_iff]
      refine ⟨?_, position lat lng, by rw [MyMarker.mount_crowd, hloc], rfl⟩
      simp [MyMarker.Hidden, MyMarker.status, MyMarker.lost, hs, hlost, Script.truthy]
    obtain ⟨v, hv⟩ := Option.isSome_iff_exists.1 hsome
    refine ⟨v, hv, ?_⟩
    rw [(MyMarker.view_eq_some hv).1]
    simp [MyMarker.color, MyMarker.status, hs]
  · rw [← Option.not_isSome_iff_eq_none, MyMarker.view_isSome_iff]
    rintro ⟨hhidden, -⟩
    simp [MyMarker.Hidden, MyMarker.status, hs] at hhidden

theorem drawnActive_of_status {crowd : Record Json} (hs : crowd.get "status" = some (.str status))
    (hne : status ≠ "inActive") (hterm : status ≠ "Terminated")
    (hloc : crowd.get "location" = some (position lat lng)) : DrawnActive crowd := by
  intro k i t
  have hsome : (MyMarker.mount ⟨k, i, crowd, true, true, true⟩ t).view.isSome := by
    rw [MyMarker.view_isSome_iff]
    refine ⟨?_, position lat lng, by rw [MyMarker.mount_crowd, hloc], rfl⟩
    simp [MyMarker.Hidden, MyMarker.status, hs, hterm]
  obtain ⟨v, hv⟩ := Option.isSome_iff_exists.1 hsome
  refine ⟨v, hv, ?_⟩
  rw [(MyMarker.view_eq_some hv).1]
  simp only [MyMarker.color, MyMarker.status, MyMarker.mount_crowd, hs, Option.some.injEq,
    Json.str.injEq, hne, ↓reduceIte]
  split
  · exact .inr rfl
  · exact .inl rfl

theorem not_drawnActive {crowd : Record Json}
    (hs : crowd.get "status" = some (.str "inActive")) : ¬DrawnActive crowd := by
  intro h
  obtain ⟨v, hv, hcolor⟩ := h "" 0 0
  rw [(MyMarker.view_eq_some hv).1] at hcolor
  simp [MyMarker.color, MyMarker.status, hs] at hcolor

theorem not_drawnInActive {crowd : Record Json}
    (hs : crowd.get "status" ≠ some (.str "inActive") ∨ crowd.get "location" = none) :
    ¬DrawnInActive crowd := by
  intro h
  obtain ⟨v, hv, hcolor⟩ := (h "" 0 0 true true).1
  rcases hs with hs | hloc
  · rw [(MyMarker.view_eq_some hv).1] at hcolor
    simp only [MyMarker.color, MyMarker.status, MyMarker.mount_crowd, hs, ↓reduceIte] at hcolor
    split at hcolor <;> exact absurd hcolor (by decide)
  · obtain ⟨-, location, hsome, -⟩ := MyMarker.view_isSome_iff.1 (Option.isSome_of_eq_some hv)
    rw [MyMarker.mount_crowd, hloc] at hsome
    cases hsome

/-- What the session's status and its node say, by what the guide did. -/
structure Vocabulary (a : MainActivity) (p : Phone) (node : Json) (hist : List MainEvent) :
    Prop where
  granted : a.locationListener.isSome → p.fineGranted
  registration : (guide hist).action = .registration → p.registered = []
  start : (guide hist).action = .start →
    p.tafweej.status = some "Active" ∨ p.registered = []
  stop : (guide hist).action = .stop → p.tafweej.status = some "inActive" ∧ p.fineGranted ∧
    node.child "status" = some (.str "inActive")
  unpublished : (guide hist).unpublished → (guide hist).action = .start ∧ p.fineGranted ∧
    node.child "status" = some (.str "inActive")
  active : (guide hist).action ≠ .stop → (guide hist).unpublished = false →
    ∃ status lat lng, node.child "status" = some (.str status) ∧ status ≠ "inActive" ∧
      status ≠ "Terminated" ∧ node.child "location" = some (position lat lng)
  located : (guide hist).action = .stop → fixes hist ≠ [] →
    ∃ lat lng, node.child "location" = some (position lat lng)
  missing : (guide hist).action = .stop → fixes hist = [] → node.child "location" = none
  lost : node.child "lost" = none

/-- The node is drawn as the guide's last action says. -/
def Agrees (s : Session × List MainEvent) : Prop :=
  match (guide s.2).action with
  | .start => DrawnActive s.1.node.fields
  | _ => DrawnInActive s.1.node.fields

/-- The guide stopped after a fix, or started and a fix has followed any Stop before it. -/
def Published (hist : List MainEvent) : Prop :=
  ((guide hist).action = .stop ∧ fixes hist ≠ []) ∨
    ((guide hist).action = .start ∧ (guide hist).unpublished = false)

instance (hist : List MainEvent) : Decidable (Published hist) :=
  inferInstanceAs (Decidable (_ ∨ _))

theorem Vocabulary.agrees_iff {s : Session} (h : Vocabulary s.activity s.phone s.node hist) :
    Agrees (s, hist) ↔ Published hist := by
  rw [Agrees, Published]
  cases hg : (guide hist).action with
  | registration =>
    have hunp : (guide hist).unpublished = false := by
      by_contra hunp
      obtain ⟨hstart, -⟩ := h.unpublished (by simpa using hunp)
      rw [hg] at hstart
      cases hstart
    obtain ⟨status, lat, lng, hs, hne, -⟩ := h.active (by rw [hg]; nofun) hunp
    refine ⟨fun hd => absurd hd (not_drawnInActive (.inl ?_)), by simp⟩
    exact fun hs' => hne (by simpa using hs.symm.trans hs')
  | start =>
    refine ⟨fun hd => .inr ⟨rfl, ?_⟩, ?_⟩
    · by_contra hunp
      exact not_drawnActive (h.unpublished (by simpa using hunp)).2.2 hd
    · intro hp
      have hunp : (guide hist).unpublished = false := by simpa using hp
      obtain ⟨status, lat, lng, hs, hne, hterm, hloc⟩ := h.active (by rw [hg]; nofun) hunp
      exact drawnActive_of_status hs hne hterm hloc
  | stop =>
    refine ⟨fun hd => .inl ⟨rfl, fun hfix => ?_⟩, fun hp => ?_⟩
    · exact not_drawnInActive (.inr (h.missing hg hfix)) hd
    · obtain ⟨lat, lng, hloc⟩ := h.located hg (by simpa using hp)
      exact drawnInActive_of_status (h.stop hg).2.2 h.lost hloc

theorem guide_append (hist : List MainEvent) (e : MainEvent) :
    guide (hist ++ [e]) = (guide hist).next e := by
  rw [guide, List.foldl_append]
  rfl

theorem guide_idle {e : MainEvent} (hstop : e ≠ .buttonStop) (hs : e.starts = false)
    (hfix : e.fix = none) : guide (hist ++ [e]) = guide hist := by
  rw [guide_append, Guide.next, if_neg hstop, hs, hfix]
  rfl

theorem guide_starts {e : MainEvent} (hs : e.starts) :
    guide (hist ++ [e]) =
      ⟨.start, (guide hist).action = .stop || (guide hist).unpublished⟩ := by
  have hstop : e ≠ .buttonStop := by
    rintro rfl
    cases hs
  rw [guide_append, Guide.next, if_neg hstop, if_pos hs]

theorem guide_fix (hist : List MainEvent) (l : LocationListener) (lat lng : Rat) :
    guide (hist ++ [.onLocationChanged l lat lng]) =
      { guide hist with unpublished := false } :=
  guide_append hist _

theorem guide_stop (hist : List MainEvent) : guide (hist ++ [.buttonStop]) = ⟨.stop, false⟩ :=
  guide_append hist _

variable {a a' : MainActivity} {p p' : Phone} {e : MainEvent} {hist : List MainEvent}
  {node node' : Json}

theorem Vocabulary.idle {fine coarse : Bool} (h : Vocabulary a p node hist)
    (ha : a'.locationListener = a.locationListener) (hf : p.fineGranted → fine)
    (hg : guide (hist ++ [e]) = guide hist) (hfix : e.fix = none) :
    Vocabulary a' { p with fineGranted := fine, coarseGranted := coarse } node (hist ++ [e]) := by
  refine ⟨fun hl => hf (h.granted (ha ▸ hl)), ?_, ?_, ?_, ?_, ?_, ?_, ?_, h.lost⟩ <;> rw [hg]
  · exact h.registration
  · exact h.start
  · intro hstop
    obtain ⟨hs, hfine, hn⟩ := h.stop hstop
    exact ⟨hs, hf hfine, hn⟩
  · intro hunp
    obtain ⟨hs, hfine, hn⟩ := h.unpublished hunp
    exact ⟨hs, hf hfine, hn⟩
  · exact h.active
  · rw [fixes_unfixed hfix]
    exact h.located
  · rw [fixes_unfixed hfix]
    exact h.missing

theorem Vocabulary.unheld (h : Vocabulary a p node hist) (hfine : p.fineGranted = false) :
    a.locationListener = none := by
  by_contra hheld
  have hgranted := h.granted (Option.isSome_iff_ne_none.2 hheld)
  rw [hfine] at hgranted
  cases hgranted

theorem Vocabulary.refused {fine coarse : Bool} (h : Vocabulary a p node hist)
    (hg : MainActivity.Gathered campaign a p hist)
    (ha : a'.locationListener = a.locationListener) (hfine : p.fineGranted = false)
    (hs : e.starts) :
    Vocabulary a' { p with fineGranted := fine, coarseGranted := coarse } node (hist ++ [e]) := by
  have hheld := h.unheld hfine
  have hreg : p.registered = [] := by
    by_contra hreg
    have hsome := hg.held hreg
    rw [hheld] at hsome
    cases hsome
  have hstop : (guide hist).action ≠ .stop := by
    intro hstop
    have hgranted := (h.stop hstop).2.1
    rw [hfine] at hgranted
    cases hgranted
  have hunp : (guide hist).unpublished = false := by
    by_contra hunp
    have hgranted := (h.unpublished (by simpa using hunp)).2.1
    rw [hfine] at hgranted
    cases hgranted
  have hguide : guide (hist ++ [e]) = ⟨.start, false⟩ := by
    rw [guide_starts hs, hunp, decide_eq_false hstop]
    rfl
  refine ⟨?_, ?_, ?_, ?_, ?_, ?_, ?_, ?_, h.lost⟩
  · rw [ha, hheld]
    nofun
  all_goals rw [hguide]
  · nofun
  · exact fun _ => .inr hreg
  · nofun
  · nofun
  · exact fun _ _ => h.active hstop hunp
  · nofun
  · nofun

/-- Listening started: the node has the last published action until the next fix. -/
theorem Vocabulary.started (h : Vocabulary a p node hist) (hs : e.starts)
    (hfine : p'.fineGranted) (hp : p'.tafweej.status = some "Active") :
    Vocabulary a' p' node (hist ++ [e]) := by
  refine ⟨fun _ => hfine, ?_, ?_, ?_, ?_, ?_, ?_, ?_, h.lost⟩ <;> rw [guide_starts hs]
  · nofun
  · exact fun _ => .inl hp
  · nofun
  · intro hunp
    simp only [Bool.or_eq_true, decide_eq_true_eq] at hunp
    rcases hunp with hstop | hunp
    · exact ⟨rfl, hfine, (h.stop hstop).2.2⟩
    · exact ⟨rfl, hfine, (h.unpublished hunp).2.2⟩
  · intro _ hunp
    simp only [Bool.or_eq_false_iff, decide_eq_false_iff_not] at hunp
    exact h.active hunp.1 hunp.2
  · nofun
  · nofun

theorem Vocabulary.fix (h : Vocabulary a p node hist)
    (ha : a'.locationListener = a.locationListener) (hreg : p.registered ≠ [])
    (hp : p.tafweej.status = some status) (hs : node'.child "status" = some (.str status))
    (hloc : node'.child "location" = some (position lat lng))
    (hlost : node'.child "lost" = none) :
    Vocabulary a' p node' (hist ++ [.onLocationChanged l lat lng]) := by
  refine ⟨fun hl => h.granted (ha ▸ hl), ?_, ?_, ?_, ?_, ?_, ?_, ?_, hlost⟩ <;> rw [guide_fix]
  · exact h.registration
  · exact h.start
  · intro hstop
    obtain ⟨hstatus, hfine, -⟩ := h.stop hstop
    obtain rfl : status = "inActive" := Option.some.inj (hp.symm.trans hstatus)
    exact ⟨hstatus, hfine, hs⟩
  · nofun
  · intro hstop _
    refine ⟨status, lat, lng, hs, ?_⟩
    cases haction : (guide hist).action with
    | registration => exact absurd (h.registration haction) hreg
    | start =>
      obtain rfl : status = "Active" :=
        Option.some.inj (hp.symm.trans ((h.start haction).resolve_right hreg))
      exact ⟨by decide, by decide, hloc⟩
    | stop => exact absurd haction hstop
  · exact fun _ _ => ⟨lat, lng, hloc⟩
  · intro _ hfix
    rw [fixes_append] at hfix
    simp [MainEvent.fix] at hfix

theorem Vocabulary.stopped (hfine : p'.fineGranted) (hp : p'.tafweej.status = some "inActive")
    (hs : node'.child "status" = some (.str "inActive"))
    (hfixed : fixes hist ≠ [] → ∃ lat lng, node'.child "location" = some (position lat lng))
    (hunfixed : fixes hist = [] → node'.child "location" = none)
    (hlost : node'.child "lost" = none) : Vocabulary a' p' node' (hist ++ [.buttonStop]) := by
  refine ⟨fun _ => hfine, ?_, ?_, ?_, ?_, ?_, ?_, ?_, hlost⟩ <;> rw [guide_stop]
  · nofun
  · nofun
  · exact fun _ => ⟨hp, hfine, hs⟩
  · nofun
  · exact fun h => absurd rfl h
  · rw [fixes_unfixed rfl]
    exact fun _ => hfixed
  · rw [fixes_unfixed rfl]
    exact fun _ => hunfixed

theorem lost_of_gathered (h : MainActivity.Gathered campaign a p hist) :
    (Json.obj a.crowdData).child "lost" = none := by
  by_contra hlost
  exact absurd (h.fields "lost" (Option.isSome_iff_ne_none.2 hlost)) (by decide)

theorem Vocabulary.step (h : Vocabulary a p node hist)
    (hg : MainActivity.Gathered campaign a p hist) (hs : a.Stepped p e a' p' ws)
    (hquiet : ws = [] → node' = node)
    (hwrite : ∀ k v, ws = [.setValue k v] → node' = v) : Vocabulary a' p' node' (hist ++ [e]) := by
  have hg' := hg.step hs
  cases hs with
  | idle n fine coarse hf hl hfix hdis hstop hs =>
    obtain rfl := hquiet rfl
    cases hstarts : e.starts with
    | false => exact h.idle rfl hf (guide_idle hstop hstarts hfix) hfix
    | true => exact h.refused hg rfl (hs hstarts) hstarts
  | started hs hfine hvis hservice =>
    obtain rfl := hquiet rfl
    exact h.started hs hfine rfl
  | located he hl hown =>
    subst he
    obtain rfl := hwrite _ _ rfl
    obtain ⟨status, hstatus, hdata, -⟩ := MainActivity.onLocationChanged_crowdData hg _ _
    refine h.fix rfl (List.ne_nil_of_mem hl) hstatus ?_ ?_ (lost_of_gathered hg')
    · rw [Json.child_obj, hdata, Record.get_put_self]
    · rw [Json.child_obj, hdata, Record.get_put_of_ne _ _ (by decide), Record.get_put_self]
  | disabled he hl hown =>
    obtain rfl := hquiet rfl
    rename_i l
    subst he
    have hgu : guide (hist ++ [.onProviderDisabled l]) = guide hist := guide_idle nofun rfl rfl
    have hidle : Vocabulary a.onProviderDisabled
        { p with fineGranted := p.fineGranted, coarseGranted := p.coarseGranted } node'
        (hist ++ [.onProviderDisabled l]) := h.idle rfl id hgu rfl
    exact hidle
  | stopped he hvis hl =>
    subst he
    obtain rfl := hwrite _ _ rfl
    refine .stopped (h.granted (by simp [hl])) rfl ?_ ?_ ?_ (lost_of_gathered hg')
    · rw [Json.child_obj, Record.get_put_self]
    · intro hfix
      rw [Json.child_obj, Record.get_put_of_ne _ _ (by decide)]
      exact ⟨_, _, (hg.fixed hfix).2⟩
    · intro hfix
      rw [Json.child_obj, Record.get_put_of_ne _ _ (by decide)]
      exact (hg.unfixed hfix).2

namespace Session

theorem vocabulary_start (fine coarse service : Bool) (u : SignUp) (draw : Draw) (t : Json) :
    Vocabulary (start fine coarse service u draw t).activity
      (start fine coarse service u draw t).phone (start fine coarse service u draw t).node [] := by
  refine ⟨nofun, fun _ => rfl, nofun, nofun, nofun, fun _ _ => ?_, nofun, nofun, ?_⟩ <;>
    rw [node_start]
  · exact ⟨"InActive", 0, 0, by simp, by decide, by decide, by simp [Record.get_put]; rfl⟩
  · simp [Record.get_put]

theorem vocabulary_step {s s' : Session × List MainEvent}
    (hg : MainActivity.Gathered campaign s.1.activity s.1.phone s.2)
    (hv : Vocabulary s.1.activity s.1.phone s.1.node s.2)
    (h : withHistory step s e = some s') :
    MainActivity.Gathered campaign s'.1.activity s'.1.phone s'.2 ∧
      Vocabulary s'.1.activity s'.1.phone s'.1.node s'.2 := by
  obtain ⟨hs, hhist⟩ := withHistory_some h
  obtain ⟨ws, hstep, -, hdb⟩ := step_stepped hs
  rw [hhist]
  refine ⟨hg.step hstep, hv.step hg hstep ?_ ?_⟩
  · rintro rfl
    exact node_unwritten hs hdb
  · rintro k v rfl
    rcases hstep.writes with hw | hw
    · cases hw
    · cases hw
      exact node_written hs hdb

/-- In every state of the node that the client can reach, a marker mounted from it is drawn as the
guide's last action says if and only if that action has been published. -/
theorem status_vocabulary (fine coarse service : Bool) (u : SignUp) (draw : Draw) (t : Json)
    (es : List MainEvent) :
    Always (withHistory step) (fun s => Agrees s ↔ Published s.2)
      (start fine coarse service u draw t, []) es := by
  refine always_of_invariant (fun s =>
    MainActivity.Gathered u.campaign_id s.1.activity s.1.phone s.2 ∧
      Vocabulary s.1.activity s.1.phone s.1.node s.2) ?_ ?_ ?_ es
  · exact fun s h => h.2.agrees_iff
  · exact fun s e s' h hs => vocabulary_step h.1 h.2 hs
  · exact ⟨(recorded_start fine coarse service u draw t).gathered,
      vocabulary_start fine coarse service u draw t⟩

/-- The registration writes another spelling of inActive. -/
theorem registered_drawn_active :
    ¬Always (withHistory step) Agrees
      (start true true true ⟨"c", "p"⟩ ⟨0, 0, 0⟩ (.obj .empty), []) [] := by
  intro h
  have hdrawn : DrawnInActive
    (start true true true ⟨"c", "p"⟩ ⟨0, 0, 0⟩ (.obj .empty)).node.fields := h.first
  apply not_drawnInActive (.inl ?_) hdrawn
  decide +kernel

end Session

end CrowdTracking
