import CrowdTracking.LatestPosition

namespace CrowdTracking
set_option autoImplicit true
open Script Database Runs MyMarker

/-- Any number of guides on one database and a page that shows it. -/
structure Deployment (ι : Type u) where
  platform : Platform ι
  page : CrowdMap

/-- What happens on the page itself. -/
inductive PageEvent where
  | load
  | listen
  | deliver
  | app (e : AppEvent)
  | interval (i id : Nat)
deriving DecidableEq

inductive DeployedEvent (ι : Type u) where
  | guide (i : ι) (e : GuideEvent)
  | page (e : PageEvent)
deriving DecidableEq

def PageEvent.mapEvent : PageEvent → MapEvent
  | .load => .load
  | .listen => .listen
  | .deliver => .deliver
  | .app e => .app e
  | .interval i id => .interval i id

/-- Every value of the database that the messages bring satisfies a property. -/
def Throughout (P : Json → Prop) : Json → List Message → Prop
  | t, [] => P t
  | t, m :: ms => P t ∧ Throughout P (m.apply t) ms

/-- A crowd's node, where it is there, is at a position that has been the last one. -/
def Seen (k : String) (ps : List (Rat × Rat)) (t : Json) : Prop :=
  ∀ node, getAt (crowdPath k) t = some node → ∃ qs, qs <+: ps ∧ Stands qs node

namespace Deployment

/-- What an event of a guide writes. -/
def writes (distance : CLLocation → CLLocation → Rat) (degrees : Number → Number → Number)
    (g : GuideApp) (e : GuideEvent) : List Write :=
  ((g.act distance degrees e).map Prod.snd).getD []

variable {ι : Type u} [DecidableEq ι]

/-- One timed event. What a guide writes is a change for the page. -/
def step (distance : CLLocation → CLLocation → Rat) (degrees : Number → Number → Number)
    (s : Deployment ι) (e : Nat × DeployedEvent ι) : Option (Deployment ι) :=
  match e.2 with
  | .guide i f => (s.platform.step distance degrees (i, f)).bind fun platform =>
      (run (CrowdMap.step degrees) s.page ((writes distance degrees (s.platform.guides i) f).map
        fun w => (e.1, .change (.write w)))).map fun page => ⟨platform, page⟩
  | .page f => (s.page.step degrees (e.1, f.mapEvent)).map fun page => { s with page := page }

/-- The page has not been opened yet. -/
def initial (platform : Platform ι) (t : Nat) : Deployment ι :=
  ⟨platform, .initial platform.database t⟩

/-- The positions that a guide has reported, in order. -/
def reported (i : ι) (hist : List (Nat × DeployedEvent ι)) : List (Rat × Rat) :=
  hist.flatMap fun e => match e.2 with
    | .guide j f => if j = i then f.fixes else []
    | .page _ => []

/-- A guide reports positions off the equator alone, and the page listens once every crowd of the
database has a position. -/
def Allowed (s : Deployment ι) (e : Nat × DeployedEvent ι) : Prop :=
  match e.2 with
  | .guide _ f => ∀ p ∈ f.fixes, p.1 ≠ 0
  | .page .listen => Settled (crowds s.platform.database)
  | .page _ => True

instance (s : Deployment ι) : DecidablePred (Allowed s)
  | (_, .guide _ f) => inferInstanceAs (Decidable (∀ p ∈ f.fixes, p.1 ≠ 0))
  | (_, .page .listen) => inferInstanceAs (Decidable (Settled _))
  | (_, .page .load) | (_, .page .deliver) | (_, .page (.app _)) | (_, .page (.interval ..)) =>
    isTrue trivial

end Deployment

variable {ι : Type u} {k : String} {ps qs : List (Rat × Rat)} {t : Json} {w : Write}
  {ws : List Write}

theorem throughout_append {P : Json → Prop} {ms : List Message} (h : Throughout P t ms)
    (m : Message) (hm : P (m.apply (ms.foldl (fun t m => m.apply t) t))) :
    Throughout P t (ms ++ [m]) := by
  induction ms generalizing t with
  | nil => exact ⟨h, hm⟩
  | cons n ms ih => exact ⟨h.1, ih h.2 hm⟩

theorem Throughout.first {P : Json → Prop} {ms : List Message} (h : Throughout P t ms) : P t := by
  cases ms with
  | nil => exact h
  | cons m ms => exact h.1

theorem Throughout.last {P : Json → Prop} {ms : List Message} (h : Throughout P t ms) :
    P (ms.foldl (fun t m => m.apply t) t) := by
  induction ms generalizing t with
  | nil => exact h
  | cons m ms ih => exact ih h.2

theorem Throughout.mono {P Q : Json → Prop} {ms : List Message} (h : Throughout P t ms)
    (hPQ : ∀ t, P t → Q t) : Throughout Q t ms := by
  induction ms generalizing t with
  | nil => exact hPQ t h
  | cons m ms ih => exact ⟨hPQ t h.1, ih h.2⟩

theorem Seen.mono (h : Seen k ps t) (hp : ps <+: qs) : Seen k qs t := by
  intro node hnode
  obtain ⟨rs, hrs, hstands⟩ := h node hnode
  exact ⟨rs, hrs.trans hp, hstands⟩

theorem StandsAt.seen (h : StandsAt k ps t) : Seen k ps t := by
  intro node hnode
  have hstands := h.node
  rw [hnode, Option.getD_some] at hstands
  exact ⟨ps, List.prefix_refl ps, hstands⟩

theorem getAt_crowd_other {l : String} (hw : w.path = crowdPath l ++ q) (hk : k ≠ l) (t : Json) :
    getAt (crowdPath k) (w.apply t) = getAt (crowdPath k) t :=
  getAt_apply_below (p := ["Crowd"]) (q := q) hw hk t

theorem Seen.other {l : String} (h : Seen k ps t) (hw : w.path = crowdPath l ++ q) (hk : k ≠ l) :
    Seen k ps (w.apply t) := by
  intro node hnode
  rw [getAt_crowd_other hw hk] at hnode
  exact h node hnode

/-- A write to a crowd that gives it a position changes no other crowd. -/
theorem grows_write (hw : w.path = crowdPath k ++ q) (ht : Settled (crowds t))
    (hk : (getAt (crowdPath k) t).isSome)
    (hnode : Positioned ((getAt (crowdPath k) (w.apply t)).getD (.obj .empty))) :
    Grows (crowds t) (crowds (w.apply t)) := by
  have hthere := getAt_apply_isSome hw hk
  rw [getAt_crowdPath] at hk hthere hnode
  have hother (l : String) (hl : l ≠ k) : (crowds (w.apply t)).get l = (crowds t).get l := by
    rw [← getAt_crowdPath, ← getAt_crowdPath, getAt_crowd_other hw hl]
  constructor
  · intro l hl
    rw [← Record.get_isSome_iff] at hl ⊢
    by_cases hlk : l = k
    · rw [hlk]
      exact hthere
    · rw [hother l hlk]
      exact hl
  · intro l hl
    by_cases hlk : l = k
    · subst hlk
      exact ⟨(ht l ((Record.get_isSome_iff _ _).1 hk)).1, hnode⟩
    · rw [hother l hlk]
      apply ht l
      rw [← Record.get_isSome_iff, hother l hlk] at hl
      exact (Record.get_isSome_iff _ _).1 hl

namespace CrowdMap

/-- A page that does not listen yet shows nothing. -/
structure Waiting (s : CrowdMap) : Prop extends Mirrored s where
  silent : ¬s.listens
  idle : s.inFlight = []
  blank : s.view = .obj .empty

/-- A page that listens has every crowd at a position, and each guide's crowd at one that has been
its last. -/
structure Live (key : ι → String) (past : ι → List (Rat × Rat)) (s : CrowdMap) : Prop
    extends Placing s where
  listening : s.listens
  loaded : s.map.isSome
  seen : ∀ i, Throughout (Seen (key i) (past i)) s.view s.inFlight

variable {degrees : Number → Number → Number} {s s' : CrowdMap} {key : ι → String}
  {past : ι → List (Rat × Rat)}

theorem Waiting.markers (h : s.Waiting) : s.markers = [] := by
  rw [List.eq_nil_iff_forall_not_mem]
  intro m hm
  have hid := (h.toMirrored.ids m.props.campaign_id).1 (List.mem_map_of_mem hm)
  rw [h.blank] at hid
  cases hid.1

theorem Waiting.placing (h : s.Waiting) (hdatabase : Settled (crowds s.database)) : s.Placing := by
  have hsettled : Settled (crowds s.view) := by
    rw [h.blank]
    exact fun k hk => absurd hk List.not_mem_nil
  apply Placing.mk h.toMirrored (fun _ => ⟨h.idle, h.blank⟩) hdatabase hsettled
  · rw [h.idle]
    trivial
  · rw [h.markers]
    exact fun m hm => absurd hm List.not_mem_nil

theorem Waiting.step (h : s.Waiting) (hs : s.step degrees e = some s') (he : e.2 ≠ .listen) :
    s'.Waiting := by
  have hmirrored := h.toMirrored.step hs
  obtain ⟨t, e⟩ := e
  rw [CrowdMap.step] at hs
  split at hs
  · cases hs
  · cases e with
    | change c =>
      cases hs
      exact ⟨hmirrored, h.silent, (if_neg h.silent).trans h.idle, h.blank⟩
    | load =>
      obtain ⟨-, hs⟩ := Option.ite_none_left_eq_some.1 hs
      cases hs
      exact ⟨hmirrored, h.silent, h.idle, h.blank⟩
    | listen => exact absurd rfl he
    | deliver =>
      have hidle : (s.atTime t).inFlight = [] := h.idle
      simp only [CrowdMap.deliver, hidle] at hs
      cases hs
    | app e =>
      cases hs
      cases ha : (s.atTime t).app.handle e with
      | none =>
        rw [ha] at hmirrored
        exact ⟨hmirrored, h.silent, h.idle, h.blank⟩
      | some a =>
        rw [ha] at hmirrored
        exact ⟨hmirrored, h.silent, h.idle, h.blank⟩
    | interval i n =>
      obtain ⟨c, -, hs⟩ := Option.bind_eq_some_iff.1 hs
      obtain ⟨c', -, rfl⟩ := Option.map_eq_some_iff.1 hs
      exact ⟨hmirrored, h.silent, h.idle, h.blank⟩

theorem Waiting.writes (h : s.Waiting) {ws : List Write} (hws : ∀ w ∈ ws, w.Kept)
    (hr : run (CrowdMap.step degrees) s (ws.map fun w => (n, .change (.write w))) = some s') :
    s'.Waiting ∧ s'.database = ws.foldl (fun t w => w.apply t) s.database := by
  induction ws generalizing s with
  | nil =>
    cases hr
    exact ⟨h, rfl⟩
  | cons w ws ih =>
    obtain ⟨hw, hws⟩ := List.forall_mem_cons.1 hws
    obtain ⟨u, hu, hr⟩ := Option.bind_eq_some_iff.1 hr
    obtain ⟨hwaiting, hdatabase⟩ := ih (h.step hu (fun he => by cases he)) hws hr
    have hu : u.database = w.store s.database := (step_change hu).1
    rw [hu, w.store_eq hw] at hdatabase
    exact ⟨hwaiting, hdatabase⟩

theorem Live.mono (h : s.Live key past) {past' : ι → List (Rat × Rat)}
    (hr : ∀ i, past i <+: past' i) : s.Live key past' :=
  ⟨h.toPlacing, h.listening, h.loaded, fun i => (h.seen i).mono fun _ ht => ht.mono (hr i)⟩

/-- A guide's write leaves its crowd at one of its positions. -/
theorem Live.write {j : ι} (h : s.Live key past) (hw : w.path = crowdPath (key j) ++ q)
    (hkept : w.Kept)
    (hthere : (getAt (crowdPath (key j)) s.database).isSome)
    (hat : StandsAt (key j) qs (w.apply s.database)) (hqs : qs <+: past j) (hne : qs ≠ [])
    (hlat : ∀ p ∈ past j, p.1 ≠ 0) (hapart : ∀ i, i ≠ j → key i ≠ key j)
    (hs : s.step degrees (n, .change (.write w)) = some s') : s'.Live key past := by
  have hpositioned := hat.node.positioned hne fun p hp => hlat p (hqs.subset hp)
  obtain ⟨-, hlistens, hview, hinFlight, hloaded⟩ := step_change hs
  constructor
  · apply h.toPlacing.step hs
    show Grows _ (crowds (w.store s.database))
    rw [w.store_eq hkept]
    exact grows_write hw h.database hthere hpositioned
  · rw [hlistens]
    exact h.listening
  · rw [hloaded]
    exact h.loaded
  · intro i
    rw [hview, hinFlight, if_pos h.listening]
    apply throughout_append (h.seen i)
    have hlast := (h.seen i).last
    rw [h.lag h.listening] at hlast ⊢
    show Seen _ _ (w.store s.database)
    rw [w.store_eq hkept]
    by_cases hi : i = j
    · subst hi
      exact hat.seen.mono hqs
    · exact hlast.other hw (hapart i hi)

theorem Live.writes {j : ι} (h : s.Live key past) (htraces : Traces (key j) ps t ws qs)
    (ht : s.database = t) (hqs : qs <+: past j) (hne : ps ≠ [])
    (hlat : ∀ p ∈ past j, p.1 ≠ 0) (hapart : ∀ i, i ≠ j → key i ≠ key j)
    (hr : run (CrowdMap.step degrees) s (ws.map fun w => (n, .change (.write w))) = some s') :
    s'.Live key past ∧ s'.database = ws.foldl (fun t w => w.apply t) t := by
  induction htraces generalizing s with
  | done =>
    cases hr
    exact ⟨h, ht⟩
  | write rs hat hw hkept hws ih =>
    obtain ⟨u, hu, hr⟩ := Option.bind_eq_some_iff.1 hr
    subst ht
    have hne' := List.append_ne_nil_of_left_ne_nil hne rs
    have hlive := h.write hw hkept hat.there hws.start (hws.extends.trans hqs) hne' hlat hapart hu
    exact ih hlive ((step_change hu).1.trans (Write.store_eq hkept _)) hqs hne' hr

theorem Live.step (h : s.Live key past) (hs : s.step degrees e = some s')
    (he : ∀ c, e.2 ≠ .change c) : s'.Live key past := by
  have hplacing := h.toPlacing.step hs
  have hloaded (n : Nat) : (s.atTime n).map.isSome := (atTime_loaded s n).trans h.loaded
  obtain ⟨t, e⟩ := e
  rw [CrowdMap.step] at hs
  split at hs
  · cases hs
  · cases e with
    | change c => exact absurd rfl (he c)
    | load =>
      obtain ⟨hm, -⟩ := Option.ite_none_left_eq_some.1 hs
      exact absurd (hloaded t) hm
    | listen =>
      obtain ⟨hl, -⟩ := Option.ite_none_left_eq_some.1 hs
      exact absurd (.inr h.listening) hl
    | deliver =>
      simp only [CrowdMap.deliver] at hs
      split at hs
      · rename_i m ms c hms hc
        obtain ⟨c', -, rfl⟩ := Option.map_eq_some_iff.1 hs
        apply Live.mk (hplacing trivial) h.listening rfl
        intro i
        have hseen := h.seen i
        rw [show s.inFlight = m :: ms from hms] at hseen
        exact hseen.2
      · cases hs
    | app e =>
      cases hs
      cases ha : (s.atTime t).app.handle e with
      | none =>
        rw [ha] at hplacing
        exact ⟨hplacing trivial, h.listening, hloaded t, h.seen⟩
      | some a =>
        rw [ha] at hplacing
        apply Live.mk (hplacing trivial) h.listening ?_ h.seen
        obtain ⟨c, hc⟩ := Option.isSome_iff_exists.1 (hloaded t)
        rw [Option.elim_some, CrowdMap.setApp, hc]
        rfl
    | interval i n =>
      obtain ⟨c, -, hs⟩ := Option.bind_eq_some_iff.1 hs
      obtain ⟨c', -, rfl⟩ := Option.map_eq_some_iff.1 hs
      exact ⟨hplacing trivial, h.listening, rfl, h.seen⟩

/-- A page starts to listen to crowds that all have a position. -/
theorem Waiting.listen (h : s.Waiting) (hdatabase : Settled (crowds s.database))
    (hat : ∀ i, StandsAt (key i) (past i) s.database)
    (hs : s.step degrees (n, .listen) = some s') : s'.Live key past := by
  have hplacing := (h.placing hdatabase).step hs trivial
  rw [CrowdMap.step] at hs
  split at hs
  · cases hs
  · obtain ⟨hm, hs⟩ := Option.ite_none_left_eq_some.1 hs
    cases hs
    apply Live.mk hplacing rfl
    · cases hc : (s.atTime n).map with
      | none => exact absurd (.inl (by rw [hc]; rfl)) hm
      | some c => rfl
    · intro i
      constructor
      · intro node hnode
        rw [getAt_crowdPath, show (s.atTime n).view = .obj .empty from h.blank] at hnode
        cases hnode
      · exact (hat i).seen

/-- A drawn marker is where its crowd's node stands on the page. -/
theorem drawn_at (h : s.Placing) (hm : m ∈ s.markers)
    (hid : m.props.campaign_id = k) (hnode : getAt (crowdPath k) s.view = some node)
    (hstands : Stands ps node) (hp : ps.getLast? = some p) (hv : m.view = some v) :
    (some v.lat, v.lng) = coordinates (some (position p.1 p.2)) := by
  have hdrawn := h.drawn hm hv
  rw [hid, ← getAt_crowdPath, hnode, Option.bind_some, hstands.coordinates hp] at hdrawn
  exact hdrawn

theorem Live.reported {i : ι} (h : s.Live key past) (hm : m ∈ s.markers)
    (hid : m.props.campaign_id = key i) (hv : m.view = some v) :
    ∃ p ∈ past i, (some v.lat, v.lng) = coordinates (some (position p.1 p.2)) := by
  have hthere := ((h.toMirrored.ids (key i)).1 (hid ▸ List.mem_map_of_mem hm)).1
  obtain ⟨node, hnode⟩ := Option.isSome_iff_exists.1 hthere
  have hpositioned := h.view.positioned hnode
  rw [← getAt_crowdPath] at hnode
  obtain ⟨qs, hqs, hstands⟩ := (h.seen i).first node hnode
  obtain ⟨p, hp⟩ := Option.isSome_iff_exists.1
    (List.getLast?_isSome.2 (hstands.ne_nil hpositioned))
  exact ⟨p, hqs.subset (List.mem_of_getLast? hp),
    drawn_at h.toPlacing hm hid hnode hstands hp hv⟩

theorem Live.current {i : ι} (h : s.Live key past) (hf : s.inFlight = [])
    (hat : StandsAt (key i) ps s.database) :
    ∃ m ∈ s.markers, m.props.campaign_id = key i ∧ (m.view.isSome ↔ ¬m.Hidden) ∧
      ∃ p, ps.getLast? = some p ∧
        ∀ v, m.view = some v → (some v.lat, v.lng) = coordinates (some (position p.1 p.2)) := by
  have hview : s.view = s.database := by
    rw [← h.lag h.listening, hf]
    rfl
  obtain ⟨node, hnode⟩ := Option.isSome_iff_exists.1 hat.there
  have hstands := hat.node
  rw [hnode, Option.getD_some] at hstands
  rw [← hview] at hnode
  have hmem : key i ∈ MyMarkerClusterer.campaignIds s.markers := by
    rw [h.toMirrored.ids, ← getAt_crowdPath, hnode]
    exact ⟨rfl, (h.view.ordinary (getAt_crowdPath (key i) s.view ▸ hnode)).2⟩
  obtain ⟨m, hm, hid⟩ := List.mem_map.1 hmem
  have hpositioned := h.view.positioned (getAt_crowdPath (key i) s.view ▸ hnode)
  obtain ⟨p, hp⟩ := Option.isSome_iff_exists.1
    (List.getLast?_isSome.2 (hstands.ne_nil hpositioned))
  exact ⟨m, hm, hid, h.toPlacing.shown hm, p, hp,
    fun v hv => drawn_at h.toPlacing hm hid hnode hstands hp hv⟩

end CrowdMap

namespace Deployment

variable [DecidableEq ι] {distance : CLLocation → CLLocation → Rat}
  {degrees : Number → Number → Number} {s s' : Deployment ι}
  {hist : List (Nat × DeployedEvent ι)}

/-- A guide's marker is drawn at positions alone that the guide has reported. Once nothing is in
flight, every guide has its one marker, which is at the last one unless it is hidden. -/
structure Displays (s : Deployment ι × List (Nat × DeployedEvent ι)) : Prop where
  unique : (MyMarkerClusterer.campaignIds s.1.page.markers).Nodup
  reported : ∀ i, ∀ m ∈ s.1.page.markers, m.props.campaign_id = (s.1.platform.guides i).key →
    ∀ v, m.view = some v → ∃ p ∈ reported i s.2,
      (some v.lat, v.lng) = coordinates (some (position p.1 p.2))
  current : s.1.page.listens → s.1.page.inFlight = [] → ∀ i, ∃ m ∈ s.1.page.markers,
    m.props.campaign_id = (s.1.platform.guides i).key ∧ (m.view.isSome ↔ ¬m.Hidden) ∧
      ∃ p, (Deployment.reported i s.2).getLast? = some p ∧
        ∀ v, m.view = some v → (some v.lat, v.lng) = coordinates (some (position p.1 p.2))

structure Deployed (s : Deployment ι × List (Nat × DeployedEvent ι)) : Prop where
  database : s.1.page.database = s.1.platform.database
  sited : ∀ i, (s.1.platform.guides i).Sited (reported i s.2)
  north : ∀ i, ∀ p ∈ reported i s.2, p.1 ≠ 0
  page : s.1.page.Waiting ∨
    s.1.page.Live (fun i => (s.1.platform.guides i).key) fun i => reported i s.2

theorem reported_guide (i j : ι) (f : GuideEvent) :
    reported i (hist ++ [(n, .guide j f)]) =
      reported i hist ++ if j = i then f.fixes else [] := by
  rw [reported, List.flatMap_append, List.flatMap_singleton]
  rfl

theorem reported_page (i : ι) (f : PageEvent) :
    reported i (hist ++ [(n, .page f)]) = reported i hist := by
  rw [reported, List.flatMap_append, List.flatMap_singleton, List.append_nil]
  rfl

theorem Deployed.displays {s : Deployment ι × List (Nat × DeployedEvent ι)} (h : Deployed s) :
    Displays s := by
  rcases h.page with hpage | hpage
  · have hms := hpage.markers
    constructor
    · rw [hms]
      exact List.nodup_nil
    · intro i m hm
      rw [hms] at hm
      cases hm
    · exact fun hl => absurd hl hpage.silent
  · constructor
    · exact hpage.toMirrored.unique
    · intro i m hm hid v hv
      exact hpage.reported hm hid hv
    · intro hl hf i
      apply hpage.current hf
      rw [h.database, ← s.1.platform.shared i]
      exact (h.sited i).node

theorem step_database {platform : Platform ι} {i : ι} {f : GuideEvent}
    (hs : s.platform.step distance degrees (i, f) = some platform) :
    ∃ g, GuideApp.Acted distance degrees (s.platform.guides i) f g
        (writes distance degrees (s.platform.guides i) f) ∧
      platform.database = (writes distance degrees (s.platform.guides i) f).foldl
        (fun t w => w.apply t) s.platform.database ∧
      ∀ j, (platform.guides j).key = (s.platform.guides j).key := by
  obtain ⟨g, ws, hact, hguides⟩ := Platform.step_act hs
  have hwrites : writes distance degrees (s.platform.guides i) f = ws := by
    rw [writes, hact]
    rfl
  have hacted := GuideApp.act_acted hact
  obtain ⟨-, hdatabase⟩ := hacted.frame
  rw [hwrites]
  refine ⟨g, hacted, ?_, fun j => ?_⟩
  · rw [← platform.shared i, hguides, GuideApp.foldl_publish_database, Function.update_self,
      hdatabase, s.platform.shared]
  · by_cases hj : j = i
    · subst hj
      exact GuideApp.step_key (Platform.step_own hs)
    · exact (Platform.step_other hs hj).key

theorem Deployed.guide {i : ι} {f : GuideEvent} (h : Deployed (s, hist))
    (hs : s.step distance degrees (n, .guide i f) = some s') (hC : ∀ p ∈ f.fixes, p.1 ≠ 0) :
    Deployed (s', hist ++ [(n, .guide i f)]) := by
  obtain ⟨platform, hp, hs⟩ := Option.bind_eq_some_iff.1 hs
  obtain ⟨page, hpage, rfl⟩ := Option.map_eq_some_iff.1 hs
  obtain ⟨g, hacted, hdatabase, hkeys⟩ := step_database hp
  have hnorth : ∀ j, ∀ p ∈ reported j (hist ++ [(n, .guide i f)]), p.1 ≠ 0 := by
    intro j p hmem
    rw [reported_guide] at hmem
    rcases List.mem_append.1 hmem with hmem | hmem
    · exact h.north j p hmem
    · split at hmem
      · exact hC p hmem
      · cases hmem
  have hsited : ∀ j, (platform.guides j).Sited (reported j (hist ++ [(n, .guide i f)])) := by
    intro j
    rw [reported_guide]
    by_cases hj : i = j
    · subst hj
      rw [if_pos rfl]
      exact (h.sited i).step (Platform.step_own hp)
    · rw [if_neg hj, List.append_nil]
      exact (h.sited j).alike (Platform.step_other hp (Ne.symm hj))
  have hgrows : ∀ j, reported j hist <+: reported j (hist ++ [(n, .guide i f)]) := by
    intro j
    rw [reported_guide]
    exact List.prefix_append _ _
  obtain ⟨htraces, -⟩ := (h.sited i).traces hacted
  rw [s.platform.shared i, ← h.database] at htraces
  rcases h.page with hw | hl
  · obtain ⟨hw, hpd⟩ := hw.writes htraces.written hpage
    refine ⟨?_, hsited, hnorth, .inl hw⟩
    rw [hpd, hdatabase, h.database]
  · have hat := htraces.start
    have hne : reported i hist ≠ [] := by
      apply hat.node.ne_nil
      obtain ⟨node, hnode⟩ := Option.isSome_iff_exists.1 hat.there
      rw [hnode, Option.getD_some]
      exact hl.database.positioned (getAt_crowdPath _ _ ▸ hnode)
    have hown : reported i hist ++ f.fixes = reported i (hist ++ [(n, .guide i f)]) := by
      rw [reported_guide, if_pos rfl]
    obtain ⟨hl, hpd⟩ := (hl.mono hgrows).writes htraces rfl
      ⟨[], (List.append_nil _).trans hown⟩ hne (hnorth i) (fun j hj => s.platform.apart j i hj)
      hpage
    refine ⟨?_, hsited, hnorth, .inr ?_⟩
    · rw [hpd, hdatabase, h.database]
    · simp only [hkeys]
      exact hl

theorem mapEvent_ne_change (f : PageEvent) (c : Change) : f.mapEvent ≠ .change c := by
  cases f <;> exact fun h => by cases h

theorem Deployed.page_step {f : PageEvent} (h : Deployed (s, hist))
    (hs : s.step distance degrees (n, .page f) = some s') (hC : Allowed s (n, .page f)) :
    Deployed (s', hist ++ [(n, .page f)]) := by
  obtain ⟨page, hpage, rfl⟩ := Option.map_eq_some_iff.1 hs
  have hdatabase := CrowdMap.step_database hpage (mapEvent_ne_change f)
  constructor
  · exact hdatabase.trans h.database
  · intro i
    rw [reported_page]
    exact h.sited i
  · intro i
    rw [reported_page]
    exact h.north i
  · simp only [reported_page]
    rcases h.page with hw | hl
    · by_cases hf : f = .listen
      · subst hf
        right
        apply hw.listen ?_ ?_ hpage
        · rw [h.database]
          exact hC
        · intro i
          rw [h.database, ← s.platform.shared i]
          exact (h.sited i).node
      · left
        apply hw.step hpage
        intro he
        cases f with
        | listen => exact hf rfl
        | _ => cases he
    · right
      exact hl.step hpage (mapEvent_ne_change f)

theorem Deployed.step {s s' : Deployment ι × List (Nat × DeployedEvent ι)} (h : Deployed s)
    (hs : withHistory (step distance degrees) s e = some s') (hC : Allowed s.1 e) :
    Deployed s' := by
  obtain ⟨s, hist⟩ := s
  obtain ⟨s', hist'⟩ := s'
  obtain ⟨n, e⟩ := e
  obtain ⟨hs, rfl⟩ := withHistory_some hs
  cases e with
  | guide i f => exact h.guide hs hC
  | page f => exact h.page_step hs hC

theorem deployed_initial {platform : Platform ι} (hregistered : ∀ i, (platform.guides i).Registered)
    (hkey : ∀ i, (platform.guides i).key ≠ "") (t : Nat) :
    Deployed (initial platform t, []) := by
  constructor
  · rfl
  · exact fun i => (hregistered i).sited (hkey i)
  · exact fun i p hp => absurd hp List.not_mem_nil
  · left
    exact ⟨CrowdMap.mirrored_initial _ t, Bool.false_ne_true, rfl, rfl⟩

/-- Whatever registered guides do and whenever the page loads, listens, receives and is clicked. -/
theorem last_reported {platform : Platform ι} {t : Nat} {es : List (Nat × DeployedEvent ι)}
    (hregistered : ∀ i, (platform.guides i).Registered)
    (hkey : ∀ i, (platform.guides i).key ≠ "")
    (h : Along (withHistory (step distance degrees)) (fun s e => Allowed s.1 e)
      (initial platform t, []) es) :
    Always (withHistory (step distance degrees)) Displays (initial platform t, []) es :=
  Always.of_invariant Deployed (fun _ h => h.displays) (fun _ _ _ h hs hC => h.step hs hC)
    (deployed_initial hregistered hkey t) h

/-- Both guides report, the page listens, and the client goes on while the box of the stopped
crowds is unticked. -/
def opening : List (Nat × DeployedEvent Bool) :=
  [(0, .guide true (.ios (.client (.didUpdateLocations [(⟨21, 39⟩, 1)])))),
    (0, .guide false (.android (.client .buttonStart))),
    (1, .guide false (.android (.client (.onLocationChanged ⟨0, 0⟩ 21 40)))),
    (2, .page .load), (3, .page .listen),
    (4, .guide true (.ios (.client (.didUpdateLocations [(⟨22, 39⟩, 4), (⟨23, 39⟩, 4)])))),
    (5, .page .deliver), (6, .page (.app (.handleShowInActive false))), (6, .page .deliver),
    (7, .page .deliver)]

/-- With nothing in flight, both markers are drawn where their guides were last. -/
theorem last_reported_opening :
    Always (withHistory (step (fun _ _ => 0) fun _ _ => .nan)) Displays
        (initial Platform.pair 0, []) opening ∧
      (run (step (fun _ _ => 0) fun _ _ => .nan) (initial Platform.pair 0) opening).map
          (fun s => s.page.inFlight.length) = some 0 ∧
      (run (step (fun _ _ => 0) fun _ _ => .nan) (initial Platform.pair 0) opening).map
          (fun s => s.page.markers.map fun m =>
            (m.props.campaign_id, m.view.map fun v => (v.lat, v.lng))) =
        some [("A00", some (.num (.finite 21), some (.num (.finite 40)))),
          ("k", some (.num (.finite 23), some (.num (.finite 39))))] :=
  ⟨last_reported Platform.pair_registered (by decide +kernel) (by decide +kernel),
    by decide +kernel, by decide +kernel⟩

/-- What is in flight to a page that listens arrives, message by message. -/
theorem drains {key : ι → String} {past : ι → List (Rat × Rat)} {n : Nat} (s : Deployment ι)
    (h : s.page.Live key past) (hn : s.page.inFlight.length = n) :
    ∃ s', run (step distance degrees) s (List.replicate n (s.page.clock, .page .deliver)) =
        some s' ∧ s'.platform = s.platform ∧ s'.page.database = s.page.database ∧
      s'.page.inFlight = [] ∧ s'.page.Live key past := by
  induction n generalizing s with
  | zero =>
    exact ⟨s, rfl, rfl, rfl, List.length_eq_zero_iff.1 hn, h⟩
  | succ n ih =>
    obtain ⟨m, ms, hms⟩ := List.exists_cons_of_length_eq_add_one hn
    obtain ⟨page, hpage, hrest, hclock, -⟩ := CrowdMap.arrives h.loaded hms degrees
    rw [hms, List.length_cons, Nat.add_right_cancel_iff, ← hrest] at hn
    have hne : ∀ c, (s.page.clock, MapEvent.deliver).2 ≠ .change c := fun c hc => by cases hc
    have hdatabase := CrowdMap.step_database hpage hne
    obtain ⟨s', hr, hplatform, hdatabase', hempty, hlive⟩ := ih { s with page := page }
      (h.step hpage hne) hn
    refine ⟨s', ?_, hplatform, hdatabase'.trans hdatabase, hempty, hlive⟩
    rw [List.replicate_succ, run_cons]
    have hs : s.step distance degrees (s.page.clock, .page .deliver) =
        some { s with page := page } := by
      rw [step]
      exact congrArg (Option.map _) hpage
    rw [hs, ← hclock]
    exact hr

/-- From every state of such a run in which the page listens, what is in flight arrives without any
further event, and then every guide has its marker, at its last position. -/
theorem catches_up {platform : Platform ι} {t : Nat} {es : List (Nat × DeployedEvent ι)}
    (hregistered : ∀ i, (platform.guides i).Registered)
    (hkey : ∀ i, (platform.guides i).key ≠ "")
    (h : Along (withHistory (step distance degrees)) (fun s e => Allowed s.1 e)
      (initial platform t, []) es)
    (hr : run (step distance degrees) (initial platform t) es = some s)
    (hl : s.page.listens) (i : ι) :
    ∃ s', run (step distance degrees) s
        (List.replicate s.page.inFlight.length (s.page.clock, .page .deliver)) = some s' ∧
      s'.platform = s.platform ∧ ∃ m ∈ s'.page.markers,
        m.props.campaign_id = (s.platform.guides i).key ∧ (m.view.isSome ↔ ¬m.Hidden) ∧
          ∃ p, (reported i es).getLast? = some p ∧
            ∀ v, m.view = some v → (some v.lat, v.lng) = coordinates (some (position p.1 p.2)) := by
  have hdeployed : Always (withHistory (step distance degrees)) Deployed
      (initial platform t, []) es :=
    Always.of_invariant Deployed (fun _ h => h) (fun _ _ _ h hs hC => h.step hs hC)
      (deployed_initial hregistered hkey t) h
  have hs := hdeployed.last (run_withHistory hr []) (List.prefix_refl es)
  rw [List.nil_append] at hs
  have hlive := hs.page.resolve_left fun hw => hw.silent hl
  obtain ⟨s', hr', hplatform, hdatabase, hempty, hlive'⟩ := drains s hlive rfl
  refine ⟨s', hr', hplatform, hlive'.current hempty ?_⟩
  rw [hdatabase, hs.database, ← s.platform.shared i]
  exact (hs.sited i).node

/-- The client has reported three times before anything has arrived. -/
theorem catches_up_opening :
    ∃ s s', run (step (fun _ _ => 0) fun _ _ => .nan) (initial Platform.pair 0) (opening.take 6) =
        some s ∧
      run (step (fun _ _ => 0) fun _ _ => .nan) s
        (List.replicate s.page.inFlight.length (s.page.clock, .page .deliver)) = some s' ∧
      ∃ m ∈ s'.page.markers, m.props.campaign_id = (s.platform.guides true).key ∧
        ∃ p, (reported true (opening.take 6)).getLast? = some p ∧ ∀ v, m.view = some v →
          (some v.lat, v.lng) = coordinates (some (position p.1 p.2)) := by
  have hrun : ((run (step (fun _ _ => 0) fun _ _ => .nan) (initial Platform.pair 0)
      (opening.take 6)).map fun s => s.page.listens) = some true := by decide +kernel
  obtain ⟨s, hs, hl⟩ := Option.map_eq_some_iff.1 hrun
  obtain ⟨s', hs', -, m, hm, hid, -, hlast⟩ := catches_up Platform.pair_registered
    (by decide +kernel) (by decide +kernel) hs hl true
  exact ⟨s, s', hs, hs', m, hm, hid, hlast⟩

end Deployment

end CrowdTracking
