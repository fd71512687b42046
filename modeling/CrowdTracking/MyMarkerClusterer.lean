import CrowdTracking.MyMarker
import CrowdTracking.Runs

namespace CrowdTracking
set_option autoImplicit true
open Script Runs

/-- The clusterer: `crowds` is its React state, the filters are its props and `markers` are the
mounted marker instances, which React identifies by their position. -/
structure MyMarkerClusterer where
  showActive : Bool
  showInActive : Bool
  showLost : Bool
  crowds : Record (Record Json)
  markers : List MyMarker
  clock : Nat
deriving DecidableEq

inductive CrowdEvent where
  | childAdded (key : String) (crowd : Record Json)
  | childRemoved (key : String)
  | childChanged (key : String) (value : Json)
  | filters (showActive showInActive showLost : Bool)
deriving DecidableEq

def CrowdEvent.crowdKey : CrowdEvent → Option String
  | .childAdded k _ => some k
  | .childRemoved k => some k
  | .childChanged k _ => some k
  | .filters .. => none

def CrowdEvent.addedKey : CrowdEvent → Option String
  | .childAdded k _ => some k
  | _ => none

namespace MyMarkerClusterer

/-- `Object.keys(this.state.crowds)` -/
def keys (c : MyMarkerClusterer) : List String := ownKeys c.crowds.keys

/-- The marker elements; an element's React key is its index. -/
def elements (c : MyMarkerClusterer) : List Props :=
  c.keys.mapIdx fun i key =>
    ⟨key, i, (c.crowds.get key).getD .empty, c.showActive, c.showInActive, c.showLost⟩

/-- React keeps the instance at a position and hands it the new props, mounts the elements beyond
the last instance and unmounts the instances beyond the last element. -/
def reconcile (clock : Nat) : List MyMarker → List Props → List MyMarker
  | m :: ms, p :: ps => m.newProps p :: reconcile clock ms ps
  | [], p :: ps => .mount p clock :: reconcile clock [] ps
  | _, [] => []

/-- Without crowds a single `div` is rendered in place of the markers. -/
def render (c : MyMarkerClusterer) : MyMarkerClusterer :=
  if c.keys.length = 0 then { c with markers := [] }
  else { c with markers := reconcile c.clock c.markers c.elements }

def childAdded (c : MyMarkerClusterer) (key : String) (crowd : Record Json) : MyMarkerClusterer :=
  { c with crowds := assign c.crowds key crowd }.render

def childRemoved (c : MyMarkerClusterer) (key : String) : MyMarkerClusterer :=
  { c with crowds := c.crowds.erase key }.render

/-- A `child_changed` on one node reaches the markers subscribed to it. -/
def childChanged (degrees : Number → Number → Number) (c : MyMarkerClusterer) (key : String)
    (value : Json) : MyMarkerClusterer :=
  { c with markers := c.markers.map fun m =>
      if m.subscription = some key then m.deliver degrees value else m }

def step (degrees : Number → Number → Number) (c : MyMarkerClusterer) :
    CrowdEvent → Option MyMarkerClusterer
  | .childAdded k v => some (c.childAdded k v)
  | .childRemoved k => some (c.childRemoved k)
  | .childChanged k v => some (c.childChanged degrees k v)
  | .filters a i l => some { c with showActive := a, showInActive := i, showLost := l }.render

def initial (showActive showInActive showLost : Bool) (clock : Nat) : MyMarkerClusterer :=
  ⟨showActive, showInActive, showLost, .empty, [], clock⟩

def ownEvents (k : String) (hist : List CrowdEvent) : List CrowdEvent :=
  hist.filter fun e => e.crowdKey = some k

/-- What an event about a node does to the crowd shown for it. -/
def nextNode (degrees : Number → Number → Number) (c : Option (Record Json)) :
    CrowdEvent → Option (Record Json)
  | .childAdded _ v => some (c.getD v)
  | .childRemoved _ => none
  | .childChanged _ v => c.map (MyMarker.nextCrowd degrees · v)
  | .filters .. => c

/-- The crowd shown for a node by a list of events about it. -/
def nodeCrowd (degrees : Number → Number → Number) (hist : List CrowdEvent) :
    Option (Record Json) :=
  hist.foldl (nextNode degrees) none

/-- What an event does to the keys of `Crowd`. -/
def nextKeys (ks : List String) : CrowdEvent → List String
  | .childAdded k _ => if k ∈ ks then ks else ks ++ [k]
  | .childRemoved k => ks.filter (· ≠ k)
  | _ => ks

/-- The keys in `Crowd` after a list of events. -/
def crowdKeys (hist : List CrowdEvent) : List String := hist.foldl nextKeys []

/-- Every crowd has one marker, which listens to that crowd and was built from its events alone. -/
structure Identity (degrees : Number → Number → Number)
    (s : MyMarkerClusterer × List CrowdEvent) : Prop where
  unique : ∀ k ∈ crowdKeys s.2, (s.1.markers.filter fun m => m.props.campaign_id = k).length = 1
  own : ∀ m ∈ s.1.markers, m.subscription = some m.props.campaign_id ∧
    nodeCrowd degrees (ownEvents m.props.campaign_id s.2) = some m.crowd
  present : ∀ m ∈ s.1.markers, m.props.campaign_id ∈ crowdKeys s.2

instance : Decidable (Identity degrees s) :=
  decidable_of_iff (_ ∧ _ ∧ _) ⟨fun h => ⟨h.1, h.2.1, h.2.2⟩, fun h => ⟨h.1, h.2, h.3⟩⟩

def keysAfter (c : MyMarkerClusterer) : CrowdEvent → List String
  | .childAdded k v => ownKeys (assign c.crowds k v).keys
  | .childRemoved k => ownKeys (c.crowds.erase k).keys
  | _ => c.keys

/-- The crowds keep their positions: one that is added comes last, one that is removed was last. -/
def KeepsPositions (c : MyMarkerClusterer) (e : CrowdEvent) : Prop :=
  c.keys <+: c.keysAfter e ∨ c.keysAfter e <+: c.keys

instance : Decidable (KeepsPositions c e) := inferInstanceAs (Decidable (_ ∨ _))

/-- No crowd changes its position, and none has a name that an object cannot hold as its own. -/
def KeepsMarkers (c : MyMarkerClusterer) (e : CrowdEvent) : Prop :=
  KeepsPositions c e ∧ e.addedKey ≠ some "__proto__"

instance : Decidable (KeepsMarkers c e) := inferInstanceAs (Decidable (_ ∧ _))

/-- A mounted marker that listens to its own crowd and was built from that crowd's events. -/
structure Follows (degrees : Number → Number → Number) (hist : List CrowdEvent) (m : MyMarker) :
    Prop where
  mounted : m.mounted
  subscription : m.subscription = some m.props.campaign_id
  crowd : nodeCrowd degrees (ownEvents m.props.campaign_id hist) = some m.crowd

def campaignIds (ms : List MyMarker) : List String := ms.map fun m => m.props.campaign_id

/-- The markers follow the crowds in key order. -/
structure Tracked (degrees : Number → Number → Number)
    (s : MyMarkerClusterer × List CrowdEvent) : Prop where
  current : s.1.crowds.keys = crowdKeys s.2
  ordinary : "__proto__" ∉ s.1.crowds.keys
  ids : campaignIds s.1.markers = s.1.keys
  follows : ∀ m ∈ s.1.markers, Follows degrees s.2 m
  absent : ∀ k, k ∉ s.1.crowds.keys → nodeCrowd degrees (ownEvents k s.2) = none

variable {degrees : Number → Number → Number} {hist : List CrowdEvent} {c : MyMarkerClusterer}

theorem nodeCrowd_own (e : CrowdEvent) (he : e.crowdKey = some k) :
    nodeCrowd degrees (ownEvents k (hist ++ [e])) =
      nextNode degrees (nodeCrowd degrees (ownEvents k hist)) e := by
  simp only [ownEvents, List.filter_append, List.filter_cons, he, nodeCrowd, decide_true,
    ↓reduceIte, List.filter_nil, List.foldl_append, List.foldl_cons, List.foldl_nil]

theorem nodeCrowd_other (e : CrowdEvent) (he : e.crowdKey ≠ some k) :
    nodeCrowd degrees (ownEvents k (hist ++ [e])) = nodeCrowd degrees (ownEvents k hist) := by
  simp only [ownEvents, List.filter_append, List.filter_cons, he, decide_false,
    Bool.false_eq_true, ↓reduceIte, List.filter_nil, List.append_nil]

theorem crowdKeys_append (hist : List CrowdEvent) (e : CrowdEvent) :
    crowdKeys (hist ++ [e]) = nextKeys (crowdKeys hist) e := by
  rw [crowdKeys, List.foldl_append]
  rfl

theorem nextKeys_put (r : Record (Record Json)) (h : r.keys = ks) (k : String)
    (v : Record Json) : (r.put k v).keys = nextKeys ks (.childAdded k v) := by
  subst h
  by_cases hk : k ∈ r.keys
  · rw [Record.keys_put_of_mem _ _ hk, nextKeys, if_pos hk]
  · rw [Record.keys_put_of_not_mem _ _ hk, nextKeys, if_neg hk]

theorem nextKeys_nodup (h : ks.Nodup) (e : CrowdEvent) : (nextKeys ks e).Nodup := by
  cases e with
  | childAdded k v =>
    rw [nextKeys]
    split
    · exact h
    · rename_i hk
      exact List.nodup_append.2 ⟨h, List.nodup_singleton k, fun a ha b hb => by
        rintro rfl
        exact hk (List.mem_singleton.1 hb ▸ ha)⟩
  | childRemoved k => exact h.filter _
  | childChanged k v => exact h
  | filters a i l => exact h

theorem crowdKeys_nodup (hist : List CrowdEvent) : (crowdKeys hist).Nodup := by
  have hfold (ks : List String) (h : ks.Nodup) : (hist.foldl nextKeys ks).Nodup := by
    induction hist generalizing ks with
    | nil => exact h
    | cons e hist ih => exact ih _ (nextKeys_nodup h e)
  exact hfold [] List.nodup_nil

theorem elements_campaign_id (c : MyMarkerClusterer) :
    c.elements.map Props.campaign_id = c.keys := by
  apply List.ext_getElem <;> simp [elements]

theorem mem_elements (hp : p ∈ c.elements) :
    p.crowd = (c.crowds.get p.campaign_id).getD .empty := by
  obtain ⟨i, hi, rfl⟩ := List.mem_mapIdx.1 hp
  rfl

theorem mem_keys : k ∈ c.keys ↔ k ∈ c.crowds.keys := mem_ownKeys

theorem render_markers (c : MyMarkerClusterer) :
    c.render.markers = reconcile c.clock c.markers c.elements := by
  rw [render]
  split
  · rename_i hk
    have he : c.elements = [] := by
      rw [elements, List.eq_nil_of_length_eq_zero hk, List.mapIdx_nil]
    rw [he]
    cases c.markers <;> rfl
  · rfl

@[simp] theorem render_crowds (c : MyMarkerClusterer) : c.render.crowds = c.crowds := by
  rw [render]
  split <;> rfl

theorem step_keys (h : step degrees c e = some c') : c'.keys = c.keysAfter e := by
  cases e <;> cases h <;> simp only [keys, keysAfter, childAdded, childRemoved, childChanged,
    render_crowds]

theorem reconcile_campaignIds (t : Nat) (ms : List MyMarker) (ps : List Props) :
    campaignIds (reconcile t ms ps) = ps.map Props.campaign_id := by
  induction ps generalizing ms with
  | nil => cases ms <;> rfl
  | cons p ps ih =>
    cases ms with
    | nil =>
      simp only [reconcile, campaignIds, List.map_cons, MyMarker.mount_props]
      exact congrArg _ (ih [])
    | cons m ms =>
      simp only [reconcile, campaignIds, List.map_cons, MyMarker.newProps,
        MyMarker.rerender_props]
      exact congrArg _ (ih ms)

/-- Reconciliation keeps markers on their crowds when no position changes. -/
theorem reconcile_follows {ms : List MyMarker} {ps : List Props}
    (h : ∀ m ∈ ms, Follows degrees hist m)
    (hpos : campaignIds ms <+: ps.map Props.campaign_id ∨
      ps.map Props.campaign_id <+: campaignIds ms)
    (hnodup : (ps.map Props.campaign_id).Nodup)
    (hkept : ∀ p ∈ ps, p.campaign_id ∈ campaignIds ms →
      nodeCrowd degrees (ownEvents p.campaign_id hist') =
        nodeCrowd degrees (ownEvents p.campaign_id hist))
    (hnew : ∀ p ∈ ps, p.campaign_id ∉ campaignIds ms →
      nodeCrowd degrees (ownEvents p.campaign_id hist') = some p.crowd) :
    ∀ m ∈ reconcile t ms ps, Follows degrees hist' m := by
  induction ps generalizing ms with
  | nil => cases ms <;> exact fun _ hm => by cases hm
  | cons p ps ih =>
    obtain ⟨hp, hnodup⟩ := List.nodup_cons.1 hnodup
    cases ms with
    | nil =>
      refine List.forall_mem_cons.2 ⟨⟨by simp, by simp, ?_⟩, ?_⟩
      · rw [MyMarker.mount_props, MyMarker.mount_crowd]
        exact hnew p (List.mem_cons_self ..) List.not_mem_nil
      · exact ih h (.inl List.nil_prefix) hnodup
          (fun q hq => hkept q (List.mem_cons_of_mem p hq))
          (fun q hq => hnew q (List.mem_cons_of_mem p hq))
    | cons m ms =>
      obtain ⟨hm, h⟩ := List.forall_mem_cons.1 h
      simp only [campaignIds, List.map_cons, List.cons_prefix_cons] at hpos
      have hid : m.props.campaign_id = p.campaign_id := hpos.elim And.left fun h => h.1.symm
      have hmem : p.campaign_id ∈ campaignIds (m :: ms) := hid ▸ List.mem_cons_self ..
      refine List.forall_mem_cons.2 ⟨⟨?_, ?_, ?_⟩, ih h (hpos.imp And.right And.right) hnodup
        (fun q hq hk => hkept q (List.mem_cons_of_mem p hq) (List.mem_cons_of_mem _ hk)) ?_⟩
      · rw [MyMarker.newProps, MyMarker.rerender_mounted]
        exact hm.mounted
      · rw [MyMarker.newProps, MyMarker.rerender_subscription, MyMarker.rerender_props]
        exact hid ▸ hm.subscription
      · rw [MyMarker.newProps, MyMarker.rerender_props, MyMarker.rerender_crowd]
        exact (hkept p (List.mem_cons_self ..) hmem).trans (hid ▸ hm.crowd)
      · intro q hq hk
        apply hnew q (List.mem_cons_of_mem p hq)
        intro hk'
        rcases List.mem_cons.1 hk' with he | hk'
        · exact hp (List.mem_map.2 ⟨q, hq, he.trans hid⟩)
        · exact hk hk'

/-- If every marker listens to its own crowd after reconciliation, no position changed. -/
theorem reconcile_positions {ms : List MyMarker} {ps : List Props}
    (h : ∀ m ∈ ms, m.subscription = some m.props.campaign_id)
    (hown : ∀ m ∈ reconcile t ms ps, m.subscription = some m.props.campaign_id) :
    campaignIds ms <+: ps.map Props.campaign_id ∨
      ps.map Props.campaign_id <+: campaignIds ms := by
  induction ps generalizing ms with
  | nil => exact .inr List.nil_prefix
  | cons p ps ih =>
    cases ms with
    | nil => exact .inl List.nil_prefix
    | cons m ms =>
      obtain ⟨hm, h⟩ := List.forall_mem_cons.1 h
      obtain ⟨hm', hown⟩ := List.forall_mem_cons.1 hown
      rw [MyMarker.newProps, MyMarker.rerender_subscription, MyMarker.rerender_props] at hm'
      have hid : m.props.campaign_id = p.campaign_id := Option.some.inj (hm.symm.trans hm')
      simp only [campaignIds, List.map_cons, List.cons_prefix_cons]
      exact (ih h hown).imp (fun h => ⟨hid, h⟩) fun h => ⟨hid.symm, h⟩

theorem Tracked.present (h : Tracked degrees (c, hist)) (hk : k ∈ c.keys) :
    ∃ crowd, nodeCrowd degrees (ownEvents k hist) = some crowd := by
  rw [← h.ids] at hk
  obtain ⟨m, hm, rfl⟩ := List.mem_map.1 hk
  exact ⟨m.crowd, (h.follows m hm).crowd⟩

theorem Tracked.render {c' : MyMarkerClusterer} (h : Tracked degrees (c, hist))
    (hc : c'.markers = c.markers) (hpos : c.keys <+: c'.keys ∨ c'.keys <+: c.keys)
    (hkeys : c'.crowds.keys = crowdKeys hist') (hordinary : "__proto__" ∉ c'.crowds.keys)
    (hkept : ∀ k ∈ c'.keys, k ∈ c.keys →
      nodeCrowd degrees (ownEvents k hist') = nodeCrowd degrees (ownEvents k hist))
    (hnew : ∀ k ∈ c'.keys, k ∉ c.keys →
      nodeCrowd degrees (ownEvents k hist') = some ((c'.crowds.get k).getD .empty))
    (habsent : ∀ k, k ∉ c'.crowds.keys → nodeCrowd degrees (ownEvents k hist') = none) :
    Tracked degrees (c'.render, hist') := by
  have hmem {p : Props} (hp : p ∈ c'.elements) : p.campaign_id ∈ c'.keys := by
    rw [← elements_campaign_id]
    exact List.mem_map_of_mem hp
  refine ⟨by rwa [render_crowds], by rwa [render_crowds], ?_, ?_, by rwa [render_crowds]⟩
  · rw [render_markers, reconcile_campaignIds, elements_campaign_id, keys, keys, render_crowds]
  · rw [render_markers, hc]
    apply reconcile_follows h.follows ?_ ?_ ?_ ?_
    · rwa [elements_campaign_id, h.ids]
    · rw [elements_campaign_id, keys, hkeys]
      exact ownKeys_nodup.2 (crowdKeys_nodup hist')
    · intro p hp hk
      exact hkept _ (hmem hp) (h.ids ▸ hk)
    · intro p hp hk
      rw [mem_elements hp]
      exact hnew _ (hmem hp) (h.ids ▸ hk)

theorem Tracked.childAdded (h : Tracked degrees (c, hist))
    (hpos : KeepsPositions c (.childAdded k v)) (hk : k ≠ "__proto__") :
    Tracked degrees (c.childAdded k v, hist ++ [.childAdded k v]) := by
  have hmem {l : String} := Record.mem_keys_put (k := k) (l := l) c.crowds v
  rw [KeepsPositions, keysAfter, assign_of_ne _ _ hk] at hpos
  rw [MyMarkerClusterer.childAdded, assign_of_ne _ _ hk]
  refine h.render rfl hpos ?_ ?_ (fun l _ hl => ?_) (fun l hl hl' => ?_) (fun l hl => ?_)
  · rw [crowdKeys_append]
    exact nextKeys_put c.crowds h.current k v
  · exact fun hproto => (hmem.1 hproto).elim (fun he => hk he.symm) h.ordinary
  · obtain ⟨crowd, hcrowd⟩ := h.present hl
    by_cases hk : k = l
    · rw [nodeCrowd_own (.childAdded k v) (congrArg some hk), hcrowd]
      rfl
    · exact nodeCrowd_other (.childAdded k v) fun he => hk (Option.some.inj he)
  · rw [mem_keys] at hl hl'
    obtain rfl : l = k := (hmem.1 hl).resolve_right hl'
    rw [nodeCrowd_own (.childAdded l v) rfl, h.absent l hl', Record.get_put_self]
    rfl
  · obtain ⟨hne, hl⟩ := not_or.1 fun h => hl (hmem.2 h)
    rw [nodeCrowd_other (.childAdded k v) fun he => hne (Option.some.inj he).symm]
    exact h.absent l hl

theorem Tracked.childRemoved (h : Tracked degrees (c, hist))
    (hpos : KeepsPositions c (.childRemoved k)) :
    Tracked degrees (c.childRemoved k, hist ++ [.childRemoved k]) := by
  have hkeys {l : String} : l ∈ (c.crowds.erase k).keys ↔ l ∈ c.crowds.keys ∧ l ≠ k := by
    rw [Record.keys_erase, List.mem_filter, decide_eq_true_eq]
  refine h.render rfl hpos ?_ ?_ (fun l hl _ => ?_) (fun l hl hl' => ?_) (fun l hl => ?_)
  · rw [Record.keys_erase, h.current, crowdKeys_append]
    rfl
  · exact fun hproto => h.ordinary (hkeys.1 hproto).1
  · rw [mem_keys] at hl
    exact nodeCrowd_other (.childRemoved k) fun he => (hkeys.1 hl).2 (Option.some.inj he).symm
  · rw [mem_keys] at hl hl'
    exact absurd (hkeys.1 hl).1 hl'
  · by_cases hk : k = l
    · exact nodeCrowd_own (.childRemoved k) (congrArg some hk)
    · rw [nodeCrowd_other (.childRemoved k) fun he => hk (Option.some.inj he)]
      exact h.absent l fun hl' => hl (hkeys.2 ⟨hl', Ne.symm hk⟩)

theorem Tracked.childChanged (h : Tracked degrees (c, hist)) (k : String) (v : Json) :
    Tracked degrees (c.childChanged degrees k v, hist ++ [.childChanged k v]) := by
  have hid (m : MyMarker) : (if m.subscription = some k then m.deliver degrees v else m).props =
      m.props := by
    split
    · exact (MyMarker.deliver_frame m v).1
    · rfl
  refine ⟨?_, h.ordinary, ?_, ?_, ?_⟩
  · rw [crowdKeys_append]
    exact h.current
  · apply Eq.trans ?_ h.ids
    simp only [MyMarkerClusterer.childChanged, campaignIds, List.map_map]
    exact List.map_congr_left fun m _ => congrArg Props.campaign_id (hid m)
  · intro m' hm'
    obtain ⟨m, hm, rfl⟩ := List.mem_map.1 hm'
    have hf := h.follows m hm
    have hframe := @MyMarker.deliver_frame degrees m v
    obtain ⟨-, hsub, hmounted, -⟩ := hframe
    by_cases hk : m.subscription = some k
    · have hk' : some k = some m.props.campaign_id := hk.symm.trans hf.subscription
      refine ⟨?_, ?_, ?_⟩
      · rw [if_pos hk, hmounted]
        exact hf.mounted
      · rw [hid, if_pos hk, hsub]
        exact hf.subscription
      · rw [hid, nodeCrowd_own (.childChanged k v) hk', hf.crowd, if_pos hk,
          MyMarker.deliver_crowd hf.mounted]
        rfl
    · rw [if_neg hk]
      refine ⟨hf.mounted, hf.subscription, ?_⟩
      rw [nodeCrowd_other (.childChanged k v) fun he => hk (hf.subscription.trans he.symm)]
      exact hf.crowd
  · intro l hl
    by_cases hk : k = l
    · rw [nodeCrowd_own (.childChanged k v) (congrArg some hk), h.absent l hl]
      rfl
    · rw [nodeCrowd_other (.childChanged k v) fun he => hk (Option.some.inj he)]
      exact h.absent l hl

theorem Tracked.step (h : Tracked degrees (c, hist)) (hs : step degrees c e = some c')
    (hk : KeepsMarkers c e) : Tracked degrees (c', hist ++ [e]) := by
  cases e with
  | childAdded k v =>
    cases hs
    exact h.childAdded hk.1 fun he => hk.2 (congrArg some he)
  | childRemoved k =>
    cases hs
    exact h.childRemoved hk.1
  | childChanged k v =>
    cases hs
    exact h.childChanged k v
  | filters a i l =>
    cases hs
    have hsame (k : String) : nodeCrowd degrees (ownEvents k (hist ++ [.filters a i l])) =
        nodeCrowd degrees (ownEvents k hist) :=
      nodeCrowd_other (.filters a i l) fun he => by cases he
    refine h.render rfl (.inl (List.prefix_refl _)) ?_ h.ordinary (fun k _ _ => hsame k)
      (fun k hk hk' => absurd hk hk') fun k hk => (hsame k).trans (h.absent k hk)
    rw [crowdKeys_append]
    exact h.current

theorem Tracked.identity (h : Tracked degrees s) : Identity degrees s := by
  refine ⟨fun k hk => ?_, fun m hm => ⟨(h.follows m hm).subscription, (h.follows m hm).crowd⟩,
    fun m hm => ?_⟩
  · have hmem : k ∈ campaignIds s.1.markers := by
      rw [h.ids, mem_keys, h.current]
      exact hk
    have hnodup : (campaignIds s.1.markers).Nodup := by
      rw [h.ids, MyMarkerClusterer.keys, h.current]
      exact ownKeys_nodup.2 (crowdKeys_nodup s.2)
    have hcount := List.count_eq_one_of_mem hnodup hmem
    rw [campaignIds, List.count, List.countP_map, List.countP_eq_length_filter] at hcount
    exact hcount
  · rw [← h.current, ← mem_keys, ← h.ids]
    exact List.mem_map_of_mem hm

theorem Identity.positions (h : Tracked degrees (c, hist)) (hs : step degrees c e = some c')
    (hI : Identity degrees (c', hist ++ [e])) : KeepsPositions c e := by
  have hsub : ∀ m ∈ c.markers, m.subscription = some m.props.campaign_id :=
    fun m hm => (h.follows m hm).subscription
  have hrendered (d : MyMarkerClusterer) (hd : d.markers = c.markers) (hc : c' = d.render) :
      c.keys <+: d.keys ∨ d.keys <+: c.keys := by
    have hown : ∀ m ∈ reconcile d.clock c.markers d.elements,
        m.subscription = some m.props.campaign_id := by
      intro m hm
      apply (hI.own m ?_).1
      rw [hc, render_markers, hd]
      exact hm
    have hpos := reconcile_positions hsub hown
    rwa [elements_campaign_id, h.ids] at hpos
  cases e with
  | childAdded k v =>
    cases hs
    exact hrendered { c with crowds := assign c.crowds k v } rfl rfl
  | childRemoved k =>
    cases hs
    exact hrendered { c with crowds := c.crowds.erase k } rfl rfl
  | childChanged k v => exact .inl (List.prefix_refl _)
  | filters a i l => exact .inl (List.prefix_refl _)

/-- A crowd named `__proto__` would need a marker, and the assignment adds no key for it. -/
theorem Identity.ordinary (h : Tracked degrees (c, hist)) (hs : step degrees c e = some c')
    (hI : Identity degrees (c', hist ++ [e])) : e.addedKey ≠ some "__proto__" := by
  intro he
  cases e with
  | childAdded k v =>
    cases he
    cases hs
    have hnew : "__proto__" ∈ crowdKeys (hist ++ [.childAdded "__proto__" v]) := by
      rw [crowdKeys_append, ← nextKeys_put c.crowds h.current, Record.mem_keys_put]
      exact .inl rfl
    obtain ⟨m, hm⟩ := List.exists_mem_of_length_pos ((hI.unique _ hnew).symm ▸ Nat.one_pos)
    obtain ⟨hm, hid⟩ := List.mem_filter.1 hm
    have hmem : m.props.campaign_id ∈ campaignIds (c.childAdded "__proto__" v).markers :=
      List.mem_map_of_mem hm
    rw [childAdded, render_markers, reconcile_campaignIds, elements_campaign_id, mem_keys,
      of_decide_eq_true hid] at hmem
    exact h.ordinary hmem
  | childRemoved k => cases he
  | childChanged k v => cases he
  | filters a i l => cases he

theorem tracked_initial (a i l : Bool) (t : Nat) : Tracked degrees (initial a i l t, []) :=
  ⟨rfl, List.not_mem_nil, rfl, fun _ hm => absurd hm List.not_mem_nil, fun _ _ => rfl⟩

/-- The markers keep their identity through a run exactly when no crowd changes position in it and
none is named `__proto__`. -/
theorem marker_identity (degrees : Number → Number → Number) (a i l : Bool) (t : Nat)
    (es : List CrowdEvent) :
    Always (withHistory (step degrees)) (Identity degrees) (initial a i l t, []) es ↔
      Along (withHistory (step degrees)) (fun s e => KeepsMarkers s.1 e)
        (initial a i l t, []) es := by
  refine always_iff_along (Tracked degrees) (fun _ h => h.identity) ?_ ?_ (tracked_initial a i l t)
  · rintro ⟨c, hist⟩ e ⟨c', hist'⟩ h hs hpos
    obtain ⟨hs, rfl⟩ := withHistory_some hs
    exact h.step hs hpos
  · rintro ⟨c, hist⟩ e ⟨c', hist'⟩ h hs hI
    obtain ⟨hs, rfl⟩ := withHistory_some hs
    exact ⟨Identity.positions h hs hI, Identity.ordinary h hs hI⟩

/-- Removing the first of two crowds leaves its marker mounted under the name of the second. -/
theorem removed_crowd_shown :
    ¬Always (withHistory (step fun _ _ => .nan)) (Identity fun _ _ => .nan)
      (initial true true true 0, [])
      [.childAdded "a" (crowdValue "Active" 21 39), .childAdded "b" (crowdValue "Active" 22 40),
        .childRemoved "a"] := by
  decide +kernel

end MyMarkerClusterer

end CrowdTracking
