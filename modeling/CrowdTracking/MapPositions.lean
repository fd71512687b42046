import CrowdTracking.CrowdMap
import CrowdTracking.MarkerDraining
import CrowdTracking.MarkerFilters

namespace CrowdTracking
set_option autoImplicit true
open Script Runs Database MyMarker

/-- A crowd with a position whose `lat` is not 0, and no other child that has a `lat`. -/
def Positioned (v : Json) : Prop :=
  truthy ((v.child "location").bind (·.child "lat")) ∧
    ∀ f ∈ v.fields.keys, f ≠ "location" → ¬truthy ((v.child f).bind (·.child "lat"))

instance : DecidablePred Positioned := fun _ => inferInstanceAs (Decidable (_ ∧ _))

/-- A name that comes last among the keys of a script's object when it is added. -/
def Ordinary (k : String) : Prop := arrayIndex k = none ∧ k ≠ "__proto__"

instance : DecidablePred Ordinary := fun _ => inferInstanceAs (Decidable (_ ∧ _))

/-- Every crowd has a position and an ordinary name. -/
def Settled (r : Record Json) : Prop :=
  ∀ k ∈ r.keys, Ordinary k ∧ Positioned ((r.get k).getD (.obj .empty))

instance : DecidablePred Settled := fun r => inferInstanceAs (Decidable (∀ k ∈ r.keys, _))

/-- No crowd goes. -/
def Grows (old new : Record Json) : Prop := (∀ k ∈ old.keys, k ∈ new.keys) ∧ Settled new

instance : Decidable (Grows old new) := inferInstanceAs (Decidable (_ ∧ _))

/-- What a marker does on an event of the database. -/
def MyMarker.hear (degrees : Number → Number → Number) (m : MyMarker) : CrowdEvent → MyMarker
  | .childChanged k v => if m.subscription = some k then m.deliver degrees v else m
  | _ => m

/-- A marker that listens to its own crowd and has its position. -/
structure Placed (r : Record Json) (m : MyMarker) : Prop where
  mounted : m.mounted
  subscription : m.subscription = some m.props.campaign_id
  known : (r.get m.props.campaign_id).isSome
  located : (m.crowd.get "location").isSome
  coordinates : coordinates (m.crowd.get "location") =
    coordinates ((r.get m.props.campaign_id).bind (·.child "location"))

variable {degrees : Number → Number → Number} {m : MyMarker} {old new : Record Json}
  {c c' : MyMarkerClusterer}

theorem mem_changedChildren_of_ne {v w : Json} (hv : v.child k = some a) (hw : w.child k = some b)
    (hne : a ≠ b) : (k, b) ∈ changedChildren v w := by
  rw [changedChildren, List.mem_filterMap]
  refine ⟨k, ?_, ?_⟩
  · rw [List.mem_insertionSort, List.mem_dedup, ← Record.get_isSome_iff]
    exact Option.isSome_of_eq_some hw
  · simp only [hv, hw, if_neg hne]

theorem Positioned.location {v : Json} (h : Positioned v) :
    ∃ l, v.child "location" = some l ∧ truthy (l.child "lat") := by
  cases hl : v.child "location" with
  | none =>
    have hlat := h.1
    rw [hl] at hlat
    cases hlat
  | some l => exact ⟨l, rfl, by simpa [hl] using h.1⟩

theorem Settled.positioned {r : Record Json} (h : Settled r) (hv : r.get k = some v) :
    Positioned v := by
  have hk := h k ((Record.get_isSome_iff r k).1 (Option.isSome_of_eq_some hv))
  rw [hv] at hk
  exact hk.2

theorem Settled.ordinary {r : Record Json} (h : Settled r) (hv : r.get k = some v) : Ordinary k :=
  (h k ((Record.get_isSome_iff r k).1 (Option.isSome_of_eq_some hv))).1

theorem Positioned.other {v w : Json} (h : Positioned v) (hw : v.child f = some w)
    (hf : f ≠ "location") : ¬truthy (w.child "lat") := by
  have hmem : f ∈ v.fields.keys := by
    rw [← Record.get_isSome_iff]
    exact Option.isSome_of_eq_some hw
  simpa [hw] using h.2 f hmem hf

/-- The children of a positioned crowd carry a marker to the crowd's position, unless it is there
already. -/
theorem drain_positioned {w l : Json} (hw : Positioned w) (hl : w.child "location" = some l)
    {cs : List (String × Json)} (hcs : ∀ e ∈ cs, w.child e.1 = some e.2) {r : Record Json}
    (hr : (r.get "location").isSome)
    (h : coordinates (r.get "location") = coordinates (some l) ∨ "location" ∈ cs.map Prod.fst) :
    coordinates ((drain degrees r (cs.map Prod.snd)).get "location") = coordinates (some l) := by
  induction cs generalizing r with
  | nil => exact h.resolve_right List.not_mem_nil
  | cons e cs ih =>
    obtain ⟨he, hcs⟩ := List.forall_mem_cons.1 hcs
    rw [List.map_cons, drain_cons]
    apply ih hcs (nextCrowd_location_isSome hr)
    rw [nextCrowd_location]
    by_cases hf : e.1 = "location"
    · rw [hf, hl] at he
      obtain ⟨l₀, hl₀⟩ := Option.isSome_iff_exists.1 hr
      obtain ⟨l', hl', hlat⟩ := hw.location
      rw [hl, he] at hl'
      rw [Option.some.inj hl', if_pos hlat, hl₀, Option.map_some, coordinates_turned, he, hl']
      exact .inl rfl
    · rw [if_neg (hw.other he hf)]
      exact h.imp id fun h => (List.mem_cons.1 h).resolve_left (Ne.symm hf)

theorem hear_frame (degrees : Number → Number → Number) (m : MyMarker) (e : CrowdEvent) :
    (m.hear degrees e).props = m.props ∧ (m.hear degrees e).subscription = m.subscription ∧
      (m.hear degrees e).mounted = m.mounted := by
  cases e with
  | childChanged k v =>
    rw [hear]
    split
    · obtain ⟨hp, hs, hm, -⟩ := @deliver_frame degrees m v
      exact ⟨hp, hs, hm⟩
    · exact ⟨rfl, rfl, rfl⟩
  | _ => exact ⟨rfl, rfl, rfl⟩

theorem foldl_hear_frame (degrees : Number → Number → Number) (es : List CrowdEvent)
    (m : MyMarker) :
    (es.foldl (hear degrees) m).props = m.props ∧
      (es.foldl (hear degrees) m).subscription = m.subscription ∧
        (es.foldl (hear degrees) m).mounted = m.mounted := by
  induction es generalizing m with
  | nil => exact ⟨rfl, rfl, rfl⟩
  | cons e es ih =>
    obtain ⟨hp, hs, hm⟩ := hear_frame degrees m e
    obtain ⟨hp', hs', hm'⟩ := ih (m.hear degrees e)
    exact ⟨hp'.trans hp, hs'.trans hs, hm'.trans hm⟩

theorem foldl_hear_other {es : List CrowdEvent} (hm : m.subscription = some k)
    (hes : ∀ e ∈ es, e.crowdKey ≠ some k) : es.foldl (hear degrees) m = m := by
  induction es with
  | nil => rfl
  | cons e es ih =>
    obtain ⟨he, hes⟩ := List.forall_mem_cons.1 hes
    have heq : m.hear degrees e = m := by
      cases e with
      | childChanged l v => exact if_neg fun h => he (h.symm.trans hm)
      | _ => rfl
    rw [List.foldl_cons, heq, ih hes]

theorem foldl_hear_own {vs : List Json} (hm : m.mounted) (hk : m.subscription = some k) :
    ((vs.map (.childChanged k)).foldl (hear degrees) m).crowd = drain degrees m.crowd vs := by
  induction vs generalizing m with
  | nil => rfl
  | cons v vs ih =>
    obtain ⟨-, hs, hm', -⟩ := @deliver_frame degrees m v
    have hv : m.hear degrees (.childChanged k v) = m.deliver degrees v := if_pos hk
    rw [List.map_cons, List.foldl_cons, hv, ih (by rw [hm', hm]) (hs.trans hk),
      deliver_crowd hm, drain_cons]

/-- The events of its node among those of all the nodes. -/
theorem foldl_hear_changedEvents (hm : m.mounted) (hk : m.subscription = some k)
    (hv : old.get k = some v) (hw : new.get k = some w) :
    ((changedEvents old new).foldl (hear degrees) m).crowd =
      drain degrees m.crowd ((changedChildren v w).map Prod.snd) := by
  have hmem : k ∈ childNames new := mem_childNames.2 (Option.isSome_of_eq_some hw)
  have hnodup : (childNames new).Nodup :=
    (List.perm_insertionSort _ _).nodup_iff.2 (List.nodup_dedup _)
  obtain ⟨xs, ys, hsplit⟩ := List.append_of_mem hmem
  rw [hsplit, List.nodup_append, List.nodup_cons] at hnodup
  obtain ⟨-, ⟨hys, -⟩, hxs⟩ := hnodup
  have hothers {ns : List String} (hns : k ∉ ns) : ∀ e ∈ ns.flatMap (changesOf old new),
      e.crowdKey ≠ some k := by
    intro e he hek
    obtain ⟨l, hl, he⟩ := List.mem_flatMap.1 he
    obtain ⟨v, rfl⟩ := mem_changesOf he
    exact hns (Option.some.inj hek ▸ hl)
  have hown : changesOf old new k = ((changedChildren v w).map Prod.snd).map (.childChanged k) := by
    rw [changesOf, hv, hw, List.map_map]
    rfl
  rw [changedEvents, hsplit, List.flatMap_append, List.flatMap_cons, List.foldl_append,
    List.foldl_append, foldl_hear_other hk (hothers fun h => hxs k h k List.mem_cons_self rfl)]
  rw [foldl_hear_other ?_ (hothers hys), hown, foldl_hear_own hm hk]
  exact (foldl_hear_frame degrees _ m).2.1.trans hk

/-- A marker at its crowd's position goes with it. -/
theorem Placed.changed (h : Placed old m) (hold : Settled old) (hgrows : Grows old new) :
    Placed new ((changedEvents old new).foldl (hear degrees) m) := by
  obtain ⟨v, hv⟩ := Option.isSome_iff_exists.1 h.known
  have hknown : (new.get m.props.campaign_id).isSome :=
    (Record.get_isSome_iff new _).2 (hgrows.1 _ ((Record.get_isSome_iff old _).1 h.known))
  obtain ⟨w, hw⟩ := Option.isSome_iff_exists.1 hknown
  obtain ⟨hp, hs, hm⟩ := foldl_hear_frame degrees (changedEvents old new) m
  have hcrowd := @foldl_hear_changedEvents degrees m old new _ v w h.mounted h.subscription hv hw
  have hpositioned := hgrows.2.positioned hw
  obtain ⟨l, hl, -⟩ := hpositioned.location
  obtain ⟨l₀, hl₀, -⟩ := (hold.positioned hv).location
  refine ⟨hm.trans h.mounted, hp ▸ hs.trans h.subscription, hp ▸ hknown, ?_, ?_⟩
  · rw [hcrowd]
    exact drain_location_isSome h.located
  · rw [hp, hcrowd, hw, Option.bind_some, hl]
    apply drain_positioned hpositioned hl (fun e he => mem_changedChildren he) h.located
    by_cases hsame : v.child "location" = some l
    · left
      rw [h.coordinates, hv, Option.bind_some, hsame]
    · right
      apply List.mem_map_of_mem (mem_changedChildren_of_ne hl₀ hl ?_)
      rintro rfl
      exact hsame hl₀

theorem ownKeys_append (hk : arrayIndex k = none) (ks : List String) :
    ownKeys (ks ++ [k]) = ownKeys ks ++ [k] := by
  simp [ownKeys, List.filter_append, hk]

namespace MyMarkerClusterer

/-- Reconciliation with further elements keeps what new props keep and the new markers have. -/
theorem reconcile_forall {P : MyMarker → Prop} {ms : List MyMarker} {ps : List Props}
    (h : ∀ m ∈ ms, P m) (hpos : campaignIds ms <+: ps.map Props.campaign_id)
    (hkept : ∀ m p, P m → m.props.campaign_id = p.campaign_id → P (m.newProps p))
    (hnew : ∀ p ∈ ps.drop ms.length, P (.mount p t)) : ∀ m ∈ reconcile t ms ps, P m := by
  induction ps generalizing ms with
  | nil => cases ms <;> exact fun _ hm => by cases hm
  | cons p ps ih =>
    cases ms with
    | nil =>
      obtain ⟨hp, hnew⟩ := List.forall_mem_cons.1 hnew
      exact List.forall_mem_cons.2 ⟨hp, ih h List.nil_prefix hnew⟩
    | cons m ms =>
      obtain ⟨hm, h⟩ := List.forall_mem_cons.1 h
      obtain ⟨hid, hpos⟩ := List.cons_prefix_cons.1 hpos
      exact List.forall_mem_cons.2 ⟨hkept m p hm hid, ih h hpos hnew⟩

theorem run_hear {es : List CrowdEvent} (hes : ∀ e ∈ es, ∃ k v, e = .childChanged k v)
    (hr : run (step degrees) c es = some c') :
    c'.markers = c.markers.map fun m => es.foldl (MyMarker.hear degrees) m := by
  induction es generalizing c with
  | nil =>
    cases hr
    exact (List.map_id _).symm
  | cons e es ih =>
    obtain ⟨⟨k, v, he⟩, hes'⟩ := List.forall_mem_cons.1 hes
    obtain ⟨d, hd, hr⟩ := Option.bind_eq_some_iff.1 hr
    subst he
    cases hd
    rw [ih hes' hr, childChanged, List.map_map]
    rfl

end MyMarkerClusterer

theorem Placed.newProps {r : Record Json} (h : Placed r m)
    (hid : m.props.campaign_id = p.campaign_id) : Placed r (m.newProps p) := by
  have hp : (m.newProps p).props = p := rerender_props _
  have hc : (m.newProps p).crowd = m.crowd := rerender_crowd _
  refine ⟨?_, ?_, ?_, ?_, ?_⟩
  · rw [MyMarker.newProps, rerender_mounted]
    exact h.mounted
  · rw [MyMarker.newProps, rerender_subscription, rerender_props]
    exact hid ▸ h.subscription
  · rw [hp]
    exact hid ▸ h.known
  · rw [hc]
    exact h.located
  · rw [hc, hp]
    exact hid ▸ h.coordinates

/-- A marker mounted with a crowd is at its position. -/
theorem placed_mount {r : Record Json} (hsettled : Settled r) (hv : r.get p.campaign_id = some v)
    (hp : p.crowd = v.fields) : Placed r (.mount p t) := by
  obtain ⟨l, hl, -⟩ := (hsettled.positioned hv).location
  have hcrowd : (MyMarker.mount p t).crowd.get "location" = some l := by
    rw [mount_crowd, hp]
    exact hl
  refine ⟨mount_mounted p t, ?_, ?_, ?_, ?_⟩
  · rw [mount_subscription, mount_props]
  · rw [mount_props, hv]
    rfl
  · rw [hcrowd]
    rfl
  · rw [hcrowd, mount_props, hv, Option.bind_some, hl]

/-- A crowd that is added last gets a marker at its position, and the others keep theirs. -/
theorem placed_childAdded {r : Record Json} (hsettled : Settled r) (hr : c.Rendered)
    (h : ∀ m ∈ c.markers, Placed r m) (hk : k ∉ c.crowds.keys) (ho : Ordinary k)
    (hv : r.get k = some v) : ∀ m ∈ (c.childAdded k v.fields).markers, Placed r m := by
  have hids := hr.campaignIds
  have hkeys : ownKeys (c.crowds.put k v.fields).keys = c.keys ++ [k] := by
    rw [Record.keys_put_of_not_mem _ _ hk, ownKeys_append ho.1]
    rfl
  rw [MyMarkerClusterer.childAdded, assign_of_ne _ _ ho.2, MyMarkerClusterer.render_markers]
  apply MyMarkerClusterer.reconcile_forall h
  · rw [MyMarkerClusterer.elements_campaign_id, MyMarkerClusterer.keys, hkeys, hids]
    exact List.prefix_append _ _
  · exact fun m p hm hid => hm.newProps hid
  · intro p hp
    have hlen : c.markers.length = c.keys.length := by
      rw [← hids, MyMarkerClusterer.campaignIds, List.length_map]
    have hid : p.campaign_id = k := by
      have hmem := List.mem_map_of_mem (f := Props.campaign_id) hp
      rw [List.map_drop, MyMarkerClusterer.elements_campaign_id, MyMarkerClusterer.keys, hkeys,
        hlen, List.drop_left] at hmem
      exact List.mem_singleton.1 hmem
    have hcrowd := MyMarkerClusterer.mem_elements (List.mem_of_mem_drop hp)
    subst hid
    rw [Record.get_put_self] at hcrowd
    exact placed_mount hsettled hv hcrowd

theorem placed_added {r : Record Json} (hsettled : Settled r) (hr : c.Rendered)
    (h : ∀ m ∈ c.markers, Placed r m) {ks : List String} (hnodup : ks.Nodup)
    (hks : ∀ k ∈ ks, k ∈ r.keys ∧ k ∉ c.crowds.keys)
    (hrun : run (MyMarkerClusterer.step degrees) c (ks.map fun k =>
      .childAdded k ((r.get k).getD (.obj .empty)).fields) = some c') :
    ∀ m ∈ c'.markers, Placed r m := by
  induction ks generalizing c with
  | nil =>
    cases hrun
    exact h
  | cons k ks ih =>
    obtain ⟨hk, hks⟩ := List.forall_mem_cons.1 hks
    obtain ⟨hnot, hnodup⟩ := List.nodup_cons.1 hnodup
    obtain ⟨d, hd, hrun⟩ := Option.bind_eq_some_iff.1 hrun
    have hd' := hr.step hd
    obtain ⟨v, hv⟩ := Option.isSome_iff_exists.1 ((Record.get_isSome_iff r k).2 hk.1)
    have hplaced := placed_childAdded hsettled hr h hk.2 (hsettled k hk.1).1 hv
    cases hd
    rw [hv] at hd'
    rw [hv] at hrun
    apply ih hd' hplaced hnodup ?_ hrun
    intro l hl
    refine ⟨(hks l hl).1, ?_⟩
    rw [MyMarkerClusterer.childAdded, MyMarkerClusterer.render_crowds, mem_keys_assign, not_or]
    exact ⟨fun he => hnot (he.1 ▸ hl), (hks l hl).2⟩

/-- The events of a message carry the markers to the positions it brings. -/
theorem placed_raised (hr : c.Rendered)
    (hkeys : ∀ k, k ∈ c.crowds.keys ↔ (old.get k).isSome ∧ k ≠ "__proto__")
    (hold : Settled old) (hgrows : Grows old new) (h : ∀ m ∈ c.markers, Placed old m)
    (hrun : run (MyMarkerClusterer.step degrees) c (raisedEvents old new) = some c') :
    ∀ m ∈ c'.markers, Placed new m := by
  have hremoved : removedKeys old new = [] := by
    rw [List.eq_nil_iff_forall_not_mem]
    intro k hk
    obtain ⟨hk, hnone⟩ := mem_removedKeys.1 hk
    have hnew := (Record.get_isSome_iff new k).2 (hgrows.1 k ((Record.get_isSome_iff old k).1 hk))
    rw [Option.isNone_iff_eq_none.1 hnone] at hnew
    cases hnew
  rw [raisedEvents, hremoved, List.map_nil, List.append_nil, run_append,
    Option.bind_eq_some_iff] at hrun
  obtain ⟨d, hd, hadded⟩ := hrun
  have hrendered : d.Rendered := run_keeps MyMarkerClusterer.Rendered hr
    (fun _ _ _ _ hI hs => hI.step hs) hd
  have hplaced : ∀ m ∈ d.markers, Placed new m := by
    rw [MyMarkerClusterer.run_hear (fun e he => mem_changedEvents he) hd]
    intro m' hm'
    obtain ⟨m, hm, rfl⟩ := List.mem_map.1 hm'
    exact (h m hm).changed hold hgrows
  have hcrowds := MyMarkerClusterer.run_changed (fun e he => mem_changedEvents he) hd
  rw [addedCrowds, List.map_map] at hadded
  apply placed_added hgrows.2 hrendered hplaced ?_ ?_ hadded
  · apply List.Nodup.filter
    exact (List.perm_insertionSort _ _).nodup_iff.2 (List.nodup_dedup _)
  · intro k hk
    obtain ⟨hk, hnone⟩ := List.mem_filter.1 hk
    refine ⟨(Record.get_isSome_iff new k).1 (mem_childNames.1 hk), ?_⟩
    rw [hcrowds, hkeys, Option.isNone_iff_eq_none.1 hnone]
    exact fun h => Bool.false_ne_true h.1

namespace CrowdMap

/-- Every marker listens to its own crowd and is drawn at the crowd's last position received,
unless its status or a checkbox hides it. -/
structure Positions (database : Json) (s : CrowdMap × List (Nat × MapEvent)) : Prop where
  own : ∀ m ∈ s.1.markers, m.subscription = some m.props.campaign_id
  shown : ∀ m ∈ s.1.markers, m.view.isSome ↔ ¬m.Hidden
  drawn : ∀ m ∈ s.1.markers, ∀ v, m.view = some v → (some v.lat, v.lng) = coordinates
    (((crowds (received database s.2)).get m.props.campaign_id).bind (·.child "location"))

/-- A change after which every crowd is still there and has a position. -/
def KeepsCrowds (s : CrowdMap) (e : Nat × MapEvent) : Prop :=
  match e.2 with
  | .change c => Grows (crowds s.database) (crowds (c.apply s.database))
  | _ => True

instance : Decidable (KeepsCrowds s e) :=
  match e with
  | (_, .change _) => inferInstanceAs (Decidable (Grows _ _))
  | (_, .load) | (_, .listen) | (_, .deliver) | (_, .app _) | (_, .interval ..) => isTrue trivial

/-- Every message in flight finds the crowds that it brings. -/
def Growing : Json → List Message → Prop
  | _, [] => True
  | t, m :: ms => Grows (crowds t) (crowds (m.apply t)) ∧ Growing (m.apply t) ms

structure Placing (s : CrowdMap) : Prop extends Mirrored s where
  idle : ¬s.listens → s.inFlight = [] ∧ s.view = .obj .empty
  database : Settled (crowds s.database)
  view : Settled (crowds s.view)
  growing : Growing s.view s.inFlight
  placed : ∀ m ∈ s.markers, Placed (crowds s.view) m

variable {s s' : CrowdMap}

theorem growing_append {ms : List Message} (h : Growing t ms) (m : Message)
    (hm : Grows (crowds (ms.foldl (fun t m => m.apply t) t))
      (crowds (m.apply (ms.foldl (fun t m => m.apply t) t)))) : Growing t (ms ++ [m]) := by
  induction ms generalizing t with
  | nil => exact ⟨hm, trivial⟩
  | cons n ms ih => exact ⟨h.1, ih h.2 hm⟩

theorem Placing.shown (h : s.Placing) (hm : m ∈ s.markers) : m.view.isSome ↔ ¬m.Hidden := by
  obtain ⟨l, hl⟩ := Option.isSome_iff_exists.1 (h.placed m hm).located
  obtain ⟨v, hv⟩ := Option.isSome_iff_exists.1 (h.placed m hm).known
  obtain ⟨l', hl', hlat⟩ := (h.view.positioned hv).location
  have hc := congrArg Prod.fst (h.placed m hm).coordinates
  rw [hl, hv, Option.bind_some, hl'] at hc
  have hsome : (l'.child "lat").isSome := by
    cases hnone : l'.child "lat" with
    | none =>
      rw [hnone] at hlat
      cases hlat
    | some lat => rfl
  apply view_of_position
  rw [HasPosition, hl]
  exact (congrArg Option.isSome hc).trans hsome

theorem Placing.drawn (h : s.Placing) (hm : m ∈ s.markers) (hv : m.view = some v) :
    (some v.lat, v.lng) = coordinates
      (((crowds s.view).get m.props.campaign_id).bind (·.child "location")) := by
  obtain ⟨-, l, hl, hlat, hlng⟩ := view_eq_some hv
  rw [← (h.placed m hm).coordinates, hl, coordinates, Option.bind_some, Option.bind_some, hlat,
    hlng]

theorem placed_atTime {r : Record Json} (h : Placed r m) (t : Nat) : Placed r (m.atTime t) :=
  ⟨h.mounted, h.subscription, h.known, h.located, h.coordinates⟩

theorem placed_fire {r : Record Json} (h : Placed r m) (id : Nat) (b : Callback) :
    Placed r ((m.reschedule id).fire b) := by
  have hcrowd : ∃ f v, f ≠ "location" ∧ ((m.reschedule id).fire b).crowd = m.crowd.put f v := by
    rw [fire_eq, setCrowd_crowd (m := m.reschedule id) h.mounted]
    cases b with
    | timer => exact ⟨"lost", _, by decide, rfl⟩
    | removeMarker => exact ⟨"status", _, by decide, rfl⟩
  obtain ⟨f, v, hf, hcrowd⟩ := hcrowd
  have hp : ((m.reschedule id).fire b).props = m.props := by
    rw [fire_eq, setCrowd_props]
    rfl
  refine ⟨?_, ?_, hp ▸ h.known, ?_, ?_⟩
  · rw [fire_eq, setCrowd_mounted]
    exact h.mounted
  · rw [hp, fire_eq, setCrowd_subscription]
    exact h.subscription
  · rw [hcrowd, Record.get_put_of_ne _ _ hf]
    exact h.located
  · rw [hp, hcrowd, Record.get_put_of_ne _ _ hf]
    exact h.coordinates

theorem Placing.atTime (h : s.Placing) (t : Nat) : (s.atTime t).Placing := by
  refine ⟨h.toMirrored.atTime t, h.idle, h.database, h.view, h.growing, ?_⟩
  intro m' hm'
  have hms : (s.atTime t).markers = s.markers.map (·.atTime t) := by
    cases hc : s.map <;> simp [markers, CrowdMap.atTime, hc, MyMarkerClusterer.atTime]
  rw [hms] at hm'
  obtain ⟨m, hm, rfl⟩ := List.mem_map.1 hm'
  exact placed_atTime (h.placed m hm) t

theorem Placing.deliver (h : s.Placing) (hs : s.deliver degrees = some s') : s'.Placing := by
  have hmirrored := h.toMirrored.deliver hs
  rw [CrowdMap.deliver] at hs
  split at hs
  · rename_i m ms c hms hc
    obtain ⟨c', hr, rfl⟩ := Option.map_eq_some_iff.1 hs
    have hmapped := h.mapped c hc
    have hgrowing := h.growing
    rw [hms] at hgrowing
    refine ⟨hmirrored, fun hl => ?_, h.database, hgrowing.1.2, hgrowing.2, ?_⟩
    · have hidle := (h.idle hl).1
      rw [hms] at hidle
      cases hidle
    · apply placed_raised hmapped.rendered hmapped.keys h.view hgrowing.1 ?_ hr
      rw [← markers_some hc]
      exact h.placed
  · cases hs

theorem placed_filters {r : Record Json} (hr : c.Rendered) (h : ∀ m ∈ c.markers, Placed r m)
    (hs : c.step degrees (.filters a i l) = some c') : ∀ m ∈ c'.markers, Placed r m := by
  have hids := hr.campaignIds
  have hlen : c.markers.length = c.keys.length := by
    rw [← hids, MyMarkerClusterer.campaignIds, List.length_map]
  cases hs
  rw [MyMarkerClusterer.render_markers]
  apply MyMarkerClusterer.reconcile_forall h
  · rw [MyMarkerClusterer.elements_campaign_id, hids]
    exact List.prefix_refl _
  · exact fun m p hm hid => hm.newProps hid
  · intro p hp
    rw [List.drop_of_length_le] at hp
    · cases hp
    · rw [hlen, MyMarkerClusterer.elements, List.length_mapIdx]
      exact Nat.le_refl _

theorem Placing.setApp (h : s.Placing) (a : App) :
    ∀ m ∈ (s.setApp degrees a).markers, Placed (crowds s.view) m := by
  cases hc : s.map with
  | none =>
    intro m hm
    rw [markers, CrowdMap.setApp, hc] at hm
    cases hm
  | some c =>
    rw [markers, CrowdMap.setApp, hc]
    apply placed_filters (h.mapped c hc).rendered ?_ rfl
    · exact degrees
    · rw [← markers_some hc]
      exact h.placed

theorem placed_interval {r : Record Json} (h : ∀ m ∈ c.markers, Placed r m)
    (hc : c.interval i n = some c') : ∀ m ∈ c'.markers, Placed r m := by
  rw [MyMarkerClusterer.interval] at hc
  split at hc
  · cases hc
  · rename_i m hm
    obtain ⟨b, -, rfl⟩ := Option.map_eq_some_iff.1 hc
    intro m' hm'
    rcases List.mem_or_eq_of_mem_set hm' with hm' | rfl
    · exact h m' hm'
    · exact placed_fire (h m (List.mem_of_getElem? hm)) n b.callback

theorem Placing.step (h : s.Placing) (hs : s.step degrees e = some s') (hC : s.KeepsCrowds e) :
    s'.Placing := by
  have hmirrored := h.toMirrored.step hs
  obtain ⟨t, e⟩ := e
  rw [CrowdMap.step] at hs
  split at hs
  · cases hs
  · have h := h.atTime t
    cases e with
    | change c =>
      cases hs
      refine ⟨hmirrored, fun hl => ?_, hC.2, h.view, ?_, h.placed⟩
      · rw [if_neg hl]
        exact h.idle hl
      · by_cases hl : s.listens
        · have hlag := h.lag hl
          have hl' : (s.atTime t).listens := hl
          simp only [hl', ↓reduceIte]
          apply growing_append h.growing
          rw [hlag]
          exact hC
        · have hl' : ¬(s.atTime t).listens := hl
          simp only [hl']
          exact h.growing
    | load =>
      obtain ⟨hm, hs⟩ := Option.ite_none_left_eq_some.1 hs
      cases hs
      exact ⟨hmirrored, h.idle, h.database, h.view, h.growing, fun m hm => by cases hm⟩
    | listen =>
      obtain ⟨hl, hs⟩ := Option.ite_none_left_eq_some.1 hs
      cases hs
      obtain ⟨hf, hv⟩ := h.idle fun hl' => hl (.inr hl')
      refine ⟨hmirrored, fun hl => absurd rfl hl, h.database, h.view, ⟨⟨?_, h.database⟩, trivial⟩,
        h.placed⟩
      rw [hv]
      exact fun k hk => absurd hk List.not_mem_nil
    | deliver => exact h.deliver hs
    | app e =>
      cases hs
      cases ha : (s.atTime t).app.handle e with
      | none => exact h
      | some a =>
        rw [ha] at hmirrored
        refine ⟨hmirrored, h.idle, h.database, h.view, h.growing, ?_⟩
        exact h.setApp a
    | interval i n =>
      obtain ⟨c, hc, hs⟩ := Option.bind_eq_some_iff.1 hs
      obtain ⟨c', hc', rfl⟩ := Option.map_eq_some_iff.1 hs
      refine ⟨hmirrored, h.idle, h.database, h.view, h.growing, ?_⟩
      apply placed_interval ?_ hc'
      rw [← markers_some hc]
      exact h.placed

theorem placing_initial {database : Json} (h : Settled (crowds database)) (t : Nat) :
    (initial database t).Placing := by
  refine ⟨mirrored_initial database t, fun _ => ⟨rfl, rfl⟩, h, ?_, trivial, ?_⟩
  · exact fun k hk => absurd hk List.not_mem_nil
  · exact fun m hm => absurd hm List.not_mem_nil

/-- From a database of positioned crowds, as long as no change takes a crowd or a position away. -/
theorem positions_in_step (degrees : Number → Number → Number) {database : Json} {t : Nat}
    {es : List (Nat × MapEvent)} (hdatabase : Settled (crowds database))
    (h : Along (withHistory (step degrees)) (fun s e => s.1.KeepsCrowds e)
      (initial database t, []) es) :
    Always (withHistory (step degrees)) (Positions database) (initial database t, []) es := by
  apply Always.of_invariant (fun s => s.1.Placing ∧ Served database s) ?_ ?_
    ⟨placing_initial hdatabase t, served_initial database t⟩ h
  · intro s hs
    refine ⟨fun m hm => (hs.1.placed m hm).subscription, fun m hm => hs.1.shown hm, ?_⟩
    intro m hm v hv
    rw [hs.2.brought]
    exact hs.1.drawn hm hv
  · rintro ⟨s, hist⟩ e ⟨s', hist'⟩ hs hstep hC
    obtain ⟨hstep, rfl⟩ := withHistory_some hstep
    exact ⟨hs.1.step hstep hC, hs.2.step hstep⟩

/-- A crowd moves while the page loads, and another one is added. -/
def moving : List (Nat × MapEvent) :=
  [(0, .load), (5, .listen), (10, .deliver),
    (10, .change (.write (.setValue (crowdPath "A24" ++ ["location"]) (position 22 40)))),
    (20, .change (.write (.setValue (crowdPath "B13") (.obj (crowdValue "Active" 23 41))))),
    (30, .deliver), (30, .app (.handleShowLost false)), (40, .deliver)]

/-- Both crowds end at their last positions. -/
theorem positions_in_step_moving :
    Always (withHistory (step fun _ _ => .nan))
        (Positions (setAt (crowdPath "A24") (.obj (crowdValue "Active" 21 39)) (.obj .empty)))
        (initial (setAt (crowdPath "A24") (.obj (crowdValue "Active" 21 39)) (.obj .empty)) 0, [])
        moving ∧
      (run (step fun _ _ => .nan)
        (initial (setAt (crowdPath "A24") (.obj (crowdValue "Active" 21 39)) (.obj .empty)) 0)
        moving).map (fun s => s.markers.map fun m =>
          (m.props.campaign_id, m.view.map fun v => (v.lat, v.lng))) =
        some [("A24", some (.num (.finite 22), some (.num (.finite 40)))),
          ("B13", some (.num (.finite 23), some (.num (.finite 41))))] :=
  ⟨positions_in_step _ (by decide +kernel) (by decide +kernel), by decide +kernel⟩

end CrowdMap

end CrowdTracking
