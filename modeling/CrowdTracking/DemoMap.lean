import CrowdTracking.Demo
import CrowdTracking.MapPositions

namespace CrowdTracking
set_option autoImplicit true
open Script Database Runs MyMarker

/-- `demo.py` and the page on one database. A round is one whose update is stored, and what others
write is an event of the page. -/
structure DemoMap where
  demo : Export
  page : CrowdMap

inductive DemoMapEvent where
  | round (draws : Fin 500 → DemoDraw)
  | page (e : MapEvent)

/-- The page can show every exported crowd, and a move to the north keeps it so. -/
structure Export.OnMap (x : Export) : Prop where
  names : ∀ k ∈ x.data.keys, Ordinary k
  lat : ∀ k v, x.data.get k = some v → ∃ q ∈ Demo.coordinate v "lat", 0 < q
  other : ∀ k v, x.data.get k = some v → ∀ f ∈ v.fields.keys, f ≠ "location" →
    ¬truthy ((v.child f).bind (·.child "lat"))

namespace DemoMap

def start (x : Export) (database : Json) (t : Nat) : DemoMap := ⟨x, .initial database t⟩

def step (degrees : Number → Number → Number) (s : DemoMap) (e : Nat × DemoMapEvent) :
    Option DemoMap :=
  match e.2 with
  | .round draws => (s.demo.round draws).bind fun x =>
      (s.page.step degrees (e.1, .change (.write x.update))).map fun page => ⟨x, page⟩
  | .page f => (s.page.step degrees (e.1, f)).map fun page => ⟨s.demo, page⟩

def isRound : DemoMapEvent → Bool
  | .round _ => true
  | .page _ => false

def rounds (hist : List (Nat × DemoMapEvent)) : Nat := hist.countP fun e => isRound e.2

/-- The event leaves the database and the program alone. -/
def Quiet : DemoMapEvent → Prop
  | .round _ | .page (.change _) => False
  | .page _ => True

instance : DecidablePred Quiet
  | .round _ | .page (.change _) => isFalse id
  | .page .load | .page .listen | .page .deliver | .page (.app _) | .page (.interval ..) =>
    isTrue trivial

/-- What others write takes no crowd and no position away. -/
def KeepsCrowds (s : DemoMap) (e : Nat × DemoMapEvent) : Prop :=
  match e.2 with
  | .round _ => True
  | .page f => s.page.KeepsCrowds (e.1, f)

/-- The page keeps every crowd at its position, and the program holds the exported crowds, drifted
for the rounds so far. -/
structure Running (x : Export) (n : Nat) (s : DemoMap) : Prop where
  page : s.page.Placing
  drifts : x.Drifts n s.demo

/-- The database has every crowd as the program holds it. -/
def Written (s : DemoMap) : Prop :=
  ∀ k v, s.demo.data.get k = some v → getAt (crowdPath k) s.page.database = some v

variable {x y : Export} {s s' : DemoMap} {degrees : Number → Number → Number} {old new : Json}

theorem truthy_number (hv : Demo.number v = some q) (hq : q ≠ 0) : truthy (some v) := by
  cases v with
  | num n =>
    cases n with
    | finite r =>
      cases hv
      simpa [truthy] using hq
    | nan | posInfinity | negInfinity => cases hv
  | bool b =>
    cases b with
    | true => rfl
    | false =>
      cases hv
      exact absurd rfl hq
  | str s => cases hv
  | obj r => cases hv

/-- A crowd that has drifted still has a position. -/
theorem positioned_after (hlat : ∃ q ∈ Demo.coordinate old "lat", 0 < q)
    (hother : ∀ f ∈ old.fields.keys, f ≠ "location" →
      ¬truthy ((old.child f).bind (·.child "lat")))
    (h : Export.After n k old new) : Positioned new := by
  obtain ⟨q, hq, hpos⟩ := hlat
  have hnew : (∃ q' ∈ Demo.coordinate new "lat", 0 < q') ∧
      ∀ f, f ≠ "location" → new.child f = old.child f := by
    rcases h with ⟨-, hdrifted⟩ | ⟨-, rfl⟩
    · obtain ⟨ds, -, hds⟩ := hdrifted.lat q hq
      exact ⟨⟨_, hds, Demo.foldl_sum_pos hpos ds⟩, hdrifted.other⟩
    · exact ⟨⟨q, hq, hpos⟩, fun _ _ => rfl⟩
  obtain ⟨⟨q', hq', hpos'⟩, hsame⟩ := hnew
  constructor
  · obtain ⟨v, hv, hnumber⟩ := Option.bind_eq_some_iff.1 hq'
    have hplace : (new.child "location").bind (·.child "lat") = some v := hv
    rw [hplace]
    exact truthy_number hnumber hpos'.ne'
  · intro f hf hne
    rw [hsame f hne]
    apply hother f ?_ hne
    rw [← Record.get_isSome_iff] at hf ⊢
    have hsame := congrArg Option.isSome (hsame f hne)
    exact hsame ▸ hf

theorem positioned_held (hx : x.OnMap) (h : x.Drifts n y) (hv : y.data.get k = some v) :
    Ordinary k ∧ Positioned v := by
  obtain ⟨old, hold, hafter⟩ := h.of_get hv
  refine ⟨hx.names k ?_, positioned_after (hx.lat k old hold) (hx.other k old hold) hafter⟩
  exact (Record.get_isSome_iff x.data k).1 (Option.isSome_of_eq_some hold)

/-- An update with crowds that have a position takes none away. -/
theorem grows_update {t : Json} (ht : Settled (crowds t))
    (hy : ∀ k v, y.data.get k = some v → Ordinary k ∧ Positioned v) :
    Grows (crowds t) (crowds (y.update.apply t)) := by
  have hget : ∀ k, (crowds (y.update.apply t)).get k =
      (y.data.get k).elim ((crowds t).get k) some := by
    intro k
    rw [← getAt_crowdPath, ← getAt_crowdPath, Export.getAt_update]
  constructor
  · intro k hk
    rw [← Record.get_isSome_iff] at hk ⊢
    rw [hget]
    cases y.data.get k with
    | none => exact hk
    | some v => rfl
  · intro k hk
    rw [← Record.get_isSome_iff] at hk
    rw [hget] at hk ⊢
    cases hv : y.data.get k with
    | none =>
      rw [hv] at hk
      exact ht k ((Record.get_isSome_iff _ _).1 hk)
    | some v => exact hy k v hv

theorem Running.round (h : Running x n s) (hx : x.OnMap) (hy : s.demo.round draws = some y)
    (hp : s.page.step degrees (t, .change (.write y.update)) = some p) :
    Running x (n + 1) ⟨y, p⟩ ∧ Written ⟨y, p⟩ := by
  have hdrifts : x.Drifts (n + 1) y := h.drifts.round hy
  have hstored : (Change.write y.update).apply s.page.database =
      y.update.apply s.page.database := Write.store_eq y.kept_update _
  have hgrows : Grows (crowds s.page.database)
      (crowds ((Change.write y.update).apply s.page.database)) := by
    rw [hstored]
    exact grows_update h.page.database fun k v hv => positioned_held hx hdrifts hv
  refine ⟨⟨h.page.step hp hgrows, hdrifts⟩, ?_⟩
  intro k v hv
  have hget := Export.getAt_update y k s.page.database
  rw [(CrowdMap.step_change hp).1, hstored, hget, show y.data.get k = some v from hv]
  rfl

theorem rounds_round (hist : List (Nat × DemoMapEvent)) (t : Nat)
    (draws : Fin 500 → DemoDraw) : rounds (hist ++ [(t, .round draws)]) = rounds hist + 1 := by
  rw [rounds, List.countP_append]
  rfl

theorem rounds_page (hist : List (Nat × DemoMapEvent)) (t : Nat) (f : MapEvent) :
    rounds (hist ++ [(t, .page f)]) = rounds hist := by
  rw [rounds, List.countP_append]
  rfl

theorem Running.step (h : Running x (rounds hist) s) (hx : x.OnMap)
    (hC : s.KeepsCrowds e) (hs : s.step degrees e = some s') :
    Running x (rounds (hist ++ [e])) s' := by
  obtain ⟨t, e⟩ := e
  rw [DemoMap.step] at hs
  cases e with
  | round draws =>
    obtain ⟨y, hy, hs⟩ := Option.bind_eq_some_iff.1 hs
    obtain ⟨p, hp, rfl⟩ := Option.map_eq_some_iff.1 hs
    rw [rounds_round]
    exact (h.round hx hy hp).1
  | page f =>
    obtain ⟨p, hp, rfl⟩ := Option.map_eq_some_iff.1 hs
    rw [rounds_page]
    exact ⟨h.page.step hp hC, h.drifts⟩

theorem running_run {hist : List (Nat × DemoMapEvent)} (h : Running x (rounds hist) s)
    (hx : x.OnMap) (hC : Along (step degrees) KeepsCrowds s es)
    (hr : run (step degrees) s es = some s') : Running x (rounds (hist ++ es)) s' := by
  induction es generalizing s hist with
  | nil =>
    cases hr
    rwa [List.append_nil]
  | cons e es ih =>
    obtain ⟨t, ht, hr⟩ := Option.bind_eq_some_iff.1 hr
    have h := ih (h.step hx (hC.head ht) ht) (hC.tail ht) hr
    rwa [List.append_assoc] at h

theorem written_quiet (hq : Quiet e.2) (hs : s.step degrees e = some s') (h : Written s) :
    Written s' := by
  obtain ⟨t, e⟩ := e
  rw [step] at hs
  cases e with
  | round draws => exact absurd hq id
  | page f =>
    obtain ⟨p, hp, rfl⟩ := Option.map_eq_some_iff.1 hs
    intro k v hv
    rw [CrowdMap.step_database hp fun c hc => ?_]
    · exact h k v hv
    · rw [show f = .change c from hc] at hq
      exact hq

theorem Running.written (h : Running x n s) (hx : x.OnMap)
    (hs : s.step degrees (t, .round draws) = some s') : Written s' := by
  rw [DemoMap.step] at hs
  obtain ⟨y, hy, hs⟩ := Option.bind_eq_some_iff.1 hs
  obtain ⟨p, hp, rfl⟩ := Option.map_eq_some_iff.1 hs
  exact (h.round hx hy hp).2

theorem rounds_quiet (es : List (Nat × DemoMapEvent)) (t : Nat) (draws : Fin 500 → DemoDraw)
    {fs : List (Nat × DemoMapEvent)} (hfs : ∀ e ∈ fs, Quiet e.2) :
    rounds (es ++ (t, .round draws) :: fs) = rounds es + 1 := by
  have hnone : rounds fs = 0 := by
    rw [rounds, List.countP_eq_zero]
    intro e he
    have hq := hfs e he
    cases hround : e.2 with
    | round draws =>
      rw [hround] at hq
      exact absurd hq id
    | page f => exact Bool.false_ne_true
  rw [rounds, List.countP_append, List.countP_cons_of_pos rfl, ← rounds, ← rounds, hnone]

/-- On a page that has received all, each crowd of the program has its marker at its place. -/
theorem Running.shown (h : Running x n s) (hx : x.OnMap) (hw : Written s) (hl : s.page.listens)
    (hf : s.page.inFlight = []) (hold : x.data.get k = some old) :
    ∃ new, s.demo.data.get k = some new ∧ Export.After n k old new ∧
      ∃ m ∈ s.page.markers, m.props.campaign_id = k ∧ (m.view.isSome ↔ ¬m.Hidden) ∧
        ∀ v, m.view = some v → (some v.lat, v.lng) = coordinates (new.child "location") := by
  obtain ⟨new, hnew, hafter⟩ := h.drifts.get hold
  refine ⟨new, hnew, hafter, ?_⟩
  have hnode := hw k new hnew
  rw [getAt_crowdPath] at hnode
  have hname := hx.names k ((Record.get_isSome_iff x.data k).1 (Option.isSome_of_eq_some hold))
  obtain ⟨m, hm, hid⟩ := List.mem_map.1
    ((h.page.toMirrored.current hl hf k).2 ⟨Option.isSome_of_eq_some hnode, hname.2⟩)
  have hview : s.page.view = s.page.database := by
    rw [← h.page.lag hl, hf, List.foldl_nil]
  refine ⟨m, hm, hid, h.page.shown hm, ?_⟩
  intro v hv
  rw [h.page.drawn hm hv, hid, hview, hnode, Option.bind_some]

/-- Once the page has received a round, every exported crowd has its one marker, where the program
has moved it to by then, unless its status or a checkbox hides it. -/
theorem rounds_shown {es fs : List (Nat × DemoMapEvent)} {draws : Fin 500 → DemoDraw}
    (hx : x.OnMap) (hdatabase : Settled (crowds database))
    (hr : run (step degrees) (start x database t) (es ++ (n, .round draws) :: fs) = some s)
    (hkeeps : Along (step degrees) KeepsCrowds (start x database t) (es ++ (n, .round draws) :: fs))
    (hquiet : ∀ e ∈ fs, Quiet e.2) (hl : s.page.listens) (hf : s.page.inFlight = []) :
    (MyMarkerClusterer.campaignIds s.page.markers).Nodup ∧
      ∀ k old, x.data.get k = some old → ∃ new, s.demo.data.get k = some new ∧
        Export.After (rounds es + 1) k old new ∧
        ∃ m ∈ s.page.markers, m.props.campaign_id = k ∧ (m.view.isSome ↔ ¬m.Hidden) ∧
          ∀ v, m.view = some v → (some v.lat, v.lng) = coordinates (new.child "location") := by
  have hstart : Running x (rounds []) (start x database t) :=
    ⟨CrowdMap.placing_initial hdatabase t, .refl x⟩
  have hlast := running_run hstart hx hkeeps hr
  rw [List.nil_append, rounds_quiet es n draws hquiet] at hlast
  refine ⟨hlast.page.toMirrored.unique, fun k old hold => ?_⟩
  apply hlast.shown hx ?_ hl hf hold
  rw [run_append] at hr
  obtain ⟨s₁, hs₁, hr⟩ := Option.bind_eq_some_iff.1 hr
  obtain ⟨s₂, hs₂, hr⟩ := Option.bind_eq_some_iff.1 hr
  have hbefore := running_run hstart hx (hkeeps.left) hs₁
  exact run_keeps Written (hbefore.written hx hs₂)
    (fun _ _ _ he hI hs => written_quiet (hquiet _ he) hs hI) hr

theorem name_ordinary (i : Nat) : Ordinary (Demo.name i) := by
  constructor
  · rw [Script.arrayIndex, Demo.name, String.toList_append, List.all_append, if_neg]
    rintro ⟨h, -⟩
    rw [Bool.and_eq_true] at h
    exact absurd h.2 (by decide)
  · intro h
    have hlast := congrArg (fun s => s.toList.getLast?) h
    simp [Demo.name] at hlast

theorem onMap_crowds {is : List (Fin 500)} (hn : is.Nodup) : (Export.crowds is hn).OnMap := by
  have hmem : ∀ k v, (k, v) ∈ (Export.crowds is hn).data.entries →
      (∃ i : Fin 500, Demo.name i = k) ∧ v = Export.crowd := by
    intro k v h
    obtain ⟨i, -, heq⟩ := List.mem_map.1 h
    cases heq
    exact ⟨⟨i, rfl⟩, rfl⟩
  have hget : ∀ k v, (Export.crowds is hn).data.get k = some v → v = Export.crowd :=
    fun k v h => (hmem k v (Record.mem_of_get h)).2
  refine ⟨?_, ?_, ?_⟩
  · intro k hk
    obtain ⟨⟨k, v⟩, h, rfl⟩ := List.mem_map.1 hk
    obtain ⟨⟨i, rfl⟩, -⟩ := hmem k v h
    exact name_ordinary i
  · intro k v h
    rw [hget k v h]
    exact ⟨21, rfl, by decide⟩
  · intro k v h
    rw [hget k v h]
    decide +kernel

theorem step_page (x : Export) (p : CrowdMap) (f : Nat × MapEvent) :
    step degrees ⟨x, p⟩ (f.1, .page f.2) = (p.step degrees f).map fun p => ⟨x, p⟩ := rfl

theorem step_round (hy : x.round draws = some y)
    (hp : p.step degrees (t, .change (.write y.update)) = some p') :
    step degrees ⟨x, p⟩ (t, .round draws) = some ⟨y, p'⟩ := by
  simp only [step, hy, hp, Option.bind_some, Option.map_some]

theorem run_page (x : Export) (p : CrowdMap) (fs : List (Nat × MapEvent)) :
    run (step degrees) ⟨x, p⟩ (fs.map fun e => (e.1, .page e.2)) =
      (run (CrowdMap.step degrees) p fs).map fun p => ⟨x, p⟩ := by
  induction fs generalizing p with
  | nil => rfl
  | cons f fs ih =>
    rw [List.map_cons, run_cons, run_cons, step_page]
    cases p.step degrees f with
    | none => rfl
    | some q => exact ih q

/-- A page that is opened after a round, and receives its crowds. -/
def opened : List (Nat × MapEvent) := [(0, .load), (0, .listen), (0, .deliver)]

theorem run_opened (hx : x.Placed) (degrees : Number → Number → Number)
    (draws : Fin 500 → DemoDraw) : ∃ s, run (step degrees) (start x (.obj .empty) 0)
        ([] ++ (0, .round draws) :: opened.map fun e => (e.1, .page e.2)) = some s ∧
      s.page.listens ∧ s.page.inFlight = [] := by
  obtain ⟨y, hy⟩ := Option.isSome_iff_exists.1 ((Export.round_isSome _ draws).2 hx)
  have hlisten : ∃ p q m, (CrowdMap.initial (.obj .empty) 0).step degrees
        (0, .change (.write y.update)) = some p ∧
      run (CrowdMap.step degrees) p [(0, .load), (0, .listen)] = some q ∧ q.map.isSome ∧
      q.listens ∧ q.clock = 0 ∧ q.inFlight = [m] := ⟨_, _, _, rfl, rfl, rfl, rfl, rfl, rfl⟩
  obtain ⟨p, q, m, hp, hq, hmap, hl, hclock, hf⟩ := hlisten
  obtain ⟨r, hr, hempty, -, hlistens⟩ := CrowdMap.arrives hmap hf degrees
  rw [hclock] at hr
  refine ⟨⟨y, r⟩, ?_, hlistens.trans hl, hempty⟩
  have hopened : run (CrowdMap.step degrees) p opened = some r := by
    rw [show opened = [(0, .load), (0, .listen)] ++ [(0, .deliver)] from rfl, run_append, hq,
      Option.bind_some, run_cons, hr, Option.bind_some, run_nil]
  rw [List.nil_append, run_cons, start, step_round hy hp, Option.bind_some, run_page, hopened,
    Option.map_some]

/-- The crowds of a round, on a page that is opened after it. -/
theorem rounds_shown_opened : ∃ s, run (step fun _ _ => .nan)
      (start Demonstration.exported (.obj .empty) 0)
        ([] ++ (0, .round fun _ => ⟨20000, 0⟩) :: opened.map fun e => (e.1, .page e.2)) = some s ∧
    (MyMarkerClusterer.campaignIds s.page.markers).Nodup ∧
      ∀ k old, Demonstration.exported.data.get k = some old →
        ∃ new, s.demo.data.get k = some new ∧ Export.After (rounds [] + 1) k old new ∧
          ∃ m ∈ s.page.markers, m.props.campaign_id = k ∧ (m.view.isSome ↔ ¬m.Hidden) ∧
            ∀ v, m.view = some v → (some v.lat, v.lng) = coordinates (new.child "location") := by
  obtain ⟨s, hs, hl, hf⟩ := run_opened Demonstration.placed_exported (fun _ _ => .nan)
    fun _ => ⟨20000, 0⟩
  refine ⟨s, hs, rounds_shown (onMap_crowds _) (by decide) hs ?_ ?_ hl hf⟩
  · exact fun _ _ => ⟨trivial, fun _ _ => ⟨trivial, fun _ _ => ⟨trivial, fun _ _ =>
      ⟨trivial, trivial⟩⟩⟩⟩
  · decide

end DemoMap

end CrowdTracking
