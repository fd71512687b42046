import CrowdTracking.HomeScreen
import CrowdTracking.Script

namespace CrowdTracking
set_option autoImplicit true
open Database Runs

/-- The home screen with the observer of its node; `observed` once the first snapshot has come. -/
structure PeopleCounter where
  screen : HomeScreen
  observed : Bool
deriving DecidableEq

namespace PeopleCounter

def opened (signedIn : Bool) (saved : Option Model.Campaign) (database : Json) : PeopleCounter :=
  ⟨HomeScreen.launched signedIn saved database, false⟩

/-- The crowd's node in the client's view of the database. -/
def node (s : PeopleCounter) : Option Json :=
  s.screen.home.crowd_id.bind fun k => getAt (crowdPath k) s.screen.database

/-- A write of the client; if it changes the node, the observer is called with the new value. -/
def write (s : PeopleCounter) (w : Write) : PeopleCounter :=
  let s' := { s with screen.database := w.apply s.screen.database }
  match s'.node with
  | some value =>
    if s.observed ∧ s.node ≠ some value then
      { s' with screen.home := s'.screen.home.checkStatus value }
    else s'
  | none => s'

/-- The observer is called with the changes by others, and after a handler with its own. -/
def step (distance : CLLocation → CLLocation → Rat) (s : PeopleCounter) :
    HomeEvent → Option PeopleCounter
  | .client e =>
    if s.screen.shown ∧ e ≠ .observed then
      (s.screen.home.step distance (.obj .empty) e).map fun (home, writes) =>
        writes.foldl write { s with screen.home := home }
    else none
  | .snapshot data =>
    (s.screen.step distance (.snapshot data)).map fun screen => ⟨screen, true⟩

/-- The label and the client's view of the database agree on a number; an absent count is 0. -/
structure Shows (n : Int) (s : PeopleCounter) : Prop where
  nonneg : 0 ≤ n
  int : n < 2 ^ 63
  label : s.screen.home.numberOfCrowd = some (toString n)
  count : s.screen.stored "numberOfPeople" = some (.str (toString n)) ∨
    s.screen.stored "numberOfPeople" = none ∧ n = 0

/-- A snapshot is among the events. -/
def Observed (hist : List HomeEvent) : Prop := ∃ data, .snapshot data ∈ hist

/-- From the first snapshot on a number is shown, which the two buttons change by ten; before it
and without a crowd id they write nothing. -/
structure Counts (distance : CLLocation → CLLocation → Rat) (s : PeopleCounter × List HomeEvent) :
    Prop where
  shows : Observed s.2 → ∃ n, Shows n s.1 ∧
    (n + 10 < 2 ^ 63 →
      ∃ s', s.1.step distance (.client .incrementHandler) = some s' ∧ Shows (n + 10) s') ∧
    ∃ s', s.1.step distance (.client .decrementHandler) = some s' ∧
      if 10 ≤ n then Shows (n - 10) s' else s' = s.1
  silent : ¬Observed s.2 ∨ s.1.screen.home.crowd_id = none →
    s.1.screen.home.incrementHandler = some (s.1.screen.home, []) ∧
      s.1.screen.home.decrementHandler = some (s.1.screen.home, [])

/-- The count that others store is absent or the decimal string of a non-negative `Int`. -/
def Canonical : HomeEvent → Prop
  | .client _ => True
  | .snapshot data => ∀ v ∈ data.get "numberOfPeople",
      ∃ n : Int, 0 ≤ n ∧ n < 2 ^ 63 ∧ v = .str (toString n)

variable {distance : CLLocation → CLLocation → Rat} {s s' : PeopleCounter} {h h' : HomeVC}
  {e : ClientEvent} {ws : List Write} {n : Int}

theorem int_digits (hs : number.toList = c :: r) (hplus : c ≠ '+') (hminus : c ≠ '-')
    (hd : ∀ d ∈ c :: r, d.isDigit) :
    HomeVC.int number =
      if (Nat.ofDigitChars 10 (c :: r) 0 : Int) < 2 ^ 63 then
        some (Nat.ofDigitChars 10 (c :: r) 0 : Int)
      else none := by
  have hall : (c :: r).all Char.isDigit := by rwa [List.all_eq_true]
  have hlow (m : Nat) : -2 ^ 63 ≤ (m : Int) := by omega
  rw [HomeVC.int, hs]
  split
  rename_i sign ds hsign
  split at hsign
  · rename_i heq
    exact absurd (List.cons.inj heq).1 hminus
  · rename_i heq
    exact absurd (List.cons.inj heq).1 hplus
  · cases hsign
    rw [if_pos ⟨List.cons_ne_nil c r, hall⟩, ← Nat.ofDigitChars_eq_foldl, one_mul]
    simp only [hlow, true_and]

/-- A non-negative `Int` is read back from its decimal string. -/
theorem int_toString (h0 : 0 ≤ n) (hn : n < 2 ^ 63) : HomeVC.int (toString n) = some n := by
  obtain ⟨m, rfl⟩ := Int.eq_ofNat_of_zero_le h0
  have hs : (toString (m : Int)).toList = Nat.toDigits 10 m := by simp [toString, Int.repr]
  have hd : ∀ c ∈ Nat.toDigits 10 m, c.isDigit := fun c hc =>
    Nat.isDigit_of_mem_toDigits (by decide) (by decide) hc
  have hm : Nat.ofDigitChars 10 (Nat.toDigits 10 m) 0 = m := Nat.ofDigitChars_ten_toDigits
  obtain ⟨c, r, hcr, hplus, hminus, -⟩ := Script.digits_head Nat.toDigits_ne_nil hd
  rw [hcr] at hs hd hm
  rw [int_digits hs hplus hminus hd, hm, if_pos hn]

/-- A write keeps the rest of the state, except for what the observer sets. -/
theorem write_frame (s : PeopleCounter) (w : Write) :
    (s.write w).observed = s.observed ∧ (s.write w).screen.shown = s.screen.shown ∧
      (s.write w).screen.home.crowd_id = s.screen.home.crowd_id ∧
      (s.write w).screen.database = w.apply s.screen.database := by
  simp only [write]
  split
  · split
    · exact ⟨rfl, rfl, HomeVC.checkStatus_crowd_id _ _, rfl⟩
    · exact ⟨rfl, rfl, rfl, rfl⟩
  · exact ⟨rfl, rfl, rfl, rfl⟩

/-- The observer is not called before the first snapshot. -/
theorem write_unobserved (hs : ¬s.observed) (w : Write) :
    (s.write w).screen.home = s.screen.home := by
  simp only [write, hs, Bool.false_eq_true, false_and, ↓reduceIte]
  split <;> rfl

theorem checkStatus_label (hk : h.crowd_id = some k)
    (hlabel : h.numberOfCrowd = some (toString n)) (v : Json)
    (hcount : v.child "numberOfPeople" = some (.str (toString n)) ∨
      v.child "numberOfPeople" = none ∧ n = 0) :
    (h.checkStatus v).numberOfCrowd = some (toString n) := by
  cases v with
  | obj data =>
    rw [Json.child_obj] at hcount
    simp only [HomeVC.checkStatus, hk]
    rcases hcount with hcount | ⟨hcount, rfl⟩
    · rw [hcount]
    · rw [hcount]
      rfl
  | bool b => simpa only [HomeVC.checkStatus, hk] using hlabel
  | num m => simpa only [HomeVC.checkStatus, hk] using hlabel
  | str t => simpa only [HomeVC.checkStatus, hk] using hlabel

theorem node_child (hv : s.node = some v) (hk : s.screen.home.crowd_id = some k) (c : String) :
    getAt (crowdPath k ++ [c]) s.screen.database = v.child c := by
  rw [node, hk, Option.bind_some] at hv
  rw [getAt_append, hv, Option.bind_some]
  cases hc : v.child c <;> simp only [getAt, hc, Option.bind_none, Option.bind_some]

/-- With the right count in the database, the observer sets the right label. -/
theorem Shows.write (hk : s.screen.home.crowd_id = some k) (h0 : 0 ≤ n) (hn : n < 2 ^ 63)
    (hlabel : s.screen.home.numberOfCrowd = some (toString n))
    (hcount : getAt (crowdPath k ++ ["numberOfPeople"]) (w.apply s.screen.database) =
        some (.str (toString n)) ∨
      getAt (crowdPath k ++ ["numberOfPeople"]) (w.apply s.screen.database) = none ∧ n = 0) :
    Shows n (s.write w) := by
  obtain ⟨-, -, hid, hdatabase⟩ := write_frame s w
  refine ⟨h0, hn, ?_, ?_⟩
  · simp only [PeopleCounter.write]
    split
    · rename_i value hv
      rw [node_child hv hk] at hcount
      split
      · exact checkStatus_label hk hlabel value hcount
      · exact hlabel
    · exact hlabel
  · rw [HomeScreen.stored_eq (hid.trans hk), hdatabase]
    exact hcount

/-- Only the two buttons and a snapshot set the label. -/
theorem step_numberOfCrowd (hs : h.step distance v e = some (h', ws))
    (hc : e.child ≠ some "numberOfPeople") (hobs : e ≠ .observed) :
    h'.numberOfCrowd = h.numberOfCrowd := by
  rcases HomeVC.step_home hs hobs with ⟨-, status, rfl⟩ | ⟨hcount, -⟩ | ⟨-, l, rfl⟩
  · rfl
  · exact absurd hcount hc
  · rfl

theorem Shows.foldl (h : Shows n s) (hk : s.screen.home.crowd_id = some k)
    (hws : ∀ w ∈ ws, HomeVC.Writes k e w) (hc : e.child ≠ some "numberOfPeople") :
    Shows n (ws.foldl PeopleCounter.write s) := by
  induction ws generalizing s with
  | nil => exact h
  | cons w ws ih =>
    have hcount := h.count
    rw [HomeScreen.stored_eq hk] at hcount
    rw [← (hws w List.mem_cons_self).other hc] at hcount
    have hw := Shows.write hk h.nonneg h.int h.label hcount
    exact ih hw ((write_frame s w).2.2.1.trans hk) fun w hw => hws w (List.mem_cons_of_mem _ hw)

theorem foldl_frame (s : PeopleCounter) (ws : List Write) :
    (ws.foldl write s).observed = s.observed ∧ (ws.foldl write s).screen.shown = s.screen.shown ∧
      (ws.foldl write s).screen.home.crowd_id = s.screen.home.crowd_id ∧
      (ws.foldl write s).screen.database =
        ws.foldl (fun t w => w.apply t) s.screen.database := by
  induction ws generalizing s with
  | nil => exact ⟨rfl, rfl, rfl, rfl⟩
  | cons w ws ih =>
    obtain ⟨hobserved, hshown, hid, hdatabase⟩ := ih (s.write w)
    obtain ⟨hobserved', hshown', hid', hdatabase'⟩ := write_frame s w
    rw [hdatabase'] at hdatabase
    exact ⟨hobserved.trans hobserved', hshown.trans hshown', hid.trans hid', hdatabase⟩

theorem foldl_unobserved (hs : ¬s.observed) (ws : List Write) :
    (ws.foldl write s).screen.home = s.screen.home := by
  induction ws generalizing s with
  | nil => rfl
  | cons w ws ih =>
    have hw : ¬(s.write w).observed := by rwa [(write_frame s w).1]
    exact (ih hw).trans (write_unobserved hs w)

/-- What a press or a callback does, with the writes of its handler. -/
theorem step_client (hs : s.step distance (.client e) = some s') :
    s.screen.shown ∧ e ≠ .observed ∧ ∃ home ws,
      s.screen.home.step distance (.obj .empty) e = some (home, ws) ∧
      s' = ws.foldl write { s with screen.home := home } := by
  obtain ⟨⟨hshown, hobs⟩, hs⟩ := Option.ite_none_right_eq_some.1 hs
  obtain ⟨⟨home, ws⟩, hstep, rfl⟩ := Option.map_eq_some_iff.1 hs
  exact ⟨hshown, hobs, home, ws, hstep, rfl⟩

theorem step_eq_some (hshown : s.screen.shown) (hobs : e ≠ .observed)
    (hs : s.screen.home.step distance (.obj .empty) e = some (home, ws)) :
    s.step distance (.client e) = some (ws.foldl write { s with screen.home := home }) := by
  rw [step, if_pos ⟨hshown, hobs⟩, hs]
  rfl

theorem client_frame (hs : s.step distance (.client e) = some s') :
    s'.observed = s.observed ∧ s'.screen.shown = s.screen.shown ∧
      s'.screen.home.crowd_id = s.screen.home.crowd_id := by
  obtain ⟨-, -, home, ws, hstep, rfl⟩ := step_client hs
  obtain ⟨hobserved, hshown, hid, -⟩ := foldl_frame { s with screen.home := home } ws
  exact ⟨hobserved, hshown, hid.trans (HomeVC.step_crowd_id hstep)⟩

/-- A handler that sets a number leaves it shown. -/
theorem Shows.setNumberOfPeople (hk : s.screen.home.crowd_id = some k) (h0 : 0 ≤ n)
    (hn : n < 2 ^ 63) :
    Shows n ((s.screen.home.setNumberOfPeople n).2.foldl PeopleCounter.write
      { s with screen.home := (s.screen.home.setNumberOfPeople n).1 }) := by
  rw [HomeVC.setNumberOfPeople_eq hk, List.foldl_cons, List.foldl_nil]
  exact Shows.write (k := k) hk h0 hn rfl (.inl (getAt_setAt_self _ _ _))

theorem Shows.increment (h : Shows n s) (distance : CLLocation → CLLocation → Rat)
    (hshown : s.screen.shown) (hk : s.screen.home.crowd_id = some k) (hn : n + 10 < 2 ^ 63) :
    ∃ s', s.step distance (.client .incrementHandler) = some s' ∧ Shows (n + 10) s' := by
  have hinc : s.screen.home.incrementHandler =
      some (s.screen.home.setNumberOfPeople (n + 10)) := by
    rw [HomeVC.incrementHandler, h.label, Option.bind_some, int_toString h.nonneg h.int]
    exact if_pos hn
  have h0 := h.nonneg
  exact ⟨_, step_eq_some hshown (fun he => by cases he) hinc, .setNumberOfPeople hk (by omega) hn⟩

theorem Shows.decrement (h : Shows n s) (distance : CLLocation → CLLocation → Rat)
    (hshown : s.screen.shown) (hk : s.screen.home.crowd_id = some k) :
    ∃ s', s.step distance (.client .decrementHandler) = some s' ∧
      if 10 ≤ n then Shows (n - 10) s' else s' = s := by
  have h0 := h.nonneg
  have hn := h.int
  have hlow : -2 ^ 63 ≤ n - 10 := by omega
  by_cases h10 : 10 ≤ n
  · have hdec : s.screen.home.decrementHandler =
        some (s.screen.home.setNumberOfPeople (n - 10)) := by
      rw [HomeVC.decrementHandler, h.label, Option.bind_some, int_toString h0 hn]
      exact (if_pos hlow).trans (if_pos (by omega))
    refine ⟨_, step_eq_some hshown (fun he => by cases he) hdec, ?_⟩
    rw [if_pos h10]
    exact .setNumberOfPeople hk (by omega) (by omega)
  · have hdec : s.screen.home.decrementHandler = some (s.screen.home, []) := by
      rw [HomeVC.decrementHandler, h.label, Option.bind_some, int_toString h0 hn]
      exact (if_pos hlow).trans (if_neg (by omega))
    refine ⟨_, step_eq_some hshown (fun he => by cases he) hdec, ?_⟩
    rw [if_neg h10]
    rfl

theorem Shows.client (h : Shows n s) (hk : s.screen.home.crowd_id = some k)
    (hs : s.step distance (.client e) = some s')
    (hc : e.child ≠ some "numberOfPeople") : Shows n s' := by
  obtain ⟨-, hobs, home, ws, hstep, rfl⟩ := step_client hs
  have hid := HomeVC.step_crowd_id hstep
  have hhome : Shows n { s with screen.home := home } := by
    refine ⟨h.nonneg, h.int, (step_numberOfCrowd hstep hc hobs).trans h.label, ?_⟩
    have hcount := h.count
    rw [HomeScreen.stored, ← hid] at hcount
    exact hcount
  exact hhome.foldl (hid.trans hk) (HomeVC.writes_of_crowd_id hk hstep) hc

/-- Whatever is pressed, a number stays shown. -/
theorem Shows.next (h : Shows n s) (hk : s.screen.home.crowd_id = some k)
    (hs : s.step distance (.client e) = some s') : ∃ m, Shows m s' := by
  have hshown := (step_client hs).1
  by_cases hinc : e = .incrementHandler
  · subst hinc
    have hn : n + 10 < 2 ^ 63 := by
      obtain ⟨-, -, home, ws, hstep, -⟩ := step_client hs
      simp only [HomeVC.step, HomeVC.incrementHandler, h.label, Option.bind_some,
        int_toString h.nonneg h.int] at hstep
      exact (Option.ite_none_right_eq_some.1 hstep).1
    obtain ⟨t, ht, hshows⟩ := h.increment distance hshown hk hn
    rw [hs, Option.some.injEq] at ht
    exact ⟨n + 10, ht ▸ hshows⟩
  by_cases hdec : e = .decrementHandler
  · subst hdec
    obtain ⟨t, ht, hshows⟩ := h.decrement distance hshown hk
    rw [hs, Option.some.injEq] at ht
    subst ht
    split at hshows
    · exact ⟨n - 10, hshows⟩
    · exact ⟨n, hshows ▸ h⟩
  · exact ⟨n, h.client hk hs fun hc => (HomeVC.child_count.1 hc).elim hinc hdec⟩

theorem shows_snapshot (hs : s.step distance (.snapshot data) = some s')
    (hC : Canonical (.snapshot data)) : s'.observed ∧ s'.screen.shown ∧
      ∃ k, s'.screen.home.crowd_id = some k ∧ ∃ n, Shows n s' := by
  obtain ⟨screen, hscreen, rfl⟩ := Option.map_eq_some_iff.1 hs
  obtain ⟨hshown, hs⟩ := Option.ite_none_right_eq_some.1 hscreen
  obtain ⟨k, hk, rfl⟩ := Option.map_eq_some_iff.1 hs
  have hid := (HomeScreen.checkStatus_eq hk data).1
  refine ⟨rfl, hshown, k, hid, ?_⟩
  have hstored : getAt (crowdPath k ++ ["numberOfPeople"])
      (setAt (crowdPath k) (.obj data) s.screen.database) = data.get "numberOfPeople" := by
    rw [getAt_append, getAt_setAt_self, Option.bind_some, getAt, Json.child_obj]
    cases data.get "numberOfPeople" <;> rfl
  cases hv : data.get "numberOfPeople" with
  | none =>
    refine ⟨0, Int.le_refl 0, by decide, ?_, .inr ⟨?_, rfl⟩⟩
    · simp only [HomeVC.checkStatus, hk, hv]
      rfl
    · rw [HomeScreen.stored_eq hid, hstored, hv]
  | some v =>
    obtain ⟨n, h0, hn, rfl⟩ := hC v hv
    refine ⟨n, h0, hn, ?_, .inl ?_⟩
    · simp only [HomeVC.checkStatus, hk, hv]
    · rw [HomeScreen.stored_eq hid, hstored, hv]

/-- Before the first snapshot the label is empty, from then on a number is shown. -/
inductive Phase (t : PeopleCounter × List HomeEvent) : Prop where
  | waiting (hs : ¬t.1.observed) (hnot : ¬Observed t.2)
      (hlabel : t.1.screen.home.numberOfCrowd = none)
  | showing (hs : t.1.observed) (hobs : Observed t.2) (hshown : t.1.screen.shown)
      (hk : t.1.screen.home.crowd_id = some k) (h : Shows m t.1)

theorem observed_snapshot (hist : List HomeEvent) (data : Record Json) :
    Observed (hist ++ [.snapshot data]) :=
  ⟨data, List.mem_append_right _ List.mem_cons_self⟩

theorem observed_client (hist : List HomeEvent) (e : ClientEvent) :
    Observed (hist ++ [.client e]) ↔ Observed hist := by
  simp [Observed]

/-- An empty label is no number. -/
theorem handlers_of_empty (hlabel : h.numberOfCrowd = none) :
    h.incrementHandler = some (h, []) ∧ h.decrementHandler = some (h, []) := by
  rw [HomeVC.incrementHandler, HomeVC.decrementHandler, hlabel]
  exact ⟨rfl, rfl⟩

theorem Phase.counts {t : PeopleCounter × List HomeEvent} (h : Phase t) : Counts distance t := by
  cases h with
  | waiting hs hnot hlabel =>
    exact ⟨fun h => absurd h hnot, fun _ => handlers_of_empty hlabel⟩
  | showing hs hobs hshown hk h =>
    refine ⟨fun _ => ⟨_, h, h.increment distance hshown hk, h.decrement distance hshown hk⟩, ?_⟩
    rintro (hnot | hk')
    · exact absurd hobs hnot
    · rw [hk] at hk'
      cases hk'

/-- Before the first snapshot no event sets the label. -/
theorem client_waiting (hs : s.step distance (.client e) = some s') (hnot : ¬s.observed)
    (hlabel : s.screen.home.numberOfCrowd = none) : s'.screen.home.numberOfCrowd = none := by
  obtain ⟨-, hobs, home, ws, hstep, rfl⟩ := step_client hs
  rw [foldl_unobserved (s := { s with screen.home := home }) hnot]
  obtain ⟨hinc, hdec⟩ := handlers_of_empty hlabel
  by_cases he : e = .incrementHandler
  · subst he
    cases hinc.symm.trans hstep
    exact hlabel
  by_cases he' : e = .decrementHandler
  · subst he'
    cases hdec.symm.trans hstep
    exact hlabel
  · have hc : e.child ≠ some "numberOfPeople" := fun hc =>
      (HomeVC.child_count.1 hc).elim he he'
    exact (step_numberOfCrowd hstep hc hobs).trans hlabel

theorem Phase.step {t t' : PeopleCounter × List HomeEvent} {e : HomeEvent} (h : Phase t)
    (hs : withHistory (step distance) t e = some t') (hC : Canonical e) : Phase t' := by
  obtain ⟨hs, hist⟩ := withHistory_some hs
  obtain ⟨s', es'⟩ := t'
  subst hist
  cases e with
  | client e =>
    obtain ⟨hobserved, hshown', hid⟩ := client_frame hs
    cases h with
    | waiting hs' hnot hlabel =>
      refine .waiting (by rwa [hobserved]) ?_ (client_waiting hs hs' hlabel)
      rwa [observed_client]
    | showing hs' hobs hshown hk h =>
      obtain ⟨m, hm⟩ := h.next hk hs
      refine .showing (by rwa [hobserved]) ?_ (by rwa [hshown']) (hid.trans hk) hm
      rwa [observed_client]
  | snapshot data =>
    obtain ⟨hobs, hshown, k, hk, n, hn⟩ := shows_snapshot hs hC
    exact .showing hobs (observed_snapshot t.2 data) hshown hk hn

/-- The counter stays a non-negative number in step with the database. -/
theorem counts_people (distance : CLLocation → CLLocation → Rat) (signedIn : Bool)
    (saved : Option Model.Campaign) (database : Json) (es : List HomeEvent)
    (h : Along (withHistory (step distance)) (fun _ e => Canonical e)
      (opened signedIn saved database, []) es) :
    Always (withHistory (step distance)) (Counts distance)
      (opened signedIn saved database, []) es := by
  apply Always.of_invariant Phase ?_ ?_ ?_ h
  · exact fun t h => h.counts
  · exact fun t e t' h hs hC => h.step hs hC
  · refine .waiting Bool.false_ne_true ?_ rfl
    rintro ⟨data, hdata⟩
    cases hdata

def people (total : String) : Record Json := Record.empty.put "numberOfPeople" (.str total)

def pressed : List HomeEvent :=
  [.client .incrementHandler, .snapshot (people "5"), .client .incrementHandler,
    .client .decrementHandler, .client .decrementHandler, .client .incrementHandler]

def resumed : PeopleCounter := opened true (some ⟨⟨"c", "k"⟩, "", "", "", ""⟩) (.obj .empty)

/-- The first press comes too early, the second - finds less than ten. -/
theorem counts_people_pressed :
    Along (withHistory (step fun _ _ => 0)) (fun _ e => Canonical e) (resumed, []) pressed ∧
      Always (withHistory (step fun _ _ => 0)) (Counts fun _ _ => 0) (resumed, []) pressed ∧
      (List.range 7).map (fun i => (run (step fun _ _ => 0) resumed (pressed.take i)).map fun s =>
        (s.screen.home.numberOfCrowd, s.screen.stored "numberOfPeople")) =
        [some (none, none), some (none, none), some (some "5", some (.str "5")),
          some (some "15", some (.str "15")), some (some "5", some (.str "5")),
          some (some "5", some (.str "5")), some (some "15", some (.str "15"))] := by
  have hpeople : Canonical (.snapshot (people "5")) := by
    rintro v ⟨⟩
    exact ⟨5, by decide, by decide, rfl⟩
  have h : Along (withHistory (step fun _ _ => 0)) (fun _ e => Canonical e) (resumed, [])
      pressed :=
    fun _ _ => ⟨trivial, fun _ _ => ⟨hpeople, fun _ _ => ⟨trivial, fun _ _ => ⟨trivial,
      fun _ _ => ⟨trivial, fun _ _ => ⟨trivial, trivial⟩⟩⟩⟩⟩⟩
  exact ⟨h, counts_people _ _ _ _ _ h, by decide +kernel⟩

/-- A later snapshot takes the place of an earlier one. -/
theorem checkStatus_checkStatus (h : HomeVC) (v : Json) (data : Record Json) :
    (h.checkStatus v).checkStatus (.obj data) = h.checkStatus (.obj data) := by
  have hid := HomeVC.checkStatus_crowd_id h v
  cases hk : h.crowd_id with
  | none => simp only [HomeVC.checkStatus, hk]
  | some k =>
    rw [hk] at hid
    cases v with
    | obj data' =>
      rw [HomeVC.checkStatus.eq_def (h.checkStatus _), hid]
      simp only [HomeVC.checkStatus, hk, HomeVC.toggleStatus]
    | bool b => simp only [HomeVC.checkStatus, hk]
    | num m => simp only [HomeVC.checkStatus, hk]
    | str t => simp only [HomeVC.checkStatus, hk]

theorem write_home (hs : s.observed) (hv : (s.write w).node = some v) :
    (s.write w).screen.home =
      if s.node = some v then s.screen.home else s.screen.home.checkStatus v := by
  obtain ⟨-, -, hid, hdatabase⟩ := write_frame s w
  have hnode : { s with screen.database := w.apply s.screen.database }.node = some v := by
    rw [node, hid, hdatabase] at hv
    exact hv
  simp only [write, hnode]
  by_cases hsame : s.node = some v
  · rw [if_pos hsame, if_neg fun h => h.2 hsame]
  · rw [if_neg hsame, if_pos ⟨hs, hsame⟩]

theorem node_written (hk : s.screen.home.crowd_id = some k) (hw : HomeVC.Writes k e w) :
    ∃ data, (s.write w).node = some (.obj data) := by
  obtain ⟨-, -, hid, hdatabase⟩ := write_frame s w
  obtain ⟨c, -, hpath⟩ := hw.path
  rw [node, hid, hk, Option.bind_some, hdatabase]
  exact getAt_apply_obj hpath hw.nonempty

/-- What the observer makes of the screen is what the last value of the node makes of it. -/
theorem foldl_observed (hs : s.observed) (hk : s.screen.home.crowd_id = some k)
    (hws : ∀ w ∈ ws, HomeVC.Writes k e w) :
    ((ws.foldl write s).node = s.node ∧ (ws.foldl write s).screen.home = s.screen.home) ∨
      ∃ data, (ws.foldl write s).node = some (.obj data) ∧
        (ws.foldl write s).screen.home = s.screen.home.checkStatus (.obj data) := by
  induction ws generalizing s with
  | nil => exact .inl ⟨rfl, rfl⟩
  | cons w ws ih =>
    obtain ⟨hobserved, -, hid, -⟩ := write_frame s w
    obtain ⟨data, hdata⟩ := node_written hk (hws w List.mem_cons_self)
    have hhome := write_home hs hdata
    have hrest := ih (by rwa [hobserved]) (hid.trans hk) fun w hw =>
      hws w (List.mem_cons_of_mem _ hw)
    rw [hdata, hhome] at hrest
    by_cases hsame : s.node = some (.obj data)
    · rwa [if_pos hsame, ← hsame] at hrest
    · rw [if_neg hsame] at hrest
      right
      rcases hrest with ⟨hnode, hlast⟩ | ⟨data', hnode, hlast⟩
      · exact ⟨data, hnode, hlast⟩
      · exact ⟨data', hnode, hlast.trans (checkStatus_checkStatus _ _ _)⟩

theorem client_home (hstep : s.screen.home.step distance (.obj .empty) e = some (home, ws)) :
    (ws.foldl write { s with screen.home := home }).screen.home = home ∨
      ∃ data, (ws.foldl write { s with screen.home := home }).node = some (.obj data) ∧
        (ws.foldl write { s with screen.home := home }).screen.home =
          home.checkStatus (.obj data) := by
  have hid := HomeVC.step_crowd_id hstep
  by_cases hs : s.observed
  · cases hk : s.screen.home.crowd_id with
    | none =>
      rw [HomeVC.writes_of_no_crowd_id hk hstep]
      exact .inl rfl
    | some k =>
      have hws := HomeVC.writes_of_crowd_id hk hstep
      rcases foldl_observed (s := { s with screen.home := home }) hs (hid.trans hk) hws with
        ⟨-, hhome⟩ | hdata
      · exact .inl hhome
      · exact .inr hdata
  · exact .inl (foldl_unobserved (s := { s with screen.home := home }) hs ws)

/-- A press with what its deliveries do is a press and at most one snapshot. -/
theorem step_simulates (s : PeopleCounter) (e : HomeEvent) (s' : PeopleCounter)
    (hs : s.step distance e = some s') :
    ∃ es, run (HomeScreen.step distance) s.screen es = some s'.screen := by
  cases e with
  | snapshot data =>
    obtain ⟨screen, hscreen, rfl⟩ := Option.map_eq_some_iff.1 hs
    exact ⟨[.snapshot data], by rw [run_cons, hscreen]; rfl⟩
  | client e =>
    obtain ⟨hshown, hobs, home, ws, hstep, rfl⟩ := step_client hs
    have hhome := client_home hstep
    obtain ⟨-, hshown', hid, hdatabase⟩ := foldl_frame { s with screen.home := home } ws
    have hclient : s.screen.step distance (.client e) =
        some { s.screen with
          home := home, database := ws.foldl (fun t w => w.apply t) s.screen.database } := by
      rw [HomeScreen.step, if_pos ⟨hshown, hobs⟩, hstep]
      rfl
    generalize ws.foldl write { s with screen.home := home } = t at hhome hshown' hid hdatabase ⊢
    obtain ⟨⟨shown, home', database⟩, observed⟩ := t
    simp only at hhome hshown' hid hdatabase
    subst hshown' hdatabase
    rcases hhome with rfl | ⟨data, hnode, rfl⟩
    · exact ⟨[.client e], by rw [run_cons, hclient]; rfl⟩
    · obtain ⟨k, hk, hdata⟩ := Option.bind_eq_some_iff.1 hnode
      refine ⟨[.client e, .snapshot data], ?_⟩
      rw [run_cons, hclient, Option.bind_some, run_cons, HomeScreen.step, if_pos hshown]
      rw [hid] at hk
      rw [hk, Option.map_some, setAt_getAt hdata]
      rfl

/-- The observed screen behaves as the screen does. -/
theorem run_screen (h : run (step distance) s es = some s') :
    ∃ fs, run (HomeScreen.step distance) s.screen fs = some s'.screen :=
  run_simulates PeopleCounter.screen step_simulates h

end PeopleCounter

end CrowdTracking
