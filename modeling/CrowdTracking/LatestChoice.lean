import CrowdTracking.Session

namespace CrowdTracking
set_option autoImplicit true
open Database Runs

/-- The guide's choices: whether Start came last, the slider, and its value at the last Start. -/
structure Choices where
  started : Bool
  slider : Nat
  count : Option Nat
deriving DecidableEq

namespace Choices

def initial : Choices := ⟨false, 0, none⟩

/-- A permission that is granted on request counts as the Start it completes. -/
def next (c : Choices) (e : MainEvent) : Choices :=
  if e.starts then { c with started := true, count := some c.slider }
  else
    match e with
    | .buttonStop => { c with started := false }
    | .onProgressChanged i => { c with slider := i }
    | _ => c

def of (hist : List MainEvent) : Choices := hist.foldl next initial

def status (c : Choices) : String := if c.started then "Active" else "inActive"

end Choices

namespace MainActivity

/-- The listener is one that this screen has created, removed or not. -/
def Created (a : MainActivity) (p : Phone) (l : LocationListener) : Prop :=
  l.activity = a.number ∧ l.serial < p.created

instance (a : MainActivity) (p : Phone) (l : LocationListener) : Decidable (Created a p l) :=
  inferInstanceAs (Decidable (_ ∧ _))

/-- One event on the screen, where every listener that was ever created may be called back. -/
def stepAny (a : MainActivity) (p : Phone) : MainEvent → Option (MainActivity × Phone × List Write)
  | .onLocationChanged l lat lng =>
    if a.Created p l then some (a.onLocationChanged p lat lng) else none
  | .onProviderEnabled l => if a.Created p l then some (a, p, []) else none
  | .onProviderDisabled l => if a.Created p l then some (a.onProviderDisabled, p, []) else none
  | e => a.step p e

/-- A write to the crowd's node that says what the guide chose last; a location callback writes its
own position. -/
structure Latest (k : String) (c : Choices) (e : MainEvent) (data : Record Json) (w : Write) :
    Prop where
  write : w = .setValue (crowdPath k) (.obj data)
  status : data.get "status" = some (.str c.status)
  numberOfPeople : ∃ n, c.count = some n ∧ data.get "numberOfPeople" = some (.num (.finite n))
  location : ∀ lat lng, e.fix = some (lat, lng) → ∃ location,
    data.get "location" = some location ∧ location.child "lat" = some (.num (.finite lat)) ∧
      location.child "lng" = some (.num (.finite lng))

/-- What the screen and the session hold of the choices once there is a listener. -/
structure Chosen (campaign : String) (a : MainActivity) (p : Phone) (c : Choices) : Prop where
  campaign_id : p.tafweej.campaign_id = some campaign
  slider : a.progressValue = c.slider
  held : p.created ≠ 0 → a.locationListener.isSome
  granted : a.locationListener.isSome → p.fineGranted
  status : a.locationListener.isSome → p.tafweej.status = some c.status
  count : a.locationListener.isSome →
    ∃ n, c.count = some n ∧ a.crowdData.get "numberOfPeople" = some (.num (.finite n))

variable {campaign : String} {a a' : MainActivity} {p p' : Phone} {c : Choices} {e : MainEvent}
  {ws : List Write}

theorem next_of_listener (h : e.listener = some l) (c : Choices) : c.next e = c := by
  cases e with
  | onLocationChanged | onProviderEnabled | onProviderDisabled => rfl
  | _ => cases h

/-- The three callbacks of a created listener, and the events of `step` that are none. -/
theorem stepAny_cases (h : a.stepAny p e = some (a', p', ws)) :
    (e.listener = none ∧ a.step p e = some (a', p', ws)) ∨
      ∃ l, e.listener = some l ∧ a.Created p l ∧
        ((∃ lat lng, e = .onLocationChanged l lat lng ∧
            (a', p', ws) = a.onLocationChanged p lat lng) ∨
          (e.fix = none ∧ p' = p ∧ ws = [] ∧ (a' = a ∨ a' = a.onProviderDisabled))) := by
  cases e with
  | onLocationChanged l lat lng =>
    obtain ⟨hl, h⟩ := Option.ite_none_right_eq_some.1 h
    exact .inr ⟨l, rfl, hl, .inl ⟨lat, lng, rfl, (Option.some.inj h).symm⟩⟩
  | onProviderEnabled l =>
    obtain ⟨hl, h⟩ := Option.ite_none_right_eq_some.1 h
    cases h
    exact .inr ⟨l, rfl, hl, .inr ⟨rfl, rfl, rfl, .inl rfl⟩⟩
  | onProviderDisabled l =>
    obtain ⟨hl, h⟩ := Option.ite_none_right_eq_some.1 h
    cases h
    exact .inr ⟨l, rfl, hl, .inr ⟨rfl, rfl, rfl, .inr rfl⟩⟩
  | _ => exact .inl ⟨rfl, h⟩

/-- A registered listener of the screen is a created one. -/
theorem stepAny_of_step (hp : ∀ l ∈ p.registered, l.serial < p.created)
    (h : a.step p e = some r) : a.stepAny p e = some r := by
  cases e with
  | onLocationChanged l lat lng =>
    obtain ⟨hl, h⟩ := Option.ite_none_right_eq_some.1 h
    exact Option.ite_none_right_eq_some.2 ⟨⟨hl.2, hp l hl.1⟩, h⟩
  | onProviderEnabled l =>
    obtain ⟨hl, h⟩ := Option.ite_none_right_eq_some.1 h
    exact Option.ite_none_right_eq_some.2 ⟨⟨hl.2, hp l hl.1⟩, h⟩
  | onProviderDisabled l =>
    obtain ⟨hl, h⟩ := Option.ite_none_right_eq_some.1 h
    exact Option.ite_none_right_eq_some.2 ⟨⟨hl.2, hp l hl.1⟩, h⟩
  | _ => exact h

theorem Stepped.serial (h : a.Stepped p e a' p' ws)
    (hp : ∀ l ∈ p.registered, l.serial < p.created) :
    ∀ l ∈ p'.registered, l.serial < p'.created := by
  cases h with
  | started =>
    intro l hl
    rcases List.mem_append.1 hl with hl | hl
    · exact Nat.lt_succ_of_lt (hp l hl)
    · rw [List.mem_singleton.1 hl]
      exact Nat.lt_succ_self _
  | stopped => exact fun l hl => hp l (List.mem_of_mem_filter hl)
  | _ => exact hp

/-- What a location callback puts into the map. -/
theorem Chosen.located (h : Chosen campaign a p c) (hl : a.locationListener.isSome)
    (lat lng : Rat) (l : LocationListener) :
    Chosen campaign (a.onLocationChanged p lat lng).1 p c ∧
      Latest a.child c (.onLocationChanged l lat lng)
        (a.onLocationChanged p lat lng).1.crowdData
        (.setValue (crowdPath a.child) (.obj (a.onLocationChanged p lat lng).1.crowdData)) := by
  have hdata : (a.onLocationChanged p lat lng).1.crowdData =
      ((a.crowdData.put "campaign_id" (.str campaign)).put "location"
        (.obj ((a.mLocation.put "lat" (.num (.finite lat))).put "lng" (.num (.finite lng))))).put
        "status" (.str c.status) := by
    simp only [onLocationChanged, h.campaign_id, h.status hl, putNullable]
  obtain ⟨n, hn, hcount⟩ := h.count hl
  have hnumber : (a.onLocationChanged p lat lng).1.crowdData.get "numberOfPeople" =
      some (.num (.finite n)) := by
    rw [hdata, ← hcount]
    simp [Record.get_put]
  refine ⟨⟨h.campaign_id, h.slider, h.held, h.granted, h.status, fun _ => ⟨n, hn, hnumber⟩⟩, ?_⟩
  refine ⟨rfl, ?_, ⟨n, hn, hnumber⟩, ?_⟩
  · rw [hdata, Record.get_put_self]
  · rintro lat' lng' ⟨⟩
    rw [hdata, Record.get_put_of_ne _ _ (by decide), Record.get_put_self]
    refine ⟨_, rfl, ?_, ?_⟩
    · rw [Json.child_obj, Record.get_put_of_ne _ _ (by decide), Record.get_put_self]
    · rw [Json.child_obj, Record.get_put_self]

theorem getLocation_progressValue (h : a.getLocation p = some (a', p', ws)) :
    a'.progressValue = a.progressValue := by
  obtain ⟨t, fine, coarse, service, registered, created⟩ := p
  cases service with
  | false =>
    simp only [getLocation, Bool.false_eq_true, ↓reduceIte] at h
    obtain ⟨-, h⟩ := Option.ite_none_right_eq_some.1 h
    cases h
    rfl
  | true =>
    simp only [getLocation, ↓reduceIte] at h
    split at h
    · cases h
      rfl
    · cases h
      rfl

/-- The slider is moved by the guide alone. -/
theorem step_progressValue (h : a.step p e = some (a', p', ws)) (hl : e.listener = none)
    (hs : a.progressValue = c.slider) : a'.progressValue = (c.next e).slider := by
  cases e with
  | onProgressChanged i =>
    obtain ⟨-, h⟩ := Option.ite_none_right_eq_some.1 h
    cases h
    rfl
  | buttonStart =>
    obtain ⟨-, h⟩ := Option.ite_none_right_eq_some.1 h
    rw [buttonStart] at h
    split at h
    · cases h
      exact hs
    · exact (getLocation_progressValue h).trans hs
  | buttonStop =>
    obtain ⟨-, h⟩ := Option.ite_none_right_eq_some.1 h
    rw [buttonStop] at h
    split at h
    · obtain ⟨l, -, h⟩ := Option.map_eq_some_iff.1 h
      cases h
      exact hs
    · cases h
  | permissions fine coarse =>
    cases h
    exact hs
  | onRequestPermissionsResult grantResults =>
    have hslider : (c.next (.onRequestPermissionsResult grantResults)).slider = c.slider := by
      simp only [Choices.next]
      split <;> rfl
    rw [hslider, ← hs]
    simp only [step, onRequestPermissionsResult] at h
    split at h
    · split at h
      · exact getLocation_progressValue h
      · cases h
        rfl
    · cases h
      rfl
  | _ => cases hl

/-- An event that is no Start of a screen with a listener, nor Stop, leaves the choices. -/
theorem next_unchanged (hstart : e.starts = false) (hstop : e ≠ .buttonStop) :
    (c.next e).started = c.started ∧ (c.next e).count = c.count := by
  simp only [Choices.next, hstart, Bool.false_eq_true, ↓reduceIte]
  cases e with
  | buttonStop => exact absurd rfl hstop
  | _ => exact ⟨rfl, rfl⟩

theorem Chosen.step (h : Chosen campaign a p c) (hs : a.step p e = some (a', p', ws))
    (hl : e.listener = none) :
    Chosen campaign a' p' (c.next e) ∧
      ∀ w ∈ ws, Latest a.child (c.next e) e a'.crowdData w := by
  have hslider := step_progressValue hs hl h.slider
  cases step_stepped hs with
  | idle n fine coarse hf hl hfix hdis hstop hstart =>
    refine ⟨?_, fun w hw => by cases hw⟩
    have hsame : a.locationListener.isSome →
        (c.next e).started = c.started ∧ (c.next e).count = c.count := by
      intro hheld
      apply next_unchanged ?_ hstop
      by_contra hne
      have hfine := h.granted hheld
      rw [hstart (by simpa using hne)] at hfine
      cases hfine
    refine ⟨h.campaign_id, hslider, h.held, fun hheld => hf (h.granted hheld), ?_, ?_⟩
    · intro hheld
      rw [Choices.status, (hsame hheld).1]
      exact h.status hheld
    · intro hheld
      rw [(hsame hheld).2]
      exact h.count hheld
  | started hstart hfine hvis hservice =>
    refine ⟨?_, fun w hw => by cases hw⟩
    have hnext : c.next e = { c with started := true, count := some c.slider } := if_pos hstart
    rw [hnext] at hslider ⊢
    refine ⟨h.campaign_id, hslider, fun _ => rfl, fun _ => hfine, fun _ => rfl, fun _ => ?_⟩
    refine ⟨c.slider, rfl, ?_⟩
    rw [Record.get_put_self, h.slider]
  | located he => rw [he] at hl; cases hl
  | disabled he => rw [he] at hl; cases hl
  | stopped he hvis hheld =>
    subst he
    have hsome : a.locationListener.isSome := Option.isSome_of_eq_some hheld
    obtain ⟨n, hn, hcount⟩ := h.count hsome
    have hnumber : (a.crowdData.put "status" (.str "inActive")).get "numberOfPeople" =
        some (.num (.finite n)) := by
      rw [Record.get_put_of_ne _ _ (by decide), hcount]
    refine ⟨⟨h.campaign_id, hslider, h.held, h.granted, fun _ => rfl, ?_⟩, ?_⟩
    · exact fun _ => ⟨n, hn, hnumber⟩
    · intro w hw
      rw [List.mem_singleton] at hw
      exact ⟨hw, Record.get_put_self _ _ _, ⟨n, hn, hnumber⟩, fun lat lng hfix => by cases hfix⟩

theorem Chosen.stepAny (h : Chosen campaign a p c) (hs : a.stepAny p e = some (a', p', ws)) :
    Chosen campaign a' p' (c.next e) ∧
      ∀ w ∈ ws, Latest a.child (c.next e) e a'.crowdData w := by
  rcases stepAny_cases hs with ⟨hl, hs⟩ | ⟨l, hl, hcreated, hcall⟩
  · exact h.step hs hl
  · rw [next_of_listener hl]
    have hheld := h.held (Nat.ne_zero_of_lt hcreated.2)
    rcases hcall with ⟨lat, lng, rfl, hresult⟩ | ⟨hfix, rfl, rfl, rfl | rfl⟩
    · obtain ⟨hchosen, hlatest⟩ := h.located hheld lat lng l
      cases hresult
      refine ⟨hchosen, ?_⟩
      intro w hw
      rw [List.mem_singleton] at hw
      rw [hw]
      exact hlatest
    · exact ⟨h, fun w hw => by cases hw⟩
    · exact ⟨⟨h.campaign_id, h.slider, h.held, h.granted, h.status, h.count⟩,
        fun w hw => by cases hw⟩

end MainActivity

namespace Session

open MainActivity

/-- The step of the session when every listener ever created may be called back. -/
def stepAny (s : Session) (e : MainEvent) : Option Session :=
  (s.activity.stepAny s.phone e).map fun (activity, phone, writes) =>
    { activity := activity
      phone := phone
      database := writes.foldl (fun t w => w.apply t) s.database
      log := s.log ++ writes }

theorem run_stepAny_of_run {s s' : Session}
    (hp : ∀ l ∈ s.phone.registered, l.serial < s.phone.created) (h : run step s es = some s') :
    run stepAny s es = some s' := by
  induction es generalizing s with
  | nil => exact h
  | cons e es ih =>
    obtain ⟨t, ht, hr⟩ := Option.bind_eq_some_iff.1 h
    obtain ⟨ws, hs, -⟩ := step_stepped ht
    obtain ⟨r, hstep, rfl⟩ := Option.map_eq_some_iff.1 ht
    have hany : s.stepAny e = some _ := Option.map_eq_some_iff.2 ⟨r, stepAny_of_step hp hstep, rfl⟩
    rw [run_cons, hany, Option.bind_some]
    exact ih (hs.serial hp) hr

/-- Every write of the step says what the guide chose last. -/
def WritesLatest (s : Session × List MainEvent) (e : MainEvent) (s' : Session × List MainEvent) :
    Prop :=
  ∃ ws, s'.1.log = s.1.log ++ ws ∧
    ∀ w ∈ ws, ∃ data, Latest s.1.activity.child (Choices.of s'.2) e data w

theorem chosen_start (fine coarse service : Bool) (u : SignUp) (draw : Draw) (t : Json) :
    Chosen u.campaign_id (start fine coarse service u draw t).activity
      (start fine coarse service u draw t).phone (Choices.of []) :=
  ⟨rfl, rfl, fun h => absurd rfl h, (fun h => by cases h), (fun h => by cases h),
    (fun h => by cases h)⟩

/-- In every run after a verification, each write has the status of the last Start or Stop, the
slider's value at the last Start and, from a location callback, the position of that callback. -/
theorem writes_latest (fine coarse service : Bool) (u : SignUp) (draw : Draw) (t : Json)
    (es : List MainEvent) :
    Each (withHistory stepAny) WritesLatest (start fine coarse service u draw t, []) es := by
  apply each_of_invariant
    fun s => Chosen u.campaign_id s.1.activity s.1.phone (Choices.of s.2)
  · rintro s e ⟨s', hist'⟩ h hs
    obtain ⟨hs, rfl⟩ := withHistory_some hs
    obtain ⟨⟨a, p, ws⟩, hstep, rfl⟩ := Option.map_eq_some_iff.1 hs
    have hof : Choices.of (s.2 ++ [e]) = (Choices.of s.2).next e := List.foldl_append
    obtain ⟨hchosen, hlatest⟩ := h.stepAny hstep
    rw [WritesLatest, hof]
    exact ⟨⟨ws, rfl, fun w hw => ⟨_, hlatest w hw⟩⟩, hchosen⟩
  · exact chosen_start fine coarse service u draw t

end Session

end CrowdTracking
