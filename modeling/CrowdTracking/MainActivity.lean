import CrowdTracking.Tafweej

namespace CrowdTracking
set_option autoImplicit true
open Database

/-- An instance of the sharing screen: `number` tells the instances of the process apart, `child`
is the crowd id of the node it writes to, `locationManager` says that the field is not null. -/
structure MainActivity where
  number : Nat
  child : String
  progressValue : Nat
  mLocation : Record Json
  crowdData : Record Json
  locationManager : Bool
  locationListener : Option LocationListener
  startVisible : Bool
  stopVisible : Bool
  seekBarEnabled : Bool
deriving DecidableEq

inductive MainEvent where
  | onProgressChanged (i : Nat)
  | buttonStart
  | buttonStop
  | permissions (fine coarse : Bool)
  | onRequestPermissionsResult (grantResults : List Bool)
  | onLocationChanged (l : LocationListener) (lat lng : Rat)
  | onProviderEnabled (l : LocationListener)
  | onProviderDisabled (l : LocationListener)
deriving DecidableEq

def MainEvent.listener : MainEvent → Option LocationListener
  | .onLocationChanged l _ _ | .onProviderEnabled l | .onProviderDisabled l => some l
  | _ => none

def MainEvent.fix : MainEvent → Option (Rat × Rat)
  | .onLocationChanged _ lat lng => some (lat, lng)
  | _ => none

/-- An event that makes `getLocation` run when the permission is granted. -/
def MainEvent.starts : MainEvent → Bool
  | .buttonStart => true
  | .onRequestPermissionsResult grantResults => grantResults.head? = some true
  | _ => false

namespace MainActivity

def opened (number : Nat) (crowd_id : String) : MainActivity :=
  { number := number, child := crowd_id, progressValue := 0, mLocation := .empty,
    crowdData := .empty, locationManager := false, locationListener := none,
    startVisible := true, stopVisible := false, seekBarEnabled := true }

/-- `mRef.child(..)` throws on a null crowd id. -/
def onCreate (number : Nat) (t : Tafweej) : Option MainActivity := t.crowd_id.map (opened number)

/-- `none` is the exception of a null location service. -/
def getLocation (a : MainActivity) (p : Phone) : Option (MainActivity × Phone × List Write) :=
  let a := { a with locationManager := p.locationService }
  let (a, p) :=
    if a.locationManager then
      ({ a with
          stopVisible := true
          startVisible := false
          crowdData := a.crowdData.put "numberOfPeople" (.num (.finite a.progressValue))
          seekBarEnabled := false },
        { p with tafweej := { p.tafweej with status := some "Active" } })
    else (a, p)
  let listener := ⟨a.number, p.created⟩
  let a := { a with locationListener := some listener }
  let p := { p with created := p.created + 1 }
  if p.fineGranted = false ∧ p.coarseGranted = false then some (a, p, [])
  else if a.locationManager then some (a, p.requestLocationUpdates listener, [])
  else none

def onLocationChanged (a : MainActivity) (p : Phone) (lat lng : Rat) :
    MainActivity × Phone × List Write :=
  let mLocation := a.mLocation.put "lat" (.num (.finite lat))
  let mLocation := mLocation.put "lng" (.num (.finite lng))
  let crowdData := putNullable a.crowdData "campaign_id" p.tafweej.campaign_id
  let crowdData := crowdData.put "location" (.obj mLocation)
  let crowdData := putNullable crowdData "status" p.tafweej.status
  ({ a with mLocation := mLocation, crowdData := crowdData }, p,
    [.setValue (crowdPath a.child) (.obj crowdData)])

def onProviderDisabled (a : MainActivity) : MainActivity :=
  { a with stopVisible := false, startVisible := true }

/-- `none` is the exception of a null manager or listener. -/
def buttonStop (a : MainActivity) (p : Phone) : Option (MainActivity × Phone × List Write) :=
  if a.locationManager then
    a.locationListener.map fun l =>
      let p := p.removeUpdates l
      let p := { p with tafweej := { p.tafweej with status := some "inActive" } }
      let crowdData := putNullable a.crowdData "status" p.tafweej.status
      ({ a with
          stopVisible := false
          startVisible := true
          crowdData := crowdData
          seekBarEnabled := true }, p,
        [.setValue (crowdPath a.child) (.obj crowdData)])
  else none

/-- Without the permission the user is asked for it, or nothing happens. -/
def buttonStart (a : MainActivity) (p : Phone) : Option (MainActivity × Phone × List Write) :=
  if p.fineGranted = false then some (a, p, []) else a.getLocation p

def onRequestPermissionsResult (a : MainActivity) (p : Phone) (grantResults : List Bool) :
    Option (MainActivity × Phone × List Write) :=
  if grantResults.head? = some true then
    if p.fineGranted then a.getLocation p else some (a, p, [])
  else some (a, p, [])

/-- One event on the screen. A button is pressed only while it is visible and a callback is made
only on a registered listener of this instance. -/
def step (a : MainActivity) (p : Phone) : MainEvent → Option (MainActivity × Phone × List Write)
  | .onProgressChanged i =>
    if a.seekBarEnabled ∧ i ≤ 300 then some ({ a with progressValue := i }, p, []) else none
  | .buttonStart => if a.startVisible then a.buttonStart p else none
  | .buttonStop => if a.stopVisible then a.buttonStop p else none
  | .permissions fine coarse => some (a, p.grant fine coarse, [])
  | .onRequestPermissionsResult grantResults => a.onRequestPermissionsResult p grantResults
  | .onLocationChanged l lat lng =>
    if l ∈ p.registered ∧ l.activity = a.number then some (a.onLocationChanged p lat lng) else none
  | .onProviderEnabled l =>
    if l ∈ p.registered ∧ l.activity = a.number then some (a, p, []) else none
  | .onProviderDisabled l =>
    if l ∈ p.registered ∧ l.activity = a.number then some (a.onProviderDisabled, p, []) else none

/-- The ways an event can change the screen, the phone and the database. -/
inductive Stepped (a : MainActivity) (p : Phone) (e : MainEvent) :
    MainActivity → Phone → List Write → Prop where
  | idle (n : Nat) (fine coarse : Bool) (hf : p.fineGranted → fine)
      (hl : ∀ l, e.listener = some l → l ∈ p.registered ∧ l.activity = a.number)
      (hfix : e.fix = none) (hdis : ∀ l, e ≠ .onProviderDisabled l) (hstop : e ≠ .buttonStop)
      (hs : e.starts → p.fineGranted = false) :
      Stepped a p e { a with progressValue := n }
        { p with fineGranted := fine, coarseGranted := coarse } []
  | started (hs : e.starts) (hfine : p.fineGranted) (hvis : e = .buttonStart → a.startVisible)
      (hservice : p.locationService) :
      Stepped a p e
        { a with
          locationManager := true
          stopVisible := true
          startVisible := false
          crowdData := a.crowdData.put "numberOfPeople" (.num (.finite a.progressValue))
          seekBarEnabled := false
          locationListener := some ⟨a.number, p.created⟩ }
        { p with
          tafweej := { p.tafweej with status := some "Active" }
          created := p.created + 1
          registered := p.registered ++ [⟨a.number, p.created⟩] } []
  | located (he : e = .onLocationChanged l lat lng) (hl : l ∈ p.registered)
      (hown : l.activity = a.number) :
      Stepped a p e (a.onLocationChanged p lat lng).1 p
        [.setValue (crowdPath a.child) (.obj (a.onLocationChanged p lat lng).1.crowdData)]
  | disabled (he : e = .onProviderDisabled l) (hl : l ∈ p.registered)
      (hown : l.activity = a.number) :
      Stepped a p e a.onProviderDisabled p []
  | stopped (he : e = .buttonStop) (hvis : a.stopVisible) (hl : a.locationListener = some l) :
      Stepped a p e
        { a with
          stopVisible := false
          startVisible := true
          crowdData := a.crowdData.put "status" (.str "inActive")
          seekBarEnabled := true }
        { p with
          tafweej := { p.tafweej with status := some "inActive" }
          registered := p.registered.filter (· ≠ l) }
        [.setValue (crowdPath a.child) (.obj (a.crowdData.put "status" (.str "inActive")))]

theorem listener_of_starts {e : MainEvent} (h : e.starts) : e.listener = none := by
  cases e with
  | buttonStart | onRequestPermissionsResult => rfl
  | _ => cases h

theorem fix_of_starts {e : MainEvent} (h : e.starts) : e.fix = none := by
  cases e with
  | buttonStart | onRequestPermissionsResult => rfl
  | _ => cases h

theorem Stepped.child {a : MainActivity} (h : Stepped a p e a' p' ws) : a'.child = a.child := by
  cases h <;> rfl

theorem Stepped.number {a : MainActivity} (h : Stepped a p e a' p' ws) : a'.number = a.number := by
  cases h <;> rfl

theorem Stepped.crowd_id {a : MainActivity} (h : Stepped a p e a' p' ws) :
    p'.tafweej.crowd_id = p.tafweej.crowd_id := by
  cases h <;> rfl

theorem Stepped.campaign_id {a : MainActivity} (h : Stepped a p e a' p' ws) :
    p'.tafweej.campaign_id = p.tafweej.campaign_id := by
  cases h <;> rfl

theorem Stepped.registered {a : MainActivity} (h : Stepped a p e a' p' ws)
    (hl : l ∈ p'.registered) : l ∈ p.registered ∨ (e.starts ∧ l.activity = a.number) := by
  cases h with
  | idle | located | disabled => exact .inl hl
  | started hs hfine hvis hservice =>
    rcases List.mem_append.1 hl with hl | hl
    · exact .inl hl
    · rw [List.mem_singleton] at hl
      exact .inr ⟨hs, by rw [hl]⟩
  | stopped he hvis hheld => exact .inl (List.mem_of_mem_filter hl)

theorem Stepped.writes {a : MainActivity} (h : Stepped a p e a' p' ws) :
    ws = [] ∨ ws = [.setValue (crowdPath a.child) (.obj a'.crowdData)] := by
  cases h with
  | located he hl hown => exact .inr rfl
  | stopped he hvis hl => exact .inr rfl
  | _ => exact .inl rfl

theorem getLocation_stepped {a : MainActivity} (hs : e.starts) (hfine : p.fineGranted)
    (hvis : e = .buttonStart → a.startVisible) (h : a.getLocation p = some (a', p', ws)) :
    Stepped a p e a' p' ws := by
  obtain ⟨t, fine, coarse, service, registered, created⟩ := p
  subst hfine
  cases service with
  | false => simp [getLocation] at h
  | true =>
    simp only [getLocation, ↓reduceIte, Bool.true_eq_false, false_and,
      Phone.requestLocationUpdates, Option.some.injEq, Prod.mk.injEq] at h
    obtain ⟨rfl, rfl, rfl⟩ := h
    exact .started hs rfl hvis rfl

theorem unchanged_stepped {a : MainActivity} (hl : e.listener = none) (hstop : e ≠ .buttonStop)
    (hs : e.starts → p.fineGranted = false) : Stepped a p e a p [] := by
  refine .idle (a := a) (p := p) a.progressValue p.fineGranted p.coarseGranted id ?_ ?_ ?_ hstop hs
  · intro l he
    rw [hl] at he
    cases he
  · cases e with
    | onLocationChanged l lat lng => cases hl
    | _ => rfl
  · rintro l rfl
    cases hl

theorem step_stepped {a : MainActivity} (h : step a p e = some (a', p', ws)) :
    Stepped a p e a' p' ws := by
  cases e with
  | onProgressChanged i =>
    simp only [step, Option.ite_none_right_eq_some, Option.some.injEq, Prod.mk.injEq] at h
    obtain ⟨-, rfl, rfl, rfl⟩ := h
    exact .idle i p.fineGranted p.coarseGranted id nofun rfl nofun nofun nofun
  | buttonStart =>
    simp only [step, buttonStart, Option.ite_none_right_eq_some] at h
    obtain ⟨hvis, h⟩ := h
    by_cases hfine : p.fineGranted = false
    · rw [if_pos hfine] at h
      cases h
      exact unchanged_stepped rfl nofun fun _ => hfine
    · rw [if_neg hfine] at h
      exact getLocation_stepped rfl (by simpa using hfine) (fun _ => hvis) h
  | buttonStop =>
    simp only [step, buttonStop, Option.ite_none_right_eq_some, Option.map_eq_some_iff,
      Prod.mk.injEq] at h
    obtain ⟨hvis, -, l, hl, rfl, rfl, rfl⟩ := h
    exact .stopped rfl hvis hl
  | permissions fine coarse =>
    simp only [step, Option.some.injEq, Prod.mk.injEq] at h
    obtain ⟨rfl, rfl, rfl⟩ := h
    exact .idle (a := a) a.progressValue (p.fineGranted || fine) (p.coarseGranted || coarse)
      (fun hf => by simp [hf]) nofun rfl nofun nofun nofun
  | onRequestPermissionsResult grantResults =>
    simp only [step, onRequestPermissionsResult] at h
    by_cases hg : grantResults.head? = some true
    · rw [if_pos hg] at h
      by_cases hfine : p.fineGranted = true
      · rw [if_pos hfine] at h
        exact getLocation_stepped (by simpa [MainEvent.starts] using hg) hfine nofun h
      · rw [if_neg hfine] at h
        cases h
        exact unchanged_stepped rfl nofun fun _ => by simpa using hfine
    · rw [if_neg hg] at h
      cases h
      exact unchanged_stepped rfl nofun fun hs => absurd (by simpa [MainEvent.starts] using hs) hg
  | onLocationChanged l lat lng =>
    simp only [step, Option.ite_none_right_eq_some, Option.some.injEq] at h
    obtain ⟨⟨hl, hown⟩, h⟩ := h
    cases h
    exact .located rfl hl hown
  | onProviderEnabled l =>
    simp only [step, Option.ite_none_right_eq_some, Option.some.injEq, Prod.mk.injEq] at h
    obtain ⟨⟨hl, hown⟩, rfl, rfl, rfl⟩ := h
    refine .idle (a := a) (p := p) a.progressValue p.fineGranted p.coarseGranted id ?_ rfl nofun
      nofun nofun
    rintro l' he
    cases he
    exact ⟨hl, hown⟩
  | onProviderDisabled l =>
    simp only [step, Option.ite_none_right_eq_some, Option.some.injEq, Prod.mk.injEq] at h
    obtain ⟨⟨hl, hown⟩, rfl, rfl, rfl⟩ := h
    exact .disabled rfl hl hown

end MainActivity

end CrowdTracking
