import CrowdTracking.Login

namespace CrowdTracking
set_option autoImplicit true
open Database Runs

inductive CLAuthorizationStatus where
  | notDetermined
  | restricted
  | denied
  | authorizedAlways
  | authorizedWhenInUse
deriving DecidableEq

/-- A location manager: whether the app's delegate is its delegate, and the services started. -/
structure CLLocationManager where
  delegate : Bool
  updatingLocation : Bool
  monitoringSignificantLocationChanges : Bool
  updatingHeading : Bool
deriving DecidableEq

namespace CLLocationManager

def new : CLLocationManager := ⟨false, false, false, false⟩

def startUpdatingLocation (m : CLLocationManager) : CLLocationManager :=
  { m with updatingLocation := true }

def stopUpdatingLocation (m : CLLocationManager) : CLLocationManager :=
  { m with updatingLocation := false }

def startMonitoringSignificantLocationChanges (m : CLLocationManager) : CLLocationManager :=
  { m with monitoringSignificantLocationChanges := true }

def stopMonitoringSignificantLocationChanges (m : CLLocationManager) : CLLocationManager :=
  { m with monitoringSignificantLocationChanges := false }

end CLLocationManager

namespace AppDelegate

def setDelegate (m : CLLocationManager) : CLLocationManager := { m with delegate := true }

/-- The end of `didFinishLaunchingWithOptions`. -/
def didFinishLaunching : CLLocationManager :=
  (setDelegate .new).startUpdatingLocation

def applicationDidEnterBackground (m : CLLocationManager) : CLLocationManager :=
  (setDelegate m).stopUpdatingLocation.startMonitoringSignificantLocationChanges

def applicationWillEnterForeground (m : CLLocationManager) : CLLocationManager :=
  (setDelegate m).stopMonitoringSignificantLocationChanges.startUpdatingLocation

def applicationWillTerminate (m : CLLocationManager) : CLLocationManager :=
  (setDelegate m).stopUpdatingLocation.startMonitoringSignificantLocationChanges

end AppDelegate

namespace HomeVC

/-- The screen's own manager after the check, and the message of the alert. -/
def checkLocationState (m : CLLocationManager) :
    CLAuthorizationStatus → CLLocationManager × Option String
  | .authorizedAlways => (m.startUpdatingLocation, none)
  | .authorizedWhenInUse => (m, some "Please Change Location to Always")
  | .denied => (m, some "Please Change Location to Always")
  | .notDetermined => (m, none)
  | .restricted => (m, none)

/-- A screen whose view is new; the two static variables are given. -/
def new (campaign : Option Campaign) (currentLocation : Option CLLocation) : HomeVC :=
  { campaign := campaign, currentLocation := currentLocation, numberOfCrowd := none,
    startEnabled := true, stopEnabled := false, statusLabel := "Disconnected" }

end HomeVC

/-- What the running app holds besides its logins: the home screen, the managers of the delegate
and of each home screen, and the last alert. -/
structure Process where
  home : HomeVC
  shown : Bool
  active : Bool
  manager : CLLocationManager
  homeManagers : List CLLocationManager
  alert : Option String
deriving DecidableEq

/-- An installed app. The signed-in user, the authorization and the user defaults outlive a
process, the rest of `login` but its writes does not. -/
structure HajjApp where
  currentUser : Bool
  authorization : CLAuthorizationStatus
  login : Login
  process : Option Process
  log : List Write
deriving DecidableEq

inductive HajjEvent where
  | launch (active : Bool)
  | kill
  | applicationDidEnterBackground
  | applicationWillEnterForeground
  | applicationWillTerminate
  | authorize (status : CLAuthorizationStatus)
  | authenticated
  | login (e : LoginEvent)
  | client (node : Json) (e : ClientEvent)
deriving DecidableEq

namespace Process

/-- `viewDidLoad` of a new home screen. -/
def load (p : Process) (campaign : Option Campaign) (status : CLAuthorizationStatus) : Process :=
  let (m, alert) := HomeVC.checkLocationState .new status
  { p with
    home := .new campaign p.home.currentLocation
    shown := true
    homeManagers := p.homeManagers ++ [m]
    alert := alert }

/-- What reaches the app: the buttons of the screen shown, and the callbacks of the services that
the delegate's manager has started. -/
def Receives (p : Process) : ClientEvent → Prop
  | .observed => p.shown
  | .didUpdateLocations _ => p.manager.delegate ∧
      (p.manager.updatingLocation ∨ p.manager.monitoringSignificantLocationChanges)
  | .didUpdateHeading _ => p.manager.delegate ∧ p.manager.updatingHeading
  | .startBtnHandler | .stopBtnHandler | .incrementHandler | .decrementHandler =>
      p.shown ∧ p.active

/-- Login is pressed on the first screen; a sign-in succeeds once the user is stored. -/
def Allows (p : Process) (currentUser : Bool) : LoginEvent → Prop
  | .loginHandler .. => ¬p.shown ∧ p.active
  | .signedIn _ (some _) => currentUser
  | .signedIn _ none | .observed .. | .main => True

instance (p : Process) : DecidablePred p.Receives
  | .observed => inferInstanceAs (Decidable (p.shown = true))
  | .didUpdateLocations _ | .didUpdateHeading _ | .startBtnHandler | .stopBtnHandler
  | .incrementHandler | .decrementHandler => inferInstanceAs (Decidable (_ ∧ _))

instance (p : Process) (currentUser : Bool) : DecidablePred (p.Allows currentUser)
  | .loginHandler .. => inferInstanceAs (Decidable (_ ∧ _))
  | .signedIn _ (some _) => inferInstanceAs (Decidable (currentUser = true))
  | .signedIn _ none | .observed .. | .main => isTrue trivial

end Process

/-- What a step of the login does to the campaigns and the writes. -/
inductive Login.Moved (l : Login) : LoginEvent → Login → Prop where
  | quiet (he : e ≠ .main) (hw : t.written = l.written) (hd : t.defaults = l.defaults)
      (hq : t.mainQueue = l.mainQueue) (hc : t.campaign = l.campaign) : Login.Moved l e t
  | completed (c : Model.Campaign) (hk : c.crowd_id ≠ "") (hne : e ≠ .main) (he : e.succeeds)
      (hw : t.written = l.written ++ [ViewController.registration c.uid c.crowd_id])
      (hd : t.defaults = some c.encode) (hq : t.mainQueue = l.mainQueue ++ [c])
      (hc : t.campaign = l.campaign) : Login.Moved l e t
  | main (hq : l.mainQueue = c :: q) :
      Login.Moved l .main { l with campaign := some c, mainQueue := q }

namespace HajjApp

def installed (status : CLAuthorizationStatus) : HajjApp :=
  { currentUser := false, authorization := status, login := .launched none, process := none,
    log := [] }

/-- `none` is the trap of the forced cast. A signed-in user gets the home screen. -/
def launch (s : HajjApp) (active : Bool) : Option HajjApp :=
  if s.process.isSome ∨ s.login.saved.isNone ∧ s.login.defaults.isSome then none
  else
    let campaign := s.login.saved
    let p : Process :=
      { home := .new (campaign.map Model.Campaign.toCampaign) none, shown := false,
        active := active, manager := AppDelegate.didFinishLaunching, homeManagers := [],
        alert := none }
    some { s with
      login := { s.login with campaign := campaign }
      process := some (if s.currentUser then
        p.load (campaign.map Model.Campaign.toCampaign) s.authorization else p) }

/-- The process ends without notice, and with it every callback that is outstanding. -/
def kill (s : HajjApp) : HajjApp :=
  { s with
    login := { s.login with campaign := none, observing := [], signingIn := [], mainQueue := [] }
    process := none }

/-- The main queue pushes a home screen. -/
def loginStep (u : Unicode) (s : HajjApp) (p : Process) (e : LoginEvent) : Option HajjApp :=
  if p.Allows s.currentUser e then
    (s.login.step u e).map fun login => { s with
      login := login
      log := s.log ++ login.written.drop s.login.written.length
      process := some (if e = .main then
        p.load (login.campaign.map Model.Campaign.toCampaign) s.authorization else p) }
  else none

def clientStep (distance : CLLocation → CLLocation → Rat) (s : HajjApp) (p : Process)
    (node : Json) (e : ClientEvent) : Option HajjApp :=
  if p.Receives e then
    (p.home.step distance node e).map fun (home, writes) => { s with
      log := s.log ++ writes
      process := some { p with home := home } }
  else none

/-- One event; a process that does not run takes none but its launch. -/
def step (distance : CLLocation → CLLocation → Rat) (u : Unicode) (s : HajjApp) :
    HajjEvent → Option HajjApp
  | .launch active => s.launch active
  | .authorize status => some { s with authorization := status }
  | .kill => s.process.map fun _ => s.kill
  | .applicationDidEnterBackground => (s.process.filter (·.active)).map fun p =>
      { s with process := some { p with
        active := false
        manager := AppDelegate.applicationDidEnterBackground p.manager } }
  | .applicationWillEnterForeground => (s.process.filter (!·.active)).map fun p =>
      { s with process := some { p with
        active := true
        manager := AppDelegate.applicationWillEnterForeground p.manager } }
  | .applicationWillTerminate => s.process.map fun p =>
      { s with process := some { p with
        manager := AppDelegate.applicationWillTerminate p.manager } }
  | .authenticated =>
    if s.process.isSome ∧ s.login.signingIn ≠ [] then some { s with currentUser := true } else none
  | .login e => s.process.bind fun p => s.loginStep u p e
  | .client node e => s.process.bind fun p => s.clientStep distance p node e

/-- The delegate's manager reports one of the two services, never a heading; the managers of the
home screens report to nobody. -/
structure Serving (p : Process) : Prop where
  delegate : p.manager.delegate
  service : p.manager.updatingLocation ↔ ¬p.manager.monitoringSignificantLocationChanges
  heading : ¬p.manager.updatingHeading
  silent : ∀ m ∈ p.homeManagers, ¬m.delegate

/-- One location service is on while the app runs, and no heading is ever written. -/
structure Reporting (s : HajjApp) : Prop where
  serving : ∀ p, s.process = some p → Serving p
  headings : ∀ w ∈ s.log, "heading" ∉ w.fields

/-- The ways in which an event acts. -/
inductive Acted (distance : CLLocation → CLLocation → Rat) (u : Unicode) (s : HajjApp) :
    HajjEvent → HajjApp → Prop where
  | launch (hp : s.process = none) (hd : s.login.saved.isSome ∨ s.login.defaults = none)
      (campaign : Option Campaign)
      (hc : campaign = s.login.saved.map Model.Campaign.toCampaign)
      (p : Process) (hp' : p = ⟨.new campaign none, false, active, AppDelegate.didFinishLaunching,
        [], none⟩) :
      Acted distance u s (.launch active) { s with
        login := { s.login with campaign := s.login.saved }
        process := some (if s.currentUser then p.load campaign s.authorization else p) }
  | kill (hp : s.process = some p) : Acted distance u s .kill s.kill
  | manager (hp : s.process = some p) (hserves : Serving p → Serving { p with manager := m })
      (active : Bool) :
      Acted distance u s e { s with process := some { p with active := active, manager := m } }
  | authorize (status : CLAuthorizationStatus) :
      Acted distance u s (.authorize status) { s with authorization := status }
  | authenticated (hp : s.process = some p) (hr : s.login.signingIn ≠ []) :
      Acted distance u s .authenticated { s with currentUser := true }
  | login (hp : s.process = some p) (ha : p.Allows s.currentUser l)
      (hs : s.login.step u l = some t) :
      Acted distance u s (.login l) { s with
        login := t
        log := s.log ++ t.written.drop s.login.written.length
        process := some (if l = .main then
          p.load (t.campaign.map Model.Campaign.toCampaign) s.authorization else p) }
  | client (hp : s.process = some p) (hr : p.Receives c)
      (hs : p.home.step distance node c = some (home, ws)) :
      Acted distance u s (.client node c) { s with
        log := s.log ++ ws
        process := some { p with home := home } }

variable {distance : CLLocation → CLLocation → Rat} {u : Unicode} {s s' : HajjApp}
  {p : Process} {e : HajjEvent}

theorem serving_background (p : Process) (h : Serving p) (active : Bool) :
    Serving { p with
      active := active, manager := AppDelegate.applicationDidEnterBackground p.manager } :=
  ⟨rfl, by simp [AppDelegate.applicationDidEnterBackground,
    CLLocationManager.startMonitoringSignificantLocationChanges,
    CLLocationManager.stopUpdatingLocation], h.heading, h.silent⟩

theorem serving_foreground (p : Process) (h : Serving p) (active : Bool) :
    Serving { p with
      active := active, manager := AppDelegate.applicationWillEnterForeground p.manager } :=
  ⟨rfl, by simp [AppDelegate.applicationWillEnterForeground,
    CLLocationManager.stopMonitoringSignificantLocationChanges,
    CLLocationManager.startUpdatingLocation], h.heading, h.silent⟩

theorem step_acted (h : s.step distance u e = some s') : Acted distance u s e s' := by
  cases e with
  | launch active =>
    rw [step, launch] at h
    obtain ⟨hn, h⟩ := Option.ite_none_left_eq_some.1 h
    cases h
    obtain ⟨hp, hd⟩ := not_or.1 hn
    refine .launch (Option.not_isSome_iff_eq_none.1 hp) ?_ _ rfl _ rfl
    cases hsaved : s.login.saved with
    | none => exact .inr (by simpa [hsaved] using hd)
    | some c => exact .inl rfl
  | kill =>
    obtain ⟨p, hp, rfl⟩ := Option.map_eq_some_iff.1 h
    exact .kill hp
  | applicationDidEnterBackground =>
    obtain ⟨p, hp, rfl⟩ := Option.map_eq_some_iff.1 h
    exact .manager (Option.filter_eq_some_iff.1 hp).1 (serving_background p · _) false
  | applicationWillEnterForeground =>
    obtain ⟨p, hp, rfl⟩ := Option.map_eq_some_iff.1 h
    exact .manager (Option.filter_eq_some_iff.1 hp).1 (serving_foreground p · _) true
  | applicationWillTerminate =>
    obtain ⟨p, hp, rfl⟩ := Option.map_eq_some_iff.1 h
    exact .manager hp (serving_background p · _) p.active
  | authorize status =>
    cases h
    exact .authorize status
  | authenticated =>
    obtain ⟨⟨hp, hr⟩, h⟩ := Option.ite_none_right_eq_some.1 h
    cases h
    obtain ⟨p, hp⟩ := Option.isSome_iff_exists.1 hp
    exact .authenticated hp hr
  | login l =>
    obtain ⟨p, hp, h⟩ := Option.bind_eq_some_iff.1 h
    obtain ⟨ha, h⟩ := Option.ite_none_right_eq_some.1 h
    obtain ⟨login, hs, rfl⟩ := Option.map_eq_some_iff.1 h
    exact .login hp ha hs
  | client node c =>
    obtain ⟨p, hp, h⟩ := Option.bind_eq_some_iff.1 h
    obtain ⟨hr, h⟩ := Option.ite_none_right_eq_some.1 h
    obtain ⟨⟨home, ws⟩, hs, rfl⟩ := Option.map_eq_some_iff.1 h
    exact .client hp hr hs

theorem checkLocationState_delegate (m : CLLocationManager) (status : CLAuthorizationStatus) :
    (HomeVC.checkLocationState m status).1.delegate = m.delegate := by
  cases status <;> rfl

theorem Serving.load (h : Serving p) (campaign : Option Campaign)
    (status : CLAuthorizationStatus) : Serving (p.load campaign status) := by
  refine ⟨h.delegate, h.service, h.heading, ?_⟩
  intro m hm
  have hmem : m ∈ p.homeManagers ++ [(HomeVC.checkLocationState .new status).1] := hm
  rcases List.mem_append.1 hmem with hm | hm
  · exact h.silent m hm
  · rw [List.mem_singleton.1 hm, checkLocationState_delegate]
    exact Bool.false_ne_true

theorem login_moved {e : LoginEvent} {l t : Login} (hs : l.step u e = some t) :
    Login.Moved l e t := by
  cases e with
  | loginHandler campaignInput phonenumberInput =>
    obtain ⟨a, -, rfl⟩ := Option.map_eq_some_iff.1 hs
    exact .quiet (fun h => by cases h) rfl rfl rfl rfl
  | observed i value =>
    obtain ⟨a, -, rfl⟩ := Option.map_eq_some_iff.1 hs
    exact .quiet (fun h => by cases h) rfl rfl rfl rfl
  | signedIn i newCrowd =>
    obtain ⟨r, -, hs⟩ := Option.bind_eq_some_iff.1 hs
    cases newCrowd with
    | none =>
      cases hs
      exact .quiet (fun h => by cases h) rfl rfl rfl rfl
    | some key =>
      obtain ⟨⟨hkey, -⟩, hs⟩ := Option.ite_none_right_eq_some.1 hs
      cases hs
      exact .completed (.init r.key key r.data) hkey (fun h => by cases h) rfl rfl rfl rfl rfl
  | main =>
    simp only [Login.step] at hs
    split at hs
    · rename_i hq
      cases hs
      exact .main hq
    · cases hs

/-- What an event adds to the writes. -/
theorem Acted.log (h : Acted distance u s e s') : ∃ ws, s'.log = s.log ++ ws ∧ ∀ w ∈ ws,
    (∃ uid key, w = ViewController.registration uid key ∧ w ∈ s'.login.written) ∨
      ∃ p k node c, s.process = some p ∧ p.home.crowd_id = some k ∧ e = .client node c ∧
        p.Receives c ∧ HomeVC.Writes k c w := by
  cases h with
  | login hp ha hs =>
    refine ⟨_, rfl, fun w hw => .inl ?_⟩
    cases login_moved hs with
    | quiet hne hwr =>
      rw [hwr, List.drop_length] at hw
      cases hw
    | completed c hkey hne he hwr =>
      rw [hwr, List.drop_left, List.mem_singleton] at hw
      refine ⟨c.uid, c.crowd_id, hw, ?_⟩
      rw [hwr, hw]
      exact List.mem_append_right _ List.mem_cons_self
    | main hq =>
      rw [List.drop_length] at hw
      cases hw
  | client hp hr hs =>
    refine ⟨_, rfl, fun w hw => .inr ?_⟩
    obtain ⟨k, hk, hwrite⟩ := HomeVC.step_writes hs hw
    exact ⟨_, k, _, _, hp, hk, rfl, hr, hwrite⟩
  | _ => exact ⟨[], (List.append_nil _).symm, fun w hw => by cases hw⟩

theorem writes_no_heading (hw : HomeVC.Writes k c w) (hc : ∀ l, c ≠ .didUpdateHeading l) :
    "heading" ∉ w.fields := by
  cases hw with
  | status => exact List.not_mem_nil
  | count => exact List.not_mem_nil
  | location => simp [Write.fields, AppDelegate.locationData]
  | heading => exact absurd rfl (hc _)

theorem Reporting.step (h : s.Reporting) (hs : Acted distance u s e s') : s'.Reporting := by
  constructor
  · intro q hq
    cases hs with
    | launch hp hd campaign hc p hp' =>
      have hserving : Serving p := by
        rw [hp']
        exact ⟨rfl, by simp [AppDelegate.didFinishLaunching, AppDelegate.setDelegate,
          CLLocationManager.new, CLLocationManager.startUpdatingLocation],
          Bool.false_ne_true, fun m hm => by cases hm⟩
      cases hq
      split
      · exact hserving.load _ _
      · exact hserving
    | kill => cases hq
    | manager hp hserves active =>
      cases hq
      have hserving := hserves (h.serving _ hp)
      exact ⟨hserving.delegate, hserving.service, hserving.heading, hserving.silent⟩
    | authorize => exact h.serving q hq
    | authenticated => exact h.serving q hq
    | login hp =>
      cases hq
      split
      · exact (h.serving _ hp).load _ _
      · exact h.serving _ hp
    | client hp =>
      cases hq
      have hserving := h.serving _ hp
      exact ⟨hserving.delegate, hserving.service, hserving.heading, hserving.silent⟩
  · obtain ⟨ws, hlog, hws⟩ := hs.log
    intro w hw
    rw [hlog] at hw
    rcases List.mem_append.1 hw with hw | hw
    · exact h.headings w hw
    · rcases hws w hw with ⟨uid, key, rfl, -⟩ | ⟨p, k, node, c, hp, -, -, hr, hwrite⟩
      · simp [ViewController.registration, Write.fields, Record.keys, Record.empty, Record.put,
          Record.putEntry]
      · apply writes_no_heading hwrite
        rintro l rfl
        exact (h.serving p hp).heading hr.2

/-- Over any launches and kills, whatever the guide does and iOS reports. -/
theorem one_service (distance : CLLocation → CLLocation → Rat) (u : Unicode)
    (status : CLAuthorizationStatus) (es : List HajjEvent) :
    Always (step distance u) Reporting (installed status) es := by
  apply always_of_invariant Reporting (fun _ h => h) (fun _ _ _ h hs => h.step (step_acted hs))
  exact ⟨(fun p hp => by cases hp), fun w hw => absurd hw List.not_mem_nil⟩

end HajjApp

end CrowdTracking
