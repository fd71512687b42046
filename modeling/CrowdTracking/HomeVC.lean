import CrowdTracking.Crowd

namespace CrowdTracking
set_option autoImplicit true
open Database

structure Campaign where
  uid : String
  crowd_id : String
deriving DecidableEq

structure CLLocation where
  latitude : Rat
  longitude : Rat
deriving DecidableEq

/-- A heading with its accuracy and its age in seconds. -/
structure CLHeading where
  trueHeading : Rat
  headingAccuracy : Rat
  howRecent : Rat
deriving DecidableEq

/-- The state of the client: the two static variables of `HomeVC`, the label with the count and
what `toggleStatus` sets. -/
structure HomeVC where
  campaign : Option Campaign
  currentLocation : Option CLLocation
  numberOfCrowd : Option String
  startEnabled : Bool
  stopEnabled : Bool
  statusLabel : String
deriving DecidableEq

/-- A press of a button, a value of the observed node, or a callback of the location manager. A
location comes with the server time of its write. -/
inductive ClientEvent where
  | startBtnHandler
  | stopBtnHandler
  | incrementHandler
  | decrementHandler
  | observed
  | didUpdateLocations (locations : List (CLLocation × Nat))
  | didUpdateHeading (newHeading : CLHeading)
deriving DecidableEq

/-- The child of the crowd's node that an event writes. -/
def ClientEvent.child : ClientEvent → Option String
  | .startBtnHandler | .stopBtnHandler => some "status"
  | .incrementHandler | .decrementHandler => some "numberOfPeople"
  | .didUpdateLocations _ | .didUpdateHeading _ => some "location"
  | .observed => none

namespace ViewController

/-- The write of an accepted login to the node that `childByAutoId` names. -/
def registration (uid key : String) : Write :=
  .setValue (crowdPath key) (.obj (Record.empty.put "campaign_id" (.str uid)))

end ViewController

namespace HomeVC

def opened (campaign : Campaign) : HomeVC :=
  { campaign := some campaign, currentLocation := none, numberOfCrowd := none,
    startEnabled := true, stopEnabled := false, statusLabel := "Disconnected" }

/-- The crowd id that the guards let through. -/
def crowd_id (h : HomeVC) : Option String :=
  (h.campaign.map Campaign.crowd_id).filter (· ≠ "")

/-- `Int(number)`: an optional sign and digits, within 64 bits. -/
def int (number : String) : Option Int :=
  let (sign, ds) : Int × List Char :=
    match number.toList with
    | '-' :: ds => (-1, ds)
    | '+' :: ds => (1, ds)
    | ds => (1, ds)
  if ds ≠ [] ∧ ds.all Char.isDigit then
    let n := sign * (ds.foldl (fun n c => 10 * n + (c.toNat - '0'.toNat)) 0 : Nat)
    if -2 ^ 63 ≤ n ∧ n < 2 ^ 63 then some n else none
  else none

def toggleStatus (h : HomeVC) (status : Bool) : HomeVC :=
  { h with
    startEnabled := !status
    stopEnabled := status
    statusLabel := if status then "Connected" else "Disconnected" }

/-- The observer that `checkStatus` adds when there is a crowd id. -/
def checkStatus (h : HomeVC) (value : Json) : HomeVC :=
  match h.crowd_id, value with
  | some _, .obj data =>
    let h := h.toggleStatus (data.get "status" = some (.str "Active"))
    { h with numberOfCrowd :=
        match data.get "numberOfPeople" with
        | some (.str total) => some total
        | _ => some "0" }
  | _, _ => h

def setStatus (h : HomeVC) (status : String) : List Write :=
  match h.crowd_id with
  | some k => [.setValue (crowdPath k ++ ["status"]) (.str status)]
  | none => []

def startBtnHandler (h : HomeVC) : HomeVC × List Write :=
  (h.toggleStatus true, h.setStatus "Active")

def stopBtnHandler (h : HomeVC) : HomeVC × List Write :=
  (h.toggleStatus false, h.setStatus "inActive")

def setNumberOfPeople (h : HomeVC) (total : Int) : HomeVC × List Write :=
  match h.crowd_id with
  | some k => ({ h with numberOfCrowd := some (toString total) },
      [.setValue (crowdPath k ++ ["numberOfPeople"]) (.str (toString total))])
  | none => (h, [])

/-- `none` is the trap of the addition. -/
def incrementHandler (h : HomeVC) : Option (HomeVC × List Write) :=
  match h.numberOfCrowd.bind int with
  | none => some (h, [])
  | some number => if number + 10 < 2 ^ 63 then some (h.setNumberOfPeople (number + 10)) else none

/-- `none` is the trap of the subtraction. -/
def decrementHandler (h : HomeVC) : Option (HomeVC × List Write) :=
  match h.numberOfCrowd.bind int with
  | none => some (h, [])
  | some number =>
    if -2 ^ 63 ≤ number - 10 then
      if 0 ≤ number - 10 then some (h.setNumberOfPeople (number - 10)) else some (h, [])
    else none

end HomeVC

namespace AppDelegate

def locationData (location : CLLocation) (distance : Rat) (timestamp : Nat) :
    List (String × Json) :=
  [("lat", .num (.finite location.latitude)), ("lng", .num (.finite location.longitude)),
    ("timestamp", .num (.finite timestamp)), ("distanceMoved", .num (.finite distance))]

/-- `Int(heading.trueHeading)` drops the fraction. -/
def headingData (heading : CLHeading) : List (String × Json) :=
  [("heading", .num (.finite (heading.trueHeading.num.tdiv heading.trueHeading.den)))]

def updateLocation (h : HomeVC) (data : List (String × Json)) : List Write :=
  match h.crowd_id with
  | some k => [.updateChildValues (crowdPath k ++ ["location"]) data]
  | none => []

/-- The locations in order; `distance` stands for `newLocation.distance(from: oldLocation)`. -/
def didUpdateLocations (distance : CLLocation → CLLocation → Rat) (h : HomeVC) :
    List (CLLocation × Nat) → HomeVC × List Write
  | [] => (h, [])
  | (newLocation, timestamp) :: locations =>
    let moved :=
      match h.currentLocation with
      | some oldLocation => distance newLocation oldLocation
      | none => 0
    let ws := updateLocation h (locationData newLocation moved timestamp)
    let (h, ws') := didUpdateLocations distance
      { h with currentLocation := some newLocation } locations
    (h, ws ++ ws')

def Accepted (heading : CLHeading) : Prop :=
  heading.headingAccuracy < 30 ∧ -10 < heading.howRecent ∧ heading.howRecent < 10

instance (heading : CLHeading) : Decidable (Accepted heading) :=
  inferInstanceAs (Decidable (_ ∧ _))

def didUpdateHeading (h : HomeVC) (newHeading : CLHeading) : List Write :=
  if Accepted newHeading then updateLocation h (headingData newHeading) else []

end AppDelegate

namespace HomeVC

/-- One event of the client; a disabled button is not pressed, and `node` is the value observed. -/
def step (distance : CLLocation → CLLocation → Rat) (h : HomeVC) (node : Json) :
    ClientEvent → Option (HomeVC × List Write)
  | .startBtnHandler => if h.startEnabled then some h.startBtnHandler else none
  | .stopBtnHandler => if h.stopEnabled then some h.stopBtnHandler else none
  | .incrementHandler => h.incrementHandler
  | .decrementHandler => h.decrementHandler
  | .observed => some (h.checkStatus node, [])
  | .didUpdateLocations locations => some (AppDelegate.didUpdateLocations distance h locations)
  | .didUpdateHeading newHeading => some (h, AppDelegate.didUpdateHeading h newHeading)

/-- The writes an event can make to the node of a crowd. -/
inductive Writes (k : String) : ClientEvent → Write → Prop where
  | status (hs : status = "Active" ∨ status = "inActive")
      (he : e = .startBtnHandler ∨ e = .stopBtnHandler) :
      Writes k e (.setValue (crowdPath k ++ ["status"]) (.str status))
  | count (total : Int) (he : e = .incrementHandler ∨ e = .decrementHandler) :
      Writes k e (.setValue (crowdPath k ++ ["numberOfPeople"]) (.str (toString total)))
  | location (l : CLLocation) (t : Nat) (d : Rat) (hl : (l, t) ∈ ls) :
      Writes k (.didUpdateLocations ls)
        (.updateChildValues (crowdPath k ++ ["location"]) (AppDelegate.locationData l d t))
  | heading (ha : AppDelegate.Accepted newHeading) :
      Writes k (.didUpdateHeading newHeading)
        (.updateChildValues (crowdPath k ++ ["location"]) (AppDelegate.headingData newHeading))

variable {h h' : HomeVC} {e : ClientEvent} {ws : List Write}

theorem child_status : e.child = some "status" ↔ e = .startBtnHandler ∨ e = .stopBtnHandler := by
  cases e <;> simp [ClientEvent.child]

theorem child_count :
    e.child = some "numberOfPeople" ↔ e = .incrementHandler ∨ e = .decrementHandler := by
  cases e <;> simp [ClientEvent.child]

theorem Writes.path (hw : Writes k e w) : ∃ c, e.child = some c ∧ w.path = crowdPath k ++ [c] := by
  cases hw with
  | status _ he => exact ⟨_, child_status.2 he, rfl⟩
  | count _ he => exact ⟨_, child_count.2 he, rfl⟩
  | location => exact ⟨_, rfl, rfl⟩
  | heading => exact ⟨_, rfl, rfl⟩

theorem Writes.nonempty (hw : Writes k e w) (q : List String) : w ≠ .updateChildValues q [] := by
  cases hw with
  | status => exact fun h => by cases h
  | count => exact fun h => by cases h
  | location => exact fun h => by cases h
  | heading => exact fun h => by cases h

/-- The other children of the node keep their values. -/
theorem Writes.other (hw : Writes k e w) (hc : e.child ≠ some c) (t : Json) :
    getAt (crowdPath k ++ [c]) (w.apply t) = getAt (crowdPath k ++ [c]) t := by
  obtain ⟨d, hd, hpath⟩ := hw.path
  exact getAt_apply_other hpath (fun h => hc (by rw [hd, h])) t

theorem setStatus_eq (hk : h.crowd_id = some k) (status : String) :
    h.setStatus status = [.setValue (crowdPath k ++ ["status"]) (.str status)] := by
  rw [setStatus, hk]

theorem setNumberOfPeople_eq (hk : h.crowd_id = some k) (total : Int) :
    h.setNumberOfPeople total = ({ h with numberOfCrowd := some (toString total) },
      [.setValue (crowdPath k ++ ["numberOfPeople"]) (.str (toString total))]) := by
  rw [setNumberOfPeople, hk]

/-- The two buttons set a total or do nothing. -/
theorem step_total {distance : CLLocation → CLLocation → Rat}
    (he : e = .incrementHandler ∨ e = .decrementHandler)
    (hs : h.step distance node e = some r) :
    r = (h, []) ∨ ∃ total, r = h.setNumberOfPeople total := by
  rcases he with rfl | rfl
  · simp only [step, incrementHandler] at hs
    split at hs
    · exact .inl (Option.some.inj hs).symm
    · obtain ⟨-, hs⟩ := Option.ite_none_right_eq_some.1 hs
      exact .inr ⟨_, (Option.some.inj hs).symm⟩
  · simp only [step, decrementHandler] at hs
    split at hs
    · exact .inl (Option.some.inj hs).symm
    · obtain ⟨-, hs⟩ := Option.ite_none_right_eq_some.1 hs
      split at hs
      · exact .inr ⟨_, (Option.some.inj hs).symm⟩
      · exact .inl (Option.some.inj hs).symm

theorem setNumberOfPeople_writes (h : HomeVC) (total : Int)
    (he : e = .incrementHandler ∨ e = .decrementHandler) (hw : w ∈ (h.setNumberOfPeople total).2) :
    ∃ k, h.crowd_id = some k ∧ Writes k e w := by
  rw [setNumberOfPeople] at hw
  cases hk : h.crowd_id with
  | none =>
    rw [hk] at hw
    cases hw
  | some k =>
    rw [hk, List.mem_singleton] at hw
    exact ⟨k, rfl, hw ▸ .count total he⟩

theorem setStatus_writes (hs : status = "Active" ∨ status = "inActive")
    (he : e = .startBtnHandler ∨ e = .stopBtnHandler) (hw : w ∈ h.setStatus status) :
    ∃ k, h.crowd_id = some k ∧ Writes k e w := by
  rw [setStatus] at hw
  cases hk : h.crowd_id with
  | none =>
    rw [hk] at hw
    cases hw
  | some k =>
    rw [hk, List.mem_singleton] at hw
    exact ⟨k, rfl, hw ▸ .status hs he⟩

theorem mem_updateLocation {data : List (String × Json)}
    (hw : w ∈ AppDelegate.updateLocation h data) : ∃ k, h.crowd_id = some k ∧
      w = .updateChildValues (crowdPath k ++ ["location"]) data := by
  rw [AppDelegate.updateLocation] at hw
  cases hk : h.crowd_id with
  | none =>
    rw [hk] at hw
    cases hw
  | some k =>
    rw [hk, List.mem_singleton] at hw
    exact ⟨k, rfl, hw⟩

theorem didUpdateLocations_writes {distance : CLLocation → CLLocation → Rat}
    {ls : List (CLLocation × Nat)} (hw : w ∈ (AppDelegate.didUpdateLocations distance h ls).2) :
    ∃ k, h.crowd_id = some k ∧ ∃ l t d, (l, t) ∈ ls ∧
      w = .updateChildValues (crowdPath k ++ ["location"]) (AppDelegate.locationData l d t) := by
  induction ls generalizing h with
  | nil => cases hw
  | cons l ls ih =>
    obtain ⟨l, t⟩ := l
    rcases List.mem_append.1 hw with hw | hw
    · obtain ⟨k, hk, rfl⟩ := mem_updateLocation hw
      exact ⟨k, hk, l, t, _, List.mem_cons_self, rfl⟩
    · obtain ⟨k, hk, l', t', d, hl, rfl⟩ := ih hw
      exact ⟨k, hk, l', t', d, List.mem_cons_of_mem _ hl, rfl⟩

theorem didUpdateLocations_home (distance : CLLocation → CLLocation → Rat) (h : HomeVC)
    (ls : List (CLLocation × Nat)) :
    ∃ l, (AppDelegate.didUpdateLocations distance h ls).1 = { h with currentLocation := l } := by
  induction ls generalizing h with
  | nil => exact ⟨h.currentLocation, rfl⟩
  | cons l ls ih => exact ih { h with currentLocation := some l.1 }

theorem setNumberOfPeople_home (h : HomeVC) (total : Int) :
    ∃ label, (h.setNumberOfPeople total).1 = { h with numberOfCrowd := label } := by
  rw [setNumberOfPeople]
  cases h.crowd_id with
  | none => exact ⟨h.numberOfCrowd, rfl⟩
  | some k => exact ⟨some (toString total), rfl⟩

/-- What an event changes on the screen, if it is not a snapshot. -/
theorem step_home {distance : CLLocation → CLLocation → Rat}
    (hs : h.step distance node e = some (h', ws)) (hobs : e ≠ .observed) :
    (e.child = some "status" ∧ ∃ status, h' = h.toggleStatus status) ∨
      (e.child = some "numberOfPeople" ∧ ∃ label, h' = { h with numberOfCrowd := label }) ∨
      (e.child = some "location" ∧ ∃ l, h' = { h with currentLocation := l }) := by
  cases e with
  | startBtnHandler | stopBtnHandler =>
    obtain ⟨-, hs⟩ := Option.ite_none_right_eq_some.1 hs
    cases hs
    exact .inl ⟨rfl, _, rfl⟩
  | incrementHandler | decrementHandler =>
    refine .inr (.inl ⟨rfl, ?_⟩)
    rcases step_total (by simp) hs with hr | ⟨total, hr⟩
    · cases hr
      exact ⟨h.numberOfCrowd, rfl⟩
    · rw [show h' = _ from congrArg Prod.fst hr]
      exact setNumberOfPeople_home h total
  | observed => exact absurd rfl hobs
  | didUpdateLocations ls =>
    obtain ⟨l, hl⟩ := didUpdateLocations_home distance h ls
    rw [Option.some.inj hs] at hl
    exact .inr (.inr ⟨rfl, l, hl⟩)
  | didUpdateHeading newHeading =>
    cases hs
    exact .inr (.inr ⟨rfl, h.currentLocation, rfl⟩)

theorem checkStatus_campaign (h : HomeVC) (value : Json) :
    (h.checkStatus value).campaign = h.campaign := by
  simp only [checkStatus]
  split <;> rfl

theorem checkStatus_crowd_id (h : HomeVC) (value : Json) :
    (h.checkStatus value).crowd_id = h.crowd_id := by
  rw [crowd_id, checkStatus_campaign]
  rfl

theorem step_campaign {distance : CLLocation → CLLocation → Rat}
    (hs : h.step distance node e = some (h', ws)) : h'.campaign = h.campaign := by
  by_cases hobs : e = .observed
  · subst hobs
    cases hs
    exact checkStatus_campaign h node
  · rcases step_home hs hobs with ⟨-, status, rfl⟩ | ⟨-, label, rfl⟩ | ⟨-, l, rfl⟩
    · rfl
    · rfl
    · rfl

theorem step_writes {distance : CLLocation → CLLocation → Rat}
    (hs : h.step distance node e = some (h', ws)) (hw : w ∈ ws) :
    ∃ k, h.crowd_id = some k ∧ Writes k e w := by
  cases e with
  | startBtnHandler =>
    obtain ⟨-, hs⟩ := Option.ite_none_right_eq_some.1 hs
    cases hs
    exact setStatus_writes (.inl rfl) (.inl rfl) hw
  | stopBtnHandler =>
    obtain ⟨-, hs⟩ := Option.ite_none_right_eq_some.1 hs
    cases hs
    exact setStatus_writes (.inr rfl) (.inr rfl) hw
  | incrementHandler | decrementHandler =>
    rcases step_total (by simp) hs with hr | ⟨total, hr⟩
    · cases hr
      cases hw
    · rw [show ws = _ from congrArg Prod.snd hr] at hw
      exact setNumberOfPeople_writes h total (by simp) hw
  | observed =>
    cases hs
    cases hw
  | didUpdateLocations ls =>
    have hr : AppDelegate.didUpdateLocations distance h ls = (h', ws) := Option.some.inj hs
    have hws : w ∈ (AppDelegate.didUpdateLocations distance h ls).2 := by rwa [hr]
    obtain ⟨k, hk, l, t, d, hl, rfl⟩ := didUpdateLocations_writes hws
    exact ⟨k, hk, .location l t d hl⟩
  | didUpdateHeading newHeading =>
    cases hs
    rw [AppDelegate.didUpdateHeading] at hw
    split at hw
    · rename_i ha
      obtain ⟨k, hk, rfl⟩ := mem_updateLocation hw
      exact ⟨k, hk, .heading ha⟩
    · cases hw

theorem writes_of_crowd_id {distance : CLLocation → CLLocation → Rat} (hk : h.crowd_id = some k)
    (hs : h.step distance node e = some (h', ws)) : ∀ w ∈ ws, Writes k e w := by
  intro w hw
  obtain ⟨k', hk', hwrite⟩ := step_writes hs hw
  rw [hk, Option.some.injEq] at hk'
  rwa [hk']

theorem writes_of_no_crowd_id {distance : CLLocation → CLLocation → Rat} (hk : h.crowd_id = none)
    (hs : h.step distance node e = some (h', ws)) : ws = [] := by
  apply List.eq_nil_iff_forall_not_mem.2
  intro w hw
  obtain ⟨k, hk', -⟩ := step_writes hs hw
  rw [hk] at hk'
  cases hk'

theorem step_crowd_id {distance : CLLocation → CLLocation → Rat}
    (hs : h.step distance node e = some (h', ws)) : h'.crowd_id = h.crowd_id := by
  rw [crowd_id, step_campaign hs]
  rfl

end HomeVC

end CrowdTracking
