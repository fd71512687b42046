import CrowdTracking.Crowd

namespace CrowdTracking
set_option autoImplicit true
open Database

/-- The process-wide session object, whose fields start as null. -/
structure Tafweej where
  crowd_id : Option String
  campaign_id : Option String
  campaign_contacts : Option String
  status : Option String
deriving DecidableEq

def Tafweej.initial : Tafweej := ⟨none, none, none, none⟩

/-- A listener object: the activity that created it and its number among those created. -/
structure LocationListener where
  activity : Nat
  serial : Nat
deriving DecidableEq

/-- What the activities of the process share: the session, the granted permissions and the
location service with the listeners registered at it. -/
structure Phone where
  tafweej : Tafweej
  fineGranted : Bool
  coarseGranted : Bool
  locationService : Bool
  registered : List LocationListener
  created : Nat
deriving DecidableEq

namespace Phone

def launched (fine coarse service : Bool) : Phone :=
  ⟨.initial, fine, coarse, service, [], 0⟩

def requestLocationUpdates (p : Phone) (l : LocationListener) : Phone :=
  { p with registered := p.registered ++ [l] }

/-- A granted permission is kept as long as the process lives. -/
def grant (p : Phone) (fine coarse : Bool) : Phone :=
  { p with fineGranted := p.fineGranted || fine, coarseGranted := p.coarseGranted || coarse }

def removeUpdates (p : Phone) (l : LocationListener) : Phone :=
  { p with registered := p.registered.filter (· ≠ l) }

end Phone

/-- `put` of a nullable value: a null is an absent child of the stored node. -/
def putNullable (r : Record Json) (k : String) : Option String → Record Json
  | some v => r.put k (.str v)
  | none => r.erase k

namespace Helper

/-- The digits drawn by `rand.nextInt(9)`, appended one by one. -/
def generateUnique (draws : List (Fin 9)) : String :=
  draws.foldl (fun randomNumber n => randomNumber ++ toString n.val) ""

/-- `(char)(r.nextInt(26) + 'A')` -/
def generateRandomChar (n : Fin 26) : String := String.singleton (Char.ofNat (n.val + 'A'.toNat))

end Helper

structure Draw where
  letter : Fin 26
  first : Fin 9
  second : Fin 9
deriving DecidableEq

def Draw.crowd_id (d : Draw) : String :=
  Helper.generateRandomChar d.letter ++ Helper.generateUnique [d.first, d.second]

structure SignUp where
  campaign_id : String
  contacts : String
deriving DecidableEq

namespace SignUp

/-- The test of `onDataChange` on the map of campaigns; `none` is an exception. -/
def accepts (u : SignUp) (campaignNames : Record Json) : Option Bool :=
  match campaignNames.get u.campaign_id with
  | none => some false
  | some (.obj campaign_details) =>
    match campaign_details.get "phone" with
    | some (.str phone) => some (phone = u.contacts)
    | _ => none
  | some _ => none

def accepted (u : SignUp) (t : Tafweej) : Tafweej :=
  { t with campaign_id := some u.campaign_id, campaign_contacts := some u.contacts }

end SignUp

namespace VerificationActivity

def location : Json := position 0 0

/-- What `onClick` does with the right number: the new session and the registration write. -/
def verified (draw : Draw) (t : Tafweej) : Tafweej × Write :=
  let t := { t with crowd_id := some draw.crowd_id, status := some "InActive" }
  let crowdData := putNullable .empty "campaign_id" t.campaign_id
  let crowdData := crowdData.put "location" location
  let crowdData := crowdData.put "numberOfPeople" (.num (.finite 0))
  let crowdData := putNullable crowdData "status" t.status
  (t, .setValue (crowdPath draw.crowd_id) (.obj crowdData))

/-- A press of the verify button; `none` is the wrong-number message. -/
def onClick (verificationNumber : String) (draw : Draw) (t : Tafweej) : Option (Tafweej × Write) :=
  if verificationNumber = "000" then some (verified draw t) else none

end VerificationActivity

end CrowdTracking
