import CrowdTracking.Device

namespace CrowdTracking
set_option autoImplicit true
open Runs

inductive Permission where
  | ACCESS_COARSE_LOCATION
  | ACCESS_FINE_LOCATION
  | INTERNET
deriving DecidableEq

/-- The device and its login screen: the permissions that the system is asking the user for, and
the dialogs that explain why. -/
structure LoginScreen where
  device : Device
  internet : Bool
  request : Option (List Permission)
  dialogs : Nat

/-- An event of the device, an answer to the system's question (one that is interrupted has no
results), or a button of a dialog. -/
inductive AskEvent where
  | device (e : DeviceEvent)
  | answer (allowed shouldShowRequestPermissionRationale : Permission → Bool)
  | interrupted
  | allow
  | cancel

/-- What the device hears of it. -/
def AskEvent.deviceEvents : AskEvent → List DeviceEvent
  | .device e => [e]
  | .answer allowed _ =>
    [.permissions (allowed .ACCESS_FINE_LOCATION) (allowed .ACCESS_COARSE_LOCATION)]
  | _ => []

namespace LoginScreen

def permissions : List Permission := [.ACCESS_COARSE_LOCATION, .ACCESS_FINE_LOCATION, .INTERNET]

def checkSelfPermission (s : LoginScreen) : Permission → Bool
  | .ACCESS_COARSE_LOCATION => s.device.phone.coarseGranted
  | .ACCESS_FINE_LOCATION => s.device.phone.fineGranted
  | .INTERNET => s.internet

def arePermissionsEnabled (s : LoginScreen) : Bool := permissions.all s.checkSelfPermission

/-- `none` is the exception of an empty request. -/
def requestMultiplePermissions (s : LoginScreen) : Option LoginScreen :=
  let remainingPermissions := permissions.filter fun p => !s.checkSelfPermission p
  if remainingPermissions = [] then none
  else some { s with request := some remainingPermissions }

def onCreate (s : LoginScreen) : Option LoginScreen :=
  if s.arePermissionsEnabled then some s else s.requestMultiplePermissions

/-- Only the first permission refused is explained. -/
def onRequestPermissionsResult (s : LoginScreen) (rationale : Permission → Bool)
    (grantResults : List (Permission × Bool)) : LoginScreen :=
  match grantResults.find? fun r => !r.2 with
  | some r => if rationale r.1 then { s with dialogs := s.dialogs + 1 } else s
  | none => s

/-- The system takes the user's answer; what it does not ask for is granted already. -/
def grant (s : LoginScreen) (allowed : Permission → Bool) : LoginScreen :=
  { s with
    device := { s.device with
      phone := s.device.phone.grant (allowed .ACCESS_FINE_LOCATION)
        (allowed .ACCESS_COARSE_LOCATION) }
    internet := s.internet || allowed .INTERNET
    request := none }

def answered (s : LoginScreen) (ps : List Permission) (allowed rationale : Permission → Bool) :
    LoginScreen :=
  let s := s.grant allowed
  s.onRequestPermissionsResult rationale (ps.map fun p => (p, s.checkSelfPermission p))

/-- The positive button of a dialog asks again. -/
def step (s : LoginScreen) : AskEvent → Option LoginScreen
  | .device e => (s.device.next e).map fun d => { s with device := d }
  | .answer allowed rationale => s.request.map fun ps => s.answered ps allowed rationale
  | .interrupted => s.request.map fun _ => { s with request := none }
  | .allow =>
    if 0 < s.dialogs then requestMultiplePermissions { s with dialogs := s.dialogs - 1 } else none
  | .cancel => if 0 < s.dialogs then some { s with dialogs := s.dialogs - 1 } else none

/-- The login screen of a new process. -/
def opened (fine coarse service internet : Bool) : Option LoginScreen :=
  onCreate ⟨.launched fine coarse service, internet, none, 0⟩

/-- There is no second dialog, none over an open question, and its positive button asks again. -/
structure Answerable (s : LoginScreen) : Prop where
  single : s.dialogs ≤ 1
  request : 0 < s.dialogs → s.request = none
  allow : 0 < s.dialogs → (s.step .allow).isSome

/-- While a dialog is open, the last permission missing is not granted elsewhere. -/
def StaysMissing (s : LoginScreen) : AskEvent → Prop
  | .device e => 0 < s.dialogs → ∀ d ∈ s.device.next e,
      ¬arePermissionsEnabled { s with device := d }
  | _ => True

/-- A dialog is open only while a permission is missing. -/
structure Explains (s : LoginScreen) : Prop where
  single : s.dialogs ≤ 1
  request : 0 < s.dialogs → s.request = none
  missing : 0 < s.dialogs → ¬s.arePermissionsEnabled

variable {s s' : LoginScreen}

theorem remaining_nil (s : LoginScreen) :
    (permissions.filter fun p => !s.checkSelfPermission p) = [] ↔ s.arePermissionsEnabled := by
  rw [List.filter_eq_nil_iff, arePermissionsEnabled, List.all_eq_true]
  simp

theorem requestMultiplePermissions_isSome :
    s.requestMultiplePermissions.isSome ↔ ¬s.arePermissionsEnabled := by
  rw [← remaining_nil, requestMultiplePermissions]
  split
  · rename_i h
    simp [h]
  · rename_i h
    simp [h]

theorem requested (h : s.requestMultiplePermissions = some s') :
    s'.device = s.device ∧ s'.dialogs = s.dialogs := by
  obtain ⟨-, h⟩ := Option.ite_none_left_eq_some.1 h
  cases h
  exact ⟨rfl, rfl⟩

/-- A permission that is refused is missing after the answer. -/
theorem missing_of_refused {ps : List Permission}
    (h : (ps.map fun p => (p, s.checkSelfPermission p)).find? (fun r => !r.2) = some r) :
    ¬s.arePermissionsEnabled := by
  obtain ⟨p, -, rfl⟩ := List.mem_map.1 (List.mem_of_find?_eq_some h)
  have hrefused := List.find?_some h
  rw [arePermissionsEnabled, List.all_eq_true]
  intro henabled
  have hp : p ∈ permissions := by cases p <;> decide
  rw [henabled p hp] at hrefused
  cases hrefused

theorem Explains.allow (h : Explains s) (hopen : 0 < s.dialogs) : (s.step .allow).isSome := by
  rw [step, if_pos hopen, requestMultiplePermissions_isSome]
  exact h.missing hopen

theorem Explains.answerable (h : Explains s) : Answerable s :=
  ⟨h.single, h.request, h.allow⟩

/-- A screen without a dialog explains nothing. -/
theorem explains_closed (h : s.dialogs = 0) : Explains s := by
  have hclosed : ¬0 < s.dialogs := Nat.not_lt.2 (Nat.le_of_eq h)
  refine ⟨?_, fun hopen => absurd hopen hclosed, fun hopen => absurd hopen hclosed⟩
  rw [h]
  exact Nat.zero_le 1

/-- The question is answered over no dialog, and a refusal opens one at most. -/
theorem Explains.answered (h : Explains s) (hps : s.request = some ps)
    (allowed rationale : Permission → Bool) : Explains (s.answered ps allowed rationale) := by
  have hclosed : (s.grant allowed).dialogs = 0 := by
    by_contra hne
    have hnone := h.request (Nat.pos_of_ne_zero hne)
    rw [hnone] at hps
    cases hps
  rw [LoginScreen.answered, onRequestPermissionsResult]
  split
  · rename_i r hr
    split
    · refine ⟨?_, fun _ => rfl, fun _ => missing_of_refused hr⟩
      change (s.grant allowed).dialogs + 1 ≤ 1
      rw [hclosed]
    · exact explains_closed hclosed
  · exact explains_closed hclosed

theorem Explains.step (h : Explains s) (hs : s.step e = some s') (hC : StaysMissing s e) :
    Explains s' := by
  cases e with
  | device e =>
    obtain ⟨d, hd, rfl⟩ := Option.map_eq_some_iff.1 hs
    exact ⟨h.single, h.request, fun hopen => hC hopen d hd⟩
  | answer allowed rationale =>
    obtain ⟨ps, hps, rfl⟩ := Option.map_eq_some_iff.1 hs
    exact h.answered hps allowed rationale
  | interrupted =>
    obtain ⟨ps, -, rfl⟩ := Option.map_eq_some_iff.1 hs
    exact ⟨h.single, fun _ => rfl, h.missing⟩
  | allow =>
    obtain ⟨hopen, hs⟩ := Option.ite_none_right_eq_some.1 hs
    apply explains_closed
    rw [(requested hs).2]
    exact Nat.sub_eq_zero_of_le h.single
  | cancel =>
    obtain ⟨hopen, hs⟩ := Option.ite_none_right_eq_some.1 hs
    cases hs
    exact explains_closed (Nat.sub_eq_zero_of_le h.single)

/-- A dialog whose button asks again is over a missing permission. -/
theorem Answerable.missing (h : Answerable s) (hopen : 0 < s.dialogs) :
    ¬s.arePermissionsEnabled := by
  have hallow := h.allow hopen
  rwa [LoginScreen.step, if_pos hopen, requestMultiplePermissions_isSome] at hallow

theorem onCreate_some (hd : s.dialogs = 0) :
    ∃ s', s.onCreate = some s' ∧ s'.device = s.device ∧ s'.dialogs = 0 := by
  rw [onCreate]
  split
  · exact ⟨s, rfl, rfl, hd⟩
  · rename_i hmissing
    obtain ⟨s', hs'⟩ := Option.isSome_iff_exists.1 (requestMultiplePermissions_isSome.2 hmissing)
    exact ⟨s', hs', (requested hs').1, (requested hs').2.trans hd⟩

/-- A step of the screen is one of the device, or none. -/
theorem step_device (hs : s.step e = some s') :
    run Device.next s.device e.deviceEvents = some s'.device := by
  cases e with
  | device e =>
    obtain ⟨d, hd, rfl⟩ := Option.map_eq_some_iff.1 hs
    rw [AskEvent.deviceEvents, run_cons, hd, Option.bind_some, run_nil]
  | answer allowed rationale =>
    obtain ⟨ps, -, rfl⟩ := Option.map_eq_some_iff.1 hs
    rw [answered, onRequestPermissionsResult]
    split
    · split <;> rfl
    · rfl
  | interrupted =>
    obtain ⟨ps, -, rfl⟩ := Option.map_eq_some_iff.1 hs
    rfl
  | allow =>
    obtain ⟨-, hs⟩ := Option.ite_none_right_eq_some.1 hs
    rw [(requested hs).1]
    rfl
  | cancel =>
    obtain ⟨-, hs⟩ := Option.ite_none_right_eq_some.1 hs
    cases hs
    rfl

/-- Under the screen a new process does what it does alone. -/
theorem run_device {fine coarse service internet : Bool}
    (hopened : opened fine coarse service internet = some s) (h : run step s es = some s') :
    run Device.next (.launched fine coarse service) (es.flatMap AskEvent.deviceEvents) =
      some s'.device := by
  have hstep : ∀ s d e s', s.device = d → step s e = some s' →
      ∃ d', run Device.next d e.deviceEvents = some d' ∧ s'.device = d' := by
    rintro s d e s' rfl hs
    exact ⟨s'.device, step_device hs, rfl⟩
  obtain ⟨t, ht, hdevice, -⟩ := onCreate_some
    (s := ⟨.launched fine coarse service, internet, none, 0⟩) rfl
  obtain rfl := Option.some.inj (ht.symm.trans hopened)
  obtain ⟨d, hd, rfl⟩ := run_simulated _ _ hstep hdevice h
  exact hd

/-- To refuse, to allow both positions in the system's settings and then to press Allow is an
exception. -/
example : ((opened false false true true).bind fun s => run step s
    [.answer (fun _ => false) (fun _ => true), .device (.permissions true true)]).any
      (fun s => (s.step .allow).isNone) := by
  decide

end LoginScreen

end CrowdTracking
