import Mathlib.Algebra.Order.BigOperators.Group.List
import Mathlib.Algebra.Order.Group.Nat
import CrowdTracking.MainActivity
import CrowdTracking.Runs

namespace CrowdTracking
set_option autoImplicit true
open Database Runs

inductive Screen where
  | login
  | verification
  | main (number : Nat)
deriving DecidableEq

/-- An activity that `startActivity` has been called for and that is not created yet. -/
inductive Intent where
  | verification
  | main
deriving DecidableEq

/-- The listener that one press of Sign-up adds to `Campaign`, with the times it has started the
verification. -/
structure CampaignListener where
  signUp : SignUp
  starts : Nat
deriving DecidableEq

/-- One device: the screens (the top one first), the activities to be created and the sharing
screens by their number. -/
structure Device where
  phone : Phone
  campaignListeners : List CampaignListener
  screens : List Screen
  intents : List Intent
  mains : List MainActivity
deriving DecidableEq

inductive DeviceEvent where
  | signUp (campaign_id contacts : String)
  | onDataChange (i : Nat) (campaignNames : Option (Record Json))
  | launch
  | verify (verificationNumber : String) (draw : Draw)
  | permissions (fine coarse : Bool)
  | main (i : Nat) (e : MainEvent)
deriving DecidableEq

def DeviceEvent.verified : DeviceEvent → Option String
  | .verify verificationNumber draw =>
    if verificationNumber = "000" then some draw.crowd_id else none
  | _ => none

namespace Device

def launched (fine coarse service : Bool) : Device :=
  ⟨.launched fine coarse service, [], [.login], [], []⟩

def signUps (d : Device) : Nat := d.campaignListeners.length

def verificationsStarted (d : Device) : Nat := (d.campaignListeners.map (·.starts)).sum

/-- The crowds that the registered location listeners write to. -/
def publishes (d : Device) : List String :=
  d.phone.registered.filterMap fun l => (d.mains[l.activity]?).map MainActivity.child

def signUp (d : Device) (campaign_id contacts : String) : Device :=
  { d with campaignListeners := d.campaignListeners ++ [⟨⟨campaign_id, contacts⟩, 0⟩] }

/-- An accepted snapshot sets the session's campaign and starts the verification; `none` is an
exception, as on the null map of an empty tree. -/
def onDataChange (d : Device) (i : Nat) (u : CampaignListener)
    (campaignNames : Option (Record Json)) : Option Device :=
  (campaignNames.bind u.signUp.accepts).map fun
    | true => { d with
        phone := { d.phone with tafweej := u.signUp.accepted d.phone.tafweej }
        campaignListeners := d.campaignListeners.set i { u with starts := u.starts + 1 }
        intents := d.intents ++ [.verification] }
    | false => d

def launch (d : Device) : Option Device :=
  match d.intents with
  | [] => none
  | .verification :: intents =>
    some { d with intents := intents, screens := .verification :: d.screens }
  | .main :: intents =>
    (MainActivity.onCreate d.mains.length d.phone.tafweej).map fun a => { d with
      intents := intents
      screens := .main d.mains.length :: d.screens
      mains := d.mains ++ [a] }

def verify (d : Device) (verificationNumber : String) (draw : Draw) : Device × List Write :=
  match VerificationActivity.onClick verificationNumber draw d.phone.tafweej with
  | none => (d, [])
  | some (t, w) =>
    ({ d with phone := { d.phone with tafweej := t }, intents := d.intents ++ [.main] }, [w])

def mainStep (d : Device) (i : Nat) (e : MainEvent) : Option (Device × List Write) :=
  (d.mains[i]?).bind fun a => (a.step d.phone e).map fun (a, phone, writes) =>
    ({ d with phone := phone, mains := d.mains.set i a }, writes)

/-- The user acts on the top screen; a listener is called back whatever is on top. -/
def step (d : Device) : DeviceEvent → Option (Device × List Write)
  | .signUp campaign_id contacts =>
    if d.screens.head? = some .login then some (d.signUp campaign_id contacts, []) else none
  | .onDataChange i campaignNames =>
    (d.campaignListeners[i]?).bind fun u => (d.onDataChange i u campaignNames).map (·, [])
  | .launch => d.launch.map (·, [])
  | .verify verificationNumber draw =>
    if d.screens.head? = some .verification then some (d.verify verificationNumber draw) else none
  | .permissions fine coarse => some ({ d with phone := d.phone.grant fine coarse }, [])
  | .main i e =>
    if e.listener.isSome ∨ d.screens.head? = some (.main i) then d.mainStep i e else none

def next (d : Device) (e : DeviceEvent) : Option Device := (d.step e).map Prod.fst

/-- No more verifications than sign-ups, and every listener writes to the crowd of the session. -/
def OneSession (d : Device) : Prop :=
  d.verificationsStarted ≤ d.signUps ∧
    ∀ crowd_id ∈ d.publishes, d.phone.tafweej.crowd_id = some crowd_id

instance (d : Device) : Decidable (OneSession d) := inferInstanceAs (Decidable (_ ∧ _))

/-- A campaign listener accepts one snapshot only, and no verification succeeds while a location
listener is registered. -/
def KeepsSession (d : Device) : DeviceEvent → Prop
  | .onDataChange i campaignNames => ∀ u ∈ d.campaignListeners[i]?,
      campaignNames.bind u.signUp.accepts = some true → u.starts = 0
  | .verify verificationNumber _ => verificationNumber = "000" → d.phone.registered = []
  | _ => True

/-- Every screen on top and every registered listener belongs to the crowd of the session. -/
structure Consistent (d : Device) : Prop where
  starts : ∀ u ∈ d.campaignListeners, u.starts ≤ 1
  number : ∀ (i : Nat) (a : MainActivity), d.mains[i]? = some a → a.number = i
  top : ∀ i, d.screens.head? = some (.main i) → ∀ a : MainActivity, d.mains[i]? = some a →
    d.phone.tafweej.crowd_id = some a.child
  registered : ∀ l ∈ d.phone.registered, ∀ a : MainActivity, d.mains[l.activity]? = some a →
    d.phone.tafweej.crowd_id = some a.child

theorem mem_publishes {d : Device} : c ∈ d.publishes ↔
    ∃ l ∈ d.phone.registered, ∃ a, d.mains[l.activity]? = some a ∧ a.child = c := by
  simp [publishes]

theorem Consistent.oneSession {d : Device} (h : Consistent d) : OneSession d := by
  constructor
  · rw [verificationsStarted, signUps]
    have hle := List.sum_le_card_nsmul (d.campaignListeners.map (·.starts)) 1 ?_
    · simpa using hle
    · intro n hn
      obtain ⟨u, hu, rfl⟩ := List.mem_map.1 hn
      exact h.starts u hu
  · intro c hc
    obtain ⟨l, hl, a, ha, rfl⟩ := mem_publishes.1 hc
    exact h.registered l hl a ha

instance (d : Device) (e : DeviceEvent) : Decidable (KeepsSession d e) :=
  match e with
  | .onDataChange i names =>
    match h : d.campaignListeners[i]? with
    | none => isTrue (by simp [KeepsSession, h])
    | some u => decidable_of_iff (names.bind u.signUp.accepts = some true → u.starts = 0)
        (by simp [KeepsSession, h])
  | .verify .. => inferInstanceAs (Decidable (_ → _))
  | .signUp .. | .launch | .permissions .. | .main .. => isTrue trivial

theorem consistent_launched (fine coarse service : Bool) :
    Consistent (launched fine coarse service) := by
  refine ⟨nofun, ?_, ?_, nofun⟩
  · intro i a h
    cases h
  · intro i h
    cases h

theorem getElem?_append_some {d : Device} (h : (d.mains ++ [b])[i]? = some a) :
    d.mains[i]? = some a ∨ (i = d.mains.length ∧ b = a) := by
  rw [List.getElem?_append] at h
  split at h
  · exact .inl h
  · rename_i hi
    rw [List.getElem?_singleton] at h
    split at h
    · exact .inr ⟨by omega, Option.some.inj h⟩
    · cases h

/-- The ways an event changes the device and the database. -/
inductive Stepped (d : Device) : DeviceEvent → Device → List Write → Prop where
  | signUp (htop : d.screens.head? = some .login) :
      Stepped d (.signUp campaign_id contacts) (d.signUp campaign_id contacts) []
  | rejected (hu : d.campaignListeners[i]? = some u)
      (haccept : names.bind u.signUp.accepts = some false) :
      Stepped d (.onDataChange i names) d []
  | accepted (hu : d.campaignListeners[i]? = some u)
      (haccept : names.bind u.signUp.accepts = some true) :
      Stepped d (.onDataChange i names)
        { d with
          phone := { d.phone with tafweej := u.signUp.accepted d.phone.tafweej }
          campaignListeners := d.campaignListeners.set i { u with starts := u.starts + 1 }
          intents := d.intents ++ [.verification] } []
  | opened (hi : d.intents = .verification :: rest) :
      Stepped d .launch
        { d with intents := rest, screens := .verification :: d.screens } []
  | created (hi : d.intents = .main :: rest) (hc : d.phone.tafweej.crowd_id = some c) :
      Stepped d .launch
        { d with
          intents := rest
          screens := .main d.mains.length :: d.screens
          mains := d.mains ++ [.opened d.mains.length c] } []
  | refused (htop : d.screens.head? = some .verification) (hn : verificationNumber ≠ "000") :
      Stepped d (.verify verificationNumber draw) d []
  | verified (htop : d.screens.head? = some .verification) :
      Stepped d (.verify "000" draw)
        { d with
          phone := { d.phone with
            tafweej := (VerificationActivity.verified draw d.phone.tafweej).1 }
          intents := d.intents ++ [.main] }
        [(VerificationActivity.verified draw d.phone.tafweej).2]
  | permissions :
      Stepped d (.permissions fine coarse) { d with phone := d.phone.grant fine coarse } []
  | main (htop : e.listener.isSome ∨ d.screens.head? = some (.main i))
      (ha : d.mains[i]? = some a) (hs : a.Stepped d.phone e a' p' ws) :
      Stepped d (.main i e) { d with phone := p', mains := d.mains.set i a' } ws

theorem launch_stepped {d d' : Device} (h : d.launch = some d') : Stepped d .launch d' [] := by
  rw [launch] at h
  split at h
  · cases h
  · rename_i hi
    cases h
    exact .opened hi
  · rename_i hi
    obtain ⟨a, ha, rfl⟩ := Option.map_eq_some_iff.1 h
    obtain ⟨c, hc, rfl⟩ := Option.map_eq_some_iff.1 ha
    exact .created hi hc

theorem step_stepped {d d' : Device} (h : d.step e = some (d', ws)) : Stepped d e d' ws := by
  cases e with
  | signUp campaign_id contacts =>
    obtain ⟨htop, h⟩ := Option.ite_none_right_eq_some.1 h
    cases h
    exact .signUp htop
  | onDataChange i names =>
    obtain ⟨u, hu, h⟩ := Option.bind_eq_some_iff.1 h
    obtain ⟨d₂, hd, heq⟩ := Option.map_eq_some_iff.1 h
    cases heq
    obtain ⟨accepted, haccept, rfl⟩ := Option.map_eq_some_iff.1 hd
    cases accepted with
    | false => exact .rejected hu haccept
    | true => exact .accepted hu haccept
  | launch =>
    obtain ⟨d₂, hd, heq⟩ := Option.map_eq_some_iff.1 h
    cases heq
    exact launch_stepped hd
  | verify verificationNumber draw =>
    obtain ⟨htop, h⟩ := Option.ite_none_right_eq_some.1 h
    by_cases hn : verificationNumber = "000"
    · subst hn
      cases h
      exact .verified htop
    · simp only [verify, VerificationActivity.onClick, if_neg hn] at h
      cases h
      exact .refused htop hn
  | permissions fine coarse =>
    cases h
    exact .permissions
  | main i e =>
    obtain ⟨htop, h⟩ := Option.ite_none_right_eq_some.1 h
    obtain ⟨a, ha, h⟩ := Option.bind_eq_some_iff.1 h
    obtain ⟨⟨a', p', ws'⟩, hs, heq⟩ := Option.map_eq_some_iff.1 h
    cases heq
    exact .main htop ha (MainActivity.step_stepped hs)

theorem Consistent.created {d : Device} (h : Consistent d)
    (hc : d.phone.tafweej.crowd_id = some c) :
    Consistent { d with
      intents := rest
      screens := .main d.mains.length :: d.screens
      mains := d.mains ++ [.opened d.mains.length c] } := by
  refine ⟨h.starts, ?_, ?_, ?_⟩
  · intro i b hb
    rcases getElem?_append_some hb with hb | ⟨rfl, rfl⟩
    · exact h.number i b hb
    · rfl
  · intro i hi b hb
    cases hi
    rcases getElem?_append_some hb with hb | ⟨-, rfl⟩
    · simp at hb
    · exact hc
  · intro l hl b hb
    rcases getElem?_append_some hb with hb | ⟨-, rfl⟩
    · exact h.registered l hl b hb
    · exact hc

theorem Consistent.main {d : Device} (h : Consistent d)
    (htop : e.listener.isSome ∨ d.screens.head? = some (.main i))
    (ha : d.mains[i]? = some a) (hs : a.Stepped d.phone e a' p' ws) :
    Consistent { d with phone := p', mains := d.mains.set i a' } := by
  have hnumber := h.number i a ha
  have hmains : ∀ (j : Nat) (b : MainActivity), (d.mains.set i a')[j]? = some b →
      ∃ c, d.mains[j]? = some c ∧ b.number = c.number ∧ b.child = c.child := by
    intro j b hb
    rw [List.getElem?_set] at hb
    split at hb
    · rename_i hij
      subst hij
      split at hb
      · cases hb
        exact ⟨a, ha, hs.number, hs.child⟩
      · cases hb
    · exact ⟨b, hb, rfl, rfl⟩
  refine ⟨h.starts, ?_, ?_, ?_⟩
  · intro j b hb
    obtain ⟨c, hc, hn, -⟩ := hmains j b hb
    rw [hn, h.number j c hc]
  · intro j hj b hb
    obtain ⟨c, hc, -, hchild⟩ := hmains j b hb
    rw [hs.crowd_id, h.top j hj c hc, hchild]
  · intro l hl b hb
    obtain ⟨c, hc, -, hchild⟩ := hmains l.activity b hb
    rw [hs.crowd_id, hchild]
    rcases hs.registered hl with hl | ⟨hstarts, hown⟩
    · exact h.registered l hl c hc
    · have hlis := MainActivity.listener_of_starts hstarts
      rw [hlis] at htop
      have hhead := htop.resolve_left nofun
      exact h.top i hhead c (by rwa [← hnumber, ← hown])

theorem Consistent.step {d d' : Device} (h : Consistent d) (hs : Stepped d e d' ws)
    (hC : KeepsSession d e) : Consistent d' := by
  cases hs with
  | signUp htop =>
    refine ⟨?_, h.number, h.top, h.registered⟩
    intro u hu
    rcases List.mem_append.1 hu with hu | hu
    · exact h.starts u hu
    · rw [List.mem_singleton] at hu
      rw [hu]
      exact Nat.zero_le 1
  | rejected hu haccept => exact h
  | accepted hu haccept =>
    refine ⟨?_, h.number, h.top, h.registered⟩
    intro v hv
    rcases List.mem_or_eq_of_mem_set hv with hv | rfl
    · exact h.starts v hv
    · simp [hC _ hu haccept]
  | opened hi => exact ⟨h.starts, h.number, nofun, h.registered⟩
  | created hi hc => exact h.created hc
  | refused htop hn => exact h
  | verified htop =>
    refine ⟨h.starts, h.number, ?_, ?_⟩
    · intro i hi
      rw [htop] at hi
      cases hi
    · intro l hl
      rw [hC rfl] at hl
      cases hl
  | permissions => exact ⟨h.starts, h.number, h.top, h.registered⟩
  | main htop ha hs => exact h.main htop ha hs

/-- A location callback writes to a node that the device publishes. -/
theorem Consistent.callback_path {d d' : Device} (h : Consistent d)
    (hs : Stepped d (.main i (.onLocationChanged l lat lng)) d' ws) (hw : w ∈ ws) :
    ∃ c ∈ d.publishes, w.path = crowdPath c := by
  cases hs with
  | main htop ha hs =>
    rename_i a a' p'
    cases hs with
    | located he hl hown =>
      cases he
      rw [List.mem_singleton] at hw
      refine ⟨a.child, mem_publishes.2 ⟨l, hl, a, ?_, rfl⟩, by rw [hw]; rfl⟩
      rwa [hown, h.number i a ha]
    | stopped he hvis hl => cases he
    | _ => cases hw

/-- While every campaign listener accepts one snapshot and nobody verifies while sharing, a sign-up
gives one session and every listener writes to its crowd. -/
theorem one_session (fine coarse service : Bool) (es : List DeviceEvent)
    (h : Along next KeepsSession (launched fine coarse service) es) :
    Always next OneSession (launched fine coarse service) es :=
  Always.of_invariant Consistent (fun _ hI => hI.oneSession)
    (fun d e d' hI hs hC => by
      obtain ⟨⟨d₁, ws⟩, hd, rfl⟩ := Option.map_eq_some_iff.1 hs
      exact hI.step (step_stepped hd) hC)
    (consistent_launched fine coarse service) h

def oneCampaign : Option (Record Json) :=
  some (Record.empty.put "c" (.obj (Record.empty.put "phone" (.str "p"))))

def sharing (draw : Draw) : List DeviceEvent :=
  [.signUp "c" "p", .onDataChange 0 oneCampaign, .launch, .verify "000" draw, .launch,
    .main 0 .buttonStart]

theorem one_session_sharing :
    Along next KeepsSession (launched true true true) (sharing ⟨0, 0, 0⟩) ∧
      Always next OneSession (launched true true true) (sharing ⟨0, 0, 0⟩) ∧
      (run next (launched true true true) (sharing ⟨0, 0, 0⟩)).map (fun d =>
          (d.signUps, d.verificationsStarted, d.publishes, d.phone.tafweej.crowd_id)) =
        some (1, 1, ["A00"], some "A00") := by
  have h : Along next KeepsSession (launched true true true) (sharing ⟨0, 0, 0⟩) := by
    decide +kernel
  exact ⟨h, one_session true true true _ h, by decide +kernel⟩

/-- Any later change of `Campaign` starts the verification again over the sharing screen, and the
new session leaves the old listener on the old crowd. -/
theorem second_session :
    ¬Always next OneSession (launched true true true) [.signUp "c" "p", .onDataChange 0 oneCampaign,
      .launch, .verify "000" ⟨0, 0, 0⟩, .launch, .main 0 .buttonStart, .onDataChange 0 oneCampaign,
      .launch, .verify "000" ⟨1, 0, 0⟩] := by
  decide +kernel

end Device

end CrowdTracking
