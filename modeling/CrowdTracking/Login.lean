import CrowdTracking.Campaign
import CrowdTracking.Runs

namespace CrowdTracking
set_option autoImplicit true
open Database Runs

/-- A path that `child` takes without an exception. -/
def validPath (path : String) : Bool :=
  path ≠ "" && path.toList.all (· ∉ ['.', '#', '$', '[', ']'])

def segments (path : String) : List String :=
  ((path.toList.splitOn '/').map String.ofList).filter (· ≠ "")

def allowedKey (key : String) : Bool := validPath key && key.toList.all (· ≠ '/')

/-- `lowercased()` and `==` of Swift's strings; the second compares up to canonical equivalence. -/
structure Unicode where
  lowercased : String → String
  equal : String → String → Bool
  lowercased_allowed : ∀ s, allowedKey s → allowedKey (lowercased s)
  equal_self : ∀ s, equal s s
  equal_empty : ∀ s, equal "" s → s = ""

theorem toLower_eq_self {c d : Char} (h : c.toLower = d) (hd : d.toNat < 97) : c = d := by
  delta Char.toLower at h
  split at h
  · rename_i hc
    subst h
    simp only [Char.toNat] at hd
    simp [UInt32.le_iff_toNat_le] at hc hd
    omega
  · exact h

theorem allowedKey_toLower (s : String) (h : allowedKey s) :
    allowedKey (String.ofList (s.toList.map Char.toLower)) := by
  have hne : s.toList ≠ [] := by
    intro hs
    have hempty : s = "" := by rw [← String.ofList_toList (s := s), hs]
    rw [hempty] at h
    exact absurd h (by decide)
  simp only [allowedKey, validPath, Bool.and_eq_true, List.all_eq_true, decide_eq_true_eq] at h ⊢
  obtain ⟨⟨-, hpath⟩, hslash⟩ := h
  refine ⟨⟨?_, ?_⟩, ?_⟩
  · intro hs
    have hlist := congrArg String.toList hs
    rw [String.toList_ofList] at hlist
    exact hne (List.map_eq_nil_iff.1 hlist)
  · intro c hc hbad
    rw [String.toList_ofList] at hc
    obtain ⟨b, hb, rfl⟩ := List.mem_map.1 hc
    have hlow : ∀ d ∈ ['.', '#', '$', '[', ']'], d.toNat < 97 := by simp
    rw [← toLower_eq_self rfl (hlow _ hbad)] at hbad
    exact hpath b hb hbad
  · intro c hc hbad
    rw [String.toList_ofList] at hc
    obtain ⟨b, hb, rfl⟩ := List.mem_map.1 hc
    exact hslash b hb (toLower_eq_self hbad (by decide))

/-- The two operations on the strings of ASCII characters. -/
def Unicode.ascii : Unicode where
  lowercased s := String.ofList (s.toList.map Char.toLower)
  equal s t := s = t
  lowercased_allowed := allowedKey_toLower
  equal_self _ := decide_eq_true rfl
  equal_empty _ h := (of_decide_eq_true h).symm

/-- A press of Login that waits for the snapshot of the campaign. -/
structure Attempt where
  campaign_id : String
  number : String
deriving DecidableEq

/-- A matching snapshot, with its key and its data, that waits for the anonymous sign-in. -/
structure SignIn where
  key : String
  data : Record Json
deriving DecidableEq

namespace Attempt

def path (a : Attempt) : List String := "Campaign" :: segments a.campaign_id

def key (a : Attempt) : String := (a.path.getLast?).getD ""

/-- The test of the snapshot's callback. -/
def accepts (u : Unicode) (a : Attempt) : Option Json → Option SignIn
  | some (.obj data) =>
    let newCampaign := Model.Campaign.init a.key "" data
    if u.equal newCampaign.number a.number ∧ u.equal newCampaign.uid a.campaign_id then
      some ⟨a.key, data⟩
    else none
  | _ => none

end Attempt

namespace ViewController

/-- The inner `none` is a return before the observation, the outer one the exception of `child`. -/
def loginHandler (u : Unicode) (campaignInput phonenumberInput : String) :
    Option (Option Attempt) :=
  let campaign_id := u.lowercased campaignInput
  let number := phonenumberInput
  if campaign_id = "" ∨ number = "" then some none
  else if validPath campaign_id then some (some ⟨campaign_id, number⟩)
  else none

end ViewController

/-- The callbacks of the login that are outstanding, what they share, and the writes made. -/
structure Login where
  campaign : Option Model.Campaign
  defaults : Option (Record String)
  observing : List Attempt
  signingIn : List SignIn
  mainQueue : List Model.Campaign
  written : List Write
deriving DecidableEq

inductive LoginEvent where
  | loginHandler (campaignInput phonenumberInput : String)
  | observed (i : Nat) (value : Option Json)
  | signedIn (i : Nat) (newCrowd : Option String)
  | main
deriving DecidableEq

/-- The sign-in completes without an error; `childByAutoId` gives the key. -/
def LoginEvent.succeeds : LoginEvent → Bool
  | .signedIn _ (some _) => true
  | _ => false

namespace Login

def saved (s : Login) : Option Model.Campaign := s.defaults.bind Model.Campaign.decode

def launched (saved : Option Model.Campaign) : Login :=
  let defaults := saved.map Model.Campaign.encode
  { campaign := defaults.bind Model.Campaign.decode, defaults := defaults, observing := [],
    signingIn := [], mainQueue := [], written := [] }

/-- The completion of `signInAnonymously`. -/
def completed (s : Login) (r : SignIn) (key : String) : Login :=
  let newCampaign := Model.Campaign.init r.key key r.data
  { s with
    written := s.written ++ [ViewController.registration r.key key]
    defaults := some newCampaign.encode
    mainQueue := s.mainQueue ++ [newCampaign] }

def step (u : Unicode) (s : Login) : LoginEvent → Option Login
  | .loginHandler campaignInput phonenumberInput =>
    (ViewController.loginHandler u campaignInput phonenumberInput).map fun a =>
      { s with observing := s.observing ++ a.toList }
  | .observed i value => (s.observing[i]?).map fun a => { s with
      observing := s.observing.eraseIdx i
      signingIn := s.signingIn ++ (a.accepts u value).toList }
  | .signedIn i newCrowd => (s.signingIn[i]?).bind fun r =>
      let s := { s with signingIn := s.signingIn.eraseIdx i }
      match newCrowd with
      | none => some s
      | some key =>
        -- the key of `childByAutoId` is a new one
        if key ≠ "" ∧ ∀ w ∈ s.written, w.path ≠ crowdPath key then some (s.completed r key)
        else none
  | .main =>
    match s.mainQueue with
    | c :: mainQueue => some { s with campaign := some c, mainQueue := mainQueue }
    | [] => none

def Idle (s : Login) : Prop := s.observing = [] ∧ s.signingIn = [] ∧ s.mainQueue = []

instance (s : Login) : Decidable s.Idle := inferInstanceAs (Decidable (_ ∧ _))

def names (c : Option Model.Campaign) (w : Write) : Prop :=
  c.map (fun c => crowdPath c.crowd_id) = some w.path

instance (c : Option Model.Campaign) (w : Write) : Decidable (names c w) :=
  inferInstanceAs (Decidable (_ = _))

/-- At most one node is created, and with no callback left it is the one that both campaigns
name. -/
def OneCrowd (s : Login) : Prop :=
  s.written.length ≤ 1 ∧ (s.Idle → ∀ w ∈ s.written, names s.campaign w ∧ names s.saved w)

instance : DecidablePred OneCrowd := fun _ => inferInstanceAs (Decidable (_ ∧ (_ → _)))

/-- No two sign-ins of a run complete without an error. -/
def OneSuccess (s : Login × List LoginEvent) (e : LoginEvent) : Prop :=
  e.succeeds → ∀ e' ∈ s.2, ¬e'.succeeds

/-- The state of the writes and the campaigns as long as one sign-in has completed at most. -/
inductive Created (s : Login) : List LoginEvent → Prop where
  | nothing (hw : s.written = []) (hq : s.mainQueue = [])
      (hist : ∀ e ∈ es, LoginEvent.succeeds e = false) : Created s es
  | node (c : Model.Campaign) (hw : s.written = [ViewController.registration c.uid c.crowd_id])
      (hd : s.defaults = some c.encode)
      (hq : s.mainQueue = [c] ∨ s.mainQueue = [] ∧ s.campaign = some c)
      (hist : ∃ e ∈ es, LoginEvent.succeeds e = true) : Created s es

variable {s s' : Login} {e : LoginEvent} {es : List LoginEvent}

theorem Created.oneCrowd (h : Created s es) : s.OneCrowd := by
  cases h with
  | nothing hw =>
    rw [OneCrowd, hw]
    exact ⟨Nat.zero_le 1, fun _ _ h => by cases h⟩
  | node c hw hd hq =>
    rw [OneCrowd, hw]
    refine ⟨Nat.le_refl 1, ?_⟩
    intro hidle w hmem
    rw [List.mem_singleton] at hmem
    subst hmem
    rcases hq with hq | ⟨-, hc⟩
    · rw [hidle.2.2] at hq
      cases hq
    · have hsaved : s.saved = some { c with number := "" } := by
        rw [saved, hd, Option.bind_some, Model.Campaign.decode_encode]
      rw [names, names, hc, hsaved]
      exact ⟨rfl, rfl⟩

/-- An event that completes no sign-in leaves the writes and what is saved as they were. -/
theorem Created.other (h : Created s es) (he : e.succeeds = false) (hw : s'.written = s.written)
    (hd : s'.defaults = s.defaults) (hq : s'.mainQueue = s.mainQueue)
    (hc : s'.campaign = s.campaign) : Created s' (es ++ [e]) := by
  cases h with
  | nothing hw' hq' hist =>
    apply Created.nothing (hw.trans hw') (hq.trans hq')
    intro e' he'
    rcases List.mem_append.1 he' with he' | he'
    · exact hist e' he'
    · rwa [List.mem_singleton.1 he']
  | node c hw' hd' hq' hist =>
    obtain ⟨e', he', hsucc⟩ := hist
    refine .node c (hw.trans hw') (hd.trans hd') ?_ ⟨e', List.mem_append_left _ he', hsucc⟩
    rwa [hq, hc]

theorem Created.main (h : Created s es) (hq : s.mainQueue = c :: cs) :
    Created { s with campaign := some c, mainQueue := cs } (es ++ [.main]) := by
  cases h with
  | nothing hw' hq' =>
    rw [hq'] at hq
    cases hq
  | node d hw' hd' hq' hist =>
    obtain ⟨e', he', hsucc⟩ := hist
    refine .node d hw' hd' ?_ ⟨e', List.mem_append_left _ he', hsucc⟩
    rcases hq' with hq' | ⟨hq', -⟩
    · rw [hq'] at hq
      cases hq
      exact .inr ⟨rfl, rfl⟩
    · rw [hq'] at hq
      cases hq

theorem Created.completed (h : Created s es) (he : e.succeeds)
    (hC : ∀ e' ∈ es, ¬e'.succeeds) (r : SignIn) (key : String) (signingIn : List SignIn) :
    Created ({ s with signingIn := signingIn }.completed r key) (es ++ [e]) := by
  cases h with
  | nothing hw hq =>
    apply Created.node (Model.Campaign.init r.key key r.data)
    · rw [Login.completed, hw]
      rfl
    · rfl
    · rw [Login.completed, hq]
      exact .inl rfl
    · exact ⟨e, List.mem_append_right _ (List.mem_singleton.2 rfl), he⟩
  | node c hw hd hq hist =>
    obtain ⟨e', he', hsucc⟩ := hist
    exact absurd hsucc (hC e' he')

theorem Created.step {u : Unicode} (h : Created s es) (hs : s.step u e = some s')
    (hC : OneSuccess (s, es) e) : Created s' (es ++ [e]) := by
  cases e with
  | loginHandler campaignInput phonenumberInput =>
    obtain ⟨a, -, rfl⟩ := Option.map_eq_some_iff.1 hs
    exact h.other rfl rfl rfl rfl rfl
  | observed i value =>
    obtain ⟨a, -, rfl⟩ := Option.map_eq_some_iff.1 hs
    exact h.other rfl rfl rfl rfl rfl
  | signedIn i newCrowd =>
    obtain ⟨r, -, hs⟩ := Option.bind_eq_some_iff.1 hs
    cases newCrowd with
    | none =>
      cases hs
      exact h.other rfl rfl rfl rfl rfl
    | some key =>
      obtain ⟨-, hs⟩ := Option.ite_none_right_eq_some.1 hs
      cases hs
      exact h.completed rfl (hC rfl) r key _
  | main =>
    simp only [Login.step] at hs
    split at hs
    · rename_i c cs hq
      cases hs
      exact h.main hq
    · cases hs

/-- A second sign-in that completes creates a second node. -/
theorem Created.bad {u : Unicode} (h : Created s es) (hs : s.step u e = some s')
    (hP : s'.OneCrowd) : OneSuccess (s, es) e := by
  intro he
  cases e with
  | signedIn i newCrowd =>
    cases newCrowd with
    | none => cases he
    | some key =>
      obtain ⟨r, -, hs⟩ := Option.bind_eq_some_iff.1 hs
      obtain ⟨-, hs⟩ := Option.ite_none_right_eq_some.1 hs
      cases hs
      cases h with
      | nothing hw hq hist =>
        intro e' he' hsucc
        rw [hist e' he'] at hsucc
        cases hsucc
      | node c hw =>
        have hlen := hP.1
        rw [Login.completed, hw] at hlen
        exact absurd hlen (by simp)
  | _ => cases he

/-- The device has at most one crowd, the one of its campaign, exactly as long as at most one
sign-in completes without an error. -/
theorem one_crowd (u : Unicode) (saved : Option Model.Campaign) (es : List LoginEvent) :
    Always (withHistory (step u)) (fun s => s.1.OneCrowd) (launched saved, []) es ↔
      Along (withHistory (step u)) OneSuccess (launched saved, []) es := by
  apply always_iff_along fun s => Created s.1 s.2
  · exact fun _ h => h.oneCrowd
  · rintro s e ⟨s', es'⟩ h hs hC
    obtain ⟨hs, rfl⟩ := withHistory_some hs
    exact h.step hs hC
  · rintro s e ⟨s', es'⟩ h hs hP
    exact h.bad (withHistory_some hs).1 hP
  · exact .nothing rfl rfl fun _ h => by cases h

def campaignValue : Option Json := some (.obj (Record.empty.put "phone" (.str "055")))

/-- Two presses of Login before the first snapshot come to two crowds. -/
theorem two_crowds :
    ¬∀ (u : Unicode) (saved : Option Model.Campaign) (es : List LoginEvent),
      Always (step u) OneCrowd (launched saved) es := by
  intro h
  have hrun := h .ascii none [.loginHandler "a" "055", .loginHandler "a" "055",
    .observed 0 campaignValue, .observed 0 campaignValue, .signedIn 0 (some "k"),
    .signedIn 0 (some "l")]
  exact absurd hrun (by decide +kernel)

end Login

end CrowdTracking
