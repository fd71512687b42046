import Mathlib.Data.Fintype.EquivFin
import CrowdTracking.Credentials
import CrowdTracking.SavedCampaign

namespace CrowdTracking
set_option autoImplicit true
open Database Runs

namespace HajjApp

variable {distance : CLLocation → CLLocation → Rat} {u : Unicode} {s s' : HajjApp}
  {p : Process} {e : HajjEvent}

/-- A signed-in user without a campaign: the home screen is the root, and nothing on it writes. -/
structure Stranded (s : HajjApp) : Prop where
  currentUser : s.currentUser
  defaults : s.login.defaults = none
  idle : s.login.Idle
  campaign : s.login.campaign = none
  home : ∀ p, s.process = some p → p.shown ∧ p.home.campaign = none

theorem idle_login {l t : Login} {e : LoginEvent} (h : l.Idle) (hs : l.step u e = some t) :
    ∃ c n, e = .loginHandler c n := by
  obtain ⟨hobs, hsign, hmain⟩ := h
  cases e with
  | loginHandler c n => exact ⟨c, n, rfl⟩
  | observed i value =>
    rw [Login.step, hobs] at hs
    cases hs
  | signedIn i newCrowd =>
    rw [Login.step, hsign] at hs
    cases hs
  | main =>
    rw [Login.step, hmain] at hs
    cases hs

/-- A stranded device stays so and writes nothing. -/
theorem Stranded.step (h : s.Stranded) (hs : Acted distance u s e s') :
    s'.Stranded ∧ s'.log = s.log := by
  cases hs with
  | launch hp hd campaign hc p hp' =>
    have hsaved : s.login.saved = none := by rw [Login.saved, h.defaults]; rfl
    refine ⟨⟨h.currentUser, h.defaults, h.idle, hsaved, ?_⟩, rfl⟩
    rintro q ⟨⟩
    rw [if_pos h.currentUser]
    exact ⟨rfl, by rw [load_campaign, hc, hsaved]; rfl⟩
  | kill =>
    exact ⟨⟨h.currentUser, h.defaults, ⟨rfl, rfl, rfl⟩, rfl, fun p hp => by cases hp⟩, rfl⟩
  | manager hp =>
    refine ⟨⟨h.currentUser, h.defaults, h.idle, h.campaign, ?_⟩, rfl⟩
    rintro q ⟨⟩
    have hhome := h.home _ hp
    exact hhome
  | authorize => exact ⟨⟨h.currentUser, h.defaults, h.idle, h.campaign, h.home⟩, rfl⟩
  | authenticated hp hr => exact absurd h.idle.2.1 hr
  | login hp ha hs =>
    obtain ⟨c, n, rfl⟩ := idle_login h.idle hs
    exact absurd (h.home _ hp).1 ha.1
  | client hp hr hs =>
    obtain ⟨hshown, hcampaign⟩ := h.home _ hp
    have hws := HomeVC.writes_of_no_crowd_id (by rw [HomeVC.crowd_id, hcampaign]; rfl) hs
    refine ⟨⟨h.currentUser, h.defaults, h.idle, h.campaign, ?_⟩, by rw [hws, List.append_nil]⟩
    rintro q ⟨⟩
    exact ⟨hshown, (HomeVC.step_campaign hs).trans hcampaign⟩

/-- A key that no write has used. -/
theorem fresh_key (ws : List Write) : ∃ key, key ≠ "" ∧ ∀ w ∈ ws, w.path ≠ crowdPath key := by
  have hinj : Function.Injective fun n => String.ofList (List.replicate n 'k') := by
    intro m n hmn
    simpa using congrArg (fun s => s.toList.length) hmn
  have : Infinite String := Infinite.of_injective _ hinj
  obtain ⟨key, hkey⟩ :=
    Infinite.exists_notMem_finset ("" :: ws.map fun w => w.path.getLastD "").toFinset
  rw [List.mem_toFinset, List.mem_cons, not_or] at hkey
  refine ⟨key, hkey.1, fun w hw hpath => hkey.2 (List.mem_map.2 ⟨w, hw, ?_⟩)⟩
  rw [hpath]
  rfl

def phone (number : String) : Record Json := Record.empty.put "phone" (.str number)

/-- The login can come to a registration whenever no callback is outstanding. -/
theorem login_possible (u : Unicode) {l : Login} (h : l.Idle) : ∃ value key t,
    run (Login.step u) l [.loginHandler "a" "0", .observed 0 value] = some t ∧
      t.signingIn ≠ [] ∧ t.written = l.written ∧
      ∃ t', t.step u (.signedIn 0 (some key)) = some t' ∧ t'.written ≠ l.written := by
  obtain ⟨hobs, hsign, hmain⟩ := h
  have hallowed := u.lowercased_allowed "a" (by decide)
  have hvalid : validPath (u.lowercased "a") := by
    simp only [allowedKey, Bool.and_eq_true] at hallowed
    exact hallowed.1
  have hne : u.lowercased "a" ≠ "" := by
    rintro hempty
    rw [hempty] at hvalid
    exact absurd hvalid (by decide)
  have hhandler : ViewController.loginHandler u "a" "0" = some (some ⟨u.lowercased "a", "0"⟩) := by
    simp only [ViewController.loginHandler, hne, hvalid, false_or, ↓reduceIte]
    rfl
  let campaigns : Record Json := Record.empty.put (u.lowercased "a") (.obj (phone "0"))
  have haccepts : (Attempt.accepts u ⟨u.lowercased "a", "0"⟩
      (campaigns.get (u.lowercased "a"))).isSome := by
    rw [Credentials.accepts_iff (by decide) hallowed]
    refine ⟨"0", ?_, u.equal_self "0"⟩
    simp [Credentials.phone, campaigns, phone]
  obtain ⟨r, hr⟩ := Option.isSome_iff_exists.1 haccepts
  obtain ⟨key, hkey, hfresh⟩ := fresh_key l.written
  refine ⟨campaigns.get (u.lowercased "a"), key, { l with observing := [], signingIn := [r] }, ?_,
    List.cons_ne_nil _ _, rfl, { l with observing := [], signingIn := [] }.completed r key, ?_, ?_⟩
  · simp [Login.step, hhandler, hobs, hsign, hr]
  · simp [Login.step, hkey]
    exact hfresh
  · simp [Login.completed]

/-- Some run from here makes a write. -/
def Revivable (distance : CLLocation → CLLocation → Rat) (u : Unicode) (s : HajjApp) : Prop :=
  ∃ es t, run (step distance u) s es = some t ∧ t.log ≠ s.log

theorem Stranded.run (h : s.Stranded) (hr : Runs.run (HajjApp.step distance u) s es = some t) :
    t.Stranded ∧ t.log = s.log := by
  apply run_keeps (fun t : HajjApp => t.Stranded ∧ t.log = s.log) ⟨h, rfl⟩ ?_ hr
  rintro a e b - ⟨ha, hal⟩ hs
  obtain ⟨hb, hbl⟩ := ha.step (step_acted hs)
  exact ⟨hb, hbl.trans hal⟩

theorem Stranded.not_revivable (h : s.Stranded) : ¬s.Revivable distance u := by
  rintro ⟨es, t, hr, hlog⟩
  exact hlog (h.run hr).2

theorem launch_eq (distance : CLLocation → CLLocation → Rat) (u : Unicode)
    (hp : s.process = none) (hd : s.login.saved = none → s.login.defaults = none) :
    ∃ s', s.step distance u (.launch true) = some s' ∧
      s'.login = { s.login with campaign := s.login.saved } ∧ s'.currentUser = s.currentUser ∧
      s'.log = s.log ∧ ∃ p, s'.process = some p ∧ p.active ∧ p.shown = s.currentUser ∧
        p.home = .new (s.login.saved.map Model.Campaign.toCampaign) none := by
  have hn : ¬(s.process.isSome ∨ s.login.saved.isNone ∧ s.login.defaults.isSome) := by
    rw [hp]
    rintro (h | ⟨h, hsome⟩)
    · cases h
    · rw [hd (Option.isNone_iff_eq_none.1 h)] at hsome
      cases hsome
  rw [HajjApp.step, launch, if_neg hn]
  refine ⟨_, rfl, rfl, rfl, rfl, _, rfl, ?_⟩
  by_cases hu : s.currentUser
  · rw [if_pos hu, hu]
    exact ⟨rfl, rfl, rfl⟩
  · rw [if_neg hu, Bool.eq_false_iff.2 hu]
    exact ⟨rfl, rfl, rfl⟩

theorem step_login (distance : CLLocation → CLLocation → Rat) {l : LoginEvent} {t : Login}
    (hp : s.process = some p)
    (ha : p.Allows s.currentUser l) (hl : l ≠ .main) (hs : s.login.step u l = some t) :
    ∃ s', s.step distance u (.login l) = some s' ∧ s'.login = t ∧ s'.process = some p ∧
      s'.currentUser = s.currentUser ∧ s'.log = s.log ++ t.written.drop s.login.written.length := by
  rw [HajjApp.step, hp, Option.bind_some, loginStep, if_pos ha, hs, Option.map_some]
  exact ⟨_, rfl, rfl, congrArg some (if_neg hl), rfl, rfl⟩

/-- Start on the home screen of the saved campaign. -/
theorem revivable_saved (h : s.Saved) (hp : s.process = none) (hs : s.login.saved = some c) :
    s.Revivable distance u := by
  have hk : c.crowd_id ≠ "" := (h.registered c (.inl hs)).1
  have huser : s.currentUser := h.signedIn (by rw [hs]; rfl)
  obtain ⟨s', hs', -, -, hlog, p, hp', hactive, hshown, hhome⟩ := launch_eq distance u hp h.decodes
  have hid : p.home.crowd_id = some c.crowd_id := by
    rw [hhome, hs]
    simp [HomeVC.crowd_id, HomeVC.new, hk]
  have hstart : p.home.step distance (.obj .empty) .startBtnHandler =
      some (p.home.toggleStatus true, p.home.setStatus "Active") := by
    rw [hhome]
    rfl
  have hreceives : p.Receives .startBtnHandler := ⟨hshown.trans huser, hactive⟩
  refine ⟨[.launch true, .client (.obj .empty) .startBtnHandler],
    { s' with
      log := s'.log ++ p.home.setStatus "Active"
      process := some { p with home := p.home.toggleStatus true } }, ?_, ?_⟩
  · rw [run_cons, hs', Option.bind_some, run_cons, HajjApp.step, hp', Option.bind_some, clientStep,
      if_pos hreceives, hstart]
    rfl
  · simp [hlog, HomeVC.setStatus_eq hid]

/-- Login on the first screen. -/
theorem revivable_fresh (h : s.Saved) (hp : s.process = none) (hu : ¬s.currentUser) :
    s.Revivable distance u := by
  obtain ⟨hidle, -⟩ := h.closed hp
  obtain ⟨s₁, hs₁, hl₁, -, hlog₁, p, hp₁, hactive, hshown, -⟩ := launch_eq distance u hp h.decodes
  obtain ⟨value, key, t, hr, hsign, hw, t', ht', hw'⟩ := login_possible u (l := s₁.login)
    (by rw [hl₁]; exact hidle)
  obtain ⟨t₁, ht₁, hr⟩ := Option.bind_eq_some_iff.1 hr
  obtain ⟨t₂, ht₂, hr⟩ := Option.bind_eq_some_iff.1 hr
  cases hr
  have hallows : p.Allows s₁.currentUser (.loginHandler "a" "0") :=
    ⟨by rw [hshown]; exact hu, hactive⟩
  obtain ⟨s₂, hs₂, rfl, hp₂, -, hlog₂⟩ := step_login distance hp₁ hallows (fun h => by cases h) ht₁
  obtain ⟨s₃, hs₃, rfl, hp₃, -, hlog₃⟩ := step_login distance (l := .observed 0 value) hp₂ trivial
    (fun h => by cases h) ht₂
  have hs₄ : s₃.step distance u .authenticated = some { s₃ with currentUser := true } := by
    rw [HajjApp.step, if_pos ⟨by rw [hp₃]; rfl, hsign⟩]
  obtain ⟨s₅, hs₅, -, -, -, hlog₅⟩ := step_login distance (s := { s₃ with currentUser := true })
    (l := .signedIn 0 (some key)) hp₃ rfl (fun h => by cases h) ht'
  refine ⟨[.launch true, .login (.loginHandler "a" "0"), .login (.observed 0 value),
    .authenticated, .login (.signedIn 0 (some key))], s₅, ?_, ?_⟩
  · simp only [run_cons, run_nil, hs₁, hs₂, hs₃, hs₄, hs₅, Option.bind_some]
  · obtain ⟨ws, hws⟩ := written_moved (login_moved ht')
    rw [hlog₅, hlog₃, hlog₂, hlog₁]
    intro heq
    have hlen := congrArg List.length heq
    have hnil : t'.written.drop s₃.login.written.length = [] := by
      rw [← List.length_eq_zero_iff]
      simp only [List.length_append] at hlen
      omega
    rw [hws, List.drop_left] at hnil
    rw [hws, hnil, List.append_nil] at hw'
    exact hw' hw

end HajjApp

end CrowdTracking
