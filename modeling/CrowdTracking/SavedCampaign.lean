import CrowdTracking.HajjApp

namespace CrowdTracking
set_option autoImplicit true
open Database Runs

namespace HajjApp

variable {distance : CLLocation → CLLocation → Rat} {u : Unicode} {s s' : HajjApp}
  {p : Process} {e : HajjEvent}

/-- Every write goes to a node that is registered by one of the writes. -/
def Own (ws : List Write) : Prop := ∀ w ∈ ws, ∃ uid k q,
  ViewController.registration uid k ∈ ws ∧ w.path = crowdPath k ++ q

/-- With no screen to be pushed, the home screen works for the saved campaign and is shown for it;
every write goes to a node that the device has registered. -/
structure Resumes (s : HajjApp) : Prop where
  campaign : ∀ p, s.process = some p → s.login.mainQueue = [] →
    p.home.campaign = s.login.saved.map Model.Campaign.toCampaign
  shown : ∀ p, s.process = some p → s.login.mainQueue = [] → s.login.saved.isSome → p.shown
  own : Own s.log
  signedIn : s.login.saved.isSome → s.currentUser

/-- The campaigns that the login holds anywhere. -/
def Holds (l : Login) (c : Model.Campaign) : Prop :=
  l.saved = some c ∨ l.campaign = some c ∨ c ∈ l.mainQueue

/-- The campaign of the last home screen that is shown or about to be. -/
def next (l : Login) : Option Model.Campaign := l.mainQueue.getLast?.or l.campaign

structure Saved (s : HajjApp) : Prop where
  written : ∀ w ∈ s.login.written, w ∈ s.log
  own : Own s.log
  decodes : s.login.saved = none → s.login.defaults = none
  registered : ∀ c, Holds s.login c →
    c.crowd_id ≠ "" ∧ ∃ uid, ViewController.registration uid c.crowd_id ∈ s.login.written
  signedIn : s.login.saved.isSome → s.currentUser
  closed : s.process = none → s.login.Idle ∧ s.login.campaign = none
  home : ∀ p, s.process = some p →
    p.home.campaign = s.login.campaign.map Model.Campaign.toCampaign
  next : ∀ p, s.process = some p → (next s.login).map Model.Campaign.toCampaign =
    s.login.saved.map Model.Campaign.toCampaign
  shown : ∀ p, s.process = some p → s.login.mainQueue = [] → s.login.saved.isSome → p.shown

theorem Saved.resumes (h : s.Saved) : s.Resumes := by
  refine ⟨fun p hp hq => ?_, h.shown, h.own, h.signedIn⟩
  have hnext := h.next p hp
  rw [HajjApp.next, hq] at hnext
  exact (h.home p hp).trans hnext

@[simp] theorem load_campaign (p : Process) (campaign : Option Campaign)
    (status : CLAuthorizationStatus) : (p.load campaign status).home.campaign = campaign := rfl

theorem saved_completed {t : Login} {c : Model.Campaign} (hd : t.defaults = some c.encode) :
    t.saved = some { c with number := "" } := by
  rw [Login.saved, hd, Option.bind_some, Model.Campaign.decode_encode]

theorem holds_moved {e : LoginEvent} {l t : Login} (h : Login.Moved l e t) (hc : Holds t c) :
    Holds l c ∨ ∃ d : Model.Campaign, d.crowd_id ≠ "" ∧ c.crowd_id = d.crowd_id ∧
      ViewController.registration d.uid d.crowd_id ∈ t.written := by
  cases h with
  | quiet he hw hd hq hcam =>
    left
    rwa [Holds, Login.saved, hd, hq, hcam] at hc
  | completed d hk hne he hw hd hq hcam =>
    have hmem : ViewController.registration d.uid d.crowd_id ∈ t.written := by
      rw [hw]
      exact List.mem_append_right _ List.mem_cons_self
    rcases hc with hc | hc | hc
    · rw [saved_completed hd] at hc
      cases hc
      exact .inr ⟨d, hk, rfl, hmem⟩
    · exact .inl (.inr (.inl (hcam ▸ hc)))
    · rw [hq] at hc
      rcases List.mem_append.1 hc with hc | hc
      · exact .inl (.inr (.inr hc))
      · rw [List.mem_singleton.1 hc]
        exact .inr ⟨d, hk, rfl, hmem⟩
  | main hq =>
    left
    rcases hc with hc | hc | hc
    · exact .inl hc
    · cases hc
      exact .inr (.inr (hq ▸ List.mem_cons_self))
    · exact .inr (.inr (hq ▸ List.mem_cons_of_mem _ hc))

theorem written_moved {e : LoginEvent} {l t : Login} (h : Login.Moved l e t) :
    ∃ ws, t.written = l.written ++ ws := by
  cases h with
  | quiet he hw => exact ⟨[], by rw [hw, List.append_nil]⟩
  | completed d hk hne he hw => exact ⟨_, hw⟩
  | main => exact ⟨[], (List.append_nil _).symm⟩

/-- The last campaign to be shown stays the saved one. -/
theorem next_moved {e : LoginEvent} {l t : Login} (h : Login.Moved l e t)
    (hnext : (next l).map Model.Campaign.toCampaign = l.saved.map Model.Campaign.toCampaign) :
    (next t).map Model.Campaign.toCampaign = t.saved.map Model.Campaign.toCampaign := by
  cases h with
  | quiet he hw hd hq hc =>
    rw [next, hq, hc, Login.saved, hd]
    exact hnext
  | completed d hk hne he hw hd hq hc =>
    rw [next, hq, saved_completed hd, List.getLast?_concat]
    rfl
  | main hq =>
    rw [next, hq] at hnext
    rename_i c q
    have hlast : (q.getLast?).or (some c) = ((c :: q).getLast?).or l.campaign := by
      cases q with
      | nil => rfl
      | cons d q => simp [List.getLast?_cons]
    exact (congrArg _ hlast).trans hnext

theorem saved_launched (h : s.Saved) (p : Process) (campaign : Option Campaign)
    (hc : campaign = s.login.saved.map Model.Campaign.toCampaign)
    (hp : p.home.campaign = campaign) (hr : s.process = none) :
    Saved { s with
      login := { s.login with campaign := s.login.saved }
      process := some (if s.currentUser then p.load campaign s.authorization else p) } := by
  obtain ⟨⟨-, -, hq⟩, -⟩ := h.closed hr
  refine ⟨h.written, h.own, h.decodes, ?_, h.signedIn, (fun hn => by cases hn), ?_, ?_, ?_⟩
  · rintro c (hs | hs | hs)
    · exact h.registered c (.inl hs)
    · exact h.registered c (.inl hs)
    · exact h.registered c (.inr (.inr hs))
  · rintro q ⟨⟩
    split
    · exact hc
    · exact hp.trans hc
  · rintro q ⟨⟩
    rw [next, hq]
    rfl
  · rintro q ⟨⟩ - hs
    rw [if_pos (h.signedIn hs)]
    rfl

theorem saved_killed (h : s.Saved) : s.kill.Saved := by
  refine ⟨h.written, h.own, h.decodes, ?_, h.signedIn, fun _ => ⟨⟨rfl, rfl, rfl⟩, rfl⟩,
    (fun p hp => by cases hp), (fun p hp => by cases hp), (fun p hp => by cases hp)⟩
  rintro c (hs | hs | hs)
  · exact h.registered c (.inl hs)
  · cases hs
  · cases hs

/-- The home screen writes to the node of its campaign. -/
theorem Saved.crowd_id (h : s.Saved) (hp : s.process = some p) (hk : p.home.crowd_id = some k) :
    ∃ uid, ViewController.registration uid k ∈ s.login.written := by
  rw [HomeVC.crowd_id, h.home p hp, Option.map_map] at hk
  obtain ⟨hk, -⟩ := Option.filter_eq_some_iff.1 hk
  obtain ⟨c, hc, rfl⟩ := Option.map_eq_some_iff.1 hk
  exact (h.registered c (.inr (.inl hc))).2

theorem Saved.own_step (h : s.Saved) (hs : Acted distance u s e s') : Own s'.log := by
  obtain ⟨ws, hlog, hws⟩ := hs.log
  rw [hlog]
  intro w hw
  rcases List.mem_append.1 hw with hw | hmem
  · obtain ⟨uid, k, q, hreg, hpath⟩ := h.own w hw
    exact ⟨uid, k, q, List.mem_append_left _ hreg, hpath⟩
  · rcases hws w hmem with ⟨uid, key, rfl, -⟩ | ⟨p, k, node, c, hp, hk, -, -, hwrite⟩
    · exact ⟨uid, key, [], hw, rfl⟩
    · obtain ⟨uid, hreg⟩ := h.crowd_id hp hk
      obtain ⟨child, -, hpath⟩ := hwrite.path
      exact ⟨uid, k, [child], List.mem_append_left _ (h.written _ hreg), hpath⟩

theorem saved_login {l : LoginEvent} {t : Login} (h : s.Saved) (hp : s.process = some p)
    (ha : p.Allows s.currentUser l) (hs : s.login.step u l = some t)
    (hown : Own (s.log ++ t.written.drop s.login.written.length)) :
    Saved { s with
      login := t
      log := s.log ++ t.written.drop s.login.written.length
      process := some (if l = .main then
        p.load (t.campaign.map Model.Campaign.toCampaign) s.authorization else p) } := by
  have hm := login_moved hs
  obtain ⟨ws, hws⟩ := written_moved hm
  have hdrop : t.written.drop s.login.written.length = ws := by rw [hws, List.drop_left]
  rw [hdrop] at hown ⊢
  have hsigned : t.saved.isSome → s.currentUser := by
    cases hm with
    | quiet he hw hd => simpa only [Login.saved, hd] using h.signedIn
    | completed d hk hne he =>
      intro _
      cases l with
      | signedIn i newCrowd =>
        cases newCrowd with
        | none => cases he
        | some key => exact ha
      | _ => cases he
    | main => exact h.signedIn
  refine ⟨?_, hown, ?_, ?_, hsigned, (fun hn => by cases hn), ?_, ?_, ?_⟩
  · intro w hw
    rw [hws] at hw
    rcases List.mem_append.1 hw with hw | hw
    · exact List.mem_append_left _ (h.written w hw)
    · exact List.mem_append_right _ hw
  · cases hm with
    | quiet he hw hd => simpa only [Login.saved, hd] using h.decodes
    | completed d hk hne he hw hd =>
      intro hn
      rw [saved_completed hd] at hn
      cases hn
    | main => exact h.decodes
  · intro c hc
    rcases holds_moved hm hc with hc | ⟨d, hk, hid, hmem⟩
    · obtain ⟨hk, uid, hmem⟩ := h.registered c hc
      exact ⟨hk, uid, hws ▸ List.mem_append_left _ hmem⟩
    · rw [hid]
      exact ⟨hk, d.uid, hmem⟩
  · rintro q ⟨⟩
    cases hm with
    | quiet he hw hd hq hc =>
      rw [if_neg he, hc]
      exact h.home p hp
    | completed d hk hne he hw hd hq hc =>
      rw [if_neg hne, hc]
      exact h.home p hp
    | main => rfl
  · rintro q ⟨⟩
    exact next_moved hm (h.next p hp)
  · rintro q ⟨⟩ hq hsaved
    cases hm with
    | quiet he hw hd hq' =>
      rw [if_neg he]
      rw [Login.saved, hd] at hsaved
      exact h.shown p hp (hq'.symm.trans hq) hsaved
    | completed d hk hne he hw hd hq' =>
      rw [hq'] at hq
      exact absurd hq (List.append_ne_nil_of_right_ne_nil _ (List.cons_ne_nil _ _))
    | main => rfl

theorem Saved.running {q : Process} {ws : List Write} (h : s.Saved) (hp : s.process = some p)
    (hsub : s.log ⊆ ws) (hown : Own ws) (hc : q.home.campaign = p.home.campaign)
    (hq : q.shown = p.shown) : Saved { s with log := ws, process := some q } := by
  refine ⟨fun w hw => hsub (h.written w hw), hown, h.decodes, h.registered, h.signedIn,
    (fun hn => by cases hn), ?_, ?_, ?_⟩
  · rintro q ⟨⟩
    exact hc.trans (h.home p hp)
  · rintro q ⟨⟩
    exact h.next p hp
  · rintro q ⟨⟩
    rw [hq]
    exact h.shown p hp

theorem Saved.step (h : s.Saved) (hs : Acted distance u s e s') : s'.Saved := by
  have hown := h.own_step hs
  cases hs with
  | launch hp hd campaign hc p hp' => exact saved_launched h p campaign hc (by rw [hp']; rfl) hp
  | kill => exact saved_killed h
  | manager hp => exact h.running hp (List.Subset.refl _) hown rfl rfl
  | authorize => exact ⟨h.written, h.own, h.decodes, h.registered, h.signedIn, h.closed, h.home,
      h.next, h.shown⟩
  | authenticated => exact ⟨h.written, h.own, h.decodes, h.registered, fun _ => rfl, h.closed,
      h.home, h.next, h.shown⟩
  | login hp ha hs => exact saved_login h hp ha hs hown
  | client hp hr hs =>
    exact h.running hp (List.subset_append_left _ _) hown (HomeVC.step_campaign hs) rfl

theorem saved_installed (status : CLAuthorizationStatus) : (installed status).Saved :=
  ⟨(fun w hw => by cases hw), (fun w hw => by cases hw), fun _ => rfl,
    (fun c hc => by rcases hc with hc | hc | hc <;> cases hc), (fun hs => by cases hs),
    fun _ => ⟨⟨rfl, rfl, rfl⟩, rfl⟩, (fun p hp => by cases hp), (fun p hp => by cases hp),
    (fun p hp => by cases hp)⟩

end HajjApp

end CrowdTracking
