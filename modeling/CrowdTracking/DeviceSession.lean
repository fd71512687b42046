import CrowdTracking.OrphanedCrowds
import CrowdTracking.Session

namespace CrowdTracking
set_option autoImplicit true
open Database Runs

/-- What a session hears of an event of its device. -/
def DeviceEvent.sessionEvents : DeviceEvent → List MainEvent
  | .permissions fine coarse => [.permissions fine coarse]
  | .main _ e => [e]
  | _ => []

namespace Device

/-- A process in which nobody has verified yet. -/
structure Unverified (d : Device) : Prop where
  tafweej : d.phone.tafweej = .initial ∨ ∃ u : SignUp, d.phone.tafweej = u.accepted .initial
  mains : d.mains = []
  intents : .main ∉ d.intents
  registered : d.phone.registered = []
  created : d.phone.created = 0

/-- The device has this one session: its sharing screen is on the device or about to be created. -/
structure Hosts (d : Device) (q : Session) : Prop where
  phone : d.phone = q.phone
  crowd : d.phone.tafweej.crowd_id = some q.activity.child
  screen : (d.mains = [] ∧ d.intents.count .main = 1 ∧ q.activity = .opened 0 q.activity.child) ∨
    (d.mains = [q.activity] ∧ .main ∉ d.intents)

/-- Nobody verifies, and a snapshot is accepted only for the sign-up of the session. -/
def StaysIn (d : Device) : DeviceEvent → Prop
  | .onDataChange i names => ∀ u ∈ d.campaignListeners[i]?,
      names.bind u.signUp.accepts = some true →
        u.signUp.accepted d.phone.tafweej = d.phone.tafweej
  | .verify verificationNumber _ => verificationNumber ≠ "000"
  | _ => True

instance (d : Device) (e : DeviceEvent) : Decidable (StaysIn d e) :=
  match e with
  | .signUp .. | .launch | .permissions .. | .main .. => isTrue trivial
  | .onDataChange i names =>
    inferInstanceAs (Decidable (∀ u ∈ d.campaignListeners[i]?,
      names.bind u.signUp.accepts = some true →
        u.signUp.accepted d.phone.tafweej = d.phone.tafweej))
  | .verify verificationNumber _ => inferInstanceAs (Decidable (verificationNumber ≠ "000"))

variable {d d' : Device} {q : Session} {e : DeviceEvent} {ws : List Write}

theorem unverified_launched (fine coarse service : Bool) :
    Unverified (launched fine coarse service) :=
  ⟨.inl rfl, rfl, List.not_mem_nil, rfl, rfl⟩

theorem unverified_relaunched (d : Device) (restored : Bool) :
    Unverified (d.relaunched restored) :=
  ⟨.inl rfl, rfl, List.not_mem_nil, rfl, rfl⟩

/-- A device is unverified as long as its session has no crowd. -/
theorem unverified_step (h : d.phone.tafweej.crowd_id = none → Unverified d)
    (hs : Stepped d e d' ws) (hnone : d'.phone.tafweej.crowd_id = none) : Unverified d' := by
  cases hs with
  | signUp htop =>
    have hd := h hnone
    exact ⟨hd.tafweej, hd.mains, hd.intents, hd.registered, hd.created⟩
  | rejected hu haccept => exact h hnone
  | accepted hu haccept =>
    rename_i u names
    have hd := h hnone
    refine ⟨.inr ⟨u.signUp, ?_⟩, hd.mains, ?_, hd.registered, hd.created⟩
    · change u.signUp.accepted d.phone.tafweej = u.signUp.accepted .initial
      rcases hd.tafweej with ht | ⟨v, ht⟩
      · rw [ht]
      · rw [ht]
        rfl
    · simp [hd.intents]
  | opened hi =>
    have hd := h hnone
    refine ⟨hd.tafweej, hd.mains, ?_, hd.registered, hd.created⟩
    exact fun hmem => hd.intents (hi ▸ List.mem_cons_of_mem _ hmem)
  | created hi hc =>
    rw [hnone] at hc
    cases hc
  | refused htop hn => exact h hnone
  | verified htop => cases hnone
  | permissions =>
    have hd := h hnone
    exact ⟨hd.tafweej, hd.mains, hd.intents, hd.registered, hd.created⟩
  | main htop ha hs =>
    rw [hs.crowd_id] at hnone
    rw [(h hnone).mains] at ha
    cases ha

/-- The first verification of a process that has accepted a sign-up starts a session. -/
theorem hosts_verified (h : Unverified d) (hsigned : d.phone.tafweej.campaign_id = some campaign)
    (draw : Draw) (database : Json) :
    ∃ contacts, Hosts { d with
        phone := { d.phone with
          tafweej := (VerificationActivity.verified draw d.phone.tafweej).1 }
        intents := d.intents ++ [.main] }
      (.start d.phone.fineGranted d.phone.coarseGranted d.phone.locationService
        ⟨campaign, contacts⟩ draw database) ∧
      (VerificationActivity.verified draw d.phone.tafweej).2 =
        (VerificationActivity.verified draw (SignUp.accepted ⟨campaign, contacts⟩ .initial)).2 := by
  rcases h.tafweej with ht | ⟨u, ht⟩
  · rw [ht] at hsigned
    cases hsigned
  · rw [ht] at hsigned
    cases hsigned
    refine ⟨u.contacts, ⟨?_, rfl, .inl ⟨h.mains, ?_, rfl⟩⟩, by rw [ht]⟩
    · simp only [Session.start, Phone.launched, h.registered, h.created, ht]
    · rw [List.count_append, List.count_eq_zero.2 h.intents]
      rfl

/-- An event of the sharing screen is one of the session. -/
theorem Hosts.main {e : MainEvent} (h : Hosts d q)
    (hs : d.step (.main i e) = some (d', ws)) :
    ∃ q', q.step e = some q' ∧ Hosts d' q' ∧
      q'.database = ws.foldl (fun t w => w.apply t) q.database := by
  obtain ⟨-, hs⟩ := Option.ite_none_right_eq_some.1 hs
  obtain ⟨a, ha, hs⟩ := Option.bind_eq_some_iff.1 hs
  obtain ⟨⟨a', p', ws'⟩, hstep, heq⟩ := Option.map_eq_some_iff.1 hs
  cases heq
  rcases h.screen with ⟨hmains, -⟩ | ⟨hmains, hintents⟩
  · rw [hmains] at ha
    cases ha
  · rw [hmains] at ha
    obtain ⟨rfl, rfl⟩ : i = 0 ∧ q.activity = a := by
      cases i with
      | zero => exact ⟨rfl, Option.some.inj ha⟩
      | succ i => cases ha
    rw [h.phone] at hstep
    have hstepped := MainActivity.step_stepped hstep
    refine ⟨_, by rw [Session.step, hstep, Option.map_some], ⟨rfl, ?_, .inr ⟨?_, hintents⟩⟩, rfl⟩
    · rw [hstepped.crowd_id, hstepped.child, ← h.phone]
      exact h.crowd
    · simp only [hmains, List.set_cons_zero]

/-- A device that stays in its session does what the session does. -/
theorem Hosts.step (h : Hosts d q) (hs : d.step e = some (d', ws)) (hC : StaysIn d e) :
    ∃ q', run Session.step q e.sessionEvents = some q' ∧ Hosts d' q' ∧
      q'.activity.child = q.activity.child ∧
      q'.database = ws.foldl (fun t w => w.apply t) q.database := by
  have hstepped := step_stepped hs
  cases hstepped with
  | signUp htop => exact ⟨q, rfl, ⟨h.phone, h.crowd, h.screen⟩, rfl, rfl⟩
  | rejected hu haccept => exact ⟨q, rfl, h, rfl, rfl⟩
  | accepted hu haccept =>
    have hsame := hC _ hu haccept
    refine ⟨q, rfl, ⟨?_, ?_, ?_⟩, rfl, rfl⟩
    · rw [hsame]
      exact h.phone
    · rw [hsame]
      exact h.crowd
    · simpa [List.count_append] using h.screen
  | opened hi =>
    refine ⟨q, rfl, ⟨h.phone, h.crowd, ?_⟩, rfl, rfl⟩
    simpa [hi] using h.screen
  | created hi hc =>
    refine ⟨q, rfl, ⟨h.phone, h.crowd, .inr ?_⟩, rfl, rfl⟩
    rcases h.screen with ⟨hmains, hcount, hopened⟩ | ⟨-, hintents⟩
    · rw [h.crowd] at hc
      cases hc
      rw [hi, List.count_cons_self] at hcount
      refine ⟨?_, List.count_eq_zero.1 (Nat.succ.inj hcount)⟩
      rw [hmains, hopened]
      rfl
    · rw [hi] at hintents
      exact absurd List.mem_cons_self hintents
  | refused htop hn => exact ⟨q, rfl, h, rfl, rfl⟩
  | verified htop => exact absurd rfl hC
  | permissions =>
    refine ⟨_, rfl, ⟨?_, h.crowd, h.screen⟩, rfl, rfl⟩
    exact congrArg (Phone.grant · _ _) h.phone
  | main htop ha hm =>
    obtain ⟨q', hq, hd', hdb⟩ := h.main hs
    exact ⟨q', by rw [DeviceEvent.sessionEvents, run_cons, hq, Option.bind_some, run_nil], hd',
      Session.step_child hq, hdb⟩

end Device

namespace Fleet

variable {ι : Type u} [DecidableEq ι]

/-- What the session of a device hears of an event of the fleet. -/
def sessionEvents (i : ι) (e : ι × LifeEvent) : List MainEvent :=
  if e.1 = i then (e.2.deviceEvent.map DeviceEvent.sessionEvents).getD [] else []

/-- The device stays in its session, in its process, and no other device draws its crowd's id. -/
def KeepsCrowd (i : ι) (c : String) (s : Fleet ι) (e : ι × LifeEvent) : Prop :=
  match e.2 with
  | .device f => if e.1 = i then (s.devices i).StaysIn f else f.verified ≠ some c
  | .kill _ => e.1 ≠ i

instance (i : ι) (c : String) (s : Fleet ι) (e : ι × LifeEvent) : Decidable (KeepsCrowd i c s e) :=
  match e with
  | (j, .device f) =>
    inferInstanceAs (Decidable (if j = i then (s.devices i).StaysIn f else f.verified ≠ some c))
  | (j, .kill _) => inferInstanceAs (Decidable (j ≠ i))

/-- The device has the session, and the fleet's database has the session's node. -/
structure Mirrors (i : ι) (c : String) (s : Fleet ι) (q : Session) : Prop where
  hosts : (s.devices i).Hosts q
  child : q.activity.child = c
  node : getAt (crowdPath c) s.database = getAt (crowdPath c) q.database
  others : ∀ j, j ≠ i → (s.devices j).Owns fun k => k ≠ c

variable {s s' t : Fleet ι} {e : ι × LifeEvent} {es fs : List (ι × LifeEvent)} {i : ι} {c : String}
  {q : Session}

theorem foldl_congr (ws : List Write) {p : List String} {t u : Json} (h : getAt p t = getAt p u) :
    getAt p (ws.foldl (fun t w => w.apply t) t) = getAt p (ws.foldl (fun t w => w.apply t) u) := by
  induction ws generalizing t u with
  | nil => exact h
  | cons w ws ih => exact ih (getAt_apply_congr p w h)

/-- An event of the device is one of its session. -/
theorem Mirrors.own {f : DeviceEvent} (h : Mirrors i c s q) (hC : (s.devices i).StaysIn f)
    (hs : lifeStep s (i, .device f) = some s') :
    ∃ q', run Session.step q f.sessionEvents = some q' ∧ Mirrors i c s' q' := by
  obtain ⟨⟨d, ws⟩, hd, rfl⟩ := Option.map_eq_some_iff.1 hs
  obtain ⟨q', hrun, hhosts, hchild, hdb⟩ := h.hosts.step hd hC
  refine ⟨q', hrun, ?_, hchild.trans h.child, ?_, ?_⟩
  · simp only [Function.update_self]
    exact hhosts
  · rw [hdb]
    exact foldl_congr ws h.node
  · intro j hj
    simp only [Function.update_of_ne hj]
    exact h.others j hj

/-- An event of another device leaves the session alone. -/
theorem Mirrors.other (h : Mirrors i c s q) (hj : e.1 ≠ i)
    (he : ∀ f, e.2 = .device f → f.verified ≠ some c) (hs : lifeStep s e = some s') :
    Mirrors i c s' q := by
  obtain ⟨j, e⟩ := e
  cases e with
  | device f =>
    obtain ⟨⟨d, ws⟩, hd, rfl⟩ := Option.map_eq_some_iff.1 hs
    obtain ⟨howns, hwrites⟩ := (h.others j hj).step (Device.step_stepped hd) (fun _ hk => hk)
      (fun k hk hkc => he f rfl (hkc ▸ hk))
    refine ⟨?_, h.child, (foldl_other hwrites s.database).trans h.node, ?_⟩
    · simp only [Function.update_of_ne (Ne.symm hj)]
      exact h.hosts
    · exact update_forall (P := fun k d => k ≠ i → d.Owns fun k => k ≠ c)
        (fun k _ => h.others k) fun _ => howns
  | kill restored =>
    obtain ⟨-, hs⟩ := Option.ite_none_right_eq_some.1 hs
    cases hs
    refine ⟨?_, h.child, h.node, ?_⟩
    · simp only [Function.update_of_ne (Ne.symm hj)]
      exact h.hosts
    · exact update_forall (P := fun k d => k ≠ i → d.Owns fun k => k ≠ c)
        (fun k _ => h.others k) fun _ => owns_relaunched _ _ _

theorem mirrors_step (h : Mirrors i c s q) (hC : KeepsCrowd i c s e)
    (hs : lifeStep s e = some s') :
    ∃ q', run Session.step q (sessionEvents i e) = some q' ∧ Mirrors i c s' q' := by
  obtain ⟨j, e⟩ := e
  by_cases hj : j = i
  · subst hj
    cases e with
    | device f =>
      have hstays : (s.devices j).StaysIn f := by simpa [KeepsCrowd] using hC
      obtain ⟨q', hrun, hmirrors⟩ := h.own hstays hs
      exact ⟨q', by rw [sessionEvents, if_pos rfl]; exact hrun, hmirrors⟩
    | kill restored => exact absurd rfl hC
  · refine ⟨q, by rw [sessionEvents, if_neg hj]; rfl, h.other hj ?_ hs⟩
    rintro f rfl
    simpa [KeepsCrowd, hj] using hC

/-- In a run of the fleet a device without a crowd has not verified in its process. -/
theorem unverified_run (granted : ι → Bool × Bool × Bool) (database : Json)
    (before : List (ι × String)) (hr : run lifeStep (start granted database before) es = some s)
    (i : ι) (hnone : (s.devices i).phone.tafweej.crowd_id = none) : (s.devices i).Unverified := by
  have h := run_keeps
    (I := fun s => ∀ i, (s.devices i).phone.tafweej.crowd_id = none → (s.devices i).Unverified)
    (fun i _ => Device.unverified_launched _ _ _) ?_ hr
  · exact h i hnone
  · rintro s ⟨j, e⟩ s' - h hs
    cases e with
    | device f =>
      obtain ⟨⟨d, ws⟩, hd, rfl⟩ := Option.map_eq_some_iff.1 hs
      exact update_forall
        (P := fun _ d => d.phone.tafweej.crowd_id = none → d.Unverified) (fun k _ => h k)
        (Device.unverified_step (h j) (Device.step_stepped hd))
    | kill restored =>
      obtain ⟨-, hs⟩ := Option.ite_none_right_eq_some.1 hs
      cases hs
      exact update_forall
        (P := fun _ d => d.phone.tafweej.crowd_id = none → d.Unverified) (fun k _ => h k)
        (fun _ => Device.unverified_relaunched _ _)

/-- The first verification of a process that has accepted a sign-up, of an id that no other device
has, starts a session. -/
theorem mirrors_verified (h : (s.devices i).Unverified)
    (hothers : ∀ j, j ≠ i → (s.devices j).Owns fun k => k ≠ draw.crowd_id)
    (hsigned : (s.devices i).phone.tafweej.campaign_id = some campaign)
    (hv : lifeStep s (i, .device (.verify "000" draw)) = some t) :
    ∃ contacts, Mirrors i draw.crowd_id t
      (.start (s.devices i).phone.fineGranted (s.devices i).phone.coarseGranted
        (s.devices i).phone.locationService ⟨campaign, contacts⟩ draw s.database) := by
  obtain ⟨contacts, hhosts, hwrite⟩ := Device.hosts_verified h hsigned draw s.database
  obtain ⟨⟨d, ws⟩, hd, rfl⟩ := Option.map_eq_some_iff.1 hv
  refine ⟨contacts, ?_⟩
  cases Device.step_stepped hd with
  | refused htop hn => exact absurd rfl hn
  | verified htop =>
    refine ⟨?_, rfl, ?_, ?_⟩
    · simp only [Function.update_self]
      exact hhosts
    · simp only [List.foldl_cons, List.foldl_nil, hwrite]
      rfl
    · intro j hj
      simp only [Function.update_of_ne hj]
      exact hothers j hj

/-- From its verification on a device of the fleet does what one session does with the device's own
events, and the crowd's node is the node of the session. -/
theorem follows_session (granted : ι → Bool × Bool × Bool) (database : Json)
    (before : List (ι × String)) (hr : run lifeStep (start granted database before) es = some s)
    (hown : ∀ r ∈ draws (deviceEvents es), r.2 = draw.crowd_id → r.1 = i)
    (hfirst : (s.devices i).phone.tafweej.crowd_id = none)
    (hsigned : (s.devices i).phone.tafweej.campaign_id = some campaign)
    (hv : lifeStep s (i, .device (.verify "000" draw)) = some t)
    (hf : run lifeStep t fs = some s')
    (hkeeps : Along lifeStep (KeepsCrowd i draw.crowd_id) t fs) :
    ∃ contacts q, run Session.step
        (.start (s.devices i).phone.fineGranted (s.devices i).phone.coarseGranted
          (s.devices i).phone.locationService ⟨campaign, contacts⟩ draw s.database)
        (fs.flatMap (sessionEvents i)) = some q ∧ (s'.devices i).Hosts q ∧
      getAt (crowdPath draw.crowd_id) s'.database = getAt (crowdPath draw.crowd_id) q.database := by
  have hunverified := unverified_run granted database before hr i hfirst
  have hothers := owns_others granted database before hr hown
  obtain ⟨contacts, hmirrors⟩ := mirrors_verified hunverified hothers hsigned hv
  obtain ⟨q, hq, hlast⟩ := run_simulated_along (Mirrors i draw.crowd_id) (sessionEvents i)
    (fun _ _ _ _ hR hC hs => mirrors_step hR hC hs) hmirrors hkeeps hf
  exact ⟨contacts, q, hq, hlast.hosts, hlast.node⟩

/-- A device that shares and whose process ends, and another one that signs up. -/
def signedUp (other : Draw) : List (Bool × LifeEvent) :=
  (session true other).map (fun e => (e.1, .device e.2)) ++ [(true, .kill true),
    (false, .device (.signUp "c" "p")), (false, .device (.onDataChange 0 Device.oneCampaign)),
    (false, .device .launch)]

/-- What the two do after the verification of the second one. -/
def afterwardsShared (again : Draw) : List (Bool × LifeEvent) :=
  [(true, .device (.verify "000" again)), (false, .device .launch),
    (false, .device (.main 0 .buttonStart)), (true, .kill false),
    (false, .device (.onDataChange 0 Device.oneCampaign)),
    (false, .device (.main 0 (.onLocationChanged ⟨0, 0⟩ 21 39)))]

theorem follows_session_shared :
    ∃ s t s' contacts q,
      run lifeStep (start (fun _ : Bool => (true, true, true)) (.obj .empty) [])
        (signedUp ⟨1, 0, 0⟩) = some s ∧
      lifeStep s (false, .device (.verify "000" ⟨0, 0, 0⟩)) = some t ∧
      run lifeStep t (afterwardsShared ⟨2, 0, 0⟩) = some s' ∧
      run Session.step
          (.start (s.devices false).phone.fineGranted (s.devices false).phone.coarseGranted
            (s.devices false).phone.locationService ⟨"c", contacts⟩ ⟨0, 0, 0⟩ s.database)
          ((afterwardsShared ⟨2, 0, 0⟩).flatMap (sessionEvents false)) = some q ∧
        (s'.devices false).Hosts q ∧
        getAt (crowdPath "A00") s'.database = getAt (crowdPath "A00") q.database := by
  have hs : (run lifeStep (start (fun _ : Bool => (true, true, true)) (.obj .empty) [])
      (signedUp ⟨1, 0, 0⟩)).isSome := by
    decide +kernel
  have ht : (lifeStep (Option.get _ hs) (false, .device (.verify "000" ⟨0, 0, 0⟩))).isSome := by
    decide +kernel +revert
  have hs' : (run lifeStep (Option.get _ ht) (afterwardsShared ⟨2, 0, 0⟩)).isSome := by
    decide +kernel +revert
  have hsigned : ((Option.get _ hs).devices false).phone.tafweej.campaign_id = some "c" := by
    decide +kernel +revert
  obtain ⟨contacts, q, hq⟩ := follows_session _ _ _ (Option.some_get hs).symm (by decide +kernel)
    (by decide +kernel +revert) hsigned (Option.some_get ht).symm (Option.some_get hs').symm
    (by decide +kernel +revert)
  exact ⟨_, _, _, contacts, q, (Option.some_get hs).symm, (Option.some_get ht).symm,
    (Option.some_get hs').symm, hq⟩

end Fleet

end CrowdTracking
