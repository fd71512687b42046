import CrowdTracking.Credentials
import CrowdTracking.OrphanedCrowds

namespace CrowdTracking
set_option autoImplicit true
open Database Runs

/-- The sign-ups among the events of a process; each adds a listener. -/
def DeviceEvent.typed : DeviceEvent → Option SignUp
  | .signUp campaign_id contacts => some ⟨campaign_id, contacts⟩
  | _ => none

def signUpsOf (fs : List DeviceEvent) : List SignUp := fs.filterMap DeviceEvent.typed

/-- The campaign was typed in, and a snapshot that came to that sign-up has the typed number as the
campaign's phone. -/
def Vouched (fs : List DeviceEvent) (campaign : String) : Prop :=
  ∃ before j names contacts, before ++ [.onDataChange j (some names)] <+: fs ∧
    (signUpsOf before)[j]? = some ⟨campaign, contacts⟩ ∧
    Credentials.phone names campaign = some contacts

namespace Fleet

variable {ι : Type u} [DecidableEq ι]

/-- The events of the device's present process. -/
def processEvents (i : ι) (hist : List (ι × LifeEvent)) : List DeviceEvent :=
  hist.foldl (fun fs e => if e.1 = i then
    (match e.2 with
      | .device f => fs ++ [f]
      | .kill _ => []) else fs) []

/-- The present process began with the verification screen restored. -/
def restored (i : ι) (hist : List (ι × LifeEvent)) : Bool :=
  hist.foldl (fun b e => if e.1 = i then
    (match e.2 with
      | .device _ => b
      | .kill restored => restored) else b) false

end Fleet

namespace Device

/-- What a process knows it has from its events: the listeners from the sign-ups, the campaign from
an accepted snapshot. -/
structure Informed (fs : List DeviceEvent) (b : Bool) (d : Device) : Prop where
  listeners : d.campaignListeners.map CampaignListener.signUp = signUpsOf fs
  vouched : ∀ campaign, d.phone.tafweej.campaign_id = some campaign → Vouched fs campaign
  unvouched : d.phone.tafweej.campaign_id = none → ∀ campaign, ¬Vouched fs campaign
  verifies : d.phone.tafweej.campaign_id = none →
    .verification ∈ d.intents ∨ .verification ∈ d.screens → b

end Device

variable {fs : List DeviceEvent} {e : DeviceEvent} {campaign : String}

theorem vouched_concat : Vouched (fs ++ [e]) campaign ↔
    Vouched fs campaign ∨ ∃ j names contacts, e = .onDataChange j (some names) ∧
      (signUpsOf fs)[j]? = some ⟨campaign, contacts⟩ ∧
      Credentials.phone names campaign = some contacts := by
  constructor
  · rintro ⟨before, j, names, contacts, hp, hj, hphone⟩
    rcases List.prefix_concat_iff.1 hp with heq | hp
    · obtain ⟨rfl, he⟩ := List.append_inj' heq rfl
      exact .inr ⟨j, names, contacts, (List.singleton_inj.1 he).symm, hj, hphone⟩
    · exact .inl ⟨before, j, names, contacts, hp, hj, hphone⟩
  · rintro (⟨before, j, names, contacts, hp, hj, hphone⟩ | ⟨j, names, contacts, rfl, hj, hphone⟩)
    · exact ⟨before, j, names, contacts, hp.trans (List.prefix_append fs [e]), hj, hphone⟩
    · exact ⟨fs, j, names, contacts, List.prefix_rfl, hj, hphone⟩

theorem not_vouched_nil : ¬Vouched [] campaign := by
  rintro ⟨before, j, names, contacts, hp, -⟩
  simpa using List.prefix_nil.1 hp

/-- Only a snapshot can vouch for a campaign. -/
theorem vouched_concat_of_ne (he : ∀ j names, e ≠ .onDataChange j names) :
    Vouched (fs ++ [e]) campaign ↔ Vouched fs campaign := by
  rw [vouched_concat, or_iff_left]
  rintro ⟨j, names, contacts, h, -⟩
  exact he j (some names) h

theorem signUpsOf_concat (fs : List DeviceEvent) (e : DeviceEvent) :
    signUpsOf (fs ++ [e]) = signUpsOf fs ++ e.typed.toList := by
  rw [signUpsOf, List.filterMap_append]
  cases h : e.typed <;> simp [h, signUpsOf]

theorem accepts_iff_phone {u : SignUp} {names : Record Json} :
    u.accepts names = some true ↔ Credentials.phone names u.campaign_id = some u.contacts := by
  rw [Credentials.accepts_eq_some]
  constructor
  · exact fun h => h.2.1 rfl
  · intro h
    rw [h]
    exact ⟨fun _ => rfl, fun _ => rfl, fun _ => rfl⟩

namespace Device

variable {d d' : Device} {ws : List Write} {b : Bool}

theorem informed_relaunched (d : Device) (b : Bool) : Informed [] b (d.relaunched b) := by
  refine ⟨rfl, nofun, fun _ _ => not_vouched_nil, ?_⟩
  cases b with
  | true => exact fun _ _ => rfl
  | false => exact fun _ h => by simp [relaunched, launched] at h

/-- An event that is no snapshot adds no campaign. -/
theorem Informed.quiet (h : Informed fs b d) (he : ∀ j names, e ≠ .onDataChange j names)
    (hl : d'.campaignListeners.map CampaignListener.signUp =
      d.campaignListeners.map CampaignListener.signUp ++ e.typed.toList)
    (hc : d'.phone.tafweej.campaign_id = d.phone.tafweej.campaign_id)
    (hv : .verification ∈ d'.intents ∨ .verification ∈ d'.screens →
      .verification ∈ d.intents ∨ .verification ∈ d.screens) :
    Informed (fs ++ [e]) b d' := by
  refine ⟨by rw [hl, h.listeners, signUpsOf_concat], ?_, ?_, ?_⟩
  · intro campaign hcampaign
    exact (vouched_concat_of_ne he).2 (h.vouched campaign (hc ▸ hcampaign))
  · intro hnone campaign hvouched
    exact h.unvouched (hc ▸ hnone) campaign ((vouched_concat_of_ne he).1 hvouched)
  · exact fun hnone hverify => h.verifies (hc ▸ hnone) (hv hverify)

/-- A snapshot vouches for the campaign of its listener if the listener accepts it. -/
theorem Informed.snapshot (h : Informed fs b d) (hu : d.campaignListeners[i]? = some u) :
    Vouched (fs ++ [.onDataChange i names]) campaign ↔
      Vouched fs campaign ∨
        (u.signUp.campaign_id = campaign ∧ names.bind u.signUp.accepts = some true) := by
  have hsignUp : (signUpsOf fs)[i]? = some u.signUp := by
    rw [← h.listeners, List.getElem?_map, hu]
    rfl
  rw [vouched_concat]
  apply or_congr_right
  constructor
  · rintro ⟨j, r, contacts, heq, hj, hphone⟩
    cases heq
    rw [hsignUp, Option.some.injEq] at hj
    rw [hj, Option.bind_some]
    exact ⟨rfl, accepts_iff_phone.2 hphone⟩
  · rintro ⟨rfl, haccept⟩
    obtain ⟨r, rfl, haccept⟩ := Option.bind_eq_some_iff.1 haccept
    exact ⟨i, r, u.signUp.contacts, rfl, hsignUp, accepts_iff_phone.1 haccept⟩

theorem Informed.rejected (h : Informed fs b d) (hu : d.campaignListeners[i]? = some u)
    (haccept : names.bind u.signUp.accepts = some false) :
    Informed (fs ++ [.onDataChange i names]) b d := by
  have hsame : ∀ campaign, Vouched (fs ++ [.onDataChange i names]) campaign ↔
      Vouched fs campaign := by
    intro campaign
    rw [h.snapshot hu, haccept]
    simp
  refine ⟨?_, ?_, ?_, h.verifies⟩
  · rw [h.listeners, signUpsOf_concat]
    exact (List.append_nil _).symm
  · exact fun campaign hc => (hsame campaign).2 (h.vouched campaign hc)
  · exact fun hnone campaign => (hsame campaign).not.2 (h.unvouched hnone campaign)

theorem Informed.accepted (h : Informed fs b d) (hu : d.campaignListeners[i]? = some u)
    (haccept : names.bind u.signUp.accepts = some true) :
    Informed (fs ++ [.onDataChange i names]) b { d with
      phone := { d.phone with tafweej := u.signUp.accepted d.phone.tafweej }
      campaignListeners := d.campaignListeners.set i { u with starts := u.starts + 1 }
      intents := d.intents ++ [.verification] } := by
  refine ⟨?_, ?_, nofun, nofun⟩
  · obtain ⟨hi, rfl⟩ := List.getElem?_eq_some_iff.1 hu
    rw [signUpsOf_concat, List.map_set, ← List.getElem_map CampaignListener.signUp (h := by simpa),
      List.set_getElem_self, h.listeners]
    exact (List.append_nil _).symm
  · intro campaign hc
    exact (h.snapshot hu).2 (.inr ⟨Option.some.inj hc, haccept⟩)

theorem Informed.step (h : Informed fs b d) (hs : Stepped d e d' ws) :
    Informed (fs ++ [e]) b d' := by
  cases hs with
  | signUp htop =>
    exact h.quiet nofun (by rw [signUp, List.map_append]; rfl) rfl id
  | rejected hu haccept => exact h.rejected hu haccept
  | accepted hu haccept => exact h.accepted hu haccept
  | opened hi => exact h.quiet nofun (List.append_nil _).symm rfl (by simp [hi])
  | created hi hc =>
    refine h.quiet nofun (List.append_nil _).symm rfl ?_
    intro hv
    simpa [hi] using hv
  | refused htop hn => exact h.quiet nofun (List.append_nil _).symm rfl id
  | verified htop =>
    exact h.quiet nofun (List.append_nil _).symm rfl (by simp)
  | permissions => exact h.quiet nofun (List.append_nil _).symm rfl id
  | main htop ha hs =>
    exact h.quiet nofun (List.append_nil _).symm hs.campaign_id id

end Device

namespace Fleet

variable {ι : Type u} [DecidableEq ι] {s s' t : Fleet ι} {f : ι × LifeEvent}
  {es hist : List (ι × LifeEvent)} {i : ι}

theorem processEvents_concat (i : ι) (hist : List (ι × LifeEvent)) (f : ι × LifeEvent) :
    processEvents i (hist ++ [f]) = if f.1 = i then
      (match f.2 with
        | .device e => processEvents i hist ++ [e]
        | .kill _ => []) else processEvents i hist := by
  rw [processEvents, List.foldl_append]
  rfl

theorem restored_concat (i : ι) (hist : List (ι × LifeEvent)) (f : ι × LifeEvent) :
    restored i (hist ++ [f]) = if f.1 = i then
      (match f.2 with
        | .device _ => restored i hist
        | .kill b => b) else restored i hist := by
  rw [restored, List.foldl_append]
  rfl

/-- Every process is informed by its events. -/
def Informed (s : Fleet ι) (hist : List (ι × LifeEvent)) : Prop :=
  ∀ i, (s.devices i).Informed (processEvents i hist) (restored i hist)

theorem informed_step (h : Informed s hist) (hs : lifeStep s f = some s') :
    Informed s' (hist ++ [f]) := by
  obtain ⟨j, f⟩ := f
  have hothers : ∀ k, k ≠ j → (s.devices k).Informed (processEvents k (hist ++ [(j, f)]))
      (restored k (hist ++ [(j, f)])) := by
    intro k hk
    rw [processEvents_concat, restored_concat, if_neg (Ne.symm hk), if_neg (Ne.symm hk)]
    exact h k
  cases f with
  | device e =>
    obtain ⟨⟨d, ws⟩, hd, rfl⟩ := Option.map_eq_some_iff.1 hs
    refine update_forall (P := fun k d => d.Informed (processEvents k (hist ++ [(j, .device e)]))
      (restored k (hist ++ [(j, .device e)]))) hothers ?_
    rw [processEvents_concat, restored_concat, if_pos rfl, if_pos rfl]
    exact (h j).step (Device.step_stepped hd)
  | kill b =>
    obtain ⟨-, hs⟩ := Option.ite_none_right_eq_some.1 hs
    cases hs
    refine update_forall (P := fun k d => d.Informed (processEvents k (hist ++ [(j, .kill b)]))
      (restored k (hist ++ [(j, .kill b)]))) hothers ?_
    rw [processEvents_concat, restored_concat, if_pos rfl, if_pos rfl]
    exact Device.informed_relaunched _ _

theorem informed_run (h : Informed s hist) (hr : run lifeStep s es = some s') :
    Informed s' (hist ++ es) := by
  have hlast := run_keeps (I := fun t : Fleet ι × List (ι × LifeEvent) => Informed t.1 t.2) h ?_
    (run_withHistory hr hist)
  · exact hlast
  · intro s f s' _ h hs
    obtain ⟨hs, hhist⟩ := withHistory_some hs
    rw [hhist]
    exact informed_step h hs

theorem informed_start (granted : ι → Bool × Bool × Bool) (database : Json)
    (before : List (ι × String)) : Informed (start granted database before) [] := by
  refine fun i => ⟨rfl, nofun, fun _ _ => not_vouched_nil, ?_⟩
  intro _ h
  simp [start, Device.launched] at h

theorem verified_campaign_id (draw : Draw) (t : Tafweej) :
    ∃ r, (VerificationActivity.verified draw t).2 = .setValue (crowdPath draw.crowd_id) (.obj r) ∧
      r.get "campaign_id" = t.campaign_id.map .str := by
  refine ⟨_, rfl, ?_⟩
  simp only [putNullable]
  rw [Record.get_put_of_ne _ _ (by decide), Record.get_put_of_ne _ _ (by decide),
    Record.get_put_of_ne _ _ (by decide)]
  cases t.campaign_id with
  | none => rfl
  | some campaign => exact Record.get_put_self _ _ _

/-- A crowd is registered for a campaign whose number was typed in that process and is the
campaign's phone in a snapshot that came to it; or without a campaign, exactly in a process that
began with the verification screen and has had no such snapshot. -/
theorem registers_vouched (granted : ι → Bool × Bool × Bool) (database : Json)
    (before : List (ι × String)) (hr : run lifeStep (start granted database before) es = some s)
    (hv : lifeStep s (i, .device (.verify "000" draw)) = some t) :
    ∃ r, getAt (crowdPath draw.crowd_id) t.database = some (.obj r) ∧
      ((∃ campaign, r.get "campaign_id" = some (.str campaign) ∧
          Vouched (processEvents i es) campaign) ∨
        (r.get "campaign_id" = none ∧ restored i es ∧
          ∀ campaign, ¬Vouched (processEvents i es) campaign)) := by
  have h := informed_run (informed_start granted database before) hr i
  rw [List.nil_append] at h
  obtain ⟨⟨d, ws⟩, hd, rfl⟩ := Option.map_eq_some_iff.1 hv
  cases Device.step_stepped hd with
  | refused htop hn => exact absurd rfl hn
  | verified htop =>
    obtain ⟨r, hw, hcampaign⟩ := verified_campaign_id draw (s.devices i).phone.tafweej
    refine ⟨r, ?_, ?_⟩
    · simp only [List.foldl_cons, List.foldl_nil, hw]
      rw [getAt_setValue, if_pos rfl]
    · cases hc : (s.devices i).phone.tafweej.campaign_id with
      | some campaign =>
        rw [hc] at hcampaign
        exact .inl ⟨campaign, hcampaign, h.vouched campaign hc⟩
      | none =>
        rw [hc] at hcampaign
        exact .inr ⟨hcampaign, h.verifies hc (.inr (List.mem_of_mem_head? htop)),
          h.unvouched hc⟩

/-- A process that ends on the verification screen, which the next one restores. -/
def restoredProcess : List (Bool × LifeEvent) :=
  [(false, .device (.signUp "c" "p")), (false, .device (.onDataChange 0 Device.oneCampaign)),
    (false, .device .launch), (false, .kill true)]

theorem registers_vouched_restored :
    ∃ s t r, run lifeStep (start (fun _ : Bool => (true, true, true)) (.obj .empty) [])
        restoredProcess = some s ∧
      lifeStep s (false, .device (.verify "000" ⟨0, 0, 0⟩)) = some t ∧
      getAt (crowdPath "A00") t.database = some (.obj r) ∧
      ((∃ campaign, r.get "campaign_id" = some (.str campaign) ∧
          Vouched (processEvents false restoredProcess) campaign) ∨
        (r.get "campaign_id" = none ∧ restored false restoredProcess ∧
          ∀ campaign, ¬Vouched (processEvents false restoredProcess) campaign)) := by
  have hs : (run lifeStep (start (fun _ : Bool => (true, true, true)) (.obj .empty) [])
      restoredProcess).isSome := by
    decide +kernel
  have ht : (lifeStep (Option.get _ hs) (false, .device (.verify "000" ⟨0, 0, 0⟩))).isSome := by
    decide +kernel +revert
  obtain ⟨r, hr⟩ := registers_vouched _ _ _ (Option.some_get hs).symm (Option.some_get ht).symm
  exact ⟨_, _, r, (Option.some_get hs).symm, (Option.some_get ht).symm, hr⟩

end Fleet

end CrowdTracking
