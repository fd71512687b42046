import CrowdTracking.OrphanedCrowds

namespace CrowdTracking
set_option autoImplicit true
open Database Runs

/-- The events in which the user allows the exact position: in the dialog of the login screen or of
the sharing screen, or in the settings of the system. -/
def MainEvent.allowsFine : MainEvent → Bool
  | .permissions fine _ => fine
  | _ => false

def DeviceEvent.allowsFine : DeviceEvent → Bool
  | .permissions fine _ => fine
  | .main _ e => e.allowsFine
  | _ => false

namespace MainActivity

variable {a a' : MainActivity} {p p' : Phone} {e : MainEvent} {ws : List Write}

theorem getLocation_fineGranted (h : a.getLocation p = some (a', p', ws)) :
    p'.fineGranted = p.fineGranted := by
  simp only [getLocation, Phone.requestLocationUpdates] at h
  grind

/-- Only the user grants the permission. -/
theorem step_fineGranted (h : a.step p e = some (a', p', ws)) (hfine : p'.fineGranted) :
    p.fineGranted ∨ e.allowsFine := by
  cases e with
  | permissions fine coarse =>
    cases h
    simpa [Phone.grant, MainEvent.allowsFine] using hfine
  | buttonStart =>
    obtain ⟨-, h⟩ := Option.ite_none_right_eq_some.1 h
    rw [buttonStart] at h
    split at h
    · cases h
      exact .inl hfine
    · rw [getLocation_fineGranted h] at hfine
      exact .inl hfine
  | buttonStop =>
    obtain ⟨-, h⟩ := Option.ite_none_right_eq_some.1 h
    obtain ⟨-, h⟩ := Option.ite_none_right_eq_some.1 h
    obtain ⟨l, -, h⟩ := Option.map_eq_some_iff.1 h
    cases h
    exact .inl hfine
  | onRequestPermissionsResult grantResults =>
    simp only [step, onRequestPermissionsResult] at h
    split at h
    · split at h
      · rename_i hgranted
        exact .inl hgranted
      · cases h
        exact .inl hfine
    · cases h
      exact .inl hfine
  | onProgressChanged | onLocationChanged | onProviderEnabled | onProviderDisabled =>
    obtain ⟨-, h⟩ := Option.ite_none_right_eq_some.1 h
    cases h
    exact .inl hfine

theorem Stepped.fineGranted (h : Stepped a p e a' p' ws) (hfine : p.fineGranted) :
    p'.fineGranted := by
  cases h with
  | idle n fine coarse hf hl hfix hdis hstop hs => exact hf hfine
  | _ => exact hfine

end MainActivity

namespace Device

/-- Whatever could write a position needs the permission. -/
structure Permitted (d : Device) : Prop where
  registered : ∀ l ∈ d.phone.registered, d.phone.fineGranted
  stop : ∀ a ∈ d.mains, a.stopVisible → d.phone.fineGranted

variable {d d' : Device} {e : DeviceEvent} {ws : List Write}

theorem permitted_launched (fine coarse service : Bool) :
    Permitted (launched fine coarse service) :=
  ⟨nofun, nofun⟩

theorem permitted_relaunched (d : Device) (restored : Bool) :
    Permitted (d.relaunched restored) := by
  constructor
  · intro l hl
    cases hl
  · intro a ha
    cases ha

/-- On a sharing screen a listener is registered and Stop is shown with the permission only, though
`getLocation` itself would accept the coarse one. -/
theorem Permitted.main {e : MainEvent} (h : Permitted d) (ha : d.mains[i]? = some a)
    (hs : a.Stepped d.phone e a' p' ws) :
    Permitted { d with phone := p', mains := d.mains.set i a' } ∧
      (ws ≠ [] → d.phone.fineGranted) := by
  have hmem := List.mem_of_getElem? ha
  have hothers : ∀ b ∈ d.mains, b.stopVisible → p'.fineGranted :=
    fun b hb hstop => hs.fineGranted (h.stop b hb hstop)
  refine ⟨⟨?_, ?_⟩, ?_⟩
  · intro l hl
    cases hs with
    | started hs hfine hvis hservice => exact hfine
    | stopped he hvis hheld => exact h.stop a hmem hvis
    | idle n fine coarse hf hlis hfix hdis hstop hs => exact hf (h.registered l hl)
    | located | disabled => exact h.registered l hl
  · intro b hb hstop
    rcases List.mem_or_eq_of_mem_set hb with hb | rfl
    · exact hothers b hb hstop
    · cases hs with
      | started hs hfine hvis hservice => exact hfine
      | stopped | disabled => cases hstop
      | idle | located => exact hothers a hmem hstop
  · intro hws
    cases hs with
    | located he hl hown => exact h.registered _ hl
    | stopped he hvis hheld => exact h.stop a hmem hvis
    | _ => exact absurd rfl hws

/-- A device without the permission writes its registration only. -/
theorem Permitted.step (h : Permitted d) (hs : Stepped d e d' ws) :
    Permitted d' ∧ (ws ≠ [] → e.verified.isSome ∨ d.phone.fineGranted) := by
  cases hs with
  | created hi hc =>
    refine ⟨⟨h.registered, ?_⟩, nofun⟩
    intro b hb hstop
    rcases List.mem_append.1 hb with hb | hb
    · exact h.stop b hb hstop
    · rw [List.mem_singleton.1 hb] at hstop
      cases hstop
  | verified htop => exact ⟨⟨h.registered, h.stop⟩, fun _ => .inl rfl⟩
  | permissions =>
    refine ⟨⟨?_, ?_⟩, nofun⟩
    · exact fun l hl => by simp [Phone.grant, h.registered l hl]
    · exact fun a ha hstop => by simp [Phone.grant, h.stop a ha hstop]
  | main htop ha hs =>
    obtain ⟨hpermitted, hwrites⟩ := h.main ha hs
    exact ⟨hpermitted, fun hws => .inr (hwrites hws)⟩
  | _ => exact ⟨⟨h.registered, h.stop⟩, nofun⟩

theorem step_fineGranted (hs : d.step e = some (d', ws)) (hfine : d'.phone.fineGranted) :
    d.phone.fineGranted ∨ e.allowsFine := by
  cases e with
  | main i e =>
    obtain ⟨-, hs⟩ := Option.ite_none_right_eq_some.1 hs
    obtain ⟨a, -, hs⟩ := Option.bind_eq_some_iff.1 hs
    obtain ⟨⟨a', p', ws'⟩, hs, heq⟩ := Option.map_eq_some_iff.1 hs
    cases heq
    exact MainActivity.step_fineGranted hs hfine
  | permissions fine coarse =>
    cases hs
    simpa [Phone.grant, DeviceEvent.allowsFine] using hfine
  | _ =>
    cases step_stepped hs
    all_goals exact .inl hfine

/-- What a device writes without the permission. -/
theorem Permitted.writes (h : Permitted d) (hs : d.step e = some (d', ws)) (hw : w ∈ ws) :
    d.phone.fineGranted ∨ ∃ c r, w = .setValue (crowdPath c) (.obj r) ∧
      r.get "location" = some VerificationActivity.location := by
  have hstepped := step_stepped hs
  have hwrites := (h.step hstepped).2 (List.ne_nil_of_mem hw)
  cases hstepped with
  | verified htop =>
    rw [List.mem_singleton] at hw
    refine .inr ⟨_, _, hw, ?_⟩
    simp only [putNullable]
    rw [Record.get_put_of_ne _ _ (by decide), Record.get_put_of_ne _ _ (by decide)]
    exact Record.get_put_self _ _ _
  | main htop ha hs => exact .inl (hwrites.resolve_left nofun)
  | _ => cases hw

end Device

namespace Fleet

variable {ι : Type u} [DecidableEq ι] {s s' : Fleet ι} {e : ι × LifeEvent}
  {es : List (ι × LifeEvent)} {granted : ι → Bool × Bool × Bool}

/-- The user of the device has allowed the exact position, before the run or in it. -/
def FineAllowed (granted : ι → Bool × Bool × Bool) (es : List (ι × LifeEvent)) (i : ι) : Prop :=
  (granted i).1 ∨ ∃ e, (i, .device e) ∈ es ∧ e.allowsFine

/-- A device has the permission only from its user, and needs it. -/
def Permitted (granted : ι → Bool × Bool × Bool) (es : List (ι × LifeEvent)) (s : Fleet ι) : Prop :=
  ∀ i, (s.devices i).Permitted ∧
    ((s.devices i).phone.fineGranted → FineAllowed granted es i)

theorem permitted_step (h : Permitted granted es s) (he : e ∈ es) (hs : lifeStep s e = some s') :
    Permitted granted es s' := by
  obtain ⟨j, e⟩ := e
  cases e with
  | device e =>
    obtain ⟨⟨d, ws⟩, hd, rfl⟩ := Option.map_eq_some_iff.1 hs
    refine update_forall (P := fun i d => d.Permitted ∧
      (d.phone.fineGranted → FineAllowed granted es i)) (fun k _ => h k) ?_
    refine ⟨((h j).1.step (Device.step_stepped hd)).1, ?_⟩
    intro hfine
    rcases Device.step_fineGranted hd hfine with hfine | hallows
    · exact (h j).2 hfine
    · exact .inr ⟨e, he, hallows⟩
  | kill restored =>
    obtain ⟨-, hs⟩ := Option.ite_none_right_eq_some.1 hs
    cases hs
    exact update_forall (P := fun i d => d.Permitted ∧
      (d.phone.fineGranted → FineAllowed granted es i)) (fun k _ => h k)
      ⟨Device.permitted_relaunched _ _, (h j).2⟩

/-- Until the user of a device has allowed the exact position, the device writes no position but
that of a registration, whatever else is allowed and whatever happens on it. -/
theorem writes_allowed (granted : ι → Bool × Bool × Bool) (database : Json)
    (before : List (ι × String)) (hr : run lifeStep (start granted database before) es = some s)
    (i : ι) (e : DeviceEvent) :
    ∀ w ∈ s.writes (i, e), FineAllowed granted es i ∨ ∃ c r,
      w = .setValue (crowdPath c) (.obj r) ∧
        r.get "location" = some VerificationActivity.location := by
  intro w hw
  have hstart : Permitted granted es (start granted database before) :=
    fun i => ⟨Device.permitted_launched _ _ _, fun h => .inl h⟩
  obtain ⟨hpermitted, hallowed⟩ :=
    run_keeps (I := Permitted granted es) hstart (fun _ _ _ he h hs => permitted_step h he hs) hr i
  rw [writes] at hw
  cases hd : (s.devices i).step e with
  | none => simp [hd] at hw
  | some r =>
    simp only [hd, Option.map_some, Option.getD_some] at hw
    exact (hpermitted.writes hd hw).imp_left hallowed

/-- A user who allows the rough position only and is about to verify. -/
def roughSession : List (Bool × LifeEvent) :=
  [(false, .device (.signUp "c" "p")), (false, .device (.onDataChange 0 Device.oneCampaign)),
    (false, .device .launch), (false, .device (.permissions false true))]

theorem writes_allowed_rough :
    ∃ s, run lifeStep (start (fun _ : Bool => (false, false, true)) (.obj .empty) [])
        roughSession = some s ∧ s.writes (false, .verify "000" ⟨0, 0, 0⟩) ≠ [] ∧
      ∀ w ∈ s.writes (false, .verify "000" ⟨0, 0, 0⟩),
        FineAllowed (fun _ => (false, false, true)) roughSession false ∨ ∃ c r,
          w = .setValue (crowdPath c) (.obj r) ∧
            r.get "location" = some VerificationActivity.location := by
  have hs : (run lifeStep (start (fun _ : Bool => (false, false, true)) (.obj .empty) [])
      roughSession).isSome := by
    decide +kernel
  have hw : (Option.get _ hs).writes (false, .verify "000" ⟨0, 0, 0⟩) ≠ [] := by
    decide +kernel +revert
  exact ⟨_, (Option.some_get hs).symm, hw,
    writes_allowed _ _ _ (Option.some_get hs).symm false (.verify "000" ⟨0, 0, 0⟩)⟩

end Fleet

end CrowdTracking
