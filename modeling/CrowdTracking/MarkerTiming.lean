import CrowdTracking.MarkerIntervals

namespace CrowdTracking
set_option autoImplicit true
open Script Runs

abbrev MarkerHistory := List (Nat × MarkerEvent)

namespace MyMarker

variable {degrees : Number → Number → Number} {m m' : MyMarker}

/-- When the last location event was delivered, or the marker was mounted. -/
def lastLocation (mountTime : Nat) (hist : MarkerHistory) : Nat :=
  hist.foldl (fun last e =>
    match e.2 with
    | .childChanged k _ => if k = "location" then e.1 else last
    | _ => last) mountTime

def SetsLost (m : MyMarker) (e : Nat × MarkerEvent) (m' : MyMarker) : Prop :=
  (m.mounted ∧ m.fired e = some .timer) ∨
    (m'.crowd.get "lost" = some (.bool true) ∧ m.crowd.get "lost" ≠ some (.bool true))

/-- A crowd is declared lost after ten seconds without a location event. -/
def LostAfterSilence (mountTime : Nat) (s : MyMarker × MarkerHistory) (e : Nat × MarkerEvent)
    (s' : MyMarker × MarkerHistory) : Prop :=
  SetsLost s.1 e s'.1 → lastLocation mountTime s.2 + 10000 ≤ e.1

/-- A location event finds every live silence timer under the stored identifier and reaches the
call that clears it. -/
def SilenceRestarts (m : MyMarker) (e : Nat × MarkerEvent) : Prop :=
  match e.2 with
  | .childChanged k v =>
    k = "location" → m.mounted → (∃ i ∈ m.intervals, i.callback = .timer) →
      Restarts m.crowd v ∧ ∀ i ∈ m.intervals, i.callback = .timer → some i.id = m.intervalId
  | _ => True

instance : Decidable (SetsLost m e m') := inferInstanceAs (Decidable (_ ∨ _))

instance : Decidable (LostAfterSilence t s e s') := inferInstanceAs (Decidable (_ → _))

instance : Decidable (SilenceRestarts m e) :=
  match e with
  | (_, .childChanged k _) => inferInstanceAs (Decidable (k = "location" → _))
  | (_, .newProps _) | (_, .interval _) | (_, .unmount) => isTrue trivial

/-- No live silence timer is due within ten seconds of the last location event. -/
structure SilenceInvariant (mountTime : Nat) (s : MyMarker × MarkerHistory) : Prop where
  clock : lastLocation mountTime s.2 ≤ s.1.clock
  due : s.1.mounted → ∀ i ∈ s.1.intervals, i.callback = .timer →
    lastLocation mountTime s.2 + 10000 ≤ i.due

theorem lastLocation_append (mountTime : Nat) (hist : MarkerHistory) (t : Nat) (e : MarkerEvent) :
    (∃ v, e = .childChanged "location" v ∧ lastLocation mountTime (hist ++ [(t, e)]) = t) ∨
      ((∀ v, e ≠ .childChanged "location" v) ∧
        lastLocation mountTime (hist ++ [(t, e)]) = lastLocation mountTime hist) := by
  simp only [lastLocation, List.foldl_append, List.foldl_cons, List.foldl_nil]
  cases e with
  | childChanged k v =>
    by_cases hk : k = "location"
    · subst k
      exact .inl ⟨v, rfl, if_pos rfl⟩
    · exact .inr ⟨fun w hw => hk (by cases hw; rfl), if_neg hk⟩
  | _ => exact .inr ⟨fun _ => (by rintro ⟨⟩), rfl⟩

theorem setsLost_fired (h : Stepped degrees m t e m') (hs : SetsLost m (t, e) m') :
    m.fired (t, e) = some .timer ∧ m.mounted := by
  rcases hs with ⟨hm, hf⟩ | ⟨hnew, hold⟩
  · exact ⟨hf, hm⟩
  · rcases stepped_crowd h with hc | ⟨hm, ⟨k, v, -, hc⟩ | ⟨hf, -⟩ | ⟨-, hc⟩⟩
    · rw [hc] at hnew
      exact absurd hnew hold
    · rw [hc] at hnew
      exact absurd (nextCrowd_lost hnew) hold
    · exact ⟨hf, hm⟩
    · rw [hc, Record.get_put_of_ne _ _ (by decide)] at hnew
      exact absurd hnew hold

theorem SilenceInvariant.step {hist : MarkerHistory} (h : SilenceInvariant t₀ (m, hist))
    (hs : Stepped degrees m t e m') (ht : m.clock ≤ t) (hc : SilenceRestarts m (t, e)) :
    SilenceInvariant t₀ (m', hist ++ [(t, e)]) := by
  have hlast : lastLocation t₀ (hist ++ [(t, e)]) ≤ t := by
    rcases lastLocation_append t₀ hist t e with ⟨v, -, hl⟩ | ⟨-, hl⟩
    · exact hl.le
    · rw [hl]
      exact h.clock.trans ht
  have hclock := stepped_clock hs
  refine ⟨by rwa [hclock], ?_⟩
  intro hm' i hi hcb
  have hm := stepped_mounted hs hm'
  obtain ⟨j, hj, -, hjc, hjd, hjr⟩ | hnew := stepped_intervals hs hi
  · have hjt : j.callback = .timer := hjc.trans hcb
    rcases lastLocation_append t₀ hist t e with ⟨v, rfl, hl⟩ | ⟨-, hl⟩
    · -- the timer survived a location event although its identifier was the stored one
      obtain ⟨hr, hstored⟩ := hc rfl hm ⟨j, hj, hjt⟩
      exact absurd (hstored j hj hjt) (hjr _ v rfl hr)
    · rw [hl]
      exact (h.due hm j hj hjt).trans hjd
  · rw [hnew.1, hclock]
    exact Nat.add_le_add_right hlast 10000

theorem silenceInvariant_mount (props : Props) (t : Nat) :
    SilenceInvariant t (mount props t, []) := by
  refine ⟨(mount_clock props t).ge, ?_⟩
  intro _ i hi _
  rw [(mount_intervals hi).1, mount_clock]
  exact Nat.le_refl _

/-- In every run whose location events all reach the live silence timer, a marker is declared lost
only after ten seconds without a location event. -/
theorem lost_after_silence (degrees : Number → Number → Number) (props : Props) (t : Nat)
    (es : MarkerHistory)
    (h : Along (withHistory (step degrees)) (fun s e => SilenceRestarts s.1 e)
      (mount props t, []) es) :
    Each (withHistory (step degrees)) (LostAfterSilence t) (mount props t, []) es := by
  apply Each.of_invariant (SilenceInvariant t) ?_ (silenceInvariant_mount props t) h
  rintro ⟨m, hist⟩ ⟨u, e⟩ ⟨m', hist'⟩ hI hstep hc
  obtain ⟨hstep, rfl⟩ := withHistory_some hstep
  obtain ⟨hu, hs⟩ := step_stepped hstep
  refine ⟨?_, hI.step hs hu hc⟩
  intro hlost
  obtain ⟨hf, hm⟩ := setsLost_fired hs hlost
  obtain ⟨i, hi, hcb, hdue⟩ := fired_due hs hf
  exact (hI.due hm i hi hcb).trans hdue

/-- A marker mounted from an inActive crowd loses the handle of its first timer when it is rendered;
the timer fires five seconds after a location event. -/
theorem lost_despite_location :
    ¬Each (withHistory (step fun _ _ => .nan)) (LostAfterSilence 0)
      (mount ⟨"k", 0, crowdValue "inActive" 21 39, true, true, true⟩ 0, [])
      [(5000, .childChanged "location" (position 22 39)), (10000, .interval 0)] := by
  decide +kernel

theorem lost_after_silence_active :
    Each (withHistory (step fun _ _ => .nan)) (LostAfterSilence 0)
        (mount ⟨"k", 0, crowdValue "Active" 21 39, true, true, true⟩ 0, [])
        [(5000, .childChanged "location" (position 22 39)), (15000, .interval 1)] ∧
      ((run (step fun _ _ => .nan)
        (mount ⟨"k", 0, crowdValue "Active" 21 39, true, true, true⟩ 0)
        [(5000, .childChanged "location" (position 22 39)), (15000, .interval 1)]).map
          fun m => m.crowd.get "lost") = some (some (.bool true)) :=
  ⟨lost_after_silence _ _ _ _ (by decide +kernel), by decide +kernel⟩

/-- A location event, or a status event other than `inActive`: the crowd is active again. -/
def Activity (k : String) (v : Json) : Prop :=
  k = "location" ∨ (k = "status" ∧ v ≠ .str "inActive")

instance : Decidable (Activity k v) := inferInstanceAs (Decidable (_ ∨ _))

/-- Since when the latest status or location information, from the mount or from an event, says
that the crowd is inActive. -/
def inActiveSince (props : Props) (mountTime : Nat) (hist : MarkerHistory) : Option Nat :=
  hist.foldl (fun since e =>
    match e.2 with
    | .childChanged k v =>
      if Activity k v then none
      else if k = "status" then some (since.getD e.1)
      else since
    | _ => since)
    (if props.crowd.get "status" = some (.str "inActive") then some mountTime else none)

def SetsTerminated (m : MyMarker) (e : Nat × MarkerEvent) (m' : MyMarker) : Prop :=
  (m.mounted ∧ m.fired e = some .removeMarker) ∨
    (m'.status = some (.str "Terminated") ∧ m.status ≠ some (.str "Terminated"))

/-- A marker is removed after ten seconds of inactivity, and activity cancels pending removals. -/
def RemovedAfterInactivity (props : Props) (mountTime : Nat) (s : MyMarker × MarkerHistory)
    (e : Nat × MarkerEvent) (s' : MyMarker × MarkerHistory) : Prop :=
  (SetsTerminated s.1 e s'.1 → ∃ since ∈ inActiveSince props mountTime s.2, since + 10000 ≤ e.1) ∧
    match e.2 with
    | .childChanged k v =>
      Activity k v → s'.1.mounted → ∀ i ∈ s'.1.intervals, i.callback ≠ .removeMarker
    | _ => True

/-- Activity finds every live removal interval under the stored identifier and reaches the call
that clears it; only the marker itself writes `Terminated`, and only a status is `inActive`. -/
def ActivityCancels (m : MyMarker) (e : Nat × MarkerEvent) : Prop :=
  match e.2 with
  | .childChanged k v =>
    v ≠ .str "Terminated" ∧ (v = .str "inActive" → k = "status") ∧
      (Activity k v → m.mounted → (∃ i ∈ m.intervals, i.callback = .removeMarker) →
        Restarts m.crowd v ∧
          ∀ i ∈ m.intervals, i.callback = .removeMarker → some i.id = m.intervalId)
  | _ => True

instance : Decidable (SetsTerminated m e m') := inferInstanceAs (Decidable (_ ∨ _))

instance : Decidable (RemovedAfterInactivity p t s e s') :=
  match e with
  | (_, .childChanged _ _) => inferInstanceAs (Decidable (_ ∧ (_ → _)))
  | (_, .newProps _) | (_, .interval _) | (_, .unmount) => inferInstanceAs (Decidable (_ ∧ True))

instance : Decidable (ActivityCancels m e) :=
  match e with
  | (_, .childChanged _ _) => inferInstanceAs (Decidable (_ ∧ _ ∧ _))
  | (_, .newProps _) | (_, .interval _) | (_, .unmount) => isTrue trivial

/-- A mounted marker with a live removal interval has been inActive for the ten seconds before it
is due, and an inActive marker has one. -/
structure RemovalInvariant (props : Props) (mountTime : Nat) (s : MyMarker × MarkerHistory) :
    Prop where
  clock : ∀ since ∈ inActiveSince props mountTime s.2, since ≤ s.1.clock
  due : s.1.mounted → ∀ i ∈ s.1.intervals, i.callback = .removeMarker →
    ∃ since ∈ inActiveSince props mountTime s.2, since + 10000 ≤ i.due
  live : s.1.mounted → s.1.status = some (.str "inActive") →
    (inActiveSince props mountTime s.2).isSome ∧ ∃ i ∈ s.1.intervals, i.callback = .removeMarker

theorem inActiveSince_append (p : Props) (t₀ : Nat) (hist : MarkerHistory) (t : Nat)
    (e : MarkerEvent) :
    (∃ k v, e = .childChanged k v ∧ Activity k v ∧
        inActiveSince p t₀ (hist ++ [(t, e)]) = none) ∨
      (e = .childChanged "status" (.str "inActive") ∧
        inActiveSince p t₀ (hist ++ [(t, e)]) = some ((inActiveSince p t₀ hist).getD t)) ∨
      ((∀ k v, e = .childChanged k v → k ≠ "location" ∧ k ≠ "status") ∧
        inActiveSince p t₀ (hist ++ [(t, e)]) = inActiveSince p t₀ hist) := by
  simp only [inActiveSince, List.foldl_append, List.foldl_cons, List.foldl_nil]
  cases e with
  | childChanged k v =>
    by_cases ha : Activity k v
    · exact .inl ⟨k, v, rfl, ha, if_pos ha⟩
    · obtain ⟨hl, hs⟩ := not_or.1 ha
      by_cases hk : k = "status"
      · have hv : v = .str "inActive" := not_not.1 fun hv => hs ⟨hk, hv⟩
        subst hk hv
        exact .inr (.inl ⟨rfl, by simp only [if_neg ha, ↓reduceIte]⟩)
      · refine .inr (.inr ⟨fun _ _ h => ?_, by simp only [if_neg ha, if_neg hk]⟩)
        cases h
        exact ⟨hl, hk⟩
  | _ => exact .inr (.inr ⟨fun _ _ => (by rintro ⟨⟩), rfl⟩)

theorem setsTerminated_fired (h : Stepped degrees m t e m') (hc : ActivityCancels m (t, e))
    (hs : SetsTerminated m (t, e) m') : m.fired (t, e) = some .removeMarker ∧ m.mounted := by
  rcases hs with ⟨hm, hf⟩ | ⟨hnew, hold⟩
  · exact ⟨hf, hm⟩
  · rw [status] at hnew hold
    rcases stepped_crowd h with hcr | ⟨hm, ⟨k, v, rfl, hcr⟩ | ⟨-, hcr⟩ | ⟨hf, -⟩⟩
    · rw [hcr] at hnew
      exact absurd hnew hold
    · rw [hcr] at hnew
      by_cases hr : Restarts m.crowd v
      · rw [nextCrowd_status_of_restarts hr] at hnew
        split at hnew
        · exact absurd hnew (by decide)
        · exact absurd (Option.some.inj hnew) hc.1
      · rw [nextCrowd_status_of_not_restarts hr] at hnew
        exact absurd hnew hold
    · rw [hcr, Record.get_put_of_ne _ _ (by decide)] at hnew
      exact absurd hnew hold
    · exact ⟨hf, hm⟩

theorem childChanged_inActive (h : Stepped degrees m t (.childChanged k v) m') (hm : m.mounted)
    (hs : m'.status = some (.str "inActive")) :
    v = .str "inActive" ∨ (¬Restarts m.crowd v ∧ m.status = some (.str "inActive")) := by
  rw [status, stepped_childChanged h hm] at hs
  by_cases hr : Restarts m.crowd v
  · rw [nextCrowd_status_of_restarts hr] at hs
    split at hs
    · exact absurd hs (by decide)
    · exact .inl (Option.some.inj hs)
  · rw [nextCrowd_status_of_not_restarts hr] at hs
    exact .inr ⟨hr, hs⟩

theorem RemovalInvariant.since (h : RemovalInvariant p t₀ (m, hist))
    (hs : Stepped degrees m t e m') (hc : ActivityCancels m (t, e)) (hm' : m'.mounted)
    (hst : m'.status = some (.str "inActive")) :
    (inActiveSince p t₀ (hist ++ [(t, e)])).isSome := by
  have hm := stepped_mounted hs hm'
  rcases inActiveSince_append p t₀ hist t e with ⟨k, v, rfl, ha, -⟩ | ⟨rfl, hl⟩ | ⟨hk, hl⟩
  · rcases childChanged_inActive hs hm hst with rfl | ⟨hr, hold⟩
    · rcases ha with rfl | ⟨-, hv⟩
      · exact absurd (hc.2.1 rfl) (by decide)
      · exact absurd rfl hv
    · exact absurd (hc.2.2 ha hm (h.live hm hold).2).1 hr
  · rw [hl]
    rfl
  · rw [hl]
    have hold : m.status = some (.str "inActive") := by
      rw [status] at hst ⊢
      rcases stepped_crowd hs with hcr | ⟨-, ⟨k, v, rfl, -⟩ | ⟨-, hcr⟩ | ⟨-, hcr⟩⟩
      · rwa [hcr] at hst
      · rcases childChanged_inActive hs hm hst with rfl | ⟨-, hold⟩
        · exact absurd (hc.2.1 rfl) (hk k _ rfl).2
        · exact hold
      · rwa [hcr, Record.get_put_of_ne _ _ (by decide)] at hst
      · rw [hcr, Record.get_put_self] at hst
        exact absurd hst (by decide)
    exact (h.live hm hold).1

theorem RemovalInvariant.step (h : RemovalInvariant p t₀ (m, hist))
    (hs : Stepped degrees m t e m') (ht : m.clock ≤ t) (hc : ActivityCancels m (t, e)) :
    RemovalInvariant p t₀ (m', hist ++ [(t, e)]) := by
  have hle : ∀ since ∈ inActiveSince p t₀ (hist ++ [(t, e)]), since ≤ t := by
    intro u hu
    rcases inActiveSince_append p t₀ hist t e with ⟨k, v, -, -, hl⟩ | ⟨-, hl⟩ | ⟨-, hl⟩
    · rw [hl] at hu
      cases hu
    · rw [hl] at hu
      cases hu
      cases hi : inActiveSince p t₀ hist with
      | none => exact Nat.le_refl t
      | some u => exact (h.clock u hi).trans ht
    · rw [hl] at hu
      exact (h.clock u hu).trans ht
  have hclock := stepped_clock hs
  refine ⟨by rwa [hclock], ?_, fun hm' hst => ⟨h.since hs hc hm' hst, ?_⟩⟩
  · intro hm' i hi hcb
    have hm := stepped_mounted hs hm'
    obtain ⟨j, hj, -, hjc, hjd, hjr⟩ | hnew := stepped_intervals hs hi
    · have hjm : j.callback = .removeMarker := hjc.trans hcb
      obtain ⟨u, hu, hud⟩ := h.due hm j hj hjm
      rcases inActiveSince_append p t₀ hist t e with ⟨k, v, rfl, ha, -⟩ | ⟨-, hl⟩ | ⟨-, hl⟩
      · -- the removal interval survived activity although its identifier was the stored one
        obtain ⟨hr, hstored⟩ := hc.2.2 ha hm ⟨j, hj, hjm⟩
        exact absurd (hstored j hj hjm) (hjr k v rfl hr)
      · rw [hl]
        exact ⟨u, by rw [Option.mem_def.1 hu]; rfl, hud.trans hjd⟩
      · rw [hl]
        exact ⟨u, hu, hud.trans hjd⟩
    · obtain ⟨u, hu⟩ := Option.isSome_iff_exists.1 (h.since hs hc hm' (hnew.2 hcb).2)
      refine ⟨u, hu, ?_⟩
      rw [hnew.1, hclock]
      exact Nat.add_le_add_right (hle u hu) 10000
  · rcases stepped_removal hs hm' hst with hr | ⟨hi, hst'⟩
    · exact hr
    · rw [hi]
      exact (h.live (stepped_mounted hs hm') (hst' ▸ hst)).2

theorem removalInvariant_mount (p : Props) (t : Nat) : RemovalInvariant p t (mount p t, []) := by
  have hsince : ∀ since ∈ inActiveSince p t [], since = t := by
    intro u hu
    simp only [inActiveSince, List.foldl_nil] at hu
    split at hu
    · cases hu
      rfl
    · cases hu
  have hsome (hs : (mount p t).status = some (.str "inActive")) :
      inActiveSince p t [] = some t := by
    rw [status, mount_crowd] at hs
    simp only [inActiveSince, List.foldl_nil, if_pos hs]
  refine ⟨?_, ?_, fun hm hs => ⟨by rw [hsome hs]; rfl, ?_⟩⟩
  · intro u hu
    rw [hsince u hu, mount_clock]
  · intro hm i hi hcb
    have hi' := mount_intervals hi
    refine ⟨t, hsome (hi'.2 hcb).2, ?_⟩
    rw [hi'.1, mount_clock]
  · exact setCrowd_removal (m := { (constructor p t).rerender with
      mounted := true, subscription := some (constructor p t).rerender.props.campaign_id }) hm hs

/-- In every run in which activity always clears the live removal interval, a marker is removed
only after ten seconds of inactivity. -/
theorem removed_after_inactivity (degrees : Number → Number → Number) (p : Props) (t : Nat)
    (es : MarkerHistory)
    (h : Along (withHistory (step degrees)) (fun s e => ActivityCancels s.1 e)
      (mount p t, []) es) :
    Each (withHistory (step degrees)) (RemovedAfterInactivity p t) (mount p t, []) es := by
  apply Each.of_invariant (RemovalInvariant p t) ?_ (removalInvariant_mount p t) h
  rintro ⟨m, hist⟩ ⟨u, e⟩ ⟨m', hist'⟩ hI hstep hc
  obtain ⟨hstep, rfl⟩ := withHistory_some hstep
  obtain ⟨hu, hs⟩ := step_stepped hstep
  have hI' := hI.step hs hu hc
  refine ⟨⟨fun hterm => ?_, ?_⟩, hI'⟩
  · obtain ⟨hf, hm⟩ := setsTerminated_fired hs hc hterm
    obtain ⟨i, hi, hcb, hdue⟩ := fired_due hs hf
    obtain ⟨since, hsince, hle⟩ := hI.due hm i hi hcb
    exact ⟨since, hsince, hle.trans hdue⟩
  · cases e with
    | childChanged k v =>
      intro ha hm' i hi hcb
      obtain ⟨since, hsince, -⟩ := hI'.due hm' i hi hcb
      rcases inActiveSince_append p t hist u (.childChanged k v) with
        ⟨_, _, -, -, hl⟩ | ⟨he, -⟩ | ⟨hk, -⟩
      · rw [hl] at hsince
        cases hsince
      · cases he
        rcases ha with ha | ⟨-, ha⟩
        · exact absurd ha (by decide)
        · exact ha rfl
      · rcases ha with ha | ha
        · exact (hk k v rfl).1 ha
        · exact (hk k v rfl).2 ha.1
    | _ => trivial

/-- A marker mounted from an inActive crowd renders twice and keeps one removal interval whose
identifier is lost: it is removed although its crowd is Active since five seconds. -/
theorem removed_while_active :
    ¬Each (withHistory (step fun _ _ => .nan))
      (RemovedAfterInactivity ⟨"k", 0, crowdValue "inActive" 21 39, true, true, true⟩ 0)
      (mount ⟨"k", 0, crowdValue "inActive" 21 39, true, true, true⟩ 0, [])
      [(5000, .childChanged "status" (.str "Active")), (10000, .interval 1)] := by
  decide +kernel

theorem removed_after_inactivity_stop :
    Each (withHistory (step fun _ _ => .nan))
        (RemovedAfterInactivity ⟨"k", 0, crowdValue "Active" 21 39, true, true, true⟩ 0)
        (mount ⟨"k", 0, crowdValue "Active" 21 39, true, true, true⟩ 0, [])
        [(5000, .childChanged "status" (.str "inActive")), (15000, .interval 1)] ∧
      ((run (step fun _ _ => .nan)
        (mount ⟨"k", 0, crowdValue "Active" 21 39, true, true, true⟩ 0)
        [(5000, .childChanged "status" (.str "inActive")), (15000, .interval 1)]).map
          status) = some (some (.str "Terminated")) :=
  ⟨removed_after_inactivity _ _ _ _ (by decide +kernel), by decide +kernel⟩

end MyMarker

end CrowdTracking
