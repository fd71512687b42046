import CrowdTracking.Fleet

namespace CrowdTracking
set_option autoImplicit true
open Database Runs

/-- What happens to an app: an event of its process, or the end of the process. -/
inductive LifeEvent where
  | device (e : DeviceEvent)
  | kill (restored : Bool)
deriving DecidableEq

def LifeEvent.deviceEvent : LifeEvent → Option DeviceEvent
  | .device e => some e
  | .kill _ => none

/-- The next process: the permissions are kept, the session is not. Android may restore the
verification screen; to restore a sharing screen is an exception, as there is no crowd id. -/
def Device.relaunched (d : Device) (restored : Bool) : Device :=
  { Device.launched d.phone.fineGranted d.phone.coarseGranted d.phone.locationService with
    screens := if restored then [.verification, .login] else [.login] }

namespace Fleet

variable {ι : Type u}

/-- The events of the processes alone. -/
def deviceEvents (es : List (ι × LifeEvent)) : List (ι × DeviceEvent) :=
  es.filterMap fun e => e.2.deviceEvent.map fun f => (e.1, f)

variable [DecidableEq ι]

def lifeStep (s : Fleet ι) (e : ι × LifeEvent) : Option (Fleet ι) :=
  match e.2 with
  | .device f => s.step (e.1, f)
  | .kill restored =>
    if restored → .verification ∈ (s.devices e.1).screens then
      some { s with
        devices := Function.update s.devices e.1 ((s.devices e.1).relaunched restored) }
    else none

/-- No process can write to the crowd. -/
def Orphaned (c : String) (s : Fleet ι) : Prop := ∀ i, (s.devices i).Owns fun k => k ≠ c

variable {s s' : Fleet ι} {e : ι × LifeEvent} {es fs : List (ι × LifeEvent)} {c : String}

theorem owns_relaunched (P : String → Prop) (d : Device) (restored : Bool) :
    (d.relaunched restored).Owns P := by
  constructor
  · intro c hc
    cases hc
  · intro a ha
    cases ha

theorem update_forall {P : ι → Device → Prop} {i : ι} {d : Device}
    (h : ∀ j, j ≠ i → P j (s.devices j)) (hd : P i d) (j : ι) :
    P j (Function.update s.devices i d j) := by
  by_cases hj : j = i
  · subst hj
    rw [Function.update_self]
    exact hd
  · rw [Function.update_of_ne hj]
    exact h j hj

theorem foldl_other {ws : List Write} (h : ∀ w ∈ ws, ∃ k, k ≠ c ∧ w.path = crowdPath k) (t : Json) :
    getAt (crowdPath c) (ws.foldl (fun t w => w.apply t) t) = getAt (crowdPath c) t := by
  induction ws generalizing t with
  | nil => rfl
  | cons w ws ih =>
    obtain ⟨⟨k, hk, hw⟩, hws⟩ := List.forall_mem_cons.1 h
    rw [List.foldl_cons, ih hws]
    exact getAt_apply_other (p := ["Crowd"]) hw (Ne.symm hk) t

/-- An event that does not draw the id of an orphaned crowd leaves the crowd alone. -/
theorem orphaned_step (h : Orphaned c s) (hs : lifeStep s e = some s')
    (he : ∀ f, e.2 = .device f → f.verified ≠ some c) :
    Orphaned c s' ∧ getAt (crowdPath c) s'.database = getAt (crowdPath c) s.database := by
  obtain ⟨i, e⟩ := e
  cases e with
  | device f =>
    obtain ⟨⟨d, ws⟩, hd, rfl⟩ := Option.map_eq_some_iff.1 hs
    obtain ⟨howns, hwrites⟩ := (h i).step (Device.step_stepped hd) (fun _ hk => hk)
      (fun k hk hkc => he f rfl (hkc ▸ hk))
    exact ⟨update_forall (fun j _ => h j) howns, foldl_other hwrites s.database⟩
  | kill restored =>
    obtain ⟨-, hs⟩ := Option.ite_none_right_eq_some.1 hs
    cases hs
    exact ⟨update_forall (fun j _ => h j) (owns_relaunched _ _ _), rfl⟩

omit [DecidableEq ι] in
theorem draws_cons (e : ι × LifeEvent) (es : List (ι × LifeEvent)) :
    draws (deviceEvents (e :: es)) = draws (deviceEvents [e]) ++ draws (deviceEvents es) := by
  rw [deviceEvents, ← List.singleton_append, List.filterMap_append, draws, List.flatMap_append]
  rfl

theorem orphaned_run (h : Orphaned c s) (hr : run lifeStep s es = some s')
    (hes : ∀ r ∈ draws (deviceEvents es), r.2 ≠ c) :
    getAt (crowdPath c) s'.database = getAt (crowdPath c) s.database := by
  induction es generalizing s with
  | nil =>
    cases hr
    rfl
  | cons e es ih =>
    obtain ⟨t, ht, hr⟩ := Option.bind_eq_some_iff.1 hr
    rw [draws_cons] at hes
    have he : ∀ f, e.2 = .device f → f.verified ≠ some c := by
      intro f hf hc
      obtain ⟨i, e⟩ := e
      subst hf
      apply hes (i, c) (List.mem_append_left _ ?_) rfl
      exact List.mem_append_left _ (mem_registration.2 ⟨rfl, hc⟩)
    obtain ⟨horphaned, hnode⟩ := orphaned_step h ht he
    rw [ih horphaned hr fun r hmem => hes r (List.mem_append_right _ hmem), hnode]

/-- A process only holds crowds that its device has drawn. -/
theorem owned_lifeStep (h : Owned s) (hs : lifeStep s e = some s') :
    Owned s' ∧ s'.drawn = s.drawn ++ draws (deviceEvents [e]) := by
  obtain ⟨i, e⟩ := e
  cases e with
  | device f =>
    obtain ⟨d, -, -, -, hdrawn⟩ := step_some hs
    constructor
    · exact (owned_step h hs).1
    · rw [hdrawn]
      exact congrArg _ (List.append_nil _).symm
  | kill restored =>
    obtain ⟨-, hs⟩ := Option.ite_none_right_eq_some.1 hs
    cases hs
    constructor
    · exact update_forall (fun j _ => h j) (owns_relaunched _ _ _)
    · exact (List.append_nil _).symm

theorem owned_run (h : Owned s) (hr : run lifeStep s es = some s') :
    Owned s' ∧ s'.drawn = s.drawn ++ draws (deviceEvents es) := by
  induction es generalizing s with
  | nil =>
    cases hr
    exact ⟨h, (List.append_nil _).symm⟩
  | cons e es ih =>
    obtain ⟨t, ht, hr⟩ := Option.bind_eq_some_iff.1 hr
    obtain ⟨ht, hdrawn⟩ := owned_lifeStep h ht
    obtain ⟨hs', hdrawn'⟩ := ih ht hr
    rw [draws_cons, hdrawn', hdrawn, List.append_assoc]
    exact ⟨hs', rfl⟩

/-- Where one device alone has drawn an id, no other process holds the crowd. -/
theorem owns_others (granted : ι → Bool × Bool × Bool) (database : Json)
    (before : List (ι × String)) {i : ι}
    (hr : run lifeStep (start granted database before) es = some s)
    (hown : ∀ r ∈ draws (deviceEvents es), r.2 = c → r.1 = i) (j : ι) (hj : j ≠ i) :
    (s.devices j).Owns fun k => k ≠ c := by
  obtain ⟨howned, hdrawn⟩ := owned_run (owned_start granted database before) hr
  apply (howned j).mono
  intro k hk hkc
  rw [hdrawn] at hk
  exact hj (hown (j, k) hk hkc)

/-- Once the process has ended that has a crowd to itself, the crowd stays as it is, in whatever
runs and ends on the devices, until its id is drawn again. -/
theorem abandoned (granted : ι → Bool × Bool × Bool) (database : Json)
    (before : List (ι × String)) {t : Fleet ι} {i : ι} {restored : Bool}
    (hr : run lifeStep (start granted database before) es = some s)
    (hown : ∀ r ∈ draws (deviceEvents es), r.2 = c → r.1 = i)
    (hk : lifeStep s (i, .kill restored) = some t) (hf : run lifeStep t fs = some s')
    (hlater : ∀ r ∈ draws (deviceEvents fs), r.2 ≠ c) :
    getAt (crowdPath c) s'.database = getAt (crowdPath c) s.database := by
  obtain ⟨-, hk⟩ := Option.ite_none_right_eq_some.1 hk
  cases hk
  apply orphaned_run ?_ hf hlater
  exact update_forall (owns_others granted database before hr hown) (owns_relaunched _ _ _)

/-- A device that registers a crowd and shares, and what it and another device do after its process
has ended. -/
def sharing (draw : Draw) : List (Bool × LifeEvent) :=
  (session false draw).map (fun e => (e.1, .device e.2)) ++
    [(false, .device (.main 0 (.onLocationChanged ⟨0, 0⟩ 21 39)))]

def afterwards (again other restored : Draw) : List (Bool × LifeEvent) :=
  ((session false again ++ session true other).map fun e => (e.1, .device e.2)) ++
    [(true, .kill true), (true, .device (.verify "000" restored))]

theorem abandoned_sharing :
    ∃ s t s', run lifeStep (start (fun _ : Bool => (true, true, true)) (.obj .empty) [])
        (sharing ⟨0, 0, 0⟩) = some s ∧
      lifeStep s (false, .kill false) = some t ∧
      run lifeStep t (afterwards ⟨1, 0, 0⟩ ⟨2, 0, 0⟩ ⟨3, 0, 0⟩) = some s' ∧
      getAt (crowdPath "A00") s'.database = getAt (crowdPath "A00") s.database := by
  have hrun : (run lifeStep (start (fun _ : Bool => (true, true, true)) (.obj .empty) [])
      (sharing ⟨0, 0, 0⟩ ++
        (false, .kill false) :: afterwards ⟨1, 0, 0⟩ ⟨2, 0, 0⟩ ⟨3, 0, 0⟩)).isSome := by
    decide +kernel
  obtain ⟨s', hr⟩ := Option.isSome_iff_exists.1 hrun
  rw [run_append] at hr
  obtain ⟨s, hs, hr⟩ := Option.bind_eq_some_iff.1 hr
  obtain ⟨t, ht, hr⟩ := Option.bind_eq_some_iff.1 hr
  exact ⟨s, t, s', hs, ht, hr, abandoned _ _ _ hs (by decide +kernel) ht hr (by decide +kernel)⟩

end Fleet

end CrowdTracking
