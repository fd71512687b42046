import CrowdTracking.PreviousBestLocation

namespace CrowdTracking
set_option autoImplicit true
open Runs

/-- A service: the providers that its listener is registered with, those that existed when
listening was last started, the fix it keeps, and how often its task is posted. -/
structure LocationUpdaterService where
  registered : List String
  started : Option (List String)
  previousBestLocation : Option Location
  posted : Nat
deriving DecidableEq

/-- The process with the service, if there is one, and the static `isRunning`; `permitted` is the
test of both methods for a location permission. -/
structure LocationUpdates where
  permitted : Bool
  allProviders : List String
  isRunning : Bool
  service : Option LocationUpdaterService
deriving DecidableEq

/-- `allProviders` is a change of the providers that exist. -/
inductive ServiceEvent where
  | onStartCommand
  | tick
  | onLocationChanged (provider : String) (location : Location)
  | onProviderDisabled (provider : String)
  | onDestroy
  | granted
  | allProviders (ps : List String)
deriving DecidableEq

namespace LocationUpdates
open LocationUpdaterService

def NETWORK_PROVIDER : String := "network"

def GPS_PROVIDER : String := "gps"

def launched (permitted : Bool) (allProviders : List String) : LocationUpdates :=
  ⟨permitted, allProviders, false, none⟩

def onCreate : LocationUpdaterService := ⟨[], none, none, 0⟩

/-- The two providers that listening is started for, as far as they exist. -/
def existing (s : LocationUpdates) : List String :=
  [NETWORK_PROVIDER, GPS_PROVIDER].filter (· ∈ s.allProviders)

/-- `requestLocationUpdates` where the provider exists; a registration is made once. -/
def request (s : LocationUpdates) (provider : String) (registered : List String) : List String :=
  if provider ∈ s.allProviders then
    if provider ∈ registered then registered else registered ++ [provider]
  else registered

def startListening (s : LocationUpdates) (service : LocationUpdaterService) : LocationUpdates :=
  let registered :=
    if s.permitted then
      s.request GPS_PROVIDER (s.request NETWORK_PROVIDER service.registered)
    else service.registered
  { s with
    isRunning := true
    service := some { service with registered := registered, started := some s.existing } }

def stopListening (s : LocationUpdates) (service : LocationUpdaterService) : LocationUpdates :=
  { s with
    isRunning := false
    service := some
      { service with registered := if s.permitted then [] else service.registered } }

/-- `mHandlerTask` posts itself again. -/
def run (s : LocationUpdates) (service : LocationUpdaterService) : LocationUpdates :=
  let service := { service with posted := service.posted + 1 }
  if s.isRunning then { s with service := some service } else s.startListening service

def onLocationChanged (s : LocationUpdates) (service : LocationUpdaterService)
    (location : Location) : LocationUpdates :=
  if isBetterLocation floatMinus location service.previousBestLocation then
    s.stopListening { service with previousBestLocation := some location }
  else s

/-- A callback comes from a provider that the listener is registered with. -/
def step (s : LocationUpdates) : ServiceEvent → Option LocationUpdates
  | .onStartCommand => some (s.run (s.service.getD onCreate))
  | .tick => s.service.bind fun service =>
    if service.posted ≠ 0 then some (s.run { service with posted := service.posted - 1 }) else none
  | .onLocationChanged provider location => s.service.bind fun service =>
    if provider ∈ service.registered then some (s.onLocationChanged service location) else none
  | .onProviderDisabled provider => s.service.bind fun service =>
    if provider ∈ service.registered then some (s.stopListening service) else none
  | .onDestroy => s.service.map fun service =>
    { s.stopListening service with service := none }
  | .granted => some { s with permitted := true }
  | .allProviders ps => some { s with allProviders := ps }

/-- The fix that the service keeps, if there is a service. -/
def previousBestLocation (s : LocationUpdates) : Option Location :=
  s.service.bind (·.previousBestLocation)

/-- The fixes that an event leaves to the service, which is created without any. -/
def delivered (fs : List Location) : ServiceEvent → List Location
  | .onLocationChanged _ location => fs ++ [location]
  | .onDestroy => []
  | _ => fs

/-- The listener is registered with the providers that existed when listening was last started. -/
def Registered (s : LocationUpdates) : Prop :=
  ∃ service ∈ s.service, ∃ ps ∈ service.started, ∀ p ∈ ps, p ∈ service.registered

def Consistent (s : LocationUpdates) : Prop := s.isRunning ↔ s.Registered

/-- The flag is right after the step, and a tick with a permission ends registered. -/
def Listens (_ : LocationUpdates) (e : ServiceEvent) (s' : LocationUpdates) : Prop :=
  s'.Consistent ∧ (e = .tick → s'.permitted → s'.Registered)

/-- Listening is started with a permission, or where there is no provider. -/
def StartsPermitted (s : LocationUpdates) (e : ServiceEvent) : Prop :=
  e = .onStartCommand ∨ e = .tick → ¬s.isRunning → s.permitted ∨ s.existing = []

instance : DecidablePred Registered := fun s =>
  inferInstanceAs (Decidable (∃ service ∈ s.service, ∃ ps ∈ service.started, _))

instance : DecidablePred Consistent := fun _ => inferInstanceAs (Decidable (_ ↔ _))

/-- The ways an event is taken. -/
inductive Stepped (s : LocationUpdates) : ServiceEvent → LocationUpdates → Prop where
  | onStartCommand : Stepped s .onStartCommand (s.run (s.service.getD onCreate))
  | tick (ht : s.service = some t) (hp : t.posted ≠ 0) :
      Stepped s .tick (s.run { t with posted := t.posted - 1 })
  | onLocationChanged (ht : s.service = some t) (hp : p ∈ t.registered) :
      Stepped s (.onLocationChanged p f) (s.onLocationChanged t f)
  | onProviderDisabled (ht : s.service = some t) (hp : p ∈ t.registered) :
      Stepped s (.onProviderDisabled p) (s.stopListening t)
  | onDestroy (ht : s.service = some t) :
      Stepped s .onDestroy { s.stopListening t with service := none }
  | granted : Stepped s .granted { s with permitted := true }
  | allProviders : Stepped s (.allProviders ps) { s with allProviders := ps }

/-- The two states of a service that starts listening with a permission alone. -/
inductive Phase (s : LocationUpdates) : Prop where
  | idle (hrun : s.isRunning = false)
      (hservice : ∀ service ∈ s.service, service.registered = [] ∧ service.started ≠ some [])
  | listening (service : LocationUpdaterService) (ps : List String)
      (hservice : s.service = some service) (hrun : s.isRunning = true)
      (hstarted : service.started = some ps) (hregistered : service.registered = ps)
      (hpermitted : ps ≠ [] → s.permitted)

variable {s s' : LocationUpdates} {e : ServiceEvent} {service : LocationUpdaterService}

theorem step_stepped (hs : s.step e = some s') : Stepped s e s' := by
  cases e with
  | onStartCommand =>
    cases hs
    exact .onStartCommand
  | tick =>
    obtain ⟨service, hservice, hs⟩ := Option.bind_eq_some_iff.1 hs
    obtain ⟨hp, hs⟩ := Option.ite_none_right_eq_some.1 hs
    cases hs
    exact .tick hservice hp
  | onLocationChanged p f =>
    obtain ⟨service, hservice, hs⟩ := Option.bind_eq_some_iff.1 hs
    obtain ⟨hp, hs⟩ := Option.ite_none_right_eq_some.1 hs
    cases hs
    exact .onLocationChanged hservice hp
  | onProviderDisabled p =>
    obtain ⟨service, hservice, hs⟩ := Option.bind_eq_some_iff.1 hs
    obtain ⟨hp, hs⟩ := Option.ite_none_right_eq_some.1 hs
    cases hs
    exact .onProviderDisabled hservice hp
  | onDestroy =>
    obtain ⟨service, hservice, rfl⟩ := Option.map_eq_some_iff.1 hs
    exact .onDestroy hservice
  | granted =>
    cases hs
    exact .granted
  | allProviders ps =>
    cases hs
    exact .allProviders

theorem registered_iff (hs : s.service = some service) :
    s.Registered ↔ ∃ ps ∈ service.started, ∀ p ∈ ps, p ∈ service.registered := by
  simp only [Registered, hs, Option.mem_def, Option.some.injEq, exists_eq_left']

theorem Phase.consistent (h : s.Phase) : s.Consistent := by
  cases h with
  | idle hrun hservice =>
    rw [Consistent, hrun]
    apply iff_of_false Bool.false_ne_true
    rintro ⟨service, hs, ps, hps, hall⟩
    obtain ⟨hreg, hne⟩ := hservice service hs
    cases ps with
    | nil => exact hne hps
    | cons p ps =>
      have hmem := hall p List.mem_cons_self
      rw [hreg] at hmem
      cases hmem
  | listening service ps hs hrun hstarted hreg =>
    rw [Consistent, hrun]
    apply iff_of_true rfl
    rw [registered_iff hs]
    exact ⟨ps, hstarted, fun p hp => by rwa [hreg]⟩

/-- Both requests come to the existing providers, in their order. -/
theorem request_request (s : LocationUpdates) :
    s.request GPS_PROVIDER (s.request NETWORK_PROVIDER []) = s.existing := by
  by_cases hn : NETWORK_PROVIDER ∈ s.allProviders
  · by_cases hg : GPS_PROVIDER ∈ s.allProviders
    · simp [request, existing, hn, hg]
      decide
    · simp [request, existing, hn, hg]
  · by_cases hg : GPS_PROVIDER ∈ s.allProviders
    · simp [request, existing, hn, hg]
    · simp [request, existing, hn, hg]

theorem startListening_phase (hr : service.registered = [])
    (hC : s.permitted ∨ s.existing = []) : (s.startListening service).Phase := by
  refine .listening _ s.existing rfl rfl rfl ?_ ?_
  · by_cases hp : s.permitted
    · simp only [hp, ↓reduceIte, hr, request_request]
    · simp only [hp, Bool.false_eq_true, ↓reduceIte, hr, hC.resolve_left hp]
  · exact fun hne => hC.resolve_right hne

theorem stopListening_phase (hperm : s.permitted) (hstarted : service.started ≠ some []) :
    (s.stopListening service).Phase := by
  apply Phase.idle rfl
  rintro _ ⟨⟩
  exact ⟨if_pos hperm, hstarted⟩

/-- The task leaves the registrations of a listening service. -/
theorem run_phase (h : s.Phase) (hC : ¬s.isRunning → s.permitted ∨ s.existing = [])
    (hsame : ∀ t ∈ s.service, service.registered = t.registered ∧ service.started = t.started)
    (hnew : s.service = none → service.registered = []) : (s.run service).Phase := by
  cases h with
  | idle hrun hservice =>
    have hr : service.registered = [] := by
      cases hs : s.service with
      | none => exact hnew hs
      | some t => rw [(hsame t hs).1, (hservice t hs).1]
    simp only [run, hrun, Bool.false_eq_true, ↓reduceIte]
    exact startListening_phase hr (hC (by rw [hrun]; exact Bool.false_ne_true))
  | listening t ps hs hrun hstarted hreg hperm =>
    simp only [run, hrun, ↓reduceIte]
    obtain ⟨hreg', hstarted'⟩ := hsame t hs
    exact .listening _ ps rfl rfl (hstarted'.trans hstarted) (hreg'.trans hreg) hperm

/-- A callback finds a registered listener. -/
theorem Phase.called (h : s.Phase) (hs : s.service = some service)
    (hp : provider ∈ service.registered) : s.permitted ∧ service.started ≠ some [] := by
  cases h with
  | idle hrun hservice =>
    rw [(hservice service hs).1] at hp
    cases hp
  | listening t ps ht hrun hstarted hreg hperm =>
    rw [ht, Option.some.injEq] at hs
    subst hs
    rw [hreg] at hp
    have hne : ps ≠ [] := List.ne_nil_of_mem hp
    refine ⟨hperm hne, ?_⟩
    rw [hstarted]
    exact fun h => hne (Option.some.inj h)

theorem Phase.step (h : s.Phase) (hs : Stepped s e s') (hC : s.StartsPermitted e) : s'.Phase := by
  cases hs with
  | onStartCommand =>
    apply run_phase h (hC (.inl rfl))
    · intro t ht
      rw [Option.mem_def] at ht
      rw [ht]
      exact ⟨rfl, rfl⟩
    · intro hnone
      rw [hnone]
      rfl
  | tick hservice =>
    apply run_phase h (hC (.inr rfl))
    · intro t ht
      rw [Option.mem_def, hservice, Option.some.injEq] at ht
      rw [ht]
      exact ⟨rfl, rfl⟩
    · intro hnone
      rw [hservice] at hnone
      cases hnone
  | onLocationChanged hservice hp =>
    obtain ⟨hperm, hstarted⟩ := h.called hservice hp
    rw [onLocationChanged]
    split
    · exact stopListening_phase hperm hstarted
    · exact h
  | onProviderDisabled hservice hp =>
    obtain ⟨hperm, hstarted⟩ := h.called hservice hp
    exact stopListening_phase hperm hstarted
  | onDestroy => exact .idle rfl fun t ht => by cases ht
  | granted =>
    cases h with
    | idle hrun hservice => exact .idle hrun hservice
    | listening service ps hs hrun hstarted hreg hperm =>
      exact .listening service ps hs hrun hstarted hreg fun _ => rfl
  | allProviders =>
    cases h with
    | idle hrun hservice => exact .idle hrun hservice
    | listening service ps hs hrun hstarted hreg hperm =>
      exact .listening service ps hs hrun hstarted hreg hperm

/-- The task ends with the flag set. -/
theorem run_isRunning (s : LocationUpdates) (service : LocationUpdaterService) :
    (s.run service).isRunning := by
  rw [run]
  split
  · assumption
  · rfl

theorem Phase.listens (h : s'.Phase) (hs : Stepped s e s') : Listens s e s' := by
  refine ⟨h.consistent, ?_⟩
  rintro rfl -
  apply h.consistent.1
  cases hs
  exact run_isRunning _ _

/-- Without a permission the flag is set all the same. -/
theorem startListening_consistent (hr : service.registered = [])
    (h : (s.startListening service).Consistent) : s.permitted ∨ s.existing = [] := by
  by_cases hp : s.permitted
  · exact .inl hp
  · refine .inr (List.eq_nil_iff_forall_not_mem.2 fun p hmem => ?_)
    obtain ⟨ps, hps, hall⟩ := (registered_iff rfl).1 (h.1 rfl)
    cases hps
    have hreg := hall p hmem
    simp only [hp, Bool.false_eq_true, ↓reduceIte, hr] at hreg
    cases hreg

theorem Phase.startsPermitted (h : s.Phase) (hs : Stepped s e s')
    (hconsistent : s'.Consistent) : s.StartsPermitted e := by
  intro he hrun
  cases h with
  | listening service ps hservice hrun' => exact absurd hrun' hrun
  | idle hrun' hservice =>
    rcases he with rfl | rfl
    · cases hs
      simp only [run, hrun', Bool.false_eq_true, ↓reduceIte] at hconsistent
      apply startListening_consistent ?_ hconsistent
      cases ht : s.service with
      | none => rfl
      | some t => exact (hservice t ht).1
    · cases hs with
      | @tick t ht =>
        simp only [run, hrun', Bool.false_eq_true, ↓reduceIte] at hconsistent
        have hr : { t with posted := t.posted - 1 + 1 }.registered = [] := (hservice t ht).1
        exact startListening_consistent hr hconsistent

/-- The flag says that the listener is registered, and a tick registers it, exactly as long as
listening is started only with a permission or where there is no provider. -/
theorem listening_consistent (permitted : Bool) (allProviders : List String)
    (es : List ServiceEvent) :
    Each step Listens (launched permitted allProviders) es ↔
      Along step StartsPermitted (launched permitted allProviders) es := by
  apply each_iff Phase
  · intro s e s' h hs hC
    have h' := h.step (step_stepped hs) hC
    exact ⟨h'.listens (step_stepped hs), h'⟩
  · exact fun s e s' h hs hQ => h.startsPermitted (step_stepped hs) hQ.1
  · exact .idle rfl fun t ht => by cases ht

/-- The service is started before the permission is granted. -/
theorem running_unregistered :
    ¬∀ (permitted : Bool) (allProviders : List String) (es : List ServiceEvent),
      Always step Consistent (launched permitted allProviders) es := by
  intro h
  have hrun := h false [GPS_PROVIDER] [.onStartCommand]
  exact absurd hrun (by decide +kernel)

theorem run_previous (s : LocationUpdates) (service : LocationUpdaterService) :
    (s.run service).previousBestLocation = service.previousBestLocation := by
  rw [run]
  split
  · rfl
  · rfl

theorem Stepped.previous (hs : Stepped s e s') (fs : List Location)
    (h : s.previousBestLocation = keptAfter floatMinus none fs) :
    s'.previousBestLocation = keptAfter floatMinus none (delivered fs e) := by
  cases hs with
  | onStartCommand =>
    refine (run_previous s _).trans (Eq.trans ?_ h)
    rw [previousBestLocation]
    cases s.service with
    | none => rfl
    | some service => rfl
  | tick hservice =>
    refine (run_previous s _).trans (Eq.trans ?_ h)
    rw [previousBestLocation, hservice, Option.bind_some]
  | @onLocationChanged service p f hservice =>
    rw [previousBestLocation, hservice, Option.bind_some] at h
    have hkept : keptAfter floatMinus none (fs ++ [f]) =
        kept floatMinus service.previousBestLocation f := by
      rw [h]
      exact List.foldl_append
    rw [delivered, hkept, kept, LocationUpdates.onLocationChanged]
    split
    · rfl
    · rw [previousBestLocation, hservice, Option.bind_some]
  | onProviderDisabled hservice =>
    refine Eq.trans ?_ h
    rw [previousBestLocation, previousBestLocation, hservice, Option.bind_some]
    rfl
  | onDestroy => rfl
  | granted => exact h
  | allProviders => exact h

/-- The service keeps what the deliveries since its creation leave. -/
theorem previous_keptAfter (permitted : Bool) (allProviders : List String)
    (es : List ServiceEvent) :
    Always (withHistory step)
      (fun s => s.1.previousBestLocation = keptAfter floatMinus none (s.2.foldl delivered []))
      (launched permitted allProviders, []) es := by
  apply always_of_invariant
    (fun s => s.1.previousBestLocation = keptAfter floatMinus none (s.2.foldl delivered []))
  · exact fun s h => h
  · intro s e s' h hs
    obtain ⟨hstep, hhist⟩ := withHistory_some hs
    rw [hhist, List.foldl_append, List.foldl_cons, List.foldl_nil]
    exact (step_stepped hstep).previous _ h
  · rfl

end LocationUpdates

end CrowdTracking
