import CrowdTracking.Session

namespace CrowdTracking
set_option autoImplicit true
open Runs

namespace MainActivity

/-- The buttons tell whether the position is shared: one listener while Stop is visible, none while
Start is. -/
def Sharing (a : MainActivity) (p : Phone) : Prop :=
  (a.stopVisible → p.registered.length = 1) ∧ (a.startVisible → p.registered = [])

instance (a : MainActivity) (p : Phone) : Decidable (Sharing a p) :=
  inferInstanceAs (Decidable (_ ∧ _))

/-- Whether the guide has pressed Stop and not started again; a granted permission starts too. -/
def afterStop (b : Bool) (e : MainEvent) : Bool := e = .buttonStop || (b && !e.starts)

def stopped (hist : List MainEvent) : Bool := hist.foldl afterStop false

/-- No provider is disabled, and the granted permission comes while Start is visible. -/
def KeepsSharing (a : MainActivity) (p : Phone) : MainEvent → Prop
  | .onProviderDisabled _ => False
  | .onRequestPermissionsResult grantResults =>
    grantResults.head? = some true ∧ p.fineGranted → a.startVisible
  | _ => True

instance : Decidable (KeepsSharing a p e) :=
  match e with
  | .onProviderDisabled _ => isFalse id
  | .onRequestPermissionsResult _ => inferInstanceAs (Decidable (_ → _))
  | .onProgressChanged _ | .buttonStart | .buttonStop | .permissions .. | .onLocationChanged ..
  | .onProviderEnabled _ => isTrue trivial

/-- The listener that the screen holds is the only one registered, and only while Stop is
visible. -/
structure Listening (a : MainActivity) (p : Phone) (hist : List MainEvent) : Prop where
  visible : a.stopVisible = !a.startVisible
  off : a.startVisible → p.registered = []
  on : a.stopVisible → ∃ l, p.registered = [l] ∧ a.locationListener = some l
  quiet : stopped hist → a.startVisible

variable {a a' : MainActivity} {p p' : Phone} {e : MainEvent} {hist : List MainEvent}

theorem stopped_append (hist : List MainEvent) (e : MainEvent) :
    stopped (hist ++ [e]) = afterStop (stopped hist) e := by
  rw [stopped, List.foldl_append]
  rfl

theorem afterStop_iff : afterStop b e ↔ e = .buttonStop ∨ (b ∧ e.starts = false) := by
  simp [afterStop]

theorem Listening.sharing (h : Listening a p hist) : Sharing a p := by
  refine ⟨?_, h.off⟩
  intro hstop
  obtain ⟨l, hl, -⟩ := h.on hstop
  rw [hl]
  rfl

theorem Listening.not_stopped (h : Listening a p hist) (hl : l ∈ p.registered) :
    ¬stopped hist := by
  intro hstopped
  rw [h.off (h.quiet hstopped)] at hl
  cases hl

theorem Listening.step (hI : Listening a p hist) (h : a.Stepped p e a' p' ws)
    (hC : KeepsSharing a p e) : Listening a' p' (hist ++ [e]) := by
  have hquiet : e ≠ .buttonStop → stopped (hist ++ [e]) → a.startVisible := by
    intro hne hstopped
    rw [stopped_append, afterStop_iff] at hstopped
    exact hI.quiet (hstopped.resolve_left hne).1
  cases h with
  | idle n fine coarse hf hl hfix hdis hstop hs => exact ⟨hI.visible, hI.off, hI.on, hquiet hstop⟩
  | started hs hfine hvis hservice =>
    have hstart : a.startVisible := by
      cases e with
      | buttonStart => exact hvis rfl
      | onRequestPermissionsResult grantResults =>
        exact hC ⟨of_decide_eq_true hs, hfine⟩
      | _ => cases hs
    refine ⟨rfl, nofun, fun _ => ⟨_, by rw [hI.off hstart, List.nil_append], rfl⟩, ?_⟩
    intro hstopped
    rw [stopped_append, afterStop_iff] at hstopped
    rcases hstopped with rfl | ⟨-, hne⟩
    · cases hs
    · rw [hne] at hs
      cases hs
  | located he hl hown => exact ⟨hI.visible, hI.off, hI.on, hquiet (by rw [he]; nofun)⟩
  | disabled he hl hown =>
    subst he
    exact hC.elim
  | stopped he hvis hl =>
    obtain ⟨l', hreg, hl'⟩ := hI.on hvis
    obtain rfl := Option.some.inj (hl.symm.trans hl')
    exact ⟨rfl, fun _ => by simp [hreg], nofun, fun _ => rfl⟩

/-- Between Stop and the next Start no listener is called back and nothing is written. -/
theorem Listening.silent (hI : Listening a p hist) (h : a.Stepped p e a' p' ws)
    (hstopped : stopped hist) : e.listener = none ∧ ws = [] := by
  cases h with
  | idle n fine coarse hf hl hfix hdis hstop hs =>
    refine ⟨?_, rfl⟩
    cases hlis : e.listener with
    | none => rfl
    | some l => exact absurd hstopped (hI.not_stopped (hl l hlis).1)
  | started hs hfine hvis hservice => exact ⟨listener_of_starts hs, rfl⟩
  | located he hl hown => exact absurd hstopped (hI.not_stopped hl)
  | disabled he hl hown => exact absurd hstopped (hI.not_stopped hl)
  | stopped he hvis hl =>
    have hstart := hI.quiet hstopped
    rw [hI.visible, hstart] at hvis
    cases hvis

/-- The two events that break sharing: Start shown over a registered listener, and a second
listener registered. -/
theorem Listening.keepsSharing (hI : Listening a p hist) (h : a.Stepped p e a' p' ws)
    (hQ : Sharing a' p') : KeepsSharing a p e := by
  obtain ⟨hone, hnone⟩ := hQ
  cases h with
  | idle n fine coarse hf hl hfix hdis hstop hs =>
    cases e with
    | onProviderDisabled l => exact absurd rfl (hdis l)
    | onRequestPermissionsResult grantResults =>
      rintro ⟨hg, hfine⟩
      rw [hs (by simpa [MainEvent.starts] using hg)] at hfine
      cases hfine
    | _ => trivial
  | started hs hfine hvis hservice =>
    cases e with
    | onRequestPermissionsResult grantResults =>
      rintro -
      by_contra hoff
      have hvis : a.stopVisible := by
        rw [hI.visible]
        simpa using hoff
      obtain ⟨l, hreg, -⟩ := hI.on hvis
      have htwo := hone rfl
      rw [hreg] at htwo
      cases htwo
    | buttonStart => trivial
    | _ => cases hs
  | located he hl hown =>
    subst he
    trivial
  | disabled he hl hown =>
    rw [hnone rfl] at hl
    cases hl
  | stopped he hvis hl =>
    subst he
    trivial

end MainActivity

namespace Session

open MainActivity

/-- After the step the buttons are right, and a step between Stop and the next Start is no callback
of a listener and writes nothing. -/
def RespectsStop (s : Session × List MainEvent) (e : MainEvent) (s' : Session × List MainEvent) :
    Prop :=
  Sharing s'.1.activity s'.1.phone ∧ (stopped s.2 → e.listener = none ∧ s'.1.log = s.1.log)

instance : Decidable (RespectsStop s e s') := inferInstanceAs (Decidable (_ ∧ _))

theorem listening_start (fine coarse service : Bool) (u : SignUp) (draw : Draw) (t : Json) :
    Listening (start fine coarse service u draw t).activity
      (start fine coarse service u draw t).phone [] :=
  ⟨rfl, fun _ => rfl, nofun, fun _ => rfl⟩

/-- The buttons and the registered listeners agree, and Stop is respected, in exactly the runs in
which no provider is disabled and a granted permission comes while Start is visible. -/
theorem sharing_invariant (fine coarse service : Bool) (u : SignUp) (draw : Draw) (t : Json)
    (es : List MainEvent) :
    (Sharing (start fine coarse service u draw t).activity
          (start fine coarse service u draw t).phone ∧
        Each (withHistory step) RespectsStop (start fine coarse service u draw t, []) es) ↔
      Along (withHistory step) (fun s e => KeepsSharing s.1.activity s.1.phone e)
        (start fine coarse service u draw t, []) es := by
  have hI := listening_start fine coarse service u draw t
  have hiff : Each (withHistory step) RespectsStop (start fine coarse service u draw t, []) es ↔
      Each (withHistory step) (fun s e _ => KeepsSharing s.1.activity s.1.phone e)
        (start fine coarse service u draw t, []) es := by
    refine each_iff (fun s => Listening s.1.activity s.1.phone s.2) ?_ ?_ hI
    · intro s e s' hI hs hC
      obtain ⟨hs, hhist⟩ := withHistory_some hs
      obtain ⟨ws, hstep, hlog, -⟩ := step_stepped hs
      have hI' := hI.step hstep hC
      rw [← hhist] at hI'
      refine ⟨⟨hI'.sharing, fun hstopped => ?_⟩, hI'⟩
      obtain ⟨hlis, rfl⟩ := hI.silent hstep hstopped
      exact ⟨hlis, by rw [hlog, List.append_nil]⟩
    · intro s e s' hI hs hQ
      obtain ⟨ws, hstep, -⟩ := step_stepped (withHistory_some hs).1
      exact hI.keepsSharing hstep hQ.1
  exact ⟨fun hQ => hiff.1 hQ.2, fun hC => ⟨hI.sharing, hiff.2 hC⟩⟩

/-- A disabled provider shows Start again: the first listener stays registered and publishes the
position after Stop. -/
theorem shared_after_stop :
    ¬(Sharing (start true true true ⟨"c", "p"⟩ ⟨0, 0, 0⟩ (.obj .empty)).activity
          (start true true true ⟨"c", "p"⟩ ⟨0, 0, 0⟩ (.obj .empty)).phone ∧
      Each (withHistory step) RespectsStop
        (start true true true ⟨"c", "p"⟩ ⟨0, 0, 0⟩ (.obj .empty), [])
        [.buttonStart, .onProviderDisabled ⟨0, 0⟩, .buttonStart, .buttonStop,
          .onLocationChanged ⟨0, 0⟩ 21 39]) := by
  decide +kernel

end Session

end CrowdTracking
