import CrowdTracking.Campaign
import CrowdTracking.Runs

namespace CrowdTracking
set_option autoImplicit true
open Database Runs

/-- The home screen, whether it is shown, and the client's view of the database. -/
structure HomeScreen where
  shown : Bool
  home : HomeVC
  database : Json
deriving DecidableEq

/-- A press or a callback, or a snapshot of the crowd's node that is a dictionary. -/
inductive HomeEvent where
  | client (e : ClientEvent)
  | snapshot (data : Record Json)
deriving DecidableEq

namespace HomeScreen

/-- `didFinishLaunchingWithOptions`: the screen is the root for a signed-in user. -/
def launched (signedIn : Bool) (saved : Option Model.Campaign) (database : Json) : HomeScreen :=
  let campaign := (saved.map Model.Campaign.encode).bind Model.Campaign.decode
  { shown := signedIn
    home :=
      { campaign := campaign.map Model.Campaign.toCampaign, currentLocation := none,
        numberOfCrowd := none, startEnabled := true, stopEnabled := false,
        statusLabel := "Disconnected" }
    database := database }

/-- The value stored at a child of the crowd's node. -/
def stored (s : HomeScreen) (c : String) : Option Json :=
  s.home.crowd_id.bind fun k => getAt (crowdPath k ++ [c]) s.database

/-- Without a crowd id nothing is observed. -/
def step (distance : CLLocation → CLLocation → Rat) (s : HomeScreen) :
    HomeEvent → Option HomeScreen
  | .client e =>
    if s.shown ∧ e ≠ .observed then
      (s.home.step distance (.obj .empty) e).map fun (home, writes) =>
        { s with home := home, database := writes.foldl (fun t w => w.apply t) s.database }
    else none
  | .snapshot data =>
    if s.shown then s.home.crowd_id.map fun k =>
      { s with
        home := s.home.checkStatus (.obj data)
        database := setAt (crowdPath k) (.obj data) s.database }
    else none

/-- The label says Connected only with a crowd id whose node is Active. -/
def Connected (s : HomeScreen) : Prop :=
  s.shown → s.home.statusLabel = "Connected" → s.stored "status" = some (.str "Active")

instance : DecidablePred Connected := fun _ => inferInstanceAs (Decidable (_ → _))

/-- Start is pressed only with a campaign whose crowd id is not empty. -/
def StartsWithCrowd (s : HomeScreen) (e : HomeEvent) : Prop :=
  e = .client .startBtnHandler → s.home.crowd_id.isSome

variable {distance : CLLocation → CLLocation → Rat} {s s' : HomeScreen} {h h' home : HomeVC}
  {e : ClientEvent} {ws : List Write}

/-- Only Start, Stop and a snapshot set the label. -/
theorem step_statusLabel (hs : h.step distance node e = some (h', ws))
    (hc : e.child ≠ some "status") (hobs : e ≠ .observed) :
    h'.statusLabel = h.statusLabel := by
  rcases HomeVC.step_home hs hobs with ⟨hstatus, -⟩ | ⟨-, label, rfl⟩ | ⟨-, l, rfl⟩
  · exact absurd hstatus hc
  · rfl
  · rfl

theorem foldl_other (hws : ∀ w ∈ ws, HomeVC.Writes k e w) (hc : e.child ≠ some c)
    (t : Json) :
    getAt (crowdPath k ++ [c]) (ws.foldl (fun t w => w.apply t) t) =
      getAt (crowdPath k ++ [c]) t := by
  induction ws generalizing t with
  | nil => rfl
  | cons w ws ih =>
    rw [List.foldl_cons, ih fun w hw => hws w (List.mem_cons_of_mem _ hw),
      (hws w List.mem_cons_self).other hc]

theorem stored_eq (hk : s.home.crowd_id = some k) (c : String) :
    s.stored c = getAt (crowdPath k ++ [c]) s.database := by
  rw [stored, hk, Option.bind_some]

theorem Connected.client (h : Connected s)
    (hs : s.home.step distance (.obj .empty) e = some (home, ws)) (hobs : e ≠ .observed)
    (hC : StartsWithCrowd s (.client e)) :
    Connected { s with
      home := home, database := ws.foldl (fun t w => w.apply t) s.database } := by
  have hid := HomeVC.step_crowd_id hs
  intro hshown hlabel
  by_cases hstop : e = .stopBtnHandler
  · subst hstop
    obtain ⟨-, hs⟩ := Option.ite_none_right_eq_some.1 hs
    cases hs
    exact absurd hlabel (by simp [HomeVC.toggleStatus])
  by_cases hstart : e = .startBtnHandler
  · subst hstart
    obtain ⟨k, hk⟩ := Option.isSome_iff_exists.1 (hC rfl)
    obtain ⟨-, hs⟩ := Option.ite_none_right_eq_some.1 hs
    rw [HomeVC.startBtnHandler, HomeVC.setStatus_eq hk, Option.some.injEq, Prod.mk.injEq] at hs
    obtain ⟨-, rfl⟩ := hs
    rw [stored_eq (hid.trans hk)]
    exact getAt_setAt_self _ _ _
  · have hc : e.child ≠ some "status" := fun h =>
      (HomeVC.child_status.1 h).elim hstart hstop
    rw [step_statusLabel hs hc hobs] at hlabel
    have hactive := h hshown hlabel
    cases hk : s.home.crowd_id with
    | none =>
      rw [stored, hk] at hactive
      cases hactive
    | some k =>
      have hws := HomeVC.writes_of_crowd_id hk hs
      rw [stored_eq (hid.trans hk), foldl_other hws hc, ← stored_eq hk]
      exact hactive

theorem checkStatus_eq (hk : h.crowd_id = some k) (data : Record Json) :
    (h.checkStatus (.obj data)).crowd_id = some k ∧
      (h.checkStatus (.obj data)).statusLabel =
        if data.get "status" = some (.str "Active") then "Connected" else "Disconnected" := by
  refine ⟨(HomeVC.checkStatus_crowd_id h _).trans hk, ?_⟩
  simp only [HomeVC.checkStatus, hk, HomeVC.toggleStatus, decide_eq_true_eq]

theorem connected_snapshot (s : HomeScreen) (hk : s.home.crowd_id = some k)
    (data : Record Json) :
    Connected { s with
      home := s.home.checkStatus (.obj data)
      database := setAt (crowdPath k) (.obj data) s.database } := by
  intro _ hlabel
  obtain ⟨hid, hstatus⟩ := checkStatus_eq hk data
  rw [hstatus] at hlabel
  rw [stored_eq hid, getAt_append, getAt_setAt_self, Option.bind_some]
  split at hlabel
  · rename_i hactive
    rw [getAt, Json.child_obj, hactive]
    rfl
  · exact absurd hlabel (by decide)

theorem Connected.step {e : HomeEvent} (h : Connected s) (hs : s.step distance e = some s')
    (hC : StartsWithCrowd s e) : Connected s' := by
  cases e with
  | client e =>
    obtain ⟨⟨-, hobs⟩, hs⟩ := Option.ite_none_right_eq_some.1 hs
    obtain ⟨⟨home, ws⟩, hstep, rfl⟩ := Option.map_eq_some_iff.1 hs
    exact h.client hstep hobs hC
  | snapshot data =>
    obtain ⟨-, hs⟩ := Option.ite_none_right_eq_some.1 hs
    obtain ⟨k, hk, rfl⟩ := Option.map_eq_some_iff.1 hs
    exact connected_snapshot s hk data

/-- Start sets the label before it looks for the crowd id. -/
theorem startsWithCrowd_of_connected {e : HomeEvent} (hs : s.step distance e = some s')
    (h : Connected s') : StartsWithCrowd s e := by
  rintro rfl
  obtain ⟨⟨hshown, -⟩, hs⟩ := Option.ite_none_right_eq_some.1 hs
  obtain ⟨⟨home, ws⟩, hstep, rfl⟩ := Option.map_eq_some_iff.1 hs
  have hid := HomeVC.step_crowd_id hstep
  obtain ⟨-, hstep⟩ := Option.ite_none_right_eq_some.1 hstep
  cases hstep
  obtain ⟨k, hk, -⟩ := Option.bind_eq_some_iff.1 (h hshown rfl)
  rw [← hid]
  exact Option.isSome_of_eq_some hk

/-- The label is right exactly as long as Start is not pressed without a crowd id. -/
theorem connected_active (distance : CLLocation → CLLocation → Rat) (signedIn : Bool)
    (saved : Option Model.Campaign) (database : Json) (es : List HomeEvent) :
    Always (step distance) Connected (launched signedIn saved database) es ↔
      Along (step distance) StartsWithCrowd (launched signedIn saved database) es := by
  apply always_iff_along Connected
  · exact fun _ h => h
  · exact fun s e s' h hs hC => h.step hs hC
  · exact fun s e s' h hs hP => startsWithCrowd_of_connected hs hP
  · intro _ hlabel
    exact absurd hlabel (by simp [launched])

/-- A signed-in user without a saved campaign presses Start. -/
theorem connected_without_campaign :
    ¬∀ (distance : CLLocation → CLLocation → Rat) (signedIn : Bool)
      (saved : Option Model.Campaign) (database : Json) (es : List HomeEvent),
      Always (step distance) Connected (launched signedIn saved database) es := by
  intro h
  have hrun := h (fun _ _ => 0) true none (.obj .empty) [.client .startBtnHandler]
  exact absurd hrun (by decide +kernel)

end HomeScreen

end CrowdTracking
