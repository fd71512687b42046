import Mathlib.Data.Fintype.Basic
import Mathlib.Logic.Function.Basic
import CrowdTracking.Device

namespace CrowdTracking
set_option autoImplicit true
open Database Runs

/-- Any number of devices on one database. `before` are the crowds that devices had registered when
the run began, `drawn` those registered since. -/
structure Fleet (ι : Type u) where
  devices : ι → Device
  database : Json
  before : List (ι × String)
  drawn : List (ι × String)

namespace Fleet

variable {ι : Type u}

/-- The devices have just been launched; the database and its registrations are arbitrary. -/
def start (granted : ι → Bool × Bool × Bool) (database : Json) (before : List (ι × String)) :
    Fleet ι :=
  { devices := fun i => .launched (granted i).1 (granted i).2.1 (granted i).2.2
    database := database
    before := before
    drawn := [] }

def registration (e : ι × DeviceEvent) : List (ι × String) :=
  e.2.verified.toList.map fun crowd_id => (e.1, crowd_id)

def draws (es : List (ι × DeviceEvent)) : List (ι × String) := es.flatMap registration

def step [DecidableEq ι] (s : Fleet ι) (e : ι × DeviceEvent) : Option (Fleet ι) :=
  ((s.devices e.1).step e.2).map fun (d, writes) =>
    { s with
      devices := Function.update s.devices e.1 d
      database := writes.foldl (fun t w => w.apply t) s.database
      drawn := s.drawn ++ registration e }

def writes (s : Fleet ι) (e : ι × DeviceEvent) : List Write :=
  (((s.devices e.1).step e.2).map Prod.snd).getD []

/-- No device writes to a node that another device has registered, and the nodes that the active
devices write to differ. -/
def Apart (s : Fleet ι) (e : ι × DeviceEvent) (s' : Fleet ι) : Prop :=
  (∀ w ∈ s.writes e, ∀ r ∈ s.before ++ s.drawn, r.1 ≠ e.1 → w.path ≠ crowdPath r.2) ∧
    ∀ i j, i ≠ j → ∀ c ∈ (s'.devices i).publishes, c ∉ (s'.devices j).publishes

instance [DecidableEq ι] [Fintype ι] (s : Fleet ι) (e : ι × DeviceEvent) (s' : Fleet ι) :
    Decidable (Apart s e s') :=
  inferInstanceAs (Decidable (_ ∧ _))

/-- No device draws a crowd id that another one has registered or draws too. -/
def Distinct (s : Fleet ι) (es : List (ι × DeviceEvent)) : Prop :=
  ∀ r ∈ s.drawn ++ draws es, ∀ q ∈ s.before ++ (s.drawn ++ draws es), r.1 ≠ q.1 → r.2 ≠ q.2

instance [DecidableEq ι] (s : Fleet ι) (es : List (ι × DeviceEvent)) :
    Decidable (Distinct s es) :=
  inferInstanceAs (Decidable (∀ r ∈ _, _))

end Fleet

namespace Device

structure Owns (P : String → Prop) (d : Device) : Prop where
  session : ∀ c, d.phone.tafweej.crowd_id = some c → P c
  mains : ∀ a ∈ d.mains, P a.child

theorem Owns.mono {d : Device} (h : Owns P d) (hPQ : ∀ c, P c → Q c) : Owns Q d :=
  ⟨fun c hc => hPQ c (h.session c hc), fun a ha => hPQ a.child (h.mains a ha)⟩

theorem Owns.publishes {d : Device} (h : Owns P d) (hc : c ∈ d.publishes) : P c := by
  obtain ⟨l, -, a, ha, rfl⟩ := mem_publishes.1 hc
  exact h.mains a (List.mem_of_getElem? ha)

/-- A device owns the crowds it owned and the one it draws, and writes to them only. -/
theorem Owns.step {d d' : Device} (h : Owns P d) (hs : Stepped d e d' ws)
    (hPQ : ∀ c, P c → Q c) (hdrawn : ∀ c, e.verified = some c → Q c) :
    Owns Q d' ∧ ∀ w ∈ ws, ∃ c, Q c ∧ w.path = crowdPath c := by
  have hQ := h.mono hPQ
  cases hs with
  | created hi hc =>
    refine ⟨⟨hQ.session, ?_⟩, nofun⟩
    intro b hb
    rcases List.mem_append.1 hb with hb | hb
    · exact hQ.mains b hb
    · rw [List.mem_singleton] at hb
      rw [hb]
      exact hQ.session _ hc
  | verified htop =>
    rename_i draw
    have hc : Q draw.crowd_id := hdrawn _ rfl
    refine ⟨⟨?_, hQ.mains⟩, ?_⟩
    · intro c hc'
      rwa [← Option.some.inj hc']
    · intro w hw
      rw [List.mem_singleton] at hw
      exact ⟨draw.crowd_id, hc, by rw [hw]; rfl⟩
  | main htop ha hs =>
    have hown := hQ.mains _ (List.mem_of_getElem? ha)
    refine ⟨⟨?_, ?_⟩, ?_⟩
    · rw [hs.crowd_id]
      exact hQ.session
    · intro b hb
      rcases List.mem_or_eq_of_mem_set hb with hb | rfl
      · exact hQ.mains b hb
      · rwa [hs.child]
    · intro w hw
      rcases hs.writes with rfl | rfl
      · cases hw
      · rw [List.mem_singleton] at hw
        exact ⟨_, hown, by rw [hw]; rfl⟩
  | _ => exact ⟨⟨hQ.session, hQ.mains⟩, nofun⟩

theorem Stepped.verified_writes {d d' : Device} (h : Stepped d e d' ws)
    (hc : e.verified = some c) : ∃ w ∈ ws, w.path = crowdPath c := by
  cases h with
  | refused htop hn => exact absurd hc (by simp [DeviceEvent.verified, hn])
  | verified htop =>
    rw [← Option.some.inj hc]
    exact ⟨_, List.mem_singleton_self _, rfl⟩
  | _ => cases hc

theorem owns_launched (P : String → Prop) (fine coarse service : Bool) :
    Owns P (launched fine coarse service) :=
  ⟨nofun, nofun⟩

end Device

namespace Fleet

variable {ι : Type u} {s s' : Fleet ι} {e : ι × DeviceEvent}

/-- What a device holds, it has drawn in this run. -/
def Owned (s : Fleet ι) : Prop := ∀ i, (s.devices i).Owns fun c => (i, c) ∈ s.drawn

theorem mem_registration : r ∈ registration e ↔ r.1 = e.1 ∧ e.2.verified = some r.2 := by
  obtain ⟨i, c⟩ := r
  cases h : e.2.verified <;> simp [registration, h, eq_comm]

theorem crowdPath_injective (h : crowdPath c = crowdPath c') : c = c' := by
  simpa [crowdPath] using h

theorem owned_start (granted : ι → Bool × Bool × Bool) (database : Json)
    (before : List (ι × String)) : Owned (start granted database before) :=
  fun _ => Device.owns_launched _ _ _ _

theorem distinct_cons (hbefore : s'.before = s.before)
    (hdrawn : s'.drawn = s.drawn ++ registration e) :
    Distinct s (e :: es) ↔ Distinct s' es := by
  rw [Distinct, Distinct, hbefore, hdrawn, draws, List.flatMap_cons, List.append_assoc]
  rfl

variable [DecidableEq ι]

theorem step_some (h : step s e = some s') :
    ∃ d, (s.devices e.1).step e.2 = some (d, s.writes e) ∧
      s'.devices = Function.update s.devices e.1 d ∧ s'.before = s.before ∧
      s'.drawn = s.drawn ++ registration e := by
  obtain ⟨⟨d, ws⟩, hd, rfl⟩ := Option.map_eq_some_iff.1 h
  refine ⟨d, ?_, rfl, rfl, rfl⟩
  rw [writes, hd]
  rfl

/-- A step keeps what every device owns and writes to a node of the device that takes it. -/
theorem owned_step (hI : Owned s) (h : step s e = some s') :
    Owned s' ∧ ∀ w ∈ s.writes e, ∃ c, (e.1, c) ∈ s'.drawn ∧ w.path = crowdPath c := by
  obtain ⟨d, hd, hdevices, -, hdrawn⟩ := step_some h
  have hmono : ∀ i c, (i, c) ∈ s.drawn → (i, c) ∈ s'.drawn := by
    intro i c hc
    rw [hdrawn]
    exact List.mem_append_left _ hc
  have hstep := (hI e.1).step (Device.step_stepped hd) (hmono e.1) fun c hc => by
    rw [hdrawn]
    exact List.mem_append_right _ (mem_registration.2 ⟨rfl, hc⟩)
  refine ⟨?_, hstep.2⟩
  intro i
  rw [hdevices]
  by_cases hi : i = e.1
  · subst hi
    rw [Function.update_self]
    exact hstep.1
  · rw [Function.update_of_ne hi]
    exact (hI i).mono (hmono i)

theorem apart_of_distinct (hI : Owned s) (h : Distinct s es) : Each step Apart s es := by
  induction es generalizing s with
  | nil => trivial
  | cons e es ih =>
    intro s' hs
    obtain ⟨hI', hwrites⟩ := owned_step hI hs
    obtain ⟨d, -, -, hbefore, hdrawn⟩ := step_some hs
    have h' : Distinct s' es := (distinct_cons hbefore hdrawn).1 h
    refine ⟨⟨?_, ?_⟩, ih hI' h'⟩
    · intro w hw r hr hne hpath
      obtain ⟨c, hc, hwpath⟩ := hwrites w hw
      have hcr : c = r.2 := crowdPath_injective (hwpath.symm.trans hpath)
      have hr' : r ∈ s'.before ++ (s'.drawn ++ draws es) := by
        rw [hbefore, hdrawn]
        simp only [List.mem_append] at hr ⊢
        tauto
      exact h' (e.1, c) (List.mem_append_left _ hc) r hr' (Ne.symm hne) hcr
    · intro i j hij c hci hcj
      have hi := (hI' i).publishes hci
      have hj := (hI' j).publishes hcj
      exact h' (i, c) (List.mem_append_left _ hi) (j, c)
        (List.mem_append_right _ (List.mem_append_left _ hj)) hij rfl

/-- A step that keeps the devices apart draws no id of another device. -/
theorem distinct_step (h : Distinct s []) (hs : step s e = some s') (hQ : Apart s e s') :
    Distinct s' [] := by
  obtain ⟨d, hd, -, hbefore, hdrawn⟩ := step_some hs
  have hnew : ∀ r ∈ registration e, ∀ q ∈ s.before ++ s.drawn, r.1 ≠ q.1 → r.2 ≠ q.2 := by
    intro r hr q hq hne heq
    obtain ⟨hri, hrc⟩ := mem_registration.1 hr
    obtain ⟨w, hw, hpath⟩ := (Device.step_stepped hd).verified_writes hrc
    exact hQ.1 w hw q hq (by rw [← hri]; exact Ne.symm hne) (by rw [hpath, heq])
  intro r hr q hq hne
  simp only [hbefore, hdrawn, draws, List.flatMap_nil, List.append_nil, List.mem_append] at hr hq
  rcases hr with hr | hr
  · rcases hq with hq | hq | hq
    · exact h r (by simpa [draws] using hr) q (List.mem_append_left _ hq) hne
    · exact h r (by simpa [draws] using hr) q
        (List.mem_append_right _ (List.mem_append_left _ hq)) hne
    · exact (hnew q hq r (List.mem_append_right _ hr) (Ne.symm hne)).symm
  · rcases hq with hq | hq | hq
    · exact hnew r hr q (List.mem_append_left _ hq) hne
    · exact hnew r hr q (List.mem_append_right _ hq) hne
    · exact absurd ((mem_registration.1 hr).1.trans (mem_registration.1 hq).1.symm) hne

theorem distinct_of_apart (h : Distinct s []) (hr : run step s es = some s')
    (hQ : Each step Apart s es) : Distinct s es := by
  induction es generalizing s with
  | nil => exact h
  | cons e es ih =>
    obtain ⟨t, ht, hr⟩ := Option.bind_eq_some_iff.1 hr
    obtain ⟨d, -, -, hbefore, hdrawn⟩ := step_some ht
    rw [distinct_cons hbefore hdrawn]
    exact ih (distinct_step h ht (hQ.head ht)) hr (hQ.tail ht)

/-- The devices stay apart in exactly the runs in which no device draws an id that another one has
registered before or draws too. -/
theorem apart_iff_distinct (granted : ι → Bool × Bool × Bool) (database : Json)
    (before : List (ι × String)) (es : List (ι × DeviceEvent))
    (h : run step (start granted database before) es = some s') :
    Each step Apart (start granted database before) es ↔
      Distinct (start granted database before) es :=
  ⟨distinct_of_apart (fun _ hr => by cases hr) h, apart_of_distinct (owned_start _ _ _)⟩

def session (i : ι) (draw : Draw) : List (ι × DeviceEvent) :=
  [(i, .signUp "c" "p"), (i, .onDataChange 0 Device.oneCampaign), (i, .launch),
    (i, .verify "000" draw), (i, .launch), (i, .main 0 .buttonStart)]

theorem sessions_apart :
    Distinct (start (fun _ : Bool => (true, true, true)) (.obj .empty) [])
        (session false ⟨0, 0, 0⟩ ++ session true ⟨1, 0, 0⟩) ∧
      Each step Apart (start (fun _ : Bool => (true, true, true)) (.obj .empty) [])
        (session false ⟨0, 0, 0⟩ ++ session true ⟨1, 0, 0⟩) ∧
      ((run step (start (fun _ : Bool => (true, true, true)) (.obj .empty) [])
          (session false ⟨0, 0, 0⟩ ++ session true ⟨1, 0, 0⟩)).map fun s =>
            [false, true].map fun i => (s.devices i).phone.tafweej.crowd_id) =
        some [some "A00", some "B00"] := by
  have hrun : ((run step (start (fun _ : Bool => (true, true, true)) (.obj .empty) [])
      (session false ⟨0, 0, 0⟩ ++ session true ⟨1, 0, 0⟩)).map fun s =>
        [false, true].map fun i => (s.devices i).phone.tafweej.crowd_id) =
      some [some "A00", some "B00"] := by
    decide +kernel
  obtain ⟨s, hs, -⟩ := Option.map_eq_some_iff.1 hrun
  have h : Distinct (start (fun _ : Bool => (true, true, true)) (.obj .empty) [])
      (session false ⟨0, 0, 0⟩ ++ session true ⟨1, 0, 0⟩) := by
    decide +kernel
  exact ⟨h, (apart_iff_distinct _ _ _ _ hs).2 h, hrun⟩

/-- Two devices that draw one id share its node. -/
theorem session_shared :
    ¬Each step Apart (start (fun _ : Bool => (true, true, true)) (.obj .empty) [])
      (session false ⟨0, 0, 0⟩ ++ session true ⟨0, 0, 0⟩) := by
  decide +kernel

end Fleet

end CrowdTracking
