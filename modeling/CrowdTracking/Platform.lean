import Mathlib.Logic.Function.Basic
import CrowdTracking.AndroidTracking

namespace CrowdTracking
set_option autoImplicit true
open Script Database Runs

namespace Watched

/-- A write reaches the database and raises its events for a mounted marker. -/
def publish (s : Watched) (w : Write) : Watched :=
  let session := { s.session with database := w.apply s.session.database }
  { s with
    session := session
    pending :=
      if s.marker.isSome then
        s.pending ++ (changedChildren s.session.node session.node).map Prod.snd
      else s.pending }

end Watched

/-- A guide with its view of the database and the marker of its node: an iOS client or an Android
session. -/
inductive GuideApp where
  | ios (s : Tracking)
  | android (s : Watched)
deriving DecidableEq

inductive GuideEvent where
  | ios (e : TrackingEvent)
  | android (e : WatchEvent)
deriving DecidableEq

def GuideEvent.tracking : GuideEvent → Option TrackingEvent
  | .ios e => some e
  | .android _ => none

def GuideEvent.watching : GuideEvent → Option WatchEvent
  | .ios _ => none
  | .android e => some e

namespace GuideApp

/-- The name of the guide's node. -/
def key : GuideApp → String
  | .ios s => s.key
  | .android s => s.session.activity.child

def marker : GuideApp → Option MyMarker
  | .ios s => s.marker
  | .android s => s.marker

def database : GuideApp → Json
  | .ios s => s.database
  | .android s => s.session.database

def publish : GuideApp → Write → GuideApp
  | .ios s, w => .ios (s.publish w)
  | .android s, w => .android (s.publish w)

/-- What an event does before its writes reach the database, and the writes. -/
def act (distance : CLLocation → CLLocation → Rat) (degrees : Number → Number → Number) :
    GuideApp → GuideEvent → Option (GuideApp × List Write)
  | .ios s, .ios (.client e) => (s.home.step distance s.node e).map fun (home, writes) =>
      (.ios { s with home := home }, writes)
  | .ios s, .ios e => (s.step distance degrees e).map fun s => (.ios s, [])
  | .android s, .android (.client e) =>
      (s.session.activity.step s.session.phone e).map fun (activity, phone, writes) =>
        (.android { s with session :=
          { s.session with activity := activity, phone := phone, log := s.session.log ++ writes } },
          writes)
  | .android s, .android e => (s.step degrees e).map fun s => (.android s, [])
  | _, _ => none

/-- A guide that has the database to itself. -/
def step (distance : CLLocation → CLLocation → Rat) (degrees : Number → Number → Number)
    (g : GuideApp) (e : GuideEvent) : Option GuideApp :=
  (g.act distance degrees e).map fun (g, writes) => writes.foldl publish g

def withDatabase : GuideApp → Json → GuideApp
  | .ios s, t => .ios { s with database := t }
  | .android s, t => .android { s with session := { s.session with database := t } }

/-- Two views that differ outside of the guide's node alone. -/
def Alike (g u : GuideApp) : Prop :=
  ∃ t, u = g.withDatabase t ∧ getAt (crowdPath g.key) t = getAt (crowdPath g.key) g.database

/-- An iOS client writes to the node that it is tracked by. -/
def Signed : GuideApp → Prop
  | .ios s => s.Signed
  | .android _ => True

/-- The guide has just registered its node, and the map does not show it yet. -/
def Registered : GuideApp → Prop
  | .ios s => ∃ first uid t, Alike (.ios (.registeredAt first uid s.key t)) (.ios s)
  | .android s => ∃ fine coarse service u draw t,
      Alike (.android (.registered (.start fine coarse service u draw t))) (.android s)

/-- The marker is drawn at positions alone that the guide has reported in its events. -/
def DrawnReported (hist : List GuideEvent) : GuideApp → Prop
  | .ios s => OnlyReported (Tracking.positions (hist.filterMap GuideEvent.tracking)) s.marker
  | .android s => OnlyReported (Watched.positions (hist.filterMap GuideEvent.watching)) s.marker

/-- An Android marker is mounted only after the first fix, or while its node has no location. -/
def MountsReported (hist : List GuideEvent) : GuideApp → GuideEvent → Prop
  | .android s, .android e => Watched.MountsReported (s, hist.filterMap GuideEvent.watching) e
  | _, _ => True

instance (hist : List GuideEvent) (g : GuideApp) (e : GuideEvent) :
    Decidable (MountsReported hist g e) :=
  match g, e with
  | .android s, .android e =>
    inferInstanceAs (Decidable (Watched.MountsReported (s, hist.filterMap GuideEvent.watching) e))
  | .ios _, _ | .android _, .ios _ => isTrue trivial

/-- What the marker takes has been reported by the guide. -/
def Sound (hist : List GuideEvent) : GuideApp → Prop
  | .ios s => Tracking.Tracked (s, hist.filterMap GuideEvent.tracking)
  | .android s => Watched.Watching (s, hist.filterMap GuideEvent.watching)

/-- The ways an event acts: on the client, or on the marker alone. -/
inductive Acted (distance : CLLocation → CLLocation → Rat) (degrees : Number → Number → Number) :
    GuideApp → GuideEvent → GuideApp → List Write → Prop where
  | ios (hs : s.home.step distance s.node c = some (home, ws)) :
      Acted distance degrees (.ios s) (.ios (.client c)) (.ios { s with home := home }) ws
  | android (hs : s.session.activity.step s.session.phone c = some (activity, phone, ws)) :
      Acted distance degrees (.android s) (.android (.client c))
        (.android { s with session :=
          { s.session with activity := activity, phone := phone, log := s.session.log ++ ws } }) ws
  | tracked (he : ∀ c, e ≠ .client c) (hs : s.step distance degrees e = some s') :
      Acted distance degrees (.ios s) (.ios e) (.ios s') []
  | watched (he : ∀ c, e ≠ .client c) (hs : s.step degrees e = some s') :
      Acted distance degrees (.android s) (.android e) (.android s') []

variable {distance : CLLocation → CLLocation → Rat} {degrees : Number → Number → Number}
  {g g' u : GuideApp} {e : GuideEvent} {es hist : List GuideEvent} {ws : List Write}

@[simp] theorem withDatabase_key (g : GuideApp) (t : Json) : (g.withDatabase t).key = g.key := by
  cases g <;> rfl

@[simp] theorem withDatabase_database (g : GuideApp) (t : Json) :
    (g.withDatabase t).database = t := by
  cases g <;> rfl

theorem withDatabase_withDatabase (g : GuideApp) (t t' : Json) :
    (g.withDatabase t).withDatabase t' = g.withDatabase t' := by
  cases g <;> rfl

theorem withDatabase_self (g : GuideApp) : g.withDatabase g.database = g := by
  cases g <;> rfl

theorem Signed.withDatabase (h : g.Signed) (t : Json) : (g.withDatabase t).Signed := by
  cases g with
  | ios s => exact h
  | android s => trivial

theorem Alike.refl (g : GuideApp) : Alike g g := ⟨g.database, (withDatabase_self g).symm, rfl⟩

theorem Alike.symm (h : Alike g u) : Alike u g := by
  obtain ⟨t, rfl, ht⟩ := h
  refine ⟨g.database, ?_, ?_⟩
  · rw [withDatabase_withDatabase, withDatabase_self]
  · rw [withDatabase_key, withDatabase_database, ht]

theorem Alike.trans (h : Alike g u) (h' : Alike u v) : Alike g v := by
  obtain ⟨t, rfl, ht⟩ := h
  obtain ⟨t', rfl, ht'⟩ := h'
  rw [withDatabase_key, withDatabase_database] at ht'
  exact ⟨t', withDatabase_withDatabase g t t', ht'.trans ht⟩

theorem Alike.key (h : Alike g u) : u.key = g.key := by
  obtain ⟨t, rfl, -⟩ := h
  exact withDatabase_key g t

@[simp] theorem publish_key (g : GuideApp) (w : Write) : (g.publish w).key = g.key := by
  cases g <;> rfl

@[simp] theorem publish_database (g : GuideApp) (w : Write) :
    (g.publish w).database = w.apply g.database := by
  cases g <;> rfl

theorem publish_withDatabase (g : GuideApp) (w : Write)
    (ht : getAt (crowdPath g.key) t = getAt (crowdPath g.key) g.database) :
    (g.withDatabase t).publish w = (g.publish w).withDatabase (w.apply t) := by
  have hw := getAt_apply_congr (crowdPath g.key) w ht
  cases g with
  | ios s =>
    simp only [key, database] at ht hw
    simp only [withDatabase, publish, Tracking.publish, Tracking.node, ht, hw]
  | android s =>
    simp only [key, database] at ht hw
    simp only [withDatabase, publish, Watched.publish, Session.node, ht, hw]

theorem Alike.publish (h : Alike g u) (w : Write) : Alike (g.publish w) (u.publish w) := by
  obtain ⟨t, rfl, ht⟩ := h
  refine ⟨w.apply t, publish_withDatabase g w ht, ?_⟩
  rw [publish_key, publish_database]
  exact getAt_apply_congr _ w ht

/-- A write that leaves the guide's node alone reaches the database and raises no event. -/
theorem publish_unchanged (g : GuideApp) {w : Write}
    (h : getAt (crowdPath g.key) (w.apply g.database) = getAt (crowdPath g.key) g.database) :
    g.publish w = g.withDatabase (w.apply g.database) := by
  cases g with
  | ios s =>
    simp only [key, database] at h
    simp only [GuideApp.publish, withDatabase, database, Tracking.publish, Tracking.node, h,
      changedChildren_self, List.map_nil, List.append_nil, ite_self]
  | android s =>
    simp only [key, database] at h
    simp only [GuideApp.publish, withDatabase, database, Watched.publish, Session.node, h,
      changedChildren_self, List.map_nil, List.append_nil, ite_self]

/-- A write to another node leaves the view of the guide alone. -/
theorem publish_other (g : GuideApp) {w : Write} (hw : w.path = crowdPath k ++ q) (h : g.key ≠ k) :
    Alike g (g.publish w) := by
  have hnode : getAt (crowdPath g.key) (w.apply g.database) =
      getAt (crowdPath g.key) g.database :=
    getAt_apply_below (p := ["Crowd"]) (q := q) hw h g.database
  exact ⟨_, publish_unchanged g hnode, hnode⟩

/-- An event reads the guide's node alone of the database. -/
theorem act_withDatabase (e : GuideEvent)
    (ht : getAt (crowdPath g.key) t = getAt (crowdPath g.key) g.database) :
    (g.withDatabase t).act distance degrees e =
      (g.act distance degrees e).map fun p => (p.1.withDatabase t, p.2) := by
  cases g with
  | ios s =>
    cases e with
    | android e => rfl
    | ios e =>
      have ht' : getAt (crowdPath s.key) t = getAt (crowdPath s.key) s.database := ht
      cases e with
      | client e =>
        simp only [withDatabase, act, Tracking.node, ht', Option.map_map]
        rfl
      | mount index a i l n =>
        simp only [withDatabase, act, Tracking.step, Tracking.node, ht', Option.map_map]
        split <;> rfl
      | deliver n =>
        simp only [withDatabase, act, Tracking.step, Option.map_map]
        split
        · simp only [Option.map_map]
          rfl
        · rfl
      | interval | filters =>
        simp only [withDatabase, act, Tracking.step]
        cases s.marker with
        | none => rfl
        | some m =>
          simp only [Option.bind_some, Option.map_map]
          rfl
  | android s =>
    cases e with
    | ios e => rfl
    | android e =>
      have ht' : getAt (crowdPath s.session.activity.child) t =
          getAt (crowdPath s.session.activity.child) s.session.database := ht
      cases e with
      | client e =>
        simp only [withDatabase, act, Option.map_map]
        rfl
      | mount index a i l n =>
        simp only [withDatabase, act, Watched.step, Session.node, ht', Option.map_map]
        split <;> rfl
      | deliver n =>
        simp only [withDatabase, act, Watched.step, Option.map_map]
        split
        · simp only [Option.map_map]
          rfl
        · rfl
      | seen n e =>
        cases e with
        | childChanged k v => rfl
        | _ =>
          simp only [withDatabase, act, Watched.step]
          cases s.marker with
          | none => rfl
          | some m =>
            simp only [Option.bind_some, Option.map_map]
            rfl

theorem act_acted (h : g.act distance degrees e = some (g', ws)) :
    Acted distance degrees g e g' ws := by
  cases g with
  | ios s =>
    cases e with
    | android e => cases h
    | ios e =>
      cases e with
      | client c =>
        obtain ⟨⟨home, writes⟩, hs, heq⟩ := Option.map_eq_some_iff.1 h
        cases heq
        exact .ios hs
      | _ =>
        obtain ⟨s', hs, heq⟩ := Option.map_eq_some_iff.1 h
        cases heq
        exact .tracked (fun c hc => by cases hc) hs
  | android s =>
    cases e with
    | ios e => cases h
    | android e =>
      cases e with
      | client c =>
        obtain ⟨⟨activity, phone, writes⟩, hs, heq⟩ := Option.map_eq_some_iff.1 h
        cases heq
        exact .android hs
      | _ =>
        obtain ⟨s', hs, heq⟩ := Option.map_eq_some_iff.1 h
        cases heq
        exact .watched (fun c hc => by cases hc) hs

theorem tracked_frame {s s' : Tracking} {e : TrackingEvent} (he : ∀ c, e ≠ .client c)
    (hs : s.step distance degrees e = some s') :
    s'.key = s.key ∧ s'.home = s.home ∧ s'.database = s.database := by
  cases Tracking.step_moved hs with
  | client hc => exact absurd rfl (he _)
  | mount | deliver | marked => exact ⟨rfl, rfl, rfl⟩

theorem watched_frame {s s' : Watched} {e : WatchEvent} (he : ∀ c, e ≠ .client c)
    (hs : s.step degrees e = some s') : s'.session = s.session := by
  cases e with
  | client c => exact absurd rfl (he c)
  | mount =>
    obtain ⟨-, hs⟩ := Option.ite_none_right_eq_some.1 hs
    cases hs
    rfl
  | deliver =>
    simp only [Watched.step] at hs
    split at hs
    · obtain ⟨m, -, rfl⟩ := Option.map_eq_some_iff.1 hs
      rfl
    · cases hs
  | seen t e =>
    cases e with
    | childChanged => cases hs
    | _ =>
      obtain ⟨m, -, hs⟩ := Option.bind_eq_some_iff.1 hs
      obtain ⟨m', -, rfl⟩ := Option.map_eq_some_iff.1 hs
      rfl

/-- An event keeps the node and the database, until its writes arrive there. -/
theorem Acted.frame (h : Acted distance degrees g e g' ws) :
    g'.key = g.key ∧ g'.database = g.database := by
  cases h with
  | ios hs => exact ⟨rfl, rfl⟩
  | android hs => exact ⟨(MainActivity.step_stepped hs).child, rfl⟩
  | tracked he hs =>
    obtain ⟨hkey, -, hdatabase⟩ := tracked_frame he hs
    exact ⟨hkey, hdatabase⟩
  | watched he hs =>
    have hsession := watched_frame he hs
    refine ⟨?_, ?_⟩
    · rw [key, key, hsession]
    · rw [database, database, hsession]

theorem Acted.signed (h : Acted distance degrees g e g' ws) (hg : g.Signed) : g'.Signed := by
  cases h with
  | ios hs =>
    obtain ⟨uid, hcampaign⟩ := hg
    exact ⟨uid, (HomeVC.step_campaign hs).trans hcampaign⟩
  | tracked he hs => exact Tracking.Signed.step hg hs
  | android | watched => trivial

/-- A guide writes to its own node. -/
theorem Acted.writes (h : Acted distance degrees g e g' ws) (hg : g.Signed) (hw : w ∈ ws) :
    ∃ q, w.path = crowdPath g.key ++ q := by
  cases h with
  | ios hs =>
    obtain ⟨k, hk, hwrites⟩ := HomeVC.step_writes hs hw
    obtain ⟨c, -, hpath⟩ := hwrites.path
    rw [Tracking.Signed.crowd_id hg hk] at hpath
    exact ⟨[c], hpath⟩
  | android hs =>
    rcases (MainActivity.step_stepped hs).writes with rfl | rfl
    · cases hw
    · rw [List.mem_singleton] at hw
      exact ⟨[], by rw [hw, List.append_nil]; rfl⟩
  | tracked | watched => cases hw

theorem foldl_publish_key (g : GuideApp) (ws : List Write) : (ws.foldl publish g).key = g.key := by
  induction ws generalizing g with
  | nil => rfl
  | cons w ws ih => rw [List.foldl_cons, ih, publish_key]

theorem foldl_publish_database (g : GuideApp) (ws : List Write) :
    (ws.foldl publish g).database = ws.foldl (fun t w => w.apply t) g.database := by
  induction ws generalizing g with
  | nil => rfl
  | cons w ws ih => rw [List.foldl_cons, ih, publish_database, List.foldl_cons]

theorem foldl_publish_signed (hg : g.Signed) (ws : List Write) : (ws.foldl publish g).Signed := by
  induction ws generalizing g with
  | nil => exact hg
  | cons w ws ih =>
    apply ih
    cases g with
    | ios s => exact hg
    | android s => trivial

theorem Alike.foldl_publish (h : Alike g u) (ws : List Write) :
    Alike (ws.foldl GuideApp.publish g) (ws.foldl GuideApp.publish u) := by
  induction ws generalizing g u with
  | nil => exact h
  | cons w ws ih => exact ih (h.publish w)

/-- The writes of another guide leave the view of the node alone. -/
theorem foldl_publish_other (g : GuideApp) (hws : ∀ w ∈ ws, ∃ q, w.path = crowdPath k ++ q)
    (h : g.key ≠ k) : Alike g (ws.foldl publish g) := by
  induction ws generalizing g with
  | nil => exact .refl g
  | cons w ws ih =>
    obtain ⟨q, hw⟩ := hws w List.mem_cons_self
    apply (publish_other g hw h).trans
    exact ih (g.publish w) (fun w hw => hws w (List.mem_cons_of_mem _ hw))
      (by rwa [publish_key])

theorem Alike.step (h : Alike g u) (hs : g.step distance degrees e = some g') :
    ∃ u', u.step distance degrees e = some u' ∧ Alike g' u' := by
  obtain ⟨t, rfl, ht⟩ := h
  obtain ⟨⟨g₁, ws⟩, hact, rfl⟩ := Option.map_eq_some_iff.1 hs
  obtain ⟨hkey, hdatabase⟩ := (act_acted hact).frame
  have hfirst : Alike g₁ (g₁.withDatabase t) := ⟨t, rfl, by rw [hkey, hdatabase, ht]⟩
  refine ⟨ws.foldl GuideApp.publish (g₁.withDatabase t), ?_, hfirst.foldl_publish ws⟩
  rw [GuideApp.step, act_withDatabase e ht, hact]
  rfl

theorem step_key (hs : g.step distance degrees e = some g') : g'.key = g.key := by
  obtain ⟨⟨g₁, ws⟩, hact, rfl⟩ := Option.map_eq_some_iff.1 hs
  rw [foldl_publish_key, (act_acted hact).frame.1]

theorem foldl_publish_ios (s : Tracking) (ws : List Write) :
    ws.foldl publish (.ios s) = .ios (ws.foldl Tracking.publish s) := by
  induction ws generalizing s with
  | nil => rfl
  | cons w ws ih => exact ih (s.publish w)

/-- On its own, an iOS client with its marker is the tracked client. -/
theorem step_ios (s : Tracking) (e : TrackingEvent) :
    (ios s).step distance degrees (.ios e) = (s.step distance degrees e).map ios := by
  cases e with
  | client c =>
    simp only [step, act, Tracking.step, Option.map_map]
    apply Option.map_congr
    intro p _
    exact foldl_publish_ios _ _
  | _ =>
    simp only [step, act, Option.map_map]
    rfl

/-- On its own, an Android session with its marker is the watched session. -/
theorem step_android (s : Watched) (e : WatchEvent) :
    (android s).step distance degrees (.android e) = (s.step degrees e).map android := by
  cases e with
  | client c =>
    simp only [step, act, Watched.step, Session.step, Option.map_map]
    apply Option.map_congr
    rintro ⟨activity, phone, ws⟩ hs
    have hstepped := MainActivity.step_stepped hs
    have hnode (log : List Write) :
        Session.node ⟨activity, phone, s.session.database, log⟩ = s.session.node := by
      rw [Session.node, Session.node, hstepped.child]
    rcases hstepped.writes with rfl | rfl
    · simp only [Function.comp_apply, List.foldl_nil, hnode, changedChildren_self, List.map_nil,
        List.append_nil, ite_self]
    · simp only [Function.comp_apply, List.foldl_cons, List.foldl_nil, publish, Watched.publish,
        hnode]
  | _ =>
    simp only [step, act, Option.map_map]
    rfl

theorem Alike.run (h : Alike g u) (hr : run (GuideApp.step distance degrees) g es = some g') :
    ∃ u', run (GuideApp.step distance degrees) u es = some u' ∧ Alike g' u' := by
  rw [← List.flatMap_singleton' es]
  refine run_simulated Alike (fun e => [e]) ?_ h hr
  intro g u e g' hR hs
  obtain ⟨u', hu, hR'⟩ := hR.step hs
  exact ⟨u', by rw [run_cons, hu]; rfl, hR'⟩

theorem Sound.drawnReported (h : Sound hist g) : DrawnReported hist g := by
  cases g with
  | ios s => exact onlyReported_of_marker h.sound.marker
  | android s => exact onlyReported_of_marker h.marker

theorem Sound.alike (h : Sound hist g) (hu : Alike g u) : Sound hist u := by
  obtain ⟨t, rfl, ht⟩ := hu
  cases g with
  | ios s =>
    have hnode : Tracking.node { s with database := t } = s.node :=
      congrArg (fun o => o.getD (.obj .empty)) ht
    refine ⟨h.signed, h.mounted, ?_⟩
    show CrowdTracking.Sound _ (Tracking.node { s with database := t }) _ _
    rw [hnode]
    exact h.sound
  | android s =>
    have hnode : Session.node { s.session with database := t } = s.session.node :=
      congrArg (fun o => o.getD (.obj .empty)) ht
    refine ⟨h.data, ?_, h.pending, h.marker⟩
    show _ ∨ _ ∧ _ ∧ Watched.Unreported (Session.node { s.session with database := t })
    rw [hnode]
    exact h.node

theorem Registered.sound (h : g.Registered) : Sound [] g := by
  cases g with
  | ios s =>
    obtain ⟨first, uid, t, hu⟩ := h
    have hsound : Sound [] (.ios (.registeredAt first uid s.key t)) :=
      Tracking.tracked_registered first uid s.key t
    exact hsound.alike hu
  | android s =>
    obtain ⟨fine, coarse, service, u, draw, t, hu⟩ := h
    have hsound : Sound [] (.android (.registered (.start fine coarse service u draw t))) :=
      Watched.watching_start fine coarse service u draw t
    exact hsound.alike hu

theorem Sound.step (h : Sound hist g) (hs : g.step distance degrees e = some g')
    (hC : MountsReported hist g e) : Sound (hist ++ [e]) g' := by
  cases g with
  | ios s =>
    cases e with
    | android e => cases hs
    | ios e =>
      rw [step_ios] at hs
      obtain ⟨s', hs', rfl⟩ := Option.map_eq_some_iff.1 hs
      rw [Sound, List.filterMap_append]
      apply Tracking.Tracked.step h (e := e)
      rw [withHistory, hs']
      rfl
  | android s =>
    cases e with
    | ios e => cases hs
    | android e =>
      rw [step_android] at hs
      obtain ⟨s', hs', rfl⟩ := Option.map_eq_some_iff.1 hs
      rw [Sound, List.filterMap_append]
      exact Watched.Watching.step h hs' hC

theorem Sound.mountsReported (h : Sound hist g) (hs : g.step distance degrees e = some g')
    (hP : DrawnReported (hist ++ [e]) g') : MountsReported hist g e := by
  cases g with
  | ios s => cases e <;> trivial
  | android s =>
    cases e with
    | ios e => trivial
    | android e =>
      rw [step_android] at hs
      obtain ⟨s', hs', rfl⟩ := Option.map_eq_some_iff.1 hs
      rw [DrawnReported, List.filterMap_append] at hP
      exact Watched.Watching.bad h hs' hP

end GuideApp

/-- Any number of guides on one database and one map. Every guide has its own node. -/
structure Platform (ι : Type u) where
  guides : ι → GuideApp
  database : Json
  shared : ∀ i, (guides i).database = database
  signed : ∀ i, (guides i).Signed
  apart : ∀ i j, i ≠ j → (guides i).key ≠ (guides j).key

namespace Platform

variable {ι : Type u} [DecidableEq ι]

/-- What an event writes reaches the database, and through it every guide's marker. -/
def step (distance : CLLocation → CLLocation → Rat) (degrees : Number → Number → Number)
    (s : Platform ι) (e : ι × GuideEvent) : Option (Platform ι) :=
  match h : (s.guides e.1).act distance degrees e.2 with
  | none => none
  | some (g, writes) => some
    { guides := fun i => writes.foldl GuideApp.publish (Function.update s.guides e.1 g i)
      database := writes.foldl (fun t w => w.apply t) s.database
      shared := by
        intro i
        have hframe := (GuideApp.act_acted h).frame
        rw [GuideApp.foldl_publish_database]
        by_cases hi : i = e.1
        · rw [hi, Function.update_self, hframe.2, s.shared]
        · rw [Function.update_of_ne hi, s.shared]
      signed := by
        intro i
        apply GuideApp.foldl_publish_signed
        by_cases hi : i = e.1
        · rw [hi, Function.update_self]
          exact (GuideApp.act_acted h).signed (s.signed e.1)
        · rw [Function.update_of_ne hi]
          exact s.signed i
      apart := by
        have hkey (i : ι) : (Function.update s.guides e.1 g i).key = (s.guides i).key := by
          by_cases hi : i = e.1
          · rw [hi, Function.update_self, (GuideApp.act_acted h).frame.1]
          · rw [Function.update_of_ne hi]
        intro i j hij
        rw [GuideApp.foldl_publish_key, GuideApp.foldl_publish_key, hkey, hkey]
        exact s.apart i j hij }

/-- The guides meet on one database. -/
def meet (guides : ι → GuideApp) (database : Json) (hsigned : ∀ i, (guides i).Signed)
    (hapart : ∀ i j, i ≠ j → (guides i).key ≠ (guides j).key) : Platform ι where
  guides i := (guides i).withDatabase database
  database := database
  shared i := GuideApp.withDatabase_database _ _
  signed i := (hsigned i).withDatabase database
  apart i j hij := by
    rw [GuideApp.withDatabase_key, GuideApp.withDatabase_key]
    exact hapart i j hij

/-- The events of one guide. -/
def own (i : ι) (e : ι × GuideEvent) : List GuideEvent := if e.1 = i then [e.2] else []

variable {distance : CLLocation → CLLocation → Rat} {degrees : Number → Number → Number}
  {s s' : Platform ι} {e : ι × GuideEvent} {es : List (ι × GuideEvent)} {i : ι}

theorem step_act (h : s.step distance degrees e = some s') :
    ∃ g ws, (s.guides e.1).act distance degrees e.2 = some (g, ws) ∧
      s'.guides = fun i => ws.foldl GuideApp.publish (Function.update s.guides e.1 g i) := by
  rw [step] at h
  split at h
  · cases h
  · rename_i g ws hact
    cases h
    exact ⟨g, ws, hact, rfl⟩

/-- A guide takes its own events as it does alone. -/
theorem step_own (h : s.step distance degrees e = some s') :
    (s.guides e.1).step distance degrees e.2 = some (s'.guides e.1) := by
  obtain ⟨g, ws, hact, hguides⟩ := step_act h
  simp only [GuideApp.step, hact, hguides, Function.update_self, Option.map_some]

/-- The events of the other guides leave its view alone. -/
theorem step_other (h : s.step distance degrees e = some s') (hi : i ≠ e.1) :
    GuideApp.Alike (s.guides i) (s'.guides i) := by
  obtain ⟨g, ws, hact, hguides⟩ := step_act h
  have hacted := GuideApp.act_acted hact
  rw [hguides]
  simp only [Function.update_of_ne hi]
  exact GuideApp.foldl_publish_other _ (fun w hw => hacted.writes (s.signed e.1) hw)
    (s.apart i e.1 hi)

/-- Beside a guide on its own, an event is one of its own or leaves it alone. -/
theorem step_alike {g : GuideApp} (hR : GuideApp.Alike (s.guides i) g)
    (hs : s.step distance degrees e = some s') :
    ∃ g', run (GuideApp.step distance degrees) g (own i e) = some g' ∧
      GuideApp.Alike (s'.guides i) g' := by
  by_cases hi : e.1 = i
  · rw [own, if_pos hi]
    subst hi
    obtain ⟨u, hu, hR'⟩ := hR.step (step_own hs)
    exact ⟨u, by rw [run_cons, hu]; rfl, hR'⟩
  · rw [own, if_neg hi]
    exact ⟨g, rfl, (step_other hs (Ne.symm hi)).symm.trans hR⟩

/-- Among any guides, in any order of events, a guide does what it does alone with its own. -/
theorem run_projects (i : ι) (h : run (step distance degrees) s es = some s') :
    ∃ g, run (GuideApp.step distance degrees) (s.guides i) (es.flatMap (own i)) = some g ∧
      GuideApp.Alike (s'.guides i) g :=
  run_simulated (fun (s : Platform ι) g => GuideApp.Alike (s.guides i) g) (own i)
    (fun _ _ _ _ hR hs => step_alike hR hs) (.refl _) h

def client : GuideApp := .ios (.registeredAt none "c" "k" (.obj .empty))

def session : GuideApp :=
  .android (.registered (.start true true true ⟨"c", "p"⟩ ⟨0, 0, 0⟩ client.database))

/-- An iOS client and an Android session, each with its registered node. -/
def pair : Platform Bool :=
  meet (fun i => if i then client else session) session.database
    (fun i => by
      cases i with
      | false => trivial
      | true => exact Tracking.signed_opened _ _ _)
    (by decide +kernel)

def presses : List (Bool × GuideEvent) :=
  [(true, .ios (.mount 0 true true true 0)), (false, .android (.client .buttonStart)),
    (true, .ios (.client .startBtnHandler)),
    (false, .android (.client (.onLocationChanged ⟨0, 0⟩ 21 39))),
    (true, .ios (.client .stopBtnHandler)), (true, .ios (.deliver 5))]

theorem run_projects_pair :
    ∃ s' g, run (step (fun _ _ => 0) fun _ _ => .nan) pair presses = some s' ∧
      run (GuideApp.step (fun _ _ => 0) fun _ _ => .nan) (pair.guides true)
        (presses.flatMap (own true)) = some g ∧ GuideApp.Alike (s'.guides true) g := by
  have hrun : (run (step (fun _ _ => 0) fun _ _ => .nan) pair presses).isSome := by
    decide +kernel
  obtain ⟨s', hs⟩ := Option.isSome_iff_exists.1 hrun
  obtain ⟨g, hg, hview⟩ := run_projects true hs
  exact ⟨s', g, hs, hg, hview⟩

/-- Two platforms in which a guide has the same view and the same events, whatever the other guides
do, leave it with the same view. -/
theorem undisturbed {κ : Type v} [DecidableEq κ] {t t' : Platform κ} {j : κ}
    {fs : List (κ × GuideEvent)} (hview : GuideApp.Alike (s.guides i) (t.guides j))
    (hown : es.flatMap (own i) = fs.flatMap (own j))
    (hs : run (step distance degrees) s es = some s')
    (ht : run (step distance degrees) t fs = some t') :
    GuideApp.Alike (s'.guides i) (t'.guides j) := by
  obtain ⟨g, hg, hs'⟩ := run_simulated (fun (s : Platform ι) g => GuideApp.Alike (s.guides i) g)
    (own i) (fun _ _ _ _ hR hs => step_alike hR hs) (.refl _) hs
  obtain ⟨u, hu, ht'⟩ := run_simulated (fun (t : Platform κ) g => GuideApp.Alike (t.guides j) g)
    (own j) (fun _ _ _ _ hR ht => step_alike hR ht) (.refl _) ht
  obtain ⟨u', hu', hgu⟩ := hview.run hg
  rw [hown, hu, Option.some.injEq] at hu'
  subst hu'
  exact hs'.trans (hgu.trans ht'.symm)

/-- The client among others and on its own. -/
theorem undisturbed_pair :
    ∃ s' t', run (step (fun _ _ => 0) fun _ _ => .nan) pair presses = some s' ∧
      run (step (fun _ _ => 0) fun _ _ => .nan)
        (meet (fun _ : Unit => client) client.database
          (fun _ => Tracking.signed_opened _ _ _) (fun _ _ h => absurd rfl h))
        ((presses.flatMap (own true)).map fun e => ((), e)) = some t' ∧
      GuideApp.Alike (s'.guides true) (t'.guides ()) := by
  have hs : (run (step (fun _ _ => 0) fun _ _ => .nan) pair presses).isSome := by
    decide +kernel
  have ht : (run (step (fun _ _ => 0) fun _ _ => .nan)
      (meet (fun _ : Unit => client) client.database
        (fun _ => Tracking.signed_opened _ _ _) (fun _ _ h => absurd rfl h))
      ((presses.flatMap (own true)).map fun e => ((), e))).isSome := by
    decide +kernel
  obtain ⟨s', hs⟩ := Option.isSome_iff_exists.1 hs
  obtain ⟨t', ht⟩ := Option.isSome_iff_exists.1 ht
  refine ⟨s', t', hs, ht, undisturbed ?_ ?_ hs ht⟩
  · exact ⟨client.database, rfl, by decide +kernel⟩
  · decide +kernel

/-- Every marker on the map is drawn at positions alone that its own guide has reported, exactly as
long as every Android marker is mounted after the first fix or while its node has no location. -/
theorem drawn_reported (h : ∀ i, (s.guides i).Registered) (es : List (ι × GuideEvent)) :
    Always (withHistory (step distance degrees))
        (fun s => ∀ i, (s.1.guides i).DrawnReported (s.2.flatMap (own i))) (s, []) es ↔
      Along (withHistory (step distance degrees))
        (fun s e => (s.1.guides e.1).MountsReported (s.2.flatMap (own e.1)) e.2) (s, []) es := by
  have hown {hist : List (ι × GuideEvent)} (i : ι) (e : ι × GuideEvent) :
      (hist ++ [e]).flatMap (own i) = hist.flatMap (own i) ++ own i e := by
    rw [List.flatMap_append, List.flatMap_singleton]
  apply always_iff_along fun s : Platform ι × List (ι × GuideEvent) =>
    ∀ i, (s.1.guides i).Sound (s.2.flatMap (own i))
  · exact fun s h i => (h i).drawnReported
  · rintro ⟨s, hist⟩ e ⟨s', hist'⟩ h hs hC i
    obtain ⟨hs, rfl⟩ := withHistory_some hs
    rw [hown]
    by_cases hi : e.1 = i
    · subst hi
      rw [own, if_pos rfl]
      exact (h e.1).step (step_own hs) hC
    · rw [own, if_neg hi, List.append_nil]
      exact (h i).alike (step_other hs (Ne.symm hi))
  · rintro ⟨s, hist⟩ e ⟨s', hist'⟩ h hs hP
    obtain ⟨hs, rfl⟩ := withHistory_some hs
    have hP' := hP e.1
    rw [hown, own, if_pos rfl] at hP'
    exact (h e.1).mountsReported (step_own hs) hP'
  · exact fun i => (h i).sound

theorem pair_registered (i : Bool) : (pair.guides i).Registered := by
  cases i with
  | false => exact ⟨true, true, true, ⟨"c", "p"⟩, ⟨0, 0, 0⟩, client.database, .refl _⟩
  | true => exact ⟨none, "c", .obj .empty, session.database, rfl, by decide +kernel⟩

/-- Both guides report a position and a number of people before they are shown, and the client
another position afterwards. -/
def drawn : List (Bool × GuideEvent) :=
  [(true, .ios (.client .observed)), (true, .ios (.client .incrementHandler)),
    (true, .ios (.client (.didUpdateLocations [(⟨21, 39⟩, 1)]))),
    (true, .ios (.mount 0 true true true 0)),
    (false, .android (.client (.onProgressChanged 60))),
    (false, .android (.client .buttonStart)),
    (false, .android (.client (.onLocationChanged ⟨0, 0⟩ 21 40))),
    (false, .android (.mount 1 true true true 1)),
    (true, .ios (.client (.didUpdateLocations [(⟨22, 39⟩, 2)]))), (true, .ios (.deliver 5))]

theorem drawn_reported_pair :
    (∀ i, (pair.guides i).Registered) ∧
      Along (withHistory (step (fun _ _ => 0) fun _ _ => .nan))
        (fun s e => (s.1.guides e.1).MountsReported (s.2.flatMap (own e.1)) e.2) (pair, [])
        drawn ∧
      Always (withHistory (step (fun _ _ => 0) fun _ _ => .nan))
        (fun s => ∀ i, (s.1.guides i).DrawnReported (s.2.flatMap (own i))) (pair, []) drawn ∧
      (run (step (fun _ _ => 0) fun _ _ => .nan) pair drawn).map (fun s => [true, false].map
        fun i => ((s.guides i).marker.bind MyMarker.view).map fun v => (v.lat, v.lng)) =
        some [some (.num (.finite 22), some (.num (.finite 39))),
          some (.num (.finite 21), some (.num (.finite 40)))] := by
  have h : Along (withHistory (step (fun _ _ => 0) fun _ _ => .nan))
      (fun s e => (s.1.guides e.1).MountsReported (s.2.flatMap (own e.1)) e.2) (pair, [])
      drawn := by
    decide +kernel
  exact ⟨pair_registered, h, (drawn_reported pair_registered drawn).2 h, by decide +kernel⟩

end Platform

end CrowdTracking
