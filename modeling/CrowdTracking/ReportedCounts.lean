import CrowdTracking.LatestChoice
import CrowdTracking.PeopleCounter
import CrowdTracking.Platform

namespace CrowdTracking
set_option autoImplicit true
open Script Database Runs

/-- A number of people that may be shown, as an iOS client stores it or the slider of an Android
one. -/
def Count (N : Nat → Prop) (v : Json) : Prop :=
  ∃ n, N n ∧ (v = .str (toString (n : Int)) ∨ n ≤ 300 ∧ v = .num (.finite n))

/-- A node of the campaign: nothing else in it is a number. -/
structure Counting (N : Nat → Prop) (campaign : String) (r : Record Json) : Prop where
  count : ∀ v ∈ r.get "numberOfPeople", Count N v
  campaign_id : ∀ v ∈ r.get "campaign_id", v = .str campaign
  other : ∀ k v, r.get k = some v → k ≠ "numberOfPeople" → k ≠ "campaign_id" → isNaN v

variable {N M : Nat → Prop} {campaign : String} {r : Record Json} {v : Json}
  {degrees : Number → Number → Number}

theorem Count.mono (h : Count N v) (hN : ∀ n, N n → M n) : Count M v := by
  obtain ⟨n, hn, hv⟩ := h
  exact ⟨n, hN n hn, hv⟩

theorem Counting.mono (h : Counting N campaign r) (hN : ∀ n, N n → M n) :
    Counting M campaign r :=
  ⟨fun v hv => (h.count v hv).mono hN, h.campaign_id, h.other⟩

theorem Count.scale (h : Count N v) :
    ∃ n, N n ∧ MyMarker.scaleOf (parseInt v) = .finite (min (3 + n / 30) 15) := by
  obtain ⟨n, hn, hv⟩ := h
  refine ⟨n, hn, ?_⟩
  rcases hv with rfl | ⟨hle, rfl⟩
  · rw [parseInt_toString]
    rfl
  · rw [parseInt_natCast (by omega)]
    rfl

theorem counting_empty (N : Nat → Prop) (campaign : String) : Counting N campaign .empty :=
  ⟨fun v hv => (by cases hv), fun v hv => (by cases hv), fun k v hv => (by cases hv)⟩

theorem Counting.putCount (h : Counting N campaign r) (hv : Count N v) :
    Counting N campaign (r.put "numberOfPeople" v) := by
  refine ⟨?_, ?_, ?_⟩
  · intro w hw
    rw [Option.mem_def, Record.get_put_self] at hw
    cases hw
    exact hv
  · intro w hw
    rw [Option.mem_def, Record.get_put_of_ne _ _ (by decide)] at hw
    exact h.campaign_id w hw
  · intro k w hw hk hc
    rw [Record.get_put_of_ne _ _ (Ne.symm hk)] at hw
    exact h.other k w hw hk hc

theorem Counting.putCampaign (h : Counting N campaign r) :
    Counting N campaign (r.put "campaign_id" (.str campaign)) := by
  refine ⟨?_, ?_, ?_⟩
  · intro w hw
    rw [Option.mem_def, Record.get_put_of_ne _ _ (by decide)] at hw
    exact h.count w hw
  · intro w hw
    rw [Option.mem_def, Record.get_put_self] at hw
    cases hw
    rfl
  · intro k w hw hk hc
    rw [Record.get_put_of_ne _ _ (Ne.symm hc)] at hw
    exact h.other k w hw hk hc

theorem Counting.put (h : Counting N campaign r) (hk : k ≠ "numberOfPeople")
    (hc : k ≠ "campaign_id") (hv : isNaN v) : Counting N campaign (r.put k v) := by
  refine ⟨?_, ?_, ?_⟩
  · intro w hw
    rw [Option.mem_def, Record.get_put_of_ne _ _ hk] at hw
    exact h.count w hw
  · intro w hw
    rw [Option.mem_def, Record.get_put_of_ne _ _ hc] at hw
    exact h.campaign_id w hw
  · intro l w hw hl hlc
    rw [Record.get_put] at hw
    split at hw
    · cases hw
      exact hv
    · exact h.other l w hw hl hlc

namespace MyMarker

/-- The size in which `render` draws the marker. -/
def scale (m : MyMarker) : Number :=
  match m.crowd.get "numberOfPeople" with
  | some n => scaleOf (parseInt n)
  | none => .finite 3

variable {m : MyMarker}

theorem view_sized (h : ¬m.Hidden) : ∃ path,
    m.view = (m.crowd.get "location").bind fun location => (location.child "lat").map fun lat =>
      ⟨lat, location.child "lng", path, m.scale, m.color,
        (location.child "heading").getD (.num (.finite 0))⟩ := by
  simp only [Hidden, not_or] at h
  obtain ⟨ht, ha, hi, hl⟩ := h
  simp only [view, render, color]
  by_cases hc : m.lost ∧ m.status = some (.str "Active")
  · simp only [if_pos hc, if_neg ht, if_neg ha, if_neg hi, if_neg hl]
    exact ⟨_, drawn_at _ _ _ _⟩
  · by_cases hs : m.status = some (.str "inActive")
    · simp only [if_neg hc, if_pos hs, if_neg ht, if_neg ha, if_neg hi, if_neg hl, setInterval]
      exact ⟨_, drawn_at _ _ _ _⟩
    · simp only [if_neg hc, if_neg hs, if_neg ht, if_neg ha, if_neg hi, if_neg hl]
      exact ⟨_, drawn_at _ _ _ _⟩

theorem view_scale {w : View} (hw : m.view = some w) : w.scale = m.scale := by
  have hh : ¬m.Hidden := by
    intro hh
    rw [view_hidden hh] at hw
    cases hw
  obtain ⟨path, h⟩ := view_sized hh
  rw [h] at hw
  obtain ⟨location, -, hw⟩ := Option.bind_eq_some_iff.1 hw
  obtain ⟨lat, -, rfl⟩ := Option.map_eq_some_iff.1 hw
  rfl

end MyMarker

/-- The marker holds no other number of people. -/
def Sized (N : Nat → Prop) (m : MyMarker) : Prop :=
  ∀ v ∈ m.crowd.get "numberOfPeople", Count N v

theorem Sized.mono {m : MyMarker} (h : Sized N m) (hN : ∀ n, N n → M n) : Sized M m :=
  fun v hv => (h v hv).mono hN

/-- Without a number of people the marker is drawn as for nobody. -/
theorem Sized.view {m : MyMarker} (h : Sized N m) (h0 : N 0) {w : View} (hw : m.view = some w) :
    ∃ n, N n ∧ w.scale = .finite (min (3 + n / 30) 15) := by
  rw [MyMarker.view_scale hw, MyMarker.scale]
  cases hv : m.crowd.get "numberOfPeople" with
  | none =>
    have hmin : min (3 + ((0 : Nat) : Rat) / 30) 15 = 3 := by
      rw [Nat.cast_zero, zero_div, add_zero]
      exact min_eq_left (by decide)
    exact ⟨0, h0, congrArg Number.finite hmin.symm⟩
  | some v => exact (h v hv).scale

theorem counted_nextCrowd {c : Record Json} (h : ∀ w ∈ c.get "numberOfPeople", Count N w)
    (hv : isNaN v ∨ Count N v) :
    ∀ w ∈ (MyMarker.nextCrowd degrees c v).get "numberOfPeople", Count N w := by
  intro w hw
  rw [Option.mem_def, MyMarker.nextCrowd_numberOfPeople] at hw
  split at hw
  · rename_i hnum
    cases hw
    exact hv.resolve_left hnum.2
  · exact h w hw

theorem Sized.deliver {m : MyMarker} (h : Sized N m) (hv : isNaN v ∨ Count N v) (t : Nat) :
    Sized N ((m.atTime t).deliver degrees v) := by
  by_cases hm : m.mounted
  · rw [Sized, MyMarker.deliver_crowd (m := m.atTime t) hm]
    exact counted_nextCrowd h hv
  · rw [Sized, MyMarker.deliver_crowd_unmounted (m := m.atTime t) hm]
    exact h

theorem Counting.mounted (h : Counting N campaign r) (p : Props) (hp : p.crowd = r) (t : Nat) :
    Sized N (.mount p t) := by
  rw [Sized, MyMarker.mount_crowd, hp]
  exact h.count

/-- A child that the node's change raises is a number only for the count. -/
theorem Counting.raised {old new : Json} (h : Counting N campaign old.fields)
    (h' : Counting M campaign new.fields) (hv : (k, v) ∈ changedChildren old new) :
    isNaN v ∨ Count M v := by
  obtain ⟨w, hw, hne⟩ := child_of_mem_changedChildren hv
  have hnew := mem_changedChildren hv
  by_cases hk : k = "numberOfPeople"
  · exact .inr (h'.count v (hk ▸ hnew))
  · by_cases hc : k = "campaign_id"
    · subst hc
      exact absurd ((h.campaign_id w hw).trans (h'.campaign_id v hnew).symm) hne
    · exact .inl (h'.other k v hnew hk hc)

namespace HomeVC

/-- The label is one of the numbers. -/
def Labelled (N : Nat → Prop) (h : HomeVC) : Prop :=
  ∀ l ∈ h.numberOfCrowd, ∃ n : Nat, N n ∧ l = toString (n : Int)

/-- A write to the number of people tells one of the numbers. -/
def Tells (N : Nat → Prop) (w : Write) : Prop :=
  ∀ p v, w = .setValue (p ++ ["numberOfPeople"]) v → Count N v

variable {h h' : HomeVC} {ws : List Write}

theorem eq_of_int_toString {n : Nat} (h : int (toString (n : Int)) = some number) :
    number = n := by
  by_cases hn : (n : Int) < 2 ^ 63
  · rw [PeopleCounter.int_toString (Int.natCast_nonneg n) hn] at h
    exact (Option.some.inj h).symm
  · have hs : (toString (n : Int)).toList = Nat.toDigits 10 n := by simp [toString, Int.repr]
    have hd : ∀ c ∈ Nat.toDigits 10 n, c.isDigit := fun c hc =>
      Nat.isDigit_of_mem_toDigits (by decide) (by decide) hc
    have hm : Nat.ofDigitChars 10 (Nat.toDigits 10 n) 0 = n := Nat.ofDigitChars_ten_toDigits
    obtain ⟨c, r, hcr, hplus, hminus, -⟩ := digits_head Nat.toDigits_ne_nil hd
    rw [hcr] at hs hd hm
    rw [PeopleCounter.int_digits hs hplus hminus hd, hm, if_neg hn] at h
    cases h

theorem Labelled.mono (h : Labelled N a) (hN : ∀ n, N n → M n) : Labelled M a := by
  intro l hl
  obtain ⟨n, hn, hnl⟩ := h l hl
  exact ⟨n, hN n hn, hnl⟩

theorem Labelled.checkStatus (hl : Labelled N h) (h0 : N 0) (hn : Counting N campaign v.fields) :
    Labelled N (h.checkStatus v) := by
  simp only [HomeVC.checkStatus]
  split
  · rename_i data hdata
    intro l hlabel
    simp only [Option.mem_def] at hlabel
    split at hlabel
    · rename_i total htotal
      cases hlabel
      obtain ⟨n, hn, heq | ⟨-, heq⟩⟩ := hn.count _ htotal
      · exact ⟨n, hn, Json.str.inj heq⟩
      · cases heq
    · cases hlabel
      exact ⟨0, h0, rfl⟩
  · exact hl

theorem Labelled.setNumberOfPeople (hl : Labelled N h) (n : Nat) (hn : N n) :
    Labelled N (h.setNumberOfPeople n).1 ∧ ∀ w ∈ (h.setNumberOfPeople n).2, Tells N w := by
  rw [HomeVC.setNumberOfPeople]
  cases h.crowd_id with
  | none => exact ⟨hl, fun w hw => by cases hw⟩
  | some k =>
    refine ⟨?_, ?_⟩
    · intro l hlabel
      cases hlabel
      exact ⟨n, hn, rfl⟩
    · intro w hw p v he
      rw [List.mem_singleton.1 hw, Write.setValue.injEq] at he
      exact ⟨n, hn, .inl he.2.symm⟩

/-- The buttons step from a number to the next or the last one. -/
theorem Labelled.pressed {distance : CLLocation → CLLocation → Rat} (hl : Labelled N h)
    (he : e = .incrementHandler ∨ e = .decrementHandler)
    (hs : h.step distance node e = some (h', ws)) (hN : ∀ n, N n → M n)
    (hinc : e = .incrementHandler → ∀ n, N n → M (n + 10)) (hdec : ∀ n, N (n + 10) → M n) :
    Labelled M h' ∧ ∀ w ∈ ws, Tells M w := by
  have hkept : Labelled M h ∧ ∀ w ∈ ([] : List Write), Tells M w :=
    ⟨hl.mono hN, fun w hw => by cases hw⟩
  have hlabel (number : Int) (hn : h.numberOfCrowd.bind int = some number) :
      ∃ n : Nat, N n ∧ number = n := by
    obtain ⟨l, hl', hint⟩ := Option.bind_eq_some_iff.1 hn
    obtain ⟨n, hn, rfl⟩ := hl l hl'
    exact ⟨n, hn, eq_of_int_toString hint⟩
  rcases he with rfl | rfl
  · simp only [step, incrementHandler] at hs
    split at hs
    · cases hs
      exact hkept
    · rename_i number hnumber
      obtain ⟨n, hn, rfl⟩ := hlabel number hnumber
      obtain ⟨-, hs⟩ := Option.ite_none_right_eq_some.1 hs
      have hset := (hl.mono hN).setNumberOfPeople (n + 10) (hinc rfl n hn)
      rw [Nat.cast_add, show ((10 : Nat) : Int) = 10 from rfl, Option.some.inj hs] at hset
      exact hset
  · simp only [step, decrementHandler] at hs
    split at hs
    · cases hs
      exact hkept
    · rename_i number hnumber
      obtain ⟨n, hn, rfl⟩ := hlabel number hnumber
      obtain ⟨-, hs⟩ := Option.ite_none_right_eq_some.1 hs
      split at hs
      · rename_i h0
        obtain ⟨m, rfl⟩ : ∃ m, n = m + 10 := ⟨n - 10, by omega⟩
        have hset := (hl.mono hN).setNumberOfPeople m (hdec m hn)
        have hm : ((m + 10 : Nat) : Int) - 10 = m := by omega
        rw [hm] at hs
        rw [Option.some.inj hs] at hset
        exact hset
      · cases hs
        exact hkept

/-- Only the two buttons tell a number, and no other event but a snapshot sets the label. -/
theorem Labelled.step {distance : CLLocation → CLLocation → Rat} (hl : Labelled N h)
    (hnode : Counting N campaign node.fields) (h0 : N 0)
    (hs : h.step distance node e = some (h', ws)) (hN : ∀ n, N n → M n)
    (hinc : e = .incrementHandler → ∀ n, N n → M (n + 10)) (hdec : ∀ n, N (n + 10) → M n) :
    Labelled M h' ∧ ∀ w ∈ ws, Tells M w := by
  by_cases hc : e.child = some "numberOfPeople"
  · exact hl.pressed (child_count.1 hc) hs hN hinc hdec
  · refine ⟨?_, ?_⟩
    · by_cases hobs : e = .observed
      · subst hobs
        cases hs
        exact (hl.checkStatus h0 hnode).mono hN
      · rw [Labelled, PeopleCounter.step_numberOfCrowd hs hc hobs]
        exact hl.mono hN
    · intro w hw p v he
      obtain ⟨k, -, hwrites⟩ := step_writes hs hw
      obtain ⟨c, hchild, hpath⟩ := hwrites.path
      rw [he] at hpath
      have hlast : "numberOfPeople" = c := by
        have hlist := (List.append_inj' hpath rfl).2
        exact (List.cons.inj hlist).1
      exact absurd (hchild.trans (congrArg some hlast.symm)) hc

end HomeVC

namespace Tracking

/-- The numbers that the plus button can reach: it is pressed once for every ten people. -/
def Pressed (hist : List TrackingEvent) (n : Nat) : Prop :=
  10 ∣ n ∧ n ≤ 10 * hist.count (.client .incrementHandler)

/-- Whatever is or will be shown as the number of people is one of the numbers. -/
structure Counted (N : Nat → Prop) (uid : String) (s : Tracking) : Prop where
  signed : Signed s
  mounted : ∀ m ∈ s.marker, m.mounted
  label : s.home.Labelled N
  node : Counting N uid s.node.fields
  pending : ∀ v ∈ s.pending, isNaN v ∨ Count N v
  marker : ∀ m ∈ s.marker, Sized N m

variable {s s' : Tracking} {h' : HomeVC} {ws : List Write}
  {distance : CLLocation → CLLocation → Rat}

theorem pressed_zero (hist : List TrackingEvent) : Pressed hist 0 :=
  ⟨Nat.dvd_zero 10, Nat.zero_le _⟩

theorem Pressed.append (h : Pressed hist n) (e : TrackingEvent) : Pressed (hist ++ [e]) n := by
  obtain ⟨hdvd, hle⟩ := h
  refine ⟨hdvd, hle.trans (Nat.mul_le_mul_left 10 ?_)⟩
  rw [List.count_append]
  exact Nat.le_add_right _ _

theorem Pressed.increment (h : Pressed hist n) :
    Pressed (hist ++ [.client .incrementHandler]) (n + 10) := by
  obtain ⟨hdvd, hle⟩ := h
  refine ⟨Nat.dvd_add hdvd (Nat.dvd_refl 10), ?_⟩
  rw [List.count_append, List.count_singleton_self]
  omega

theorem Pressed.decrement (h : Pressed hist (n + 10)) : Pressed hist n := by
  obtain ⟨hdvd, hle⟩ := h
  exact ⟨(Nat.dvd_add_left (Nat.dvd_refl 10)).1 hdvd, by omega⟩

theorem Counted.mono (h : Counted N uid s) (hN : ∀ n, N n → M n) : Counted M uid s :=
  ⟨h.signed, h.mounted, h.label.mono hN, h.node.mono hN,
    fun v hv => (h.pending v hv).imp_right fun hc => hc.mono hN,
    fun m hm => (h.marker m hm).mono hN⟩

theorem Counted.published (h : Counted N uid s) (hp : Published s s' c v)
    (hc : c ≠ "campaign_id") (hv : if c = "numberOfPeople" then Count N v else isNaN v) :
    Counted N uid s' := by
  have hsplit : isNaN v ∨ Count N v := by
    split at hv
    · exact .inr hv
    · exact .inl hv
  refine ⟨h.signed.published hp, ?_, ?_, ⟨?_, ?_, ?_⟩, ?_, ?_⟩
  · rw [hp.marker]
    exact h.mounted
  · rw [hp.home]
    exact h.label
  · intro w hw
    by_cases hk : c = "numberOfPeople"
    · rw [if_pos hk] at hv
      rw [← hk] at hw
      cases hp.child.symm.trans hw
      exact hv
    · exact h.node.count w ((hp.other _ (Ne.symm hk)).symm.trans hw)
  · intro w hw
    exact h.node.campaign_id w ((hp.other _ (Ne.symm hc)).symm.trans hw)
  · intro k w hw hk hkc
    by_cases hck : k = c
    · subst hck
      cases hp.child.symm.trans hw
      rwa [if_neg hk] at hv
    · exact h.node.other k w ((hp.other k hck).symm.trans hw) hk hkc
  · intro w hw
    rw [hp.pending] at hw
    split at hw
    · rcases List.mem_append.1 hw with hw | hw
      · exact h.pending w hw
      · rwa [mem_raised hw]
    · exact h.pending w hw
  · rw [hp.marker]
    exact h.marker

theorem Counted.write (h : Counted N uid s) (hw : HomeVC.Writes s.key e w)
    (ht : HomeVC.Tells N w) : Counted N uid (s.publish w) := by
  cases hw with
  | status hs he =>
    apply h.published (published_setValue s "status" _) (by decide)
    rcases hs with rfl | rfl
    · rfl
    · rfl
  | count total he =>
    apply h.published (published_setValue s "numberOfPeople" _) (by decide)
    exact ht (crowdPath s.key) _ rfl
  | location l t d hl =>
    exact h.published (published_location s _ (fun hd => by cases hd)) (by decide) rfl
  | heading ha =>
    exact h.published (published_location s _ (fun hd => by cases hd)) (by decide) rfl

theorem Counted.client (h : Counted N uid s)
    (hs : s.home.step distance s.node e = some (h', ws)) (h0 : N 0) (hN : ∀ n, N n → M n)
    (hinc : e = .incrementHandler → ∀ n, N n → M (n + 10)) (hdec : ∀ n, N (n + 10) → M n) :
    Counted M uid (ws.foldl publish { s with home := h' }) := by
  obtain ⟨hlabel, htells⟩ := h.label.step h.node h0 hs hN hinc hdec
  have hwrites : ∀ w ∈ ws, HomeVC.Writes s.key e w := by
    intro w hmem
    obtain ⟨k, hk, hwrite⟩ := HomeVC.step_writes hs hmem
    rwa [h.signed.crowd_id hk] at hwrite
  have hm := h.mono hN
  have hhome : Counted M uid { s with home := h' } := by
    refine ⟨?_, hm.mounted, hlabel, hm.node, hm.pending, hm.marker⟩
    obtain ⟨u, hcampaign⟩ := h.signed
    exact ⟨u, (HomeVC.step_campaign hs).trans hcampaign⟩
  have hfold : Counted M uid (ws.foldl publish { s with home := h' }) ∧
      (ws.foldl publish { s with home := h' }).key = s.key := by
    apply List.foldlRecOn ws publish (motive := fun t => Counted M uid t ∧ t.key = s.key)
    · exact ⟨hhome, rfl⟩
    · rintro t ⟨ht, hkey⟩ w hmem
      have hwrite := hwrites w hmem
      rw [← hkey] at hwrite
      exact ⟨ht.write hwrite (htells w hmem), hkey⟩
  exact hfold.1

theorem Counted.step (h : Counted (Pressed hist) uid s)
    (hs : s.step distance degrees e = some s') : Counted (Pressed (hist ++ [e])) uid s' := by
  have hN (n : Nat) (hn : Pressed hist n) : Pressed (hist ++ [e]) n := hn.append e
  have hsigned := h.signed.step hs
  cases step_moved hs with
  | client hc =>
    apply h.client hc (pressed_zero hist) hN
    · rintro rfl n hn
      exact hn.increment
    · exact fun n hn => (hn.decrement).append _
  | mount hm =>
    have hnode := h.node.mono hN
    refine ⟨hsigned, ?_, h.label.mono hN, hnode, fun v hv => (by cases hv), ?_⟩
    · rintro m ⟨⟩
      exact MyMarker.mount_mounted _ _
    · rintro m ⟨⟩
      exact hnode.mounted _ rfl _
  | deliver m v vs t hm hp =>
    have h' := h.mono hN
    refine ⟨hsigned, ?_, h'.label, h'.node, ?_, ?_⟩
    · rintro m' ⟨⟩
      rw [(MyMarker.deliver_frame _ _).2.2.1]
      exact h.mounted m hm
    · intro w hw
      apply h'.pending w
      rw [hp]
      exact List.mem_cons_of_mem v hw
    · rintro m' ⟨⟩
      apply (h'.marker m hm).deliver
      apply h'.pending v
      rw [hp]
      exact List.mem_cons_self
  | marked m m' hm hk he =>
    have h' := h.mono hN
    refine ⟨hsigned, ?_, h'.label, h'.node, h'.pending, ?_⟩
    · rintro _ ⟨⟩
      rw [hk.mounted]
      exact h.mounted m hm
    · rintro _ ⟨⟩
      rw [Sized, hk.get (h.mounted m hm) (by decide) (by decide)]
      exact h'.marker m hm

theorem counted_registered (first : Option CLLocation) (uid key : String) (database : Json) :
    Counted (Pressed []) uid (registeredAt first uid key database) := by
  have hnode := node_registeredAt first uid key database
  refine ⟨⟨uid, rfl⟩, fun m hm => absurd hm (Option.not_mem_none m),
    fun l hl => absurd hl (Option.not_mem_none l), ?_, fun v hv => absurd hv List.not_mem_nil,
    fun m hm => absurd hm (Option.not_mem_none m)⟩
  rw [hnode]
  exact (counting_empty _ uid).putCampaign

end Tracking

namespace MainActivity

/-- The slider is at one of the numbers, and the screen's map holds none but those. -/
structure Gauged (N : Nat → Prop) (campaign : String) (a : MainActivity) (p : Phone) : Prop where
  slider : N a.progressValue
  data : Counting N campaign a.crowdData
  campaign_id : p.tafweej.campaign_id = some campaign
  status : ∃ status, p.tafweej.status = some status ∧ isNaN (.str status)

variable {a a' : MainActivity} {p p' : Phone} {e : MainEvent} {ws : List Write}

theorem slider_cases (h : a.step p e = some (a', p', ws)) :
    a'.progressValue = a.progressValue ∨
      (e = .onProgressChanged a'.progressValue ∧ a'.progressValue ≤ 300) := by
  have hother (hl : e.listener = none)
      (hc : (Choices.next ⟨false, a.progressValue, none⟩ e).slider = a.progressValue) :
      a'.progressValue = a.progressValue :=
    (step_progressValue (c := ⟨false, a.progressValue, none⟩) h hl rfl).trans hc
  cases e with
  | onProgressChanged i =>
    obtain ⟨⟨-, hi⟩, h⟩ := Option.ite_none_right_eq_some.1 h
    cases h
    exact .inr ⟨rfl, hi⟩
  | onLocationChanged | onProviderEnabled | onProviderDisabled =>
    obtain ⟨-, h⟩ := Option.ite_none_right_eq_some.1 h
    cases h
    exact .inl rfl
  | onRequestPermissionsResult grantResults =>
    apply Or.inl
    apply hother rfl
    simp only [Choices.next]
    split <;> rfl
  | buttonStart | buttonStop | permissions => exact .inl (hother rfl rfl)

theorem Gauged.step (h : Gauged N campaign a p) (hs : a.step p e = some (a', p', ws))
    (hN : ∀ n, N n → M n) (hslide : ∀ n, e = .onProgressChanged n → n ≤ 300 → M n)
    (hM : ∀ n, M n → n ≤ 300) : Gauged M campaign a' p' := by
  have hslider : M a'.progressValue := by
    rcases slider_cases hs with hsame | ⟨he, hle⟩
    · rw [hsame]
      exact hN _ h.slider
    · exact hslide _ he hle
  have hdata := h.data.mono hN
  cases step_stepped hs with
  | idle | disabled => exact ⟨hslider, hdata, h.campaign_id, h.status⟩
  | started =>
    exact ⟨hslider, hdata.putCount ⟨_, hslider, .inr ⟨hM _ hslider, rfl⟩⟩, h.campaign_id, _, rfl,
      rfl⟩
  | located =>
    refine ⟨hslider, ?_, h.campaign_id, h.status⟩
    obtain ⟨status, hstatus, hnan⟩ := h.status
    simp only [onLocationChanged, h.campaign_id, hstatus, putNullable]
    apply Counting.put ?_ (by decide) (by decide) hnan
    apply Counting.put ?_ (by decide) (by decide) rfl
    exact hdata.putCampaign
  | stopped =>
    exact ⟨hslider, hdata.put (by decide) (by decide) rfl, h.campaign_id, _, rfl, rfl⟩

end MainActivity

namespace Watched

/-- The numbers that the slider has been at. -/
def Slid (hist : List WatchEvent) (n : Nat) : Prop :=
  n ≤ 300 ∧ (n = 0 ∨ .client (.onProgressChanged n) ∈ hist)

/-- Whatever is or will be shown as the number of people is one of the numbers. -/
structure Counted (N : Nat → Prop) (campaign : String) (s : Watched) : Prop where
  gauged : s.session.activity.Gauged N campaign s.session.phone
  node : Counting N campaign s.session.node.fields
  pending : ∀ v ∈ s.pending, isNaN v ∨ Count N v
  marker : ∀ m ∈ s.marker, Sized N m

variable {s s' : Watched}

theorem Slid.append (h : Slid hist n) (e : WatchEvent) : Slid (hist ++ [e]) n :=
  ⟨h.1, h.2.imp_right fun hmem => List.mem_append_left _ hmem⟩

theorem slid_last (hn : n ≤ 300) : Slid (hist ++ [.client (.onProgressChanged n)]) n :=
  ⟨hn, .inr (List.mem_append_right _ (List.mem_singleton.2 rfl))⟩

theorem stepped_sized {m m' : MyMarker} (h : MyMarker.Stepped degrees m t e m') (hm : Sized N m)
    (hv : ∀ k v, e = .childChanged k v → isNaN v ∨ Count N v) : Sized N m' := by
  rw [Sized]
  rcases MyMarker.stepped_crowd h with hc | ⟨-, ⟨k, v, he, hc⟩ | ⟨-, hc⟩ | ⟨-, hc⟩⟩
  · rw [hc]
    exact hm
  · rw [hc]
    exact counted_nextCrowd hm (hv k v he)
  · rw [hc, Record.get_put_of_ne _ _ (by decide)]
    exact hm
  · rw [hc, Record.get_put_of_ne _ _ (by decide)]
    exact hm

/-- The node keeps its content, or takes that of the screen's map. -/
theorem Counted.node_step {t : Session} (h : Counted N campaign s)
    (hs : s.session.step e = some t) (hN : ∀ n, N n → M n)
    (ht : t.activity.Gauged M campaign t.phone) : Counting M campaign t.node.fields := by
  rcases node_cases hs with ⟨hsame, -⟩ | hwritten
  · rw [hsame]
    exact h.node.mono hN
  · rw [hwritten]
    exact ht.data

theorem Counted.client {t : Session} (h : Counted (Slid hist) campaign s)
    (hs : s.session.step e = some t) :
    Counted (Slid (hist ++ [.client e])) campaign { s with
      session := t
      pending :=
        if s.marker.isSome then s.pending ++ (changedChildren s.session.node t.node).map Prod.snd
        else s.pending } := by
  have hN (n : Nat) (hn : Slid hist n) : Slid (hist ++ [.client e]) n := hn.append _
  obtain ⟨⟨a, p, ws⟩, hact, rfl⟩ := Option.map_eq_some_iff.1 hs
  have hgauged := h.gauged.step hact hN (by
    rintro n rfl hn
    exact slid_last hn) fun n hn => hn.1
  have hnode := h.node_step hs hN hgauged
  refine ⟨hgauged, hnode, ?_, fun m hm => (h.marker m hm).mono hN⟩
  have hpending (v : Json) (hv : v ∈ s.pending) : isNaN v ∨ Count (Slid (hist ++ [.client e])) v :=
    (h.pending v hv).imp_right fun hc => hc.mono hN
  intro v hv
  simp only at hv
  split at hv
  · rcases List.mem_append.1 hv with hv | hv
    · exact hpending v hv
    · obtain ⟨⟨k, w⟩, hkw, rfl⟩ := List.mem_map.1 hv
      exact h.node.raised hnode hkw
  · exact hpending v hv

theorem Counted.mono (h : Counted N campaign s) (hN : ∀ n, N n → M n) : Counted M campaign s :=
  ⟨⟨hN _ h.gauged.slider, h.gauged.data.mono hN, h.gauged.campaign_id, h.gauged.status⟩,
    h.node.mono hN, fun v hv => (h.pending v hv).imp_right fun hc => hc.mono hN,
    fun m hm => (h.marker m hm).mono hN⟩

theorem Counted.step (h : Counted (Slid hist) campaign s) (hs : s.step degrees e = some s') :
    Counted (Slid (hist ++ [e])) campaign s' := by
  have h' : Counted (Slid (hist ++ [e])) campaign s := h.mono fun n hn => hn.append e
  cases e with
  | client e =>
    obtain ⟨t, ht, rfl⟩ := Option.map_eq_some_iff.1 hs
    exact h.client ht
  | mount index a i l t =>
    obtain ⟨-, hs⟩ := Option.ite_none_right_eq_some.1 hs
    cases hs
    refine ⟨h'.gauged, h'.node, fun v hv => (by cases hv), ?_⟩
    rintro m ⟨⟩
    exact h'.node.mounted _ rfl _
  | deliver t =>
    simp only [Watched.step] at hs
    split at hs
    · rename_i m v vs hm hp
      obtain ⟨m', hm', rfl⟩ := Option.map_eq_some_iff.1 hs
      have hpending := h'.pending
      rw [hp] at hpending
      refine ⟨h'.gauged, h'.node, fun w hw => hpending w (List.mem_cons_of_mem v hw), ?_⟩
      rintro _ ⟨⟩
      apply stepped_sized (MyMarker.step_stepped hm').2 (h'.marker m hm)
      rintro k w ⟨⟩
      exact hpending v List.mem_cons_self
    · cases hs
  | seen t e =>
    cases e with
    | childChanged k v => cases hs
    | _ =>
      obtain ⟨m, hm, hs⟩ := Option.bind_eq_some_iff.1 hs
      obtain ⟨m', hm', rfl⟩ := Option.map_eq_some_iff.1 hs
      refine ⟨h'.gauged, h'.node, h'.pending, ?_⟩
      rintro _ ⟨⟩
      apply stepped_sized (MyMarker.step_stepped hm').2 (h'.marker m hm)
      exact fun k v he => by cases he

theorem counted_start (fine coarse service : Bool) (u : SignUp) (draw : Draw) (t : Json) :
    Counted (Slid []) u.campaign_id (registered (.start fine coarse service u draw t)) := by
  have h0 : Slid [] 0 := ⟨Nat.zero_le _, .inl rfl⟩
  refine ⟨⟨h0, counting_empty _ _, rfl, _, rfl, rfl⟩, ?_, fun v hv => (by cases hv),
    fun m hm => (by cases hm)⟩
  rw [registered, Session.node_start]
  apply Counting.put ?_ (by decide) (by decide) rfl
  apply Counting.putCount ?_ ⟨0, h0, .inr ⟨Nat.zero_le _, rfl⟩⟩
  apply Counting.put ?_ (by decide) (by decide) rfl
  exact (counting_empty _ _).putCampaign

end Watched

namespace GuideApp

/-- The numbers of people that the guide can have set. -/
def CanSet (hist : List GuideEvent) : GuideApp → Nat → Prop
  | .ios _ => Tracking.Pressed (hist.filterMap GuideEvent.tracking)
  | .android _ => Watched.Slid (hist.filterMap GuideEvent.watching)

/-- The marker is drawn in the size of a number of people that the guide can have set. -/
def DrawnSized (hist : List GuideEvent) (g : GuideApp) : Prop :=
  ∀ m ∈ g.marker, ∀ v ∈ m.view,
    ∃ n, g.CanSet hist n ∧ v.scale = .finite (min (3 + n / 30) 15)

def Counted (hist : List GuideEvent) : GuideApp → Prop
  | .ios s => ∃ uid, s.Counted (Tracking.Pressed (hist.filterMap GuideEvent.tracking)) uid
  | .android s =>
      ∃ campaign, s.Counted (Watched.Slid (hist.filterMap GuideEvent.watching)) campaign

variable {distance : CLLocation → CLLocation → Rat} {g g' u : GuideApp} {e : GuideEvent}
  {hist : List GuideEvent}

theorem Counted.drawnSized (h : Counted hist g) : DrawnSized hist g := by
  cases g with
  | ios s =>
    obtain ⟨uid, h⟩ := h
    exact fun m hm v hv => (h.marker m hm).view (Tracking.pressed_zero _) hv
  | android s =>
    obtain ⟨campaign, h⟩ := h
    exact fun m hm v hv => (h.marker m hm).view ⟨Nat.zero_le _, .inl rfl⟩ hv

theorem Counted.alike (h : Counted hist g) (hu : Alike g u) : Counted hist u := by
  obtain ⟨t, rfl, ht⟩ := hu
  cases g with
  | ios s =>
    have hnode : Tracking.node { s with database := t } = s.node :=
      congrArg (fun o => o.getD (.obj .empty)) ht
    obtain ⟨uid, h⟩ := h
    refine ⟨uid, h.signed, h.mounted, h.label, ?_, h.pending, h.marker⟩
    rw [hnode]
    exact h.node
  | android s =>
    have hnode : Session.node { s.session with database := t } = s.session.node :=
      congrArg (fun o => o.getD (.obj .empty)) ht
    obtain ⟨campaign, h⟩ := h
    refine ⟨campaign, h.gauged, ?_, h.pending, h.marker⟩
    rw [hnode]
    exact h.node

theorem Registered.counted (h : g.Registered) : Counted [] g := by
  cases g with
  | ios s =>
    obtain ⟨first, uid, t, hu⟩ := h
    have hcounted : Counted [] (.ios (.registeredAt first uid s.key t)) :=
      ⟨uid, Tracking.counted_registered first uid s.key t⟩
    exact hcounted.alike hu
  | android s =>
    obtain ⟨fine, coarse, service, u, draw, t, hu⟩ := h
    have hcounted : Counted [] (.android (.registered (.start fine coarse service u draw t))) :=
      ⟨u.campaign_id, Watched.counted_start fine coarse service u draw t⟩
    exact hcounted.alike hu

theorem Counted.step (h : Counted hist g) (hs : g.step distance degrees e = some g') :
    Counted (hist ++ [e]) g' := by
  cases g with
  | ios s =>
    cases e with
    | android e => cases hs
    | ios e =>
      rw [step_ios] at hs
      obtain ⟨s', hs', rfl⟩ := Option.map_eq_some_iff.1 hs
      obtain ⟨uid, h⟩ := h
      rw [Counted, List.filterMap_append]
      exact ⟨uid, h.step hs'⟩
  | android s =>
    cases e with
    | ios e => cases hs
    | android e =>
      rw [step_android] at hs
      obtain ⟨s', hs', rfl⟩ := Option.map_eq_some_iff.1 hs
      obtain ⟨campaign, h⟩ := h
      rw [Counted, List.filterMap_append]
      exact ⟨campaign, h.step hs'⟩

end GuideApp

namespace Platform

variable {ι : Type u} [DecidableEq ι] {s : Platform ι} {distance : CLLocation → CLLocation → Rat}

/-- On every map, in every run, each marker is drawn in the size of a number of people that its own
guide can have set: on iOS at most ten for each press of plus, on Android a value of the slider. -/
theorem drawn_sized (h : ∀ i, (s.guides i).Registered) (es : List (ι × GuideEvent)) :
    Always (withHistory (step distance degrees))
      (fun s => ∀ i, (s.1.guides i).DrawnSized (s.2.flatMap (own i))) (s, []) es := by
  apply always_of_invariant fun s : Platform ι × List (ι × GuideEvent) =>
    ∀ i, (s.1.guides i).Counted (s.2.flatMap (own i))
  · exact fun s h i => (h i).drawnSized
  · rintro ⟨s, hist⟩ e ⟨s', hist'⟩ h hs i
    obtain ⟨hs, rfl⟩ := withHistory_some hs
    rw [List.flatMap_append, List.flatMap_singleton]
    by_cases hi : e.1 = i
    · subst hi
      rw [own, if_pos rfl]
      exact (h e.1).step (step_own hs)
    · rw [own, if_neg hi, List.append_nil]
      exact (h i).alike (step_other hs (Ne.symm hi))
  · exact fun i => (h i).counted

theorem drawn_sized_pair :
    (∀ i, (pair.guides i).Registered) ∧
      Always (withHistory (step (fun _ _ => 0) fun _ _ => .nan))
        (fun s => ∀ i, (s.1.guides i).DrawnSized (s.2.flatMap (own i))) (pair, []) drawn ∧
      (run (step (fun _ _ => 0) fun _ _ => .nan) pair drawn).map (fun s => [true, false].map
        fun i => ((s.guides i).marker.bind MyMarker.view).map View.scale) =
        some [some (.finite (3 + 10 / 30)), some (.finite (3 + 60 / 30))] :=
  ⟨pair_registered, drawn_sized pair_registered drawn, by decide +kernel⟩

end Platform

end CrowdTracking
