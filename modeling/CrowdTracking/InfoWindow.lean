import CrowdTracking.MarkerIntervals

namespace CrowdTracking
set_option autoImplicit true
open Script Runs

/-- A campaign's value. None of its children overwrites what a marker keeps in its own state. -/
structure Profile where
  fields : Record Json
  plain : ∀ k ∈ ["crowd", "intervalId", "showInfoIndex"], fields.get k = none

/-- What the window of a marker shows. -/
structure InfoWindow where
  campaign_id : Option Json
  crowd_id : String
  name : Option Json
  email : Option Json
  phone : Option Json
  numberOfPeople : Option Json

/-- A marker with its window: `showInfoIndex` is absent for -1, `fetching` are the campaigns
asked for and not answered yet, `fetched` are the answers merged into the state, each with its
campaign. -/
structure InfoMarker where
  marker : MyMarker
  showInfoIndex : Option Nat
  fetching : List String
  fetched : List (String × Profile)

inductive InfoEvent where
  | marker (e : MarkerEvent)
  | showInfo
  | onToggleOpen
  | fetched (i : Nat) (value : Option Profile)

namespace InfoMarker

def mount (props : Props) (clock : Nat) : InfoMarker :=
  ⟨.mount props clock, none, [], []⟩

/-- What a database path may not contain. -/
def invalid (c : Char) : Bool := "[].#$".toList.contains c || c.toNat ≤ 0x1F || c.toNat = 0x7F

section Clicks

-- the text of a number, which `child` takes for its path
variable (string : Number → String)

/-- The path under which `child` finds a campaign; its test of a path is for strings alone, and it
throws for another value. -/
def child : Json → Option String
  | .num n => some (string n)
  | .str campaign_id => if campaign_id.toList.any invalid then none else some campaign_id
  | _ => none

/-- The campaign that a click asks for, if any; `none` is an exception of `child`. -/
def asks (m : MyMarker) : Option (List String) :=
  match m.props.crowd.get "campaign_id" with
  | none => some []
  | some campaign_id =>
    if campaign_id = .str "" then some [] else (child string campaign_id).map fun c => [c]

/-- `setState` of a part of the state that is not the crowd: an unmounted component ignores it. -/
def setState (m : MyMarker) (t : Nat) : MyMarker :=
  if m.mounted then (m.atTime t).rerender else m

/-- The last value merged under a key. -/
def state (s : InfoMarker) (k : String) : Option Json :=
  s.fetched.reverse.findSome? fun p => p.2.fields.get k

def shown (s : InfoMarker) : Bool := s.marker.mounted && s.marker.view.isSome

def window (s : InfoMarker) : Option InfoWindow :=
  if s.shown ∧ s.showInfoIndex = some s.marker.props.index then
    some ⟨s.marker.props.crowd.get "campaign_id", s.marker.props.campaign_id, s.state "name",
      s.state "email", s.state "phone", s.marker.crowd.get "numberOfPeople"⟩
  else none

/-- One timed event. Only what is drawn is clicked, and requests are answered in any order; an
absent campaign changes nothing. -/
def step (degrees : Number → Number → Number) (s : InfoMarker) (e : Nat × InfoEvent) :
    Option InfoMarker :=
  if e.1 < s.marker.clock then none
  else
    match e.2 with
    | .marker f => (s.marker.step degrees (e.1, f)).map fun m => { s with marker := m }
    | .showInfo =>
      if s.shown then
        match asks string s.marker with
        | none => some s
        | some campaigns => some { s with
            marker := setState s.marker e.1
            showInfoIndex := some s.marker.props.index
            fetching := s.fetching ++ campaigns }
      else none
    | .onToggleOpen =>
      if s.window.isSome then
        some { s with marker := setState s.marker e.1, showInfoIndex := none }
      else none
    | .fetched i value =>
      s.fetching[i]?.map fun c =>
        let s := { s with fetching := s.fetching.eraseIdx i }
        match value with
        | none => s
        | some p =>
          if s.marker.mounted then
            { s with marker := setState s.marker e.1, fetched := s.fetched ++ [(c, p)] }
          else s

/-- The campaigns asked for, answered or not. -/
def asked (s : InfoMarker) : List String := s.fetching ++ s.fetched.map Prod.fst

/-- The campaign of the crowd handed to a marker. -/
def campaign (props : Props) : Option String :=
  (props.crowd.get "campaign_id").bind (child string)

/-- Only the campaign that the marker stands for has been asked for. -/
def Belongs (s : InfoMarker) : Prop := ∀ c ∈ s.asked, campaign string s.marker.props = some c

/-- A window shows the details of the campaign that it names. -/
def Names (s : InfoMarker) : Prop :=
  ∀ w ∈ s.window, ∀ k v, (k, some v) ∈ [("name", w.name), ("email", w.email), ("phone", w.phone)] →
    ∃ p ∈ s.fetched, w.campaign_id.bind (child string) = some p.1 ∧ p.2.fields.get k = some v

/-- A marker that has asked for a campaign is not handed a crowd of another one. -/
def KeepsCampaign (s : InfoMarker) (e : Nat × InfoEvent) : Prop :=
  ∀ p, e.2 = .marker (.newProps p) → s.asked = [] ∨
    campaign string p = campaign string s.marker.props

end Clicks

/-- What a marker takes besides renders. -/
def heard (fs : List (Nat × MarkerEvent)) : List (Nat × MarkerEvent) :=
  fs.filter fun e => match e.2 with
    | .newProps _ => false
    | _ => true

def own : Nat × InfoEvent → Option (Nat × MarkerEvent)
  | (t, .marker e) => some (t, e)
  | _ => none

variable {string : Number → String} {degrees : Number → Number → Number}
  {s s' : InfoMarker} {e : Nat × InfoEvent}

@[simp] theorem setState_props (m : MyMarker) (t : Nat) : (setState m t).props = m.props := by
  rw [setState]
  split
  · exact MyMarker.rerender_props (m.atTime t)
  · rfl

/-- To the marker, a change of the window is another render with the same props. -/
theorem run_setState (m : MyMarker) (ht : m.clock ≤ t) :
    ∃ fs, run (MyMarker.step degrees) m fs = some (setState m t) ∧ heard fs = [] := by
  rw [setState]
  by_cases hm : m.mounted
  · refine ⟨[(t, .newProps m.props)], ?_, rfl⟩
    rw [if_pos hm, run_cons, MyMarker.step, if_neg (Nat.not_lt.2 ht)]
    have hmounted : (m.atTime t).mounted := hm
    simp only [hmounted, ↓reduceIte]
    rfl
  · refine ⟨[], ?_, rfl⟩
    rw [if_neg hm, run_nil]

/-- The ways an event acts. -/
inductive Stepped (string : Number → String) (degrees : Number → Number → Number)
    (s : InfoMarker) (t : Nat) : InfoEvent → InfoMarker → Prop where
  | marker (hm : s.marker.step degrees (t, f) = some m) :
      Stepped string degrees s t (.marker f) { s with marker := m }
  | thrown (ha : asks string s.marker = none) : Stepped string degrees s t .showInfo s
  | opened (hs : s.shown) (ha : asks string s.marker = some campaigns) :
      Stepped string degrees s t .showInfo { s with
        marker := setState s.marker t
        showInfoIndex := some s.marker.props.index
        fetching := s.fetching ++ campaigns }
  | closed (hs : s.window.isSome) :
      Stepped string degrees s t .onToggleOpen
        { s with marker := setState s.marker t, showInfoIndex := none }
  | ignored (hv : value = none ∨ ¬s.marker.mounted) :
      Stepped string degrees s t (.fetched i value) { s with fetching := s.fetching.eraseIdx i }
  | merged (hc : s.fetching[i]? = some c) (hm : s.marker.mounted) :
      Stepped string degrees s t (.fetched i (some p)) { s with
        marker := setState s.marker t
        fetching := s.fetching.eraseIdx i
        fetched := s.fetched ++ [(c, p)] }

theorem step_stepped (h : s.step string degrees e = some s') :
    s.marker.clock ≤ e.1 ∧ Stepped string degrees s e.1 e.2 s' := by
  obtain ⟨t, e⟩ := e
  rw [step] at h
  split at h
  · cases h
  · rename_i ht
    refine ⟨Nat.le_of_not_lt ht, ?_⟩
    cases e with
    | marker f =>
      obtain ⟨m, hm, rfl⟩ := Option.map_eq_some_iff.1 h
      exact .marker hm
    | showInfo =>
      obtain ⟨hs, h⟩ := Option.ite_none_right_eq_some.1 h
      split at h
      · rename_i ha
        cases h
        exact .thrown ha
      · rename_i campaigns ha
        cases h
        exact .opened hs ha
    | onToggleOpen =>
      obtain ⟨hs, h⟩ := Option.ite_none_right_eq_some.1 h
      cases h
      exact .closed hs
    | fetched i value =>
      obtain ⟨c, hc, rfl⟩ := Option.map_eq_some_iff.1 h
      cases value with
      | none => exact .ignored (.inl rfl)
      | some p =>
        by_cases hm : s.marker.mounted
        · simp only [hm, ↓reduceIte]
          exact .merged hc hm
        · simp only [hm, Bool.false_eq_true, ↓reduceIte]
          exact .ignored (.inr hm)

theorem step_marker (h : s.step string degrees e = some s') :
    ∃ fs, run (MyMarker.step degrees) s.marker fs = some s'.marker ∧
      heard fs = heard (own e).toList := by
  obtain ⟨t, f⟩ := e
  obtain ⟨ht, hstepped⟩ := step_stepped h
  cases hstepped with
  | marker hm =>
    rename_i f m
    exact ⟨[(t, f)], by rw [run_cons, hm]; rfl, rfl⟩
  | thrown | ignored => exact ⟨[], rfl, rfl⟩
  | opened | closed | merged => exact run_setState s.marker ht

def props : Props := ⟨"k", 0, ((Record.empty.put "campaign_id" (.str "c")).put "location"
  (.obj ((Record.empty.put "lat" (.num (.finite 21))).put "lng" (.num (.finite 39))))),
  true, true, true⟩

def profile : Profile where
  fields := Record.empty.put "name" (.str "n")
  plain := by decide

/-- A window that is opened, filled and closed while the marker hears of a stop. -/
def clicks : List (Nat × InfoEvent) :=
  [(0, .showInfo), (5, .fetched 0 (some profile)),
    (6, .marker (.childChanged "k" (.str "inActive"))), (7, .onToggleOpen)]

theorem asks_campaign {m : MyMarker} (h : asks string m = some campaigns) (hc : c ∈ campaigns) :
    campaign string m.props = some c := by
  rw [asks] at h
  cases hid : m.props.crowd.get "campaign_id" with
  | none =>
    rw [hid] at h
    cases h
    cases hc
  | some campaign_id =>
    rw [hid] at h
    simp only at h
    split at h
    · cases h
      cases hc
    · obtain ⟨d, hd, rfl⟩ := Option.map_eq_some_iff.1 h
      rw [campaign, hid, Option.bind_some, hd, List.mem_singleton.1 hc]

/-- A marker's props change only when new ones are handed to it. -/
theorem stepped_props {m m' : MyMarker} (h : MyMarker.Stepped degrees m t f m') :
    m'.props = m.props ∨ f = .newProps m'.props := by
  cases h with
  | handled h => exact .inl (MyMarker.handled_frame h).1
  | thrown => exact .inl rfl
  | newProps p hm =>
    apply Or.inr
    rw [MyMarker.newProps, MyMarker.rerender_props]
  | interval hi hid hdue hf =>
    apply Or.inl
    rw [MyMarker.fire_eq, MyMarker.setCrowd_props]
    rfl
  | unmount hm => exact .inl rfl

theorem Belongs.mono (h : Belongs string s) (hp : s'.marker.props = s.marker.props)
    (hasked : ∀ c ∈ s'.asked, c ∈ s.asked) : Belongs string s' := by
  intro c hc
  rw [hp]
  exact h c (hasked c hc)

theorem Belongs.step (h : Belongs string s) (hs : s.step string degrees e = some s')
    (hC : KeepsCampaign string s e) : Belongs string s' := by
  obtain ⟨t, f⟩ := e
  obtain ⟨-, hstepped⟩ := step_stepped hs
  have hprops := setState_props s.marker t
  cases hstepped with
  | marker hm =>
    rename_i f m
    rcases stepped_props (MyMarker.step_stepped hm).2 with hp | rfl
    · exact h.mono hp fun c hc => hc
    · intro c hc
      rcases hC _ rfl with hnone | hp
      · have hmem : c ∈ s.asked := hc
        rw [hnone] at hmem
        cases hmem
      · exact hp.trans (h c hc)
  | thrown => exact h
  | opened hshown ha =>
    intro c hc
    rw [hprops]
    rcases List.mem_append.1 hc with hc | hc
    · rcases List.mem_append.1 hc with hc | hc
      · exact h c (List.mem_append_left _ hc)
      · exact asks_campaign ha hc
    · exact h c (List.mem_append_right _ hc)
  | closed => exact h.mono hprops fun c hc => hc
  | ignored =>
    intro c hc
    apply h c
    rcases List.mem_append.1 hc with hc | hc
    · exact List.mem_append_left _ (List.mem_of_mem_eraseIdx hc)
    · exact List.mem_append_right _ hc
  | merged hc hm =>
    rename_i i c p
    apply h.mono hprops
    intro d hd
    rcases List.mem_append.1 hd with hd | hd
    · exact List.mem_append_left _ (List.mem_of_mem_eraseIdx hd)
    · rw [List.map_append] at hd
      rcases List.mem_append.1 hd with hd | hd
      · exact List.mem_append_right _ hd
      · rw [List.mem_singleton.1 hd]
        exact List.mem_append_left _ (List.mem_of_getElem? hc)

/-- Details that are shown have been fetched for the campaign of the marker. -/
theorem Belongs.names (h : Belongs string s) : Names string s := by
  intro w hw k v hk
  have hw' : s.window = some w := hw
  obtain ⟨-, hw'⟩ := Option.ite_none_right_eq_some.1 hw'
  cases hw'
  have hstate : s.state k = some v := by
    simp only [List.mem_cons, Prod.mk.injEq, List.not_mem_nil, or_false] at hk
    rcases hk with ⟨rfl, hv⟩ | ⟨rfl, hv⟩ | ⟨rfl, hv⟩
    · exact hv.symm
    · exact hv.symm
    · exact hv.symm
  obtain ⟨p, hp, hget⟩ := List.exists_of_findSome?_eq_some hstate
  have hmem := List.mem_reverse.1 hp
  exact ⟨p, hmem, h p.1 (List.mem_append_right _ (List.mem_map_of_mem hmem)), hget⟩

/-- A marker that is handed another campaign has asked for none, where its requests belong to its
campaign afterwards. -/
theorem Belongs.bad (h : Belongs string s) (hs : s.step string degrees e = some s')
    (hP : Belongs string s') : KeepsCampaign string s e := by
  intro p hp
  obtain ⟨t, f⟩ := e
  obtain rfl : f = .marker (.newProps p) := hp
  obtain ⟨-, hstepped⟩ := step_stepped hs
  cases hstepped with
  | marker hm =>
    rename_i m
    cases hlist : s.asked with
    | nil => exact .inl rfl
    | cons c cs =>
      have hc : c ∈ s.asked := by
        rw [hlist]
        exact List.mem_cons_self
      have hprops : m.props = p := by
        cases (MyMarker.step_stepped hm).2 with
        | newProps p hm => rw [MyMarker.newProps, MyMarker.rerender_props]
      have hafter : campaign string m.props = some c := hP c hc
      rw [hprops] at hafter
      exact .inr (hafter.trans (h c hc).symm)

end InfoMarker

end CrowdTracking
