import CrowdTracking.Session

namespace CrowdTracking
set_option autoImplicit true
open Database Runs

def fixes (hist : List MainEvent) : List (Rat × Rat) := hist.filterMap MainEvent.fix

/-- The last position written: the registered one before any fix. -/
def lastPosition (hist : List MainEvent) : Rat × Rat := (fixes hist).getLast?.getD (0, 0)

def crowdFields : List String := ["campaign_id", "location", "numberOfPeople", "status"]

theorem fixes_append (hist : List MainEvent) (e : MainEvent) :
    fixes (hist ++ [e]) = fixes hist ++ e.fix.toList := by
  rw [fixes, List.filterMap_append]
  cases h : e.fix <;> simp [h, fixes]

theorem fixes_unfixed {e : MainEvent} (he : e.fix = none) : fixes (hist ++ [e]) = fixes hist := by
  rw [fixes_append, he]
  exact List.append_nil _

theorem lastPosition_unfixed {e : MainEvent} (he : e.fix = none) :
    lastPosition (hist ++ [e]) = lastPosition hist := by
  rw [lastPosition, fixes_unfixed he, lastPosition]

theorem lastPosition_fixed :
    lastPosition (hist ++ [.onLocationChanged l lat lng]) = (lat, lng) := by
  rw [lastPosition, fixes_append]
  simp [MainEvent.fix]

namespace MainActivity

/-- What the screen's map holds: nothing of the campaign and the position before the first fix,
the session's campaign and the last position after it. -/
structure Gathered (campaign : String) (a : MainActivity) (p : Phone) (hist : List MainEvent) :
    Prop where
  campaign_id : p.tafweej.campaign_id = some campaign
  status : p.tafweej.status.isSome
  mLocation : a.mLocation = .empty ∨ ∃ lat lng, .obj a.mLocation = position lat lng
  fields : ∀ k, (a.crowdData.get k).isSome → k ∈ crowdFields
  held : p.registered ≠ [] → a.locationListener.isSome
  counted : a.locationListener.isSome → (a.crowdData.get "numberOfPeople").isSome
  unfixed : fixes hist = [] →
    a.crowdData.get "campaign_id" = none ∧ a.crowdData.get "location" = none
  fixed : fixes hist ≠ [] → a.crowdData.get "campaign_id" = some (.str campaign) ∧
    a.crowdData.get "location" = some (position (lastPosition hist).1 (lastPosition hist).2)

variable {campaign : String} {a a' : MainActivity} {p p' : Phone} {e : MainEvent}
  {hist : List MainEvent}

theorem put_fields {r : Record Json} (h : ∀ k, (r.get k).isSome → k ∈ crowdFields)
    (hl : l ∈ crowdFields) : ∀ k, ((r.put l v).get k).isSome → k ∈ crowdFields := by
  intro k hk
  rw [Record.get_put] at hk
  split at hk
  · rename_i hlk
    exact hlk ▸ hl
  · exact h k hk

theorem position_put (h : r = .empty ∨ ∃ lat lng, Json.obj r = position lat lng) :
    .obj ((r.put "lat" (.num (.finite lat))).put "lng" (.num (.finite lng))) =
      position lat lng := by
  rcases h with rfl | ⟨lat', lng', h⟩
  · rfl
  · cases h
    rfl

theorem onLocationChanged_crowdData (h : Gathered campaign a p hist) (lat lng : Rat) :
    ∃ status, p.tafweej.status = some status ∧
      (a.onLocationChanged p lat lng).1.crowdData =
        ((a.crowdData.put "campaign_id" (.str campaign)).put "location" (position lat lng)).put
          "status" (.str status) ∧
      .obj (a.onLocationChanged p lat lng).1.mLocation = position lat lng := by
  obtain ⟨status, hstatus⟩ := Option.isSome_iff_exists.1 h.status
  refine ⟨status, hstatus, ?_, position_put h.mLocation⟩
  simp only [onLocationChanged, h.campaign_id, hstatus, putNullable, position_put h.mLocation]

/-- Without a fix a map that keeps its campaign and its position still holds them. -/
theorem Gathered.kept {r : Record Json} (h : Gathered campaign a p hist) (hfix : e.fix = none)
    (hcampaign : r.get "campaign_id" = a.crowdData.get "campaign_id")
    (hlocation : r.get "location" = a.crowdData.get "location") :
    (fixes (hist ++ [e]) = [] → r.get "campaign_id" = none ∧ r.get "location" = none) ∧
      (fixes (hist ++ [e]) ≠ [] → r.get "campaign_id" = some (.str campaign) ∧
        r.get "location" = some (position (lastPosition (hist ++ [e])).1
          (lastPosition (hist ++ [e])).2)) := by
  rw [fixes_unfixed hfix, lastPosition_unfixed hfix, hcampaign, hlocation]
  exact ⟨h.unfixed, h.fixed⟩

theorem Gathered.step (h : Gathered campaign a p hist) (hs : a.Stepped p e a' p' ws) :
    Gathered campaign a' p' (hist ++ [e]) := by
  cases hs with
  | idle n fine coarse hf hl hfix hdis hstop hs =>
    obtain ⟨hunfixed, hfixed⟩ := h.kept hfix rfl rfl
    exact ⟨h.campaign_id, h.status, h.mLocation, h.fields, h.held, h.counted, hunfixed, hfixed⟩
  | started hs hfine hvis hservice =>
    obtain ⟨hunfixed, hfixed⟩ := h.kept (fix_of_starts hs)
      (Record.get_put_of_ne (k := "numberOfPeople") a.crowdData (.num (.finite a.progressValue))
        (by decide))
      (Record.get_put_of_ne (k := "numberOfPeople") a.crowdData (.num (.finite a.progressValue))
        (by decide))
    have hcounted : ((a.crowdData.put "numberOfPeople" (.num (.finite a.progressValue))).get
        "numberOfPeople").isSome := by
      rw [Record.get_put_self]
      rfl
    exact ⟨h.campaign_id, rfl, h.mLocation, put_fields h.fields (by decide), fun _ => rfl,
      fun _ => hcounted, hunfixed, hfixed⟩
  | located he hl hown =>
    subst he
    obtain ⟨status, hstatus, hdata, hloc⟩ := onLocationChanged_crowdData h _ _
    refine ⟨h.campaign_id, h.status, .inr ⟨_, _, hloc⟩, ?_, h.held, ?_, ?_, ?_⟩
    · rw [hdata]
      exact put_fields (put_fields (put_fields h.fields (by decide)) (by decide)) (by decide)
    · intro hheld
      rw [hdata, Record.get_put_of_ne _ _ (by decide), Record.get_put_of_ne _ _ (by decide),
        Record.get_put_of_ne _ _ (by decide)]
      exact h.counted hheld
    · rw [fixes_append]
      simp [MainEvent.fix]
    · intro _
      rw [hdata, lastPosition_fixed]
      simp [Record.get_put]
  | disabled he hl hown =>
    subst he
    obtain ⟨hunfixed, hfixed⟩ := h.kept (e := .onProviderDisabled _) rfl rfl rfl
    exact ⟨h.campaign_id, h.status, h.mLocation, h.fields, h.held, h.counted, hunfixed, hfixed⟩
  | stopped he hvis hl =>
    subst he
    obtain ⟨hunfixed, hfixed⟩ := h.kept (e := .buttonStop) rfl
      (Record.get_put_of_ne (k := "status") a.crowdData (.str "inActive") (by decide))
      (Record.get_put_of_ne (k := "status") a.crowdData (.str "inActive") (by decide))
    refine ⟨h.campaign_id, rfl, h.mLocation, put_fields h.fields (by decide), ?_, ?_, hunfixed,
      hfixed⟩
    · intro _
      rw [hl]
      rfl
    · rw [Record.get_put_of_ne _ _ (by decide)]
      exact h.counted

end MainActivity

namespace Session

open MainActivity

/-- The node has the session's campaign, the position, a count and a status. -/
structure Complete (campaign : String) (pos : Rat × Rat) (node : Json) : Prop where
  campaign_id : node.child "campaign_id" = some (.str campaign)
  location : node.child "location" = some (position pos.1 pos.2)
  numberOfPeople : (node.child "numberOfPeople").isSome
  status : (node.child "status").isSome

instance (node : Json) : Decidable (Complete campaign pos node) :=
  decidable_of_iff (_ ∧ _ ∧ _ ∧ _) ⟨fun h => ⟨h.1, h.2.1, h.2.2.1, h.2.2.2⟩,
    fun h => ⟨h.1, h.2, h.3, h.4⟩⟩

/-- No field that a write of the session stored is missing from the node. -/
def Kept (s : Session) : Prop := ∀ w ∈ s.log, ∀ k ∈ w.fields, (s.node.child k).isSome

instance (s : Session) : Decidable (Kept s) :=
  inferInstanceAs (Decidable (∀ w ∈ s.log, ∀ k ∈ w.fields, (s.node.child k).isSome))

/-- The node is complete, with the last position written. -/
def NodeComplete (campaign : String) (s : Session × List MainEvent) : Prop :=
  Complete campaign (lastPosition s.2) s.1.node ∧ Kept s.1

instance : Decidable (NodeComplete campaign s) := inferInstanceAs (Decidable (_ ∧ _))

/-- Stop is not pressed before the first fix. -/
def FixedBeforeStop (s : Session × List MainEvent) (e : MainEvent) : Prop :=
  e = .buttonStop → fixes s.2 ≠ []

instance : Decidable (FixedBeforeStop s e) := inferInstanceAs (Decidable (_ → _))

def WritesCrowdFields (s : Session) : Prop := ∀ w ∈ s.log, ∀ k ∈ w.fields, k ∈ crowdFields

theorem Complete.kept {s : Session} (h : Complete campaign pos s.node)
    (hw : WritesCrowdFields s) : Kept s := by
  intro w hmem k hk
  have hfield := hw w hmem k hk
  simp only [crowdFields, List.mem_cons, List.not_mem_nil, or_false] at hfield
  rcases hfield with rfl | rfl | rfl | rfl
  · rw [h.campaign_id]
    rfl
  · rw [h.location]
    rfl
  · exact h.numberOfPeople
  · exact h.status

theorem complete_of_gathered (h : Gathered campaign a p hist) (hfix : fixes hist ≠ [])
    (hheld : a.locationListener.isSome) (hstatus : (a.crowdData.get "status").isSome) :
    Complete campaign (lastPosition hist) (.obj a.crowdData) :=
  ⟨(h.fixed hfix).1, (h.fixed hfix).2, h.counted hheld, hstatus⟩

/-- A step that writes nothing brings no fix, and a step that writes leaves a complete node. -/
theorem complete_step (h : Gathered campaign a p hist) (hs : a.Stepped p e a' p' ws)
    (hC : e = .buttonStop → fixes hist ≠ []) :
    (ws = [] ∧ lastPosition (hist ++ [e]) = lastPosition hist) ∨
      (ws = [.setValue (crowdPath a.child) (.obj a'.crowdData)] ∧
        Complete campaign (lastPosition (hist ++ [e])) (.obj a'.crowdData)) := by
  have hg := h.step hs
  cases hs with
  | idle n fine coarse hf hl hfix hdis hstop hs => exact .inl ⟨rfl, lastPosition_unfixed hfix⟩
  | started hs hfine hvis hservice =>
    exact .inl ⟨rfl, lastPosition_unfixed (fix_of_starts hs)⟩
  | located he hl hown =>
    refine .inr ⟨rfl, complete_of_gathered hg ?_ (h.held (List.ne_nil_of_mem hl)) ?_⟩
    · rw [fixes_append, he]
      simp [MainEvent.fix]
    · obtain ⟨status, -, hdata, -⟩ := onLocationChanged_crowdData h _ _
      rw [hdata]
      simp
  | disabled he hl hown => exact .inl ⟨rfl, lastPosition_unfixed (by rw [he]; rfl)⟩
  | stopped he hvis hl =>
    refine .inr ⟨rfl, complete_of_gathered hg ?_ (by simp [hl]) (by simp)⟩
    rw [fixes_unfixed (by rw [he]; rfl)]
    exact hC he

/-- What holds in every state: the map gathered, the fields written, and, while Stop waits for a
fix, a complete node. -/
structure Recorded (campaign : String) (s : Session × List MainEvent) : Prop where
  gathered : Gathered campaign s.1.activity s.1.phone s.2
  writes : WritesCrowdFields s.1
  complete : Complete campaign (lastPosition s.2) s.1.node

theorem WritesCrowdFields.step {s s' : Session} (h : WritesCrowdFields s)
    (hs : s.activity.Stepped s.phone e s'.activity s'.phone ws) (hlog : s'.log = s.log ++ ws)
    (hg : Gathered campaign s'.activity s'.phone hist) : WritesCrowdFields s' := by
  intro w hmem k hk
  rw [hlog, List.mem_append] at hmem
  rcases hmem with hmem | hmem
  · exact h w hmem k hk
  · rcases hs.writes with rfl | rfl
    · cases hmem
    · rw [List.mem_singleton] at hmem
      subst hmem
      exact hg.fields k ((Record.get_isSome_iff _ _).2 hk)

theorem node_start (fine coarse service : Bool) (u : SignUp) (draw : Draw) (t : Json) :
    (start fine coarse service u draw t).node = .obj
      ((((Record.empty.put "campaign_id" (.str u.campaign_id)).put "location"
        VerificationActivity.location).put "numberOfPeople" (.num (.finite 0))).put "status"
        (.str "InActive")) := by
  rw [node, start]
  exact congrArg (Option.getD · _) (getAt_setAt_self _ _ _)

theorem recorded_start (fine coarse service : Bool) (u : SignUp) (draw : Draw) (t : Json) :
    Recorded u.campaign_id (start fine coarse service u draw t, []) := by
  refine ⟨⟨rfl, rfl, .inl rfl, nofun, fun h => absurd rfl h, nofun, fun _ => ⟨rfl, rfl⟩,
    fun h => absurd rfl h⟩, ?_, ?_⟩
  · intro w hmem k hk
    rw [start, List.mem_singleton] at hmem
    subst hmem
    exact hk
  · rw [node_start]
    exact ⟨by simp [Record.get_put], by simp [Record.get_put]; rfl, by simp [Record.get_put],
      by simp⟩

theorem recorded_step (h : Recorded campaign s) (hs : withHistory step s e = some s')
    (hC : FixedBeforeStop s e) : Recorded campaign s' := by
  obtain ⟨hs, hhist⟩ := withHistory_some hs
  obtain ⟨ws, hstep, hlog, hdb⟩ := step_stepped hs
  have hg := h.gathered.step hstep
  rw [← hhist] at hg
  refine ⟨hg, h.writes.step hstep hlog hg, ?_⟩
  rcases complete_step h.gathered hstep hC with ⟨rfl, hpos⟩ | ⟨rfl, hcomplete⟩
  · rw [hhist, hpos, node_unwritten hs hdb]
    exact h.complete
  · rw [hhist, node_written hs hdb]
    exact hcomplete

theorem fixedBeforeStop_of_complete (h : Recorded campaign s)
    (hs : withHistory step s e = some s') (hQ : NodeComplete campaign s') :
    FixedBeforeStop s e := by
  rintro rfl hfix
  obtain ⟨hs, -⟩ := withHistory_some hs
  obtain ⟨ws, hstep, -, hdb⟩ := step_stepped hs
  have hcampaign := hQ.1.campaign_id
  obtain ⟨⟨a', p', t', log'⟩, hist'⟩ := s'
  cases hstep with
  | idle n fine coarse hf hl hfix hdis hstop hidle => exact hstop rfl
  | started hstart hfine hvis hservice => cases hstart
  | located he hl hown => cases he
  | disabled he hl hown => cases he
  | stopped he hvis hl =>
    rw [node_written hs hdb, Json.child_obj, Record.get_put_of_ne _ _ (by decide),
      (h.gathered.unfixed hfix).1] at hcampaign
    cases hcampaign

/-- Every write leaves a complete node in exactly the runs in which Stop waits for a fix. -/
theorem node_complete (fine coarse service : Bool) (u : SignUp) (draw : Draw) (t : Json)
    (es : List MainEvent) :
    Always (withHistory step) (NodeComplete u.campaign_id)
        (start fine coarse service u draw t, []) es ↔
      Along (withHistory step) FixedBeforeStop (start fine coarse service u draw t, []) es :=
  always_iff_along (Recorded u.campaign_id) (fun _ h => ⟨h.complete, h.complete.kept h.writes⟩)
    (fun _ _ _ h hs hC => recorded_step h hs hC)
    (fun _ _ _ h hs hQ => fixedBeforeStop_of_complete h hs hQ)
    (recorded_start fine coarse service u draw t)

/-- Start and Stop without a fix leave a node with a count and a status only. -/
theorem campaign_erased :
    ¬Always (withHistory step) (NodeComplete "c")
      (start true true true ⟨"c", "p"⟩ ⟨0, 0, 0⟩ (.obj .empty), [])
      [.buttonStart, .buttonStop] := by
  decide +kernel

end Session

end CrowdTracking
