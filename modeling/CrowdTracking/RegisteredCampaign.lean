import Mathlib.Data.List.Forall2
import CrowdTracking.Credentials

namespace CrowdTracking
set_option autoImplicit true
open Database Runs

namespace Login

/-- A snapshot has the value that the database has at its path. -/
def Reads (s : Login) (database : Json) : LoginEvent → Prop
  | .observed i value => ∀ a ∈ s.observing[i]?, value = getAt a.path database
  | _ => True

instance (s : Login) (database : Json) : DecidablePred (s.Reads database)
  | .observed i value =>
    inferInstanceAs (Decidable (∀ a ∈ s.observing[i]?, value = getAt a.path database))
  | .loginHandler _ _ | .signedIn _ _ | .main => isTrue trivial

/-- The login beside a database that changes: each event comes with its content at the time. -/
def stepIn (u : Unicode) (s : Login) (e : Json × LoginEvent) : Option Login :=
  if s.Reads e.1 e.2 then s.step u e.2 else none

/-- The typed id is a key under `Campaign`, and the value there is an object with the typed number
as its phone. -/
structure Matches (u : Unicode) (database : Json) (campaignInput phonenumberInput : String) :
    Prop where
  id : u.lowercased campaignInput ≠ ""
  key : '/' ∉ (u.lowercased campaignInput).toList
  number : phonenumberInput ≠ ""
  phone : ∃ data, getAt ["Campaign", u.lowercased campaignInput] database = some (.obj data) ∧
    ∃ phone, data.get "phone" = some (.str phone) ∧ u.equal phone phonenumberInput

/-- Which event of a history each outstanding callback and each write comes from: the press that a
callback waits for, and then also the snapshot that it accepted. -/
structure Origins where
  observing : List Nat
  signingIn : List (Nat × Nat)
  written : List (Nat × Nat)

/-- An event adds an origin where it adds a callback or a write, and takes one away where it
completes a callback. -/
def Origins.next (o : Origins) (s s' : Login) (n : Nat) : LoginEvent → Origins
  | .loginHandler _ _ => { o with
      observing := o.observing ++ List.replicate (s'.observing.length - s.observing.length) n }
  | .observed i _ => { o with
      observing := o.observing.eraseIdx i
      signingIn := o.signingIn ++ if s.signingIn.length < s'.signingIn.length
        then o.observing[i]?.toList.map fun press => (press, n) else [] }
  | .signedIn i _ => { o with
      signingIn := o.signingIn.eraseIdx i
      written := o.written ++ if s.written.length < s'.written.length
        then o.signingIn[i]?.toList else [] }
  | .main => o

/-- The login with its history and the origins of what is outstanding and written. -/
structure Traced where
  login : Login
  hist : List (Json × LoginEvent)
  origins : Origins

def Traced.step (u : Unicode) (s : Traced) (e : Json × LoginEvent) : Option Traced :=
  (s.login.stepIn u e).map fun s' =>
    ⟨s', s.hist ++ [e], s.origins.next s.login s' s.hist.length e.2⟩

def Traced.launched (saved : Option Model.Campaign) : Traced := ⟨.launched saved, [], ⟨[], [], []⟩⟩

/-- At the one place of the history an id and a number were typed, at the other the snapshot came,
and the database that it was read from matches them; the campaign is the lowercased id. -/
def Vouched (u : Unicode) (hist : List (Json × LoginEvent)) (uid : String) (o : Nat × Nat) : Prop :=
  ∃ campaignInput phonenumberInput t database i value,
    hist[o.1]? = some (t, .loginHandler campaignInput phonenumberInput) ∧
    hist[o.2]? = some (database, .observed i value) ∧
    Matches u database campaignInput phonenumberInput ∧ uid = u.lowercased campaignInput

/-- Each sign-in that waits to register a crowd, and each node written, is vouched for by the press
and the snapshot that led to it. -/
structure Sound (u : Unicode) (s : Traced) : Prop where
  signingIn : List.Forall₂ (fun r o => Vouched u s.hist r.key o) s.login.signingIn
    s.origins.signingIn
  written : List.Forall₂ (fun w o => ∃ uid key,
    w = ViewController.registration uid key ∧ Vouched u s.hist uid o) s.login.written
    s.origins.written

variable {u : Unicode} {a : Attempt} {s s' : Traced} {es : List (Json × LoginEvent)}
  {e : Json × LoginEvent}

theorem mem_splitOnP {p : α → Bool} {xs l : List α} (h : l ∈ xs.splitOnP p) :
    ∀ x ∈ l, p x = false := by
  induction xs generalizing l with
  | nil =>
    rw [List.splitOnP_nil, List.mem_singleton] at h
    rw [h]
    exact List.forall_mem_nil _
  | cons y ys ih =>
    rw [List.splitOnP_cons_eq_if_modifyHead] at h
    split at h
    · rcases List.mem_cons.1 h with rfl | h
      · exact List.forall_mem_nil _
      · exact ih h
    · rename_i hy
      obtain ⟨m, ms, hm⟩ := List.exists_cons_of_ne_nil (List.splitOnP_ne_nil p ys)
      rw [hm, List.modifyHead_cons, List.mem_cons] at h
      rcases h with rfl | h
      · rw [List.forall_mem_cons]
        exact ⟨Bool.eq_false_of_not_eq_true hy, ih (hm ▸ List.mem_cons_self)⟩
      · exact ih (hm ▸ List.mem_cons_of_mem m h)

theorem mem_segments (h : l ∈ segments path) : '/' ∉ l.toList := by
  obtain ⟨cs, hcs, rfl⟩ := List.mem_map.1 (List.mem_filter.1 h).1
  rw [String.toList_ofList]
  intro hmem
  exact absurd (mem_splitOnP hcs _ hmem) (by decide)

theorem key_slash_free (a : Attempt) : '/' ∉ a.key.toList := by
  rw [Attempt.key, Attempt.path, List.getLast?_cons, Option.getD_some]
  cases h : (segments a.campaign_id).getLast? with
  | none => decide
  | some l => exact mem_segments (List.mem_of_getLast? h)

/-- What an attempt looks for was typed at a place of the history, and neither field was empty. -/
def Typed (u : Unicode) (es : List (Json × LoginEvent)) (a : Attempt) (press : Nat) : Prop :=
  ∃ campaignInput phonenumberInput t,
    es[press]? = some (t, .loginHandler campaignInput phonenumberInput) ∧
    a = ⟨u.lowercased campaignInput, phonenumberInput⟩ ∧
    u.lowercased campaignInput ≠ "" ∧ phonenumberInput ≠ ""

/-- The callbacks and writes, each with its origin. -/
structure Attested (u : Unicode) (s : Traced) : Prop extends Sound u s where
  observing : List.Forall₂ (Typed u s.hist) s.login.observing s.origins.observing

theorem forall₂_eraseIdx {R : α → β → Prop} {xs : List α} {ys : List β}
    (h : List.Forall₂ R xs ys) (i : Nat) : List.Forall₂ R (xs.eraseIdx i) (ys.eraseIdx i) := by
  induction h generalizing i with
  | nil => exact .nil
  | cons hxy h ih =>
    cases i with
    | zero => exact h
    | succ i => exact .cons hxy (ih i)

theorem forall₂_getElem? {R : α → β → Prop} {xs : List α} {ys : List β} {i : Nat} {x : α}
    (h : List.Forall₂ R xs ys) (hx : xs[i]? = some x) : ∃ y, ys[i]? = some y ∧ R x y := by
  induction h generalizing i with
  | nil => cases hx
  | cons hxy h ih =>
    cases i with
    | zero =>
      cases hx
      exact ⟨_, rfl, hxy⟩
    | succ i => exact ih hx

theorem getElem?_concat {i : Nat} {x : Json × LoginEvent} (h : es[i]? = some x)
    (e : Json × LoginEvent) : (es ++ [e])[i]? = some x := by
  obtain ⟨hi, -⟩ := List.getElem?_eq_some_iff.1 h
  rw [List.getElem?_append_left hi, h]

theorem Typed.concat (h : Typed u es a n) (e : Json × LoginEvent) : Typed u (es ++ [e]) a n := by
  obtain ⟨c, p, t, ht, h⟩ := h
  exact ⟨c, p, t, getElem?_concat ht e, h⟩

theorem Vouched.concat (h : Vouched u es uid o) (e : Json × LoginEvent) :
    Vouched u (es ++ [e]) uid o := by
  obtain ⟨c, p, t, d, i, v, hpress, hsnapshot, h⟩ := h
  exact ⟨c, p, t, d, i, v, getElem?_concat hpress e, getElem?_concat hsnapshot e, h⟩

theorem Attested.concat (h : Attested u s) (e : Json × LoginEvent) :
    Attested u { s with hist := s.hist ++ [e] } := by
  refine ⟨⟨?_, ?_⟩, ?_⟩
  · exact h.signingIn.imp fun _ _ h => h.concat e
  · exact h.written.imp fun _ _ ⟨uid, key, hw, h⟩ => ⟨uid, key, hw, h.concat e⟩
  · exact h.observing.imp fun _ _ h => h.concat e

theorem loginHandler_typed
    (h : ViewController.loginHandler u campaignInput phonenumberInput = some (some a))
    (hmem : es[n]? = some (t, .loginHandler campaignInput phonenumberInput)) : Typed u es a n := by
  simp only [ViewController.loginHandler] at h
  split at h
  · cases h
  · rename_i hne
    rw [not_or] at hne
    split at h
    · cases h
      exact ⟨campaignInput, phonenumberInput, t, hmem, rfl, hne⟩
    · cases h

section Slash

variable (hslash : ∀ s t, u.equal s t → ('/' ∈ s.toList ↔ '/' ∈ t.toList))
include hslash

/-- The test compares the key of the snapshot, so that the path cannot have led elsewhere. -/
theorem path_of_equal (hid : a.campaign_id ≠ "") (h : u.equal a.key a.campaign_id) :
    '/' ∉ a.campaign_id.toList ∧ a.path = ["Campaign", a.campaign_id] ∧ a.key = a.campaign_id := by
  have hfree : '/' ∉ a.campaign_id.toList := by
    rw [← hslash _ _ h]
    exact key_slash_free a
  have hpath : a.path = ["Campaign", a.campaign_id] := by
    rw [Attempt.path, Credentials.segments_slash_free hid hfree]
  refine ⟨hfree, hpath, ?_⟩
  rw [Attempt.key, hpath]
  rfl

theorem accepts_matches (hid : u.lowercased campaignInput ≠ "") (hnumber : phonenumberInput ≠ "")
    (h : r ∈ Attempt.accepts u ⟨u.lowercased campaignInput, phonenumberInput⟩
      (getAt (Attempt.path ⟨u.lowercased campaignInput, phonenumberInput⟩) database)) :
    Matches u database campaignInput phonenumberInput ∧ r.key = u.lowercased campaignInput := by
  simp only [Attempt.accepts] at h
  split at h
  · rename_i data hdata
    obtain ⟨⟨hphone, hkey⟩, h⟩ := Option.ite_none_right_eq_some.1 h
    cases h
    obtain ⟨hfree, hpath, hid'⟩ := path_of_equal hslash hid hkey
    rw [hpath] at hdata
    have htext := (Credentials.equal_text data hnumber).1 hphone
    exact ⟨⟨hid, hfree, hnumber, data, hdata, htext⟩, hid'⟩
  · cases h

/-- A snapshot that the test accepts vouches for the campaign. -/
theorem Typed.accepts (h : Typed u es a press) (hr : r ∈ a.accepts u (getAt a.path database))
    (hmem : es[n]? = some (database, .observed i value)) : Vouched u es r.key (press, n) := by
  obtain ⟨c, p, t, hpress, rfl, hid, hnumber⟩ := h
  obtain ⟨hmatches, hkey⟩ := accepts_matches hslash hid hnumber hr
  exact ⟨c, p, t, database, i, value, hpress, hmem, hmatches, hkey⟩

theorem Attested.step (h : Attested u s) (hs : s.step u e = some s') : Attested u s' := by
  replace h := h.concat e
  have hmem : (s.hist ++ [e])[s.hist.length]? = some e := List.getElem?_concat_length
  obtain ⟨l, hl, rfl⟩ := Option.map_eq_some_iff.1 hs
  obtain ⟨t, e⟩ := e
  obtain ⟨hreads, hl⟩ := Option.ite_none_right_eq_some.1 hl
  cases e with
  | loginHandler campaignInput phonenumberInput =>
    obtain ⟨o, ho, rfl⟩ := Option.map_eq_some_iff.1 hl
    refine ⟨⟨h.signingIn, h.written⟩, ?_⟩
    apply List.rel_append h.observing
    rw [List.length_append, Nat.add_sub_cancel_left]
    cases o with
    | none => exact .nil
    | some a => exact .cons (loginHandler_typed ho hmem) .nil
  | observed i value =>
    obtain ⟨a, ha, rfl⟩ := Option.map_eq_some_iff.1 hl
    obtain ⟨press, hpress, htyped⟩ := forall₂_getElem? h.observing ha
    refine ⟨⟨?_, h.written⟩, forall₂_eraseIdx h.observing i⟩
    apply List.rel_append h.signingIn
    rw [show s.origins.observing[i]? = some press from hpress, List.length_append]
    cases hr : a.accepts u value with
    | none =>
      rw [Option.toList_none, List.length_nil, Nat.add_zero, if_neg (Nat.lt_irrefl _)]
      exact .nil
    | some r =>
      rw [Option.toList_some, List.length_singleton, if_pos (Nat.lt_succ_self _)]
      rw [hreads a ha] at hr
      exact .cons (htyped.accepts hslash hr hmem) .nil
  | signedIn i newCrowd =>
    obtain ⟨r, hr, hl⟩ := Option.bind_eq_some_iff.1 hl
    obtain ⟨o, ho, hvouched⟩ := forall₂_getElem? h.signingIn hr
    cases newCrowd with
    | none =>
      cases hl
      refine ⟨⟨forall₂_eraseIdx h.signingIn i, ?_⟩, h.observing⟩
      rw [Origins.next, if_neg (Nat.lt_irrefl _), List.append_nil]
      exact h.written
    | some key =>
      obtain ⟨-, hl⟩ := Option.ite_none_right_eq_some.1 hl
      cases hl
      refine ⟨⟨forall₂_eraseIdx h.signingIn i, ?_⟩, h.observing⟩
      apply List.rel_append h.written
      rw [show s.origins.signingIn[i]? = some o from ho, if_pos (by simp [completed])]
      exact .cons ⟨r.key, key, rfl, hvouched⟩ .nil
  | main =>
    simp only [Login.step] at hl
    split at hl
    · cases hl
      exact ⟨⟨h.signingIn, h.written⟩, h.observing⟩
    · cases hl

end Slash

/-- A crowd is registered only under the campaign whose key and phone were typed in the press that
led to it. -/
theorem registers_sound (u : Unicode)
    (hslash : ∀ s t, u.equal s t → ('/' ∈ s.toList ↔ '/' ∈ t.toList))
    (saved : Option Model.Campaign) (es : List (Json × LoginEvent)) :
    Always (Traced.step u) (Sound u) (.launched saved) es :=
  always_of_invariant (Attested u) (fun _ h => h.toSound) (fun _ _ _ h hs => h.step hslash hs)
    ⟨⟨.nil, .nil⟩, .nil⟩ es

/-- A typed id in upper case, whose lower case is a campaign, and a wrong number before it. -/
def pressed : List (Json × LoginEvent) :=
  [(Credentials.oneCampaign "c" "055", .loginHandler "c" "066"),
    (Credentials.oneCampaign "c" "055", .loginHandler "C" "055"),
    (Credentials.oneCampaign "c" "055", .observed 1 campaignValue),
    (Credentials.oneCampaign "c" "055", .observed 0 campaignValue),
    (Credentials.oneCampaign "c" "055", .signedIn 0 (some "k"))]

/-- The one crowd registered comes from the second press and its snapshot. -/
theorem registers_sound_pressed :
    (∀ s t, Unicode.ascii.equal s t → ('/' ∈ s.toList ↔ '/' ∈ t.toList)) ∧
      Always (Traced.step .ascii) (Sound .ascii) (.launched none) pressed ∧
      (run (Traced.step .ascii) (.launched none) pressed).map
        (fun s => (s.login.written, s.origins.written)) =
          some ([ViewController.registration "c" "k"], [(1, 2)]) := by
  have hslash : ∀ s t, Unicode.ascii.equal s t → ('/' ∈ s.toList ↔ '/' ∈ t.toList) := by
    intro s t h
    rw [of_decide_eq_true h]
  exact ⟨hslash, registers_sound _ hslash _ _, by decide +kernel⟩

/-- When one press registers a crowd, with the database at rest. -/
theorem registers_iff (hslash : ∀ s t, u.equal s t → ('/' ∈ s.toList ↔ '/' ∈ t.toList)) :
    ViewController.registers u database campaignInput phonenumberInput = some true ↔
      Matches u database campaignInput phonenumberInput ∧
        validPath (u.lowercased campaignInput) := by
  rw [ViewController.registers, Option.map_eq_some_iff]
  constructor
  · rintro ⟨o, ho, hregisters⟩
    cases o with
    | none => cases hregisters
    | some a =>
      obtain ⟨r, hr⟩ := Option.isSome_iff_exists.1 hregisters
      simp only [ViewController.loginHandler] at ho
      split at ho
      · cases ho
      · rename_i hne
        rw [not_or] at hne
        obtain ⟨hvalid, ho⟩ := Option.ite_none_right_eq_some.1 ho
        cases ho
        exact ⟨(accepts_matches hslash hne.1 hne.2 hr).1, hvalid⟩
  · rintro ⟨⟨hid, hkey, hnumber, data, hdata, hphone⟩, hvalid⟩
    have hpath : Attempt.path ⟨u.lowercased campaignInput, phonenumberInput⟩ =
        ["Campaign", u.lowercased campaignInput] := by
      rw [Attempt.path, Credentials.segments_slash_free hid hkey]
    refine ⟨some ⟨u.lowercased campaignInput, phonenumberInput⟩, ?_, ?_⟩
    · simp only [ViewController.loginHandler, hid, hnumber, or_self, ↓reduceIte, hvalid]
    · have hequal := (Credentials.equal_text data hnumber).2 hphone
      have hkey : Attempt.key ⟨u.lowercased campaignInput, phonenumberInput⟩ =
          u.lowercased campaignInput := by
        rw [Attempt.key, hpath]
        rfl
      simp only [hpath, hdata, Attempt.accepts]
      rw [hkey, if_pos ⟨hequal, u.equal_self _⟩]
      rfl

end Login

end CrowdTracking
