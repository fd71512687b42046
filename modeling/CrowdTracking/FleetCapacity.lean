import Mathlib.Data.Fintype.Prod
import Mathlib.Data.Fintype.EquivFin
import CrowdTracking.Fleet

namespace CrowdTracking
set_option autoImplicit true
open Database Runs

theorem generateRandomChar_toList (n : Fin 26) :
    (Helper.generateRandomChar n).toList = [Char.ofNat (n.val + 65)] := by
  rw [Helper.generateRandomChar, String.toList_singleton]
  rfl

theorem digit_toList (n : Fin 9) : (toString n.val).toList = [Char.ofNat (n.val + 48)] := by
  revert n
  decide

theorem crowd_id_toList (d : Draw) : d.crowd_id.toList =
    [Char.ofNat (d.letter.val + 65), Char.ofNat (d.first.val + 48),
      Char.ofNat (d.second.val + 48)] := by
  rw [Draw.crowd_id, String.toList_append, generateRandomChar_toList, Helper.generateUnique,
    List.foldl_cons, List.foldl_cons, List.foldl_nil, String.toList_append, String.toList_append,
    digit_toList, digit_toList]
  rfl

theorem letter_injective : Function.Injective fun n : Fin 26 => Char.ofNat (n.val + 65) := by
  decide

theorem digit_injective : Function.Injective fun n : Fin 9 => Char.ofNat (n.val + 48) := by
  decide

/-- A crowd id tells what has been drawn for it. -/
theorem crowd_id_injective : Function.Injective Draw.crowd_id := by
  intro d d' h
  have hlist := congrArg String.toList h
  rw [crowd_id_toList, crowd_id_toList, List.cons.injEq, List.cons.injEq, List.cons.injEq] at hlist
  obtain ⟨hletter, hfirst, hsecond, -⟩ := hlist
  cases d
  cases d'
  rw [Draw.mk.injEq]
  exact ⟨letter_injective hletter, digit_injective hfirst, digit_injective hsecond⟩

def Draw.faces (d : Draw) : Fin 26 × Fin 9 × Fin 9 := (d.letter, d.first, d.second)

theorem faces_injective : Function.Injective Draw.faces := by
  intro d d' h
  cases d
  cases d'
  cases h
  rfl

namespace Fleet

/-- What is pressed and answered until a device has verified. -/
def verification (draw : Draw) : List DeviceEvent :=
  [.signUp "c" "p", .onDataChange 0 Device.oneCampaign, .launch, .verify "000" draw]

variable {ι : Type u} [DecidableEq ι] {s s' : Fleet ι}

/-- The events of one device alone. -/
theorem run_device {i : ι} {es : List DeviceEvent} {d : Device}
    (h : run Device.next (s.devices i) es = some d) :
    ∃ s', run step s (es.map fun e => (i, e)) = some s' ∧
      s'.devices = Function.update s.devices i d := by
  induction es generalizing s with
  | nil =>
    cases h
    exact ⟨s, rfl, (Function.update_eq_self i s.devices).symm⟩
  | cons e es ih =>
    obtain ⟨d₁, hd₁, hr⟩ := Option.bind_eq_some_iff.1 h
    obtain ⟨⟨d₁, ws⟩, hs, rfl⟩ := Option.map_eq_some_iff.1 hd₁
    let s₁ : Fleet ι :=
      { s with
        devices := Function.update s.devices i d₁
        database := ws.foldl (fun t w => w.apply t) s.database
        drawn := s.drawn ++ registration (i, e) }
    have hstep : step s (i, e) = some s₁ := by
      rw [step, hs]
      rfl
    have hrest : run Device.next (s₁.devices i) es = some d := by
      rw [show s₁.devices i = d₁ from Function.update_self i d₁ s.devices]
      exact hr
    obtain ⟨s', hs', hdevices⟩ := ih hrest
    refine ⟨s', ?_, ?_⟩
    · rw [List.map_cons, run_cons, hstep]
      exact hs'
    · rw [hdevices, Function.update_idem]

theorem run_verification (fine coarse service : Bool) (draw : Draw) :
    ∃ d, run Device.next (.launched fine coarse service) (verification draw) = some d := by
  apply Option.isSome_iff_exists.1
  rfl

/-- Devices that are just launched verify one after the other. -/
theorem run_verifications (f : ι → Draw) {l : List ι} (hl : l.Nodup)
    (h : ∀ i ∈ l, ∃ fine coarse service, s.devices i = .launched fine coarse service) :
    ∃ s', run step s (l.flatMap fun i => (verification (f i)).map fun e => (i, e)) = some s' := by
  induction l generalizing s with
  | nil => exact ⟨s, rfl⟩
  | cons i l ih =>
    obtain ⟨hi, hl⟩ := List.nodup_cons.1 hl
    obtain ⟨fine, coarse, service, hdevice⟩ := h i List.mem_cons_self
    obtain ⟨d, hd⟩ := run_verification fine coarse service (f i)
    rw [← hdevice] at hd
    obtain ⟨s₁, hs₁, hdevices⟩ := run_device hd
    have hrest : ∀ j ∈ l, ∃ fine coarse service, s₁.devices j = .launched fine coarse service := by
      intro j hj
      have hne : j ≠ i := fun hji => hi (hji ▸ hj)
      rw [hdevices, Function.update_of_ne hne]
      exact h j (List.mem_cons_of_mem i hj)
    obtain ⟨s', hs'⟩ := ih hl hrest
    refine ⟨s', ?_⟩
    rw [List.flatMap_cons, run_append, hs₁]
    exact hs'

omit [DecidableEq ι] in
theorem draws_verifications (f : ι → Draw) (l : List ι) :
    draws (l.flatMap fun i => (verification (f i)).map fun e => (i, e)) =
      l.map fun i => (i, (f i).crowd_id) := by
  induction l with
  | nil => rfl
  | cons i l ih =>
    rw [List.flatMap_cons, draws, List.flatMap_append, List.map_cons, ← ih]
    rfl

theorem verified_draw {e : DeviceEvent} (h : e.verified = some c) :
    ∃ draw : Draw, draw.crowd_id = c := by
  cases e with
  | verify n draw => exact ⟨draw, Option.some.inj (Option.ite_none_right_eq_some.1 h).2⟩
  | _ => cases h

omit [DecidableEq ι] in
/-- What is registered has been drawn. -/
theorem mem_draws {es : List (ι × DeviceEvent)} (h : (i, c) ∈ draws es) :
    ∃ draw : Draw, draw.crowd_id = c := by
  obtain ⟨e, -, he⟩ := List.mem_flatMap.1 h
  exact verified_draw (mem_registration.1 he).2

/-- All the devices can verify and stay apart exactly if there are no more of them than crowd ids,
of a letter and two digits below 9. -/
theorem all_apart_iff [Fintype ι] (granted : ι → Bool × Bool × Bool) (database : Json) :
    (∃ es s', run step (start granted database []) es = some s' ∧
        Each step Apart (start granted database []) es ∧ ∀ i, ∃ c, (i, c) ∈ draws es) ↔
      Fintype.card ι ≤ 26 * (9 * 9) := by
  have hcard : Fintype.card (Fin 26 × Fin 9 × Fin 9) = 26 * (9 * 9) := by
    simp only [Fintype.card_prod, Fintype.card_fin]
  rw [← hcard]
  constructor
  · rintro ⟨es, s', hr, hapart, hall⟩
    have hdistinct := distinct_of_apart (fun r hr => by cases hr) hr hapart
    choose c hc using hall
    choose draw hdraw using fun i => mem_draws (hc i)
    apply Fintype.card_le_of_injective fun i => (draw i).faces
    intro i j hij
    by_contra hne
    apply hdistinct (i, c i) (hc i) (j, c j) (hc j) hne
    rw [← hdraw, ← hdraw, faces_injective hij]
  · intro hle
    obtain ⟨f⟩ := Function.Embedding.nonempty_of_card_le hle
    let draw (i : ι) : Draw := ⟨(f i).1, (f i).2.1, (f i).2.2⟩
    obtain ⟨s', hr⟩ := run_verifications (s := start granted database []) draw
      (Finset.univ : Finset ι).nodup_toList (fun i _ => ⟨_, _, _, rfl⟩)
    refine ⟨_, s', hr, apart_of_distinct (owned_start _ _ _) ?_, ?_⟩
    · intro r hr q hq hne heq
      rw [draws_verifications] at hr hq
      obtain ⟨i, -, rfl⟩ := List.mem_map.1 hr
      obtain ⟨j, -, rfl⟩ := List.mem_map.1 hq
      apply hne
      have hsame := crowd_id_injective heq
      apply f.injective
      rw [Draw.mk.injEq] at hsame
      exact Prod.ext hsame.1 (Prod.ext hsame.2.1 hsame.2.2)
    · intro i
      rw [draws_verifications]
      exact ⟨_, List.mem_map_of_mem (Finset.mem_toList.2 (Finset.mem_univ i))⟩

end Fleet

end CrowdTracking
