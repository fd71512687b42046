import CrowdTracking.MyMarker

namespace CrowdTracking
set_option autoImplicit true
open Script

/-- A decimal numeral with an optional minus sign. -/
def Decimal (s : String) : Prop :=
  ∃ digits : List Char, (s.toList = digits ∨ s.toList = '-' :: digits) ∧ digits ≠ [] ∧
    ∀ c ∈ digits, c.isDigit

/-- The children of a crowd's node with the values that the clients write to them. -/
inductive Schema : String → Json → Prop where
  | location (r : Record Json) (lat lng : Rat) (hlat : r.get "lat" = some (.num (.finite lat)))
      (hlng : r.get "lng" = some (.num (.finite lng))) : Schema "location" (.obj r)
  | integer (n : Int) : Schema "numberOfPeople" (.num (.finite n))
  | decimal (s : String) (h : Decimal s) : Schema "numberOfPeople" (.str s)
  | status (s : String) : Schema "status" (.str s)
  | campaign_id (s : String) : Schema "campaign_id" (.str s)

namespace MyMarker

/-- The crowd with the named child updated; `l` is the location it had. -/
def routed (degrees : Number → Number → Number) (c : Record Json) (l : Json) (key : String)
    (v : Json) : Record Json :=
  if key = "location" then moved degrees c l v else c.put key v

/-- The handler returns, and every field of the crowd is as it should be. -/
def Routes (degrees : Number → Number → Number) (m : MyMarker) (l : Json) (key : String)
    (v : Json) : Prop :=
  ∃ m', m.childChanged degrees v = some m' ∧
    ∀ k, m'.crowd.get k = (routed degrees m.crowd l key v).get k

/-- The field that the handler takes a text or a number for. -/
def guessed (v : Json) : String := if isNaN v then "status" else "numberOfPeople"

/-- A mounted marker takes a position whose `lat` is not 0, and another child that is the one
guessed or makes no difference; an unmounted marker has the value already. -/
def Routable (degrees : Number → Number → Number) (m : MyMarker) (l : Json) (key : String)
    (v : Json) : Prop :=
  if key = "location" then
    if m.mounted then v.child "lat" ≠ some (.num (.finite 0))
    else l = turned degrees l v ∧ m.crowd.get "lost" = some (.bool false) ∧
      m.crowd.get "status" = some (.str "Active")
  else
    if m.mounted then
      guessed v = key ∨ (m.crowd.get (guessed v) = some v ∧ m.crowd.get key = some v)
    else m.crowd.get key = some v

variable {degrees : Number → Number → Number} {m m' : MyMarker} {c : Record Json} {l v : Json}

theorem get_put_eq_iff (c : Record Json) (key : String) (v : Json) :
    (∀ k, c.get k = (c.put key v).get k) ↔ c.get key = some v := by
  constructor
  · intro h
    rw [h key, Record.get_put_self]
  · intro h k
    rw [Record.get_put]
    split
    · rename_i hk
      rw [← hk, h]
    · rfl

theorem get_put_put_iff (c : Record Json) (f key : String) (v : Json) :
    (∀ k, (c.put f v).get k = (c.put key v).get k) ↔
      f = key ∨ (c.get f = some v ∧ c.get key = some v) := by
  constructor
  · intro h
    by_cases hf : f = key
    · exact .inl hf
    · have hleft := h f
      have hright := h key
      rw [Record.get_put_self, Record.get_put_of_ne _ _ (Ne.symm hf)] at hleft
      rw [Record.get_put_self, Record.get_put_of_ne _ _ hf] at hright
      exact .inr ⟨hleft.symm, hright⟩
  · rintro (rfl | ⟨hf, hkey⟩) k
    · rfl
    · rw [← (get_put_eq_iff c f v).2 hf k, (get_put_eq_iff c key v).2 hkey k]

theorem isNaN_decimal (h : Decimal s) : isNaN (.str s) = false := by
  obtain ⟨digits, hs, hne, hdigits⟩ := h
  have hnum : ∃ q, stringToNumber s = .finite q := by
    rcases hs with hs | hs
    · exact stringToNumber_digits digits hs hne hdigits
    · exact stringToNumber_minus_digits digits hs hne hdigits
  obtain ⟨q, hq⟩ := hnum
  rw [isNaN, toNumber, hq]
  rfl

/-- The empty text counts as a number. -/
theorem truthy_of_isNaN (h : isNaN (.str s)) : truthy (some (.str s)) := by
  rw [truthy, decide_eq_true_iff]
  rintro rfl
  exact absurd h (by decide +kernel)

/-- A text or a number goes to the guessed field. -/
theorem nextCrowd_guessed (hlat : truthy (v.child "lat") = false)
    (hv : isNaN v → truthy (some v)) : nextCrowd degrees c v = c.put (guessed v) v := by
  rw [nextCrowd, guessed, hlat, if_neg Bool.false_ne_true]
  by_cases hnum : isNaN v
  · rw [hnum, if_neg (not_not.2 rfl), if_pos (hv hnum), if_pos rfl]
  · rw [if_pos hnum, if_neg hnum]

theorem schema_guessed (hs : Schema key v) (hkey : key ≠ "location") :
    nextCrowd degrees c v = c.put (guessed v) v := by
  cases hs with
  | location => exact absurd rfl hkey
  | integer n => exact nextCrowd_guessed rfl fun h => by cases h
  | decimal s h => exact nextCrowd_guessed rfl truthy_of_isNaN
  | status s => exact nextCrowd_guessed rfl truthy_of_isNaN
  | campaign_id s => exact nextCrowd_guessed rfl truthy_of_isNaN

theorem guessed_numberOfPeople (hs : Schema key v) (hkey : key = "numberOfPeople") :
    guessed v = key := by
  cases hs with
  | integer n => rfl
  | decimal s h => rw [guessed, isNaN_decimal h, if_neg Bool.false_ne_true]
  | _ => exact absurd hkey (by decide)

/-- A count always finds its field on a mounted marker. -/
theorem routable_numberOfPeople (hm : m.mounted) (hs : Schema "numberOfPeople" v) :
    Routable degrees m l "numberOfPeople" v := by
  rw [Routable, if_neg (by decide), if_pos hm]
  exact .inl (guessed_numberOfPeople hs rfl)

/-- With a location in the crowd the handler does not throw. -/
theorem childChanged_of_location (hl : m.crowd.get "location" = some l) (v : Json) :
    ∃ m', m.childChanged degrees v = some m' ∧
      m'.crowd = if m.mounted then nextCrowd degrees m.crowd v else m.crowd := by
  cases h : m.childChanged degrees v with
  | none =>
    have hthrows := (childChanged_eq_none_iff.1 h).2
    rw [hl] at hthrows
    cases hthrows
  | some m' =>
    refine ⟨m', rfl, ?_⟩
    have hh := childChanged_handled h
    split
    · rename_i hm
      exact handled_crowd hh hm
    · rename_i hm
      exact handled_crowd_unmounted hh hm

theorem routes_iff (hl : m.crowd.get "location" = some l) (key : String) (v : Json) :
    Routes degrees m l key v ↔ ∀ k,
      (if m.mounted then nextCrowd degrees m.crowd v else m.crowd).get k =
        (routed degrees m.crowd l key v).get k := by
  obtain ⟨m', hm' : m.childChanged degrees v = some m', hcrowd⟩ := childChanged_of_location hl v
  rw [Routes, ← hcrowd]
  constructor
  · rintro ⟨m'', h, hk⟩
    rw [hm', Option.some.injEq] at h
    rwa [h]
  · exact fun hk => ⟨m', hm', hk⟩

/-- A location that is no position of latitude 0. -/
theorem nextCrowd_location_iff (hl : c.get "location" = some l) (r : Record Json)
    (hlat : r.get "lat" = some (.num (.finite lat))) :
    (∀ k, (nextCrowd degrees c (.obj r)).get k = (moved degrees c l (.obj r)).get k) ↔
      lat ≠ 0 := by
  have htruthy : truthy ((Json.obj r).child "lat") = decide (lat ≠ 0) := by
    rw [Json.child_obj, hlat]
    simp [truthy]
  constructor
  · rintro h rfl
    -- the handler takes the object for a status
    have hstatus := h "status"
    have hnext : nextCrowd degrees c (.obj r) = c.put "status" (.obj r) := by
      rw [nextCrowd, htruthy]
      rfl
    rw [hnext, moved, Record.get_put_self, Record.get_put_self] at hstatus
    cases hstatus
  · intro hne k
    rw [nextCrowd, htruthy, decide_eq_true hne, if_pos rfl, hl]

theorem get_moved_iff (hl : c.get "location" = some l) (v : Json) :
    (∀ k, c.get k = (moved degrees c l v).get k) ↔
      l = turned degrees l v ∧ c.get "lost" = some (.bool false) ∧
        c.get "status" = some (.str "Active") := by
  constructor
  · intro h
    have hlocation := h "location"
    have hlost := h "lost"
    have hstatus := h "status"
    simp only [moved, Record.get_put, String.reduceEq, ↓reduceIte] at hlocation hlost hstatus
    rw [hl, Option.some.injEq] at hlocation
    exact ⟨hlocation, hlost, hstatus⟩
  · rintro ⟨hlocation, hlost, hstatus⟩ k
    have h₁ := (get_put_eq_iff c "location" l).2 hl
    have h₂ := (get_put_eq_iff (c.put "location" l) "lost" (.bool false)).2 (by rw [← h₁, hlost])
    have h₃ := (get_put_eq_iff ((c.put "location" l).put "lost" (.bool false)) "status"
      (.str "Active")).2 (by rw [← h₂, ← h₁, hstatus])
    rw [moved, ← hlocation, ← h₃, ← h₂, ← h₁]

/-- For the values that the clients write, the handler updates the child of the snapshot exactly
when the child can be told from the value. -/
theorem routes_right (degrees : Number → Number → Number) (m : MyMarker) (l : Json)
    (hl : m.crowd.get "location" = some l) (key : String) (v : Json) (hs : Schema key v) :
    Routes degrees m l key v ↔ Routable degrees m l key v := by
  rw [routes_iff hl, routed, Routable]
  by_cases hkey : key = "location"
  · rw [if_pos hkey, if_pos hkey]
    by_cases hm : m.mounted
    · rw [if_pos hm, if_pos hm]
      cases hs with
      | location r lat lng hlat hlng =>
        rw [nextCrowd_location_iff hl r hlat, Json.child_obj, hlat]
        simp
      | _ => exact absurd hkey (by decide)
    · rw [if_neg hm, if_neg hm]
      exact get_moved_iff hl v
  · rw [if_neg hkey, if_neg hkey]
    by_cases hm : m.mounted
    · rw [if_pos hm, if_pos hm, schema_guessed hs hkey]
      exact get_put_put_iff _ _ _ _
    · rw [if_neg hm, if_neg hm]
      exact get_put_eq_iff _ _ _

def marked : MyMarker :=
  mount ⟨"k", 0, (crowdValue "Active" 21 39).put "campaign_id" (.str "c"), true, true, true⟩ 0

theorem routes_right_count :
    marked.crowd.get "location" = some (position 21 39) ∧
      Schema "numberOfPeople" (.num (.finite (20 : Int))) ∧
      Routable (fun _ _ => .nan) marked (position 21 39) "numberOfPeople"
        (.num (.finite (20 : Int))) ∧
      Routes (fun _ _ => .nan) marked (position 21 39) "numberOfPeople"
        (.num (.finite (20 : Int))) := by
  have hl : marked.crowd.get "location" = some (position 21 39) := by decide +kernel
  have h : Routable (fun _ _ => .nan) marked (position 21 39) "numberOfPeople"
      (.num (.finite (20 : Int))) := by
    rw [Routable, if_neg (by decide), if_pos (by decide +kernel)]
    exact .inl (by decide +kernel)
  exact ⟨hl, .integer 20, h, (routes_right _ marked _ hl _ _ (.integer 20)).2 h⟩

/-- A campaign id becomes the status. -/
theorem campaign_routed :
    ¬∀ (degrees : Number → Number → Number) (m : MyMarker) (l : Json) (key : String) (v : Json),
      m.crowd.get "location" = some l → Schema key v → Routes degrees m l key v := by
  intro h
  have hl : marked.crowd.get "location" = some (position 21 39) := by decide +kernel
  have hroutes := h (fun _ _ => .nan) marked (position 21 39) "campaign_id" (.str "d") hl
    (.campaign_id "d")
  have hfield := (routes_iff hl "campaign_id" (.str "d")).1 hroutes "campaign_id"
  exact absurd hfield (by decide +kernel)

end MyMarker

end CrowdTracking
