import CrowdTracking.MyMarker

namespace CrowdTracking
set_option autoImplicit true
open Script

namespace MyMarker

/-- The crowd shown once a queue of snapshots has been delivered. -/
def drain (degrees : Number → Number → Number) (c : Record Json) (vs : List Json) : Record Json :=
  vs.foldl (nextCrowd degrees) c

def coordinates (location : Option Json) : Option Json × Option Json :=
  (location.bind (·.child "lat"), location.bind (·.child "lng"))

variable {degrees : Number → Number → Number} {c c' : Record Json} {v : Json} {vs : List Json}

theorem drain_append (c : Record Json) (vs ws : List Json) :
    drain degrees c (vs ++ ws) = drain degrees (drain degrees c vs) ws :=
  List.foldl_append

theorem drain_cons (c : Record Json) (v : Json) (vs : List Json) :
    drain degrees c (v :: vs) = drain degrees (nextCrowd degrees c v) vs := rfl

theorem nextCrowd_location (c : Record Json) (v : Json) :
    (nextCrowd degrees c v).get "location" =
      if truthy (v.child "lat") then (c.get "location").map (turned degrees · v)
      else c.get "location" := by
  rw [nextCrowd]
  by_cases hlat : truthy (v.child "lat")
  · rw [if_pos hlat, if_pos hlat]
    cases hl : c.get "location" with
    | none => exact hl
    | some l => simp [moved, Record.get_put]
  · rw [if_neg hlat, if_neg hlat]
    split
    · exact Record.get_put_of_ne _ _ (by decide)
    · split
      · exact Record.get_put_of_ne _ _ (by decide)
      · rfl

theorem nextCrowd_numberOfPeople (c : Record Json) (v : Json) :
    (nextCrowd degrees c v).get "numberOfPeople" =
      if ¬truthy (v.child "lat") ∧ ¬isNaN v then some v else c.get "numberOfPeople" := by
  rw [nextCrowd]
  by_cases hlat : truthy (v.child "lat")
  · rw [if_pos hlat, if_neg fun h => h.1 hlat]
    cases hl : c.get "location" with
    | none => rfl
    | some l => simp [moved, Record.get_put]
  · rw [if_neg hlat]
    by_cases hnum : isNaN v
    · have hno : ¬(¬truthy (v.child "lat") ∧ ¬isNaN v) := fun h => h.2 hnum
      rw [if_neg hno, if_neg (not_not.2 hnum)]
      split
      · exact Record.get_put_of_ne _ _ (by decide)
      · rfl
    · rw [if_pos hnum, if_pos ⟨hlat, hnum⟩]
      exact Record.get_put_self _ _ _

theorem coordinates_turned (l v : Json) :
    coordinates (some (turned degrees l v)) = coordinates (some v) := by
  simp [coordinates, turned, Json.child, Record.get_put]

theorem restarts_congr (h : c'.get "location" = c.get "location") :
    Restarts c' v ↔ Restarts c v := by
  rw [Restarts, Restarts, h]

theorem drain_location_congr (h : c'.get "location" = c.get "location") :
    (drain degrees c' vs).get "location" = (drain degrees c vs).get "location" := by
  induction vs generalizing c c' with
  | nil => exact h
  | cons v vs ih =>
    rw [drain_cons, drain_cons]
    apply ih
    rw [nextCrowd_location, nextCrowd_location, h]

theorem drain_numberOfPeople_congr (h : c'.get "numberOfPeople" = c.get "numberOfPeople") :
    (drain degrees c' vs).get "numberOfPeople" = (drain degrees c vs).get "numberOfPeople" := by
  induction vs generalizing c c' with
  | nil => exact h
  | cons v vs ih =>
    rw [drain_cons, drain_cons]
    apply ih
    rw [nextCrowd_numberOfPeople, nextCrowd_numberOfPeople, h]

/-- A status put into the crowd stays, or the queue sets the status whatever it was. -/
theorem drain_status (hl : c'.get "location" = c.get "location")
    (hs : c'.get "status" = x ∨ c'.get "status" = c.get "status") :
    (drain degrees c' vs).get "status" = x ∨
      (drain degrees c' vs).get "status" = (drain degrees c vs).get "status" := by
  induction vs generalizing c c' with
  | nil => exact hs
  | cons v vs ih =>
    rw [drain_cons, drain_cons]
    apply ih
    · rw [nextCrowd_location, nextCrowd_location, hl]
    · by_cases hr : Restarts c v
      · right
        rw [nextCrowd_status_of_restarts hr,
          nextCrowd_status_of_restarts ((restarts_congr hl).2 hr)]
      · rw [nextCrowd_status_of_not_restarts hr,
          nextCrowd_status_of_not_restarts fun h => hr ((restarts_congr hl).1 h)]
        exact hs

/-- A snapshot makes a crowd Active only as a position or as that status. -/
theorem nextCrowd_active (h : (nextCrowd degrees c v).get "status" = some (.str "Active")) :
    truthy (v.child "lat") ∨ v = .str "Active" ∨ c.get "status" = some (.str "Active") := by
  by_cases hlat : truthy (v.child "lat")
  · exact .inl hlat
  · by_cases hr : Restarts c v
    · rw [nextCrowd_status_of_restarts hr, if_neg hlat] at h
      exact .inr (.inl (Option.some.inj h))
    · rw [nextCrowd_status_of_not_restarts hr] at h
      exact .inr (.inr h)

theorem nextCrowd_location_isSome (h : (c.get "location").isSome) :
    ((nextCrowd degrees c v).get "location").isSome := by
  rw [nextCrowd_location]
  split
  · rwa [Option.isSome_map]
  · exact h

theorem drain_location_isSome (h : (c.get "location").isSome) :
    ((drain degrees c vs).get "location").isSome := by
  induction vs generalizing c with
  | nil => exact h
  | cons v vs ih => exact ih (nextCrowd_location_isSome h)

end MyMarker

end CrowdTracking
