import CrowdTracking.Database

namespace CrowdTracking
set_option autoImplicit true
open Database

/-- A position as the clients store it. -/
def position (lat lng : Rat) : Json :=
  .obj ((Record.empty.put "lat" (.num (.finite lat))).put "lng" (.num (.finite lng)))

def crowdValue (status : String) (lat lng : Rat) : Record Json :=
  (Record.empty.put "location" (position lat lng)).put "status" (.str status)

def crowdPath (crowd_id : String) : List String := ["Crowd", crowd_id]

/-- A crowd node that is replaced takes the new value; the other nodes keep theirs. -/
theorem getAt_setValue (k l : String) (v t : Json) :
    getAt (crowdPath k) ((Write.setValue (crowdPath l) v).apply t) =
      if k = l then some v else getAt (crowdPath k) t := by
  by_cases h : k = l
  · subst h
    rw [if_pos rfl]
    exact getAt_setAt_self _ _ _
  · rw [if_neg h]
    exact getAt_setAt_other ["Crowd"] [] [] v t h

end CrowdTracking
