import CrowdTracking.MainActivity
import CrowdTracking.Runs

namespace CrowdTracking
set_option autoImplicit true
open Database Runs

/-- The session of one guide: the sharing screen, its phone, the database and the writes made. -/
structure Session where
  activity : MainActivity
  phone : Phone
  database : Json
  log : List Write
deriving DecidableEq

namespace Session

/-- The session that an accepted sign-up and a verification in a new process open. -/
def start (fine coarse service : Bool) (u : SignUp) (draw : Draw) (database : Json) : Session :=
  let (tafweej, write) := VerificationActivity.verified draw (u.accepted .initial)
  { activity := .opened 0 draw.crowd_id
    phone := { Phone.launched fine coarse service with tafweej := tafweej }
    database := write.apply database
    log := [write] }

def step (s : Session) (e : MainEvent) : Option Session :=
  (s.activity.step s.phone e).map fun (activity, phone, writes) =>
    { activity := activity
      phone := phone
      database := writes.foldl (fun t w => w.apply t) s.database
      log := s.log ++ writes }

def node (s : Session) : Json :=
  (getAt (crowdPath s.activity.child) s.database).getD (.obj .empty)

theorem onCreate_start (fine coarse service : Bool) (u : SignUp) (draw : Draw) (t : Json) :
    MainActivity.onCreate 0 (start fine coarse service u draw t).phone.tafweej =
      some (start fine coarse service u draw t).activity := rfl

theorem step_stepped {s s' : Session} (h : s.step e = some s') :
    ∃ ws, s.activity.Stepped s.phone e s'.activity s'.phone ws ∧ s'.log = s.log ++ ws ∧
      s'.database = ws.foldl (fun t w => w.apply t) s.database := by
  obtain ⟨⟨a, p, ws⟩, hs, rfl⟩ := Option.map_eq_some_iff.1 h
  exact ⟨ws, MainActivity.step_stepped hs, rfl, rfl⟩

theorem step_child {s s' : Session} (h : s.step e = some s') :
    s'.activity.child = s.activity.child := by
  obtain ⟨ws, hs, -⟩ := step_stepped h
  exact hs.child

theorem node_unwritten {s s' : Session} (h : s.step e = some s') (hdb : s'.database = s.database) :
    s'.node = s.node := by
  rw [node, step_child h, hdb, node]

theorem node_written {s s' : Session} (h : s.step e = some s')
    (hdb : s'.database = (Write.setValue (crowdPath s.activity.child) v).apply s.database) :
    s'.node = v := by
  rw [node, step_child h, hdb, getAt_setValue, if_pos rfl, Option.getD_some]

end Session

end CrowdTracking
