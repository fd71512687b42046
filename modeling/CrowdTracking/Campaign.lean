import CrowdTracking.HomeVC

namespace CrowdTracking.Model
set_option autoImplicit true

/-- A campaign with all its fields; the handlers of `HomeVC` read the first two. -/
structure Campaign extends CrowdTracking.Campaign where
  number : String
  email : String
  Total_Hajji : String
  name : String
deriving DecidableEq

namespace Campaign

/-- `dictionary[key] as? String ?? ""` -/
def text (dictionary : Record Json) (key : String) : String :=
  match dictionary.get key with
  | some (.str s) => s
  | _ => ""

def init (uid crowd_id : String) (dictionary : Record Json) : Campaign :=
  { uid := uid
    name := text dictionary "name"
    email := text dictionary "email"
    Total_Hajji := text dictionary "Total_Hajji"
    number := text dictionary "phone"
    crowd_id := crowd_id }

def encode (c : Campaign) : Record String :=
  let aCoder := Record.empty.put "uid" c.uid
  let aCoder := aCoder.put "name" c.name
  let aCoder := aCoder.put "email" c.email
  let aCoder := aCoder.put "Total_Hajji" c.Total_Hajji
  let aCoder := aCoder.put "number" c.number
  aCoder.put "crowd_id" c.crowd_id

/-- `init(coder:)`; `none` is the trap of a forced cast. -/
def decode (aDecoder : Record String) : Option Campaign := do
  let uid ← aDecoder.get "uid"
  let name ← aDecoder.get "name"
  let email ← aDecoder.get "email"
  let Total_Hajji ← aDecoder.get "Total_Hajji"
  let number ← aDecoder.get "number"
  let crowd_id ← aDecoder.get "crowd_id"
  let dictionary := Record.empty.put "uid" (.str uid)
  let dictionary := dictionary.put "name" (.str name)
  let dictionary := dictionary.put "email" (.str email)
  let dictionary := dictionary.put "Total_Hajji" (.str Total_Hajji)
  let dictionary := dictionary.put "number" (.str number)
  return init uid crowd_id dictionary

/-- What is left of a campaign after a number of saves, each followed by a restart. -/
def restored : Nat → Campaign → Option Campaign
  | 0, c => some c
  | n + 1, c => (decode c.encode).bind (restored n)

/-- The dictionary of `init(coder:)` has the number under a key that the other `init` does not
read. -/
theorem decode_encode (c : Campaign) : decode c.encode = some { c with number := "" } := rfl

theorem restored_of_number (c : Campaign) (h : c.number = "") (n : Nat) :
    restored n c = some c := by
  induction n with
  | zero => rfl
  | succ n ih =>
    have hc : { c with number := "" } = c := by rw [← h]
    rw [restored, decode_encode, hc]
    exact ih

theorem restored_succ (c : Campaign) (n : Nat) :
    restored (n + 1) c = some { c with number := "" } := by
  rw [restored, decode_encode]
  exact restored_of_number _ rfl n

/-- A campaign is restored unchanged, once and any number of times, exactly when it has no
number. -/
theorem restored_unchanged (c : Campaign) :
    (decode c.encode = some c ∧ ∀ n, restored n c = some c) ↔ c.number = "" := by
  constructor
  · rintro ⟨h, -⟩
    rw [decode_encode, Option.some.injEq] at h
    rw [← h]
  · intro h
    exact ⟨restored_of_number c h 1, restored_of_number c h⟩

theorem number_lost :
    ¬ ∀ (uid crowd_id : String) (dictionary : Record Json),
      let c := init uid crowd_id dictionary
      decode c.encode = some c ∧ ∀ n, restored n c = some c := by
  intro h
  have hc := h "a" "k" (Record.empty.put "phone" (.str "055"))
  exact absurd hc.1 (by decide +kernel)

end Campaign

end CrowdTracking.Model
