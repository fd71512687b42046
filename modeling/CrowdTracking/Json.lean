import Mathlib.Algebra.Order.Field.Rat
import Mathlib.Algebra.Order.Ring.Int
import Mathlib.Data.List.Basic

set_option autoImplicit true

/-- A string-keyed record in insertion order, as a JavaScript object or a Java map. -/
structure Record (α : Type u) where
  entries : List (String × α)
deriving DecidableEq

namespace Record

def empty : Record α := ⟨[]⟩

def getEntry (k : String) : List (String × α) → Option α
  | [] => none
  | (l, v) :: es => if l = k then some v else getEntry k es

def putEntry (k : String) (v : α) : List (String × α) → List (String × α)
  | [] => [(k, v)]
  | (l, w) :: es => if l = k then (l, v) :: es else (l, w) :: putEntry k v es

def get (r : Record α) (k : String) : Option α := getEntry k r.entries

/-- Assigning to a key keeps its place; a new key comes last. -/
def put (r : Record α) (k : String) (v : α) : Record α := ⟨putEntry k v r.entries⟩

def erase (r : Record α) (k : String) : Record α := ⟨r.entries.filter (·.1 ≠ k)⟩

def keys (r : Record α) : List String := r.entries.map Prod.fst

@[simp] theorem get_empty (k : String) : (empty : Record α).get k = none := rfl

theorem getEntry_putEntry (k l : String) (v : α) (es : List (String × α)) :
    getEntry l (putEntry k v es) = if k = l then some v else getEntry l es := by
  induction es with
  | nil => rfl
  | cons e es ih =>
    obtain ⟨m, w⟩ := e
    by_cases hm : m = k
    · subst m
      by_cases hk : k = l <;> simp only [putEntry, getEntry, ↓reduceIte, hk]
    · simp only [putEntry, if_neg hm, getEntry, ih]
      by_cases hl : m = l
      · subst m
        simp only [↓reduceIte, if_neg (Ne.symm hm)]
      · simp only [if_neg hl]

theorem get_put (r : Record α) (k l : String) (v : α) :
    (r.put k v).get l = if k = l then some v else r.get l :=
  getEntry_putEntry k l v r.entries

@[simp] theorem get_put_self (r : Record α) (k : String) (v : α) :
    (r.put k v).get k = some v := by
  rw [get_put, if_pos rfl]

theorem get_put_of_ne (r : Record α) (v : α) (h : k ≠ l) : (r.put k v).get l = r.get l := by
  rw [get_put, if_neg h]

theorem putEntry_of_getEntry {es : List (String × α)} (h : getEntry k es = some v) :
    putEntry k v es = es := by
  induction es with
  | nil => cases h
  | cons e es ih =>
    obtain ⟨m, w⟩ := e
    by_cases hm : m = k
    · simp only [getEntry, if_pos hm, Option.some.injEq] at h
      simp only [putEntry, if_pos hm, h]
    · simp only [getEntry, if_neg hm] at h
      simp only [putEntry, if_neg hm, ih h]

theorem put_of_get {r : Record α} (h : r.get k = some v) : r.put k v = r := by
  rw [put, putEntry_of_getEntry h]

theorem get_erase (r : Record α) (k l : String) :
    (r.erase k).get l = if k = l then none else r.get l := by
  obtain ⟨es⟩ := r
  simp only [get, erase]
  induction es with
  | nil => simp [getEntry]
  | cons e es ih =>
    obtain ⟨m, w⟩ := e
    by_cases hm : m = k
    · subst m
      rw [List.filter_cons_of_neg (by simp), ih]
      by_cases hl : k = l
      · rw [if_pos hl, if_pos hl]
      · rw [if_neg hl, if_neg hl, getEntry, if_neg hl]
    · rw [List.filter_cons_of_pos (by simpa using hm), getEntry, getEntry, ih]
      by_cases hl : m = l
      · rw [if_pos hl, if_pos hl, if_neg fun h => hm (hl.trans h.symm)]
      · rw [if_neg hl, if_neg hl]

theorem get_isSome_iff (r : Record α) (k : String) : (r.get k).isSome ↔ k ∈ r.keys := by
  obtain ⟨es⟩ := r
  simp only [get, keys]
  induction es with
  | nil => simp [getEntry]
  | cons e es ih =>
    obtain ⟨m, w⟩ := e
    by_cases hm : m = k
    · simp [getEntry, hm]
    · simp only [getEntry, if_neg hm, ih, List.map_cons, List.mem_cons, Ne.symm hm, false_or]

theorem mem_of_get {r : Record α} (h : r.get k = some v) : (k, v) ∈ r.entries := by
  obtain ⟨es⟩ := r
  simp only [get] at h
  induction es with
  | nil => cases h
  | cons e es ih =>
    obtain ⟨m, w⟩ := e
    by_cases hm : m = k
    · rw [getEntry, if_pos hm] at h
      cases h
      exact List.mem_cons.2 (.inl (by rw [hm]))
    · rw [getEntry, if_neg hm] at h
      exact List.mem_cons_of_mem _ (ih h)

theorem mem_put {r : Record α} (h : e ∈ (r.put k v).entries) : e = (k, v) ∨ e ∈ r.entries := by
  obtain ⟨es⟩ := r
  simp only [put] at h ⊢
  induction es with
  | nil => exact .inl (List.mem_singleton.1 h)
  | cons d es ih =>
    obtain ⟨m, w⟩ := d
    by_cases hm : m = k
    · rw [putEntry, if_pos hm, List.mem_cons] at h
      exact h.imp (fun h => hm ▸ h) (List.mem_cons_of_mem _)
    · rw [putEntry, if_neg hm, List.mem_cons] at h
      rcases h with rfl | h
      · exact .inr List.mem_cons_self
      · exact (ih h).imp id (List.mem_cons_of_mem _)

theorem keys_put_of_mem (r : Record α) (v : α) (h : k ∈ r.keys) : (r.put k v).keys = r.keys := by
  obtain ⟨es⟩ := r
  simp only [put, keys] at h ⊢
  induction es with
  | nil => simp at h
  | cons e es ih =>
    obtain ⟨m, w⟩ := e
    by_cases hm : m = k
    · simp only [putEntry, if_pos hm, List.map_cons]
    · have hk : k ∈ es.map Prod.fst := by simpa [Ne.symm hm] using h
      simp only [putEntry, if_neg hm, List.map_cons, ih hk]

theorem keys_put_of_not_mem (r : Record α) (v : α) (h : k ∉ r.keys) :
    (r.put k v).keys = r.keys ++ [k] := by
  obtain ⟨es⟩ := r
  simp only [put, keys] at h ⊢
  induction es with
  | nil => rfl
  | cons e es ih =>
    obtain ⟨m, w⟩ := e
    simp only [List.map_cons, List.mem_cons, not_or] at h
    simp only [putEntry, if_neg (Ne.symm h.1), List.map_cons, ih h.2, List.cons_append]

theorem mem_keys_put (r : Record α) (v : α) : l ∈ (r.put k v).keys ↔ l = k ∨ l ∈ r.keys := by
  rw [← get_isSome_iff, ← get_isSome_iff, get_put]
  by_cases h : k = l
  · simp [h]
  · simp [h, Ne.symm h]

theorem nodup_put {r : Record α} (h : r.keys.Nodup) (k : String) (v : α) :
    (r.put k v).keys.Nodup := by
  by_cases hk : k ∈ r.keys
  · rwa [keys_put_of_mem r v hk]
  · rw [keys_put_of_not_mem r v hk]
    exact List.nodup_append.2 ⟨h, List.pairwise_singleton _ k, fun a ha b hb => by
      rintro rfl
      exact hk (List.mem_singleton.1 hb ▸ ha)⟩

theorem keys_erase (r : Record α) (k : String) : (r.erase k).keys = r.keys.filter (· ≠ k) := by
  obtain ⟨es⟩ := r
  simp only [erase, keys, List.filter_map]
  rfl

end Record

/-- A JavaScript number: the finite ones are taken as exact rationals. -/
inductive Number where
  | nan
  | posInfinity
  | negInfinity
  | finite (q : Rat)
deriving DecidableEq

namespace Number

def neg : Number → Number
  | .nan => .nan
  | .posInfinity => .negInfinity
  | .negInfinity => .posInfinity
  | .finite q => .finite (-q)

def sub : Number → Number → Number
  | .finite a, .finite b => .finite (a - b)
  | .nan, _ | _, .nan => .nan
  | .posInfinity, .posInfinity | .negInfinity, .negInfinity => .nan
  | .posInfinity, _ | _, .negInfinity => .posInfinity
  | .negInfinity, _ | _, .posInfinity => .negInfinity

end Number

/-- A value stored in the database or held by a script. An absent value is an absent key. -/
inductive Json where
  | bool (b : Bool)
  | num (n : Number)
  | str (s : String)
  | obj (fields : Record Json)

namespace Json

mutual

def equal : (a b : Json) → Decidable (a = b)
  | .bool a, .bool b => decidable_of_iff (a = b) (by simp)
  | .num a, .num b => decidable_of_iff (a = b) (by simp)
  | .str a, .str b => decidable_of_iff (a = b) (by simp)
  | .obj ⟨as⟩, .obj ⟨bs⟩ =>
    match equalEntries as bs with
    | isTrue h => isTrue (by rw [h])
    | isFalse h => isFalse (by simpa using h)
  | .bool _, .num _ | .bool _, .str _ | .bool _, .obj _
  | .num _, .bool _ | .num _, .str _ | .num _, .obj _
  | .str _, .bool _ | .str _, .num _ | .str _, .obj _
  | .obj _, .bool _ | .obj _, .num _ | .obj _, .str _ => isFalse (by simp)

def equalEntries : (as bs : List (String × Json)) → Decidable (as = bs)
  | [], [] => isTrue rfl
  | [], _ :: _ | _ :: _, [] => isFalse (by simp)
  | (k, v) :: as, (l, w) :: bs =>
    match decEq k l, equal v w, equalEntries as bs with
    | isTrue hk, isTrue hv, isTrue h => isTrue (by rw [hk, hv, h])
    | isFalse hk, _, _ => isFalse (by simp [hk])
    | _, isFalse hv, _ => isFalse (by simp [hv])
    | _, _, isFalse h => isFalse (by simp [h])

end

instance : DecidableEq Json := equal

def fields : Json → Record Json
  | .obj r => r
  | _ => .empty

/-- The child at a key: `none` when it is absent or the value is not an object. -/
def child (v : Json) (k : String) : Option Json := v.fields.get k

@[simp] theorem fields_obj (r : Record Json) : (Json.obj r).fields = r := rfl

@[simp] theorem child_obj (r : Record Json) (k : String) : (Json.obj r).child k = r.get k := rfl

mutual

/-- What the database keeps of a value; an empty object is nothing. -/
def kept : Json → Option Json
  | .obj ⟨es⟩ =>
    match keptEntries es with
    | [] => none
    | e :: es => some (.obj ⟨e :: es⟩)
  | v => some v

def keptEntries : List (String × Json) → List (String × Json)
  | [] => []
  | (k, v) :: es =>
    match kept v with
    | none => keptEntries es
    | some v => (k, v) :: keptEntries es

end

/-- A value that the database keeps as it is. -/
def Kept (v : Json) : Prop := v.kept = some v

instance : DecidablePred Kept := fun _ => inferInstanceAs (Decidable (_ = _))

theorem kept_num (n : Number) : (Json.num n).Kept := rfl

theorem kept_str (s : String) : (Json.str s).Kept := rfl

theorem keptEntries_eq {es : List (String × Json)} (h : ∀ e ∈ es, e.2.Kept) :
    keptEntries es = es := by
  induction es with
  | nil => rfl
  | cons e es ih =>
    obtain ⟨he, hes⟩ := List.forall_mem_cons.1 h
    have hkept : e.2.kept = some e.2 := he
    rw [keptEntries, hkept, ih hes]

/-- A record whose values are kept as they are. -/
def KeptFields (r : Record Json) : Prop := ∀ e ∈ r.entries, e.2.Kept

theorem length_keptEntries_le (es : List (String × Json)) :
    (keptEntries es).length ≤ es.length := by
  induction es with
  | nil => exact Nat.le_refl 0
  | cons e es ih =>
    obtain ⟨k, v⟩ := e
    rw [keptEntries]
    cases v.kept with
    | none => exact Nat.le_succ_of_le ih
    | some w => exact Nat.succ_le_succ ih

theorem of_keptEntries_eq {es : List (String × Json)} (h : keptEntries es = es) :
    ∀ e ∈ es, e.2.Kept := by
  induction es with
  | nil => exact fun e he => absurd he List.not_mem_nil
  | cons e es ih =>
    obtain ⟨k, v⟩ := e
    rw [keptEntries] at h
    cases hv : v.kept with
    | none =>
      have hle := length_keptEntries_le es
      rw [hv] at h
      simp only [h, List.length_cons] at hle
      exact absurd hle (Nat.not_succ_le_self _)
    | some w =>
      simp only [hv, List.cons.injEq, Prod.mk.injEq, true_and] at h
      exact List.forall_mem_cons.2 ⟨hv.trans (congrArg some h.1), ih h.2⟩

theorem Kept.fields {v : Json} (h : v.Kept) : KeptFields v.fields := by
  cases v with
  | obj r =>
    obtain ⟨es⟩ := r
    rw [Kept, kept] at h
    apply of_keptEntries_eq
    cases hes : keptEntries es with
    | nil =>
      rw [hes] at h
      cases h
    | cons e fs =>
      rw [hes] at h
      cases h
      exact hes
  | bool b => exact fun e he => absurd he List.not_mem_nil
  | num n => exact fun e he => absurd he List.not_mem_nil
  | str s => exact fun e he => absurd he List.not_mem_nil

theorem keptFields_empty : KeptFields .empty := fun _ he => absurd he List.not_mem_nil

theorem KeptFields.put {r : Record Json} (h : KeptFields r) (k : String) (hv : v.Kept) :
    KeptFields (r.put k v) := fun e he =>
  (Record.mem_put he).elim (fun he => he ▸ hv) (h e)

theorem KeptFields.erase {r : Record Json} (h : KeptFields r) (k : String) :
    KeptFields (r.erase k) := fun e he => h e (List.mem_of_mem_filter he)

theorem kept_obj {r : Record Json} (h : KeptFields r) (hk : r.get k = some v) :
    (Json.obj r).Kept := by
  have hmem := Record.mem_of_get hk
  obtain ⟨es⟩ := r
  rw [Kept, kept, keptEntries_eq h]
  cases es with
  | nil => cases hmem
  | cons e es => rfl

theorem kept_put {r : Record Json} (h : KeptFields r) (k : String) (hv : v.Kept) :
    (Json.obj (r.put k v)).Kept :=
  kept_obj (h.put k hv) (Record.get_put_self r k v)

end Json
