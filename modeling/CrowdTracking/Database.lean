import Mathlib.Data.List.Dedup
import Mathlib.Data.List.Sort
import CrowdTracking.Json

namespace Database
set_option autoImplicit true

def getAt : List String → Json → Option Json
  | [], t => some t
  | k :: p, t => (t.child k).bind (getAt p)

/-- Replace the value at a path; a scalar or missing value on the way becomes an object. -/
def setAt : List String → Json → Json → Json
  | [], v, _ => v
  | k :: p, v, t => .obj (t.fields.put k (setAt p v ((t.child k).getD (.obj .empty))))

/-- Replace only the named children of the value at a path. -/
def updateAt (p : List String) (values : List (String × Json)) (t : Json) : Json :=
  values.foldl (fun t e => setAt (p ++ [e.1]) e.2 t) t

/-- Without the value at a path; `none` when nothing is left. -/
def removeAt : List String → Json → Option Json
  | [], _ => none
  | k :: p, t =>
    match t.child k with
    | none => some t
    | some u =>
      match removeAt p u with
      | some u => some (.obj (t.fields.put k u))
      | none => if (t.fields.erase k).keys = [] then none else some (.obj (t.fields.erase k))

/-- What is kept of a value takes the place of the one at a path. -/
def storeAt (p : List String) (v t : Json) : Json :=
  match v.kept with
  | some v => setAt p v t
  | none => (removeAt p t).getD (.obj .empty)

/-- The two write primitives of a database reference. -/
inductive Write where
  | setValue (path : List String) (value : Json)
  | updateChildValues (path : List String) (values : List (String × Json))
deriving DecidableEq

def Write.path : Write → List String
  | .setValue p _ => p
  | .updateChildValues p _ => p

def Write.apply : Write → Json → Json
  | .setValue p v, t => setAt p v t
  | .updateChildValues p vs, t => updateAt p vs t

/-- The write as the server takes it: to set an empty object is to remove what is there. -/
def Write.store : Write → Json → Json
  | .setValue p v, t => storeAt p v t
  | .updateChildValues p vs, t => vs.foldl (fun t e => storeAt (p ++ [e.1]) e.2 t) t

/-- A write of values that are kept as they are. -/
def Write.Kept : Write → Prop
  | .setValue _ v => v.Kept
  | .updateChildValues _ vs => ∀ e ∈ vs, e.2.Kept

/-- The fields a write stores at its path. -/
def Write.fields : Write → List String
  | .setValue _ v => v.fields.keys
  | .updateChildValues _ vs => vs.map Prod.fst

/-- The `child_changed` events between two values of a node: the children that existed and now
have another value, in key order. A child that appears raises `child_added` instead. -/
def changedChildren (old new : Json) : List (String × Json) :=
  (new.fields.keys.dedup.insertionSort (· ≤ ·)).filterMap fun k =>
    match old.child k, new.child k with
    | some v, some w => if v = w then none else some (k, w)
    | _, _ => none

theorem storeAt_eq (h : v.Kept) (p : List String) (t : Json) : storeAt p v t = setAt p v t := by
  have hv : v.kept = some v := h
  rw [storeAt, hv]

theorem Write.store_eq {w : Write} (h : w.Kept) (t : Json) : w.store t = w.apply t := by
  cases w with
  | setValue p v => exact storeAt_eq h p t
  | updateChildValues p vs =>
    simp only [Write.store, Write.apply, updateAt]
    induction vs generalizing t with
    | nil => rfl
    | cons e vs ih =>
      obtain ⟨he, hvs⟩ := List.forall_mem_cons.1 h
      rw [List.foldl_cons, List.foldl_cons, storeAt_eq he]
      exact ih _ hvs

theorem getAt_append (p q : List String) (t : Json) :
    getAt (p ++ q) t = (getAt p t).bind (getAt q) := by
  induction p generalizing t with
  | nil => rfl
  | cons k p ih =>
    simp only [List.cons_append, getAt]
    cases t.child k with
    | none => rfl
    | some u => exact ih u

/-- Below a path, a write acts on the value that was there. -/
theorem getAt_setAt_below (p q : List String) (v t : Json) :
    getAt p (setAt (p ++ q) v t) = some (setAt q v ((getAt p t).getD (.obj .empty))) := by
  induction p generalizing t with
  | nil => rfl
  | cons k p ih =>
    simp only [List.cons_append, setAt, getAt, Json.child_obj, Record.get_put_self,
      Option.bind_some, ih]
    cases t.child k with
    | none =>
      have hp : (getAt p (.obj .empty)).getD (.obj .empty) = .obj .empty := by
        cases p <;> rfl
      simp only [Option.getD_none, Option.bind_none, hp]
    | some u => rfl

@[simp] theorem getAt_setAt_self (p : List String) (v t : Json) :
    getAt p (setAt p v t) = some v := by
  have h := getAt_setAt_below p [] v t
  rwa [List.append_nil] at h

/-- Storing what is there changes nothing. -/
theorem setAt_getAt (h : getAt p t = some v) : setAt p v t = t := by
  induction p generalizing t with
  | nil => exact (Option.some.inj h).symm
  | cons k p ih =>
    obtain ⟨u, hu, hv⟩ := Option.bind_eq_some_iff.1 h
    cases t with
    | obj r =>
      rw [Json.child_obj] at hu
      rw [setAt, Json.child_obj, hu, Option.getD_some, ih hv, Json.fields_obj, Record.put_of_get hu]
    | bool b => cases hu
    | num n => cases hu
    | str s => cases hu

/-- Writes to one child leave its siblings alone. -/
theorem getAt_setAt_other (p q r : List String) (v t : Json) (h : k ≠ l) :
    getAt (p ++ k :: q) (setAt (p ++ l :: r) v t) = getAt (p ++ k :: q) t := by
  induction p generalizing t with
  | nil =>
    simp only [List.nil_append, getAt, setAt, Json.child_obj, Record.get_put_of_ne _ _ (Ne.symm h)]
    rfl
  | cons m p ih =>
    simp only [List.cons_append, getAt, setAt, Json.child_obj, Record.get_put_self,
      Option.bind_some, ih]
    cases t.child m with
    | none => cases p <;> rfl
    | some u => rfl

/-- A write below one child leaves the other children alone. -/
theorem getAt_apply_below {w : Write} (hw : w.path = p ++ l :: q) (h : k ≠ l) (t : Json) :
    getAt (p ++ [k]) (w.apply t) = getAt (p ++ [k]) t := by
  cases w with
  | setValue r v =>
    rw [show r = p ++ l :: q from hw]
    exact getAt_setAt_other p [] q v t h
  | updateChildValues r values =>
    rw [show r = p ++ l :: q from hw]
    simp only [Write.apply, updateAt, List.append_assoc, List.cons_append]
    clear hw
    induction values generalizing t with
    | nil => rfl
    | cons e es ih => rw [List.foldl_cons, ih, getAt_setAt_other p [] (q ++ [e.1]) e.2 t h]

theorem getAt_apply_other {w : Write} (hw : w.path = p ++ [l]) (h : k ≠ l) (t : Json) :
    getAt (p ++ [k]) (w.apply t) = getAt (p ++ [k]) t :=
  getAt_apply_below hw h t

/-- A write at or below a path that is there leaves it there. -/
theorem getAt_apply_isSome {w : Write} (hw : w.path = p ++ q) (h : (getAt p t).isSome) :
    (getAt p (w.apply t)).isSome := by
  cases w with
  | setValue r v =>
    rw [show r = p ++ q from hw, Write.apply, getAt_setAt_below]
    rfl
  | updateChildValues r values =>
    rw [show r = p ++ q from hw, Write.apply, updateAt]
    clear hw
    induction values generalizing t with
    | nil => exact h
    | cons e es ih =>
      apply ih
      simp only [List.append_assoc, getAt_setAt_below, Option.isSome_some]

theorem getAt_getD (p : List String) (o : Option Json) (h : p ≠ []) :
    getAt p (o.getD (.obj .empty)) = o.bind (getAt p) := by
  cases o with
  | none =>
    cases p with
    | nil => exact absurd rfl h
    | cons k p => rfl
  | some t => rfl

/-- What a write leaves at a path depends on the value at that path alone. -/
theorem getAt_setAt_congr (p q : List String) (v : Json) {t u : Json} (h : getAt p t = getAt p u) :
    getAt p (setAt q v t) = getAt p (setAt q v u) := by
  induction p generalizing q t u with
  | nil => rw [Option.some.inj h]
  | cons k p ih =>
    cases q with
    | nil => rfl
    | cons l q =>
      have hchild (t : Json) : getAt (k :: p) (setAt (l :: q) v t) =
          if l = k then getAt p (setAt q v ((t.child k).getD (.obj .empty)))
          else getAt (k :: p) t := by
        simp only [getAt, setAt, Json.child_obj, Record.get_put]
        by_cases hl : l = k
        · rw [if_pos hl, if_pos hl, hl, Option.bind_some]
        · rw [if_neg hl, if_neg hl]
          rfl
      rw [hchild, hchild]
      by_cases hl : l = k
      · rw [if_pos hl, if_pos hl]
        apply ih
        by_cases hp : p = []
        · subst hp
          have hsame : t.child k = u.child k := by simpa [getAt] using h
          rw [hsame]
        · rw [getAt_getD p _ hp, getAt_getD p _ hp]
          exact h
      · rw [if_neg hl, if_neg hl, h]

theorem getAt_apply_congr (p : List String) (w : Write) {t u : Json} (h : getAt p t = getAt p u) :
    getAt p (w.apply t) = getAt p (w.apply u) := by
  cases w with
  | setValue q v => exact getAt_setAt_congr p q v h
  | updateChildValues q values =>
    simp only [Write.apply, updateAt]
    induction values generalizing t u with
    | nil => exact h
    | cons e es ih => exact ih (getAt_setAt_congr p (q ++ [e.1]) e.2 h)

theorem getD_updateAt (p q : List String) (values : List (String × Json)) (t : Json) :
    (getAt p (updateAt (p ++ q) values t)).getD (.obj .empty) =
      updateAt q values ((getAt p t).getD (.obj .empty)) := by
  induction values generalizing t with
  | nil => rfl
  | cons e es ih =>
    simp only [updateAt, List.foldl_cons] at ih ⊢
    rw [ih, List.append_assoc, getAt_setAt_below, Option.getD_some]

/-- A node with a child that was written is an object. -/
theorem getAt_apply_obj {w : Write} (hw : w.path = p ++ [c])
    (hne : ∀ q, w ≠ .updateChildValues q []) : ∃ r, getAt p (w.apply t) = some (.obj r) := by
  cases w with
  | setValue q v =>
    have hq : q = p ++ [c] := hw
    rw [hq]
    exact ⟨_, getAt_setAt_below p [c] v t⟩
  | updateChildValues q values =>
    have hq : q = p ++ [c] := hw
    have hvalues : values ≠ [] := fun h => hne q (by rw [h])
    rw [hq, Write.apply, updateAt, ← List.dropLast_append_getLast hvalues, List.foldl_append,
      List.foldl_cons, List.foldl_nil, List.append_assoc, List.singleton_append]
    exact ⟨_, getAt_setAt_below p _ _ _⟩

theorem getAt_updateAt_of_not_mem (p : List String) (t : Json)
    (h : k ∉ values.map Prod.fst) :
    getAt (p ++ [k]) (updateAt p values t) = getAt (p ++ [k]) t := by
  induction values generalizing t with
  | nil => rfl
  | cons e es ih =>
    rw [List.map_cons, List.mem_cons, not_or] at h
    exact (ih (setAt (p ++ [e.1]) e.2 t) h.2).trans (getAt_setAt_other p [] [] e.2 t h.1)

theorem getAt_updateAt_of_mem (p : List String) (t : Json) (hn : (values.map Prod.fst).Nodup)
    (h : (k, v) ∈ values) : getAt (p ++ [k]) (updateAt p values t) = some v := by
  induction values generalizing t with
  | nil => cases h
  | cons e es ih =>
    rw [List.map_cons, List.nodup_cons] at hn
    rcases List.mem_cons.1 h with rfl | h
    · have hlast := getAt_updateAt_of_not_mem p (setAt (p ++ [k]) v t) hn.1
      exact hlast.trans (getAt_setAt_self _ _ _)
    · exact ih (setAt (p ++ [e.1]) e.2 t) hn.2 h

theorem updateAt_child_of_ne (values : List (String × Json)) (t : Json) (h : k ≠ l) :
    (updateAt [l] values t).child k = t.child k := by
  induction values generalizing t with
  | nil => rfl
  | cons e es ih =>
    have hset : (setAt [l, e.1] e.2 t).child k = t.child k :=
      Record.get_put_of_ne _ _ (Ne.symm h)
    exact (ih (setAt [l, e.1] e.2 t)).trans hset

theorem updateAt_child_self (values : List (String × Json)) (t : Json) (h : values ≠ []) :
    (updateAt [l] values t).child l = some (.obj (values.foldl (fun r e => r.put e.1 e.2)
      ((t.child l).getD (.obj .empty)).fields)) := by
  induction values generalizing t with
  | nil => exact absurd rfl h
  | cons e es ih =>
    have hset : (setAt [l, e.1] e.2 t).child l =
        some (.obj (((t.child l).getD (.obj .empty)).fields.put e.1 e.2)) :=
      Record.get_put_self _ _ _
    cases es with
    | nil => exact hset
    | cons f es =>
      apply (ih (setAt [l, e.1] e.2 t) (List.cons_ne_nil f es)).trans ?_
      rw [hset]
      rfl

theorem filterMap_of_nodup {f : String → Option α} {ks : List String} (hn : ks.Nodup)
    (hf : ∀ k ∈ ks, k ≠ c → f k = none) :
    ks.filterMap f = if c ∈ ks then (f c).toList else [] := by
  induction ks with
  | nil => rfl
  | cons k ks ih =>
    obtain ⟨hk, hn⟩ := List.nodup_cons.1 hn
    have hks := ih hn fun l hl => hf l (List.mem_cons_of_mem k hl)
    by_cases hkc : k = c
    · subst hkc
      rw [if_neg hk] at hks
      rw [List.filterMap_cons, hks, if_pos List.mem_cons_self]
      cases f k <;> rfl
    · rw [List.filterMap_cons, hf k List.mem_cons_self hkc, hks]
      simp only [List.mem_cons, Ne.symm hkc, false_or]

theorem mem_changedChildren (h : (k, w) ∈ changedChildren old new) : new.child k = some w := by
  obtain ⟨l, -, hl⟩ := List.mem_filterMap.1 h
  split at hl
  · obtain ⟨-, hl⟩ := Option.ite_none_left_eq_some.1 hl
    cases hl
    assumption
  · cases hl

theorem child_of_mem_changedChildren (h : (k, w) ∈ changedChildren old new) :
    ∃ v, old.child k = some v ∧ v ≠ w := by
  obtain ⟨l, -, hl⟩ := List.mem_filterMap.1 h
  split at hl
  · rename_i v u hv hu
    obtain ⟨hne, hl⟩ := Option.ite_none_left_eq_some.1 hl
    cases hl
    exact ⟨v, hv, hne⟩
  · cases hl

theorem changedChildren_self (t : Json) : changedChildren t t = [] := by
  rw [changedChildren, List.filterMap_eq_nil_iff]
  intro k _
  cases t.child k with
  | none => rfl
  | some v => exact if_pos rfl

/-- A write to one child raises at most the event of that child. -/
theorem changedChildren_single {old new : Json}
    (h : ∀ k, k ≠ c → new.child k = old.child k) (hw : new.child c = some w) :
    changedChildren old new = match old.child c with
      | some v => if v = w then [] else [(c, w)]
      | none => [] := by
  have hmem : c ∈ new.fields.keys.dedup.insertionSort (· ≤ ·) := by
    rw [List.mem_insertionSort, List.mem_dedup, ← Record.get_isSome_iff]
    exact Option.isSome_of_eq_some hw
  have hnodup : (new.fields.keys.dedup.insertionSort (· ≤ ·)).Nodup :=
    (List.perm_insertionSort _ _).nodup_iff.2 (List.nodup_dedup _)
  rw [changedChildren, filterMap_of_nodup (c := c) hnodup, if_pos hmem, hw]
  · cases old.child c with
    | none => rfl
    | some v =>
      by_cases hv : v = w
      · simp [hv]
      · simp [hv]
  · intro k _ hk
    rw [h k hk]
    cases old.child k with
    | none => rfl
    | some v => simp

end Database
