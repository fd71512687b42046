import CrowdTracking.Platform
import CrowdTracking.Rounding

namespace CrowdTracking
set_option autoImplicit true
open Database Runs Rounding

/-- `round(random.uniform(0, 0.02), 6)`, counted in millionths of a degree. -/
structure DemoDraw where
  lat : Fin 20001
  lng : Fin 20001
deriving DecidableEq

/-- The crowds that `demo.py` has loaded, each under its name. An export of the database has no
empty object. -/
structure Export where
  data : Record Json
  nodup : data.keys.Nodup
  kept : Json.KeptFields data

namespace Demo

/-- The `float` nearest to the rounded draw. -/
def degrees (n : Fin 20001) : Rat := nearest 53 (n.val / 1000000)

/-- A number and a draw are added as floats, an `int` being converted first. -/
def sum (q : Rat) (d : Fin 20001) : Rat := nearest 53 (nearest 53 q + degrees d)

/-- `v += d`; `none` is a `TypeError`, or the `OverflowError` of an `int` beyond the floats. -/
def plus (d : Fin 20001) : Json → Option Json
  | .num (.finite q) => if InRange 53 971 q then some (.num (.finite (sum q d))) else none
  | .num n => some (.num n)
  | .bool b => some (.num (.finite (sum (if b then 1 else 0) d)))
  | .str _ | .obj _ => none

/-- `crowd['location'][c] += d`; `none` is also a `KeyError`. -/
def add (crowd : Json) (c : String) (d : Fin 20001) : Option Json :=
  (crowd.child "location").bind fun location =>
    (location.child c).bind fun v => (plus d v).map fun w =>
      .obj (crowd.fields.put "location" (.obj (location.fields.put c w)))

def shift (crowd : Json) (d : DemoDraw) : Option Json :=
  (add crowd "lat" d.lat).bind fun crowd => add crowd "lng" d.lng

def name (i : Nat) : String := toString i ++ "-tmp"

/-- A value that a draw can be added to. -/
def addable : Json → Bool
  | .num (.finite q) => InRange 53 971 q
  | .num _ | .bool _ => true
  | .str _ | .obj _ => false

def Movable (crowd : Json) : Prop :=
  (Tracking.place crowd "lat").any addable ∧ (Tracking.place crowd "lng").any addable

theorem kept_plus (h : plus d v = some w) : w.Kept := by
  cases v with
  | num n =>
    cases n with
    | finite q =>
      obtain ⟨-, h⟩ := Option.ite_none_right_eq_some.1 h
      cases h
      exact Json.kept_num _
    | nan | posInfinity | negInfinity =>
      cases h
      exact Json.kept_num _
  | bool b =>
    cases h
    exact Json.kept_num _
  | str s => cases h
  | obj r => cases h

theorem kept_add (hcrowd : crowd.Kept) (h : add crowd c d = some crowd') : crowd'.Kept := by
  obtain ⟨location, hl, h⟩ := Option.bind_eq_some_iff.1 h
  obtain ⟨v, hv, h⟩ := Option.bind_eq_some_iff.1 h
  obtain ⟨w, hw, rfl⟩ := Option.map_eq_some_iff.1 h
  have hlocation : location.Kept := hcrowd.fields _ (Record.mem_of_get hl)
  apply Json.kept_put hcrowd.fields
  exact Json.kept_put hlocation.fields _ (kept_plus hw)

theorem kept_shift (hcrowd : crowd.Kept) (h : shift crowd d = some crowd') : crowd'.Kept := by
  obtain ⟨mid, hlat, hlng⟩ := Option.bind_eq_some_iff.1 h
  exact kept_add (kept_add hcrowd hlat) hlng

end Demo

namespace Export
open Demo

def put (x : Export) (k : String) (v : Json) (hv : v.Kept) : Export :=
  ⟨x.data.put k v, Record.nodup_put x.nodup k v, x.kept.put k hv⟩

theorem kept_get (x : Export) (h : x.data.get k = some v) : v.Kept :=
  x.kept _ (Record.mem_of_get h)

def move (draws : Fin 500 → DemoDraw) (x : Export) (i : Fin 500) : Option Export :=
  (x.data.get (name i)).pbind fun _ hcrowd => (shift _ (draws i)).pmap (x.put (name i))
    fun _ hv => kept_shift (x.kept_get hcrowd) hv

/-- The 500 crowds of the loop are there, each with a position to add to. -/
def Placed (x : Export) : Prop :=
  ∀ i : Fin 500, ∃ crowd, x.data.get (name i) = some crowd ∧ Movable crowd

/-- One pass of the loop over the crowds; `none` is an exception, which ends the program. -/
def round (draws : Fin 500 → DemoDraw) (x : Export) : Option Export :=
  (List.finRange 500).foldlM (move draws) x

/-- `root.child('Crowd').update(data)` -/
def update (x : Export) : Write := .updateChildValues ["Crowd"] x.data.entries

theorem kept_update (x : Export) : x.update.Kept := x.kept

end Export

namespace Demo

/-- A value that counts as a finite number. -/
def number : Json → Option Rat
  | .num (.finite q) => some q
  | .bool b => some (if b then 1 else 0)
  | _ => none

def coordinate (crowd : Json) (c : String) : Option Rat :=
  (Tracking.place crowd c).bind number

/-- After `n` rounds only the position has changed: to each coordinate `n` numbers from 0 to 0.02
have been added, as floats. -/
structure Drifted (n : Nat) (old new : Json) : Prop where
  other : ∀ k, k ≠ "location" → new.child k = old.child k
  place : ∀ k, k ≠ "lat" → k ≠ "lng" → Tracking.place new k = Tracking.place old k
  lat : ∀ q ∈ coordinate old "lat",
    ∃ ds : List (Fin 20001), ds.length = n ∧ coordinate new "lat" = some (ds.foldl sum q)
  lng : ∀ q ∈ coordinate old "lng",
    ∃ ds : List (Fin 20001), ds.length = n ∧ coordinate new "lng" = some (ds.foldl sum q)

variable {old new : Json}

theorem degrees_nonneg (n : Fin 20001) : 0 ≤ degrees n := by
  rw [degrees]
  rcases (Nat.cast_nonneg n.val : (0 : Rat) ≤ n.val).eq_or_lt with h | h
  · rw [← h, zero_div, nearest_zero]
  · exact (nearest_pos (by decide) (div_pos h (by norm_num))).le

theorem degrees_lt (n : Fin 20001) : degrees n < 1 := by
  have hn : (n.val : Rat) ≤ 20000 := by exact_mod_cast Nat.le_of_lt_succ n.isLt
  have hpos : (0 : Rat) ≤ n.val := Nat.cast_nonneg _
  have hrange : InRange 53 (-54) (n.val / 1000000) := by
    rw [InRange, abs_of_nonneg (by positivity)]
    norm_num
    linarith
  have hle := abs_nearest_le (by decide) hrange
  rw [← degrees, abs_of_nonneg (degrees_nonneg n)] at hle
  norm_num at hle
  linarith

/-- A sum of floats is in range again. -/
theorem inRange_sum (h : InRange 53 971 q) (d : Fin 20001) : InRange 53 971 (sum q d) := by
  apply inRange_nearest (by decide)
  apply inRange_add (by decide) h
  rw [abs_of_nonneg (degrees_nonneg d)]
  calc 2 * degrees d < 2 := by linarith [degrees_lt d]
    _ = 2 ^ (1 : Int) := (zpow_one 2).symm
    _ ≤ 2 ^ (971 : Int) := zpow_le_zpow_right₀ (by norm_num) (by norm_num)

theorem sum_pos (h : 0 < q) (d : Fin 20001) : 0 < sum q d := by
  have hq := nearest_pos (p := 53) (by decide) h
  have hd := degrees_nonneg d
  exact nearest_pos (by decide) (by linarith)

theorem foldl_sum_pos (h : 0 < q) (ds : List (Fin 20001)) : 0 < ds.foldl sum q := by
  induction ds generalizing q with
  | nil => exact h
  | cons d ds ih => exact ih (sum_pos h d)

theorem number_plus (hv : number v = some q) (hw : plus d v = some w) :
    number w = some (sum q d) := by
  cases v with
  | bool b =>
    cases hv
    cases hw
    rfl
  | num n =>
    cases n with
    | finite r =>
      obtain ⟨-, hw⟩ := Option.ite_none_right_eq_some.1 hw
      cases hv
      cases hw
      rfl
    | nan | posInfinity | negInfinity => cases hv
  | str s => cases hv
  | obj r => cases hv

/-- Adding to a coordinate touches nothing else. -/
theorem add_spec (h : add old c d = some new) :
    (∀ k, k ≠ "location" → new.child k = old.child k) ∧
      (∀ k, k ≠ c → Tracking.place new k = Tracking.place old k) ∧
      ∀ q ∈ coordinate old c, coordinate new c = some (sum q d) := by
  obtain ⟨location, hl, h⟩ := Option.bind_eq_some_iff.1 h
  obtain ⟨v, hv, h⟩ := Option.bind_eq_some_iff.1 h
  obtain ⟨w, hw, rfl⟩ := Option.map_eq_some_iff.1 h
  have hplace (k : String) : Tracking.place (.obj (old.fields.put "location"
      (.obj (location.fields.put c w)))) k = (location.fields.put c w).get k := by
    rw [Tracking.place, Json.child_obj, Record.get_put_self]
    rfl
  refine ⟨?_, ?_, ?_⟩
  · intro k hk
    exact Record.get_put_of_ne _ _ (Ne.symm hk)
  · intro k hk
    rw [hplace, Record.get_put_of_ne _ _ (Ne.symm hk), Tracking.place, hl]
    rfl
  · intro q hq
    rw [Option.mem_def, coordinate, Tracking.place, hl, Option.bind_some, hv,
      Option.bind_some] at hq
    rw [coordinate, hplace, Record.get_put_self, Option.bind_some]
    exact number_plus hq hw

theorem plus_isSome (d : Fin 20001) (v : Json) : (plus d v).isSome = addable v := by
  cases v with
  | num n =>
    cases n with
    | finite q =>
      rw [plus, addable]
      by_cases h : InRange 53 971 q
      · rw [if_pos h, decide_eq_true h]
        rfl
      · rw [if_neg h, decide_eq_false h]
        rfl
    | nan | posInfinity | negInfinity => rfl
  | _ => rfl

theorem addable_plus (hw : plus d v = some w) : addable w := by
  cases v with
  | num n =>
    cases n with
    | finite q =>
      obtain ⟨hq, hw⟩ := Option.ite_none_right_eq_some.1 hw
      cases hw
      exact decide_eq_true (inRange_sum hq d)
    | nan | posInfinity | negInfinity =>
      cases hw
      rfl
  | bool b =>
    have hb : InRange 53 971 (if b then 1 else 0) := by cases b <;> decide +kernel
    cases hw
    exact decide_eq_true (inRange_sum hb d)
  | str s => cases hw
  | obj r => cases hw

theorem add_isSome (crowd : Json) (c : String) (d : Fin 20001) :
    (add crowd c d).isSome = (Tracking.place crowd c).any addable := by
  rw [add, Tracking.place]
  cases crowd.child "location" with
  | none => rfl
  | some location =>
    rw [Option.bind_some, Option.bind_some]
    cases location.child c with
    | none => rfl
    | some v =>
      rw [Option.bind_some, Option.isSome_map, plus_isSome]
      rfl

theorem any_place_add (h : add old c d = some new) (k : String) :
    (Tracking.place new k).any addable = (Tracking.place old k).any addable := by
  by_cases hk : k = c
  · subst hk
    have hold := add_isSome old k d
    rw [h] at hold
    obtain ⟨location, hl, h⟩ := Option.bind_eq_some_iff.1 h
    obtain ⟨v, hv, h⟩ := Option.bind_eq_some_iff.1 h
    obtain ⟨w, hw, rfl⟩ := Option.map_eq_some_iff.1 h
    rw [← hold, Tracking.place, Json.child_obj, Record.get_put_self, Option.bind_some,
      Json.child_obj, Record.get_put_self]
    exact addable_plus hw
  · rw [(add_spec h).2.1 k hk]

/-- Whether a crowd can be shifted depends on no draw. -/
theorem shift_isSome (crowd : Json) (draw : DemoDraw) :
    (shift crowd draw).isSome ↔ Movable crowd := by
  have hlat := add_isSome crowd "lat" draw.lat
  rw [shift, Movable, ← hlat]
  cases h : add crowd "lat" draw.lat with
  | none => simp
  | some crowd' =>
    rw [Option.bind_some, add_isSome, any_place_add h "lng"]
    simp

theorem movable_shift (h : shift old draw = some new) : Movable new := by
  obtain ⟨mid, hlat, hlng⟩ := Option.bind_eq_some_iff.1 h
  have hold : Movable old := (shift_isSome old draw).1 (Option.isSome_of_eq_some h)
  refine ⟨?_, ?_⟩
  · rw [any_place_add hlng, any_place_add hlat]
    exact hold.1
  · rw [any_place_add hlng, any_place_add hlat]
    exact hold.2

theorem Drifted.refl (crowd : Json) : Drifted 0 crowd crowd :=
  ⟨fun _ _ => rfl, fun _ _ _ => rfl, fun _ hq => ⟨[], rfl, hq⟩, fun _ hq => ⟨[], rfl, hq⟩⟩

theorem coordinate_congr (h : Tracking.place new c = Tracking.place old c) :
    coordinate new c = coordinate old c := by
  rw [coordinate, h, coordinate]

/-- One more round. -/
theorem Drifted.shift {next : Json} {draw : DemoDraw} (h : Drifted n old new)
    (hs : shift new draw = some next) : Drifted (n + 1) old next := by
  obtain ⟨mid, hlat, hlng⟩ := Option.bind_eq_some_iff.1 hs
  obtain ⟨hother, hplace, hmoved⟩ := add_spec hlat
  obtain ⟨hother', hkept, hmoved'⟩ := add_spec hlng
  have hlength {ds : List (Fin 20001)} (hds : ds.length = n) (d : Fin 20001) :
      (ds ++ [d]).length = n + 1 := by
    rw [List.length_append, hds]
    rfl
  have hfold (ds : List (Fin 20001)) (d : Fin 20001) (q : Rat) :
      (ds ++ [d]).foldl sum q = sum (ds.foldl sum q) d := by
    rw [List.foldl_append]
    rfl
  refine ⟨?_, ?_, ?_, ?_⟩
  · intro k hk
    rw [hother' k hk, hother k hk, h.other k hk]
  · intro k hk hk'
    rw [hkept k hk', hplace k hk, h.place k hk hk']
  · intro q hq
    obtain ⟨ds, hds, hnew⟩ := h.lat q hq
    refine ⟨ds ++ [draw.lat], hlength hds _, ?_⟩
    rw [coordinate_congr (hkept "lat" (by decide)), hmoved _ hnew, hfold]
  · intro q hq
    obtain ⟨ds, hds, hnew⟩ := h.lng q hq
    have hmid := (coordinate_congr (hplace "lng" (by decide))).trans hnew
    refine ⟨ds ++ [draw.lng], hlength hds _, ?_⟩
    rw [hmoved' _ hmid, hfold]

end Demo

namespace Export
open Demo

variable {x y : Export} {draws : Fin 500 → DemoDraw}

theorem name_injective (h : name i = name j) : i = j := by
  have hlist : Nat.toDigits 10 i ++ "-tmp".toList = Nat.toDigits 10 j ++ "-tmp".toList := by
    have hlists := congrArg String.toList h
    simpa [name, Nat.toString_eq_ofList_toDigits] using hlists
  have hdigits := List.append_cancel_right hlist
  calc i = Nat.ofDigitChars 10 (Nat.toDigits 10 i) 0 := Nat.ofDigitChars_ten_toDigits.symm
    _ = Nat.ofDigitChars 10 (Nat.toDigits 10 j) 0 := by rw [hdigits]
    _ = j := Nat.ofDigitChars_ten_toDigits

/-- The crowd under a name after a part of a round: not named yet, or shifted once. -/
def Shifted (draws : Fin 500 → DemoDraw) (is : List (Fin 500)) (x y : Export) (k : String) : Prop :=
  ((∀ i ∈ is, k ≠ name i) ∧ y.data.get k = x.data.get k) ∨
    ∃ i ∈ is, k = name i ∧ ∃ crowd crowd', x.data.get k = some crowd ∧
      shift crowd (draws i) = some crowd' ∧ y.data.get k = some crowd'

theorem move_some (h : x.move draws i = some y) : ∃ crowd crowd', ∃ hv : crowd'.Kept,
    x.data.get (name i) = some crowd ∧ shift crowd (draws i) = some crowd' ∧
      y = x.put (name i) crowd' hv := by
  obtain ⟨crowd, hcrowd, h⟩ := Option.pbind_eq_some_iff.1 h
  obtain ⟨crowd', hv, hshift, rfl⟩ := Option.pmap_eq_some_iff.1 h
  exact ⟨crowd, crowd', hv, hcrowd, hshift, rfl⟩

theorem foldlM_move {is : List (Fin 500)} (hn : is.Nodup)
    (h : is.foldlM (move draws) x = some y) (k : String) : Shifted draws is x y k := by
  induction is generalizing x with
  | nil =>
    cases h
    exact .inl ⟨fun i hi => absurd hi List.not_mem_nil, rfl⟩
  | cons i is ih =>
    rw [List.foldlM_cons] at h
    obtain ⟨z, hz, h⟩ := Option.bind_eq_some_iff.1 h
    obtain ⟨hi, hn⟩ := List.nodup_cons.1 hn
    obtain ⟨crowd, crowd', hv, hcrowd, hshift, rfl⟩ := move_some hz
    have hother (hk : k ≠ name i) : (x.put (name i) crowd' hv).data.get k = x.data.get k :=
      Record.get_put_of_ne _ _ (Ne.symm hk)
    rcases ih hn h with ⟨hfree, hget⟩ | ⟨j, hj, hk, hmoved⟩
    · by_cases hk : k = name i
      · subst hk
        refine .inr ⟨i, List.mem_cons_self, rfl, crowd, crowd', hcrowd, hshift, ?_⟩
        rw [hget]
        exact Record.get_put_self _ _ _
      · refine .inl ⟨?_, hget.trans (hother hk)⟩
        intro j hj
        rcases List.mem_cons.1 hj with rfl | hj
        · exact hk
        · exact hfree j hj
    · have hne : k ≠ name i := by
        intro hk'
        have hij : (i : Nat) = j := name_injective (hk'.symm.trans hk)
        exact hi (Fin.ext hij ▸ hj)
      rw [hother hne] at hmoved
      exact .inr ⟨j, List.mem_cons_of_mem i hj, hk, hmoved⟩

/-- A name of the loop. -/
def Named (k : String) : Prop := ∃ i : Fin 500, k = name i

/-- A round shifts each crowd that it names once, and no other. -/
theorem round_get (h : x.round draws = some y) (k : String) :
    (¬Named k ∧ y.data.get k = x.data.get k) ∨ (Named k ∧ ∃ draw crowd crowd',
      x.data.get k = some crowd ∧ shift crowd draw = some crowd' ∧
        y.data.get k = some crowd') := by
  rw [round] at h
  rcases foldlM_move (List.nodup_finRange 500) h k with ⟨hfree, hget⟩ | ⟨i, -, hk, hmoved⟩
  · exact .inl ⟨fun ⟨i, hk⟩ => hfree i (List.mem_finRange i) hk, hget⟩
  · exact .inr ⟨⟨i, hk⟩, draws i, hmoved⟩

theorem round_get_none (h : x.round draws = some y) (hk : x.data.get k = none) :
    y.data.get k = none := by
  rcases round_get h k with ⟨-, hget⟩ | ⟨-, draw, crowd, crowd', hcrowd, -⟩
  · rw [hget, hk]
  · rw [hk] at hcrowd
    cases hcrowd

/-- A crowd after `n` rounds: one that the loop names has drifted, another one is as it was. -/
def After (n : Nat) (k : String) (old new : Json) : Prop :=
  (Named k ∧ Drifted n old new) ∨ (¬Named k ∧ new = old)

/-- What has become of an export after `n` rounds. -/
def Drifts (n : Nat) (x y : Export) : Prop :=
  ∀ k, (x.data.get k = none ∧ y.data.get k = none) ∨
    ∃ old new, x.data.get k = some old ∧ y.data.get k = some new ∧ After n k old new

theorem Drifts.refl (x : Export) : Drifts 0 x x := by
  intro k
  cases hk : x.data.get k with
  | none => exact .inl ⟨rfl, rfl⟩
  | some old =>
    refine .inr ⟨old, old, rfl, rfl, ?_⟩
    by_cases hnamed : Named k
    · exact .inl ⟨hnamed, .refl old⟩
    · exact .inr ⟨hnamed, rfl⟩

theorem Drifts.round (h : Drifts n x y) (hz : y.round draws = some z) : Drifts (n + 1) x z := by
  intro k
  rcases h k with ⟨hx, hy⟩ | ⟨old, new, hx, hy, hafter⟩
  · exact .inl ⟨hx, round_get_none hz hy⟩
  · right
    rcases round_get hz k with ⟨hfree, hget⟩ | ⟨hnamed, draw, crowd, crowd', hcrowd, hshift, hget⟩
    · refine ⟨old, new, hx, hget.trans hy, .inr ⟨hfree, ?_⟩⟩
      exact (hafter.resolve_left fun h => hfree h.1).2
    · cases hy.symm.trans hcrowd
      refine ⟨old, crowd', hx, hget, .inl ⟨hnamed, ?_⟩⟩
      exact (hafter.resolve_right fun h => h.1 hnamed).2.shift hshift

theorem Drifts.isSome (h : Drifts n x y) (k : String) :
    (y.data.get k).isSome ↔ (x.data.get k).isSome := by
  rcases h k with ⟨hx, hy⟩ | ⟨old, new, hx, hy, -⟩
  · rw [hx, hy]
  · rw [hx, hy]
    exact iff_of_true rfl rfl

theorem Drifts.get (h : Drifts n x y) (hk : x.data.get k = some old) :
    ∃ new, y.data.get k = some new ∧ After n k old new := by
  rcases h k with ⟨hx, -⟩ | ⟨old', new, hx, hy, hafter⟩
  · cases hk.symm.trans hx
  · cases hk.symm.trans hx
    exact ⟨new, hy, hafter⟩

theorem Drifts.of_get (h : Drifts n x y) (hk : y.data.get k = some new) :
    ∃ old, x.data.get k = some old ∧ After n k old new := by
  rcases h k with ⟨-, hy⟩ | ⟨old, new', hx, hy, hafter⟩
  · cases hk.symm.trans hy
  · cases hk.symm.trans hy
    exact ⟨old, hx, hafter⟩

theorem placed_of_round (h : x.round draws = some y) : x.Placed ∧ y.Placed := by
  have hmoved (i : Fin 500) : ∃ crowd crowd', x.data.get (name i) = some crowd ∧
      shift crowd (draws i) = some crowd' ∧ y.data.get (name i) = some crowd' := by
    rw [round] at h
    rcases foldlM_move (List.nodup_finRange 500) h (name i) with ⟨hfree, -⟩ | ⟨j, -, hij, hmoved⟩
    · exact absurd rfl (hfree i (List.mem_finRange i))
    · rwa [← Fin.ext (name_injective hij)] at hmoved
  refine ⟨fun i => ?_, fun i => ?_⟩
  · obtain ⟨crowd, crowd', hcrowd, hshift, -⟩ := hmoved i
    exact ⟨crowd, hcrowd, (shift_isSome _ _).1 (Option.isSome_of_eq_some hshift)⟩
  · obtain ⟨crowd, crowd', -, hshift, hcrowd'⟩ := hmoved i
    exact ⟨crowd', hcrowd', movable_shift hshift⟩

theorem foldlM_isSome {is : List (Fin 500)} (h : x.Placed) :
    (is.foldlM (move draws) x).isSome := by
  induction is generalizing x with
  | nil => rfl
  | cons i is ih =>
    obtain ⟨crowd, hcrowd, hmovable⟩ := h i
    obtain ⟨crowd', hshift⟩ := Option.isSome_iff_exists.1 ((shift_isSome _ (draws i)).2 hmovable)
    have hv := kept_shift (x.kept_get hcrowd) hshift
    have hmove : x.move draws i = some (x.put (name i) crowd' hv) := by
      simp [move, hcrowd, hshift]
    rw [List.foldlM_cons, hmove]
    apply ih
    intro j
    by_cases hj : (name i) = name j
    · exact ⟨crowd', hj ▸ Record.get_put_self _ _ _, movable_shift hshift⟩
    · obtain ⟨other, hother, hmovable'⟩ := h j
      exact ⟨other, (Record.get_put_of_ne _ _ hj).trans hother, hmovable'⟩

theorem round_isSome (x : Export) (draws : Fin 500 → DemoDraw) :
    (x.round draws).isSome ↔ x.Placed := by
  constructor
  · intro h
    obtain ⟨y, hy⟩ := Option.isSome_iff_exists.1 h
    exact (placed_of_round hy).1
  · intro h
    rw [round]
    exact foldlM_isSome h

theorem not_placed_of_round (h : x.round draws = none) : ¬x.Placed := by
  rw [← round_isSome x draws, h]
  exact Bool.false_ne_true

/-- Some of the 500 crowds, all alike. -/
def named (v : Json) (is : List (Fin 500)) : Record Json :=
  ⟨is.map fun i : Fin 500 => (name i, v)⟩

theorem get_named (v : Json) {is : List (Fin 500)} (hi : i ∈ is) :
    (named v is).get (name i) = some v := by
  simp only [named, Record.get]
  induction is with
  | nil => cases hi
  | cons j is ih =>
    rw [List.map_cons, Record.getEntry]
    split
    · rfl
    · rename_i hj
      rcases List.mem_cons.1 hi with rfl | hi
      · exact absurd rfl hj
      · exact ih hi

theorem get_named_none (v : Json) (is : List (Fin 500)) (hk : k.length < 4) :
    (named v is).get k = none := by
  simp only [named, Record.get]
  induction is with
  | nil => rfl
  | cons i is ih =>
    have hne : name i ≠ k := by
      rintro rfl
      rw [name, String.length_append] at hk
      have htmp : "-tmp".length = 4 := rfl
      omega
    rw [List.map_cons, Record.getEntry, if_neg hne, ih]

def crowd : Json := .obj (Record.empty.put "location" (position 21 39))

theorem kept_crowd : crowd.Kept := by decide +kernel

/-- The 500 crowds of the loop, all at one place. -/
def crowds (is : List (Fin 500)) (h : is.Nodup) : Export where
  data := named crowd is
  nodup := by
    rw [Record.keys, named, List.map_map]
    exact h.map fun i j hij => Fin.ext (name_injective hij)
  kept := by
    intro e he
    obtain ⟨i, -, rfl⟩ := List.mem_map.1 he
    exact kept_crowd

theorem placed_crowds {is : List (Fin 500)} (hn : is.Nodup) (h : ∀ i, i ∈ is) :
    (crowds is hn).Placed :=
  fun i => ⟨crowd, get_named crowd (h i), by decide +kernel, by decide +kernel⟩

/-- The update stores every exported crowd, and no other. -/
theorem getAt_update (x : Export) (k : String) (t : Json) :
    getAt (crowdPath k) (x.update.apply t) =
      (x.data.get k).elim (getAt (crowdPath k) t) some := by
  cases hk : x.data.get k with
  | none =>
    have hmem : k ∉ x.data.entries.map Prod.fst := by
      intro hmem
      have hsome := (Record.get_isSome_iff x.data k).2 hmem
      rw [hk] at hsome
      cases hsome
    exact getAt_updateAt_of_not_mem ["Crowd"] t hmem
  | some v => exact getAt_updateAt_of_mem ["Crowd"] t x.nodup (Record.mem_of_get hk)

end Export

namespace Platform

/-- Somebody else writes to the database. -/
def write (s : Platform ι) (w : Write) : Platform ι where
  guides i := (s.guides i).publish w
  database := w.apply s.database
  shared i := by rw [GuideApp.publish_database, s.shared]
  signed i := GuideApp.foldl_publish_signed (s.signed i) [w]
  apart i j hij := by
    rw [GuideApp.publish_key, GuideApp.publish_key]
    exact s.apart i j hij

end Platform

/-- The guides and `demo.py` on one database; `demo` is absent once the program has ended. -/
structure Demonstration (ι : Type u) where
  platform : Platform ι
  demo : Option Export

/-- What becomes of an update: it is stored and answered, refused, or stored without an answer. -/
inductive Reply where
  | accepted
  | refused
  | lost
deriving DecidableEq

inductive DemoEvent (ι : Type u) where
  | guide (i : ι) (e : GuideEvent)
  | round (draws : Fin 500 → DemoDraw) (reply : Reply)

namespace Demonstration

/-- An exception of the loop or of the update ends the program. -/
def step [DecidableEq ι] (distance : CLLocation → CLLocation → Rat)
    (degrees : Number → Number → Number) (s : Demonstration ι) :
    DemoEvent ι → Option (Demonstration ι)
  | .guide i e => (s.platform.step distance degrees (i, e)).map fun platform =>
      { s with platform := platform }
  | .round draws reply => s.demo.map fun x =>
      match x.round draws, reply with
      | some y, .accepted => ⟨s.platform.write y.update, some y⟩
      | some y, .lost => ⟨s.platform.write y.update, none⟩
      | some _, .refused | none, _ => { s with demo := none }

/-- The events of one guide. -/
def own [DecidableEq ι] (i : ι) : DemoEvent ι → List GuideEvent
  | .guide j e => Platform.own i (j, e)
  | .round .. => []

/-- The ways an event acts. -/
inductive Stepped [DecidableEq ι] (distance : CLLocation → CLLocation → Rat)
    (degrees : Number → Number → Number) (s : Demonstration ι) :
    DemoEvent ι → Demonstration ι → Prop where
  | guide (hp : s.platform.step distance degrees (i, e) = some p) :
      Stepped distance degrees s (.guide i e) { s with platform := p }
  | failed (hx : s.demo = some x) (hy : x.round draws = none) :
      Stepped distance degrees s (.round draws reply) { s with demo := none }
  | refused (hx : s.demo = some x) (hy : x.round draws = some y) :
      Stepped distance degrees s (.round draws .refused) { s with demo := none }
  | lost (hx : s.demo = some x) (hy : x.round draws = some y) :
      Stepped distance degrees s (.round draws .lost) ⟨s.platform.write y.update, none⟩
  | round (hx : s.demo = some x) (hy : x.round draws = some y) :
      Stepped distance degrees s (.round draws .accepted) ⟨s.platform.write y.update, some y⟩

def isRound : DemoEvent ι → Bool
  | .guide _ _ => false
  | .round .. => true

/-- A round whose update raises an exception. -/
def raises : DemoEvent ι → Bool
  | .guide _ _ => false
  | .round _ reply => reply ≠ .accepted

def rounds (hist : List (DemoEvent ι)) : Nat := hist.countP isRound

/-- What the program holds is the export, drifted for the rounds so far. -/
def Holds (x : Export) (n : Nat) (s : Demonstration ι) : Prop := ∀ y ∈ s.demo, x.Drifts n y

/-- The program holds every exported crowd, drifted for the rounds so far, and the database has it
as the program does. -/
def Restored (x : Export) (n : Nat) (s : Demonstration ι) : Prop :=
  ∀ y ∈ s.demo, ∀ k old, x.data.get k = some old → ∃ new, y.data.get k = some new ∧
    getAt (crowdPath k) s.platform.database = some new ∧ Export.After n k old new

/-- A guide beside the program: on its own so far, and not exported. -/
def Apart (i : ι) (s : Demonstration ι) (g : GuideApp) : Prop :=
  GuideApp.Alike (s.platform.guides i) g ∧ ∀ x ∈ s.demo, x.data.get g.key = none

/-- The program may still go through its first round, goes on, or has ended. -/
inductive Phase (x : Export) (hist : List (DemoEvent ι)) (s : Demonstration ι) : Prop where
  | first (hn : rounds hist = 0) (hs : s.demo = some x)
  | going (hx : x.Placed) (hok : ∀ e ∈ hist, ¬raises e) (hs : s.demo = some y) (hy : y.Placed)
  | ended (hx : (0 < rounds hist ∧ ¬x.Placed) ∨ ∃ e ∈ hist, raises e) (hs : s.demo = none)

variable {ι : Type u} {s s' : Demonstration ι} {x y z : Export} {i : ι}

theorem rounds_guide (hist : List (DemoEvent ι)) (i : ι) (e : GuideEvent) :
    rounds (hist ++ [.guide i e]) = rounds hist := by
  rw [rounds, List.countP_append]
  rfl

theorem rounds_round (hist : List (DemoEvent ι)) (draws : Fin 500 → DemoDraw) (reply : Reply) :
    rounds (hist ++ [.round draws reply]) = rounds hist + 1 := by
  rw [rounds, List.countP_append]
  rfl

theorem write_alike (s : Platform ι) (hy : y.data.get (s.guides i).key = none) :
    GuideApp.Alike (s.guides i) ((s.write y.update).guides i) := by
  have hnode : getAt (crowdPath (s.guides i).key) (y.update.apply (s.guides i).database) =
      getAt (crowdPath (s.guides i).key) (s.guides i).database := by
    rw [Export.getAt_update, hy]
    rfl
  exact ⟨_, GuideApp.publish_unchanged _ hnode, hnode⟩

theorem holds_none (x : Export) (n : Nat) (hs : s.demo = none) : Holds x n s := by
  intro y hy
  rw [hs] at hy
  cases hy

theorem restored_none (x : Export) (n : Nat) (hs : s.demo = none) : Restored x n s := by
  intro y hy
  rw [hs] at hy
  cases hy

theorem Apart.write {g : GuideApp} (h : Apart i s g) (hx : s.demo = some x)
    (hround : x.round draws = some y) :
    GuideApp.Alike ((s.platform.write y.update).guides i) g ∧ y.data.get g.key = none := by
  obtain ⟨hview, hkey⟩ := h
  have hy := Export.round_get_none hround (hkey _ hx)
  refine ⟨?_, hy⟩
  rw [hview.key] at hy
  exact (write_alike s.platform hy).symm.trans hview

/-- A history without rounds has no exception. -/
theorem not_raises (hn : rounds hist = 0) : ∀ e ∈ hist, ¬raises (ι := ι) e := by
  intro e he
  have hround := List.countP_eq_zero.1 hn e he
  cases e with
  | guide i e => exact Bool.false_ne_true
  | round draws reply => exact absurd rfl hround

/-- The program has its crowds and goes on, or it may still lack one in its first round. -/
theorem Phase.held (h : Phase x hist s) (hz : s.demo = some z) :
    (∀ e ∈ hist, ¬raises e) ∧ (z.Placed ↔ x.Placed) := by
  cases h with
  | first hn hs =>
    cases hs.symm.trans hz
    exact ⟨not_raises hn, Iff.rfl⟩
  | going hx hok hs hy =>
    cases hs.symm.trans hz
    exact ⟨hok, iff_of_true hy hx⟩
  | ended hx hs => cases hs.symm.trans hz

variable [DecidableEq ι] {distance : CLLocation → CLLocation → Rat}
  {degrees : Number → Number → Number}

theorem step_stepped (h : s.step distance degrees e = some s') :
    Stepped distance degrees s e s' := by
  cases e with
  | guide i e =>
    obtain ⟨platform, hp, rfl⟩ := Option.map_eq_some_iff.1 h
    exact .guide hp
  | round draws reply =>
    obtain ⟨x, hx, rfl⟩ := Option.map_eq_some_iff.1 h
    cases hround : x.round draws with
    | none => exact .failed hx hround
    | some y =>
      cases reply with
      | accepted => exact .round hx hround
      | refused => exact .refused hx hround
      | lost => exact .lost hx hround

theorem Holds.step (h : Holds x (rounds hist) s) (hs : s.step distance degrees e = some s') :
    (isRound e → Restored x (rounds (hist ++ [e])) s') ∧ Holds x (rounds (hist ++ [e])) s' := by
  cases step_stepped hs with
  | guide hp =>
    rw [rounds_guide]
    exact ⟨fun hround => (by cases hround), h⟩
  | failed | refused | lost => exact ⟨fun _ => restored_none _ _ rfl, holds_none _ _ rfl⟩
  | round hz hy =>
    rename_i z draws y
    rw [rounds_round]
    have hdrifts : x.Drifts (rounds hist + 1) y := (h z hz).round hy
    refine ⟨fun _ => ?_, ?_⟩
    · rintro _ ⟨⟩ k old hold
      obtain ⟨new, hnew, hafter⟩ := hdrifts.get hold
      have hget := Export.getAt_update y k s.platform.database
      rw [hnew] at hget
      exact ⟨new, hnew, hget, hafter⟩
    · rintro _ ⟨⟩
      exact hdrifts

/-- Whatever the guides write in between, after each round that goes through every exported crowd
is in the database as the program holds it: the exported one, and where the loop names it, moved to
the north and the east by one number from 0 to 0.02 for each round so far. -/
theorem rounds_restore (s : Platform ι) (x : Export) (es : List (DemoEvent ι)) :
    Each (withHistory (step distance degrees))
      (fun _ e s' => isRound e → Restored x (rounds s'.2) s'.1) (⟨s, some x⟩, []) es := by
  apply each_of_invariant fun s : Demonstration ι × List (DemoEvent ι) => Holds x (rounds s.2) s.1
  · rintro ⟨s, hist⟩ e ⟨s', hist'⟩ h hs
    obtain ⟨hs, rfl⟩ := withHistory_some hs
    exact h.step hs
  · rintro _ ⟨⟩
    exact .refl x

theorem Apart.step {g : GuideApp} (h : Apart i s g) (hs : s.step distance degrees e = some s') :
    ∃ g', run (GuideApp.step distance degrees) g (own i e) = some g' ∧ Apart i s' g' := by
  cases step_stepped hs with
  | guide hp =>
    obtain ⟨hview, hkey⟩ := h
    obtain ⟨g', hg', hview'⟩ := Platform.step_alike hview hp
    have hsame : g'.key = g.key :=
      run_keeps (fun u => u.key = g.key) rfl
        (fun u e u' _ hu hs => (GuideApp.step_key hs).trans hu) hg'
    refine ⟨g', hg', hview', ?_⟩
    rw [hsame]
    exact hkey
  | failed | refused => exact ⟨g, rfl, h.1, fun y hy => absurd hy (Option.not_mem_none y)⟩
  | lost hx hround =>
    obtain ⟨hview, -⟩ := h.write hx hround
    exact ⟨g, rfl, hview, fun y hy => absurd hy (Option.not_mem_none y)⟩
  | round hx hround =>
    obtain ⟨hview, hkey⟩ := h.write hx hround
    refine ⟨g, rfl, hview, ?_⟩
    rintro _ ⟨⟩
    exact hkey

theorem Phase.step (h : Phase x hist s) (hs : s.step distance degrees e = some s') :
    Phase x (hist ++ [e]) s' := by
  have hraises (draws : Fin 500 → DemoDraw) {reply : Reply} (hr : reply ≠ .accepted) :
      ∃ e ∈ hist ++ [.round draws reply], raises e :=
    ⟨_, List.mem_append_right _ (List.mem_singleton_self _), decide_eq_true hr⟩
  cases step_stepped hs with
  | guide hp =>
    cases h with
    | first hn hx => exact .first ((rounds_guide _ _ _).trans hn) hx
    | going hx hok hs hy =>
      refine .going hx ?_ hs hy
      intro e he
      rcases List.mem_append.1 he with he | he
      · exact hok e he
      · rw [List.mem_singleton.1 he]
        exact Bool.false_ne_true
    | ended hx hs =>
      refine .ended ?_ hs
      rw [rounds_guide]
      exact hx.imp id fun ⟨e, he, hraise⟩ => ⟨e, List.mem_append_left _ he, hraise⟩
  | failed hz hround =>
    have hfails := Export.not_placed_of_round hround
    rw [(h.held hz).2] at hfails
    refine .ended (.inl ⟨?_, hfails⟩) rfl
    rw [rounds_round]
    exact Nat.succ_pos _
  | refused => exact .ended (.inr (hraises _ (by decide))) rfl
  | lost => exact .ended (.inr (hraises _ (by decide))) rfl
  | round hz hround =>
    obtain ⟨hbefore, hafter⟩ := Export.placed_of_round hround
    obtain ⟨hok, hplaced⟩ := h.held hz
    refine .going (hplaced.1 hbefore) ?_ rfl hafter
    intro e he
    rcases List.mem_append.1 he with he | he
    · exact hok e he
    · rw [List.mem_singleton.1 he]
      exact Bool.false_ne_true

/-- The program ends exactly if it has begun a round and one of the 500 crowds has no position to
add to, or if an update has raised an exception. -/
theorem ends_iff (hr : run (step distance degrees) ⟨p, some x⟩ es = some s') :
    s'.demo = none ↔ (0 < rounds es ∧ ¬x.Placed) ∨ ∃ e ∈ es, raises e := by
  have hphase : Phase x es s' := by
    have hrun := run_withHistory hr []
    rw [List.nil_append] at hrun
    apply run_keeps (fun s : Demonstration ι × List (DemoEvent ι) => Phase x s.2 s.1)
      (.first rfl rfl) ?_ hrun
    rintro ⟨s, hist⟩ e ⟨s', hist'⟩ - h hs
    obtain ⟨hs, rfl⟩ := withHistory_some hs
    exact h.step hs
  cases hphase with
  | first hn hx =>
    rw [hx, hn]
    refine iff_of_false nofun ?_
    rintro (⟨hpos, -⟩ | ⟨e, he, hraise⟩)
    · exact absurd hpos (Nat.lt_irrefl 0)
    · exact not_raises hn e he hraise
  | going hx hok hs hy =>
    rw [hs]
    refine iff_of_false nofun ?_
    rintro (⟨-, hfails⟩ | ⟨e, he, hraise⟩)
    · exact hfails hx
    · exact hok e he hraise
  | ended hx hs => exact iff_of_true hs hx

/-- A guide whose crowd is not exported does what it does alone, whatever rounds and whatever
events of the other guides come in between. -/
theorem unexported (h : x.data.get (s.platform.guides i).key = none) (hx : s.demo = some x)
    (hr : run (step distance degrees) s es = some s') :
    ∃ g, run (GuideApp.step distance degrees) (s.platform.guides i) (es.flatMap (own i)) = some g ∧
      GuideApp.Alike (s'.platform.guides i) g := by
  have hapart : Apart i s (s.platform.guides i) := by
    refine ⟨.refl _, ?_⟩
    intro y hy
    rw [hx] at hy
    cases hy
    exact h
  obtain ⟨g, hg, hview, -⟩ := run_simulated (Apart i) (own i) (fun _ _ _ _ hR hs => hR.step hs)
    hapart hr
  exact ⟨g, hg, hview⟩

def mounting : List (DemoEvent Bool) := [.guide true (.ios (.mount 0 true true true 0))]

def shown (reply : Reply) : List (DemoEvent Bool) :=
  mounting ++ [.round (fun _ => ⟨20000, 0⟩) reply]

/-- A round of the program beside two guides. -/
theorem run_mounting (hx : x.Placed) : ∃ p y,
    run (step (fun _ _ => 0) fun _ _ => .nan) ⟨Platform.pair, some x⟩ mounting =
        some ⟨p, some x⟩ ∧ x.round (fun _ => ⟨20000, 0⟩) = some y := by
  have hmount : (Platform.pair.step (fun _ _ => 0) (fun _ _ => .nan)
      (true, .ios (.mount 0 true true true 0))).isSome := by
    decide +kernel
  obtain ⟨p, hp⟩ := Option.isSome_iff_exists.1 hmount
  obtain ⟨y, hy⟩ := Option.isSome_iff_exists.1
    ((Export.round_isSome _ fun _ => ⟨20000, 0⟩).2 hx)
  refine ⟨p, y, ?_, hy⟩
  rw [mounting, run_cons, step, hp]
  rfl

theorem run_shown {p : Platform Bool}
    (hs : run (step (fun _ _ => 0) fun _ _ => .nan) ⟨Platform.pair, some x⟩ mounting =
      some ⟨p, some x⟩) (hy : x.round (fun _ => ⟨20000, 0⟩) = some y) :
    run (step (fun _ _ => 0) fun _ _ => .nan) ⟨Platform.pair, some x⟩ (shown .accepted) =
        some ⟨p.write y.update, some y⟩ ∧
      run (step (fun _ _ => 0) fun _ _ => .nan) ⟨Platform.pair, some x⟩ (shown .lost) =
        some ⟨p.write y.update, none⟩ := by
  constructor
  · rw [shown, run_append, hs, Option.bind_some, run_cons, step, Option.map_some, hy]
    rfl
  · rw [shown, run_append, hs, Option.bind_some, run_cons, step, Option.map_some, hy]
    rfl

def exported : Export := .crowds (List.finRange 500) (List.nodup_finRange 500)

theorem placed_exported : exported.Placed := Export.placed_crowds _ List.mem_finRange

/-- The round has put its crowds into the database. -/
theorem rounds_restore_shown : ∃ s',
    run (step (fun _ _ => 0) fun _ _ => .nan) ⟨Platform.pair, some exported⟩ (shown .accepted) =
        some s' ∧ s'.demo.isSome ∧ Restored exported 1 s' := by
  obtain ⟨p, y, hs, hy⟩ := run_mounting placed_exported
  have hround : withHistory (step (fun _ _ => 0) fun _ _ => .nan) (⟨p, some exported⟩, mounting)
      (.round (fun _ => ⟨20000, 0⟩) .accepted) =
        some (⟨p.write y.update, some y⟩, shown .accepted) := by
    rw [withHistory, step, Option.map_some, hy]
    rfl
  refine ⟨_, (run_shown hs hy).1, rfl, ?_⟩
  exact (rounds_restore Platform.pair exported (shown .accepted)).middle
    (run_withHistory hs []) hround rfl

theorem unexported_shown : ∃ s' g,
    run (step (fun _ _ => 0) fun _ _ => .nan) ⟨Platform.pair, some exported⟩ (shown .accepted) =
        some s' ∧ s'.demo.isSome ∧
      run (GuideApp.step (fun _ _ => 0) fun _ _ => .nan) (Platform.pair.guides true)
        ((shown .accepted).flatMap (own true)) = some g ∧
      GuideApp.Alike (s'.platform.guides true) g := by
  obtain ⟨p, y, hs, hy⟩ := run_mounting placed_exported
  have hs := (run_shown hs hy).1
  obtain ⟨g, hg, hview⟩ := unexported (i := true) (Export.get_named_none _ _ (by decide)) rfl hs
  exact ⟨_, g, hs, rfl, hg, hview⟩

/-- The program goes on after an answer, and ends without one. -/
theorem ends_iff_shown : ∃ s s',
    run (step (fun _ _ => 0) fun _ _ => .nan) ⟨Platform.pair, some exported⟩ (shown .accepted) =
        some s ∧ s.demo ≠ none ∧ ¬((0 < rounds (shown .accepted) ∧ ¬exported.Placed) ∨
          ∃ e ∈ shown .accepted, raises e) ∧
      run (step (fun _ _ => 0) fun _ _ => .nan) ⟨Platform.pair, some exported⟩ (shown .lost) =
        some s' ∧ s'.demo = none ∧ ∃ e ∈ shown .lost, raises e := by
  obtain ⟨p, y, hs, hy⟩ := run_mounting placed_exported
  obtain ⟨hs, hs'⟩ := run_shown hs hy
  have hends := (ends_iff hs').1 rfl
  refine ⟨_, _, hs, nofun, (not_congr (ends_iff hs)).1 nofun, hs', rfl, ?_⟩
  exact hends.resolve_left fun h => h.2 placed_exported

end Demonstration

end CrowdTracking
