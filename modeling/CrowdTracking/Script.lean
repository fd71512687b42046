import Mathlib.Data.Int.Log
import Mathlib.Data.List.Sort
import Mathlib.Data.List.TakeWhile
import Mathlib.Data.Rat.Floor
import Mathlib.Tactic.Linarith
import CrowdTracking.Json

namespace Script
set_option autoImplicit true

def isBlank (c : Char) : Bool :=
  [9, 10, 11, 12, 13, 32, 0xA0, 0x1680, 0x2028, 0x2029, 0x202F, 0x205F, 0x3000, 0xFEFF].contains
    c.toNat || (0x2000 ≤ c.toNat && c.toNat ≤ 0x200A)

def trimStart (cs : List Char) : List Char := cs.dropWhile isBlank

def trim (cs : List Char) : List Char := (trimStart (trimStart cs).reverse).reverse

/-- An exponent part, if one is complete; otherwise nothing is read. -/
def scanExponent (cs : List Char) : Int × List Char :=
  match cs with
  | 'e' :: r | 'E' :: r =>
    let sign : Int := if r.head? = some '-' then -1 else 1
    let r' := if r.head? = some '-' ∨ r.head? = some '+' then r.tail else r
    if r'.takeWhile Char.isDigit = [] then (0, cs)
    else (sign * Nat.ofDigitChars 10 (r'.takeWhile Char.isDigit) 0, r'.dropWhile Char.isDigit)
  | _ => (0, cs)

def scale (mantissa : Nat) (e : Int) : Rat :=
  if 0 ≤ e then (mantissa * 10 ^ e.toNat : Nat) else mkRat mantissa (10 ^ (-e).toNat)

/-- The longest unsigned decimal literal at the head, and what follows it. -/
def scanDecimal (cs : List Char) : Option (Rat × List Char) :=
  let int := cs.takeWhile Char.isDigit
  let rest := cs.dropWhile Char.isDigit
  let frac := if rest.head? = some '.' then rest.tail.takeWhile Char.isDigit else []
  let rest := if rest.head? = some '.' then rest.tail.dropWhile Char.isDigit else rest
  if int ++ frac = [] then none
  else
    let (e, rest) := scanExponent rest
    some (scale (Nat.ofDigitChars 10 (int ++ frac) 0) (e - frac.length), rest)

def scanUnsigned (cs : List Char) : Option (Number × List Char) :=
  if "Infinity".toList.isPrefixOf cs then some (.posInfinity, cs.drop 8)
  else (scanDecimal cs).map fun p => (.finite p.1, p.2)

def scanNumber (cs : List Char) : Option (Number × List Char) :=
  match cs with
  | '+' :: r => scanUnsigned r
  | '-' :: r => (scanUnsigned r).map fun p => (p.1.neg, p.2)
  | _ => scanUnsigned cs

def digitOf (c : Char) : Nat :=
  if c.isDigit then c.toNat - 48 else if c.isUpper then c.toNat - 55 else c.toNat - 87

def isDigitOf (radix : Nat) (c : Char) : Bool := c.isAlphanum && digitOf c < radix

def ofRadix (radix : Nat) (cs : List Char) : Nat :=
  cs.foldl (fun n c => radix * n + digitOf c) 0

def radixLiteral (radix : Nat) (cs : List Char) : Number :=
  if cs ≠ [] ∧ cs.all (isDigitOf radix) then .finite (ofRadix radix cs) else .nan

def stringToNumber (s : String) : Number :=
  match trim s.toList with
  | [] => .finite 0
  | '0' :: 'x' :: r | '0' :: 'X' :: r => radixLiteral 16 r
  | '0' :: 'o' :: r | '0' :: 'O' :: r => radixLiteral 8 r
  | '0' :: 'b' :: r | '0' :: 'B' :: r => radixLiteral 2 r
  | cs =>
    match scanNumber cs with
    | some (n, []) => n
    | _ => .nan

/-- `Number(v)`; an object coerces through its string form, which is no number. -/
def toNumber : Json → Number
  | .bool b => .finite (if b then 1 else 0)
  | .num n => n
  | .str s => stringToNumber s
  | .obj _ => .nan

def isNaN (v : Json) : Bool := toNumber v = .nan

def truthy : Option Json → Bool
  | none => false
  | some (.bool b) => b
  | some (.num n) => n ≠ .nan ∧ n ≠ .finite 0
  | some (.str s) => s ≠ ""
  | some (.obj _) => true

def parseFloat : Option Json → Number
  | some (.num n) => n
  | some (.str s) => ((scanNumber (trimStart s.toList)).map Prod.fst).getD .nan
  | _ => .nan

def integerPrefix (radix : Nat) (cs : List Char) : Number :=
  if cs.takeWhile (isDigitOf radix) = [] then .nan
  else .finite (ofRadix radix (cs.takeWhile (isDigitOf radix)))

def parseUnsignedInt : List Char → Number
  | '0' :: 'x' :: r | '0' :: 'X' :: r => integerPrefix 16 r
  | cs => integerPrefix 10 cs

/-- The text of a number is in exponent notation. -/
def hasExponent (q : Rat) : Bool := q ≠ 0 ∧ (|q| < 1 / 10 ^ 6 ∨ 10 ^ 21 ≤ |q|)

/-- The digit before the point of the exponent notation. -/
def leadingDigit (q : Rat) : Int := ⌊|q| / 10 ^ Int.log 10 |q|⌋

/-- `parseInt(v)` reads the text of a number, up to the point. -/
def parseInt : Json → Number
  | .num (.finite q) =>
    if hasExponent q then .finite (if q < 0 then -leadingDigit q else leadingDigit q)
    else .finite (q.num.tdiv q.den)
  | .str s =>
    match trimStart s.toList with
    | '+' :: r => parseUnsignedInt r
    | '-' :: r => (parseUnsignedInt r).neg
    | cs => parseUnsignedInt cs
  | _ => .nan

/-- `dict[key] = v`; `__proto__` is no key of its own, to assign it sets the prototype. -/
def assign (dict : Record α) (key : String) (v : α) : Record α :=
  if key = "__proto__" then dict else dict.put key v

/-- The value of a key that is an array index: a canonical numeral below `2^32 - 1`. -/
def arrayIndex (k : String) : Option Nat :=
  let n := Nat.ofDigitChars 10 k.toList 0
  if k.toList.all Char.isDigit ∧ toString n = k ∧ n < 2 ^ 32 - 1 then some n else none

/-- `Object.keys`: array indices in ascending order, then the other keys as inserted. -/
def ownKeys (ks : List String) : List String :=
  (ks.filter fun k => (arrayIndex k).isSome).insertionSort
      (fun a b => (arrayIndex a).getD 0 ≤ (arrayIndex b).getD 0) ++
    ks.filter fun k => (arrayIndex k).isNone

theorem assign_of_ne (dict : Record α) (v : α) (h : key ≠ "__proto__") :
    assign dict key v = dict.put key v := if_neg h

@[simp] theorem assign_proto (dict : Record α) (v : α) : assign dict "__proto__" v = dict := rfl

theorem keys_assign_nodup {dict : Record α} (h : dict.keys.Nodup) (key : String) (v : α) :
    (assign dict key v).keys.Nodup := by
  rw [assign]
  split
  · exact h
  · exact Record.nodup_put h key v

theorem mem_keys_assign (dict : Record α) (v : α) :
    l ∈ (assign dict key v).keys ↔ (l = key ∧ key ≠ "__proto__") ∨ l ∈ dict.keys := by
  rw [assign]
  split
  · rename_i h
    exact ⟨.inr, fun hl => hl.resolve_left fun hl => hl.2 h⟩
  · rename_i h
    rw [Record.mem_keys_put]
    exact or_congr_left ⟨fun hl => ⟨hl, h⟩, And.left⟩

theorem ownKeys_perm (ks : List String) : (ownKeys ks).Perm ks := by
  have hs := List.perm_insertionSort (fun a b => (arrayIndex a).getD 0 ≤ (arrayIndex b).getD 0)
    (ks.filter fun k => (arrayIndex k).isSome)
  apply (hs.append_right _).trans ?_
  simpa using List.filter_append_perm (fun k => (arrayIndex k).isSome) ks

@[simp] theorem mem_ownKeys : k ∈ ownKeys ks ↔ k ∈ ks := (ownKeys_perm ks).mem_iff

theorem ownKeys_nodup : (ownKeys ks).Nodup ↔ ks.Nodup := (ownKeys_perm ks).nodup_iff

theorem trimStart_cons (h : isBlank c = false) (cs : List Char) :
    trimStart (c :: cs) = c :: cs := by
  simp only [trimStart, List.dropWhile_cons, h, Bool.false_eq_true, ↓reduceIte]

theorem trim_of_ends (hc : isBlank c = false) (hd : isBlank d = false) (cs ds : List Char)
    (h : c :: cs = ds ++ [d]) : trim (c :: cs) = c :: cs := by
  rw [trim, trimStart_cons hc, h, List.reverse_append, List.reverse_singleton,
    List.singleton_append, trimStart_cons hd, List.reverse_cons, List.reverse_reverse]

theorem isBlank_of_isDigit (h : c.isDigit) : isBlank c = false := by
  simp only [Char.isDigit, Bool.and_eq_true, decide_eq_true_eq, UInt32.le_iff_toNat_le] at h
  have h₁ : 48 ≤ c.toNat := h.1
  have h₂ : c.toNat ≤ 57 := h.2
  simp only [isBlank, List.contains_eq_mem, List.mem_cons, List.not_mem_nil, or_false,
    Bool.or_eq_false_iff, decide_eq_false_iff_not, Bool.and_eq_false_iff]
  omega

theorem scanDecimal_digits (hne : cs ≠ []) (h : ∀ c ∈ cs, c.isDigit) :
    ∃ q, scanDecimal cs = some (q, []) := by
  have ht : cs.takeWhile Char.isDigit = cs := List.takeWhile_eq_self_iff.2 h
  have hd : cs.dropWhile Char.isDigit = [] := List.dropWhile_eq_nil_iff.2 h
  simp [scanDecimal, ht, hd, hne, scanExponent]

theorem scanUnsigned_digits (hne : cs ≠ []) (h : ∀ c ∈ cs, c.isDigit) :
    ∃ q, scanUnsigned cs = some (.finite q, []) := by
  obtain ⟨q, hq⟩ := scanDecimal_digits hne h
  have hi : "Infinity".toList.isPrefixOf cs = false := by
    cases cs with
    | nil => cases hne rfl
    | cons c cs =>
      have hc : ¬('I' = c) := by
        rintro rfl
        exact absurd (h 'I' (List.mem_cons_self ..)) (by decide)
      simp [List.isPrefixOf, hc]
  refine ⟨q, ?_⟩
  rw [scanUnsigned, hi, hq]
  rfl

theorem digits_head (hne : cs ≠ []) (h : ∀ c ∈ cs, c.isDigit) :
    ∃ c r, cs = c :: r ∧ c ≠ '+' ∧ c ≠ '-' ∧ isBlank c = false ∧
      ∀ d s, r = d :: s → d.isDigit := by
  cases cs with
  | nil => cases hne rfl
  | cons c r =>
    have hc := h c (List.mem_cons_self ..)
    refine ⟨c, r, rfl, ?_, ?_, isBlank_of_isDigit hc, ?_⟩
    · rintro rfl
      cases hc
    · rintro rfl
      cases hc
    · rintro d s rfl
      exact h d (by simp)

theorem trim_digits (hne : cs ≠ []) (h : ∀ c ∈ cs, c.isDigit) : trim cs = cs := by
  obtain ⟨c, r, rfl, -, -, hb, -⟩ := digits_head hne h
  have hl := List.dropLast_append_getLast hne
  exact trim_of_ends hb (isBlank_of_isDigit (h _ (List.getLast_mem hne))) r _ hl.symm

theorem trim_minus_digits (hne : cs ≠ []) (h : ∀ c ∈ cs, c.isDigit) :
    trim ('-' :: cs) = '-' :: cs := by
  have hl := List.dropLast_append_getLast hne
  apply trim_of_ends (by decide) (isBlank_of_isDigit (h _ (List.getLast_mem hne))) cs
    ('-' :: cs.dropLast)
  rw [List.cons_append, hl]

theorem stringToNumber_digits (cs : List Char) (hs : s.toList = cs) (hne : cs ≠ [])
    (h : ∀ c ∈ cs, c.isDigit) : ∃ q, stringToNumber s = .finite q := by
  obtain ⟨q, hq⟩ := scanUnsigned_digits hne h
  obtain ⟨c, r, rfl, hp, hm, -, hr⟩ := digits_head hne h
  refine ⟨q, ?_⟩
  have hn : scanNumber (c :: r) = some (.finite q, []) := by
    simp only [scanNumber]
    split
    · simp_all
    · simp_all
    · exact hq
  rw [stringToNumber]
  rw [hs, trim_digits hne h]
  split
  case h_8 => rw [hn]
  case h_1 => simp_all
  all_goals
    rename_i he
    cases he
    exact absurd (hr _ _ rfl) (by decide)

theorem stringToNumber_minus_digits (cs : List Char) (hs : s.toList = '-' :: cs)
    (hne : cs ≠ []) (h : ∀ c ∈ cs, c.isDigit) : ∃ q, stringToNumber s = .finite q := by
  obtain ⟨q, hq⟩ := scanUnsigned_digits hne h
  refine ⟨-q, ?_⟩
  simp [stringToNumber, hs, trim_minus_digits hne h, scanNumber, hq, Number.neg]

/-- A decimal string of an integer is a number to the script. -/
theorem isNaN_toString (n : Int) : isNaN (.str (toString n)) = false := by
  have hd (m : Nat) : ∀ c ∈ Nat.toDigits 10 m, c.isDigit := fun c hc =>
    Nat.isDigit_of_mem_toDigits (by decide) (by decide) hc
  have hq : ∃ q, stringToNumber (toString n) = .finite q := by
    cases n with
    | ofNat m =>
      exact stringToNumber_digits (Nat.toDigits 10 m)
        (by simp [toString, Int.repr]) Nat.toDigits_ne_nil (hd m)
    | negSucc m =>
      exact stringToNumber_minus_digits (Nat.toDigits 10 (m + 1))
        (by simp [toString, Int.repr]) Nat.toDigits_ne_nil (hd (m + 1))
  obtain ⟨q, hq⟩ := hq
  rw [isNaN, toNumber, hq]
  rfl

theorem ofRadix_digits (n : Nat) : ofRadix 10 (Nat.toDigits 10 n) = n := by
  have hd : ∀ c ∈ Nat.toDigits 10 n, digitOf c = c.toNat - '0'.toNat := by
    intro c hc
    have hdigit : c.isDigit := Nat.isDigit_of_mem_toDigits (by decide) (by decide) hc
    rw [digitOf, if_pos hdigit]
    rfl
  rw [ofRadix]
  calc (Nat.toDigits 10 n).foldl (fun m c => 10 * m + digitOf c) 0
      = (Nat.toDigits 10 n).foldl (fun m c => 10 * m + (c.toNat - '0'.toNat)) 0 :=
        List.foldl_ext _ _ _ fun m c hc => by rw [hd c hc]
    _ = Nat.ofDigitChars 10 (Nat.toDigits 10 n) 0 := (Nat.ofDigitChars_eq_foldl ..).symm
    _ = n := Nat.ofDigitChars_ten_toDigits

theorem integerPrefix_digits (n : Nat) :
    integerPrefix 10 (Nat.toDigits 10 n) = .finite n := by
  have hall : (Nat.toDigits 10 n).takeWhile (isDigitOf 10) = Nat.toDigits 10 n := by
    apply List.takeWhile_eq_self_iff.2
    intro c hc
    have hdigit : c.isDigit := Nat.isDigit_of_mem_toDigits (by decide) (by decide) hc
    have hlt : c.toNat - 48 < 10 := by
      simp only [Char.isDigit, Bool.and_eq_true, decide_eq_true_eq,
        UInt32.le_iff_toNat_le] at hdigit
      have h : c.toNat ≤ 57 := hdigit.2
      omega
    simp only [isDigitOf, digitOf, hdigit, ↓reduceIte, hlt, decide_true, Bool.and_true,
      Char.isAlphanum, Bool.or_true]
  rw [integerPrefix, hall, if_neg Nat.toDigits_ne_nil, ofRadix_digits]

/-- The script reads a count back from its decimal string. -/
theorem parseInt_toString (n : Nat) : parseInt (.str (toString (n : Int))) = .finite n := by
  have hs : (toString (n : Int)).toList = Nat.toDigits 10 n := by simp [toString, Int.repr]
  have hd : ∀ c ∈ Nat.toDigits 10 n, c.isDigit := fun c hc =>
    Nat.isDigit_of_mem_toDigits (by decide) (by decide) hc
  have hread := integerPrefix_digits n
  obtain ⟨c, r, hcr, hplus, hminus, hblank, htail⟩ := digits_head Nat.toDigits_ne_nil hd
  rw [hcr] at hs hread
  rw [parseInt, hs, trimStart_cons hblank]
  split
  · rename_i heq
    exact absurd (List.cons.inj heq).1 hplus
  · rename_i heq
    exact absurd (List.cons.inj heq).1 hminus
  · rw [parseUnsignedInt.eq_def]
    split
    · rename_i heq
      exact absurd (htail _ _ (List.cons.inj heq).2) (by decide)
    · rename_i heq
      exact absurd (htail _ _ (List.cons.inj heq).2) (by decide)
    · exact hread

theorem hasExponent_natCast {n : Nat} (h : n < 10 ^ 21) : hasExponent n = false := by
  have hlt : (n : Rat) < 10 ^ 21 := by exact_mod_cast h
  rw [hasExponent, decide_eq_false_iff_not]
  rintro ⟨hne, hsmall | hlarge⟩
  · rw [Nat.abs_cast] at hsmall
    have hone : (1 : Rat) ≤ n := by
      rw [Nat.one_le_cast]
      exact Nat.pos_of_ne_zero (Nat.cast_ne_zero.1 hne)
    linarith
  · rw [Nat.abs_cast] at hlarge
    linarith

theorem parseInt_natCast {n : Nat} (h : n < 10 ^ 21) : parseInt (.num (.finite n)) = .finite n := by
  rw [parseInt, hasExponent_natCast h]
  simp

example : [parseInt (.num (.finite (10 ^ 21))), parseInt (.num (.finite (-3 / 10 ^ 8))),
    parseInt (.num (.finite (-7 / 2)))] = [.finite 1, .finite (-3), .finite (-3)] := by
  decide +kernel

end Script
