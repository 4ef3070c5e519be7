import Clawfarm.Gateway.Js
import Clawfarm.Lib.Text
import Mathlib.Data.Bool.AllAny

/-!
# Gateway.Amount — amounts that a user types in

`toBaseUnits` of the scripts and what it uses of its runtime: `test` of a pattern, `split`, `padEnd`
and `BigInt` of a string.  `UiAmount` is the amount that a text denotes, apart from the code: its
digits before and behind the point, its `text` and its rational `value`.
-/

namespace Gateway

open Checked

/-! ## The parser -/

inductive AmountError
  | error (message : JsString)
  | syntaxError
  deriving DecidableEq, Repr

/-- `WhiteSpace` and `LineTerminator` -/
def whiteSpace : List UInt16 :=
  [0x9, 0xA, 0xB, 0xC, 0xD, 0x20, 0xA0, 0x1680, 0x2000, 0x2001, 0x2002, 0x2003, 0x2004, 0x2005,
    0x2006, 0x2007, 0x2008, 0x2009, 0x200A, 0x2028, 0x2029, 0x202F, 0x205F, 0x3000, 0xFEFF]

/-- `s.trim()` -/
def trim (s : JsString) : JsString :=
  ((s.dropWhile (· ∈ whiteSpace)).reverse.dropWhile (· ∈ whiteSpace)).reverse

/-- The digit that a code unit stands for in a literal of base `radix`. -/
def digitOf (radix : ℕ) (u : UInt16) : Option ℕ :=
  let digit :=
    if 0x30 ≤ u.toNat ∧ u.toNat ≤ 0x39 then u.toNat - 0x30
    else if 0x41 ≤ u.toNat ∧ u.toNat ≤ 0x5A then u.toNat - 0x41 + 10
    else if 0x61 ≤ u.toNat ∧ u.toNat ≤ 0x7A then u.toNat - 0x61 + 10
    else radix
  if digit < radix then some digit else none

/-- One or more digits. -/
def digitsValue (radix : ℕ) (s : JsString) : Option ℕ :=
  if s = [] then none
  else (s.mapM (digitOf radix)).map fun ds => Nat.ofDigits radix ds.reverse

/-- `StringIntegerLiteral` -/
def stringToBigInt (s : JsString) : Option ℤ :=
  let t := trim s
  if t = [] then some 0
  else if t.take 2 ∈ [js "0x", js "0X"] then (digitsValue 16 (t.drop 2)).map Int.ofNat
  else if t.take 2 ∈ [js "0o", js "0O"] then (digitsValue 8 (t.drop 2)).map Int.ofNat
  else if t.take 2 ∈ [js "0b", js "0B"] then (digitsValue 2 (t.drop 2)).map Int.ofNat
  else if t.take 1 = js "+" then (digitsValue 10 (t.drop 1)).map Int.ofNat
  else if t.take 1 = js "-" then (digitsValue 10 (t.drop 1)).map fun n => -Int.ofNat n
  else (digitsValue 10 t).map Int.ofNat

/-- `BigInt(s)` -/
def bigIntOfString (s : JsString) : Except AmountError ℤ :=
  match stringToBigInt s with
  | some n => .ok n
  | none => .error .syntaxError

/-- `s.padEnd(length, fill)` for a fill of one code unit -/
def padEnd (s : JsString) (length : ℕ) (fill : UInt16) : JsString :=
  s ++ List.replicate (length - s.length) fill

/-- `"."` -/
def point : UInt16 := 0x2E

/-- `"0"` -/
def zero : UInt16 := 0x30

/-- `/^[0-9]+(\.[0-9]+)?$/` -/
def amountPattern : RegularExpression UInt16 :=
  Text.oneOrMore (Text.oneOf (js "0123456789")) *
    Text.optional (.char point * Text.oneOrMore (Text.oneOf (js "0123456789")))

def toBaseUnits (input : JsString) (decimals : ℕ) : Except AmountError ℤ := do
  require (amountPattern.rmatch input) (.error (js "invalid token amount: " ++ input))
  let parts := input.splitOn point
  let whole := parts.getD 0 []
  let fractional := parts.getD 1 []
  require (fractional.length ≤ decimals) (.error (js "too many decimal places"))
  let paddedFractional := padEnd fractional decimals zero
  bigIntOfString (whole ++ paddedFractional)

/-! ## Amounts -/

structure UiAmount where
  whole : List (Fin 10)
  fractional : List (Fin 10)
  whole_ne_nil : whole ≠ []

def digitUnit (d : Fin 10) : UInt16 := (0x30 + d.val).toUInt16

def digits (ds : List (Fin 10)) : JsString := ds.map digitUnit

namespace UiAmount

/-- The digits, and a point between them where there is a fraction. -/
def text (a : UiAmount) : JsString :=
  digits a.whole ++ if a.fractional = [] then [] else point :: digits a.fractional

def value (a : UiAmount) : ℚ :=
  Text.wholeValue 10 (a.whole.map Fin.val) + Text.fractionValue 10 (a.fractional.map Fin.val)

def leadingZeros (a : UiAmount) (k : ℕ) : UiAmount where
  whole := List.replicate k 0 ++ a.whole
  fractional := a.fractional
  whole_ne_nil := List.append_ne_nil_of_right_ne_nil _ a.whole_ne_nil

def trailingZeros (a : UiAmount) (k : ℕ) : UiAmount where
  whole := a.whole
  fractional := a.fractional ++ List.replicate k 0
  whole_ne_nil := a.whole_ne_nil

/-- The digits of the amount in base units, with as many zeros behind them as decimals are missing. -/
def paddedDigits (a : UiAmount) (decimals : ℕ) : List (Fin 10) :=
  a.whole ++ (a.fractional ++ List.replicate (decimals - a.fractional.length) 0)

def units (a : UiAmount) (decimals : ℕ) : ℕ :=
  Nat.ofDigits 10 ((a.paddedDigits decimals).map Fin.val).reverse

theorem paddedDigits_ne_nil (a : UiAmount) (decimals : ℕ) : a.paddedDigits decimals ≠ [] :=
  List.append_ne_nil_of_left_ne_nil a.whole_ne_nil _

theorem units_eq {a : UiAmount} {d : ℕ} (h : a.fractional.length ≤ d) :
    (a.units d : ℚ) = a.value * 10 ^ d := by
  obtain ⟨k, rfl⟩ := Nat.exists_eq_add_of_le h
  rw [units, Text.ofDigits_reverse, paddedDigits, Nat.add_sub_cancel_left, List.map_append,
    List.map_append, List.map_replicate, value]
  have := Text.wholeValue_scaled (b := 10) (by omega) (a.whole.map Fin.val)
    (a.fractional.map Fin.val) k
  rwa [List.length_map] at this

theorem value_leadingZeros (a : UiAmount) (k : ℕ) : (a.leadingZeros k).value = a.value := by
  rw [value, value, leadingZeros, List.map_append, List.map_replicate]
  exact congrArg (· + _) (Text.wholeValue_leadingZeros _ k)

theorem value_trailingZeros (a : UiAmount) (k : ℕ) : (a.trailingZeros k).value = a.value := by
  rw [value, value, trailingZeros, List.map_append, List.map_replicate]
  exact congrArg (_ + ·) (Text.fractionValue_trailingZeros _ k)

theorem text_leadingZeros (a : UiAmount) (k : ℕ) :
    (a.leadingZeros k).text = List.replicate k zero ++ a.text := by
  rw [text, text, leadingZeros, digits, List.map_append, List.map_replicate, List.append_assoc]
  rfl

end UiAmount

/-! ## What the parser reads -/

theorem mem_digitUnits {u : UInt16} : u ∈ js "0123456789" ↔ ∃ d, digitUnit d = u := by
  have hall : js "0123456789" = (List.finRange 10).map digitUnit := by decide
  rw [hall, List.mem_map]
  simp only [List.mem_finRange, true_and]

theorem forall_mem_digitUnits {w : JsString} :
    (∀ u ∈ w, u ∈ js "0123456789") ↔ ∃ ds, digits ds = w := by
  constructor
  · intro h
    induction w with
    | nil => exact ⟨[], rfl⟩
    | cons u w ih =>
      obtain ⟨d, rfl⟩ := mem_digitUnits.mp (h u List.mem_cons_self)
      obtain ⟨ds, rfl⟩ := ih fun v hv => h v (List.mem_cons_of_mem _ hv)
      exact ⟨d :: ds, rfl⟩
  · rintro ⟨ds, rfl⟩ u hu
    obtain ⟨d, -, rfl⟩ := List.mem_map.mp hu
    exact mem_digitUnits.mpr ⟨d, rfl⟩

theorem digits_eq_nil {ds : List (Fin 10)} : digits ds = [] ↔ ds = [] := List.map_eq_nil_iff

theorem amountPattern_iff {s : JsString} :
    amountPattern.rmatch s = true ↔ ∃ a : UiAmount, a.text = s := by
  rw [RegularExpression.rmatch_iff_matches', amountPattern, RegularExpression.matches'_mul,
    Language.mem_mul]
  simp only [Text.mem_optional, Text.mem_char_mul, Text.mem_oneOrMore_oneOf, forall_mem_digitUnits]
  constructor
  · rintro ⟨x, ⟨hne, ds, rfl⟩, y, rfl | ⟨z, ⟨hz, fs, rfl⟩, rfl⟩, rfl⟩
    · exact ⟨⟨ds, [], mt digits_eq_nil.mpr hne⟩, rfl⟩
    · refine ⟨⟨ds, fs, mt digits_eq_nil.mpr hne⟩, ?_⟩
      rw [UiAmount.text, if_neg (mt digits_eq_nil.mpr hz)]
  · rintro ⟨a, rfl⟩
    refine ⟨digits a.whole, ⟨mt digits_eq_nil.mp a.whole_ne_nil, a.whole, rfl⟩, _, ?_, rfl⟩
    split_ifs with hf
    · exact .inl rfl
    · exact .inr ⟨_, ⟨mt digits_eq_nil.mp hf, a.fractional, rfl⟩, rfl⟩

theorem notMem_digits {u : UInt16} (h : ∀ d, digitUnit d ≠ u) (ds : List (Fin 10)) :
    u ∉ digits ds := by
  intro hu
  obtain ⟨d, -, hd⟩ := List.mem_map.mp hu
  exact h d hd

theorem point_notMem_digits (ds : List (Fin 10)) : point ∉ digits ds :=
  notMem_digits (by decide) ds

theorem splitOn_text (a : UiAmount) :
    a.text.splitOn point =
      digits a.whole :: if a.fractional = [] then [] else [digits a.fractional] := by
  rw [UiAmount.text]
  split_ifs with hf
  · rw [List.append_nil, List.splitOn_eq_singleton (point_notMem_digits a.whole)]
  · rw [List.splitOn_append_cons_self_of_not_mem (point_notMem_digits a.whole),
      List.splitOn_eq_singleton (point_notMem_digits a.fractional)]

theorem getD_zero_splitOn_text (a : UiAmount) :
    (a.text.splitOn point).getD 0 [] = digits a.whole := by
  rw [splitOn_text]
  rfl

theorem getD_one_splitOn_text (a : UiAmount) :
    (a.text.splitOn point).getD 1 [] = digits a.fractional := by
  rw [splitOn_text]
  split_ifs with hf
  · rw [hf]
    rfl
  · rfl

theorem padEnd_digits (ds : List (Fin 10)) (n : ℕ) :
    padEnd (digits ds) n zero = digits (ds ++ List.replicate (n - ds.length) 0) := by
  rw [padEnd, digits, List.length_map, digits, List.map_append, List.map_replicate]
  rfl

/-! ## `BigInt` of digits -/

theorem digitOf_digitUnit (d : Fin 10) : digitOf 10 (digitUnit d) = some d.val := by
  revert d
  decide

theorem digitsValue_digits {ds : List (Fin 10)} (h : ds ≠ []) :
    digitsValue 10 (digits ds) = some (Nat.ofDigits 10 (ds.map Fin.val).reverse) := by
  have hdigit : digitOf 10 ∘ digitUnit = fun d => pure d.val := funext digitOf_digitUnit
  have hmap : (digits ds).mapM (digitOf 10) = some (ds.map Fin.val) := by
    rw [digits, List.mapM_map, hdigit, List.mapM_pure]
    rfl
  rw [digitsValue, if_neg (mt digits_eq_nil.mp h), hmap, Option.map_some]

theorem trim_eq_self {s : JsString} (h : ∀ u ∈ s, u ∉ whiteSpace) : trim s = s := by
  have hdrop : ∀ w : JsString, (∀ u ∈ w, u ∉ whiteSpace) → w.dropWhile (· ∈ whiteSpace) = w := by
    intro w hw
    cases w with
    | nil => rfl
    | cons u w => exact List.dropWhile_cons_of_neg (by simpa using hw u List.mem_cons_self)
  rw [trim, hdrop s h, hdrop s.reverse fun u hu => h u (List.mem_reverse.mp hu), List.reverse_reverse]

theorem trim_digits (ds : List (Fin 10)) : trim (digits ds) = digits ds := by
  have hblank : ∀ u ∈ whiteSpace, ∀ d, digitUnit d ≠ u := List.all_iff_forall_prop.mp (by decide)
  exact trim_eq_self fun u hu hw => notMem_digits (hblank u hw) ds hu

/-- No sign and no radix mark begins with digits only. -/
theorem take_digits_notMem (ds : List (Fin 10)) (n : ℕ) {marks : List JsString}
    (h : ∀ mark ∈ marks, ∃ u ∈ mark, ∀ d, digitUnit d ≠ u) : (digits ds).take n ∉ marks := by
  intro hmem
  obtain ⟨u, hu, hne⟩ := h _ hmem
  exact notMem_digits hne ds (List.mem_of_mem_take hu)

theorem take_digits_ne (ds : List (Fin 10)) (n : ℕ) {mark : JsString}
    (h : ∃ u ∈ mark, ∀ d, digitUnit d ≠ u) : (digits ds).take n ≠ mark := by
  intro hmark
  refine take_digits_notMem ds n ?_ (List.mem_singleton.mpr hmark)
  rintro m hm
  rwa [List.mem_singleton.mp hm]

theorem bigIntOfString_digits {ds : List (Fin 10)} (h : ds ≠ []) :
    bigIntOfString (digits ds) = .ok (Nat.ofDigits 10 (ds.map Fin.val).reverse : ℕ) := by
  have hvalue : stringToBigInt (digits ds) =
      some ((Nat.ofDigits 10 (ds.map Fin.val).reverse : ℕ) : ℤ) := by
    rw [stringToBigInt, trim_digits]
    rw [if_neg (mt digits_eq_nil.mp h), if_neg (take_digits_notMem ds 2 (by decide)),
      if_neg (take_digits_notMem ds 2 (by decide)), if_neg (take_digits_notMem ds 2 (by decide)),
      if_neg (take_digits_ne ds 1 (by decide)), if_neg (take_digits_ne ds 1 (by decide)),
      digitsValue_digits h]
    rfl
  rw [bigIntOfString, hvalue]

/-! ## Exactness -/

/-- **The parser on a text**: it refuses a fraction that is too long and converts every other. -/
theorem toBaseUnits_text (a : UiAmount) (d : ℕ) :
    toBaseUnits a.text d =
      if a.fractional.length ≤ d then .ok (a.units d : ℤ)
      else .error (.error (js "too many decimal places")) := by
  have hlength : (digits a.fractional).length = a.fractional.length := List.length_map _
  rw [toBaseUnits, require_true (amountPattern_iff.mpr ⟨a, rfl⟩), ok_bind]
  simp only [getD_zero_splitOn_text, getD_one_splitOn_text, hlength]
  by_cases hd : a.fractional.length ≤ d
  · rw [if_pos hd, require_true hd, ok_bind, padEnd_digits, digits, digits, ← List.map_append]
    exact bigIntOfString_digits (a.paddedDigits_ne_nil d)
  · rw [if_neg hd, require_eq_error.mpr ⟨hd, rfl⟩]
    rfl

theorem toBaseUnits_of_not_text {s : JsString} (h : ¬ ∃ a : UiAmount, a.text = s) (d : ℕ) :
    toBaseUnits s d = .error (.error (js "invalid token amount: " ++ s)) := by
  rw [toBaseUnits, require_eq_error.mpr ⟨mt amountPattern_iff.mp h, rfl⟩]
  rfl

theorem toBaseUnits_eq_ok {s : JsString} {d : ℕ} {n : ℤ} :
    toBaseUnits s d = .ok n ↔
      ∃ a : UiAmount, a.text = s ∧ a.fractional.length ≤ d ∧ (n : ℚ) = a.value * 10 ^ d := by
  constructor
  · intro h
    by_cases htext : ∃ a : UiAmount, a.text = s
    · obtain ⟨a, rfl⟩ := htext
      rw [toBaseUnits_text] at h
      split_ifs at h with hd
      obtain rfl := Except.ok.inj h
      exact ⟨a, rfl, hd, by rw [← UiAmount.units_eq hd, Int.cast_natCast]⟩
    · rw [toBaseUnits_of_not_text htext] at h
      cases h
  · rintro ⟨a, rfl, hd, hn⟩
    rw [toBaseUnits_text, if_pos hd]
    rw [← UiAmount.units_eq hd, ← Int.cast_natCast, Int.cast_inj] at hn
    rw [hn]

theorem toBaseUnits_fails_iff {s : JsString} {d : ℕ} :
    (∃ e, toBaseUnits s d = .error e) ↔ ∀ a : UiAmount, a.text = s → d < a.fractional.length := by
  constructor
  · rintro ⟨e, he⟩ a rfl
    by_contra hd
    rw [toBaseUnits_text, if_pos (by omega)] at he
    cases he
  · intro h
    cases hr : toBaseUnits s d with
    | error e => exact ⟨e, rfl⟩
    | ok n =>
      obtain ⟨a, ha, hd, -⟩ := toBaseUnits_eq_ok.mp hr
      exact absurd (h a ha) (by omega)

theorem units_le_units {a b : UiAmount} {d : ℕ} (ha : a.fractional.length ≤ d)
    (hb : b.fractional.length ≤ d) : a.units d ≤ b.units d ↔ a.value ≤ b.value := by
  rw [← Nat.cast_le (α := ℚ), UiAmount.units_eq ha, UiAmount.units_eq hb]
  exact mul_le_mul_iff_left₀ (by positivity)

theorem units_congr {a b : UiAmount} {d : ℕ} (ha : a.fractional.length ≤ d)
    (hb : b.fractional.length ≤ d) (hvalue : a.value = b.value) : a.units d = b.units d :=
  le_antisymm ((units_le_units ha hb).mpr hvalue.le) ((units_le_units hb ha).mpr hvalue.ge)

theorem toBaseUnits_leadingZeros (a : UiAmount) (k d : ℕ) :
    toBaseUnits (List.replicate k zero ++ a.text) d = toBaseUnits a.text d := by
  have hfractional : (a.leadingZeros k).fractional = a.fractional := rfl
  rw [← UiAmount.text_leadingZeros, toBaseUnits_text, toBaseUnits_text, hfractional]
  by_cases hd : a.fractional.length ≤ d
  · rw [if_pos hd, if_pos hd]
    exact congrArg (fun n : ℕ => Except.ok (n : ℤ)) (units_congr hd hd (a.value_leadingZeros k))
  · rw [if_neg hd, if_neg hd]

theorem toBaseUnits_trailingZeros {a : UiAmount} {k d : ℕ} (h : a.fractional.length + k ≤ d) :
    toBaseUnits (a.trailingZeros k).text d = toBaseUnits a.text d := by
  have hd : a.fractional.length ≤ d := by omega
  have hk : (a.trailingZeros k).fractional.length ≤ d := by
    rw [UiAmount.trailingZeros, List.length_append, List.length_replicate]
    exact h
  rw [toBaseUnits_text, toBaseUnits_text, if_pos hk, if_pos hd,
    units_congr hk hd (a.value_trailingZeros k)]

/-- **Exact amounts**: `toBaseUnits` returns a number exactly on the texts of one or more digits with
at most `d` more behind a point, it returns their value times `10 ^ d` and it throws on every other
string.  So it keeps the order of the values, and zeros in front of an amount or behind its fraction
change nothing. -/
theorem amounts_exact (d : ℕ) :
    (∀ s n, toBaseUnits s d = .ok n ↔
      ∃ a : UiAmount, a.text = s ∧ a.fractional.length ≤ d ∧ (n : ℚ) = a.value * 10 ^ d) ∧
    (∀ s, (∃ e, toBaseUnits s d = .error e) ↔
      ¬ ∃ a : UiAmount, a.text = s ∧ a.fractional.length ≤ d) ∧
    (∀ a b : UiAmount, a.fractional.length ≤ d → b.fractional.length ≤ d →
      ∃ m n, toBaseUnits a.text d = .ok m ∧ toBaseUnits b.text d = .ok n ∧
        (m ≤ n ↔ a.value ≤ b.value)) ∧
    (∀ (a : UiAmount) (k : ℕ),
      toBaseUnits (List.replicate k zero ++ a.text) d = toBaseUnits a.text d) ∧
    ∀ (a : UiAmount) (k : ℕ), a.fractional.length + k ≤ d →
      toBaseUnits (a.trailingZeros k).text d = toBaseUnits a.text d := by
  refine ⟨fun s n => toBaseUnits_eq_ok, fun s => ?_, fun a b ha hb => ?_,
    fun a k => toBaseUnits_leadingZeros a k d, fun a k => toBaseUnits_trailingZeros⟩
  · rw [toBaseUnits_fails_iff, not_exists]
    exact forall_congr' fun a => by rw [not_and, not_le]
  · refine ⟨a.units d, b.units d, ?_, ?_, ?_⟩
    · rw [toBaseUnits_text, if_pos ha]
    · rw [toBaseUnits_text, if_pos hb]
    · rw [Nat.cast_le]
      exact units_le_units ha hb

end Gateway
