import Clawfarm.Attestation.Utils
import Mathlib.Data.Rat.Floor

/-!
# Gateway.Js — the values of the gateway scripts

What the scripts use of their runtime.  A string is its UTF-16 code units, a number is a rational
(doubles are some of them), a negative zero or a value that is not finite, and a `bigint` is an
integer; byte arrays are lists.  A call that throws is an error.
-/

namespace Gateway

open Checked

inductive Thrown
  | error (message : String)
  | rangeError
  deriving DecidableEq, Repr

/-! ## Strings -/

abbrev JsString : Type := List UInt16

/-- A string literal of ASCII characters. -/
def js (s : String) : JsString := s.toList.map fun c => c.toNat.toUInt16

def utf8OfScalar (c : ℕ) : List UInt8 :=
  if c < 0x80 then [c.toUInt8]
  else if c < 0x800 then [(0xC0 + c / 0x40).toUInt8, (0x80 + c % 0x40).toUInt8]
  else if c < 0x10000 then [(0xE0 + c / 0x1000).toUInt8, (0x80 + c / 0x40 % 0x40).toUInt8,
    (0x80 + c % 0x40).toUInt8]
  else [(0xF0 + c / 0x40000).toUInt8, (0x80 + c / 0x1000 % 0x40).toUInt8,
    (0x80 + c / 0x40 % 0x40).toUInt8, (0x80 + c % 0x40).toUInt8]

def IsHighSurrogate (u : UInt16) : Prop := 0xD800 ≤ u ∧ u ≤ 0xDBFF

def IsLowSurrogate (u : UInt16) : Prop := 0xDC00 ≤ u ∧ u ≤ 0xDFFF

instance : DecidablePred IsHighSurrogate := fun _ => inferInstanceAs (Decidable (_ ∧ _))

instance : DecidablePred IsLowSurrogate := fun _ => inferInstanceAs (Decidable (_ ∧ _))

/-- The bytes of a code unit that is not half of a pair; a surrogate is replaced by `U+FFFD`. -/
def utf8OfUnit (u : UInt16) : List UInt8 :=
  utf8OfScalar (if IsHighSurrogate u ∨ IsLowSurrogate u then 0xFFFD else u.toNat)

/-- `Buffer.from(s, "utf8")` -/
def utf8 : JsString → List UInt8
  | [] => []
  | [u] => utf8OfUnit u
  | u :: v :: s =>
    if IsHighSurrogate u ∧ IsLowSurrogate v then
      utf8OfScalar (0x10000 + (u.toNat - 0xD800) * 0x400 + (v.toNat - 0xDC00)) ++ utf8 s
    else utf8OfUnit u ++ utf8 (v :: s)

/-! ## Numbers -/

inductive JsNumber
  | nan
  | infinity (negative : Bool)
  | negativeZero
  | finite (value : ℚ)

/-- `Number.MAX_SAFE_INTEGER` -/
def MAX_SAFE_INTEGER : ℕ := 2 ^ 53 - 1

/-- `Number.isSafeInteger(x)` -/
def JsNumber.IsSafeInteger : JsNumber → Prop
  | .finite q => q.den = 1 ∧ |q.num| ≤ MAX_SAFE_INTEGER
  | .negativeZero => True
  | _ => False

/-- `x < 0` -/
def JsNumber.IsNegative : JsNumber → Prop
  | .finite q => q < 0
  | .infinity negative => negative = true
  | _ => False

/-- `Number.isFinite(x)` -/
def JsNumber.IsFinite : JsNumber → Prop
  | .finite _ => True
  | .negativeZero => True
  | _ => False

instance : DecidablePred JsNumber.IsSafeInteger
  | .finite _ => inferInstanceAs (Decidable (_ ∧ _))
  | .negativeZero => inferInstanceAs (Decidable True)
  | .nan => inferInstanceAs (Decidable False)
  | .infinity _ => inferInstanceAs (Decidable False)

instance : DecidablePred JsNumber.IsNegative
  | .finite q => inferInstanceAs (Decidable (q < 0))
  | .negativeZero => inferInstanceAs (Decidable False)
  | .nan => inferInstanceAs (Decidable False)
  | .infinity negative => inferInstanceAs (Decidable (negative = true))

instance : DecidablePred JsNumber.IsFinite
  | .finite _ => inferInstanceAs (Decidable True)
  | .negativeZero => inferInstanceAs (Decidable True)
  | .nan => inferInstanceAs (Decidable False)
  | .infinity _ => inferInstanceAs (Decidable False)

/-- `BigInt(x)` -/
def JsNumber.toBigInt : JsNumber → Except Thrown ℤ
  | .finite q => if q.den = 1 then .ok q.num else .error .rangeError
  | .negativeZero => .ok 0
  | _ => .error .rangeError

/-- `number | bigint` -/
inductive Numeric
  | number (x : JsNumber)
  | bigint (n : ℤ)

/-! ## Buffers -/

/-- The four bytes that are written for half of a word. -/
def halfWord (w : ℕ) : List UInt8 :=
  [w.toUInt8, (w / 2 ^ 8).toUInt8, (w / 2 ^ 16).toUInt8, (w / 2 ^ 24).toUInt8]

/-- `writeBigUInt64LE` into a buffer of 8 bytes: the low half of the value, then the high half. -/
def writeBigUInt64LE (value : ℤ) : Except Thrown (List UInt8) := do
  require (0 ≤ value ∧ value ≤ 18446744073709551615) .rangeError
  return halfWord (value.toNat % 2 ^ 32) ++ halfWord (value.toNat / 2 ^ 32 % 2 ^ 32)

/-- Bytes modulo `256` depend on the value modulo `256` only. -/
theorem toUInt8_congr {m n : ℕ} (h : m % 256 = n % 256) : m.toUInt8 = n.toUInt8 := by
  refine UInt8.toNat_inj.mp ?_
  show (UInt8.ofNat m).toNat = (UInt8.ofNat n).toNat
  rw [UInt8.toNat_ofNat', UInt8.toNat_ofNat']
  exact h

/-- **Words**: the runtime of the gateway and the on-chain program write the same eight bytes. -/
theorem writeBigUInt64LE_toNat (n : UInt64) :
    writeBigUInt64LE n.toNat = .ok (Attestation.toLeBytes n) := by
  have hlt : n.toNat < 2 ^ 64 := n.toNat_lt
  have hrange : (0 : ℤ) ≤ n.toNat ∧ (n.toNat : ℤ) ≤ 18446744073709551615 := by omega
  rw [writeBigUInt64LE, require_true hrange, ok_bind, Int.toNat_natCast]
  show Except.ok _ = Except.ok _
  refine congrArg Except.ok ?_
  rw [Attestation.toLeBytes, halfWord, halfWord]
  simp only [List.range, List.range.loop, List.map_cons, List.map_nil, List.cons_append,
    List.nil_append, List.cons.injEq, and_true]
  exact ⟨toUInt8_congr (by omega), toUInt8_congr (by omega), toUInt8_congr (by omega),
    toUInt8_congr (by omega), toUInt8_congr (by omega), toUInt8_congr (by omega),
    toUInt8_congr (by omega), toUInt8_congr (by omega)⟩

end Gateway
