import Clawfarm.Gateway.Js
import Mathlib.Data.List.Sort

/-!
# Gateway.Json — the canonical text of a JSON value

`canonicalizeJson` of `compact-receipt.ts`.  How the runtime writes a single string or number is the
parameter `Stringify`.
-/

namespace Gateway

open Checked

/-- `JSON.stringify` of a string and of a finite number. -/
structure Stringify where
  string : JsString → JsString
  number : JsNumber → JsString

/-- A value of type `unknown`: `other` is one that has no JSON text, with its `typeof`.  The entries
of an object are listed in the order of `Object.entries`. -/
inductive JsValue
  | undefined
  | null
  | boolean (b : Bool)
  | number (x : JsNumber)
  | string (s : JsString)
  | array (items : List JsValue)
  | object (entries : List (JsString × JsValue))
  | other (type : String)

def compareCanonicalKeys (left right : JsString) : ℤ :=
  if left < right then -1 else if right < left then 1 else 0

/-- `parts.join(",")` -/
def join : List JsString → JsString
  | [] => []
  | [part] => part
  | part :: parts => part ++ js "," ++ join parts

/-- The text of an object from its sorted entries; an entry whose value has no text throws. -/
def objectText (json : Stringify) (entries : List (JsString × Except Thrown JsString)) :
    Except Thrown JsString := do
  let parts ← entries.mapM fun e => do
    let text ← e.2
    return json.string e.1 ++ js ":" ++ text
  return js "\x7b" ++ join parts ++ js "\x7d"

mutual

def canonicalizeJson (json : Stringify) : JsValue → Except Thrown JsString
  | .null => .ok (js "null")
  | .string s => .ok (json.string s)
  | .number x => do
    require x.IsFinite (.error "metadata numbers must be finite")
    return json.number x
  | .boolean b => .ok (if b then js "true" else js "false")
  | .array items => do
    let parts ← canonicalizeItems json items
    return js "[" ++ join parts ++ js "]"
  | .object entries =>
    objectText json ((canonicalizeEntries json entries).mergeSort fun left right =>
      compareCanonicalKeys left.1 right.1 ≤ 0)
  | .undefined => .error (.error "unsupported metadata value type: undefined")
  | .other type => .error (.error ("unsupported metadata value type: " ++ type))

def canonicalizeItems (json : Stringify) : List JsValue → Except Thrown (List JsString)
  | [] => .ok []
  | item :: items => do
    let part ← canonicalizeJson json item
    let parts ← canonicalizeItems json items
    return part :: parts

/-- The entries with a value, each with the text of its value. -/
def canonicalizeEntries (json : Stringify) :
    List (JsString × JsValue) → List (JsString × Except Thrown JsString)
  | [] => []
  | (key, entryValue) :: entries =>
    match entryValue with
    | .undefined => canonicalizeEntries json entries
    | entryValue => (key, canonicalizeJson json entryValue) :: canonicalizeEntries json entries

end

variable {json : Stringify}

/-! ## When there is no text -/

theorem canonicalizeJson_string (s : JsString) :
    canonicalizeJson json (.string s) = .ok (json.string s) := by
  rw [canonicalizeJson]

theorem canonicalizeJson_number_iff {x : JsNumber} :
    (∃ text, canonicalizeJson json (.number x) = .ok text) ↔ x.IsFinite := by
  simp only [canonicalizeJson, bind_eq_ok, require_eq_ok, exists_unit, pure_eq_ok]
  constructor
  · rintro ⟨_, h, -⟩
    exact h
  · intro h
    exact ⟨_, h, rfl⟩

theorem objectText_succeeds_iff {entries : List (JsString × Except Thrown JsString)} :
    (∃ text, objectText json entries = .ok text) ↔ ∀ e ∈ entries, ∃ text, e.2 = .ok text := by
  simp only [objectText, bind_eq_ok, pure_eq_ok]
  constructor
  · rintro ⟨text, parts, hparts, -⟩ e he
    obtain ⟨part, hpart⟩ := mapM_succeeds_iff.mp ⟨parts, hparts⟩ e he
    obtain ⟨value, hvalue, -⟩ := bind_eq_ok.mp hpart
    exact ⟨value, hvalue⟩
  · intro h
    obtain ⟨parts, hparts⟩ := mapM_succeeds_iff.mpr fun e he => by
      obtain ⟨value, hvalue⟩ := h e he
      exact ⟨json.string e.1 ++ js ":" ++ value, bind_eq_ok.mpr ⟨value, hvalue, rfl⟩⟩
    exact ⟨_, parts, hparts, rfl⟩

theorem canonicalizeEntries_undefined (key : JsString) (entries : List (JsString × JsValue)) :
    canonicalizeEntries json ((key, .undefined) :: entries) = canonicalizeEntries json entries := by
  rw [canonicalizeEntries]

theorem canonicalizeEntries_cons {value : JsValue} (h : value ≠ .undefined) (key : JsString)
    (entries : List (JsString × JsValue)) :
    canonicalizeEntries json ((key, value) :: entries) =
      (key, canonicalizeJson json value) :: canonicalizeEntries json entries := by
  rw [canonicalizeEntries]
  exact h

theorem mem_canonicalizeEntries {entries : List (JsString × JsValue)}
    {e : JsString × Except Thrown JsString} : e ∈ canonicalizeEntries json entries ↔
      ∃ value, (e.1, value) ∈ entries ∧ value ≠ .undefined ∧ e.2 = canonicalizeJson json value := by
  induction entries with
  | nil =>
    rw [canonicalizeEntries]
    exact ⟨fun h => (nomatch h), fun ⟨_, h, _⟩ => nomatch h⟩
  | cons entry entries ih =>
    obtain ⟨key, value⟩ := entry
    by_cases hvalue : value = .undefined
    · rw [hvalue, canonicalizeEntries_undefined, ih]
      constructor
      · rintro ⟨v, hv, hne, he⟩
        exact ⟨v, List.mem_cons_of_mem _ hv, hne, he⟩
      · rintro ⟨v, hv, hne, he⟩
        rcases List.mem_cons.mp hv with heq | hv
        · exact absurd (congrArg Prod.snd heq) hne
        · exact ⟨v, hv, hne, he⟩
    · rw [canonicalizeEntries_cons hvalue, List.mem_cons, ih]
      constructor
      · rintro (rfl | ⟨v, hv, hne, he⟩)
        · exact ⟨value, List.mem_cons_self, hvalue, rfl⟩
        · exact ⟨v, List.mem_cons_of_mem _ hv, hne, he⟩
      · rintro ⟨v, hv, hne, he⟩
        rcases List.mem_cons.mp hv with heq | hv
        · obtain ⟨hkey, rfl⟩ := Prod.mk.inj heq
          exact Or.inl (Prod.ext hkey he)
        · exact Or.inr ⟨v, hv, hne, he⟩

/-- An object has a text if each of its values is undefined or has one. -/
theorem canonicalizeJson_object_iff {entries : List (JsString × JsValue)} :
    (∃ text, canonicalizeJson json (.object entries) = .ok text) ↔
      ∀ e ∈ entries, e.2 = .undefined ∨ ∃ text, canonicalizeJson json e.2 = .ok text := by
  rw [canonicalizeJson, objectText_succeeds_iff]
  simp only [List.mem_mergeSort, mem_canonicalizeEntries]
  constructor
  · intro h e he
    by_cases hv : e.2 = .undefined
    · exact Or.inl hv
    · exact Or.inr (h (e.1, canonicalizeJson json e.2) ⟨e.2, he, hv, rfl⟩)
  · rintro h e ⟨v, hv, hne, heq⟩
    rw [heq]
    exact (h _ hv).resolve_left hne

end Gateway
