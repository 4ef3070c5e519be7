import Clawfarm.Gateway.Json
import Clawfarm.Lib.Delimited
import Mathlib.Data.Bool.AllAny

/-!
# Gateway.Canonical — one text for each value

Which values `canonicalizeJson` writes with one text: `JsValue.Same` is equality up to undefined
entries, the order of keys and the sign of zero.  `Stringify.Standard` is what the tokens of the
runtime look like.  A text is read back from the front (`readsAs_text`), so no two values that
differ share one.
-/

namespace Gateway

open Checked
open Delimited

/-! ## Values and tokens -/

/-- A number is a double: `m * 2 ^ e` with 53 bits for `m`. -/
def JsNumber.IsDouble : JsNumber → Prop
  | .finite q => ∃ m e : ℤ, |m| < 2 ^ 53 ∧ -1074 ≤ e ∧ e ≤ 971 ∧ q = m * 2 ^ e
  | _ => True

def JsNumber.IsZero (x : JsNumber) : Prop := x = .finite 0 ∨ x = .negativeZero

/-- Equal, or `0` and `-0`. -/
def JsNumber.Same (x y : JsNumber) : Prop := x = y ∨ x.IsZero ∧ y.IsZero

/-- Values without functions, symbols or undefined items; the keys of an object are distinct. -/
inductive JsValue.IsJson : JsValue → Prop
  | null : IsJson .null
  | boolean (b : Bool) : IsJson (.boolean b)
  | number {x : JsNumber} (hfinite : x.IsFinite) (hdouble : x.IsDouble) : IsJson (.number x)
  | string (s : JsString) : IsJson (.string s)
  | array {items : List JsValue} (hitems : ∀ u ∈ items, IsJson u) : IsJson (.array items)
  | object {entries : List (JsString × JsValue)} (hkeys : (entries.map Prod.fst).Nodup)
      (hvalues : ∀ e ∈ entries, e.2 ≠ .undefined → IsJson e.2) : IsJson (.object entries)

/-- The object has an entry for `key` that is not undefined. -/
def HasKey (entries : List (JsString × JsValue)) (key : JsString) : Prop :=
  ∃ u, (key, u) ∈ entries ∧ u ≠ .undefined

/-- Equality up to undefined entries, the order of keys and the sign of zero. -/
inductive JsValue.Same : JsValue → JsValue → Prop
  | null : Same .null .null
  | boolean (b : Bool) : Same (.boolean b) (.boolean b)
  | number {x y : JsNumber} (h : x.Same y) : Same (.number x) (.number y)
  | string (s : JsString) : Same (.string s) (.string s)
  | array {us vs : List JsValue} (hlength : us.length = vs.length)
      (hitems : ∀ p ∈ us.zip vs, Same p.1 p.2) : Same (.array us) (.array vs)
  | object {es fs : List (JsString × JsValue)} (hkeys : ∀ key, HasKey es key ↔ HasKey fs key)
      (hvalues : ∀ key u v, (key, u) ∈ es → u ≠ .undefined → (key, v) ∈ fs → v ≠ .undefined →
        Same u v) : Same (.object es) (.object fs)

/-- `"` -/
def quote : UInt16 := 0x22

/-- `\` -/
def backslash : UInt16 := 0x5C

/-- The tokens of `JSON.stringify`: strings between quotation marks that are escaped inside, numbers
of digits, signs, points and exponents, and distinct ones for distinct values, except for `-0`. -/
structure Stringify.Standard (json : Stringify) : Prop where
  string_shape : ∀ s, ∃ body, Escaped quote backslash body ∧ json.string s = quote :: (body ++ [quote])
  string_injective : Function.Injective json.string
  number_ne_nil : ∀ x : JsNumber, x.IsFinite → x.IsDouble → json.number x ≠ []
  number_shape : ∀ x : JsNumber, x.IsFinite → x.IsDouble →
    ∀ c ∈ json.number x, c ∈ js "0123456789+-.e"
  number_zero : json.number .negativeZero = json.number (.finite 0)
  number_injective : ∀ x y : JsNumber, x.IsFinite → x.IsDouble → y.IsFinite → y.IsDouble →
    json.number x = json.number y → x.Same y

variable {json : Stringify}

/-! ## Texts of arrays and objects -/

/-- `","` -/
def comma : UInt16 := 0x2C

theorem join_eq (parts : List JsString) : join parts = [comma].intercalate parts := by
  induction parts with
  | nil => rfl
  | cons part parts ih =>
    cases parts with
    | nil => rw [join, List.intercalate_singleton]
    | cons next parts =>
      rw [join.eq_3 part _ (List.cons_ne_nil next parts), ih, List.intercalate_cons_cons]
      rfl

theorem canonicalizeItems_eq_ok {items : List JsValue} {parts : List JsString} :
    canonicalizeItems json items = .ok parts ↔
      List.Forall₂ (fun u part => canonicalizeJson json u = .ok part) items parts := by
  induction items generalizing parts with
  | nil =>
    rw [canonicalizeItems, List.forall₂_nil_left_iff, Except.ok.injEq, eq_comm]
  | cons u items ih =>
    simp only [canonicalizeItems, bind_eq_ok, pure_eq_ok, List.forall₂_cons_left_iff, ih]
    constructor
    · rintro ⟨part, hpart, parts', hparts, rfl⟩
      exact ⟨part, parts', hpart, hparts, rfl⟩
    · rintro ⟨part, parts', hpart, hparts, rfl⟩
      exact ⟨part, hpart, parts', hparts, rfl⟩

theorem bracketed_array (t : JsString) : js "[" ++ t ++ js "]" = 0x5B :: (t ++ [0x5D]) := by
  have hopen : js "[" = [0x5B] := by decide
  have hclose : js "]" = [0x5D] := by decide
  rw [hopen, hclose]
  rfl

theorem bracketed_object (t : JsString) :
    js "\x7b" ++ t ++ js "\x7d" = 0x7B :: (t ++ [0x7D]) := by
  have hopen : js "\x7b" = [0x7B] := by decide
  have hclose : js "\x7d" = [0x7D] := by decide
  rw [hopen, hclose]
  rfl

theorem canonicalizeJson_array_eq_ok {items : List JsValue} {text : JsString} :
    canonicalizeJson json (.array items) = .ok text ↔ ∃ parts,
      List.Forall₂ (fun u part => canonicalizeJson json u = .ok part) items parts ∧
        0x5B :: ([comma].intercalate parts ++ [0x5D]) = text := by
  simp only [canonicalizeJson, bind_eq_ok, canonicalizeItems_eq_ok, pure_eq_ok, bracketed_array,
    join_eq]

/-- The text of an entry from its key and the text of its value. -/
def entryText (json : Stringify) (p : JsString × JsString) : JsString :=
  json.string p.1 ++ js ":" ++ p.2

theorem mapM_entryText_eq_ok {entries : List (JsString × Except Thrown JsString)}
    {parts : List JsString} :
    (entries.mapM fun e => do
        let text ← e.2
        return json.string e.1 ++ js ":" ++ text) = Except.ok parts ↔
      ∃ pairs : List (JsString × JsString),
        entries = pairs.map (fun p => (p.1, .ok p.2)) ∧ pairs.map (entryText json) = parts := by
  induction entries generalizing parts with
  | nil =>
    rw [List.mapM_nil, pure_eq_ok]
    constructor
    · rintro rfl
      exact ⟨[], rfl, rfl⟩
    · rintro ⟨pairs, hpairs, rfl⟩
      rw [List.map_eq_nil_iff.mp hpairs.symm]
      rfl
  | cons e entries ih =>
    simp only [List.mapM_cons, bind_eq_ok, pure_eq_ok, ih]
    constructor
    · rintro ⟨-, ⟨text, htext, rfl⟩, -, ⟨pairs, rfl, rfl⟩, rfl⟩
      exact ⟨(e.1, text) :: pairs, by rw [List.map_cons, ← htext], rfl⟩
    · rintro ⟨pairs, hpairs, rfl⟩
      obtain ⟨p, pairs, rfl, rfl, rfl⟩ := List.map_eq_cons_iff.mp hpairs.symm
      exact ⟨_, ⟨p.2, rfl, rfl⟩, _, ⟨pairs, rfl, rfl⟩, rfl⟩

theorem objectText_eq_ok {entries : List (JsString × Except Thrown JsString)} {text : JsString} :
    objectText json entries = .ok text ↔ ∃ pairs : List (JsString × JsString),
      entries = pairs.map (fun p => (p.1, .ok p.2)) ∧
        0x7B :: ([comma].intercalate (pairs.map (entryText json)) ++ [0x7D]) = text := by
  simp only [objectText, bind_eq_ok, pure_eq_ok, mapM_entryText_eq_ok, bracketed_object, join_eq]
  constructor
  · rintro ⟨-, ⟨pairs, hpairs, rfl⟩, rfl⟩
    exact ⟨pairs, hpairs, rfl⟩
  · rintro ⟨pairs, hpairs, rfl⟩
    exact ⟨_, ⟨pairs, hpairs, rfl⟩, rfl⟩

/-! ## The order of the entries -/

theorem compareCanonicalKeys_le_zero {left right : JsString} :
    compareCanonicalKeys left right ≤ 0 ↔ left ≤ right := by
  rw [compareCanonicalKeys]
  split_ifs with hlt hgt
  · exact ⟨fun _ => List.le_of_lt hlt, fun _ => by omega⟩
  · exact ⟨fun h => absurd h (by omega), fun h => absurd h (List.not_le.mpr hgt)⟩
  · exact ⟨fun _ => List.not_lt.mp hgt, fun _ => by omega⟩

/-- The entries of an object in the order of its text. -/
def sortedEntries (json : Stringify) (entries : List (JsString × JsValue)) :
    List (JsString × Except Thrown JsString) :=
  (canonicalizeEntries json entries).mergeSort fun left right =>
    compareCanonicalKeys left.1 right.1 ≤ 0

theorem pairwise_sortedEntries (entries : List (JsString × JsValue)) :
    (sortedEntries json entries).Pairwise fun left right => left.1 ≤ right.1 := by
  have hsorted := @List.pairwise_mergeSort _ (fun left right : JsString × Except Thrown JsString =>
    compareCanonicalKeys left.1 right.1 ≤ 0) ?_ ?_ (canonicalizeEntries json entries)
  · exact hsorted.imp fun h => compareCanonicalKeys_le_zero.mp (of_decide_eq_true h)
  · intro a b c
    simp only [compareCanonicalKeys_le_zero, decide_eq_true_eq]
    exact List.le_trans
  · intro a b
    simp only [compareCanonicalKeys_le_zero, Bool.or_eq_true, decide_eq_true_eq]
    exact List.le_total a.1 b.1

theorem mem_sortedEntries {entries : List (JsString × JsValue)}
    {e : JsString × Except Thrown JsString} : e ∈ sortedEntries json entries ↔
      ∃ value, (e.1, value) ∈ entries ∧ value ≠ .undefined ∧ e.2 = canonicalizeJson json value := by
  rw [sortedEntries, List.mem_mergeSort, mem_canonicalizeEntries]

theorem keys_canonicalizeEntries_sublist (entries : List (JsString × JsValue)) :
    ((canonicalizeEntries json entries).map Prod.fst).Sublist (entries.map Prod.fst) := by
  induction entries with
  | nil =>
    rw [canonicalizeEntries]
    exact List.Sublist.slnil
  | cons entry entries ih =>
    obtain ⟨key, value⟩ := entry
    by_cases hvalue : value = .undefined
    · rw [hvalue, canonicalizeEntries_undefined]
      exact ih.cons key
    · rw [canonicalizeEntries_cons hvalue]
      exact ih.cons_cons key

theorem nodup_keys_sortedEntries {entries : List (JsString × JsValue)}
    (hkeys : (entries.map Prod.fst).Nodup) :
    ((sortedEntries json entries).map Prod.fst).Nodup :=
  ((List.mergeSort_perm _ _).map Prod.fst).nodup_iff.mpr
    (hkeys.sublist (keys_canonicalizeEntries_sublist entries))

/-- Only which entries there are matters. -/
theorem sortedEntries_congr {es fs : List (JsString × JsValue)} (hes : (es.map Prod.fst).Nodup)
    (hfs : (fs.map Prod.fst).Nodup)
    (hmem : ∀ e, e ∈ sortedEntries json es ↔ e ∈ sortedEntries json fs) :
    sortedEntries json es = sortedEntries json fs := by
  have hnodup : ((sortedEntries json es).map Prod.fst).Nodup := nodup_keys_sortedEntries hes
  have hnodup' : ((sortedEntries json fs).map Prod.fst).Nodup := nodup_keys_sortedEntries hfs
  have hperm := (List.perm_ext_iff_of_nodup hnodup.of_map hnodup'.of_map).mpr hmem
  refine hperm.eq_of_pairwise ?_ (pairwise_sortedEntries es) (pairwise_sortedEntries fs)
  intro a b ha hb hab hba
  exact List.inj_on_of_nodup_map hnodup ha ((hmem b).mpr hb) (List.le_antisymm hab hba)

theorem canonicalizeJson_object_eq_ok {entries : List (JsString × JsValue)} {text : JsString} :
    canonicalizeJson json (.object entries) = .ok text ↔ ∃ pairs : List (JsString × JsString),
      sortedEntries json entries = pairs.map (fun p => (p.1, .ok p.2)) ∧
        0x7B :: ([comma].intercalate (pairs.map (entryText json)) ++ [0x7D]) = text := by
  rw [canonicalizeJson]
  exact objectText_eq_ok

/-! ## Every value has a text -/

theorem exists_items_text {items : List JsValue}
    (h : ∀ u ∈ items, ∃ text, canonicalizeJson json u = .ok text) :
    ∃ parts, List.Forall₂ (fun u part => canonicalizeJson json u = .ok part) items parts := by
  induction items with
  | nil => exact ⟨[], .nil⟩
  | cons u items ih =>
    obtain ⟨part, hpart⟩ := h u List.mem_cons_self
    obtain ⟨parts, hparts⟩ := ih fun v hv => h v (List.mem_cons_of_mem _ hv)
    exact ⟨part :: parts, .cons hpart hparts⟩

theorem JsValue.IsJson.exists_text {u : JsValue} (h : u.IsJson) :
    ∃ text, canonicalizeJson json u = .ok text := by
  induction h with
  | null => exact ⟨_, by rw [canonicalizeJson]⟩
  | boolean b => exact ⟨_, by rw [canonicalizeJson]⟩
  | number hfinite => exact canonicalizeJson_number_iff.mpr hfinite
  | string s => exact ⟨_, canonicalizeJson_string s⟩
  | array _ ih =>
    obtain ⟨parts, hparts⟩ := exists_items_text ih
    exact ⟨_, canonicalizeJson_array_eq_ok.mpr ⟨parts, hparts, rfl⟩⟩
  | object _ _ ih =>
    refine canonicalizeJson_object_iff.mpr fun e he => ?_
    by_cases hvalue : e.2 = .undefined
    · exact .inl hvalue
    · exact .inr (ih e he hvalue)

theorem canonicalizeJson_number_eq_ok {x : JsNumber} {text : JsString} :
    canonicalizeJson json (.number x) = .ok text ↔ x.IsFinite ∧ json.number x = text := by
  simp only [canonicalizeJson, bind_eq_ok, require_eq_ok, exists_unit, pure_eq_ok]

/-! ## The first symbol -/

inductive Kind
  | null
  | boolean (b : Bool)
  | number
  | string
  | array
  | object
  | none
  deriving DecidableEq

def JsValue.kind : JsValue → Kind
  | .null => .null
  | .boolean b => .boolean b
  | .number _ => .number
  | .string _ => .string
  | .array _ => .array
  | .object _ => .object
  | .undefined => .none
  | .other _ => .none

/-- The kind of a value whose text begins with `c`. -/
def Kind.ofOpening (c : UInt16) : Kind :=
  if c = 0x6E then .null
  else if c = 0x74 then .boolean true
  else if c = 0x66 then .boolean false
  else if c = quote then .string
  else if c = 0x5B then .array
  else if c = 0x7B then .object
  else .number

/-- What may stand behind a value: `","`, `"]"` or `"}"`. -/
def follow : Set UInt16 := {c | c ∈ js ",]\x7d"}

instance : DecidablePred (· ∈ follow) := fun c => inferInstanceAs (Decidable (c ∈ js ",]\x7d"))

theorem opening (hjson : json.Standard) {u : JsValue} (hu : u.IsJson) {text : JsString}
    (htext : canonicalizeJson json u = .ok text) :
    ∃ c rest, text = c :: rest ∧ Kind.ofOpening c = u.kind ∧ c ∉ follow := by
  have hnull : js "null" = 0x6E :: js "ull" := by decide
  have htrue : js "true" = 0x74 :: js "rue" := by decide
  have hfalse : js "false" = 0x66 :: js "alse" := by decide
  have hnumber : ∀ c ∈ js "0123456789+-.e", Kind.ofOpening c = .number ∧ c ∉ follow :=
    List.all_iff_forall_prop.mp (by decide)
  cases hu with
  | null =>
    rw [canonicalizeJson, Except.ok.injEq, hnull] at htext
    exact ⟨_, _, htext.symm, by decide, by decide⟩
  | boolean b =>
    rw [canonicalizeJson, Except.ok.injEq] at htext
    cases b with
    | true => exact ⟨_, _, htext.symm.trans htrue, by decide, by decide⟩
    | false => exact ⟨_, _, htext.symm.trans hfalse, by decide, by decide⟩
  | number hfinite hdouble =>
    obtain ⟨-, rfl⟩ := canonicalizeJson_number_eq_ok.mp htext
    obtain ⟨c, rest, hc⟩ := List.exists_cons_of_ne_nil (hjson.number_ne_nil _ hfinite hdouble)
    have hmem := hnumber c (hjson.number_shape _ hfinite hdouble c (by rw [hc]; exact List.mem_cons_self))
    exact ⟨c, rest, hc, hmem.1, hmem.2⟩
  | string s =>
    obtain ⟨body, -, hs⟩ := hjson.string_shape s
    rw [canonicalizeJson_string, Except.ok.injEq, hs] at htext
    exact ⟨_, _, htext.symm, rfl, by decide⟩
  | array =>
    obtain ⟨parts, -, rfl⟩ := canonicalizeJson_array_eq_ok.mp htext
    exact ⟨_, _, rfl, rfl, by decide⟩
  | object =>
    obtain ⟨parts, -, rfl⟩ := canonicalizeJson_object_eq_ok.mp htext
    exact ⟨_, _, rfl, rfl, by decide⟩

theorem kind_eq (hjson : json.Standard) {u v : JsValue} (hu : u.IsJson) (hv : v.IsJson)
    {a b r s : JsString} (ha : canonicalizeJson json u = .ok a) (hb : canonicalizeJson json v = .ok b)
    (heq : a ++ r = b ++ s) : u.kind = v.kind := by
  obtain ⟨c, a, rfl, hc, -⟩ := opening hjson hu ha
  obtain ⟨d, b, rfl, hd, -⟩ := opening hjson hv hb
  rw [← hc, ← hd, (List.cons.inj heq).1]

/-! ## Reading a text back -/

/-- The texts of values. -/
def texts (json : Stringify) : Set JsString :=
  {t | ∃ v : JsValue, v.IsJson ∧ canonicalizeJson json v = .ok t}

def numberTokens (json : Stringify) : Set JsString :=
  {t | ∃ x : JsNumber, x.IsFinite ∧ x.IsDouble ∧ json.number x = t}

def entryTexts (json : Stringify) : Set JsString :=
  {t | ∃ p : JsString × JsString, p.2 ∈ texts json ∧ entryText json p = t}

theorem texts_opening (hjson : json.Standard) {stop : UInt16} (hstop : stop ∈ follow) :
    ∀ t ∈ texts json, ∃ c rest, t = c :: rest ∧ c ≠ stop := by
  rintro t ⟨v, hv, ht⟩
  obtain ⟨c, rest, rfl, -, hc⟩ := opening hjson hv ht
  exact ⟨c, rest, rfl, fun h => hc (h ▸ hstop)⟩

theorem entryTexts_opening (hjson : json.Standard) {stop : UInt16} (hstop : quote ≠ stop) :
    ∀ t ∈ entryTexts json, ∃ c rest, t = c :: rest ∧ c ≠ stop := by
  rintro - ⟨p, -, rfl⟩
  obtain ⟨body, -, hkey⟩ := hjson.string_shape p.1
  refine ⟨quote, body ++ [quote] ++ js ":" ++ p.2, ?_, hstop⟩
  rw [entryText, hkey]
  rfl

theorem string_append_inj (hjson : json.Standard) {k l r s : JsString}
    (heq : json.string k ++ r = json.string l ++ s) : k = l ∧ r = s := by
  obtain ⟨body, hbody, hk⟩ := hjson.string_shape k
  obtain ⟨body', hbody', hl⟩ := hjson.string_shape l
  rw [hk, hl, List.cons_append, List.cons_append, List.append_assoc, List.append_assoc] at heq
  obtain ⟨rfl, hr⟩ := hbody.append_inj (by decide) hbody' (List.cons.inj heq).2
  exact ⟨hjson.string_injective (hk.trans hl.symm), hr⟩

theorem readsAs_number (hjson : json.Standard) {x : JsNumber} (hfinite : x.IsFinite)
    (hdouble : x.IsDouble) : ReadsAs follow (numberTokens json) (json.number x) := by
  have hdisjoint : ∀ c ∈ js "0123456789+-.e", c ∉ follow :=
    List.all_iff_forall_prop.mp (by decide)
  refine readsAs_of_alphabet (A := {c | c ∈ js "0123456789+-.e"}) hdisjoint ?_
    (hjson.number_shape x hfinite hdouble)
  rintro b ⟨y, hyfinite, hydouble, rfl⟩
  exact hjson.number_shape y hyfinite hydouble

theorem entryText_append_inj (hjson : json.Standard) {p q : JsString × JsString} {r s : JsString}
    (heq : entryText json p ++ r = entryText json q ++ s) : p.1 = q.1 ∧ p.2 ++ r = q.2 ++ s := by
  rw [entryText, entryText] at heq
  simp only [List.append_assoc] at heq
  obtain ⟨hkey, heq⟩ := string_append_inj hjson heq
  exact ⟨hkey, List.append_cancel_left heq⟩

theorem readsAs_entryText (hjson : json.Standard) {p : JsString × JsString}
    (h : ReadsAs follow (texts json) p.2) : ReadsAs follow (entryTexts json) (entryText json p) := by
  rintro - ⟨q, hq, rfl⟩ r s hr hs heq
  obtain ⟨hkey, heq⟩ := entryText_append_inj hjson heq
  rw [Prod.ext hkey (h q.2 hq r s hr hs heq)]

theorem exists_item_of_mem {items : List JsValue} {parts : List JsString}
    (hparts : List.Forall₂ (fun u part => canonicalizeJson json u = .ok part) items parts) :
    ∀ part ∈ parts, ∃ u ∈ items, canonicalizeJson json u = .ok part := by
  induction hparts with
  | nil => exact List.forall_mem_nil _
  | @cons u part items parts hpart _ ih =>
    refine List.forall_mem_cons.mpr ⟨⟨u, List.mem_cons_self, hpart⟩, fun part' hpart' => ?_⟩
    obtain ⟨v, hv, hvpart⟩ := ih part' hpart'
    exact ⟨v, List.mem_cons_of_mem _ hv, hvpart⟩

theorem exists_entry_of_mem {entries : List (JsString × JsValue)}
    {pairs : List (JsString × JsString)}
    (hpairs : sortedEntries json entries = pairs.map fun p => (p.1, .ok p.2)) :
    ∀ p ∈ pairs, ∃ value, (p.1, value) ∈ entries ∧ value ≠ .undefined ∧
      canonicalizeJson json value = .ok p.2 := by
  intro p hp
  have hmem : (p.1, Except.ok p.2) ∈ sortedEntries json entries := by
    rw [hpairs]
    exact List.mem_map_of_mem hp
  obtain ⟨value, hvalue, hne, htext⟩ := mem_sortedEntries.mp hmem
  exact ⟨value, hvalue, hne, htext.symm⟩

theorem items_append_inj (hjson : json.Standard) {us vs : List JsValue} {xs ys : List JsString}
    (hus : ∀ u ∈ us, u.IsJson) (hvs : ∀ v ∈ vs, v.IsJson)
    (hread : ∀ u ∈ us, ∀ x, canonicalizeJson json u = .ok x → ReadsAs follow (texts json) x)
    (hxs : List.Forall₂ (fun u part => canonicalizeJson json u = .ok part) us xs)
    (hys : List.Forall₂ (fun u part => canonicalizeJson json u = .ok part) vs ys) {r s : JsString}
    (heq : [comma].intercalate xs ++ 0x5D :: r = [comma].intercalate ys ++ 0x5D :: s) :
    xs = ys := by
  have hxtexts : ∀ x ∈ xs, x ∈ texts json ∧ ReadsAs follow (texts json) x := by
    intro x hx
    obtain ⟨u, hu, hux⟩ := exists_item_of_mem hxs x hx
    exact ⟨⟨u, hus u hu, hux⟩, hread u hu x hux⟩
  have hytexts : ∀ y ∈ ys, y ∈ texts json := by
    intro y hy
    obtain ⟨v, hv, hvy⟩ := exists_item_of_mem hys y hy
    exact ⟨v, hvs v hv, hvy⟩
  exact (intercalate_inj (F := follow) (by decide) (by decide) (by decide)
    (texts_opening hjson (by decide)) hxtexts hytexts heq).1

theorem entryText_injective (hjson : json.Standard) : Function.Injective (entryText json) := by
  intro p q h
  obtain ⟨hkey, htext⟩ := entryText_append_inj hjson (congrArg (· ++ []) h)
  exact Prod.ext hkey (List.append_cancel_right htext)

theorem entries_append_inj (hjson : json.Standard) {es fs : List (JsString × JsValue)}
    {ps qs : List (JsString × JsString)} (hes : ∀ e ∈ es, e.2 ≠ .undefined → e.2.IsJson)
    (hfs : ∀ f ∈ fs, f.2 ≠ .undefined → f.2.IsJson)
    (hread : ∀ e ∈ es, e.2 ≠ .undefined → ∀ x, canonicalizeJson json e.2 = .ok x →
      ReadsAs follow (texts json) x)
    (hps : sortedEntries json es = ps.map fun p => (p.1, .ok p.2))
    (hqs : sortedEntries json fs = qs.map fun p => (p.1, .ok p.2)) {r s : JsString}
    (heq : [comma].intercalate (ps.map (entryText json)) ++ 0x7D :: r =
      [comma].intercalate (qs.map (entryText json)) ++ 0x7D :: s) : ps = qs := by
  have hptexts : ∀ x ∈ ps.map (entryText json),
      x ∈ entryTexts json ∧ ReadsAs follow (entryTexts json) x := by
    intro x hx
    obtain ⟨p, hp, rfl⟩ := List.mem_map.mp hx
    obtain ⟨u, hu, hne, hup⟩ := exists_entry_of_mem hps p hp
    exact ⟨⟨p, ⟨u, hes _ hu hne, hup⟩, rfl⟩,
      readsAs_entryText hjson (hread _ hu hne p.2 hup)⟩
  have hqtexts : ∀ y ∈ qs.map (entryText json), y ∈ entryTexts json := by
    intro y hy
    obtain ⟨q, hq, rfl⟩ := List.mem_map.mp hy
    obtain ⟨v, hv, hne, hvq⟩ := exists_entry_of_mem hqs q hq
    exact ⟨q, ⟨v, hfs _ hv hne, hvq⟩, rfl⟩
  have hparts := (intercalate_inj (F := follow) (by decide) (by decide) (by decide)
    (entryTexts_opening hjson (by decide)) hptexts hqtexts heq).1
  exact List.map_injective_iff.mpr (entryText_injective hjson) hparts

/-- **Reading back**: where the text of a value was written, no other text can be read. -/
theorem readsAs_text (hjson : json.Standard) {u : JsValue} (hu : u.IsJson) {a : JsString}
    (ha : canonicalizeJson json u = .ok a) : ReadsAs follow (texts json) a := by
  induction hu generalizing a with
  | null =>
    rintro b ⟨v, hv, hb⟩ r s - - heq
    have hkind := kind_eq hjson .null hv ha hb heq
    cases hv with
    | null => exact Except.ok.inj (ha.symm.trans hb)
    | _ => cases hkind
  | boolean c =>
    rintro b ⟨v, hv, hb⟩ r s - - heq
    have hkind := kind_eq hjson (.boolean c) hv ha hb heq
    cases hv with
    | boolean d =>
      obtain rfl : c = d := Kind.boolean.inj hkind
      exact Except.ok.inj (ha.symm.trans hb)
    | _ => cases hkind
  | number hfinite hdouble =>
    rintro b ⟨v, hv, hb⟩ r s hr hs heq
    have hkind := kind_eq hjson (.number hfinite hdouble) hv ha hb heq
    cases hv with
    | number hyfinite hydouble =>
      rw [canonicalizeJson_number_eq_ok] at ha hb
      rw [← ha.2, ← hb.2] at heq ⊢
      exact readsAs_number hjson hfinite hdouble _ ⟨_, hyfinite, hydouble, rfl⟩ r s hr hs heq
    | _ => cases hkind
  | string k =>
    rintro b ⟨v, hv, hb⟩ r s - - heq
    have hkind := kind_eq hjson (.string k) hv ha hb heq
    cases hv with
    | string l =>
      rw [canonicalizeJson_string, Except.ok.injEq] at ha hb
      rw [← ha, ← hb] at heq ⊢
      rw [(string_append_inj hjson heq).1]
    | _ => cases hkind
  | array hus ih =>
    rintro b ⟨v, hv, hb⟩ r s - - heq
    have hkind := kind_eq hjson (.array hus) hv ha hb heq
    cases hv with
    | array hvs =>
      obtain ⟨xs, hxs, rfl⟩ := canonicalizeJson_array_eq_ok.mp ha
      obtain ⟨ys, hys, rfl⟩ := canonicalizeJson_array_eq_ok.mp hb
      simp only [List.cons_append, List.append_assoc, List.nil_append, List.cons.injEq,
        true_and] at heq
      rw [items_append_inj hjson hus hvs (fun u hu x hx => ih u hu hx) hxs hys heq]
    | _ => cases hkind
  | object hkeys hes ih =>
    rintro b ⟨v, hv, hb⟩ r s - - heq
    have hkind := kind_eq hjson (.object hkeys hes) hv ha hb heq
    cases hv with
    | object _ hfs =>
      obtain ⟨ps, hps, rfl⟩ := canonicalizeJson_object_eq_ok.mp ha
      obtain ⟨qs, hqs, rfl⟩ := canonicalizeJson_object_eq_ok.mp hb
      simp only [List.cons_append, List.append_assoc, List.nil_append, List.cons.injEq,
        true_and] at heq
      rw [entries_append_inj hjson hes hfs (fun e he hne x hx => ih e he hne hx) hps hqs heq]
    | _ => cases hkind

/-! ## Equal texts -/

theorem forall₂_of_parts {R : JsValue → JsString → Prop} {us vs : List JsValue}
    {parts : List JsString} (hus : List.Forall₂ R us parts) (hvs : List.Forall₂ R vs parts) :
    List.Forall₂ (fun u v => ∃ part, R u part ∧ R v part) us vs := by
  induction hus generalizing vs with
  | nil =>
    cases hvs
    exact .nil
  | @cons u part us parts hu _ ih =>
    cases hvs with
    | cons hv hvs => exact .cons ⟨part, hu, hv⟩ (ih hvs)

theorem canonicalizeItems_congr {us vs : List JsValue}
    (h : List.Forall₂ (fun u v => canonicalizeJson json u = canonicalizeJson json v) us vs) :
    canonicalizeItems json us = canonicalizeItems json vs := by
  induction h with
  | nil => rfl
  | cons hu _ ih => rw [canonicalizeItems, canonicalizeItems, hu, ih]

theorem hasKey_iff (json : Stringify) {entries : List (JsString × JsValue)} {key : JsString} :
    HasKey entries key ↔ ∃ text, (key, text) ∈ sortedEntries json entries := by
  simp only [HasKey, mem_sortedEntries]
  constructor
  · rintro ⟨u, hu, hne⟩
    exact ⟨_, u, hu, hne, rfl⟩
  · rintro ⟨text, u, hu, hne, -⟩
    exact ⟨u, hu, hne⟩

theorem same_of_text (hjson : json.Standard) {u v : JsValue} (hu : u.IsJson) (hv : v.IsJson)
    {a : JsString} (ha : canonicalizeJson json u = .ok a) (hb : canonicalizeJson json v = .ok a) :
    u.Same v := by
  induction hu generalizing v a with
  | null =>
    have hkind := kind_eq hjson .null hv ha hb (s := []) rfl
    cases hv with
    | null => exact .null
    | _ => cases hkind
  | boolean c =>
    have hkind := kind_eq hjson (.boolean c) hv ha hb (s := []) rfl
    cases hv with
    | boolean d =>
      obtain rfl : c = d := Kind.boolean.inj hkind
      exact .boolean c
    | _ => cases hkind
  | number hfinite hdouble =>
    have hkind := kind_eq hjson (.number hfinite hdouble) hv ha hb (s := []) rfl
    cases hv with
    | number hyfinite hydouble =>
      rw [canonicalizeJson_number_eq_ok] at ha hb
      exact .number (hjson.number_injective _ _ hfinite hdouble hyfinite hydouble
        (ha.2.trans hb.2.symm))
    | _ => cases hkind
  | string k =>
    have hkind := kind_eq hjson (.string k) hv ha hb (s := []) rfl
    cases hv with
    | string l =>
      rw [canonicalizeJson_string, Except.ok.injEq] at ha hb
      rw [hjson.string_injective (ha.trans hb.symm)]
      exact .string l
    | _ => cases hkind
  | array hus ih =>
    have hkind := kind_eq hjson (.array hus) hv ha hb (s := []) rfl
    cases hv with
    | array hvs =>
      obtain ⟨xs, hxs, rfl⟩ := canonicalizeJson_array_eq_ok.mp ha
      obtain ⟨ys, hys, heq⟩ := canonicalizeJson_array_eq_ok.mp hb
      obtain rfl := items_append_inj hjson hus hvs
        (fun u hu x hx => readsAs_text hjson (hus u hu) hx) hxs hys (List.cons.inj heq).2.symm
      obtain ⟨hlength, hzip⟩ := List.forall₂_iff_zip.mp (forall₂_of_parts hxs hys)
      refine .array hlength fun p hp => ?_
      obtain ⟨x, hu, hv⟩ := hzip hp
      exact ih p.1 (List.of_mem_zip hp).1 (hvs p.2 (List.of_mem_zip hp).2) hu hv
    | _ => cases hkind
  | object hkeys hes ih =>
    have hkind := kind_eq hjson (.object hkeys hes) hv ha hb (s := []) rfl
    cases hv with
    | object hkeys' hfs =>
      obtain ⟨ps, hps, rfl⟩ := canonicalizeJson_object_eq_ok.mp ha
      obtain ⟨qs, hqs, heq⟩ := canonicalizeJson_object_eq_ok.mp hb
      obtain rfl := entries_append_inj hjson hes hfs
        (fun e he hne x hx => readsAs_text hjson (hes e he hne) hx) hps hqs
        (List.cons.inj heq).2.symm
      have hsorted := hps.trans hqs.symm
      refine .object (fun key => ?_) fun key u v hu hune hv hvne => ?_
      · rw [hasKey_iff json, hasKey_iff json, hsorted]
      · obtain ⟨a, ha⟩ := (hes _ hu hune).exists_text
        have humem : (key, canonicalizeJson json u) ∈ sortedEntries json _ :=
          mem_sortedEntries.mpr ⟨u, hu, hune, rfl⟩
        have hvmem : (key, canonicalizeJson json v) ∈ sortedEntries json _ :=
          mem_sortedEntries.mpr ⟨v, hv, hvne, rfl⟩
        rw [← hsorted] at hvmem
        have htext := List.inj_on_of_nodup_map (nodup_keys_sortedEntries hkeys) humem hvmem rfl
        exact ih _ hu hune (hfs _ hv hvne) ha ((Prod.mk.inj htext).2.symm.trans ha)
    | _ => cases hkind

theorem number_zero_eq (hjson : json.Standard) {x : JsNumber} (hx : x.IsZero) :
    json.number x = json.number (.finite 0) := by
  obtain rfl | rfl := hx
  · rfl
  · exact hjson.number_zero

theorem text_of_same (hjson : json.Standard) {u v : JsValue} (h : u.Same v) (hu : u.IsJson)
    (hv : v.IsJson) : canonicalizeJson json u = canonicalizeJson json v := by
  induction h with
  | null => rfl
  | boolean => rfl
  | string => rfl
  | number h =>
    cases hu with
    | number hx _ =>
      cases hv with
      | number hy _ =>
        obtain rfl | ⟨hxzero, hyzero⟩ := h
        · rfl
        · exact (canonicalizeJson_number_eq_ok.mpr ⟨hx, number_zero_eq hjson hxzero⟩).trans
            (canonicalizeJson_number_eq_ok.mpr ⟨hy, number_zero_eq hjson hyzero⟩).symm
  | array hlength _ ih =>
    cases hu with
    | array hus =>
      cases hv with
      | array hvs =>
        have hitems : List.Forall₂ _ _ _ := List.forall₂_iff_zip.mpr ⟨hlength, fun {u v} hp =>
          ih (u, v) hp (hus u (List.of_mem_zip hp).1) (hvs v (List.of_mem_zip hp).2)⟩
        rw [canonicalizeJson, canonicalizeJson, canonicalizeItems_congr hitems]
  | @object es fs hkeys hvalues ih =>
    cases hu with
    | object hes hesJson =>
      cases hv with
      | object hfs hfsJson =>
        have hsorted : sortedEntries json es = sortedEntries json fs := by
          refine sortedEntries_congr hes hfs fun e => ?_
          rw [mem_sortedEntries, mem_sortedEntries]
          constructor
          · rintro ⟨u, hu, hune, htext⟩
            obtain ⟨v, hv, hvne⟩ := (hkeys e.1).mp ⟨u, hu, hune⟩
            have heq := ih e.1 u v hu hune hv hvne (hesJson _ hu hune) (hfsJson _ hv hvne)
            exact ⟨v, hv, hvne, htext.trans heq⟩
          · rintro ⟨v, hv, hvne, htext⟩
            obtain ⟨u, hu, hune⟩ := (hkeys e.1).mpr ⟨v, hv, hvne⟩
            have heq := ih e.1 u v hu hune hv hvne (hesJson _ hu hune) (hfsJson _ hv hvne)
            exact ⟨u, hu, hune, htext.trans heq.symm⟩
        rw [canonicalizeJson, canonicalizeJson]
        exact congrArg (objectText json) hsorted

/-- **Canonical texts**: two values have one text exactly if they are equal up to undefined entries,
the order of keys and the sign of zero. -/
theorem canonicalizeJson_eq_iff (hjson : json.Standard) {u v : JsValue} (hu : u.IsJson)
    (hv : v.IsJson) : canonicalizeJson json u = canonicalizeJson json v ↔ u.Same v := by
  constructor
  · intro h
    obtain ⟨a, ha⟩ := hu.exists_text
    exact same_of_text hjson hu hv ha (h.symm.trans ha)
  · exact fun h => text_of_same hjson h hu hv

end Gateway
