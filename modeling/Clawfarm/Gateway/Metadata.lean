import Clawfarm.Gateway.Amount
import Clawfarm.Gateway.Canonical
import Clawfarm.Gateway.CompactReceipt

/-!
# Gateway.Metadata — one hash for each record of metadata

Metadata is one object with ten keys, so two records share a text exactly if they agree field by
field (`same_values_iff`).  `plainStringify` is a runtime with the tokens of `Stringify.Standard`.
-/

namespace Gateway

open Checked
open Attestation (Host)
open Delimited

variable {json : Stringify}

/-! ## Objects with the same keys -/

/-- Both entries are undefined, or neither is and they are the same. -/
def JsValue.SameEntry (u v : JsValue) : Prop :=
  (u = .undefined ↔ v = .undefined) ∧ (u ≠ .undefined → u.Same v)

theorem same_object_iff {es fs : List (JsString × JsValue)} :
    (JsValue.object es).Same (.object fs) ↔ (∀ key, HasKey es key ↔ HasKey fs key) ∧
      ∀ key u v, (key, u) ∈ es → u ≠ .undefined → (key, v) ∈ fs → v ≠ .undefined → u.Same v := by
  constructor
  · intro h
    cases h with
    | object hkeys hvalues => exact ⟨hkeys, hvalues⟩
  · rintro ⟨hkeys, hvalues⟩
    exact .object hkeys hvalues

theorem hasKey_cons {key k : JsString} {u : JsValue} {es : List (JsString × JsValue)} :
    HasKey ((k, u) :: es) key ↔ (key = k ∧ u ≠ .undefined) ∨ HasKey es key := by
  constructor
  · rintro ⟨w, hw, hne⟩
    obtain heq | hw := List.mem_cons.mp hw
    · obtain ⟨rfl, rfl⟩ := Prod.mk.inj heq
      exact .inl ⟨rfl, hne⟩
    · exact .inr ⟨w, hw, hne⟩
  · rintro (⟨rfl, hne⟩ | ⟨w, hw, hne⟩)
    · exact ⟨u, List.mem_cons_self, hne⟩
    · exact ⟨w, List.mem_cons_of_mem _ hw, hne⟩

theorem not_hasKey {key : JsString} {es : List (JsString × JsValue)} (h : key ∉ es.map Prod.fst) :
    ¬ HasKey es key := by
  rintro ⟨u, hu, -⟩
  exact h (List.mem_map_of_mem hu)

theorem same_object_cons {key : JsString} {u v : JsValue} {es fs : List (JsString × JsValue)}
    (hes : key ∉ es.map Prod.fst) (hfs : key ∉ fs.map Prod.fst) :
    (JsValue.object ((key, u) :: es)).Same (.object ((key, v) :: fs)) ↔
      u.SameEntry v ∧ (JsValue.object es).Same (.object fs) := by
  rw [same_object_iff, same_object_iff]
  simp only [hasKey_cons]
  constructor
  · rintro ⟨hkeys, hvalues⟩
    have hundefined : u ≠ .undefined ↔ v ≠ .undefined := by
      have := hkeys key
      simpa only [not_hasKey hes, not_hasKey hfs, true_and, or_false] using this
    refine ⟨⟨not_iff_not.mp hundefined, fun hne => ?_⟩, fun k => ?_, fun k a b ha hane hb hbne => ?_⟩
    · exact hvalues key u v List.mem_cons_self hne List.mem_cons_self (hundefined.mp hne)
    · by_cases hk : k = key
      · rw [hk]
        exact iff_of_false (not_hasKey hes) (not_hasKey hfs)
      · have := hkeys k
        simpa only [hk, false_and, false_or] using this
    · exact hvalues k a b (List.mem_cons_of_mem _ ha) hane (List.mem_cons_of_mem _ hb) hbne
  · rintro ⟨⟨hundefined, hsame⟩, hkeys, hvalues⟩
    refine ⟨fun k => ?_, fun k a b ha hane hb hbne => ?_⟩
    · rw [hkeys k, Ne, Ne, hundefined]
    · obtain heq | hes' := List.mem_cons.mp ha
      · obtain ⟨rfl, rfl⟩ := Prod.mk.inj heq
        obtain heq' | hfs' := List.mem_cons.mp hb
        · rw [(Prod.mk.inj heq').2]
          exact hsame hane
        · exact absurd (List.mem_map_of_mem hfs') hfs
      · obtain heq' | hfs' := List.mem_cons.mp hb
        · obtain ⟨rfl, -⟩ := Prod.mk.inj heq'
          exact absurd (List.mem_map_of_mem hes') hes
        · exact hvalues k a b hes' hane hfs' hbne

/-- Objects with the same keys are compared value by value. -/
theorem same_object_zip {keys : List JsString} (hkeys : keys.Nodup) {us vs : List JsValue}
    (hus : us.length = keys.length) (hvs : vs.length = keys.length) :
    (JsValue.object (keys.zip us)).Same (.object (keys.zip vs)) ↔
      List.Forall₂ JsValue.SameEntry us vs := by
  induction keys generalizing us vs with
  | nil =>
    obtain rfl := List.length_eq_zero_iff.mp hus
    obtain rfl := List.length_eq_zero_iff.mp hvs
    exact iff_of_true (.object (fun _ => .rfl) fun _ _ _ h => absurd h List.not_mem_nil) .nil
  | cons key keys ih =>
    obtain ⟨u, us, rfl⟩ := List.exists_cons_of_length_eq_add_one hus
    obtain ⟨v, vs, rfl⟩ := List.exists_cons_of_length_eq_add_one hvs
    obtain ⟨hkey, hkeys⟩ := List.nodup_cons.mp hkeys
    have hnotMem : ∀ ws : List JsValue, key ∉ (keys.zip ws).map Prod.fst := by
      intro ws h
      obtain ⟨e, he, rfl⟩ := List.mem_map.mp h
      exact hkey (List.of_mem_zip he).1
    rw [List.zip_cons_cons, List.zip_cons_cons, same_object_cons (hnotMem us) (hnotMem vs),
      ih hkeys (Nat.succ.inj hus) (Nat.succ.inj hvs), List.forall₂_cons]

theorem sameEntry_string {s t : JsString} :
    (JsValue.string s).SameEntry (.string t) ↔ s = t := by
  constructor
  · rintro ⟨-, h⟩
    cases h (by simp)
    rfl
  · rintro rfl
    exact ⟨Iff.rfl, fun _ => .string s⟩

theorem sameEntry_optional_string {o p : Option JsString} :
    (optional .string o).SameEntry (optional .string p) ↔ o = p := by
  cases o with
  | none => cases p <;> simp [JsValue.SameEntry, optional]
  | some s =>
    cases p with
    | none => simp [JsValue.SameEntry, optional]
    | some t =>
      rw [Option.some.injEq]
      exact sameEntry_string

theorem sameEntry_optional_number {o p : Option JsNumber} :
    (optional .number o).SameEntry (optional .number p) ↔ Option.Rel JsNumber.Same o p := by
  cases o with
  | none => cases p <;> simp [JsValue.SameEntry, optional]
  | some x =>
    cases p with
    | none => simp [JsValue.SameEntry, optional]
    | some y =>
      rw [Option.rel_some_some]
      constructor
      · rintro ⟨-, h⟩
        cases h (by simp [optional]) with
        | number h => exact h
      · intro h
        exact ⟨by simp [optional], fun _ => .number h⟩

/-! ## Metadata -/

def metadataKeys : List JsString :=
  [js "schema", js "proof_id", js "provider_code", js "proof_mode", js "attester_type",
    js "usage_basis", js "model", js "provider_request_id", js "issued_at", js "expires_at"]

def CompactReceiptMetadata.values (metadata : CompactReceiptMetadata) : List JsValue :=
  [.string metadata.schema, .string metadata.proofId, .string metadata.providerCode,
    .string metadata.proofMode, .string metadata.attesterType, .string metadata.usageBasis,
    .string metadata.model, optional .string metadata.providerRequestId,
    optional .number metadata.issuedAt, optional .number metadata.expiresAt]

/-- The times of the metadata are finite numbers. -/
def CompactReceiptMetadataInput.FiniteTimes (input : CompactReceiptMetadataInput) : Prop :=
  (∀ t ∈ input.issuedAt, t.IsFinite ∧ t.IsDouble) ∧ ∀ t ∈ input.expiresAt, t.IsFinite ∧ t.IsDouble

/-- The fields are equal, a time up to the sign of zero. -/
structure CompactReceiptMetadata.Same (x y : CompactReceiptMetadata) : Prop where
  schema : x.schema = y.schema
  proofId : x.proofId = y.proofId
  providerCode : x.providerCode = y.providerCode
  proofMode : x.proofMode = y.proofMode
  attesterType : x.attesterType = y.attesterType
  usageBasis : x.usageBasis = y.usageBasis
  model : x.model = y.model
  providerRequestId : x.providerRequestId = y.providerRequestId
  issuedAt : Option.Rel JsNumber.Same x.issuedAt y.issuedAt
  expiresAt : Option.Rel JsNumber.Same x.expiresAt y.expiresAt

/-- The inputs agree on every field, an absent one standing for its default where it has one. -/
structure CompactReceiptMetadataInput.SameAfterDefaults (x y : CompactReceiptMetadataInput) :
    Prop where
  schema : x.schema.getD (js "clawfarm-receipt-metadata/v2") =
    y.schema.getD (js "clawfarm-receipt-metadata/v2")
  proofId : x.proofId = y.proofId
  providerCode : x.providerCode = y.providerCode
  proofMode : x.proofMode.getD (js "sig_log") = y.proofMode.getD (js "sig_log")
  attesterType : x.attesterType.getD (js "gateway") = y.attesterType.getD (js "gateway")
  usageBasis : x.usageBasis.getD (js "provider_reported") =
    y.usageBasis.getD (js "provider_reported")
  model : x.model = y.model
  providerRequestId : x.providerRequestId = y.providerRequestId
  issuedAt : Option.Rel JsNumber.Same x.issuedAt y.issuedAt
  expiresAt : Option.Rel JsNumber.Same x.expiresAt y.expiresAt

/-- The defaults of the fields are those that building fills in. -/
theorem built_same_iff {x y : CompactReceiptMetadataInput} :
    (buildCompactReceiptMetadata x).Same (buildCompactReceiptMetadata y) ↔
      x.SameAfterDefaults y := by
  constructor
  · rintro ⟨h₁, h₂, h₃, h₄, h₅, h₆, h₇, h₈, h₉, h₁₀⟩
    exact ⟨h₁, h₂, h₃, h₄, h₅, h₆, h₇, h₈, h₉, h₁₀⟩
  · rintro ⟨h₁, h₂, h₃, h₄, h₅, h₆, h₇, h₈, h₉, h₁₀⟩
    exact ⟨h₁, h₂, h₃, h₄, h₅, h₆, h₇, h₈, h₉, h₁₀⟩

theorem metadataKeys_nodup : metadataKeys.Nodup := by decide

theorem same_values_iff {x y : CompactReceiptMetadata} :
    (JsValue.object (metadataKeys.zip x.values)).Same (.object (metadataKeys.zip y.values)) ↔
      x.Same y := by
  rw [same_object_zip metadataKeys_nodup rfl rfl, CompactReceiptMetadata.values,
    CompactReceiptMetadata.values]
  simp only [List.forall₂_cons, sameEntry_string, sameEntry_optional_string,
    sameEntry_optional_number, List.Forall₂.nil, and_true]
  constructor
  · rintro ⟨h₁, h₂, h₃, h₄, h₅, h₆, h₇, h₈, h₉, h₁₀⟩
    exact ⟨h₁, h₂, h₃, h₄, h₅, h₆, h₇, h₈, h₉, h₁₀⟩
  · rintro ⟨h₁, h₂, h₃, h₄, h₅, h₆, h₇, h₈, h₉, h₁₀⟩
    exact ⟨h₁, h₂, h₃, h₄, h₅, h₆, h₇, h₈, h₉, h₁₀⟩

theorem isJson_optional_number {o : Option JsNumber} (h : ∀ t ∈ o, t.IsFinite ∧ t.IsDouble) :
    optional .number o ≠ .undefined → (optional JsValue.number o).IsJson := by
  intro hne
  cases o with
  | none => exact absurd rfl hne
  | some t => exact .number (h t rfl).1 (h t rfl).2

theorem isJson_values {input : CompactReceiptMetadataInput} (h : input.FiniteTimes) :
    (JsValue.object (metadataKeys.zip (buildCompactReceiptMetadata input).values)).IsJson := by
  refine .object ?_ fun e he => ?_
  · exact metadataKeys_nodup
  · have hid : optional .string input.providerRequestId ≠ .undefined →
        (optional JsValue.string input.providerRequestId).IsJson := by
      intro hne
      cases hid : input.providerRequestId with
      | none => exact absurd (by rw [hid]; rfl) hne
      | some s => exact .string s
    have hvalue := (List.of_mem_zip he).2
    generalize e.2 = v at hvalue
    revert v
    simp only [CompactReceiptMetadata.values, List.forall_mem_cons, JsValue.IsJson.string,
      implies_true, true_and, List.not_mem_nil, false_imp_iff, and_true]
    exact ⟨hid, isJson_optional_number h.1, isJson_optional_number h.2⟩

theorem buildCompactReceiptMetadata_toInput (input : CompactReceiptMetadataInput) :
    buildCompactReceiptMetadata (buildCompactReceiptMetadata input).toInput =
      buildCompactReceiptMetadata input := rfl

theorem hashReceiptMetadata_toInput (host : Host) (input : CompactReceiptMetadataInput) :
    hashReceiptMetadata host json (buildCompactReceiptMetadata input).toInput =
      hashReceiptMetadata host json input := rfl

theorem buildCompactSubmitArgs_metadataHash {host : Host} {TBn : Type}
    {input : CompactSubmitArgsInput} {toBn : ℤ → TBn} {out : CompactSubmitArgs TBn}
    (h : buildCompactSubmitArgs host json input toBn = .ok out) :
    hashReceiptMetadata host json input.metadata = .ok out.metadataHash := by
  simp only [buildCompactSubmitArgs, bind_eq_ok, pure_eq_ok, hashReceiptMetadata_toInput] at h
  obtain ⟨-, -, -, -, -, -, hash, hhash, -, -, rfl⟩ := h
  exact hhash

/-! ## A runtime -/

def escapeUnit (u : UInt16) : JsString := if u = quote ∨ u = backslash then [backslash, u] else [u]

def plainString (s : JsString) : JsString := quote :: (s.flatMap escapeUnit ++ [quote])

def decimalDigits (n : ℕ) : List (Fin 10) :=
  (if n = 0 then [0] else (Nat.digits 10 n).reverse).map fun d => ⟨d % 10, Nat.mod_lt d (by decide)⟩

def plainInt (n : ℤ) : JsString :=
  if n < 0 then 0x2D :: digits (decimalDigits n.natAbs) else digits (decimalDigits n.natAbs)

/-- An integer as its digits; behind the numerator of a fraction stand an `e` and the denominator. -/
def plainRat (q : ℚ) : JsString :=
  plainInt q.num ++ if q.den = 1 then [] else 0x65 :: digits (decimalDigits q.den)

/-- `JSON.stringify` on strings without control characters and on integers. -/
def plainStringify : Stringify where
  string := plainString
  number
    | .finite q => plainRat q
    | .negativeZero => plainRat 0
    | _ => js "null"

theorem escaped_flatMap (s : JsString) :
    Delimited.Escaped quote backslash (s.flatMap escapeUnit) := by
  induction s with
  | nil => exact .nil
  | cons u s ih =>
    rw [List.flatMap_cons, escapeUnit]
    split_ifs with h
    · exact .escaped ih
    · exact .plain (fun hu => h (.inl hu)) (fun hu => h (.inr hu)) ih

theorem escapeUnit_append_inj {u v : UInt16} {r s : JsString}
    (h : escapeUnit u ++ r = escapeUnit v ++ s) : u = v ∧ r = s := by
  rw [escapeUnit, escapeUnit] at h
  split_ifs at h with hu hv hv
  · simpa using h
  · obtain rfl : backslash = v := (List.cons.inj h).1
    exact absurd (.inr rfl) hv
  · obtain rfl : u = backslash := (List.cons.inj h).1
    exact absurd (.inr rfl) hu
  · simpa using h

theorem flatMap_escapeUnit_injective :
    Function.Injective fun s : JsString => s.flatMap escapeUnit := by
  have hne : ∀ u, escapeUnit u ≠ [] := by
    intro u
    rw [escapeUnit]
    split_ifs <;> exact List.cons_ne_nil _ _
  intro s t h
  induction s generalizing t with
  | nil =>
    cases t with
    | nil => rfl
    | cons v t => exact absurd (List.append_eq_nil_iff.mp h.symm).1 (hne v)
  | cons u s ih =>
    cases t with
    | nil => exact absurd (List.append_eq_nil_iff.mp h).1 (hne u)
    | cons v t =>
      obtain ⟨rfl, htail⟩ := escapeUnit_append_inj h
      rw [ih htail]

theorem decimalDigits_ne_nil (n : ℕ) : decimalDigits n ≠ [] := by
  rw [decimalDigits, Ne, List.map_eq_nil_iff]
  by_cases hn : n = 0
  · rw [if_pos hn]
    exact List.cons_ne_nil 0 []
  · rw [if_neg hn, List.reverse_eq_nil_iff, Nat.digits_eq_nil_iff_eq_zero]
    exact hn

theorem ofDigits_decimalDigits (n : ℕ) :
    Nat.ofDigits 10 ((decimalDigits n).map Fin.val).reverse = n := by
  have hval : (decimalDigits n).map Fin.val = if n = 0 then [0] else (Nat.digits 10 n).reverse := by
    rw [decimalDigits, List.map_map]
    refine (List.map_congr_left fun d hd => Nat.mod_eq_of_lt ?_).trans (List.map_id _)
    split_ifs at hd
    · rw [List.mem_singleton.mp hd]
      decide
    · exact Nat.digits_lt_base (by decide) (List.mem_reverse.mp hd)
  rw [hval]
  split_ifs with hn
  · rw [hn]
    rfl
  · rw [List.reverse_reverse, Nat.ofDigits_digits]

theorem digits_decimalDigits_injective : Function.Injective fun n => digits (decimalDigits n) := by
  intro m n h
  have hvalue := congrArg (digitsValue 10) h
  simp only [digitsValue_digits (decimalDigits_ne_nil _), ofDigits_decimalDigits,
    Option.some.injEq] at hvalue
  exact hvalue

theorem mem_plainInt {n : ℤ} {c : UInt16} (h : c ∈ plainInt n) : c = 0x2D ∨ c ∈ js "0123456789" := by
  rw [plainInt] at h
  split_ifs at h
  · obtain rfl | h := List.mem_cons.mp h
    · exact .inl rfl
    · exact .inr (forall_mem_digitUnits.mpr ⟨_, rfl⟩ c h)
  · exact .inr (forall_mem_digitUnits.mpr ⟨_, rfl⟩ c h)

theorem minus_ne_digits (t : JsString) (ds : List (Fin 10)) : 0x2D :: t ≠ digits ds := by
  intro h
  have hminus : (0x2D : UInt16) ∉ digits ds := notMem_digits (by decide) ds
  exact hminus (h ▸ List.mem_cons_self)

theorem plainInt_injective : Function.Injective plainInt := by
  intro m n h
  rw [plainInt, plainInt] at h
  split_ifs at h with hm hn hn
  · have := digits_decimalDigits_injective (List.cons.inj h).2
    omega
  · exact absurd h (minus_ne_digits _ _)
  · exact absurd h.symm (minus_ne_digits _ _)
  · have := digits_decimalDigits_injective h
    omega

theorem readsAs_plainInt (n : ℤ) : ReadsAs {0x65} (Set.range plainInt) (plainInt n) := by
  have hdisjoint : ∀ c, c = 0x2D ∨ c ∈ js "0123456789" → c ≠ 0x65 := by
    rintro c (rfl | hc)
    · decide
    · rintro rfl
      exact absurd hc (by decide)
  refine readsAs_of_alphabet (A := {c | c = 0x2D ∨ c ∈ js "0123456789"}) hdisjoint ?_
    fun c hc => mem_plainInt hc
  rintro - ⟨m, rfl⟩ c hc
  exact mem_plainInt hc

theorem plainRat_injective : Function.Injective plainRat := by
  intro p q h
  have hfollows : ∀ d : ℕ, Follows {0x65}
      (if d = 1 then [] else 0x65 :: digits (decimalDigits d)) := by
    intro d
    split_ifs
    · exact follows_nil
    · exact follows_cons (Set.mem_singleton _) _
  obtain ⟨hnum, hden⟩ := (readsAs_plainInt p.num).append_inj ⟨q.num, rfl⟩ (hfollows p.den)
    (hfollows q.den) h
  refine Rat.ext (plainInt_injective hnum) ?_
  split_ifs at hden with hp hq hq
  · rw [hp, hq]
  · exact digits_decimalDigits_injective (List.cons.inj hden).2

theorem plainRat_mem {q : ℚ} : ∀ c ∈ plainRat q, c ∈ js "0123456789+-.e" := by
  have hdigit : ∀ c ∈ js "0123456789", c ∈ js "0123456789+-.e" := fun c hc =>
    List.mem_append_left (js "+-.e") hc
  intro c hc
  obtain hc | hc := List.mem_append.mp hc
  · obtain rfl | hc := mem_plainInt hc
    · decide
    · exact hdigit c hc
  · split_ifs at hc
    · cases hc
    · obtain rfl | hc := List.mem_cons.mp hc
      · decide
      · exact hdigit c (forall_mem_digitUnits.mpr ⟨_, rfl⟩ c hc)

theorem plainRat_ne_nil (q : ℚ) : plainRat q ≠ [] := by
  refine List.append_ne_nil_of_left_ne_nil ?_ _
  rw [plainInt]
  split_ifs
  · exact List.cons_ne_nil _ _
  · exact mt digits_eq_nil.mp (decimalDigits_ne_nil _)

theorem plainStringify_standard : plainStringify.Standard where
  string_shape s := ⟨_, escaped_flatMap s, rfl⟩
  string_injective s t h := flatMap_escapeUnit_injective (List.append_cancel_right (List.cons.inj h).2)
  number_ne_nil x hx _ := by
    cases x with
    | finite q => exact plainRat_ne_nil q
    | negativeZero => exact plainRat_ne_nil 0
    | _ => cases hx
  number_shape x hx _ := by
    cases x with
    | finite q => exact plainRat_mem
    | negativeZero => exact plainRat_mem
    | _ => cases hx
  number_zero := rfl
  number_injective x y hx _ hy _ h := by
    cases x with
    | finite p =>
      cases y with
      | finite q => exact .inl (congrArg JsNumber.finite (plainRat_injective h))
      | negativeZero =>
        exact .inr ⟨.inl (congrArg JsNumber.finite (plainRat_injective h)), .inr rfl⟩
      | _ => cases hy
    | negativeZero =>
      cases y with
      | finite q =>
        exact .inr ⟨.inr rfl, .inl (congrArg JsNumber.finite (plainRat_injective h).symm)⟩
      | negativeZero => exact .inl rfl
      | _ => cases hy
    | _ => cases hx

/-- Metadata with the fields that have no default and a time. -/
def sampleInput (model : JsString) : CompactReceiptMetadataInput where
  schema := none
  proofId := js "r"
  providerCode := js "u"
  proofMode := none
  attesterType := none
  usageBasis := none
  model := model
  providerRequestId := some (js "request-1")
  issuedAt := some (.finite 1700000000)
  expiresAt := none

theorem sampleInput_finiteTimes (model : JsString) : (sampleInput model).FiniteTimes := by
  refine ⟨fun t ht => ?_, fun t ht => by cases ht⟩
  rw [← Option.some.inj ht]
  exact ⟨trivial, 1700000000, 0, by norm_num, by omega, by omega, by norm_num⟩

/-! ## Canonical metadata -/

/-- **Canonical metadata**: two values have one text exactly if they are equal up to undefined
entries, the order of keys and the sign of zero.  So two metadata inputs with finite times have one
text exactly if they agree on every field after the defaults, building metadata twice changes
nothing and the metadata hash of a submission is the hash of the input. -/
theorem canonical_metadata (json : Stringify) (hjson : json.Standard) :
    (∀ u v : JsValue, u.IsJson → v.IsJson → ∃ a b, canonicalizeJson json u = .ok a ∧
      canonicalizeJson json v = .ok b ∧ (a = b ↔ u.Same v)) ∧
    (∀ x y : CompactReceiptMetadataInput, x.FiniteTimes → y.FiniteTimes → ∃ a b,
      stableMetadataJson json (buildCompactReceiptMetadata x) = .ok a ∧
      stableMetadataJson json (buildCompactReceiptMetadata y) = .ok b ∧
      (a = b ↔ x.SameAfterDefaults y)) ∧
    (∀ x : CompactReceiptMetadataInput,
      (∃ t ∈ x.issuedAt, ¬ t.IsFinite) ∨ (∃ t ∈ x.expiresAt, ¬ t.IsFinite) →
        ∃ e, stableMetadataJson json (buildCompactReceiptMetadata x) = .error e) ∧
    (∀ x : CompactReceiptMetadataInput,
      buildCompactReceiptMetadata (buildCompactReceiptMetadata x).toInput =
        buildCompactReceiptMetadata x) ∧
    (∀ (host : Host) (x : CompactReceiptMetadataInput),
      hashReceiptMetadata host json (buildCompactReceiptMetadata x).toInput =
        hashReceiptMetadata host json x) ∧
    ∀ (host : Host) (TBn : Type) (input : CompactSubmitArgsInput) (toBn : ℤ → TBn)
      (out : CompactSubmitArgs TBn), buildCompactSubmitArgs host json input toBn = .ok out →
        hashReceiptMetadata host json input.metadata = .ok out.metadataHash := by
  have hvalues : ∀ u v : JsValue, u.IsJson → v.IsJson → ∃ a b, canonicalizeJson json u = .ok a ∧
      canonicalizeJson json v = .ok b ∧ (a = b ↔ u.Same v) := by
    intro u v hu hv
    obtain ⟨a, ha⟩ := hu.exists_text
    obtain ⟨b, hb⟩ := hv.exists_text
    refine ⟨a, b, ha, hb, ?_⟩
    rw [← canonicalizeJson_eq_iff hjson hu hv, ha, hb, Except.ok.injEq]
  refine ⟨hvalues, fun x y hx hy => ?_, fun x hx => ?_, buildCompactReceiptMetadata_toInput,
    hashReceiptMetadata_toInput, fun host TBn input toBn out => buildCompactSubmitArgs_metadataHash⟩
  · obtain ⟨a, b, ha, hb, hab⟩ := hvalues _ _ (isJson_values hx) (isJson_values hy)
    exact ⟨a, b, ha, hb, hab.trans (same_values_iff.trans built_same_iff)⟩
  · rw [throws_iff, stableMetadataJson_succeeds_iff, not_and_or]
    rw [not_forall, not_forall]
    simp only [Classical.not_imp]
    exact hx

/-- Metadata has another text than metadata with another model. -/
theorem canonical_metadata_model : ∃ a b,
    stableMetadataJson plainStringify (buildCompactReceiptMetadata (sampleInput (js "m"))) = .ok a ∧
    stableMetadataJson plainStringify (buildCompactReceiptMetadata (sampleInput (js "n"))) = .ok b ∧
      a ≠ b := by
  obtain ⟨a, b, ha, hb, hab⟩ := (canonical_metadata plainStringify plainStringify_standard).2.1 _ _
    (sampleInput_finiteTimes (js "m")) (sampleInput_finiteTimes (js "n"))
  refine ⟨a, b, ha, hb, fun heq => ?_⟩
  have hmodel : js "m" = js "n" := (hab.mp heq).model
  exact absurd hmodel (by decide)

end Gateway
