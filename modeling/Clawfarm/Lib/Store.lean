import Mathlib.Algebra.BigOperators.Group.Finset.Basic
import Mathlib.Algebra.Order.BigOperators.Group.Finset
import Mathlib.Algebra.Order.Group.Nat
import Mathlib.Tactic.Abel

/-!
# Store — finite maps with a total

`Store K V` is a partial function together with the finite set of its keys, so the sum of a
quantity over all stored values is an ordinary `Finset` sum.  `sum_set` and `sum_erase` say how a
write and a removal change such a sum: by the new value minus the one it replaces.  Both are
stated with the replaced value on the left, so they hold in any additive commutative monoid and
`omega` can use them over `ℕ` and `ℤ`.
-/

/-- A finite map: a lookup function and the set of keys at which it is defined. -/
structure Store (K V : Type*) where
  get : K → Option V
  dom : Finset K
  mem_dom : ∀ k, k ∈ dom ↔ (get k).isSome

namespace Store

variable {K V M : Type*}

theorem ext_get {m m' : Store K V} (h : ∀ k, m.get k = m'.get k) : m = m' := by
  have hget : m.get = m'.get := funext h
  have hdom : m.dom = m'.dom := by
    ext k
    rw [m.mem_dom, m'.mem_dom, h]
  cases m
  cases m'
  simp only at hget hdom
  subst hget hdom
  rfl

theorem mem_dom_of_get {m : Store K V} {k : K} {v : V} (h : m.get k = some v) : k ∈ m.dom := by
  rw [m.mem_dom, h]
  rfl

/-- A property of all entries can be checked entry by entry. -/
instance decidableForall {m : Store K V} {P : K → V → Prop} [∀ k v, Decidable (P k v)] :
    Decidable (∀ k v, m.get k = some v → P k v) :=
  decidable_of_iff (∀ k ∈ m.dom, ∀ v ∈ m.get k, P k v)
    ⟨fun h k v hk => h k (mem_dom_of_get hk) v hk, fun h k _ v hv => h k v hv⟩

theorem get_eq_none_of_not_mem {m : Store K V} {k : K} (h : k ∉ m.dom) : m.get k = none := by
  rwa [m.mem_dom, Bool.not_eq_true, Option.isSome_eq_false_iff, Option.isNone_iff_eq_none] at h

/-! ## Operations -/

def empty : Store K V := ⟨fun _ => none, ∅, by simp⟩

@[simp] theorem get_empty (k : K) : (empty : Store K V).get k = none := rfl

section Update

variable [DecidableEq K]

/-- Write `v` at `k`. -/
def set (m : Store K V) (k : K) (v : V) : Store K V where
  get k' := if k' = k then some v else m.get k'
  dom := insert k m.dom
  mem_dom k' := by
    rw [Finset.mem_insert, m.mem_dom]
    by_cases h : k' = k <;> simp [h]

/-- Remove the value at `k`. -/
def erase (m : Store K V) (k : K) : Store K V where
  get k' := if k' = k then none else m.get k'
  dom := m.dom.erase k
  mem_dom k' := by
    rw [Finset.mem_erase, m.mem_dom]
    by_cases h : k' = k <;> simp [h]

theorem get_set (m : Store K V) (k k' : K) (v : V) :
    (m.set k v).get k' = if k' = k then some v else m.get k' := rfl

@[simp] theorem get_set_self (m : Store K V) (k : K) (v : V) : (m.set k v).get k = some v := by
  simp [get_set]

theorem get_set_of_ne {m : Store K V} {k k' : K} (h : k' ≠ k) (v : V) :
    (m.set k v).get k' = m.get k' := by
  simp [get_set, h]

theorem get_erase (m : Store K V) (k k' : K) :
    (m.erase k).get k' = if k' = k then none else m.get k' := rfl

@[simp] theorem get_erase_self (m : Store K V) (k : K) : (m.erase k).get k = none := by
  simp [get_erase]

theorem get_erase_of_ne {m : Store K V} {k k' : K} (h : k' ≠ k) :
    (m.erase k).get k' = m.get k' := by
  simp [get_erase, h]

/-- Writing back the value that is there changes nothing. -/
theorem set_get_self {m : Store K V} {k : K} {v : V} (h : m.get k = some v) : m.set k v = m := by
  refine ext_get fun k' => ?_
  rw [get_set]
  split_ifs with hk
  · rw [hk, h]
  · rfl

theorem set_set (m : Store K V) (k : K) (v w : V) : (m.set k v).set k w = m.set k w := by
  refine ext_get fun k' => ?_
  simp only [get_set]
  split_ifs <;> rfl

theorem set_comm {k l : K} (h : k ≠ l) (m : Store K V) (v w : V) :
    (m.set k v).set l w = (m.set l w).set k v := by
  refine ext_get fun k' => ?_
  simp only [get_set]
  split_ifs with h1 h2 <;> try rfl
  exact absurd (h2.symm.trans h1) h

/-- The stored values seen through `f`. -/
def map {W : Type*} (f : V → W) (m : Store K V) : Store K W where
  get k := (m.get k).map f
  dom := m.dom
  mem_dom k := by rw [m.mem_dom, Option.isSome_map]

omit [DecidableEq K] in
@[simp] theorem get_map {W : Type*} (f : V → W) (m : Store K V) (k : K) :
    (m.map f).get k = (m.get k).map f := rfl

theorem map_set {W : Type*} (f : V → W) (m : Store K V) (k : K) (v : V) :
    (m.set k v).map f = (m.map f).set k (f v) := by
  refine ext_get fun k' => ?_
  rw [get_map, get_set, get_set, get_map]
  split_ifs <;> rfl

theorem map_erase {W : Type*} (f : V → W) (m : Store K V) (k : K) :
    (m.erase k).map f = (m.map f).erase k := by
  refine ext_get fun k' => ?_
  rw [get_map, get_erase, get_erase, get_map]
  split_ifs <;> rfl

/-- What a lookup after a write can be: the value written, or an old value at another key. -/
theorem get_set_cases {m : Store K V} {k k' : K} {v w : V} (h : (m.set k v).get k' = some w) :
    (k' = k ∧ w = v) ∨ (k' ≠ k ∧ m.get k' = some w) := by
  rw [get_set] at h
  split_ifs at h with hk
  · exact Or.inl ⟨hk, (Option.some.inj h).symm⟩
  · exact Or.inr ⟨hk, h⟩

theorem get_erase_some {m : Store K V} {k k' : K} {w : V} (h : (m.erase k).get k' = some w) :
    k' ≠ k ∧ m.get k' = some w := by
  rw [get_erase] at h
  split_ifs at h with hk
  exact ⟨hk, h⟩

/-- A property of all stored values survives a write of a value that has it; `hP` carries it
along for the others. -/
theorem forall_set {m : Store K V} {P P' : K → V → Prop} {k : K} {w : V}
    (hm : ∀ k' v, m.get k' = some v → P k' v) (hP : ∀ k' v, P k' v → P' k' v) (hw : P' k w) :
    ∀ k' v, (m.set k w).get k' = some v → P' k' v := by
  intro k' v hv
  rcases get_set_cases hv with ⟨rfl, rfl⟩ | ⟨-, hv⟩
  · exact hw
  · exact hP k' v (hm k' v hv)

end Update

/-! ## Stores that only grow -/

section Grows

variable {R : V → V → Prop}

/-- Every value of `m` is still stored in `m'`, up to `R`. -/
def Grows (R : V → V → Prop) (m m' : Store K V) : Prop :=
  ∀ k v, m.get k = some v → ∃ v', m'.get k = some v' ∧ R v v'

theorem Grows.refl (hrefl : ∀ v, R v v) (m : Store K V) : Grows R m m :=
  fun _ v h => ⟨v, h, hrefl v⟩

theorem Grows.trans (htrans : ∀ u v w, R u v → R v w → R u w) {m m' m'' : Store K V}
    (h : Grows R m m') (h' : Grows R m' m'') : Grows R m m'' := by
  intro k v hv
  obtain ⟨v', hv', hr⟩ := h k v hv
  obtain ⟨v'', hv'', hr'⟩ := h' k v' hv'
  exact ⟨v'', hv'', htrans _ _ _ hr hr'⟩

variable [DecidableEq K]

/-- A write grows a store if it keeps `R` for the value it replaces. -/
theorem grows_set (hrefl : ∀ v, R v v) {m : Store K V} {k : K} {w : V}
    (hw : ∀ v, m.get k = some v → R v w) : Grows R m (m.set k w) := by
  intro k' v h
  by_cases hk : k' = k
  · exact ⟨w, by rw [hk, get_set_self], hw v (hk ▸ h)⟩
  · exact ⟨v, (get_set_of_ne hk w).trans h, hrefl v⟩

theorem grows_update (hrefl : ∀ v, R v v) {m : Store K V} {k : K} {v w : V}
    (h : m.get k = some v) (hw : R v w) : Grows R m (m.set k w) := by
  refine grows_set hrefl fun v' hv' => ?_
  rw [h] at hv'
  exact Option.some.inj hv' ▸ hw

theorem grows_insert (hrefl : ∀ v, R v v) {m : Store K V} {k : K} (h : m.get k = none) (w : V) :
    Grows R m (m.set k w) := by
  refine grows_set hrefl fun v hv => ?_
  rw [h] at hv
  cases hv

end Grows

section NoneNew

variable {P : V → Prop}

/-- Every value of `m'` that satisfies `P` has one at its key in `m`. -/
def NoneNew (P : V → Prop) (m m' : Store K V) : Prop :=
  ∀ k v', m'.get k = some v' → P v' → ∃ v, m.get k = some v ∧ P v

theorem NoneNew.refl (m : Store K V) : NoneNew P m m := fun _ v h hP => ⟨v, h, hP⟩

theorem NoneNew.trans {m m' m'' : Store K V} (h : NoneNew P m m') (h' : NoneNew P m' m'') :
    NoneNew P m m'' := by
  intro k v'' hv hP
  obtain ⟨v', hv', hP'⟩ := h' k v'' hv hP
  exact h k v' hv' hP'

theorem noneNew_set [DecidableEq K] {m : Store K V} {k : K} {w : V}
    (h : P w → ∃ v, m.get k = some v ∧ P v) : NoneNew P m (m.set k w) := by
  intro k' v' hv hP
  rcases get_set_cases hv with ⟨rfl, rfl⟩ | ⟨-, hv⟩
  · exact h hP
  · exact ⟨v', hv, hP⟩

end NoneNew

/-! ## Sums over the stored values -/

section Sum

variable [AddCommMonoid M]

/-- The contribution of `k` to a sum: `0` if nothing is stored there. -/
def term (m : Store K V) (f : K → V → M) (k : K) : M := ((m.get k).map (f k)).getD 0

theorem term_some {m : Store K V} {k : K} {v : V} (h : m.get k = some v) (f : K → V → M) :
    m.term f k = f k v := by
  simp [term, h]

theorem term_none {m : Store K V} {k : K} (h : m.get k = none) (f : K → V → M) :
    m.term f k = 0 := by
  simp [term, h]

/-- The sum of `f` over all stored values. -/
def sum (m : Store K V) (f : K → V → M) : M := ∑ k ∈ m.dom, m.term f k

@[simp] theorem sum_empty (f : K → V → M) : (empty : Store K V).sum f = 0 := rfl

/-- Any set of keys that covers the domain gives the same sum. -/
theorem sum_eq_of_dom_subset {m : Store K V} {T : Finset K} (h : m.dom ⊆ T) (f : K → V → M) :
    m.sum f = ∑ k ∈ T, m.term f k := by
  refine Finset.sum_subset h fun k _ hk => ?_
  refine term_none ?_ f
  rw [m.mem_dom] at hk
  simpa using hk

theorem sum_congr {m : Store K V} {f g : K → V → M}
    (h : ∀ k v, m.get k = some v → f k v = g k v) : m.sum f = m.sum g := by
  refine Finset.sum_congr rfl fun k hk => ?_
  rw [m.mem_dom] at hk
  obtain ⟨v, hv⟩ := Option.isSome_iff_exists.mp hk
  rw [term_some hv, term_some hv, h k v hv]

theorem sum_eq_zero {m : Store K V} {f : K → V → M}
    (h : ∀ k v, m.get k = some v → f k v = 0) : m.sum f = 0 := by
  refine Finset.sum_eq_zero fun k hk => ?_
  rw [m.mem_dom] at hk
  obtain ⟨v, hv⟩ := Option.isSome_iff_exists.mp hk
  rw [term_some hv, h k v hv]

@[simp] theorem sum_zero (m : Store K V) : (m.sum fun _ _ => (0 : M)) = 0 :=
  sum_eq_zero fun _ _ _ => rfl

theorem sum_add (m : Store K V) (f g : K → V → M) :
    m.sum (fun k v => f k v + g k v) = m.sum f + m.sum g := by
  unfold sum
  rw [← Finset.sum_add_distrib]
  refine Finset.sum_congr rfl fun k _ => ?_
  cases h : m.get k <;> simp [term, h]

/-- Sums commute with homomorphisms. -/
theorem hom_sum {N : Type*} [AddCommMonoid N] (φ : M →+ N) (m : Store K V) (f : K → V → M) :
    φ (m.sum f) = m.sum fun k v => φ (f k v) := by
  unfold sum
  rw [map_sum]
  refine Finset.sum_congr rfl fun k _ => ?_
  cases h : m.get k <;> simp [term, h]

variable [DecidableEq K]

theorem term_set_self (m : Store K V) (k : K) (v : V) (f : K → V → M) :
    (m.set k v).term f k = f k v := term_some (get_set_self m k v) f

theorem term_set_of_ne {m : Store K V} {k k' : K} (h : k' ≠ k) (v : V) (f : K → V → M) :
    (m.set k v).term f k' = m.term f k' := by
  simp [term, get_set_of_ne h]

theorem term_set (m : Store K V) (k k' : K) (v : V) (f : K → V → M) :
    (m.set k v).term f k' = if k' = k then f k v else m.term f k' := by
  split_ifs with h
  · rw [h, term_set_self]
  · exact term_set_of_ne h v f

/-- **Write**: the new total exceeds the old one by the new value minus the replaced one. -/
theorem sum_set (m : Store K V) (k : K) (v : V) (f : K → V → M) :
    (m.set k v).sum f + m.term f k = m.sum f + f k v := by
  have hk : k ∈ insert k m.dom := Finset.mem_insert_self k m.dom
  have hnew : (m.set k v).sum f = f k v + ∑ k' ∈ (insert k m.dom).erase k, m.term f k' := by
    show ∑ k' ∈ insert k m.dom, (m.set k v).term f k' = _
    rw [← Finset.add_sum_erase _ _ hk, term_some (get_set_self m k v)]
    congr 1
    exact Finset.sum_congr rfl fun k' hk' => term_set_of_ne (Finset.ne_of_mem_erase hk') v f
  have hold : m.sum f = m.term f k + ∑ k' ∈ (insert k m.dom).erase k, m.term f k' := by
    rw [sum_eq_of_dom_subset (Finset.subset_insert k m.dom) f, Finset.add_sum_erase _ _ hk]
  rw [hnew, hold]
  abel

/-- A write of a value that contributes the same. -/
theorem sum_set_of_term [IsRightCancelAdd M] {m : Store K V} {k : K} {v : V} {f : K → V → M}
    (h : f k v = m.term f k) : (m.set k v).sum f = m.sum f := by
  have hsum := sum_set m k v f
  rw [← h] at hsum
  exact add_right_cancel hsum

/-- **Removal**: the total falls by the removed value. -/
theorem sum_erase (m : Store K V) (k : K) (f : K → V → M) :
    (m.erase k).sum f + m.term f k = m.sum f := by
  have hold : m.sum f = m.term f k + ∑ k' ∈ (insert k m.dom).erase k, m.term f k' := by
    rw [sum_eq_of_dom_subset (Finset.subset_insert k m.dom) f,
      Finset.add_sum_erase _ _ (Finset.mem_insert_self k m.dom)]
  have hnew : (m.erase k).sum f = ∑ k' ∈ (insert k m.dom).erase k, m.term f k' := by
    rw [Finset.erase_insert_eq_erase]
    refine Finset.sum_congr rfl fun k' hk' => ?_
    simp [term, get_erase_of_ne (Finset.ne_of_mem_erase hk')]
  rw [hnew, hold]
  abel

end Sum

theorem cast_sum (m : Store K V) (f : K → V → ℕ) :
    ((m.sum f : ℕ) : ℤ) = m.sum fun k v => (f k v : ℤ) :=
  hom_sum (Nat.castAddMonoidHom ℤ) m f

theorem eq_sum_of_cast {m : Store K V} {f : K → V → ℕ} {n : ℕ}
    (h : (n : ℤ) = m.sum fun k v => (f k v : ℤ)) : n = m.sum f := by
  rw [← cast_sum] at h
  exact Int.ofNat_inj.mp h

theorem sum_neg (m : Store K V) (f : K → V → ℤ) : (m.sum fun k v => -f k v) = -m.sum f :=
  (hom_sum (negAddMonoidHom : ℤ →+ ℤ) m f).symm

/-! ## Sums by owner

The items of a store belong to owners; `share` is what the items of one owner contribute.  If the
account of every owner shows the share of its items (`books`), a write of an item and of its
owner's account that change by the same amount keeps this. -/

section Share

variable {W A : Type*} [AddCommMonoid M] [DecidableEq W]

def share (m : Store K V) (owner : V → W) (g : V → M) (w : W) : M :=
  m.sum fun _ v => if owner v = w then g v else 0

@[simp] theorem share_empty (owner : V → W) (g : V → M) (w : W) :
    (empty : Store K V).share owner g w = 0 := rfl

theorem share_set [DecidableEq K] {m : Store K V} {k : K} {v : V} (h : m.get k = some v)
    (owner : V → W) (g : V → M) {v' : V} (ho : owner v' = owner v) (w : W) :
    (m.set k v').share owner g w + (if owner v = w then g v else 0) =
      m.share owner g w + if owner v = w then g v' else 0 := by
  have hsum := sum_set m k v' fun _ v => if owner v = w then g v else 0
  rwa [term_some h, ho] at hsum

theorem share_insert [DecidableEq K] {m : Store K V} {k : K} (h : m.get k = none) (owner : V → W)
    (g : V → M) (v : V) (w : W) :
    (m.set k v).share owner g w = m.share owner g w + if owner v = w then g v else 0 := by
  have hsum := sum_set m k v fun _ v => if owner v = w then g v else 0
  rwa [term_none h, add_zero] at hsum

/-- A write of an item that contributes the same. -/
theorem share_congr [DecidableEq K] [IsRightCancelAdd M] {m : Store K V} {k : K} {v v' : V}
    (h : m.get k = some v) {owner : V → W} (ho : owner v' = owner v) {g : V → M}
    (hg : g v' = g v) (w : W) : (m.set k v').share owner g w = m.share owner g w := by
  have hset := share_set h owner g ho w
  rw [hg] at hset
  exact add_right_cancel hset

/-- Two totals that change together. -/
theorem share_add {A A' B B' d d' e e' : M} {p : Prop} [Decidable p]
    (h : A' + (if p then d else 0) = A + if p then d' else 0)
    (h' : B' + (if p then e else 0) = B + if p then e' else 0) :
    A' + B' + (if p then d + e else 0) = A + B + if p then d' + e' else 0 := by
  split_ifs at h h' ⊢
  · rw [add_add_add_comm, h, h', add_add_add_comm]
  · rw [add_zero, add_zero, ← add_zero A', h, ← add_zero B', h', add_zero, add_zero]

/-- **Books**: accounts that show the totals `S` still do so after the account of `o` and the
total of `o` have changed alike, from `d` to `d'`. -/
theorem books_set [IsRightCancelAdd M] (d d' : M) {a : Store W A} {f : A → M} {S S' : W → M}
    {o : W} {p : A} (h : ∀ w, a.term (fun _ p => f p) w = S w)
    (hS : ∀ w, S' w + (if o = w then d else 0) = S w + if o = w then d' else 0)
    (hf : f p + d = a.term (fun _ p => f p) o + d') (w : W) :
    (a.set o p).term (fun _ p => f p) w = S' w := by
  have hw := hS w
  rw [term_set]
  by_cases ho : o = w
  · subst ho
    rw [if_pos rfl, if_pos rfl, ← h o, ← hf] at hw
    rw [if_pos rfl]
    exact (add_right_cancel hw).symm
  · rw [if_neg ho, if_neg ho, add_zero, add_zero] at hw
    rw [if_neg (Ne.symm ho), h, hw]

/-- Two accounts written at once, when the totals have two parts that change with one of them
each. -/
theorem books_set_set [IsRightCancelAdd M] (d d' e e' : M) {a : Store W A} {f : A → M}
    {S S' T T' : W → M} {o q : W} {p r : A} (hne : q ≠ o)
    (h : ∀ w, a.term (fun _ p => f p) w = S w + T w)
    (hS : ∀ w, S' w + (if o = w then d else 0) = S w + if o = w then d' else 0)
    (hT : ∀ w, T' w + (if q = w then e else 0) = T w + if q = w then e' else 0)
    (hp : f p + d = a.term (fun _ p => f p) o + d')
    (hr : f r + e = a.term (fun _ p => f p) q + e') (w : W) :
    ((a.set o p).set q r).term (fun _ p => f p) w = S' w + T' w := by
  have hmid : ∀ w, (a.set o p).term (fun _ p => f p) w = S' w + T w := by
    refine books_set d d' h (fun w => ?_) hp
    rw [add_right_comm, hS, add_right_comm]
  have hlast : ∀ w, ((a.set o p).set q r).term (fun _ p => f p) w = S' w + T' w := by
    refine books_set e e' hmid (fun w => ?_) ?_
    · rw [add_assoc, hT, ← add_assoc]
    · rw [term_set_of_ne hne, hr]
  exact hlast w

/-- Accounts that still show the same. -/
theorem books_congr {a : Store W A} {f : A → M} {S S' : W → M} {o : W} {p : A}
    (h : ∀ w, a.term (fun _ p => f p) w = S w) (hS : ∀ w, S' w = S w)
    (hf : f p = a.term (fun _ p => f p) o) (w : W) :
    (a.set o p).term (fun _ p => f p) w = S' w := by
  rw [term_set, hS, ← h]
  split_ifs with ho
  · rw [hf, ho]
  · rfl

end Share

/-! ## Bounds -/

/-- One stored value is at most the total. -/
theorem le_sum {m : Store K V} {k : K} {v : V} (h : m.get k = some v) (f : K → V → ℕ) :
    f k v ≤ m.sum f := by
  have hle := Finset.single_le_sum (f := m.term f) (fun _ _ => Nat.zero_le _) (mem_dom_of_get h)
  rwa [term_some h] at hle

/-- A total is monotone in what the stored values contribute. -/
theorem sum_mono {m : Store K V} {f g : K → V → ℕ}
    (h : ∀ k v, m.get k = some v → f k v ≤ g k v) : m.sum f ≤ m.sum g := by
  refine Finset.sum_le_sum fun k _ => ?_
  cases hv : m.get k with
  | none => rw [term_none hv, term_none hv]
  | some v =>
    rw [term_some hv, term_some hv]
    exact h k v hv

/-- A total does not fall as its store grows and its values do not fall. -/
theorem sum_le_of_grows {R : V → V → Prop} {m m' : Store K V} {f : V → ℕ} (h : Grows R m m')
    (hf : ∀ v v', R v v' → f v ≤ f v') : m.sum (fun _ v => f v) ≤ m'.sum fun _ v => f v := by
  have hdom : m.dom ⊆ m'.dom := fun k hk => by
    obtain ⟨v, hv⟩ := Option.isSome_iff_exists.mp ((m.mem_dom k).mp hk)
    obtain ⟨v', hv', -⟩ := h k v hv
    exact mem_dom_of_get hv'
  rw [sum_eq_of_dom_subset hdom]
  refine Finset.sum_le_sum fun k _ => ?_
  cases hv : m.get k with
  | none =>
    rw [term_none hv]
    exact Nat.zero_le _
  | some v =>
    obtain ⟨v', hv', hR⟩ := h k v hv
    rw [term_some hv, term_some hv']
    exact hf v v' hR

/-- Two values at different keys are together at most the total. -/
theorem add_le_sum [DecidableEq K] {m : Store K V} {k l : K} {v w : V} (hk : m.get k = some v)
    (hl : m.get l = some w) (hne : k ≠ l) (f : K → V → ℕ) : f k v + f l w ≤ m.sum f := by
  have h1 := sum_erase m k f
  have h2 := le_sum (m := m.erase k) ((get_erase_of_ne hne.symm).trans hl) f
  rw [term_some hk] at h1
  omega

end Store
