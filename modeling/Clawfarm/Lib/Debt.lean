import Mathlib.Algebra.BigOperators.Group.List.Basic
import Mathlib.Algebra.GroupWithZero.Nat
import Mathlib.Algebra.Order.Group.Int
import Mathlib.Logic.Function.Basic

/-!
# Debt — rewards that first pay down a debt

A debtor has a signed position, to which every entry adds a reward.  The part of the reward that
pays down a negative position is offset, the rest is pending for the debtor until the entry is
reverted; the user of an entry has a pending reward of its own.  The books of a debtor are kept over
arbitrary types `R` of receipts and `U` of users.

To record an entry, then others, and then to revert the first one leaves the others as if it had
never been there exactly if `Unaffected` holds (`Beside.recordAll` with `Beside.revert`, and
`unaffected_of_offsets`).
-/

namespace Debt

variable {R U : Type}

/-- The part of the reward `r` that pays down the position `P`. -/
def offset (P : ℤ) (r : ℕ) : ℕ := min (-P).toNat r

structure Entry (R U : Type) where
  receipt : R
  user : U
  toUser : ℕ
  toDebtor : ℕ

/-- What the books keep of an entry. -/
structure Booking (U : Type) where
  user : U
  toUser : ℕ
  toDebtor : ℕ
  debtOffset : ℕ
  locked : ℕ

def Entry.booking (e : Entry R U) (P : ℤ) : Booking U :=
  ⟨e.user, e.toUser, e.toDebtor, offset P e.toDebtor, e.toDebtor - offset P e.toDebtor⟩

@[ext]
structure Books (R U : Type) where
  position : ℤ
  pending : ℕ
  userPending : U → ℕ
  booking : R → Option (Booking U)

variable [DecidableEq R] [DecidableEq U] {b b' : Books R U} {e : Entry R U} {x : Booking U} {k : R}
  {P : ℤ} {a r S : ℕ}

def Books.record (b : Books R U) (e : Entry R U) : Books R U where
  position := b.position + e.toDebtor
  pending := b.pending + (e.booking b.position).locked
  userPending := fun u => b.userPending u + if e.user = u then e.toUser else 0
  booking := Function.update b.booking e.receipt (some (e.booking b.position))

def Books.recordAll (b : Books R U) (es : List (Entry R U)) : Books R U := es.foldl Books.record b

/-- Take a booking back and lower the position by a penalty. -/
def Books.revert (b : Books R U) (x : Booking U) (penalty : ℕ) : Books R U where
  position := b.position - x.toDebtor - penalty
  pending := b.pending - x.locked
  userPending := fun u => b.userPending u - if x.user = u then x.toUser else 0
  booking := b.booking

@[simp] theorem recordAll_nil : b.recordAll [] = b := rfl

@[simp] theorem recordAll_cons (es : List (Entry R U)) :
    b.recordAll (e :: es) = (b.record e).recordAll es := rfl

theorem booking_recordAll {es : List (Entry R U)} (h : k ∉ es.map Entry.receipt) :
    (b.recordAll es).booking k = b.booking k := by
  induction es generalizing b with
  | nil => rfl
  | cons e es ih =>
    rw [List.map_cons, List.mem_cons, not_or] at h
    rw [recordAll_cons, ih h.2]
    exact Function.update_of_ne h.1 _ _

/-! ## Debt first -/

/-- A reward that comes in two parts pays down as much as it does at once. -/
theorem offset_add (P : ℤ) (r S : ℕ) : offset P (r + S) = offset P r + offset (P + r) S := by
  unfold offset
  omega

theorem offset_le (P : ℤ) (r : ℕ) : offset P r ≤ r := by
  unfold offset
  omega

/-- Where rewards `R` and penalties `S` make up the position, what the rewards have paid down never
exceeds the penalties. -/
theorem add_offset_le {O R S : ℕ} (hR : O ≤ R) (hS : O ≤ S) (r : ℕ) :
    O + offset (R - S) r ≤ S := by
  have hle : offset (R - S) r ≤ (-((R : ℤ) - S)).toNat := min_le_left _ _
  omega

/-- What is left of a reward is what lies above zero. -/
theorem sub_offset (P : ℤ) (r : ℕ) : ((r - offset P r : ℕ) : ℤ) = max 0 (P + r) - max 0 P := by
  unfold offset
  omega

/-! ## When an earlier reward does not matter -/

/-- A reward `a` on top of the position `P` changes no offset of later rewards that add up to `S`:
there is no debt, no reward, nothing later, or the debt is larger than all of them. -/
def Unaffected (P : ℤ) (a S : ℕ) : Prop := 0 ≤ P ∨ a = 0 ∨ S = 0 ∨ P + a + S ≤ 0

instance : Decidable (Unaffected P a S) := inferInstanceAs (Decidable (_ ∨ _ ∨ _ ∨ _))

theorem offset_add_iff : offset (P + a) r = offset P r ↔ Unaffected P a r := by
  unfold offset Unaffected
  omega

theorem unaffected_add : Unaffected P a (r + S) ↔ Unaffected P a r ∧ Unaffected (P + r) a S := by
  unfold Unaffected
  omega

/-! ## Books with one more entry -/

/-- The books `b'` are `b` with the booking `x` at `k` on top. -/
structure Beside (k : R) (x : Booking U) (b b' : Books R U) : Prop where
  position : b'.position = b.position + x.toDebtor
  pending : b'.pending = b.pending + x.locked
  userPending : ∀ u, b'.userPending u = b.userPending u + if x.user = u then x.toUser else 0
  booking : ∀ j, j ≠ k → b'.booking j = b.booking j

theorem beside_record (b : Books R U) (e : Entry R U) :
    Beside e.receipt (e.booking b.position) b (b.record e) :=
  ⟨rfl, rfl, fun _ => rfl, fun _ hj => Function.update_of_ne hj _ _⟩

theorem Beside.record (h : Beside k x b b') (hu : Unaffected b.position x.toDebtor e.toDebtor) :
    Beside k x (b.record e) (b'.record e) := by
  have hbooking : e.booking b'.position = e.booking b.position := by
    rw [Entry.booking, h.position, offset_add_iff.mpr hu]
    rfl
  refine ⟨?_, ?_, fun u => ?_, fun j hj => ?_⟩
  · simp only [Books.record, h.position]
    omega
  · simp only [Books.record, hbooking, h.pending]
    omega
  · simp only [Books.record, h.userPending]
    omega
  · simp only [Books.record, hbooking]
    by_cases he : j = e.receipt
    · rw [he, Function.update_self, Function.update_self]
    · rw [Function.update_of_ne he, Function.update_of_ne he, h.booking j hj]

theorem Beside.recordAll (es : List (Entry R U)) (h : Beside k x b b')
    (hu : Unaffected b.position x.toDebtor (es.map Entry.toDebtor).sum) :
    Beside k x (b.recordAll es) (b'.recordAll es) := by
  induction es generalizing b b' with
  | nil => exact h
  | cons e es ih =>
    rw [List.map_cons, List.sum_cons, unaffected_add] at hu
    exact ih (h.record hu.1) hu.2

/-- If the offsets of the later entries agree, then the earlier reward does not matter. -/
theorem unaffected_of_offsets (es : List (Entry R U)) (hpos : b'.position = b.position + a)
    (hnodup : (es.map Entry.receipt).Nodup)
    (h : ∀ k ∈ es.map Entry.receipt, ((b'.recordAll es).booking k).map Booking.debtOffset =
      ((b.recordAll es).booking k).map Booking.debtOffset) :
    Unaffected b.position a (es.map Entry.toDebtor).sum := by
  induction es generalizing b b' with
  | nil => exact Or.inr (Or.inr (Or.inl rfl))
  | cons e es ih =>
    obtain ⟨hfresh, hes⟩ := List.nodup_cons.mp hnodup
    have hpos' : (b'.record e).position = (b.record e).position + a := by
      simp only [Books.record, hpos]
      omega
    rw [List.map_cons, List.sum_cons, unaffected_add]
    refine ⟨?_, ih hpos' hes fun k hk => h k (List.mem_cons_of_mem _ hk)⟩
    -- later entries do not touch the booking of `e`
    have he := h e.receipt List.mem_cons_self
    rw [recordAll_cons, recordAll_cons, booking_recordAll hfresh, booking_recordAll hfresh] at he
    simp only [Books.record, Function.update_self, Option.map_some, Option.some.injEq,
      Entry.booking, hpos] at he
    exact offset_add_iff.mp he

/-! ## Reverting -/

/-- The books `b'` are `b` apart from the booking at `k` and a penalty. -/
structure Reverted (k : R) (penalty : ℕ) (b b' : Books R U) : Prop where
  position : b'.position = b.position - penalty
  pending : b'.pending = b.pending
  userPending : ∀ u, b'.userPending u = b.userPending u
  booking : ∀ j, j ≠ k → b'.booking j = b.booking j

omit [DecidableEq R] in
theorem Beside.revert (h : Beside k x b b') (penalty : ℕ) :
    Reverted k penalty b (b'.revert x penalty) := by
  refine ⟨?_, ?_, fun u => ?_, h.booking⟩
  · simp only [Books.revert, h.position]
    omega
  · simp only [Books.revert, h.pending, Nat.add_sub_cancel]
  · simp only [Books.revert, h.userPending, Nat.add_sub_cancel]

end Debt
