import Mathlib.Data.List.Basic
import Mathlib.Data.Set.Basic

/-!
# Delimited — words that can be told apart in a longer text

A text is written without blanks, word after word, and it is read back from the front.  `Follows F`
says what may stand behind a word, and `ReadsAs F L a` that no other word of `L` can be read where
the word `a` was written.  This holds of words over an alphabet that `F` avoids, of quoted words,
and it passes on to lists of words with a separator (`intercalate_inj`).
-/

namespace Delimited

variable {α : Type} {F : Set α} {L : Set (List α)}

/-- The rest of a text is empty or begins with a symbol of `F`. -/
def Follows (F : Set α) (r : List α) : Prop := ∀ c ∈ r.head?, c ∈ F

/-- Before a rest that `F` allows, `a` is read as itself among the words of `L`. -/
def ReadsAs (F : Set α) (L : Set (List α)) (a : List α) : Prop :=
  ∀ b ∈ L, ∀ r s, Follows F r → Follows F s → a ++ r = b ++ s → a = b

theorem follows_nil : Follows F [] := by
  intro c hc
  cases hc

theorem follows_cons {c : α} (h : c ∈ F) (r : List α) : Follows F (c :: r) := by
  intro d hd
  rwa [← Option.some.inj hd]

theorem ReadsAs.append_inj {a b r s : List α} (h : ReadsAs F L a) (hb : b ∈ L) (hr : Follows F r)
    (hs : Follows F s) (heq : a ++ r = b ++ s) : a = b ∧ r = s := by
  obtain rfl := h b hb r s hr hs heq
  exact ⟨rfl, List.append_cancel_left heq⟩

/-! ## Words over an alphabet -/

theorem eq_nil_of_follows {A : Set α} (hA : ∀ c ∈ A, c ∉ F) {a r : List α} (ha : ∀ c ∈ a, c ∈ A)
    (hr : Follows F (a ++ r)) : a = [] := by
  cases a with
  | nil => rfl
  | cons c a => exact absurd (hr c rfl) (hA c (ha c List.mem_cons_self))

/-- A word ends where the alphabet ends. -/
theorem readsAs_of_alphabet {A : Set α} (hA : ∀ c ∈ A, c ∉ F) (hL : ∀ b ∈ L, ∀ c ∈ b, c ∈ A)
    {a : List α} (ha : ∀ c ∈ a, c ∈ A) : ReadsAs F L a := by
  intro b hb r s hr hs heq
  obtain ⟨t, rfl, rfl⟩ | ⟨t, rfl, rfl⟩ := List.append_eq_append_iff.mp heq
  · have ht := eq_nil_of_follows hA (fun c hc => hL _ hb c (List.mem_append_right a hc)) hr
    rw [ht, List.append_nil]
  · have ht := eq_nil_of_follows hA (fun c hc => ha c (List.mem_append_right b hc)) hs
    rw [ht, List.append_nil]

/-! ## Quoted words -/

/-- A word in which the quotation mark stands behind an escape symbol only. -/
inductive Escaped (quote escape : α) : List α → Prop
  | nil : Escaped quote escape []
  | plain {c : α} {w : List α} (hquote : c ≠ quote) (hescape : c ≠ escape)
      (h : Escaped quote escape w) : Escaped quote escape (c :: w)
  | escaped {c : α} {w : List α} (h : Escaped quote escape w) :
      Escaped quote escape (escape :: c :: w)

/-- A quoted word ends at the first mark that is not escaped. -/
theorem Escaped.append_inj {quote escape : α} (hne : escape ≠ quote) {v w : List α}
    (hv : Escaped quote escape v) (hw : Escaped quote escape w) {r s : List α}
    (heq : v ++ quote :: r = w ++ quote :: s) : v = w ∧ r = s := by
  induction hv generalizing w with
  | nil =>
    cases hw with
    | nil => exact ⟨rfl, (List.cons.inj heq).2⟩
    | plain hquote => exact absurd (List.cons.inj heq).1.symm hquote
    | escaped => exact absurd (List.cons.inj heq).1.symm hne
  | plain hquote hescape _ ih =>
    cases hw with
    | nil => exact absurd (List.cons.inj heq).1 hquote
    | plain _ _ hw =>
      obtain ⟨rfl, htail⟩ := List.cons.inj heq
      obtain ⟨rfl, hr⟩ := ih hw htail
      exact ⟨rfl, hr⟩
    | escaped => exact absurd (List.cons.inj heq).1 hescape
  | escaped _ ih =>
    cases hw with
    | nil => exact absurd (List.cons.inj heq).1 hne
    | plain _ hescape => exact absurd (List.cons.inj heq).1.symm hescape
    | escaped hw =>
      obtain ⟨rfl, htail⟩ := List.cons.inj (List.cons.inj heq).2
      obtain ⟨rfl, hr⟩ := ih hw htail
      exact ⟨rfl, hr⟩

/-! ## Lists of words -/

section Lists

variable {sep stop : α}

theorem intercalate_cons (x : List α) (xs : List (List α)) :
    [sep].intercalate (x :: xs) = x ++ xs.flatMap (sep :: ·) := by
  induction xs generalizing x with
  | nil => simp
  | cons y xs ih =>
    rw [List.intercalate_cons_cons, ih, List.flatMap_cons]
    simp

/-- What stands behind a word of a list: a separator or the end of the list. -/
theorem follows_rest (hsep : sep ∈ F) (hstop : stop ∈ F) (xs : List (List α)) (r : List α) :
    Follows F (xs.flatMap (sep :: ·) ++ stop :: r) := by
  cases xs with
  | nil => exact follows_cons hstop r
  | cons x xs => exact follows_cons hsep _

theorem rest_inj (hsep : sep ∈ F) (hstop : stop ∈ F) (hne : sep ≠ stop) {xs ys : List (List α)}
    (hxs : ∀ x ∈ xs, ReadsAs F L x) (hys : ∀ y ∈ ys, y ∈ L) {r s : List α}
    (heq : xs.flatMap (sep :: ·) ++ stop :: r = ys.flatMap (sep :: ·) ++ stop :: s) :
    xs = ys ∧ r = s := by
  induction xs generalizing ys with
  | nil =>
    cases ys with
    | nil => exact ⟨rfl, (List.cons.inj heq).2⟩
    | cons y ys => exact absurd (List.cons.inj heq).1.symm hne
  | cons x xs ih =>
    cases ys with
    | nil => exact absurd (List.cons.inj heq).1 hne
    | cons y ys =>
      simp only [List.flatMap_cons, List.cons_append, List.append_assoc, List.cons.injEq,
        true_and] at heq
      obtain ⟨rfl, hrest⟩ := (hxs x List.mem_cons_self).append_inj (hys y List.mem_cons_self)
        (follows_rest hsep hstop xs r) (follows_rest hsep hstop ys s) heq
      obtain ⟨rfl, hr⟩ := ih (fun x hx => hxs x (List.mem_cons_of_mem _ hx))
        (fun y hy => hys y (List.mem_cons_of_mem _ hy)) hrest
      exact ⟨rfl, hr⟩

/-- **Lists**: a list of words with a separator between them is read back up to the symbol that ends
it, if no word is empty or begins with that symbol. -/
theorem intercalate_inj (hsep : sep ∈ F) (hstop : stop ∈ F) (hne : sep ≠ stop)
    (hL : ∀ b ∈ L, ∃ c t, b = c :: t ∧ c ≠ stop) {xs ys : List (List α)}
    (hxs : ∀ x ∈ xs, x ∈ L ∧ ReadsAs F L x) (hys : ∀ y ∈ ys, y ∈ L) {r s : List α}
    (heq : [sep].intercalate xs ++ stop :: r = [sep].intercalate ys ++ stop :: s) :
    xs = ys ∧ r = s := by
  cases xs with
  | nil =>
    cases ys with
    | nil => exact ⟨rfl, (List.cons.inj heq).2⟩
    | cons y ys =>
      obtain ⟨c, t, rfl, hc⟩ := hL y (hys y List.mem_cons_self)
      rw [intercalate_cons] at heq
      exact absurd (List.cons.inj heq).1.symm hc
  | cons x xs =>
    cases ys with
    | nil =>
      obtain ⟨c, t, rfl, hc⟩ := hL x (hxs x List.mem_cons_self).1
      rw [intercalate_cons] at heq
      exact absurd (List.cons.inj heq).1 hc
    | cons y ys =>
      rw [intercalate_cons, intercalate_cons, List.append_assoc, List.append_assoc] at heq
      obtain ⟨rfl, hrest⟩ := (hxs x List.mem_cons_self).2.append_inj (hys y List.mem_cons_self)
        (follows_rest hsep hstop xs r) (follows_rest hsep hstop ys s) heq
      obtain ⟨rfl, hr⟩ := rest_inj hsep hstop hne
        (fun x hx => (hxs x (List.mem_cons_of_mem _ hx)).2)
        (fun y hy => hys y (List.mem_cons_of_mem _ hy)) hrest
      exact ⟨rfl, hr⟩

end Lists

end Delimited
