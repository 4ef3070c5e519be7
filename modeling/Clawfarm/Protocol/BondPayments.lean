import Clawfarm.Masterpool.BondPayments
import Clawfarm.Protocol.Payments

/-!
# Protocol.BondPayments — a bond is resolved once

The life of a bond in a run of both programs: its terms are fixed, it leaves `Locked` at most once,
and what the vaults have paid and burned in its name is nothing before, and after that either the
bond itself, burned, or the bond and the whole slash, with the reward going to the challenger.
-/

namespace Protocol

open Attestation
open Masterpool (ChallengeBondRecord BondStep bondUses)

/-- The totals of the uses of the bond `j` over a run; payments are counted for the wallet `w`. -/
def bondTotals (host : Host) (j w : Pubkey) (as : List Action) : ℕ × ℕ × ℕ × ℕ × ℕ :=
  Machine.total Masterpool.step (fun s a => bondUses j w s a (Masterpool.step s a)) .init
    (trace host as)

/-- The life of the bond `b` of the challenge `j` up to the end of the run `as`. -/
structure BondLife (host : Host) (as : List Action) (j : Pubkey) (b : ChallengeBondRecord) :
    Prop where
  once : ∀ bs, ∃ b', (reached host (as ++ bs)).masterpool.bonds.get j = some b' ∧ BondStep b b'
  uses : ∀ w, bondTotals host j w as = b.used w

/-- Every bond starts as `Locked`, lives as `BondLife` says, and nothing leaves the bond vault but
by the resolution of a challenge. -/
structure BondedOnce (host : Host) (as : List Action) : Prop where
  created : ∀ a j b, (reached host as).masterpool.bonds.get j = none →
    (reached host (as ++ [a])).masterpool.bonds.get j = some b → b.status = .Locked
  life : ∀ j b, (reached host as).masterpool.bonds.get j = some b → BondLife host as j b
  unused : ∀ j w, (reached host as).masterpool.bonds.get j = none → bondTotals host j w as = 0
  attributed : ∀ a : Masterpool.Action, a.resolution = none →
    Masterpool.State.lost Masterpool.challengeBondVault (reached host as).masterpool
      (Masterpool.step (reached host as).masterpool a) = 0

variable {host : Host}

theorem bondTotals_eq (j w : Pubkey) (as : List Action) :
    bondTotals host j w as = (reached host as).masterpool.bondUsed j w := by
  rw [bondTotals, Masterpool.run_bondUsed, reached_masterpool]

/-- The masterpool of a step is that of at most one masterpool action. -/
theorem step_masterpool_cases (s : System) (a : Action) :
    (step host s a).masterpool = s.masterpool ∨
      ∃ b, (step host s a).masterpool = Masterpool.step s.masterpool b := by
  rw [step_masterpool]
  unfold calls
  split_ifs
  · cases a.call with
    | none => exact Or.inl rfl
    | some b => exact Or.inr ⟨b, rfl⟩
  · exact Or.inl rfl

/-- **Bonds are resolved once**, whatever the two programs are called to do. -/
theorem bonded_once (host : Host) (as : List Action) : BondedOnce host as where
  created a j b hnone hb := by
    have hw : Masterpool.Wf (reached host as).masterpool := by
      rw [reached_masterpool]
      exact Masterpool.reached_wf _
    rw [reached_concat] at hb
    rcases @step_masterpool_cases host (reached host as) a with he | ⟨d, he⟩
    · rw [he] at hb
      exact nomatch hnone.symm.trans hb
    · rw [he] at hb
      exact (Masterpool.step_effect hw.sound d).lockedFirst hnone hb
  life j b hb :=
    { once := fun bs => (reached_grows as bs).bonds j b hb
      uses := fun w => (bondTotals_eq j w as).trans (Store.term_some hb _) }
  unused j w hnone := (bondTotals_eq j w as).trans (Store.term_none hnone _)
  attributed a ha := by
    rw [reached_masterpool]
    exact Masterpool.step_bondAttributed (Masterpool.reached_wf _) ha

end Protocol
