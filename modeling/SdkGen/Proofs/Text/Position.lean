import Mathlib.Data.List.Induction
import SdkGen.Text.Position

/-!
# Places in a text

* `Position.PointsAt`: a line and a byte column that say where an offset lies.
* `pointsAt_afterAll`: the place behind some characters says how many lines and bytes they are.
* `before_afterAll`: it lies behind the place before them.
-/

namespace SdkGen.Position

/-- The place says where an offset lies: one more than the line ends before it, and one more than
the bytes between the last of these and it. -/
structure PointsAt (p : Position) (cs : List Char) (i : Nat) : Prop where
  line : p.line = 1 + (cs.take i).count '\n'
  column : p.column = 1 + (String.ofList ((cs.take i).reverse.takeWhile (· ≠ '\n'))).utf8ByteSize

variable {p q r : Position} {c : Char} {u : List Char}

/-- The lines and bytes of some characters. -/
theorem afterAll_start (u : List Char) : start.afterAll u =
    ⟨1 + u.count '\n', 1 + (String.ofList (u.reverse.takeWhile (· ≠ '\n'))).utf8ByteSize⟩ := by
  -- the last character counts last, so the induction is from the end
  induction u using List.reverseRecOn with
  | nil => rfl
  | append_singleton u c ih =>
    have hlast : start.afterAll (u ++ [c]) = (start.afterAll u).after c := List.foldl_append
    rw [hlast, ih, List.count_append, List.reverse_append, List.reverse_singleton,
      List.singleton_append]
    by_cases hc : c = '\n'
    · subst hc
      rfl
    · unfold after
      rw [if_neg hc, List.takeWhile_cons_of_pos (by simpa using hc), String.ofList_cons,
        String.utf8ByteSize_append, String.utf8ByteSize_singleton, List.count_singleton,
        if_neg (by simpa using hc)]
      simp only [mk.injEq]
      omega

/-- **The place behind some characters** says how many lines and bytes they are. -/
theorem pointsAt_afterAll (cs : List Char) (i : Nat) :
    (start.afterAll (cs.take i)).PointsAt cs i := by
  rw [afterAll_start]
  exact ⟨rfl, rfl⟩

/-- Only one place points at an offset. -/
theorem PointsAt.eq_place {cs : List Char} {i : Nat} (h : p.PointsAt cs i) :
    p = start.afterAll (cs.take i) := by
  obtain ⟨line, column⟩ := p
  rw [afterAll_start]
  exact congrArg₂ Position.mk h.line h.column

/-! ## Order -/

theorem before_iff : p.before q = true ↔
    p.line < q.line ∨ p.line = q.line ∧ p.column < q.column := by
  simp only [before, Bool.or_eq_true, Bool.and_eq_true, decide_eq_true_eq]

theorem before_trans (hpq : p.before q = true) (hqr : q.before r = true) : p.before r = true := by
  rw [before_iff] at *
  omega

theorem not_before_self (p : Position) : ¬ p.before p = true := by
  rw [before_iff]
  omega

theorem before_after (p : Position) (c : Char) : p.before (p.after c) = true := by
  have hsize := c.utf8Size_pos
  rw [before_iff]
  unfold after
  split
  · exact .inl (Nat.lt_succ_self _)
  · exact .inr ⟨rfl, by simpa using hsize⟩

/-- **The place behind some characters** lies behind the one before them. -/
theorem before_afterAll (hu : u ≠ []) (p : Position) : p.before (p.afterAll u) = true := by
  induction u generalizing p with
  | nil => exact absurd rfl hu
  | cons c u ih =>
    cases u with
    | nil => exact before_after p c
    | cons d u => exact before_trans (before_after p c) (ih (List.cons_ne_nil _ _) _)

end SdkGen.Position
