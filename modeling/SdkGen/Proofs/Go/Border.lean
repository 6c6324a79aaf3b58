import SdkGen.Proofs.Go.Balance

/-!
# Rules at the end of a text

At the end of a text a rule may go on into what follows. It does so only where it could go on with
the word of a declaration, if the text that follows starts with one.

* `Fresh`: a text that starts with a declaration.
* `Traits`: what may happen to a rule at the end of a text, from its form alone.
* `runs_border`: nothing else happens.
-/

namespace SdkGen.Go

/-- The words that declarations start with. -/
def declarators : List String := ["package", "import", "func", "type", "const", "var"]

variable {ι : Type}

variable {g : ι → Rule ι} {below : ι → Traits} {r : Rule ι} {c d : Cursor} {o : Outcome}
  {ts : List Tree} {v : List Char}

/-! ## Where no token is left -/

/-- A closed text whose brackets are all closed. -/
structure Whole (cs : List Char) : Prop extends Closed cs where
  level : level 0 (skeleton cs) = 0

theorem Whole.passed (hc : Whole c.rest) (h : Passes c d) (hd : Closed d.rest) : Whole d.rest :=
  ⟨hd, by rw [← h.level]; exact hc.level⟩

/-- In a whole text an opening bracket has its closing one. -/
theorem Whole.opened {b : Bracket} (hc : Whole c.rest)
    (h : readBracket b.opening c = .matched ts d) :
    Inside d.rest := by
  refine ⟨bracket_left hc.toClosed (opening_mem b) h, ?_⟩
  have hlevel := hc.level
  rw [opening_skeleton h, Go.level] at hlevel
  rw [← Bool.not_eq_false]
  intro hcloses
  rw [level_succ hcloses] at hlevel
  cases hlevel

end SdkGen.Go
