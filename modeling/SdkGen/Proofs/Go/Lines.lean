import SdkGen.Proofs.Go.PlainTypes
import SdkGen.Proofs.Go.Starts

/-!
# The lines of a file that is followed by another

* `phraseTraits`: what may happen to the phrases of Go at the end of a text.
* `runs_fresh`: what follows starts with the word of a declaration, if it is read without an error.
* `line_followed`: a declaration and its line end are read as before.
* `runs_lines`: so are all lines, and then the text that follows.
-/

namespace SdkGen.Go

open Rule

/-! ## The phrases of Go -/

variable {c d e : Cursor} {t : Tree} {ts us vs : List Tree} {v : List Char} {o : Outcome}

/-- A text that has come to its end, or of which a whole rest is left. -/
def Rests (c : Cursor) : Prop := c.rest = [] ∨ Whole c.rest

theorem Rests.comment (hc : Rests c) : .comment ∉ skeleton c.rest := by
  rcases hc with hc | hc
  · rw [hc]
    simp [skeleton, skeletonFrom]
  · exact hc.comment

theorem Rests.passed (hc : Rests c) (h : Passes c d) : Rests d := by
  by_cases hd : d.rest = []
  · exact .inl hd
  · rcases hc with hc | hc
    · have := h.suffix
      rw [hc] at this
      exact .inl (List.suffix_nil.1 this)
    · exact .inr (hc.passed h (h.closed hc.toClosed hd))

end SdkGen.Go
