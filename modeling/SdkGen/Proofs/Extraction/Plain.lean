import SdkGen.Proofs.Extraction.Endpoints
import SdkGen.Proofs.Go.PlainFiles

/-!
# Models of files in their plain spelling

The text of a plain file determines what is read from it, and so its model.

* `parse_plain`, `extract_plain`: the file and the model of such a text.
-/

namespace SdkGen

open Go (PlainFile)

variable {f : PlainFile} {s : String}

theorem parse_plain (h : s.toList = f.written) (hf : f.appliesTypes = true) :
    Go.parse s = .ok f.asRead := by
  obtain ⟨ts, htrees, hfile⟩ := Go.trees?_written hf
  have hs : s = String.ofList f.written := by
    rw [← h, String.ofList_toList]
  rw [hs, Go.parse_of_chars htrees (by change some 'p' ≠ _; decide), hfile]

/-- **The model of a text in plain spelling is that of the file that was written.** -/
theorem extract_plain (routes : RouteTable) (h : s.toList = f.written)
    (hf : f.appliesTypes = true) : extract routes s = .ok (.ofFile routes f.asRead) :=
  extract_of_parse routes (parse_plain h hf)

end SdkGen
