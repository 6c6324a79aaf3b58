import SdkGen.Proofs.Extraction.Plain
import SdkGen.Proofs.Go.Mended

/-!
# Delimiters of a source file

* `nested_or_refused`: a text with a bracket that is left open, or is closed by one of another
  kind, has no model, wherever that bracket stands.
-/

namespace SdkGen

/-- **A text that is parsed has its brackets nested**, those of function bodies included; comments
and literals do not count. A text in which they are not is refused and has no model. -/
theorem nested_or_refused (routes : RouteTable) (source : String) :
    (∀ file, Go.parse source = .ok file → Go.Nested (Go.brackets source.toList)) ∧
      (¬ Go.Nested (Go.brackets source.toList) →
        ∃ e, Go.parse source = .error e ∧ extract routes source = .error e) := by
  refine ⟨fun file => Go.nested_of_parse, fun hopen => ?_⟩
  cases hparse : Go.parse source with
  | ok file => exact absurd (Go.nested_of_parse hparse) hopen
  | error e =>
    refine ⟨e, rfl, ?_⟩
    unfold extract
    rw [hparse]
    rfl

/-- A parenthesis in a tag does not count. A brace that is left open in a body does, and a square
bracket that a parenthesis would have to close. -/
theorem nested_or_refused_bodies :
    (∃ file, Go.parse "package p\ntype T struct \x7b\n\tA string \x60(\x60\n\x7d\n" = .ok file ∧
      Go.Nested
        (Go.brackets "package p\ntype T struct \x7b\n\tA string \x60(\x60\n\x7d\n".toList)) ∧
    (∃ e, Go.parse "package main\nfunc main() \x7b\n\tif true \x7b\n\x7d\n" = .error e ∧
      extract .builtin "package main\nfunc main() \x7b\n\tif true \x7b\n\x7d\n" = .error e) ∧
    ∃ e, Go.parse "package main\nfunc main() \x7b f(] \x7d\n" = .error e ∧
      extract .builtin "package main\nfunc main() \x7b f(] \x7d\n" = .error e := by
  refine ⟨?_, (nested_or_refused .builtin _).2 (by decide),
    (nested_or_refused .builtin _).2 (by decide)⟩
  let tag : Go.TagLiteral := ⟨.raw ['('], fun _ hc => ne_of_mem_of_not_mem hc (by decide)⟩
  let file : Go.PlainFile := ⟨⟨"p", by decide⟩, [.type ⟨"T", by decide⟩
    (.struct [.named ⟨"A", by decide⟩ [] 0 (.name Go.stringName) (some tag)])]⟩
  have hparse : Go.parse "package p\ntype T struct \x7b\n\tA string \x60(\x60\n\x7d\n" =
      .ok file.asRead := parse_plain (by decide) rfl
  exact ⟨_, hparse, (nested_or_refused .builtin _).1 _ hparse⟩

end SdkGen
