import SdkGen.Proofs.Extraction.Endpoints
import SdkGen.Proofs.Go.Names
import SdkGen.Proofs.Go.TypeNames
import SdkGen.Proofs.Model.TypeText

/-!
# Names in a model

What the records of a model are called, and what is called in the types of their fields, are words:
they are taken over from the source as they stand. Of the texts in a record only the wire names may
have any character.

* `Record.Named`: the names in a record are words.
* `named_of_extract`: those in an extracted model are.
* `TypeExpr.not_mem_text`: the text of such a type has no line feed.
-/

namespace SdkGen

open Go (FieldSyntax IsWord TypeSyntax)

/-- The name of a record, and of a field of it, and the names in the type of a field are words. -/
structure Record.Named (r : Record) : Prop where
  name : IsWord r.name.toList
  fields : ∀ f ∈ r.fields, IsWord f.name.toList
  types : ∀ f ∈ r.fields, f.type.Named

variable {routes : RouteTable} {x : Extraction} {source : String}

namespace TypeExpr

/-- The names in what is kept of a type stand in the type. -/
theorem named_ofSyntax {t : TypeSyntax} (ht : t.Named) : (ofSyntax t).Named := by
  induction t using ofSyntax.induct with
  | case1 name => exact ht
  | case2 package name => exact ht
  | case3 target ih => exact ih ht
  | case4 element ih => exact ih ht
  | case5 element ih => exact ih ht
  -- of all other types no name is kept
  | _ => exact trivial

theorem not_mem_text {t : TypeExpr} (ht : t.Named) : '\n' ∉ t.text.toList := by
  have hword : ∀ {cs : List Char}, IsWord cs → '\n' ∉ cs := fun hcs => not_mem_word hcs (by decide)
  induction t with
  | named name => exact hword ht
  | pointer target ih =>
    rw [text, String.toList_append, List.mem_append, not_or]
    exact ⟨by decide, ih ht⟩
  | array element ih =>
    rw [text, String.toList_append, List.mem_append, not_or]
    exact ⟨by decide, ih ht⟩
  | qualified package name =>
    obtain ⟨hpackage, hname⟩ := ht
    simp only [text, String.toList_append, List.mem_append, not_or]
    exact ⟨⟨hword hpackage, by decide⟩, hword hname⟩
  | unsupported => decide

end TypeExpr

theorem named_ofFields {name : String} {lines : List FieldSyntax} (hname : IsWord name.toList)
    (hlines : ∀ f ∈ lines, f.Named) : (Record.ofFields name lines).Named := by
  have hfields : ∀ f ∈ (Record.ofFields name lines).fields, IsWord f.name.toList ∧ f.type.Named := by
    intro f hf
    obtain ⟨line, hline, hof⟩ := List.mem_filterMap.1 hf
    obtain ⟨first, hfirst, rfl⟩ := Option.map_eq_some_iff.1 hof
    obtain ⟨names, type, tag, pos⟩ := line
    obtain ⟨hnames, htype⟩ := hlines _ hline
    split
    · exact ⟨hnames first hfirst, TypeExpr.named_ofSyntax htype⟩
    · exact ⟨hnames first hfirst, TypeExpr.named_ofSyntax htype⟩
  exact ⟨hname, fun f hf => (hfields f hf).1, fun f hf => (hfields f hf).2⟩

/-- **The names in the records of an extracted model are words**, those in types included. -/
theorem named_of_extract (h : extract routes source = .ok x) : ∀ r ∈ x.records, r.Named := by
  obtain ⟨file, hparse, rfl⟩ := map_ok_iff.1 h
  intro r hr
  obtain ⟨s, hs, rfl⟩ := List.mem_map.1 hr
  exact named_ofFields ((Go.names_of_parse hparse).structs s hs) (Go.types_of_parse hparse s hs)

end SdkGen
