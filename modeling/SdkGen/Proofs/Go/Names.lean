import SdkGen.Proofs.Go.Nodes

/-!
# Names of a file

What a source file declares is named by words, whether its text is taken by the grammar or mended.

* `named_nodes`: what the nodes at the top of a file name are words.
* `names_of_parse`: the package and the declarations of a file are named by words.
* `IsWord.shown`: a word ends in no blank.
-/

namespace SdkGen.Go

/-! ## Files -/

/-- The name of what is declared. -/
def Declaration.name : Declaration → String
  | type name _ _ => name
  | function name _ _ => name

/-- What a node at the top of a file names is a word. -/
def TopNode.Named : TopNode → Prop
  | package name _ => IsWord name.toList
  | declarations ds _ => ∀ d ∈ ds, IsWord d.name.toList
  | skipped _ => True
  | foreign _ _ => True

variable {cs : List Char} {s : Part} {ss : List Part} {i j : Nat} {ts : List Tree}

theorem named_specs (hts : SpansAll cs ss i ts j) :
    ∀ d ∈ ts.filterMap TopNode.spec?, IsWord d.name.toList := by
  induction ts generalizing ss i with
  | nil => nofun
  | cons t ts ih =>
    cases hts with
    | cons hle ht hts =>
      rcases spec_cases ht with ⟨-, hspec⟩ | ⟨_, _, _, _, _, _, _, -, hspec, -, -, hat, -⟩
      · rw [List.filterMap_cons_none hspec]
        exact ih hts
      · rw [List.filterMap_cons_some hspec]
        exact List.forall_mem_cons.2 ⟨hat.word, ih hts⟩

theorem TopNode.Over.named {t : Tree} {n : TopNode} (h : TopNode.Over cs i j t n) : n.Named := by
  cases h with
  | package hat => exact hat.word
  | types hparts => exact named_specs hparts
  | function hi hat hle => exact List.forall_mem_singleton.2 hat.word
  | method hi hat hle => exact List.forall_mem_singleton.2 hat.word
  | skipped hk => trivial
  | foreign hk => trivial

theorem named_nodes (hts : SpansAll cs ss i ts j) :
    ∀ n ∈ ts.filterMap TopNode.ofTree?, n.Named := by
  induction ts generalizing ss i with
  | nil => nofun
  | cons t ts ih =>
    cases hts with
    | cons hle ht hts =>
      rcases topNode_cases ht with ⟨-, hn⟩ | ⟨-, n, hn, hover⟩
      · rw [List.filterMap_cons_none hn]
        exact ih hts
      · rw [List.filterMap_cons_some hn]
        exact List.forall_mem_cons.2 ⟨hover.named, ih hts⟩

/-- The package and the declarations of a file are named by words. -/
structure SourceFile.Named (file : SourceFile) : Prop where
  package : IsWord file.package.toList
  declarations : ∀ d ∈ file.declarations, IsWord d.name.toList

theorem named_addNodes {file file' : SourceFile} {nodes : List TopNode} (hfile : file.Named)
    (hnodes : ∀ n ∈ nodes, n.Named) (h : file.addNodes nodes = .ok file') : file'.Named := by
  induction nodes generalizing file with
  | nil =>
    cases h
    exact hfile
  | cons n nodes ih =>
    rw [List.forall_mem_cons] at hnodes
    obtain ⟨hn, hnodes⟩ := hnodes
    cases n with
    | package name pos =>
      have hnew : SourceFile.Named { file with package := name } := ⟨hn, hfile.2⟩
      exact ih hnew hnodes h
    | declarations ds pos =>
      have hboth : ∀ d ∈ file.declarations ++ ds, IsWord d.name.toList :=
        List.forall_mem_append.2 ⟨hfile.2, hn⟩
      have hnew : SourceFile.Named { file with declarations := file.declarations ++ ds } :=
        ⟨hfile.1, hboth⟩
      exact ih hnew hnodes h
    | skipped pos => exact ih hfile hnodes h
    | foreign kind pos => cases h

theorem named_ofNodes {file : SourceFile} {nodes : List TopNode} (hnodes : ∀ n ∈ nodes, n.Named)
    (h : SourceFile.ofNodes nodes = .ok file) : file.Named := by
  cases nodes with
  | nil => cases h
  | cons n nodes =>
    rw [List.forall_mem_cons] at hnodes
    cases n with
    | package name pos =>
      have hnew : SourceFile.Named { package := name, declarations := [] } := ⟨hnodes.1, nofun⟩
      exact named_addNodes hnew hnodes.2 h
    | declarations ds pos => cases h
    | skipped pos => cases h
    | foreign kind pos => cases h

/-- **The package and the declarations of a file are named by words.** -/
theorem names_of_parse {source : String} {file : SourceFile} (h : parse source = .ok file) :
    file.Named := by
  obtain ⟨ts, hts, hfile⟩ := treesOf_of_parse h
  obtain ⟨ss, j, hspans⟩ := spans_of_treesOf hts
  exact named_ofNodes (named_nodes hspans) hfile

theorem SourceFile.Named.structs {file : SourceFile} (h : file.Named) :
    ∀ s ∈ file.structs, IsWord s.1.toList := by
  intro s hs
  obtain ⟨d, hd, hstruct⟩ := List.mem_filterMap.1 hs
  have hname := h.declarations d hd
  split at hstruct
  · cases hstruct
    exact hname
  · cases hstruct

/-! ## Ends of words -/

/-- The code points of the blanks. -/
def blanks : List Nat :=
  [9, 10, 11, 12, 13, 32, 0x85, 0xA0, 0x1680, 0x2000, 0x2001, 0x2002, 0x2003, 0x2004, 0x2005,
    0x2006, 0x2007, 0x2008, 0x2009, 0x200A, 0x2028, 0x2029, 0x202F, 0x205F, 0x3000]

theorem mem_blanks {ch : Char} (h : Blank.isBlank ch = true) : ch.toNat ∈ blanks := by
  simp only [Blank.isBlank, Bool.or_eq_true, Bool.and_eq_true, decide_eq_true_eq] at h
  simp only [blanks, List.mem_cons, List.not_mem_nil, or_false]
  omega

set_option maxRecDepth 2000 in
theorem not_word_blanks : ∀ n ∈ blanks, isWordStart (Char.ofNat n) = false ∧
    Identifier.isContinue (Char.ofNat n) = false := by
  decide

/-- **A word ends in no blank.** -/
theorem IsWord.shown {w : List Char} (h : IsWord w) :
    ∃ before ch, w = before ++ [ch] ∧ Blank.isBlank ch = false := by
  have hshown : ∀ ch, (isWordStart ch = true ∨ Identifier.isContinue ch = true) →
      Blank.isBlank ch = false := by
    intro ch hword
    by_contra hblank
    obtain ⟨hstart, hcontinue⟩ := not_word_blanks _ (mem_blanks (by simpa using hblank))
    rw [Char.ofNat_toNat] at hstart hcontinue
    rcases hword with hword | hword
    · rw [hstart] at hword
      cases hword
    · rw [hcontinue] at hword
      cases hword
  obtain ⟨hstart, htail⟩ := h
  cases w with
  | nil => cases hstart
  | cons first more =>
    rcases List.eq_nil_or_concat more with rfl | ⟨before, ch, rfl⟩
    · exact ⟨[], first, rfl, hshown first (.inl hstart)⟩
    · rw [List.concat_eq_append] at htail ⊢
      exact ⟨first :: before, ch, rfl,
        hshown ch (.inr (htail ch (List.mem_append_right _ List.mem_cons_self)))⟩

end SdkGen.Go
