import Mathlib.Data.List.Forall2
import SdkGen.Proofs.Go.Nodes

/-!
# The nodes at the top of a file

What becomes of a text in which nothing is wrong is told by the nodes at its top: the first has to be
a package clause, the others declarations, and the first one that may not stand there is reported.

* `topNodes`: the nodes among the trees of a text.
* `Tree.NamesPackage`, `Tree.Declares`: the name in a package clause, and what a node declares.
* `IsFile`, `IsFault`: the file that some nodes make, and what is wrong with others.
* `readAs_topNodes`: each node is read as what it is.
* `parse_topNodes`: a text is parsed as its nodes say.
-/

namespace SdkGen.Go

/-- The nodes among some trees. Comments are no trees, and what separates declarations is a leaf. -/
def topNodes (ts : List Tree) : List Tree := ts.filter fun t => t.kind?.isSome

/-- The package clauses among some nodes. -/
def clauses (ns : List Tree) : List Tree := ns.filter fun n => n.kind? = some .packageClause

namespace Tree

/-- The node may stand behind the package clause. -/
def isTop (t : Tree) : Bool := t.kind?.any (· ∈ topKinds)

/-- The name of the kind of a node that may not stand at the top. -/
def kindName : Tree → String
  | leaf _ _ => ""
  | node k _ parts => TopNode.statementKind k parts

/-- The name in a package clause stands behind its word. -/
inductive NamesPackage : Tree → String → Prop
  | clause {p q r : Position} {name : String} {parts : List Tree} :
      NamesPackage (.node .packageClause p (.leaf "package" q :: .leaf name r :: parts)) name

/-- A type spec declares the last type in it, by the name at its start. -/
inductive Specifies : Tree → Declaration → Prop
  | spec {p q : Position} {name : String} {parts : List Tree} {type : TypeSyntax}
      (htype : (TypeSyntax.ofTrees parts).getLast? = some type) :
      Specifies (.node .typeSpec p (.leaf name q :: parts)) (.type name type q)

/-- What a node declares: a type declaration what each of its specs does, and a function itself, by
the name behind its word and its receiver. -/
inductive Declares : Tree → List Declaration → Prop
  | types {p : Position} {parts : List Tree} {ds : List Declaration}
      (hspecs : List.Forall₂ Specifies (parts.filter fun t => t.kind? = some .typeSpec) ds) :
      Declares (.node .typeDeclaration p parts) ds
  | function {p q r : Position} {name : String} {parts : List Tree} :
      Declares (.node .functionDeclaration p (.leaf "func" q :: .leaf name r :: parts))
        [.function name false r]
  | method {p q r s : Position} {name : String} {receiver parts : List Tree} :
      Declares (.node .methodDeclaration p
          (.leaf "func" q :: .node .parameterList s receiver :: .leaf name r :: parts))
        [.function name true r]
  | other {k : Kind} {p : Position} {parts : List Tree}
      (hk : k ∉ [.typeDeclaration, .functionDeclaration, .methodDeclaration]) :
      Declares (.node k p parts) []

end Tree

/-- Some nodes that may be those of a file: a package clause, and others that may stand behind it. -/
structure InOrder (ns : List Tree) : Prop where
  first : ∃ n ∈ ns.head?, n.kind? = some .packageClause
  top : ∀ n ∈ ns.tail, n.isTop = true

/-- The file that some nodes make. -/
structure IsFile (ns : List Tree) (file : SourceFile) : Prop extends InOrder ns where
  /-- The last package clause names the package. -/
  package : ∃ n ∈ (clauses ns).getLast?, n.NamesPackage file.package
  declarations : ∃ dss, List.Forall₂ Tree.Declares ns dss ∧ file.declarations = dss.flatten

/-- What is wrong with some nodes: the first one is no package clause, or there is none, or a later
one may not stand there and those before it may. -/
inductive IsFault : List Tree → ParseError → Prop
  | nothing : IsFault [] (.missingPackage .start)
  | package {n : Tree} {ns : List Tree} (hn : n.kind? ≠ some .packageClause) :
      IsFault (n :: ns) (.missingPackage n.pos)
  | node {first n : Tree} {before after : List Tree} (hfirst : first.kind? = some .packageClause)
      (hbefore : ∀ m ∈ before, m.isTop = true) (hn : n.isTop = false) :
      IsFault (first :: (before ++ n :: after)) (.unexpectedNode n.kindName n.pos)

variable {cs : List Char} {s : Part} {ss : List Part} {i j : Nat} {t : Tree} {ts ns : List Tree}
  {source : String} {file file' : SourceFile} {nodes : List TopNode}

/-! ## Nodes -/

/-- What a node at the top is read as. -/
inductive ReadAs : Tree → TopNode → Prop
  | package {t : Tree} {name : String} (hk : t.kind? = some .packageClause)
      (hname : t.NamesPackage name) (hds : t.Declares []) : ReadAs t (.package name t.pos)
  | declarations {t : Tree} {ds : List Declaration} (hk : t.kind? ≠ some .packageClause)
      (htop : t.isTop = true) (hds : t.Declares ds) : ReadAs t (.declarations ds t.pos)
  | skipped {t : Tree} (hk : t.kind? ≠ some .packageClause) (htop : t.isTop = true)
      (hds : t.Declares []) : ReadAs t (.skipped t.pos)
  | foreign {t : Tree} (hk : t.isTop = false) : ReadAs t (.foreign t.kindName t.pos)

/-- Each spec among some trees declares something. -/
theorem specs_declare (h : SpansAll cs ss i ts j) :
    List.Forall₂ Tree.Specifies (ts.filter fun t => t.kind? = some .typeSpec)
      (ts.filterMap TopNode.spec?) := by
  induction ts generalizing ss i with
  | nil => exact .nil
  | cons t ts ih =>
    cases h with
    | cons hle ht hts =>
      rcases spec_cases ht with ⟨hk, hspec⟩ | ⟨_, _, _, _, _, _, _, rfl, hspec, htype, -⟩
      · rw [List.filterMap_cons_none hspec, List.filter_cons, if_neg (by simpa using hk)]
        exact ih hts
      · rw [List.filterMap_cons_some hspec]
        exact .cons (.spec htype) (ih hts)

theorem TopNode.Over.readAs {n : TopNode} (h : TopNode.Over cs i j t n) : ReadAs t n := by
  cases h with
  | package hat => exact .package rfl .clause (.other (by decide))
  | types hparts => exact .declarations nofun rfl (.types (specs_declare hparts))
  | function hi hat hle => exact .declarations nofun rfl .function
  | method hi hat hle => exact .declarations nofun rfl .method
  | skipped hk =>
    simp only [List.mem_cons, List.not_mem_nil, or_false] at hk
    rcases hk with rfl | rfl | rfl <;> exact .skipped nofun rfl (.other (by decide))
  | foreign hk => exact .foreign (decide_eq_false hk)

/-- **Each node is read as what it is.** -/
theorem readAs_topNodes (h : SpansAll cs ss i ts j) :
    List.Forall₂ ReadAs (topNodes ts) (ts.filterMap TopNode.ofTree?) := by
  induction ts generalizing ss i with
  | nil => exact .nil
  | cons t ts ih =>
    cases h with
    | cons hle ht hts =>
      rw [topNodes, List.filter_cons]
      rcases topNode_cases ht with ⟨hk, hn⟩ | ⟨hk, n, hn, hover⟩
      · rw [hk, List.filterMap_cons_none hn]
        exact ih hts
      · rw [if_pos hk, List.filterMap_cons_some hn]
        exact .cons hover.readAs (ih hts)

/-! ## Files -/

theorem clauses_cons (hk : t.kind? = some .packageClause) : clauses (t :: ns) = t :: clauses ns := by
  rw [clauses, List.filter_cons, if_pos (decide_eq_true hk)]
  rfl

theorem clauses_other (hk : t.kind? ≠ some .packageClause) : clauses (t :: ns) = clauses ns := by
  rw [clauses, List.filter_cons, if_neg (by simpa using hk)]
  rfl

theorem isTop_clause (hk : t.kind? = some .packageClause) : t.isTop = true := by
  rw [Tree.isTop, hk]
  rfl

/-- The nodes behind a package clause are added one by one, and a later clause takes its place. -/
theorem addNodes_ok {clause : Tree} (hname : clause.NamesPackage file.package)
    (h : List.Forall₂ ReadAs ns nodes) (hok : file.addNodes nodes = .ok file') :
    (∀ n ∈ ns, n.isTop = true) ∧
      (∃ n ∈ (clause :: clauses ns).getLast?, n.NamesPackage file'.package) ∧
      ∃ dss, List.Forall₂ Tree.Declares ns dss ∧
        file'.declarations = file.declarations ++ dss.flatten := by
  induction h generalizing file clause with
  | nil =>
    cases hok
    exact ⟨nofun, ⟨clause, rfl, hname⟩, [], .nil, (List.append_nil _).symm⟩
  | cons hread h ih =>
    rename_i t n ns nodes
    cases hread with
    | package hk hname' hds =>
      rename_i name
      have hnew : t.NamesPackage { file with package := name }.package := hname'
      obtain ⟨htop, hpackage, dss, hdss, hdeclarations⟩ := ih hnew hok
      refine ⟨List.forall_mem_cons.2 ⟨isTop_clause hk, htop⟩, ?_, [] :: dss, .cons hds hdss,
        hdeclarations⟩
      rwa [clauses_cons hk, List.getLast?_cons_cons]
    | declarations hk ht hds =>
      rename_i ds
      have hsame : clause.NamesPackage
          { file with declarations := file.declarations ++ ds }.package := hname
      obtain ⟨htop, hpackage, dss, hdss, hdeclarations⟩ := ih hsame hok
      refine ⟨List.forall_mem_cons.2 ⟨ht, htop⟩, ?_, ds :: dss, .cons hds hdss, ?_⟩
      · rwa [clauses_other hk]
      · rw [hdeclarations, List.append_assoc, List.flatten_cons]
    | skipped hk ht hds =>
      obtain ⟨htop, hpackage, dss, hdss, hdeclarations⟩ := ih hname hok
      refine ⟨List.forall_mem_cons.2 ⟨ht, htop⟩, ?_, [] :: dss, .cons hds hdss, hdeclarations⟩
      rwa [clauses_other hk]
    | foreign hk => cases hok

/-- The first node that may not stand there is reported. -/
theorem addNodes_error {e : ParseError} (h : List.Forall₂ ReadAs ns nodes)
    (herror : file.addNodes nodes = .error e) :
    ∃ (before : List Tree) (n : Tree) (after : List Tree), ns = before ++ n :: after ∧
      (∀ m ∈ before, m.isTop = true) ∧ n.isTop = false ∧
      e = .unexpectedNode n.kindName n.pos := by
  induction h generalizing file with
  | nil => cases herror
  | cons hread h ih =>
    rename_i t n ns nodes
    -- a node that may stand there is passed
    have hpass : ∀ file : SourceFile, t.isTop = true → file.addNodes nodes = .error e →
        ∃ (before : List Tree) (n : Tree) (after : List Tree), t :: ns = before ++ n :: after ∧
          (∀ m ∈ before, m.isTop = true) ∧ n.isTop = false ∧
          e = .unexpectedNode n.kindName n.pos := by
      intro file ht herror
      obtain ⟨before, n, after, rfl, hbefore, hn, he⟩ := ih herror
      exact ⟨t :: before, n, after, rfl, List.forall_mem_cons.2 ⟨ht, hbefore⟩, hn, he⟩
    cases hread with
    | package hk hname hds => exact hpass _ (isTop_clause hk) herror
    | declarations hk ht hds => exact hpass _ ht herror
    | skipped hk ht hds => exact hpass _ ht herror
    | foreign hk =>
      cases herror
      exact ⟨[], t, ns, rfl, nofun, hk, rfl⟩

theorem ofNodes_ok (h : List.Forall₂ ReadAs ns nodes) (hok : SourceFile.ofNodes nodes = .ok file) :
    IsFile ns file := by
  cases h with
  | nil => cases hok
  | cons hread h =>
    cases hread with
    | package hk hname hds =>
      rename_i n ns nodes name
      have hfirst : n.NamesPackage (⟨name, []⟩ : SourceFile).package := hname
      obtain ⟨htop, hpackage, dss, hdss, hdeclarations⟩ := addNodes_ok hfirst h hok
      refine ⟨⟨⟨n, rfl, hk⟩, htop⟩, ?_, [] :: dss, .cons hds hdss, hdeclarations⟩
      rwa [clauses_cons hk]
    | declarations hk => cases hok
    | skipped hk => cases hok
    | foreign hk => cases hok

theorem ofNodes_error {e : ParseError} (h : List.Forall₂ ReadAs ns nodes)
    (herror : SourceFile.ofNodes nodes = .error e) : IsFault ns e := by
  cases h with
  | nil =>
    cases herror
    exact .nothing
  | cons hread h =>
    cases hread with
    | package hk hname hds =>
      obtain ⟨before, n, after, rfl, hbefore, hn, rfl⟩ := addNodes_error h herror
      exact .node hk hbefore hn
    | declarations hk =>
      cases herror
      exact .package hk
    | skipped hk =>
      cases herror
      exact .package hk
    | foreign hk =>
      cases herror
      refine .package fun hclause => ?_
      rw [isTop_clause hclause] at hk
      cases hk

/-- Nothing is wrong with nodes that may be those of a file. -/
theorem InOrder.no_fault {e : ParseError} (h : InOrder ns) : ¬ IsFault ns e := by
  obtain ⟨⟨first, hhead, hfirst⟩, htop⟩ := h
  intro hfault
  cases hfault with
  | nothing => cases hhead
  | package hn =>
    cases hhead
    exact hn hfirst
  | node hclause hbefore hn =>
    have hlate := htop _ (List.mem_append_right _ List.mem_cons_self)
    rw [hn] at hlate
    cases hlate

/-- **A text is parsed as its nodes say**: it is a file just if they are in order, the file is the
one that they make, and else the first thing that is wrong with them is reported. -/
theorem parse_topNodes (h : treesOf source = .ok ts) :
    ((∃ file, parse source = .ok file) ↔ InOrder (topNodes ts)) ∧
      (∀ file, parse source = .ok file → IsFile (topNodes ts) file) ∧
      ∀ e, parse source = .error e → IsFault (topNodes ts) e := by
  obtain ⟨ss, j, hspans⟩ := spans_of_treesOf h
  have hread := readAs_topNodes hspans
  rw [parse_of_treesOf h]
  have hok : ∀ file, SourceFile.ofNodes (ts.filterMap TopNode.ofTree?) = .ok file →
      IsFile (topNodes ts) file := fun _ => ofNodes_ok hread
  have herror : ∀ e, SourceFile.ofNodes (ts.filterMap TopNode.ofTree?) = .error e →
      IsFault (topNodes ts) e := fun _ => ofNodes_error hread
  refine ⟨⟨fun ⟨file, hfile⟩ => (hok file hfile).toInOrder, fun horder => ?_⟩, hok, herror⟩
  cases hresult : SourceFile.ofNodes (ts.filterMap TopNode.ofTree?) with
  | ok file => exact ⟨file, rfl⟩
  | error e => exact (horder.no_fault (herror e hresult)).elim

/-- The later of two package clauses counts, each spec of a group declares something, and the first
of two statements is reported. -/
theorem clauses_and_statements :
    (∃ ts file, treesOf "package p\npackage q\ntype (\n\tA int\n\tB = A\n)\n" = .ok ts ∧
      IsFile (topNodes ts) file ∧ file.package = "q" ∧ file.declarations.length = 2) ∧
    ∃ ts, treesOf "package p\nx := 1\nreturn\n" = .ok ts ∧
      IsFault (topNodes ts) (.unexpectedNode "short var declaration" ⟨2, 1⟩) := by
  constructor
  · have hfile : (parse "package p\npackage q\ntype (\n\tA int\n\tB = A\n)\n").map
        (fun f => (f.package, f.declarations.length)) = .ok ("q", 2) := by decide
    obtain ⟨file, hparse, hfile⟩ := map_ok_iff.1 hfile
    obtain ⟨hpackage, hlength⟩ := Prod.mk.inj hfile
    obtain ⟨ts, hts, -⟩ := treesOf_of_parse hparse
    exact ⟨ts, file, hts, (parse_topNodes hts).2.1 file hparse, hpackage, hlength⟩
  · have htaken : (trees? (withoutMark "package p\nx := 1\nreturn\n")).isSome = true := by
      decide
    have hfault : (parse "package p\nx := 1\nreturn\n").map SourceFile.package =
        .error (.unexpectedNode "short var declaration" ⟨2, 1⟩) := by decide
    obtain ⟨ts, htrees⟩ := Option.isSome_iff_exists.1 htaken
    have hts : treesOf "package p\nx := 1\nreturn\n" = .ok ts := by
      unfold treesOf
      rw [htrees]
    exact ⟨ts, hts, (parse_topNodes hts).2.2 _ (map_error_iff.1 hfault)⟩

end SdkGen.Go
