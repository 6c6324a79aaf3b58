import SdkGen.Proofs.Fallible
import SdkGen.Proofs.Go.Depth
import SdkGen.Proofs.Go.PlainFields

/-!
# Reading files in their plain spelling

* `reads_declaration`: every declaration is read as what was written.
* `parse_written`: so is every file.
-/

namespace SdkGen.Go

open Rule

variable {p : Position} {bs u r cs : List Char}

/-! ## Type declarations -/

/-- What starts a type goes on from a declared name without an equals sign. -/
theorem runs_underlying {s : Position → TypeSyntax} (h : ReadsType u s) :
    ∃ tree, Runs grammar (mark "=" >> Rule.phrase (Phrase.type true) <|>
        Rule.look false typeParameters >> Rule.look false (.enclosed .square literalSize) >>
          Rule.phrase (Phrase.type true) <|>
        Rule.look false (.enclosed .square innerExpression) >> typeParameters >>
          Rule.phrase (Phrase.type true))
        ⟨' ' :: (u ++ '\n' :: r), p⟩ (.matched [tree] ⟨'\n' :: r, p.afterAll (' ' :: u)⟩) ∧
      TypeSyntax.ofTree? tree = some (s (p.afterAll [' '])) := by
  obtain ⟨tree, hrun, htree⟩ := h.reads (p := p) (passed_space _) (follows_line (r := r))
  refine ⟨tree, ?_, htree⟩
  have hequals : ∀ m ∈ .opening .square :: typeStarts, (mark "=" >> Rule.phrase (Phrase.type true) :
      GoRule).peek m true (peekPhrase grammar m true 3) = some false := by decide
  rcases h.starts (follows_line (r := r)) with ⟨m, hm, hstands⟩ | ⟨v, hv, hstands⟩
  · have hlook : ∀ m ∈ typeStarts, (.look false typeParameters : GoRule).peek m true
        (peekPhrase grammar m true 3) = some true := by decide
    have hliteral : ∀ m ∈ typeStarts, (.look false (.enclosed .square literalSize) : GoRule).peek m
        true (peekPhrase grammar m true 3) = some true := by decide
    have hbefore : Before m true ⟨[' '] ++ (u ++ '\n' :: r), p⟩ := before_here hstands rfl
    exact runs_other (runs_absent hbefore 3 (hequals m (List.mem_cons_of_mem _ hm)))
      (runs_first (runs_sequence (runs_nothing hbefore 3 (hlook m hm))
        (runs_sequence (runs_nothing hbefore 3 (hliteral m hm)) hrun)))
  · rw [hv] at hrun ⊢
    have hbefore : Before (.opening .square) true ⟨[' '] ++ '[' :: v, p⟩ :=
      before_here (stands_opening .square) rfl
    have hopen := bracket_read (c := Bracket.square.opening) (r := v) (p := p) (passed_space _)
      (by decide)
    have hrules : ∀ m ∈ [Next.closing .square, .number], ∀ rule ∈ [.look false ownOperand >>
        commaSeparated word >> typeElement false, literalSize],
        (rule : GoRule).peek m true (peekPhrase grammar m true 3) = some false := by decide
    obtain ⟨m, hm, hstands⟩ : ∃ m ∈ [Next.closing .square, .number], Stands m v :=
      hstands.elim (fun h => ⟨_, by simp, h⟩) fun h => ⟨_, by simp, h⟩
    have hinner : ∀ rule ∈ [.look false ownOperand >> commaSeparated word >> typeElement false,
        literalSize], Runs grammar rule ⟨v, p.afterAll ([' '] ++ [Bracket.square.opening])⟩ .absent :=
      fun rule hrule => runs_absent (before_start hstands) 3 (hrules m hm rule hrule)
    have hparameters : Runs grammar typeParameters ⟨[' '] ++ '[' :: v, p⟩ .refused :=
      .node (.enclosed hopen (.first (hinner _ (by simp)) rfl))
    have hlook : Runs grammar (.look false typeParameters) ⟨[' '] ++ '[' :: v, p⟩ (.matched [] _) :=
      .look hparameters
    have hliteral : Runs grammar (.look false (.enclosed .square literalSize))
        ⟨[' '] ++ '[' :: v, p⟩ (.matched [] _) := .look (.enclosed hopen (hinner _ (by simp)))
    exact runs_other (runs_absent hbefore 3 (hequals _ (by decide)))
      (runs_first (runs_sequence hlook (runs_sequence hliteral hrun)))

theorem runs_opening {g : Phrase → GoRule} (b : Bracket) :
    Runs g (.beforeOpening b) ⟨b.opening :: r, p⟩ (.matched [] ⟨b.opening :: r, p⟩) := by
  have hskip := skipBlanks_token (c := b.opening) (r := r) (p := p) (passed_none true)
    (by cases b <;> decide)
  have := Runs.beforeOpening (g := g) b ⟨b.opening :: r, p⟩
  unfold standsBefore at this
  rw [List.nil_append] at hskip
  rw [hskip] at this
  simpa using this

/-- A declaration is read as what was written. -/
def ReadsDeclaration (d : PlainDeclaration) : Prop :=
  ∀ {r : List Char} {p : Position}, ∃ tree,
    Runs grammar (topDeclaration <|> .phrase .statement) ⟨d.written ++ '\n' :: r, p⟩
      (.matched [tree] ⟨'\n' :: r, p.afterAll d.written⟩) ∧
    TopNode.ofTree? tree = some (.declarations [d.asRead p] p)

theorem reads_typeDeclaration (n : Name) {t : PlainType} (ht : t.appliesTypes = true) :
    ReadsDeclaration (.type n t) := by
  intro r p
  have hwritten : (PlainDeclaration.type n t).written ++ '\n' :: r =
      "type".toList ++ (' ' :: (n.chars ++ ' ' :: (t.written 0 ++ '\n' :: r))) := by
    simp [PlainDeclaration.written_type]
  set behind := ' ' :: (t.written 0 ++ '\n' :: r) with hbehind
  have hbehind' : endsWord behind = true := endsWord_cons (by decide)
  have hbefore : Before (.reserved "type") true ⟨"type".toList ++ ' ' :: (n.chars ++ behind), p⟩ :=
    before_start (stands_reserved (by decide) (by decide) (endsWord_cons (by decide)))
  have hkeyword := runs_keyword (g := grammar) (k := "type") (p := p)
    (r := ' ' :: (n.chars ++ behind)) (by decide) (passed_none _) (endsWord_cons (by decide))
  have hgroup : Runs grammar (.enclosed .round (.many (typeSpec >> .terminal .terminator)))
      ⟨[' '] ++ (n.chars ++ behind), p.afterAll "type".toList⟩ .absent :=
    runs_absent (before_name n rfl hbehind') 3 (by decide)
  have hword := runs_word (g := grammar) (p := p.afterAll "type".toList) n (passed_space _) hbehind'
  obtain ⟨tree, htype, htree⟩ := runs_underlying (r := r)
    (p := (p.afterAll "type".toList).afterAll ([' '] ++ n.chars)) (reads_type t ht 0)
  have hspec := runs_node (k := .typeSpec) (runs_sequence hword htype)
  have hnode := runs_node (k := .typeDeclaration)
    (runs_sequence hkeyword (runs_other hgroup hspec))
  rw [hwritten]
  refine ⟨_, runs_other (runs_absent hbefore 3 (by decide)) (.phrase
    (runs_alternative hbefore 3 1 (by decide) (runs_first (runs_ending hnode ?_)))), ?_⟩
  · simp [PlainDeclaration.written_type, afterAll_append, afterAll_cons]
  · simp [TopNode.ofTree?, List.filterMap, TopNode.spec?, Tree.pos, TypeSyntax.ofTrees,
      TypeSyntax.ofTree?, htree, PlainDeclaration.asRead, afterAll_append, afterAll_cons]

/-! ## Functions -/

/-- Empty parentheses and braces. -/
theorem runs_emptyBody :
    ∃ ts, Runs grammar (.phrase .parameters >> result true >> maybe (continued true block))
      ⟨'(' :: ')' :: ' ' :: '{' :: '}' :: '\n' :: r, p⟩
      (.matched ts ⟨'\n' :: r, p.afterAll ['(', ')', ' ', '{', '}']⟩) := by
  have hparameters := runs_noParameters (p := p) (r := ' ' :: '{' :: '}' :: '\n' :: r)
    (passed_none _)
  have hbefore : Before (.opening .curly) true
      ⟨[' '] ++ '{' :: '}' :: '\n' :: r, p.afterAll ['(', ')']⟩ :=
    before_here (stands_opening .curly) rfl
  have hresult : Runs grammar (result true) _ (.matched [] _) :=
    runs_nothing hbefore 3 (by decide)
  have hnone : Runs grammar statements
      ⟨'}' :: '\n' :: r, (p.afterAll ['(', ')']).afterAll [' ', '{']⟩ (.matched [] _) :=
    runs_nothing (before_start (stands_closing .curly)) 6 (by decide)
  have hblock : Runs grammar block ⟨[' '] ++ '{' :: '}' :: '\n' :: r, p.afterAll ['(', ')']⟩ _ :=
    runs_bracketed (b := .curly) rfl hnone
  have hbody : Runs grammar (maybe (continued true block)) _ _ :=
    runs_first (runs_continued (sameLine_token (passed_space _) rfl) hblock)
  exact ⟨_, runs_ending (runs_sequence hparameters (runs_sequence hresult hbody))
    (by simp [afterAll_cons, Bracket.closing])⟩

theorem reads_functionDeclaration (n : Name) : ReadsDeclaration (.function n) := by
  intro r p
  have hwritten : (PlainDeclaration.function n).written ++ '\n' :: r =
      "func".toList ++ (' ' :: (n.chars ++ '(' :: ')' :: ' ' :: '{' :: '}' :: '\n' :: r)) := by
    simp [PlainDeclaration.written_function]
  set body := '(' :: ')' :: ' ' :: '{' :: '}' :: '\n' :: r with hbody
  have hbefore : Before (.reserved "func") true ⟨"func".toList ++ ' ' :: (n.chars ++ body), p⟩ :=
    before_start (stands_reserved (by decide) (by decide) (endsWord_cons (by decide)))
  have hkeyword := runs_keyword (g := grammar) (k := "func") (p := p)
    (r := ' ' :: (n.chars ++ body)) (by decide) (passed_none _) (endsWord_cons (by decide))
  have hword := runs_word (g := grammar) (p := p.afterAll "func".toList) n (passed_space _)
    (r := body) (endsWord_cons (by decide))
  have hnone : Runs grammar (maybe typeParameters)
      ⟨body, (p.afterAll "func".toList).afterAll ([' '] ++ n.chars)⟩ (.matched [] _) :=
    runs_nothing (before_start (stands_opening .round)) 3 (by decide)
  obtain ⟨ts, hrest⟩ := runs_emptyBody (r := r)
    (p := (p.afterAll "func".toList).afterAll ([' '] ++ n.chars))
  have hnode := runs_node (k := .functionDeclaration) (runs_sequence
    (.attempt (runs_sequence hkeyword hword)) (runs_sequence hnone hrest))
  rw [hwritten]
  refine ⟨_, runs_first (runs_alternative hbefore 3 2 (by decide)
    (runs_first (runs_ending hnode ?_))), ?_⟩
  · simp [PlainDeclaration.written_function, afterAll_append, afterAll_cons]
  · simp [TopNode.ofTree?, TopNode.function?, leafTexts, Tree.pos, PlainDeclaration.asRead,
      afterAll_cons]

/-! ## Methods -/

/-- A name and a type between parentheses are a list of parameters. -/
theorem runs_receiver (n : Name) {s : Position → TypeSyntax} (h : ReadsType u s) :
    ∃ ts, Runs grammar (.phrase .parameters) ⟨' ' :: '(' :: (n.chars ++ ' ' :: (u ++ ')' :: r)), p⟩
      (.matched (.leaf "(" (p.afterAll [' ']) :: ts)
        ⟨r, p.afterAll (' ' :: '(' :: (n.chars ++ ' ' :: (u ++ [')'])))⟩) := by
  have hfollows : Follows false (')' :: r) := follows_closing (b := .round) (by decide)
  set q := p.afterAll [' ', '('] with hq
  have hword := runs_word (g := grammar) (p := q) (r := ' ' :: (u ++ ')' :: r)) n (passed_none _)
    (endsWord_cons (by decide))
  have hdots : Runs grammar (maybe (mark "...")) ⟨' ' :: (u ++ ')' :: r), q.afterAll n.chars⟩
      (.matched [] ⟨' ' :: (u ++ ')' :: r), q.afterAll n.chars⟩) := by
    have hnone : ∀ m ∈ .opening .square :: typeStarts, (maybe (mark "...") : GoRule).peek m true
        (peekPhrase grammar m true 3) = some true := by decide
    rcases h.starts hfollows with ⟨m, hm, hstands⟩ | ⟨v, hv, -⟩
    · exact runs_nothing (before_here hstands (passed_space _)) 3
        (hnone m (List.mem_cons_of_mem _ hm))
    · rw [hv]
      exact runs_nothing (before_here (stands_opening .square) (passed_space _)) 3
        (hnone _ (by decide))
  obtain ⟨tree, htype, -⟩ := h.reads (p := q.afterAll n.chars) (passed_space _) hfollows
  have hparameter : Runs grammar parameter _ _ :=
    runs_first (.attempt (runs_sequence hword (runs_sequence hdots htype)))
  have hafter : Before (.closing .round) true
      ⟨')' :: r, (q.afterAll n.chars).afterAll ([' '] ++ u)⟩ := before_start (stands_closing .round)
  have hmore : Runs grammar (.many (.attempt (mark "," >> parameter))) _ (.matched [] _) :=
    runs_nothing hafter 3 (by decide)
  have hcomma : Runs grammar (maybe (mark ",")) _ (.matched [] _) :=
    runs_nothing hafter 3 (by decide)
  have hlist := runs_sequence (runs_first (b := .empty) (runs_sequence hparameter hmore)) hcomma
  have hbrackets := runs_bracketed (b := .round) (p := p) (passed_space _) hlist
  exact ⟨_, .phrase (runs_ending hbrackets
    (by simp [hq, afterAll_append, afterAll_cons, Bracket.closing]))⟩

theorem reads_method (receiver : Name) {t : PlainType} (ht : t.appliesTypes = true) (n : Name) :
    ReadsDeclaration (.method receiver t n) := by
  intro r p
  set body := '(' :: ')' :: ' ' :: '{' :: '}' :: '\n' :: r with hbody
  set behind := ' ' :: '(' :: (receiver.chars ++ ' ' :: (t.written 0 ++ ')' :: ' ' ::
    (n.chars ++ body))) with hbehind
  have hwritten : (PlainDeclaration.method receiver t n).written ++ '\n' :: r =
      "func".toList ++ behind := by
    simp [PlainDeclaration.written_method, hbehind, hbody]
  have hbefore : Before (.reserved "func") true ⟨"func".toList ++ behind, p⟩ :=
    before_start (stands_reserved (by decide) (by decide) (endsWord_cons (by decide)))
  have hkeyword := runs_keyword (g := grammar) (k := "func") (p := p) (r := behind)
    (by decide) (passed_none _) (endsWord_cons (by decide))
  -- no function: a parenthesis stands where its name would
  have hnoWord : Runs grammar word ⟨behind, p.afterAll "func".toList⟩ .absent :=
    runs_absent (before_here (stands_opening .round) (passed_space _)) 3 (by decide)
  have hfunction : Runs grammar functionDeclaration ⟨"func".toList ++ behind, p⟩ .absent :=
    .node (.first (.attempt (.second hkeyword hnoWord)) rfl)
  obtain ⟨ts, hreceiver⟩ := runs_receiver receiver (reads_type t ht 0)
    (r := ' ' :: (n.chars ++ body)) (p := p.afterAll "func".toList)
  have hword := runs_word (g := grammar) (r := body) n (passed_space _) (endsWord_cons (by decide))
    (p := (p.afterAll "func".toList).afterAll (' ' :: '(' ::
      (receiver.chars ++ ' ' :: (t.written 0 ++ [')']))))
  have hopen : Runs grammar (.beforeOpening .round) ⟨body, (p.afterAll "func".toList).afterAll
      (' ' :: '(' :: (receiver.chars ++ ' ' :: (t.written 0 ++ [')']))) |>.afterAll
      ([' '] ++ n.chars)⟩ (.matched [] _) := runs_opening .round
  obtain ⟨us, hrest⟩ := runs_emptyBody (r := r) (p := (p.afterAll "func".toList).afterAll
    (' ' :: '(' :: (receiver.chars ++ ' ' :: (t.written 0 ++ [')']))) |>.afterAll
    ([' '] ++ n.chars))
  have hhead := Runs.attempt (runs_sequence hkeyword (runs_sequence
    (runs_node (k := .parameterList) hreceiver) (runs_sequence hword hopen)))
  have hnode := runs_node (k := .methodDeclaration) (runs_sequence hhead hrest)
  rw [hwritten]
  refine ⟨_, runs_first (runs_alternative hbefore 3 2 (by decide)
    (runs_other hfunction (runs_ending hnode ?_))), ?_⟩
  · simp [PlainDeclaration.written_method, afterAll_append, afterAll_cons]
  · simp [TopNode.ofTree?, TopNode.function?, leafTexts, Tree.pos, PlainDeclaration.asRead,
      afterAll_append, afterAll_cons]

/-- Every declaration is read as what was written. -/
theorem reads_declaration {d : PlainDeclaration} (hd : d.appliesTypes = true) :
    ReadsDeclaration d := by
  cases d with
  | type n t => exact reads_typeDeclaration n hd
  | function n => exact reads_functionDeclaration n
  | method receiver t n => exact reads_method receiver hd n

/-! ## Files -/

theorem before_end {n : Next} : Before n true ⟨[], p⟩ where
  terminal t _ _ := by
    unfold Terminal.read
    simp [skipBlanks, blankLength, blankLengthFrom, Cursor.advance, length_nil]
  terminator _ _ := rfl
  opening b _ := by simp [skipBlanks, blankLength, blankLengthFrom, Cursor.advance]
  closing b _ := by simp [skipBlanks, blankLength, blankLengthFrom, Cursor.advance]
  sameLine := by simp [readSameLine, skipBlanks, blankLength, blankLengthFrom, Cursor.advance]

theorem ofTree?_leaf (text : String) (q : Position) : TopNode.ofTree? (.leaf text q) = none := rfl

/-- Declarations up to the end of a file; a file takes them in order. -/
theorem runs_declarations {ds : List PlainDeclaration}
    (hds : ∀ d ∈ ds, d.appliesTypes = true) : ∃ trees q, Runs grammar
        (.many (.attempt ((topDeclaration <|> .phrase .statement) >> .terminal .terminator)))
        ⟨declarationsWritten ds, p⟩ (.matched trees ⟨[], q⟩) ∧
      ∀ file, SourceFile.addNodes file (trees.filterMap TopNode.ofTree?) =
        .ok { file with declarations := file.declarations ++ declarationsAsRead p ds } := by
  induction ds generalizing p with
  | nil =>
    refine ⟨[], p, runs_nothing (before_end (n := .closing .round)) 6 (by decide), ?_⟩
    intro file
    simp [SourceFile.addNodes, declarationsAsRead]
  | cons d ds ih =>
    obtain ⟨tree, hitem, htree⟩ := reads_declaration (hds d (List.mem_cons_self ..))
      (r := declarationsWritten ds) (p := p)
    have hline := runs_terminal (g := grammar) (terminator_read (p := p.afterAll d.written)
      (r := declarationsWritten ds) (passed_none _))
    obtain ⟨trees, q, hmore, htrees⟩ := ih (fun d hd => hds d (List.mem_cons_of_mem _ hd))
      (p := (p.afterAll d.written).after '\n')
    refine ⟨_, q, .again (.attempt (runs_sequence hitem hline)) hmore, ?_⟩
    intro file
    simp [List.filterMap, htree, ofTree?_leaf, SourceFile.addNodes, htrees, declarationsAsRead,
      afterAll_append, afterAll_cons]

/-- The clause at the top of a file. -/
theorem runs_clause (n : Name) : ∃ tree,
    Runs grammar (topDeclaration <|> .phrase .statement)
      ⟨"package".toList ++ ' ' :: (n.chars ++ '\n' :: r), p⟩
      (.matched [tree] ⟨'\n' :: r, p.afterAll ("package".toList ++ ' ' :: n.chars)⟩) ∧
    TopNode.ofTree? tree = some (.package n.text p) := by
  have hkeyword := runs_keyword (g := grammar) (k := "package") (p := p)
    (r := ' ' :: (n.chars ++ '\n' :: r)) (by decide) (passed_none _) (endsWord_cons (by decide))
  have hword := runs_word (g := grammar) (r := '\n' :: r)
    (p := p.afterAll "package".toList) n (passed_space _) (endsWord_cons (by decide))
  have hnode := runs_node (k := .packageClause) (runs_sequence hkeyword hword)
  refine ⟨_, runs_first (runs_first (runs_ending hnode ?_)), ?_⟩
  · simp [afterAll_cons]
  · simp [TopNode.ofTree?, leafTexts, Tree.pos]

theorem trees?_written {f : PlainFile} (hf : f.appliesTypes = true) :
    ∃ ts, trees? f.written = some ts ∧
    SourceFile.ofNodes (ts.filterMap TopNode.ofTree?) = .ok f.asRead := by
  obtain ⟨clause, hclause, htop⟩ := runs_clause f.package
    (r := declarationsWritten f.declarations) (p := .start)
  have hline := runs_terminal (g := grammar) (terminator_read
    (p := Position.start.afterAll ("package".toList ++ ' ' :: f.package.chars))
    (r := declarationsWritten f.declarations) (passed_none _))
  obtain ⟨trees, q, hmore, htrees⟩ := runs_declarations (List.all_eq_true.1 hf)
    (p := (Position.start.afterAll ("package".toList ++ ' ' :: f.package.chars)).after '\n')
  have hnone : Runs grammar (maybe topDeclaration) ⟨[], q⟩ (.matched [] ⟨[], q⟩) :=
    runs_nothing (before_end (n := .closing .round)) 6 (by decide)
  have hfile : Runs grammar sourceFile (.ofChars f.written) _ :=
    runs_sequence (.again (.attempt (runs_sequence hclause hline)) hmore) hnone
  refine ⟨_, trees?_eq_some.2 ⟨_, hfile, rfl⟩, ?_⟩
  simp [List.filterMap, htop, ofTree?_leaf, SourceFile.ofNodes, htrees, PlainFile.asRead,
    afterAll_append, afterAll_cons]

/-- **A file in its plain spelling is read as what was written**: its package, and its declarations
in order, with their types, field names, tags, receivers and places. The brackets behind an embedded
name hold an argument as long as no operand comes first in them. -/
theorem parse_written {f : PlainFile} (hf : f.appliesTypes = true) :
    parse (String.ofList f.written) = .ok f.asRead := by
  obtain ⟨ts, htrees, hfile⟩ := trees?_written hf
  rw [parse_of_chars htrees (by change some 'p' ≠ _; decide), hfile]

/-- A struct that embeds `List`, applied to a name, and `Base`. -/
def embeddedPair (argument : Name) : PlainFile :=
  ⟨⟨"pairs", by decide⟩, [.type ⟨"Pair", by decide⟩ (.struct
    [.embeddedGeneric ⟨"List", by decide⟩ (.name argument) none,
      .embedded false none ⟨"Base", by decide⟩ none])]⟩

theorem parse_written_pair : (embeddedPair intName).written =
      "package pairs\ntype Pair struct \x7b\n\tList[int]\n\tBase\n\x7d\n".toList ∧
    (embeddedPair intName).appliesTypes = true ∧
    parse (String.ofList (embeddedPair intName).written) = .ok ⟨"pairs", [.type "Pair" (.struct
      [.mk [] (.generic (.name "List")) none ⟨3, 2⟩, .mk [] (.name "Base") none ⟨4, 2⟩]) ⟨2, 6⟩]⟩ :=
  ⟨by decide, by decide, parse_written (by decide)⟩

/-- The name `iota`, an operand by itself. -/
def iotaName : Name := ⟨"iota", by decide⟩

/-- Where an operand comes first in the brackets, the two lines are one field, an array. -/
theorem parse_operandPair : ∃ file,
    parse (String.ofList (embeddedPair iotaName).written) = .ok file ∧
    (file.structs.flatMap Prod.snd).map FieldSyntax.names = [["List"]] ∧
    file ≠ (embeddedPair iotaName).asRead := by
  have hnames : (parse (String.ofList (embeddedPair iotaName).written)).map
      (fun file => (file.structs.flatMap Prod.snd).map FieldSyntax.names) = .ok [["List"]] := by
    decide
  obtain ⟨file, hparse, hnames⟩ := map_ok_iff.1 hnames
  refine ⟨file, hparse, hnames, ?_⟩
  rintro rfl
  revert hnames
  decide

end SdkGen.Go
