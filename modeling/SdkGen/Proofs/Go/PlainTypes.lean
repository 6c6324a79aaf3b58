import SdkGen.Proofs.Go.PlainNames

/-!
# Reading types in their plain spelling

* `ReadsType`: a text is read as a type wherever it stands.
* `reads_name`, `reads_pointer`, `reads_slice` and so on: one rule for each form of a type.
-/

namespace SdkGen.Go

open Rule

variable {g : Phrase → GoRule} {p : Position} {bs u r : List Char} {c d e : Cursor}

/-! ## Types -/

/-- The tokens that types start with, but for the brackets of slices and arrays. -/
def typeStarts : List Next :=
  [.name, .mark "*", .opening .round, .reserved "struct", .reserved "interface", .reserved "map",
    .reserved "chan", .reserved "func"]

/-- A text that starts as a type does. A bracket is followed by its end or a number, which type
arguments and parameters are not. -/
def StartsType (cs : List Char) : Prop :=
  (∃ n ∈ typeStarts, Stands n cs) ∨
    ∃ v, cs = '[' :: v ∧ (Stands (.closing .square) v ∨ Stands .number v)

/-- A text is read as a type wherever it stands; the syntax depends on the place. -/
structure ReadsType (u : List Char) (s : Position → TypeSyntax) : Prop where
  starts : ∀ {lines : Bool} {r : List Char}, Follows lines r → StartsType (u ++ r)
  reads : ∀ {lines : Bool} {bs r : List Char} {p : Position}, isPassed false bs = true →
    Follows lines r → ∃ tree,
      Runs grammar (.phrase (.type lines)) ⟨bs ++ (u ++ r), p⟩
        (.matched [tree] ⟨r, p.afterAll (bs ++ u)⟩) ∧
      TypeSyntax.ofTree? tree = some (s (p.afterAll bs))

theorem StartsType.head_ne {cs : List Char} (h : StartsType cs) : cs.head? ≠ some '=' := by
  rcases h with ⟨n, hn, hstands⟩ | ⟨v, rfl, -⟩
  · intro heq
    cases cs with
    | nil => cases heq
    | cons ch cs =>
      cases heq
      have hmay : ∀ n ∈ typeStarts, n.may (.mark ["=", "=="]) = false := by decide
      have := hstands.length _ (hmay n hn)
      have hmark : longestMark marks ('=' :: cs) = "=" ∨ longestMark marks ('=' :: cs) = "==" := by
        cases cs with
        | nil => exact .inl (by simp [longestMark, marks])
        | cons ch cs =>
          by_cases hch : '=' = ch
          · subst hch
            exact .inr (by simp [longestMark, marks]; decide)
          · exact .inl (by simp [longestMark, marks, hch])
      rcases hmark with hmark | hmark <;> simp [Terminal.length, hmark] at this
  · simp

theorem reads_name (package : Option Name) (n : Name) :
    ReadsType (nameWritten package n) fun _ => nameAsRead package n := by
  have hstands : ∀ r, endsWord r = true → Stands .name (nameWritten package n ++ r) := by
    intro r hr
    cases package with
    | none => exact stands_name n.isName hr
    | some q =>
      simp only [nameWritten, List.append_assoc, List.cons_append]
      exact stands_name q.isName (endsWord_cons (by decide))
  refine ⟨fun hr => .inl ⟨.name, by decide, hstands _ hr.endsWord⟩, ?_⟩
  intro lines bs r p hbs hr
  refine ⟨appliedTree package n (p.afterAll bs) [], ?_, ?_⟩
  · have hbefore := before_here (p := p) (hstands r hr.endsWord) hbs
    have hnamed := runs_namedType (p := p) package n (isPassed_lines hbs) hr
    exact .phrase (runs_alternative hbefore 3 9 (by cases lines <;> decide) hnamed)
  · simp [appliedTree, TypeSyntax.ofTree?, TypeSyntax.ofTrees, ofTree?_name]

/-- A derivation for one form of a type, whatever the places are called. -/
theorem reads_of {lines : Bool} {v : List Char} {tree : Tree} {q : Position} {s : TypeSyntax}
    (hv : u ++ r = v) (hrun : Runs grammar (type lines) ⟨bs ++ v, p⟩ (.matched [tree] ⟨r, q⟩))
    (hq : q = p.afterAll (bs ++ u)) (htree : TypeSyntax.ofTree? tree = some s) :
    ∃ tree, Runs grammar (.phrase (.type lines)) ⟨bs ++ (u ++ r), p⟩
        (.matched [tree] ⟨r, p.afterAll (bs ++ u)⟩) ∧ TypeSyntax.ofTree? tree = some s := by
  subst hv hq
  exact ⟨tree, .phrase hrun, htree⟩

theorem reads_pointer {s : Position → TypeSyntax} (h : ReadsType u s) :
    ReadsType ('*' :: u) fun p => .pointer (s (p.afterAll ['*'])) := by
  have hstands : ∀ {lines r}, Follows lines r → Stands (.mark "*") ('*' :: (u ++ r)) :=
    fun hr => stands_star (h.starts hr).head_ne
  refine ⟨fun hr => .inl ⟨.mark "*", by decide, hstands hr⟩, ?_⟩
  intro lines bs r p hbs hr
  obtain ⟨tree, hrun, htree⟩ := h.reads (p := p.afterAll (bs ++ ['*'])) (passed_none _) hr
  have hstar : Runs grammar (mark "*") ⟨bs ++ '*' :: (u ++ r), p⟩
      (.matched [.leaf "*" (p.afterAll bs)] ⟨u ++ r, p.afterAll (bs ++ ['*'])⟩) := by
    have hmark := longestMark_star (h.starts hr).head_ne
    exact runs_token (u := ['*']) (isPassed_lines hbs) (by simp [Terminal.length, hmark]; decide)
      (by decide)
  have hnode := runs_node (k := .pointerType) (runs_sequence hstar hrun)
  refine reads_of rfl (runs_first hnode) ?_ ?_
  · simp [afterAll_append, afterAll_cons]
  · simp [TypeSyntax.ofTree?, TypeSyntax.ofTrees, htree, afterAll_append, afterAll_cons]

/-! ## Brackets -/

theorem reads_wrapped {s : Position → TypeSyntax} (h : ReadsType u s) :
    ReadsType ('(' :: (u ++ [')'])) fun p => s (p.afterAll ['(']) := by
  have hwritten : ∀ r, ('(' :: (u ++ [')'])) ++ r = '(' :: (u ++ ')' :: r) := by simp
  have hstands : ∀ r, Stands (.opening .round) ('(' :: r) := fun r => stands_opening .round
  refine ⟨fun {_ r} _ => .inl ⟨.opening .round, by decide, hwritten r ▸ hstands _⟩, ?_⟩
  intro lines bs r p hbs hr
  have hbefore := before_here (p := p) (hstands (u ++ ')' :: r)) hbs
  obtain ⟨tree, hrun, htree⟩ := h.reads (p := p.afterAll (bs ++ ['('])) (passed_none _)
    (follows_closing (b := .round) (r := r) (by decide))
  have hnode := runs_node (k := .parenthesizedType)
    (runs_bracketed (b := .round) (isPassed_lines hbs) hrun)
  refine reads_of (hwritten r) (runs_alternative hbefore 3 1 (by cases lines <;> decide)
    (runs_first hnode)) ?_ ?_
  · simp [afterAll_append, afterAll_cons, Bracket.closing]
  · simp [TypeSyntax.ofTree?, TypeSyntax.ofTrees, htree, afterAll_append, afterAll_cons]

/-- Any number of parentheses around a type. -/
theorem reads_wraps {s : Position → TypeSyntax} (h : ReadsType u s) (k : Nat) :
    ReadsType (List.replicate k '(' ++ (u ++ List.replicate k ')'))
      fun p => s (p.afterAll (List.replicate k '(')) := by
  induction k with
  | zero => simpa using h
  | succ k ih =>
    have := reads_wrapped ih
    simp only [List.append_assoc, ← List.replicate_succ'] at this
    exact this


theorem reads_slice {s : Position → TypeSyntax} (h : ReadsType u s) :
    ReadsType ('[' :: ']' :: u) fun p => .slice (s (p.afterAll ['[', ']'])) := by
  refine ⟨fun _ => .inr ⟨_, rfl, .inl (stands_closing .square)⟩, ?_⟩
  intro lines bs r p hbs hr
  have hbefore : Before (.opening .square) true ⟨bs ++ '[' :: ']' :: (u ++ r), p⟩ :=
    before_here (stands_opening .square) hbs
  obtain ⟨tree, hrun, htree⟩ := h.reads
    (p := (p.afterAll (bs ++ ['['])).afterAll [']']) (passed_none _) hr
  have hbrackets : Runs grammar (.enclosed .square .empty) ⟨bs ++ '[' :: ']' :: (u ++ r), p⟩ _ :=
    runs_bracketed (b := .square) (isPassed_lines hbs) (.empty _)
  have hnode := runs_node (k := .sliceType) (runs_sequence (.attempt hbrackets) hrun)
  refine reads_of rfl (runs_alternative hbefore 3 2 (by cases lines <;> decide)
    (runs_first (runs_first hnode))) ?_ ?_
  · simp [afterAll_append, afterAll_cons]
  · simp [TypeSyntax.ofTree?, TypeSyntax.ofTrees, htree, afterAll_append, afterAll_cons]

/-- Digits are an expression. -/
theorem runs_number {ds : List Char} (hds : IsDecimal ds) :
    Runs grammar innerExpression ⟨ds ++ ']' :: r, p⟩
      (.matched [.leaf (String.ofList ds) p] ⟨']' :: r, p.afterAll ds⟩) := by
  have hstands := stands_number (r := ']' :: r) hds
  have hbefore : Before .number true ⟨ds ++ ']' :: r, p⟩ := before_start hstands
  have hafter : Before (.closing .square) true ⟨']' :: r, p.afterAll ds⟩ :=
    before_start (stands_closing .square)
  have hdigits : ds.head?.any startsToken = true := by
    have := hstands.start
    obtain ⟨d, ds, rfl⟩ := List.exists_cons_of_ne_nil hds.ne_nil
    exact this
  have hnumber := runs_token (g := grammar) (t := .number) (p := p) (passed_none _)
    (length_number (r := r) hds) hdigits
  have hoperand : Runs grammar (operand .inner) ⟨ds ++ ']' :: r, p⟩ _ :=
    runs_alternative hbefore 3 8 (by decide) (runs_first hnumber)
  have hsigns : Runs grammar (.many unaryOperator) ⟨ds ++ ']' :: r, p⟩ (.matched [] _) :=
    runs_nothing hbefore 3 (by decide)
  have hends : Runs grammar (.many (continued false ((selector .inner <|> subscript false) >>
      endOfOperand false <|> arguments))) ⟨']' :: r, p.afterAll ds⟩ (.matched [] _) :=
    runs_nothing hafter 3 (by decide)
  have hrest : Runs grammar (expressionRest .inner) ⟨']' :: r, p.afterAll ds⟩ (.matched [] _) :=
    runs_nothing hafter 3 (by decide)
  exact .phrase (runs_sequence hsigns (runs_sequence (runs_sequence hoperand hends) hrest))

theorem reads_array {ds : List Char} (hds : IsDecimal ds) {s : Position → TypeSyntax}
    (h : ReadsType u s) : ReadsType ('[' :: (ds ++ ']' :: u)) fun p =>
      .array (s (p.afterAll ('[' :: (ds ++ [']'])))) := by
  refine ⟨fun {_ r} _ => .inr ⟨ds ++ ']' :: (u ++ r), by simp, .inr (stands_number hds)⟩, ?_⟩
  intro lines bs r p hbs hr
  have hbefore : Before (.opening .square) true ⟨bs ++ '[' :: (ds ++ ']' :: (u ++ r)), p⟩ :=
    before_here (stands_opening .square) hbs
  obtain ⟨tree, hrun, htree⟩ := h.reads
    (p := ((p.afterAll (bs ++ ['['])).afterAll ds).afterAll [']']) (passed_none _) hr
  have hopen := bracket_read (c := '[') (r := ds ++ ']' :: (u ++ r)) (p := p)
    (isPassed_lines hbs) (by decide)
  have hslice : Runs grammar (.node .sliceType (.attempt (.enclosed .square .empty) >>
      .phrase (.type lines))) ⟨bs ++ '[' :: (ds ++ ']' :: (u ++ r)), p⟩ .absent := by
    have hnumber : Before .number true ⟨ds ++ ']' :: (u ++ r), p.afterAll (bs ++ ['['])⟩ :=
      before_start (stands_number hds)
    have hbrackets := Runs.enclosed (b := .square) hopen
      (.empty (g := grammar) ⟨ds ++ ']' :: (u ++ r), p.afterAll (bs ++ ['['])⟩)
    rw [Outcome.closedBy, readBracket_absent (hnumber.closing .square rfl)] at hbrackets
    exact .node (.first (.attempt hbrackets) rfl)
  have hsize : Runs grammar (.enclosed .square innerExpression)
      ⟨bs ++ '[' :: (ds ++ ']' :: (u ++ r)), p⟩ _ :=
    runs_bracketed (b := .square) (isPassed_lines hbs) (runs_number hds)
  have hnode := runs_node (k := .arrayType) (runs_sequence hsize hrun)
  refine reads_of (v := '[' :: (ds ++ ']' :: (u ++ r))) (by simp)
    (runs_alternative hbefore 3 2 (by cases lines <;> decide)
      (runs_first (runs_other hslice hnode))) ?_ ?_
  · simp [afterAll_append, afterAll_cons]
  · simp [TypeSyntax.ofTree?, TypeSyntax.ofTrees, htree, afterAll_append, afterAll_cons]

/-! ## Types behind a keyword -/

/-- A keyword behind blanks. -/
theorem runs_keyword {k : String} (hk : IsWord k.toList) (hbs : isPassed true bs = true)
    (hr : endsWord r = true) :
    Runs g (keyword k) ⟨bs ++ (k.toList ++ r), p⟩
      (.matched [.leaf k (p.afterAll bs)] ⟨r, p.afterAll (bs ++ k.toList)⟩) := by
  have hstart : k.toList.head?.any startsToken = true := by
    have := hk.start
    cases h : k.toList with
    | nil => simp [h] at this
    | cons c w => simpa using wordStart_starts (by simpa [h] using this)
  have := runs_token (g := g) (t := .keyword k) (p := p) hbs (length_keyword hk hr) hstart
  rw [String.ofList_toList] at this
  exact this

/-- The name `int`. -/
def intName : Name := ⟨"int", by decide⟩

/-- The name `string`. -/
def stringName : Name := ⟨"string", by decide⟩

theorem reads_map :
    ReadsType ("map".toList ++ '[' :: ("string".toList ++ ']' :: "int".toList)) fun _ => .map := by
  have hstands : ∀ r, Stands (.reserved "map") ("map".toList ++ '[' :: r) := fun r =>
    stands_reserved (by decide) (by decide) (endsWord_cons (by decide))
  have hwritten : ∀ r, ("map".toList ++ '[' :: ("string".toList ++ ']' :: "int".toList)) ++ r =
      "map".toList ++ '[' :: (stringName.chars ++ ']' :: (intName.chars ++ r)) := by
    intro r
    simp [Name.chars, stringName, intName]
  refine ⟨fun {_ r} _ => .inl ⟨.reserved "map", by decide, hwritten r ▸ hstands _⟩, ?_⟩
  intro lines bs r p hbs hr
  have hbefore := before_here (p := p)
    (hstands (stringName.chars ++ ']' :: (intName.chars ++ r))) hbs
  have hkeyword := runs_keyword (g := grammar) (k := "map") (p := p)
    (r := '[' :: (stringName.chars ++ ']' :: (intName.chars ++ r))) (by decide)
    (isPassed_lines hbs) (endsWord_cons (by decide))
  obtain ⟨key, hkey, -⟩ := (reads_name none stringName).reads
    (r := ']' :: (intName.chars ++ r)) (p := (p.afterAll (bs ++ "map".toList)).afterAll ['['])
    (passed_none _) (follows_closing (b := .square) (by decide))
  have hbrackets := runs_bracketed (b := .square) (p := p.afterAll (bs ++ "map".toList))
    (passed_none _) hkey
  obtain ⟨value, hvalue, -⟩ := (reads_name none intName).reads (r := r)
    (p := (((p.afterAll (bs ++ "map".toList)).afterAll ['[']).afterAll stringName.chars).afterAll
      [']']) (passed_none _) hr
  have hnode := runs_node (k := .mapType)
    (runs_sequence hkeyword (runs_sequence hbrackets hvalue))
  refine reads_of (hwritten r) (runs_alternative hbefore 3 5 (by cases lines <;> decide)
    (runs_first hnode)) ?_ ?_
  · simp [afterAll_append, afterAll_cons, nameWritten, Name.chars, stringName, intName]
  · simp [TypeSyntax.ofTree?]

theorem reads_channel : ReadsType ("chan".toList ++ ' ' :: "int".toList) fun _ => .channel := by
  have hstands : ∀ r, Stands (.reserved "chan") ("chan".toList ++ ' ' :: r) := fun r =>
    stands_reserved (by decide) (by decide) (endsWord_cons (by decide))
  have hwritten : ∀ r, ("chan".toList ++ ' ' :: "int".toList) ++ r =
      "chan".toList ++ ' ' :: (intName.chars ++ r) := by
    intro r
    simp [Name.chars, intName]
  refine ⟨fun {_ r} _ => .inl ⟨.reserved "chan", by decide, hwritten r ▸ hstands _⟩, ?_⟩
  intro lines bs r p hbs hr
  have hbefore := before_here (p := p) (hstands (intName.chars ++ r)) hbs
  have hkeyword := runs_keyword (g := grammar) (k := "chan") (p := p)
    (r := ' ' :: (intName.chars ++ r)) (by decide) (isPassed_lines hbs)
    (endsWord_cons (by decide))
  have hplain : Runs grammar (maybe (mark "<-"))
      ⟨[' '] ++ (intName.chars ++ r), p.afterAll (bs ++ "chan".toList)⟩ (.matched [] _) :=
    runs_nothing (before_name intName rfl hr.endsWord) 3 (by decide)
  obtain ⟨value, hvalue, -⟩ := (reads_name none intName).reads
    (r := r) (p := p.afterAll (bs ++ "chan".toList)) (passed_space _) hr
  have hnode := runs_node (k := .channelType) (runs_sequence
    (runs_first (b := mark "<-" >> keyword "chan") (runs_sequence hkeyword hplain)) hvalue)
  refine reads_of (hwritten r) (runs_alternative hbefore 3 6 (by cases lines <;> decide)
    (runs_first hnode)) ?_ ?_
  · simp [afterAll_append, afterAll_cons, nameWritten, Name.chars, intName]
  · simp [TypeSyntax.ofTree?]

/-- Empty parentheses are parameters. -/
theorem runs_noParameters (hbs : isPassed true bs = true) :
    Runs grammar (.phrase .parameters) ⟨bs ++ '(' :: ')' :: r, p⟩
      (.matched [.leaf "(" (p.afterAll bs), .leaf ")" (p.afterAll (bs ++ ['(']))]
        ⟨r, p.afterAll (bs ++ ['(', ')'])⟩) := by
  have hnone : Runs grammar (listed parameter) ⟨')' :: r, p.afterAll (bs ++ ['('])⟩
      (.matched [] _) :=
    runs_nothing (before_start (stands_closing .round)) 3 (by decide)
  refine .phrase (runs_ending (runs_bracketed (b := .round) hbs hnone) ?_)
  simp [afterAll_append, afterAll_cons, Bracket.closing]

theorem reads_function : ReadsType ("func".toList ++ ['(', ')']) fun _ => .function := by
  have hstands : ∀ r, Stands (.reserved "func") ("func".toList ++ '(' :: r) := fun r =>
    stands_reserved (by decide) (by decide) (endsWord_cons (by decide))
  have hwritten : ∀ r, ("func".toList ++ ['(', ')']) ++ r = "func".toList ++ '(' :: ')' :: r := by
    simp
  refine ⟨fun {_ r} _ => .inl ⟨.reserved "func", by decide, hwritten r ▸ hstands _⟩, ?_⟩
  intro lines bs r p hbs hr
  have hbefore := before_here (p := p) (hstands (')' :: r)) hbs
  have hkeyword := runs_keyword (g := grammar) (k := "func") (p := p) (r := '(' :: ')' :: r)
    (by decide) (isPassed_lines hbs) (endsWord_cons (by decide))
  have hparameters := runs_noParameters (r := r) (p := p.afterAll (bs ++ "func".toList))
    (passed_none _)
  have hresult := runs_follows (p := (p.afterAll (bs ++ "func".toList)).afterAll ['(', ')']) hr
    (peek_result lines)
  have hnode := runs_node (k := .functionType)
    (runs_sequence hkeyword (runs_sequence hparameters hresult))
  refine reads_of (hwritten r) (runs_alternative hbefore 3 7 (by cases lines <;> decide)
    (runs_first hnode)) ?_ ?_
  · simp [afterAll_append, afterAll_cons]
  · simp [TypeSyntax.ofTree?]

theorem reads_interface : ReadsType ("interface".toList ++ ['{', '}']) fun _ => .interface := by
  have hstands : ∀ r, Stands (.reserved "interface") ("interface".toList ++ '{' :: r) := fun r =>
    stands_reserved (by decide) (by decide) (endsWord_cons (by decide))
  have hwritten : ∀ r, ("interface".toList ++ ['{', '}']) ++ r =
      "interface".toList ++ '{' :: '}' :: r := by
    simp
  refine ⟨fun {_ r} _ => .inl ⟨.reserved "interface", by decide, hwritten r ▸ hstands _⟩, ?_⟩
  intro lines bs r p hbs hr
  have hbefore := before_here (p := p) (hstands ('}' :: r)) hbs
  have hkeyword := runs_keyword (g := grammar) (k := "interface") (p := p) (r := '{' :: '}' :: r)
    (by decide) (isPassed_lines hbs) (endsWord_cons (by decide))
  have hnone : Runs grammar (terminated interfaceElement)
      ⟨'}' :: r, (p.afterAll (bs ++ "interface".toList)).afterAll ['{']⟩ (.matched [] _) :=
    runs_nothing (before_start (stands_closing .curly)) 4 (by decide)
  have hbrackets := runs_bracketed (b := .curly)
    (p := p.afterAll (bs ++ "interface".toList)) (passed_none _) hnone
  have hnode := runs_node (k := .interfaceType) (runs_sequence hkeyword hbrackets)
  refine reads_of (hwritten r) (runs_alternative hbefore 3 4 (by cases lines <;> decide)
    (runs_first hnode)) ?_ ?_
  · simp [afterAll_append, afterAll_cons, Bracket.closing]
  · simp [TypeSyntax.ofTree?]

/-! ## Types applied to an argument -/

/-- One type between square brackets. -/
theorem runs_typeArguments {s : Position → TypeSyntax} (h : ReadsType u s) :
    ∃ parts, parts ≠ [] ∧ Runs grammar typeArguments ⟨'[' :: (u ++ ']' :: r), p⟩
      (.matched parts ⟨r, p.afterAll ('[' :: (u ++ [']']))⟩) := by
  have hfollows : Follows false (']' :: r) := follows_closing (b := .square) (by decide)
  obtain ⟨tree, hrun, -⟩ := h.reads (p := p.afterAll ['[']) (passed_none _) hfollows
  have hafter : Before (.closing .square) true ⟨']' :: r, (p.afterAll ['[']).afterAll u⟩ :=
    before_start (stands_closing .square)
  have hunion : Runs grammar (.many (continued false (mark "|" >> Rule.phrase (Phrase.type false))))
      ⟨']' :: r, (p.afterAll ['[']).afterAll u⟩ (.matched [] _) :=
    runs_nothing hafter 3 (by decide)
  have hmore : Runs grammar (Rule.many (.attempt (mark "," >> typeElement false)) >> maybe (mark ","))
      ⟨']' :: r, (p.afterAll ['[']).afterAll u⟩ (.matched [] _) :=
    runs_nothing hafter 3 (by decide)
  have hbrackets := runs_bracketed (b := .square) (p := p) (passed_none _)
    (runs_sequence (runs_sequence hrun hunion) hmore)
  refine ⟨_, List.cons_ne_nil _ _, runs_ending hbrackets ?_⟩
  simp [afterAll_append, afterAll_cons, Bracket.closing]

theorem runs_appliedName (lines : Bool) (n : Name) {s : Position → TypeSyntax} (h : ReadsType u s)
    (hbs : isPassed true bs = true) :
    ∃ parts, parts ≠ [] ∧ Runs grammar (namedType lines)
      ⟨bs ++ (n.chars ++ '[' :: (u ++ ']' :: r)), p⟩
      (.matched [appliedTree none n (p.afterAll bs) parts]
        ⟨r, p.afterAll (bs ++ (n.chars ++ '[' :: (u ++ [']'])))⟩) := by
  obtain ⟨parts, hne, hparts⟩ := runs_typeArguments (r := r) (p := p.afterAll (bs ++ n.chars)) h
  have hname := runs_typeName (p := p) (r := '[' :: (u ++ ']' :: r)) lines none n hbs
    (endsWord_cons (by decide))
    fun p => runs_absent (before_start (stands_opening .square)) 3
      (by cases lines <;> decide)
  have harguments : Runs grammar (maybe (continued lines typeArguments))
      ⟨'[' :: (u ++ ']' :: r), p.afterAll (bs ++ n.chars)⟩ _ :=
    runs_first (runs_continued (sameLine_token (passed_none _) rfl) hparts)
  have hnode := runs_node (k := .appliedType) (runs_sequence hname harguments)
  refine ⟨parts, hne, ?_⟩
  rw [pos_nameTree] at hnode
  refine runs_ending hnode ?_
  simp [afterAll_append, afterAll_cons]

theorem ofTree?_applied (n : Name) (p : Position) {parts : List Tree} (hne : parts ≠ []) :
    TypeSyntax.ofTree? (appliedTree none n p parts) = some (.generic (nameAsRead none n)) := by
  simp [appliedTree, TypeSyntax.ofTree?, TypeSyntax.ofTrees, ofTree?_name, hne]

theorem reads_generic (n : Name) {s : Position → TypeSyntax} (h : ReadsType u s) :
    ReadsType (n.chars ++ '[' :: (u ++ [']'])) fun _ => .generic (nameAsRead none n) := by
  have hwritten : ∀ r,
      (n.chars ++ '[' :: (u ++ [']'])) ++ r = n.chars ++ '[' :: (u ++ ']' :: r) := by
    simp
  have hstands : ∀ r, Stands .name (n.chars ++ '[' :: r) := fun r =>
    stands_name n.isName (endsWord_cons (by decide))
  refine ⟨fun {_ r} _ => .inl ⟨.name, by decide, hwritten r ▸ hstands _⟩, ?_⟩
  intro lines bs r p hbs hr
  obtain ⟨parts, hne, hnamed⟩ :=
    runs_appliedName (r := r) (p := p) lines n h (isPassed_lines hbs)
  have hbefore := before_here (p := p) (hstands (u ++ ']' :: r)) hbs
  exact reads_of (hwritten r) (runs_alternative hbefore 3 9 (by cases lines <;> decide)
    hnamed) rfl (ofTree?_applied n _ hne)

end SdkGen.Go
