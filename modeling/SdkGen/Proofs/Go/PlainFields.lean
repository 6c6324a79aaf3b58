import SdkGen.Proofs.Go.PlainLengths

/-!
# Reading struct fields in their plain spelling

* `reads_type`: every type is read as what was written.
* `reads_field`: so is every field line.
-/

namespace SdkGen.Go

open Rule

variable {p : Position} {bs bs' u r cs : List Char}

/-! ## Tags -/

/-- The tree of a tag that starts behind a place and a space. -/
def tagTrees (tag : Option TagLiteral) (p : Position) : List Tree :=
  match tag with
  | none => []
  | some t => [.leaf (String.ofList t.literal.written) (p.afterAll [' '])]

theorem follows_tagLine (tag : Option TagLiteral) : Follows true (tagWritten tag ++ '\n' :: r) := by
  cases tag with
  | none => exact follows_line
  | some t => exact follows_tag t.literal

theorem literal_starts (l : TextLiteral) : l.written.head?.any startsToken = true := by
  cases l <;> rfl

/-- A tag, or none, at the end of a line. -/
theorem runs_tag (tag : Option TagLiteral) :
    Runs grammar (maybe (continued true stringLiteral)) ⟨tagWritten tag ++ '\n' :: r, p⟩
      (.matched (tagTrees tag p) ⟨'\n' :: r, p.afterAll (tagWritten tag)⟩) := by
  cases tag with
  | none => exact runs_nothing (before_lineEnd (passed_none _)) 3 (by decide)
  | some t =>
    have htext : Runs grammar stringLiteral ⟨[' '] ++ (t.literal.written ++ '\n' :: r), p⟩ _ :=
      runs_token rfl (length_text t.isSound) (literal_starts t.literal)
    have hline : readSameLine ⟨[' '] ++ (t.literal.written ++ '\n' :: r), p⟩ = _ :=
      sameLine_token rfl (stands_text t.literal).start
    exact runs_first (runs_continued hline htext)

/-- A tag is the last leaf behind a type. -/
theorem lastLeaf?_tag (ts : List Tree) {tree : Tree} {s : TypeSyntax}
    (htree : TypeSyntax.ofTree? tree = some s) (tag : Option TagLiteral) :
    lastLeaf? (ts ++ tree :: tagTrees tag p) = tagText tag := by
  cases tag with
  | none =>
    cases tree with
    | leaf => cases htree
    | node => simp [lastLeaf?, tagTrees, tagText]
  | some t => simp [lastLeaf?, tagTrees, tagText, List.getLast?_append]

theorem ofTrees_tag {tree : Tree} {s : TypeSyntax} (htree : TypeSyntax.ofTree? tree = some s)
    (tag : Option TagLiteral) : TypeSyntax.ofTrees (tree :: tagTrees tag p) = [s] := by
  cases tag <;> simp [tagTrees, TypeSyntax.ofTrees, TypeSyntax.ofTree?, htree]

/-! ## Embedded fields -/

/-- The rule of an embedded field. -/
def embeddedField : GoRule :=
  .attempt (.look false (lengthAhead true) >>
    .node .embeddedField
      (maybe (mark "*") >> embeddedType >> maybe (continued true stringLiteral)) >>
    (.look true (.terminal .terminator) <|> .beforeClosing .curly))

/-- The rule of a field with names. -/
def namedField : GoRule :=
  .node .field (commaSeparated word >> .phrase (.type true) >>
    maybe (continued true stringLiteral))

/-- The end of a line ends an embedded field. -/
theorem runs_fieldEnd : Runs grammar (.look true (.terminal .terminator) <|> .beforeClosing .curly)
    ⟨'\n' :: r, p⟩ (.matched [] ⟨'\n' :: r, p⟩) := by
  have hread : Terminal.terminator.read ⟨'\n' :: r, p⟩ = _ := terminator_read (passed_none _)
  exact runs_first (.look (runs_terminal hread))

/-- A type, perhaps behind a star, and a tag are an embedded field, if no brackets with a length
stand behind a name. -/
theorem runs_embedded {c d : Cursor} {stars : List Tree} {tree : Tree} {q : Position}
    (tag : Option TagLiteral)
    (hlength : Runs grammar (.look false (lengthAhead true)) c (.matched [] c))
    (hstar : Runs grammar (maybe (mark "*")) c (.matched stars d))
    (hnamed : Runs grammar embeddedType d
      (.matched [tree] ⟨tagWritten tag ++ '\n' :: r, q⟩)) :
    Runs grammar field c (.matched (Tree.group .embeddedField (stars ++ tree :: tagTrees tag q))
      ⟨'\n' :: r, q.afterAll (tagWritten tag)⟩) := by
  have hparts := Runs.node (k := .embeddedField)
    (runs_sequence hstar (runs_sequence hnamed (runs_tag tag)))
  have hfield := runs_sequence hlength (runs_sequence hparts runs_fieldEnd)
  rw [List.append_nil, List.nil_append] at hfield
  exact runs_first (.attempt hfield)

/-- A field line is read as what was written. -/
def ReadsField (f : PlainField) : Prop :=
  ∀ (depth : Nat) {bs r : List Char} {p : Position}, isPassed true bs = true → ∃ tree,
    Runs grammar field ⟨bs ++ (f.written depth ++ '\n' :: r), p⟩
      (.matched [tree] ⟨'\n' :: r, p.afterAll (bs ++ f.written depth)⟩) ∧
    FieldSyntax.ofTree? tree = some (f.asRead depth (p.afterAll bs))

/-- A derivation for one form of a field, whatever the places are called. -/
theorem readsField_of {f : PlainField} {depth : Nat} {v : List Char} {tree : Tree} {q : Position}
    (hv : f.written depth ++ '\n' :: r = v)
    (hrun : Runs grammar field ⟨bs ++ v, p⟩ (.matched [tree] ⟨'\n' :: r, q⟩))
    (hq : q = p.afterAll (bs ++ f.written depth))
    (htree : FieldSyntax.ofTree? tree = some (f.asRead depth (p.afterAll bs))) :
    ∃ tree, Runs grammar field ⟨bs ++ (f.written depth ++ '\n' :: r), p⟩
        (.matched [tree] ⟨'\n' :: r, p.afterAll (bs ++ f.written depth)⟩) ∧
      FieldSyntax.ofTree? tree = some (f.asRead depth (p.afterAll bs)) := by
  subst hv hq
  exact ⟨tree, hrun, htree⟩

theorem ofTree?_embedded {tree : Tree} {s : TypeSyntax} (htree : TypeSyntax.ofTree? tree = some s)
    (tag : Option TagLiteral) (pos q : Position) :
    FieldSyntax.ofTree? (.node .embeddedField pos (tree :: tagTrees tag q)) =
      some (.mk [] s (tagText tag) pos) := by
  have hlast := lastLeaf?_tag (p := q) [] htree tag
  rw [List.nil_append] at hlast
  cases tree with
  | leaf => cases htree
  | node => simp [FieldSyntax.ofTree?, ofTrees_tag htree, FieldSyntax.ofParts, hlast]

theorem ofTree?_embeddedPointer {tree : Tree} {s : TypeSyntax}
    (htree : TypeSyntax.ofTree? tree = some s) (tag : Option TagLiteral) (star pos q : Position) :
    FieldSyntax.ofTree? (.node .embeddedField pos (.leaf "*" star :: tree :: tagTrees tag q)) =
      some (.mk [] (.pointer s) (tagText tag) pos) := by
  have hlast : lastLeaf? (.leaf "*" star :: tree :: tagTrees tag q) = _ :=
    lastLeaf?_tag [.leaf "*" star] htree tag
  have htypes : TypeSyntax.ofTrees (.leaf "*" star :: tree :: tagTrees tag q) = [s] := by
    simp [TypeSyntax.ofTrees, TypeSyntax.ofTree?, ← ofTrees_tag (p := q) htree tag]
  simp [FieldSyntax.ofTree?, htypes, FieldSyntax.ofParts, hlast]

/-- No star stands before a name. -/
theorem runs_noStar (n : Name) (hbs : isPassed true bs = true) (hr : endsWord r = true) :
    Runs grammar (maybe (mark "*")) ⟨bs ++ (n.chars ++ r), p⟩
      (.matched [] ⟨bs ++ (n.chars ++ r), p⟩) := by
  obtain ⟨onLine, hbefore⟩ := before_passed (p := p) (stands_name n.isName hr) hbs
  exact runs_nothing hbefore 3 (by cases onLine <;> decide)

/-- A name is an embedded type as it is. -/
theorem runs_embeddedName {o : Outcome} (n : Name) (hbs : isPassed true bs = true)
    (hr : endsWord r = true) (h : Runs grammar (namedType true) ⟨bs ++ (n.chars ++ r), p⟩ o) :
    Runs grammar embeddedType ⟨bs ++ (n.chars ++ r), p⟩ o := by
  obtain ⟨onLine, hbefore⟩ := before_passed (p := p) (stands_name n.isName hr) hbs
  exact runs_other (runs_absent hbefore 3 (by cases onLine <;> decide)) h

/-- A star before a name. -/
theorem runs_star (package : Option Name) (n : Name) (hbs : isPassed true bs = true) :
    Runs grammar (maybe (mark "*")) ⟨bs ++ '*' :: (nameWritten package n ++ r), p⟩
      (.matched [.leaf "*" (p.afterAll bs)] ⟨nameWritten package n ++ r, p.afterAll (bs ++ ['*'])⟩)
    := by
  have hmark := longestMark_star (nameWritten_head_ne (r := r) package n (c := '=') (by decide))
  exact runs_first (runs_token (u := ['*']) hbs (by simp [Terminal.length, hmark]; decide)
    (by decide))

theorem ofTree?_bareName (package : Option Name) (n : Name) (p : Position) :
    TypeSyntax.ofTree? (appliedTree package n p []) = some (nameAsRead package n) := by
  simp [appliedTree, TypeSyntax.ofTree?, TypeSyntax.ofTrees, ofTree?_name]

/-- A name, behind its package or not, that nothing goes on from is an embedded type. -/
theorem runs_embeddedPackaged (package : Option Name) (n : Name) (hbs : isPassed true bs = true)
    (hr : Follows true r) :
    Runs grammar embeddedType ⟨bs ++ (nameWritten package n ++ r), p⟩
      (.matched [appliedTree package n (p.afterAll bs) []]
        ⟨r, p.afterAll (bs ++ nameWritten package n)⟩) := by
  have hnamed := runs_namedType (p := p) package n hbs hr
  cases package with
  | none => exact runs_embeddedName n hbs hr.endsWord hnamed
  | some q =>
    have hword : nameWritten (some q) n ++ r = q.chars ++ '.' :: (n.chars ++ r) := by
      simp [nameWritten]
    rw [hword] at hnamed ⊢
    exact runs_embeddedName q hbs (endsWord_cons (by decide)) hnamed

theorem reads_embedded (star : Bool) (package : Option Name) (n : Name) (tag : Option TagLiteral) :
    ReadsField (.embedded star package n tag) := by
  intro depth bs r p hbs
  have hline := follows_tagLine (r := r) tag
  cases star with
  | true =>
    have hstar := runs_star (r := tagWritten tag ++ '\n' :: r) (p := p) package n hbs
    have hnamed := runs_embeddedPackaged (p := p.afterAll (bs ++ ['*'])) package n (passed_none _)
      hline
    have hembedded := runs_embedded tag (runs_noLengthStar package n hbs) hstar hnamed
    refine readsField_of (by simp [PlainField.written]) hembedded ?_
      (ofTree?_embeddedPointer (ofTree?_bareName package n _) tag _ _ _)
    simp [PlainField.written, afterAll_append, afterAll_cons]
  | false =>
    have hstar : Runs grammar (maybe (mark "*"))
        ⟨bs ++ (nameWritten package n ++ (tagWritten tag ++ '\n' :: r)), p⟩
        (.matched [] ⟨bs ++ (nameWritten package n ++ (tagWritten tag ++ '\n' :: r)), p⟩) := by
      cases package with
      | none => exact runs_noStar n hbs hline.endsWord
      | some q =>
        have := runs_noStar (r := '.' :: (n.chars ++ (tagWritten tag ++ '\n' :: r))) (p := p) q hbs
          (endsWord_cons (by decide))
        simpa [nameWritten] using this
    have hnamed := runs_embeddedPackaged (p := p) package n hbs hline
    have hembedded := runs_embedded tag (runs_noLengthBare package n hbs hline) hstar hnamed
    refine readsField_of (by simp [PlainField.written]) hembedded ?_
      (ofTree?_embedded (ofTree?_bareName package n _) tag _ _)
    simp [PlainField.written, afterAll_append]

theorem reads_embeddedGeneric (base : Name) {t : PlainType} (tag : Option TagLiteral)
    (ht : t.startsOperand = false)
    (h : ∀ depth, ReadsType (t.written depth) fun p => t.asRead depth p) :
    ReadsField (.embeddedGeneric base t tag) := by
  intro depth bs r p hbs
  obtain ⟨parts, hne, hnamed⟩ := runs_appliedName
    (r := tagWritten tag ++ '\n' :: r) (p := p) true base (h depth) hbs
  have hstar := runs_noStar (p := p) base hbs
    (r := '[' :: (t.written depth ++ ']' :: (tagWritten tag ++ '\n' :: r)))
    (endsWord_cons (by decide))
  have htype := runs_embeddedName base hbs (endsWord_cons (by decide)) hnamed
  have hlength := runs_noLengthIn (p := p) base hbs (passed_none _) (endsWord_cons (by decide))
    fun _ => noOperand_type t ht depth
      (r := ']' :: (tagWritten tag ++ '\n' :: r)) (endsWord_cons (by decide))
  refine readsField_of (by simp [PlainField.written]) (runs_embedded tag hlength hstar htype) ?_
    (ofTree?_embedded (ofTree?_applied base _ hne) tag _ _)
  simp [PlainField.written, afterAll_append, afterAll_cons]

/-! ## Fields with names -/

/-- The tokens that may stand behind the first name of a field. -/
def goesOn : List Next := .mark "," :: typeStarts

/-- No type arguments stand where a bracket is followed by its end or a number. -/
theorem runs_notArguments {v : List Char} (hbs : isPassed false bs = true)
    (hv : Stands (.closing .square) v ∨ Stands .number v) :
    Runs grammar (maybe (continued true typeArguments)) ⟨bs ++ '[' :: v, p⟩ .refused := by
  have hopen := bracket_read (c := Bracket.square.opening) (r := v) (p := p) (isPassed_lines hbs)
    (by decide)
  have hinner : Runs grammar (typeElement false >>
      Rule.many (.attempt (mark "," >> typeElement false)) >> maybe (mark ","))
      ⟨v, p.afterAll (bs ++ [Bracket.square.opening])⟩ .absent := by
    rcases hv with hv | hv
    · exact runs_absent (before_start hv) 3 (by decide)
    · exact runs_absent (before_start hv) 3 (by decide)
  exact .left (runs_continued (sameLine_token hbs rfl) (.enclosed hopen hinner)) (by simp)

/-- A name before a comma or a type is no embedded field. -/
theorem runs_notEmbedded (n : Name) (bs' : List Char) (hbs : isPassed true bs = true)
    (hbs' : isPassed false bs' = true) (hr : endsWord (bs' ++ cs) = true)
    (hcs : StartsType cs ∨ Stands (.mark ",") cs) :
    Runs grammar embeddedField ⟨bs ++ (n.chars ++ (bs' ++ cs)), p⟩ .absent := by
  have hstar := runs_noStar (p := p) n hbs hr
  have hgoes : (∃ m ∈ goesOn, Stands m cs) ∨
      ∃ v, cs = '[' :: v ∧ (Stands (.closing .square) v ∨ Stands .number v) := by
    rcases hcs with (⟨m, hm, hstands⟩ | h) | h
    · exact .inl ⟨m, List.mem_cons_of_mem _ hm, hstands⟩
    · exact .inr h
    · exact .inl ⟨.mark ",", by decide, h⟩
  rcases hgoes with ⟨m, hm, hstands⟩ | ⟨v, rfl, hv⟩
  · -- the name is a whole type, but the field does not end behind it
    have hbefore : ∀ p, Before m true ⟨bs' ++ cs, p⟩ := fun p => before_here hstands hbs'
    have hdot : ∀ m ∈ goesOn, (continued true (mark "." >> word)).peek m true
        (peekPhrase grammar m true 3) = some false := by decide
    have hnone : ∀ m ∈ goesOn, (maybe (continued true typeArguments) : GoRule).peek m true
        (peekPhrase grammar m true 3) = some true := by decide
    have htag : ∀ m ∈ goesOn, (maybe (continued true stringLiteral) : GoRule).peek m true
        (peekPhrase grammar m true 3) = some true := by decide
    have hlengths : ∀ m ∈ goesOn, lengthBrackets.peek m true (peekPhrase grammar m true 3) =
        some false := by decide
    have hend : ∀ m ∈ goesOn, (.look true (.terminal .terminator) <|> .beforeClosing .curly :
        GoRule).peek m true (peekPhrase grammar m true 3) = some false := by decide
    have hlength := runs_noLength (p := p) n hbs hr
      (runs_absent (hbefore _) 3 (hlengths m hm)) rfl
    have hnamed := runs_bareName (p := p) none n hbs hr
      (fun p => runs_absent (hbefore p) 3 (hdot m hm))
      fun p => runs_nothing (hbefore p) 3 (hnone m hm)
    have hparts := Runs.node (k := .embeddedField) (runs_sequence hstar
      (runs_sequence (runs_embeddedName n hbs hr hnamed) (runs_nothing (hbefore _) 3 (htag m hm))))
    exact .attempt (.second hlength (.second hparts (runs_absent (hbefore _) 3 (hend m hm))))
  · -- what stands behind the name is taken for type arguments and breaks off
    have hdot : ∀ p,
        Runs grammar (continued true (mark "." >> word)) ⟨bs' ++ '[' :: v, p⟩ .absent :=
      fun p => runs_absent (before_here (stands_opening .square) hbs') 3 (by decide)
    have hname := runs_typeName (p := p) true none n hbs hr hdot
    have hnamed :
        Runs grammar (namedType true) ⟨bs ++ (n.chars ++ (bs' ++ '[' :: v)), p⟩ .refused :=
      .node (.second hname (runs_notArguments hbs' hv))
    have hparts : Runs grammar (maybe (mark "*") >> embeddedType >>
        maybe (continued true stringLiteral)) ⟨bs ++ (n.chars ++ (bs' ++ '[' :: v)), p⟩ .refused :=
      .second hstar (.first (runs_embeddedName n hbs hr hnamed) rfl)
    have hlength := runs_noLengthIn (p := p) n hbs hbs' hr fun _ =>
      hv.elim (noOperand_of_stands (by decide)) (noOperand_of_stands (by decide))
    exact .attempt (.second hlength (.first (.node hparts) rfl))

/-- The trees of names behind commas. -/
def moreTrees (p : Position) : List Name → List Tree
  | [] => []
  | n :: ns => .leaf "," p :: .leaf n.text (p.afterAll [',', ' ']) ::
      moreTrees (p.afterAll (',' :: ' ' :: n.chars)) ns

theorem endsWord_more (more : List Name) :
    endsWord ((more.flatMap fun n => ',' :: ' ' :: n.chars) ++ ' ' :: r) = true := by
  cases more with
  | nil => exact endsWord_cons (by decide)
  | cons n more =>
    rw [List.flatMap_cons]
    exact endsWord_cons (by decide)

/-- Names behind commas, up to a type. -/
theorem runs_moreNames (more : List Name) (hcs : StartsType cs) :
    Runs grammar (.many (mark "," >> word))
      ⟨(more.flatMap fun n => ',' :: ' ' :: n.chars) ++ ' ' :: cs, p⟩
      (.matched (moreTrees p more)
        ⟨' ' :: cs, p.afterAll (more.flatMap fun n => ',' :: ' ' :: n.chars)⟩) := by
  induction more generalizing p with
  | nil =>
    have hnone : ∀ m ∈ .opening .square :: typeStarts,
        (.many (mark "," >> word) : GoRule).peek m true
        (peekPhrase grammar m true 3) = some true := by decide
    rcases hcs with ⟨m, hm, hstands⟩ | ⟨v, rfl, -⟩
    · exact runs_nothing (before_here hstands (passed_space _)) 3
        (hnone m (List.mem_cons_of_mem _ hm))
    · exact runs_nothing (before_here (stands_opening .square) (passed_space _)) 3
        (hnone (.opening .square) (by decide))
  | cons n more ih =>
    have hcomma : Runs grammar (mark ",") ⟨[] ++ ([','] ++ ([' '] ++ (n.chars ++
        ((more.flatMap fun n => ',' :: ' ' :: n.chars) ++ ' ' :: cs)))), p⟩ _ :=
      runs_token rfl (by simp [Terminal.length, longestMark_comma]; decide) (by decide)
    have hword := runs_word (g := grammar) (p := p.afterAll [',']) n (passed_space _)
      (endsWord_more (r := cs) more)
    have hboth := runs_sequence hcomma hword
    have := Runs.again hboth ih
    rw [List.flatMap_cons]
    simpa [Outcome.repeated, moreTrees, afterAll_append, afterAll_cons] using this

theorem moreTrees_leaves (ns : List Name) (p : Position) :
    ∀ t ∈ moreTrees p ns, t.kind? = none := by
  induction ns generalizing p with
  | nil => simp [moreTrees]
  | cons n ns ih => simpa [moreTrees, Tree.kind?] using ih _

theorem fieldNames_word {name : String} (hname : IsWord name.toList) (q : Position)
    (ts : List Tree) : fieldNames (.leaf name q :: ts) = name :: fieldNames ts := by
  have hne : name ≠ "," := by
    rintro rfl
    exact absurd hname (by decide)
  have hleading : (Tree.leaf name q :: ts).takeWhile (fun t => t.kind?.isNone) =
      .leaf name q :: ts.takeWhile fun t => t.kind?.isNone := rfl
  simp only [fieldNames, leafTexts]
  rw [hleading]
  simp [hne]

theorem fieldNames_comma (q : Position) (ts : List Tree) :
    fieldNames (.leaf "," q :: ts) = fieldNames ts := by
  have hleading : (Tree.leaf "," q :: ts).takeWhile (fun t => t.kind?.isNone) =
      .leaf "," q :: ts.takeWhile fun t => t.kind?.isNone := rfl
  simp only [fieldNames, leafTexts]
  rw [hleading]
  simp

theorem fieldNames_more (ns : List Name) (p : Position) (rest : List Tree) {tree : Tree}
    (htree : tree.kind?.isSome = true) :
    fieldNames (moreTrees p ns ++ tree :: rest) = ns.map Name.text := by
  induction ns generalizing p with
  | nil =>
    cases tree with
    | leaf => cases htree
    | node => simp [moreTrees, fieldNames, Tree.kind?, leafTexts]
  | cons n ns ih =>
    rw [moreTrees, List.cons_append, List.cons_append, fieldNames_comma,
      fieldNames_word n.isName.toIsWord, ih, List.map_cons]

theorem ofTrees_leaves {ts us : List Tree} (hts : ∀ t ∈ ts, t.kind? = none) :
    TypeSyntax.ofTrees (ts ++ us) = TypeSyntax.ofTrees us := by
  induction ts with
  | nil => rfl
  | cons t ts ih =>
    cases t with
    | leaf =>
      rw [List.cons_append, TypeSyntax.ofTrees, TypeSyntax.ofTree?]
      exact ih fun t ht => hts t (by simp [ht])
    | node => simp [Tree.kind?] at hts

theorem ofTree?_named (first : Name) (more : List Name) {tree : Tree} {s : TypeSyntax}
    (htree : TypeSyntax.ofTree? tree = some s) (tag : Option TagLiteral) (pos q q' : Position) :
    FieldSyntax.ofTree? (.node .field pos
        (.leaf first.text pos :: (moreTrees q more ++ tree :: tagTrees tag q'))) =
      some (.mk ((first :: more).map Name.text) s (tagText tag) pos) := by
  have hlast :
      lastLeaf? (.leaf first.text pos :: (moreTrees q more ++ tree :: tagTrees tag q')) = _ :=
    lastLeaf?_tag (.leaf first.text pos :: moreTrees q more) htree tag
  have htypes : TypeSyntax.ofTrees
      (.leaf first.text pos :: (moreTrees q more ++ tree :: tagTrees tag q')) = [s] := by
    rw [TypeSyntax.ofTrees, TypeSyntax.ofTree?, ← ofTrees_tag (p := q') htree tag]
    exact ofTrees_leaves (moreTrees_leaves more q)
  have hkind : tree.kind?.isSome = true := by
    cases tree with
    | leaf => cases htree
    | node => rfl
  have hnames : fieldNames (.leaf first.text pos :: (moreTrees q more ++ tree :: tagTrees tag q')) =
      first.text :: more.map Name.text := by
    rw [fieldNames_word first.isName.toIsWord, fieldNames_more more q (tagTrees tag q') hkind]
  simp [FieldSyntax.ofTree?, htypes, FieldSyntax.ofParts, hlast, hnames]

theorem reads_named (first : Name) (more : List Name) (wraps : Nat) {t : PlainType}
    (tag : Option TagLiteral) (h : ∀ depth, ReadsType (t.written depth) fun p => t.asRead depth p) :
    ReadsField (.named first more wraps t tag) := by
  intro depth bs r p hbs
  have hline := follows_tagLine (r := r) tag
  have hwraps := reads_wraps (h depth) wraps
  have hstarts := hwraps.starts hline
  set wrapped := List.replicate wraps '(' ++ (t.written depth ++ List.replicate wraps ')') with hw
  set behind := (more.flatMap fun n => ',' :: ' ' :: n.chars) ++
    ' ' :: (wrapped ++ (tagWritten tag ++ '\n' :: r)) with hbehind
  have hnot : Runs grammar embeddedField ⟨bs ++ (first.chars ++ behind), p⟩ .absent := by
    cases more with
    | nil => exact runs_notEmbedded first [' '] hbs rfl (endsWord_more []) (.inl hstarts)
    | cons n more =>
      exact runs_notEmbedded first [] hbs rfl (endsWord_more (n :: more))
        (.inr stands_comma)
  have hfirst := runs_word (g := grammar) (p := p) (r := behind) first hbs (endsWord_more more)
  have hmore := runs_moreNames (p := p.afterAll (bs ++ first.chars)) more hstarts
  obtain ⟨tree, htype, htree⟩ := hwraps.reads
    (p := (p.afterAll (bs ++ first.chars)).afterAll (more.flatMap fun n => ',' :: ' ' :: n.chars))
    (passed_space _) hline
  have hnode := runs_node (k := .field)
    (runs_sequence (runs_sequence hfirst hmore) (runs_sequence htype (runs_tag tag)))
  refine readsField_of ?_ (runs_other hnot hnode) ?_ ?_
  · simp [PlainField.written, Name.joined, hbehind, hw]
  · simp [PlainField.written, Name.joined, hw, afterAll_append, afterAll_cons]
  · refine (ofTree?_named first more htree tag _ _ _).trans ?_
    simp [PlainField.asRead, Name.joined, afterAll_append, afterAll_cons, Tree.pos]

/-! ## Structs -/

theorem isPassed_tabs (k : Nat) : isPassed false (tabs k) = true := by
  unfold isPassed tabs
  rw [List.all_eq_true]
  intro b hb
  rw [List.eq_of_mem_replicate hb]
  decide

theorem fields_append (ts us : List Tree) :
    FieldSyntax.ofTrees (ts ++ us) = FieldSyntax.ofTrees ts ++ FieldSyntax.ofTrees us := by
  induction ts with
  | nil => simp [FieldSyntax.ofTrees]
  | cons t ts ih =>
    rw [List.cons_append, FieldSyntax.ofTrees, FieldSyntax.ofTrees, ih]
    cases FieldSyntax.ofTree? t <;> rfl

theorem fields_leaf (text : String) (q : Position) (ts : List Tree) :
    FieldSyntax.ofTrees (.leaf text q :: ts) = FieldSyntax.ofTrees ts := by
  rw [FieldSyntax.ofTrees, FieldSyntax.ofTree?]

/-- Field lines behind a line end, up to the end of the last one. -/
theorem runs_moreFields (depth k : Nat) {fs : List PlainField} (hfs : ∀ f ∈ fs, ReadsField f) :
    ∃ trees q, Runs grammar (.many (.attempt (.terminal .terminator >> field)))
        ⟨'\n' :: (fieldsWritten depth fs ++ (tabs k ++ '}' :: r)), p⟩
        (.matched trees ⟨'\n' :: (tabs k ++ '}' :: r), q⟩) ∧
      q.after '\n' = (p.after '\n').afterAll (fieldsWritten depth fs) ∧
      FieldSyntax.ofTrees trees = fieldsAsRead depth (p.after '\n') fs := by
  induction fs generalizing p with
  | nil =>
    have hline : Runs grammar (.terminal .terminator) ⟨'\n' :: (tabs k ++ '}' :: r), p⟩ _ :=
      runs_terminal (terminator_read (passed_none _))
    have hnone : Runs grammar field ⟨tabs k ++ '}' :: r, p.afterAll ['\n']⟩ .absent :=
      runs_absent (before_here (stands_closing .curly) (isPassed_tabs k)) 4 (by decide)
    exact ⟨[], p, .done (.attempt (.second hline hnone)), rfl, rfl⟩
  | cons f fs ih =>
    have hshape : fieldsWritten depth (f :: fs) ++ (tabs k ++ '}' :: r) =
        tabs depth ++ (f.written depth ++ '\n' ::
          (fieldsWritten depth fs ++ (tabs k ++ '}' :: r))) := by
      simp [fieldsWritten]
    rw [hshape]
    have hline := runs_terminal (g := grammar) (terminator_read (p := p)
      (r := tabs depth ++ (f.written depth ++ '\n' ::
        (fieldsWritten depth fs ++ (tabs k ++ '}' :: r))))
      (passed_none _))
    obtain ⟨tree, hfield, htree⟩ := hfs f (by simp) depth
      (r := fieldsWritten depth fs ++ (tabs k ++ '}' :: r)) (p := p.after '\n')
      (isPassed_lines (isPassed_tabs depth))
    obtain ⟨trees, q, hmore, hq, htrees⟩ := ih (fun f hf => hfs f (by simp [hf]))
      (p := (p.after '\n').afterAll (tabs depth ++ f.written depth))
    refine ⟨_, q, .again (.attempt (runs_sequence hline hfield)) hmore, ?_, ?_⟩
    · rw [hq, fieldsWritten]
      simp [afterAll_append, afterAll_cons]
    · simp [FieldSyntax.ofTrees, FieldSyntax.ofTree?, htree, htrees, fieldsAsRead, afterAll_append,
        afterAll_cons]

/-- Field lines between the braces of a struct. -/
theorem runs_fields (depth k : Nat) {fs : List PlainField} (hfs : ∀ f ∈ fs, ReadsField f) :
    ∃ trees q, Runs grammar (terminated field)
        ⟨'\n' :: (fieldsWritten depth fs ++ (tabs k ++ '}' :: r)), p⟩ (.matched trees q) ∧
      readBracket '}' q = .matched
        [.leaf "\x7d" ((p.after '\n').afterAll (fieldsWritten depth fs ++ tabs k))]
        ⟨r, (p.after '\n').afterAll (fieldsWritten depth fs ++ (tabs k ++ ['}']))⟩ ∧
      FieldSyntax.ofTrees trees = fieldsAsRead depth (p.after '\n') fs := by
  cases fs with
  | nil =>
    have hpassed : isPassed true ('\n' :: tabs k) = true := by
      have := isPassed_lines (isPassed_tabs k)
      unfold isPassed at this ⊢
      rw [List.all_cons, this]
      rfl
    have hclose : readBracket '}' ⟨('\n' :: tabs k) ++ '}' :: r, p⟩ = _ :=
      bracket_read hpassed (by decide)
    exact ⟨[], _, runs_nothing (before_later (stands_closing .curly) (passed_none _)
      (isPassed_lines (isPassed_tabs k))) 4 (by decide), hclose, rfl⟩
  | cons f fs =>
    have hshape : '\n' :: (fieldsWritten depth (f :: fs) ++ (tabs k ++ '}' :: r)) =
        ('\n' :: tabs depth) ++
          (f.written depth ++ '\n' :: (fieldsWritten depth fs ++ (tabs k ++ '}' :: r))) := by
      simp [fieldsWritten]
    have hpassed : isPassed true ('\n' :: tabs depth) = true := by
      have := isPassed_lines (isPassed_tabs depth)
      unfold isPassed at this ⊢
      rw [List.all_cons, this]
      rfl
    obtain ⟨tree, hfield, htree⟩ := hfs f (by simp) depth
      (r := fieldsWritten depth fs ++ (tabs k ++ '}' :: r)) (p := p) hpassed
    obtain ⟨trees, q, hmore, hq, htrees⟩ := runs_moreFields depth k (r := r)
      (p := p.afterAll (('\n' :: tabs depth) ++ f.written depth))
      (fun f hf => hfs f (List.mem_cons_of_mem _ hf))
    have hline : Runs grammar (.terminal .terminator) ⟨'\n' :: (tabs k ++ '}' :: r), q⟩ _ :=
      runs_terminal (terminator_read (passed_none _))
    have hclose := bracket_read (c := '}') (r := r) (p := q.after '\n')
      (isPassed_lines (isPassed_tabs k)) (by decide)
    have hend : q.after '\n' = (p.after '\n').afterAll (fieldsWritten depth (f :: fs)) := by
      rw [hq, fieldsWritten]
      simp [afterAll_append, afterAll_cons]
    rw [hshape]
    refine ⟨_, _, runs_first (runs_sequence hfield (runs_sequence hmore (runs_first hline))),
      ?_, ?_⟩
    · rw [afterAll_append _ _ (tabs k), afterAll_append _ _ (tabs k ++ ['}']), ← hend]
      exact hclose
    · simp [FieldSyntax.ofTrees, fields_append, FieldSyntax.ofTree?, htree, htrees, fieldsAsRead,
        afterAll_append, afterAll_cons]

theorem reads_struct {fs : List PlainField} (hfs : ∀ f ∈ fs, ReadsField f) (depth : Nat) :
    ReadsType ((PlainType.struct fs).written depth)
      fun p => (PlainType.struct fs).asRead depth p := by
  have hwritten : ∀ r, (PlainType.struct fs).written depth ++ r = "struct".toList ++ (' ' :: '{' ::
      '\n' :: (fieldsWritten (depth + 1) fs ++ (tabs depth ++ '}' :: r))) := by
    simp [written_struct]
  have hstands : ∀ r, Stands (.reserved "struct") ("struct".toList ++ ' ' :: r) := fun r =>
    stands_reserved (by decide) (by decide) (endsWord_cons (by decide))
  refine ⟨fun {_ r} _ => .inl ⟨.reserved "struct", by decide, hwritten r ▸ hstands _⟩, ?_⟩
  intro lines bs r p hbs hr
  set behind := '\n' :: (fieldsWritten (depth + 1) fs ++ (tabs depth ++ '}' :: r)) with hbehind
  have hbefore := before_here (p := p) (hstands ('{' :: behind)) hbs
  have hkeyword := runs_keyword (g := grammar) (k := "struct") (p := p) (r := ' ' :: '{' :: behind)
    (by decide) (isPassed_lines hbs) (endsWord_cons (by decide))
  have hopen := bracket_read (c := Bracket.curly.opening) (r := behind)
    (p := p.afterAll (bs ++ "struct".toList)) (passed_space _) (by decide)
  obtain ⟨trees, q, hfields, hclose, htrees⟩ := runs_fields (depth + 1) depth
    (r := r) (p := (p.afterAll (bs ++ "struct".toList)).afterAll [' ', '{']) hfs
  have hbraces := Runs.enclosed (b := .curly) hopen hfields
  rw [Outcome.closedBy, show Bracket.curly.closing = '}' from rfl, hclose] at hbraces
  have hnode := runs_node (k := .structType) (runs_sequence hkeyword hbraces)
  refine reads_of (hwritten r) (runs_alternative hbefore 3 3 (by cases lines <;> decide)
    (runs_first hnode)) ?_ ?_
  · simp [written_struct, afterAll_append, afterAll_cons]
  · simp [TypeSyntax.ofTree?, fields_leaf, fields_append, htrees, PlainType.asRead,
      afterAll_append, afterAll_cons]
    rfl

/-! ## All types -/

mutual

/-- **Every type is read as what was written**, if no argument of an embedded field in it starts
with an operand. -/
theorem reads_type : ∀ (t : PlainType), t.appliesTypes = true → ∀ (depth : Nat),
    ReadsType (t.written depth) fun p => t.asRead depth p
  | .name n, _, _ => reads_name none n
  | .qualified q n, _, _ => reads_name (some q) n
  | .pointer t, ht, depth => reads_pointer (reads_type t ht depth)
  | .slice t, ht, depth => reads_slice (reads_type t ht depth)
  | .array size t, ht, depth => reads_array size.isDecimal (reads_type t ht depth)
  | .map, _, _ => reads_map
  | .channel, _, _ => reads_channel
  | .function, _, _ => reads_function
  | .interface, _, _ => reads_interface
  | .generic base t, ht, depth => reads_generic base (reads_type t ht depth)
  | .struct fs, hfs, depth => reads_struct (reads_fields fs hfs) depth

/-- Every field line is read as what was written. -/
theorem reads_field : ∀ f : PlainField, f.appliesTypes = true → ReadsField f
  | .named first more wraps t tag, ht => reads_named first more wraps tag (reads_type t ht)
  | .embedded star package n tag, _ => reads_embedded star package n tag
  | .embeddedGeneric base t tag, hf => by
    obtain ⟨hargument, ht⟩ : !t.startsOperand ∧ t.appliesTypes := Bool.and_eq_true_iff.1 hf
    exact reads_embeddedGeneric base tag (by simpa using hargument) (reads_type t ht)

theorem reads_fields : ∀ (fs : List PlainField), fieldsApplyTypes fs = true →
    ∀ f ∈ fs, ReadsField f
  | [], _, _, hf => absurd hf List.not_mem_nil
  | f :: fs, hfs, f', hf => by
    obtain ⟨hfirst, hmore⟩ : f.appliesTypes ∧ fieldsApplyTypes fs := Bool.and_eq_true_iff.1 hfs
    rcases List.mem_cons.1 hf with heq | hf
    · exact heq ▸ reads_field f hfirst
    · exact reads_fields fs hmore f' hf

end

end SdkGen.Go
