import SdkGen.Go.SourceFile.OfTree
import SdkGen.Proofs.Go.Plain

/-!
# Reading names in their plain spelling

* `runs_token`, `runs_bracketed`: derivations for tokens and brackets.
* `Follows`: what may stand behind a type.
* `runs_namedType`: a name, behind its package or not, that nothing goes on from.
-/

namespace SdkGen.Go

open Rule

variable {g : Phrase → GoRule} {p : Position} {bs u r : List Char} {c d e : Cursor}

/-! ## Derivations -/

theorem runs_terminal {t : Terminal} {o : Outcome} (h : t.read c = o) :
    Runs g (.terminal t) c o := h ▸ .terminal t c

theorem runs_sequence {a b : GoRule} {ts us : List Tree} (ha : Runs g a c (.matched ts d))
    (hb : Runs g b d (.matched us e)) : Runs g (a >> b) c (.matched (ts ++ us) e) := .second ha hb

theorem runs_first {a b : GoRule} {ts : List Tree} (ha : Runs g a c (.matched ts d)) :
    Runs g (a <|> b) c (.matched ts d) := .left ha (by simp)

theorem runs_other {a b : GoRule} {o : Outcome} (ha : Runs g a c .absent) (hb : Runs g b c o) :
    Runs g (a <|> b) c o := .right ha hb

theorem runs_node {r : GoRule} {k : Kind} {t : Tree} {ts : List Tree}
    (h : Runs g r c (.matched (t :: ts) d)) :
    Runs g (.node k r) c (.matched [.node k t.pos (t :: ts)] d) := .node h

/-- The place behind what is read may be written otherwise. -/
theorem runs_ending {rule : GoRule} {ts : List Tree} {q q' : Position}
    (h : Runs g rule c (.matched ts ⟨r, q⟩)) (hq : q = q') :
    Runs g rule c (.matched ts ⟨r, q'⟩) := hq ▸ h

/-- A token behind blanks. -/
theorem runs_token {t : Terminal} (hbs : isPassed (!t.endsLine) bs = true)
    (hu : t.length (u ++ r) = u.length) (hstart : u.head?.any startsToken = true) :
    Runs g (.terminal t) ⟨bs ++ (u ++ r), p⟩
      (.matched [.leaf (String.ofList u) (p.afterAll bs)] ⟨r, p.afterAll (bs ++ u)⟩) :=
  runs_terminal (terminal_read hbs hu hstart)

/-- A part between brackets. -/
theorem runs_bracketed {b : Bracket} {rule : GoRule} {ts : List Tree} {q : Position}
    (hbs : isPassed true bs = true)
    (h : Runs g rule ⟨r, p.afterAll (bs ++ [b.opening])⟩ (.matched ts ⟨b.closing :: u, q⟩)) :
    Runs g (.enclosed b rule) ⟨bs ++ b.opening :: r, p⟩
      (.matched ([Tree.leaf (String.ofList [b.opening]) (p.afterAll bs)] ++ ts ++
        [Tree.leaf (String.ofList [b.closing]) q]) ⟨u, q.afterAll [b.closing]⟩) := by
  have hopen := bracket_read (c := b.opening) (r := r) (p := p) hbs (by cases b <;> decide)
  have hclose := bracket_read (c := b.closing) (r := u) (p := q) (passed_none _)
    (by cases b <;> decide)
  have := Runs.enclosed hopen h
  simp only [Outcome.closedBy, List.nil_append] at this hclose
  rw [hclose] at this
  exact this

/-! ## What follows a type -/

/-- What may stand behind a type: where lines count, a line end or a tag, else a bracket. -/
def followers (lines : Bool) : List (Next × Bool) :=
  if lines then [(.unknown, false), (.quote, true)]
  else [(.closing .round, true), (.closing .square, true)]

/-- A text that may stand behind a type. -/
structure Follows (lines : Bool) (cs : List Char) : Prop where
  endsWord : endsWord cs = true
  next : ∀ p, ∃ f ∈ followers lines, Before f.1 f.2 ⟨cs, p⟩

theorem endsWord_cons {ch : Char} (h : Identifier.isContinue ch = false) :
    endsWord (ch :: r) = true := by simp [endsWord, h]

theorem follows_line : Follows true ('\n' :: r) :=
  ⟨endsWord_cons (by decide),
    fun p => ⟨(.unknown, false), by decide, before_lineEnd (passed_none _)⟩⟩

theorem follows_tag (l : TextLiteral) : Follows true (' ' :: (l.written ++ r)) :=
  ⟨endsWord_cons (by decide),
    fun p => ⟨(.quote, true), by decide, before_here (stands_text l) (passed_space _)⟩⟩

theorem follows_closing {b : Bracket} (hb : b ≠ .curly) : Follows false (b.closing :: r) := by
  have hmem : (Next.closing b, true) ∈ followers false := by
    cases b <;> first | exact absurd rfl hb | decide
  exact ⟨endsWord_cons (by cases b <;> decide),
    fun p => ⟨(.closing b, true), hmem, before_start (stands_closing b)⟩⟩

/-- A rule that goes on from a type, and that no follower starts, reads nothing. -/
theorem runs_follows {lines : Bool} {cs : List Char} (h : Follows lines cs) {rule : GoRule}
    {m : Bool} (hpeek : ∀ f ∈ followers lines,
      rule.peek f.1 f.2 (peekPhrase grammar f.1 f.2 3) = some m) :
    Runs grammar rule ⟨cs, p⟩ (predicted ⟨cs, p⟩ m) := by
  obtain ⟨f, hf, hbefore⟩ := h.next p
  exact runs_peek hbefore 3 (hpeek f hf)

theorem peek_arguments (lines : Bool) : ∀ f ∈ followers lines,
    (maybe (continued lines typeArguments)).peek f.1 f.2 (peekPhrase grammar f.1 f.2 3) =
      some true := by
  cases lines <;> decide

theorem peek_selector (lines : Bool) : ∀ f ∈ followers lines,
    (continued lines (mark "." >> word)).peek f.1 f.2 (peekPhrase grammar f.1 f.2 3) =
      some false := by
  cases lines <;> decide

theorem peek_result (lines : Bool) : ∀ f ∈ followers lines,
    (result lines).peek f.1 f.2 (peekPhrase grammar f.1 f.2 3) = some true := by
  cases lines <;> decide

/-! ## Names -/

/-- The tree of a type's name. -/
def nameTree (package : Option Name) (n : Name) (p : Position) : Tree :=
  match package with
  | none => .node .typeName p [.leaf n.text p]
  | some q => .node .qualifiedType p [.leaf q.text p, .leaf "." (p.afterAll q.chars),
      .leaf n.text (p.afterAll (q.chars ++ ['.']))]

theorem ofTree?_name (package : Option Name) (n : Name) (p : Position) :
    TypeSyntax.ofTree? (nameTree package n p) = some (nameAsRead package n) := by
  cases package <;> simp [nameTree, nameAsRead, TypeSyntax.ofTree?, leafTexts]

theorem Name.starts (n : Name) : n.chars.head?.any startsToken = true := by
  have := n.isName.start
  unfold Name.chars
  cases h : n.text.toList with
  | nil => simp [h] at this
  | cons c w => simpa using wordStart_starts (by simpa [h] using this)

theorem runs_word (n : Name) (hbs : isPassed true bs = true) (hr : endsWord r = true) :
    Runs g word ⟨bs ++ (n.chars ++ r), p⟩
      (.matched [.leaf n.text (p.afterAll bs)] ⟨r, p.afterAll (bs ++ n.chars)⟩) := by
  have := runs_token (g := g) (t := .word) (p := p) (r := r) hbs (length_name n.isName hr) n.starts
  have htext : String.ofList n.chars = n.text := String.ofList_toList
  change Runs g _ _ (.matched [.leaf (String.ofList n.chars) _] _) at this
  rw [htext] at this
  exact this

theorem before_name (n : Name) (hbs : isPassed false bs = true) (hr : endsWord r = true) :
    Before .name true ⟨bs ++ (n.chars ++ r), p⟩ := before_here (stands_name n.isName hr) hbs

/-- Nothing but a name stands where no point follows. -/
theorem runs_simpleName {lines : Bool} (n : Name) (hbs : isPassed true bs = true)
    (hr : endsWord r = true)
    (hdot : Runs grammar (continued lines (mark "." >> word))
      ⟨r, p.afterAll (bs ++ n.chars)⟩ .absent) :
    Runs grammar (.attempt (.node .qualifiedType (word >> continued lines (mark "." >> word))) <|>
        .node .typeName word) ⟨bs ++ (n.chars ++ r), p⟩
      (.matched [nameTree none n (p.afterAll bs)] ⟨r, p.afterAll (bs ++ n.chars)⟩) := by
  have hword := runs_word (g := grammar) (p := p) n hbs hr
  have hrefused : Runs grammar (word >> continued lines (mark "." >> word))
      ⟨bs ++ (n.chars ++ r), p⟩ .refused := .second hword hdot
  exact runs_other (.attempt (.node hrefused)) (runs_node hword)

theorem after_nil (o : Outcome) : o.after [] = o := by cases o <;> rfl

/-- What goes on where lines end it is read on the same line. -/
theorem runs_continued {lines : Bool} {rule : GoRule} {o : Outcome}
    (hline : readSameLine c = .matched [] c) (h : Runs g rule c o) :
    Runs g (continued lines rule) c o := by
  cases lines with
  | false => exact h
  | true =>
    have hsame := Runs.sameLine (g := g) c
    rw [hline] at hsame
    have := Runs.second hsame h
    rw [after_nil] at this
    exact this

theorem sameLine_token (hbs : isPassed false bs = true) (hu : u.head?.any startsToken = true) :
    readSameLine ⟨bs ++ u, p⟩ = .matched [] ⟨bs ++ u, p⟩ := by
  cases u with
  | nil => simp at hu
  | cons ch u =>
    have hch : startsToken ch = true := by simpa using hu
    have hne : ch ≠ '\n' := by rintro rfl; revert hch; decide
    unfold readSameLine
    rw [skipBlanks_token hbs hch]
    simp [hne]

theorem Name.head_ne (n : Name) {c : Char} (hc : isWordStart c = false) :
    (n.chars ++ r).head? ≠ some c := by
  have := n.isName.start
  unfold Name.chars
  cases h : n.text.toList with
  | nil => simp [h] at this
  | cons d w => simpa using wordStart_ne (by simpa [h] using this) hc

theorem runs_dot (n : Name) :
    Runs g (mark ".") ⟨'.' :: (n.chars ++ r), p⟩
      (.matched [.leaf "." p] ⟨n.chars ++ r, p.afterAll ['.']⟩) := by
  have hmark := longestMark_dot (n.head_ne (r := r) (c := '.') (by decide))
  exact runs_token (u := ['.']) (passed_none _) (by simp [Terminal.length, hmark]; decide)
    (by decide)

/-- The name of a type, behind its package if it has one. -/
theorem runs_typeName (lines : Bool) (package : Option Name) (n : Name)
    (hbs : isPassed true bs = true) (hr : endsWord r = true)
    (hdot : ∀ p, Runs grammar (continued lines (mark "." >> word)) ⟨r, p⟩ .absent) :
    Runs grammar (.attempt (.node .qualifiedType (word >> continued lines (mark "." >> word))) <|>
        .node .typeName word) ⟨bs ++ (nameWritten package n ++ r), p⟩
      (.matched [nameTree package n (p.afterAll bs)]
        ⟨r, p.afterAll (bs ++ nameWritten package n)⟩) := by
  cases package with
  | none => exact runs_simpleName n hbs hr (hdot _)
  | some q =>
    have hq := runs_word (g := grammar) (p := p) (r := '.' :: (n.chars ++ r)) q hbs
      (endsWord_cons (by decide))
    have hrest : Runs grammar (continued lines (mark "." >> word))
        ⟨'.' :: (n.chars ++ r), p.afterAll (bs ++ q.chars)⟩ _ :=
      runs_continued (sameLine_token (passed_none _) rfl)
        (runs_sequence (runs_dot n) (runs_word n (passed_none _) hr))
    have := runs_first (b := .node .typeName word)
      (.attempt (runs_node (k := .qualifiedType) (runs_sequence hq hrest)))
    simpa [nameWritten, nameTree, afterAll_append, afterAll_cons, afterAll_nil, Tree.pos] using this

/-- The tree of a type's name with the parts of its arguments. -/
def appliedTree (package : Option Name) (n : Name) (p : Position) (arguments : List Tree) : Tree :=
  .node .appliedType p (nameTree package n p :: arguments)

theorem pos_nameTree (package : Option Name) (n : Name) (p : Position) :
    (nameTree package n p).pos = p := by cases package <;> rfl

/-- A name that nothing goes on from. -/
theorem runs_bareName {lines : Bool} (package : Option Name) (n : Name)
    (hbs : isPassed true bs = true) (hr : endsWord r = true)
    (hdot : ∀ p, Runs grammar (continued lines (mark "." >> word)) ⟨r, p⟩ .absent)
    (hnone : ∀ p, Runs grammar (maybe (continued lines typeArguments)) ⟨r, p⟩
      (.matched [] ⟨r, p⟩)) :
    Runs grammar (namedType lines) ⟨bs ++ (nameWritten package n ++ r), p⟩
      (.matched [appliedTree package n (p.afterAll bs) []]
        ⟨r, p.afterAll (bs ++ nameWritten package n)⟩) := by
  have hname := runs_typeName (p := p) lines package n hbs hr hdot
  have := runs_node (k := .appliedType) (runs_sequence hname (hnone _))
  rw [pos_nameTree] at this
  exact this

theorem runs_namedType {lines : Bool} (package : Option Name) (n : Name)
    (hbs : isPassed true bs = true) (hr : Follows lines r) :
    Runs grammar (namedType lines) ⟨bs ++ (nameWritten package n ++ r), p⟩
      (.matched [appliedTree package n (p.afterAll bs) []]
        ⟨r, p.afterAll (bs ++ nameWritten package n)⟩) :=
  runs_bareName package n hbs hr.endsWord (fun _ => runs_follows hr (peek_selector lines))
    fun _ => runs_follows hr (peek_arguments lines)

end SdkGen.Go
