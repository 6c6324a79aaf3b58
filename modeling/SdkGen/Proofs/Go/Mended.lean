import SdkGen.Go.Parse
import SdkGen.Proofs.Fallible
import SdkGen.Proofs.Go.Leaves

/-!
# Brackets of a mended text

A mended text is taken only with line ends supplied, so its brackets are those of its tree; and a
tree follows the productions, whose brackets are nested.

* `trees?_track`: a piece with trees leaves the brackets open that its symbol leaves open.
* `nested_of_parse`: the brackets of a text that is parsed are nested.
-/

namespace SdkGen.Go

variable {m : Machine} {p : Piece} {cs : List Char} {symbol : Nat}

/-- A token that makes no node is no bracket. -/
theorem bracket_hidden {t : Token} (h : t.isShown = false) : t.bracket = [] := by
  cases t with
  | mark m => cases h
  | _ => rfl

theorem leafBrackets_append (as bs : List Leaf) :
    leafBrackets (as ++ bs) = leafBrackets as ++ leafBrackets bs := List.flatMap_append

theorem bracket_token {t : Token} (h : m.numbering.tokens[symbol]? = some t) :
    m.numbering.bracket symbol = t.bracket := by
  rw [Numbering.bracket, h]
  rfl

theorem bracket_not_token (h : m.numbering.tokens[symbol]? = none) :
    m.numbering.bracket symbol = [] := by
  rw [Numbering.bracket, h]
  rfl

/-! ## Pieces with trees -/

theorem sizeOf_parts (p : Piece) : sizeOf p.parts < sizeOf p := by
  obtain ⟨_, _, _, _, _, _, _, _, _, _, _, _, parts⟩ := p
  simp only [Piece.mk.sizeOf_spec]
  omega

theorem leaves_token {t : Token} (hlabel : p.label = .symbol symbol)
    (ht : m.numbering.tokens[symbol]? = some t) :
    p.leaves m = if p.missing then [] else [⟨t, p.extra, p.before.chars, p.size.chars⟩] := by
  cases p
  cases hlabel
  rw [Piece.leaves]
  simp only [ht]

theorem leaves_phrase
    (hnone : ∀ symbol, p.label = .symbol symbol → m.numbering.tokens[symbol]? = none) :
    p.leaves m = Piece.leavesAmong m p.parts := by
  obtain ⟨label, _, _, _, _, _, _, _, _, _, _, _, parts⟩ := p
  cases label with
  | symbol symbol =>
    rw [Piece.leaves]
    simp only [hnone symbol rfl]
  | error => rfl
  | skipped => rfl

variable {parent : String} {renamed : Option String} {steps : List Step} {c : Cursor}
  {x : List Tree × Cursor}

/-- A piece with trees is a token, which is missing only if it makes no node, or a phrase whose
parts follow a production. -/
theorem trees?_cases (h : p.trees? m parent renamed c = some x) :
    ∃ symbol, p.label = .symbol symbol ∧
      ((∃ t, m.numbering.tokens[symbol]? = some t ∧
          (p.missing = true ∧ t.isShown = false ∧ x = ([], c) ∨
            p.missing = false ∧ t.spells p.size.chars (c.advance p.before.chars).rest = true ∧
            x = (if p.extra then []
                else Piece.tokenTrees t parent renamed (c.advance p.before.chars) p.size.chars,
              (c.advance p.before.chars).advance p.size.chars))) ∨
        m.numbering.tokens[symbol]? = none ∧ ∃ q ∈ m.productions, q.head = symbol ∧
          ∃ phrase, m.numbering.phrase? symbol = some phrase ∧ ∃ y,
            Piece.treesAmong? m phrase.name q.steps.toList c p.parts = some y ∧
            x = (Piece.phraseTrees phrase.name q.steps.toList (c.advance p.before.chars)
              p.size.chars y.1, y.2)) := by
  obtain ⟨label, before, size, extra, missing, _, _, _, _, _, _, production, parts⟩ := p
  rw [Piece.trees?.eq_def] at h
  simp only at h
  split at h
  · cases h
  · split at h
    · next symbol =>
      refine ⟨symbol, rfl, ?_⟩
      split at h
      · next t ht =>
        refine .inl ⟨t, ht, ?_⟩
        cases missing with
        | true =>
          rw [if_pos rfl] at h
          split at h
          · cases h
          · next hhidden =>
            cases h
            exact .inl ⟨rfl, Bool.eq_false_iff.2 hhidden, rfl⟩
        | false =>
          rw [if_neg Bool.false_ne_true] at h
          split at h
          · next hspells =>
            cases h
            exact .inr ⟨rfl, hspells, rfl⟩
          · cases h
      · -- a phrase, by the production that the piece names
        next q hnone hq =>
        refine .inr ⟨hnone, q, ?_⟩
        obtain ⟨i, -, hi⟩ := Option.bind_eq_some_iff.1 hq
        refine ⟨Array.mem_of_getElem? hi, ?_⟩
        split at h
        · next phrase hphrase =>
          split at h
          · cases h
          · next hhead =>
            split at h
            · next ts e hparts =>
              cases h
              exact ⟨Decidable.not_not.1 hhead, phrase, hphrase, (ts, e), hparts, rfl⟩
            · cases h
        · cases h
      · cases h
    · cases h

theorem treesAmong?_nil (h : Piece.treesAmong? m parent steps c [] = some x) :
    steps = [] ∧ x = ([], c) := by
  rw [Piece.treesAmong?] at h
  split at h
  · next hempty =>
    cases h
    exact ⟨List.isEmpty_iff.1 hempty, rfl⟩
  · cases h

/-- A piece among others is extra and makes no trees, or stands for the first step. -/
theorem treesAmong?_cons {ps : List Piece}
    (h : Piece.treesAmong? m parent steps c (p :: ps) = some x) :
    ∃ renamed y, p.trees? m parent renamed c = some y ∧ ∃ ss z,
      Piece.treesAmong? m parent ss y.2 ps = some z ∧
      (p.extra = true ∧ steps = ss ∧ x = z ∧ renamed = none ∨
        p.extra = false ∧ x = (y.1 ++ z.1, z.2) ∧
          ∃ s, steps = s :: ss ∧ p.label = .symbol s.symbol ∧ renamed = s.renamed) := by
  rw [Piece.treesAmong?.eq_def] at h
  simp only at h
  split at h
  · next hextra =>
    obtain ⟨y, hy, hz⟩ := Option.bind_eq_some_iff.1 h
    exact ⟨none, y, hy, steps, x, hz, .inl ⟨hextra, rfl, rfl, rfl⟩⟩
  · next hextra =>
    split at h
    · cases h
    · next s ss =>
      split at h
      · cases h
      · next hlabel =>
        obtain ⟨y, hy, hrest⟩ := Option.bind_eq_some_iff.1 h
        obtain ⟨z, hz, hpair⟩ := Option.bind_eq_some_iff.1 hrest
        cases hpair
        exact ⟨s.renamed, y, hy, ss, z, hz,
          .inr ⟨Bool.eq_false_iff.2 hextra, rfl, s, rfl, Decidable.not_not.1 hlabel, rfl⟩⟩

mutual

/-- The leaves of a piece are tokens of the numbering. -/
theorem leaves_known (m : Machine) (p : Piece) : ∀ l ∈ p.leaves m, l.token ∈ m.numbering.tokens := by
  by_cases htoken : ∃ symbol t, p.label = .symbol symbol ∧ m.numbering.tokens[symbol]? = some t
  · obtain ⟨symbol, t, hlabel, ht⟩ := htoken
    rw [leaves_token hlabel ht]
    split
    · exact fun l hl => nomatch hl
    · intro l hl
      rw [List.mem_singleton.1 hl]
      exact Array.mem_of_getElem? ht
  · have hnone : ∀ symbol, p.label = .symbol symbol → m.numbering.tokens[symbol]? = none := by
      intro symbol hlabel
      exact Option.eq_none_iff_forall_ne_some.2 fun t ht => htoken ⟨symbol, t, hlabel, ht⟩
    rw [leaves_phrase hnone]
    exact leavesAmong_known m p.parts
  termination_by sizeOf p
  decreasing_by exact sizeOf_parts p

/-- The leaves of pieces are tokens of the numbering. -/
theorem leavesAmong_known (m : Machine) (ps : List Piece) :
    ∀ l ∈ Piece.leavesAmong m ps, l.token ∈ m.numbering.tokens := by
  cases ps with
  | nil => exact fun l hl => nomatch hl
  | cons p ps =>
    intro l hl
    rcases List.mem_append.1 hl with hfirst | hrest
    · exact leaves_known m p l hfirst
    · exact leavesAmong_known m ps l hrest
  termination_by sizeOf ps

end

/-! ## Brackets of pieces -/

/-- A token's leaf has the bracket of its symbol. -/
theorem token_track {t : Token} (hlabel : p.label = .symbol symbol)
    (ht : m.numbering.tokens[symbol]? = some t) (hmissing : p.missing = true → t.isShown = false)
    (hextra : ∀ l ∈ p.leaves m, l.extra = true → l.token.bracket = []) :
    leafBrackets (p.leaves m) = if p.extra then [] else m.numbering.bracket symbol := by
  rw [leaves_token hlabel ht] at hextra ⊢
  rw [bracket_token ht]
  by_cases hgone : p.missing = true
  · rw [if_pos hgone, bracket_hidden (hmissing hgone), ite_self]
    rfl
  · rw [if_neg hgone] at hextra ⊢
    change t.bracket ++ [] = _
    rw [List.append_nil]
    split
    · next he => exact hextra _ (List.mem_singleton_self _) he
    · rfl

mutual

/-- **A piece with trees** leaves the brackets open that its symbol leaves open. -/
theorem trees?_track (hm : ∀ q ∈ m.productions,
      Nested (bracketsOf m.numbering.bracket q.steps.toList)) {parent : String}
    {renamed : Option String} {c : Cursor} {x : List Tree × Cursor} (p : Piece)
    (h : p.trees? m parent renamed c = some x)
    (hextra : ∀ l ∈ p.leaves m, l.extra = true → l.token.bracket = []) :
    ∃ symbol, p.label = .symbol symbol ∧ ∀ bs, track bs (leafBrackets (p.leaves m)) =
      track bs (if p.extra then [] else m.numbering.bracket symbol) := by
  obtain ⟨symbol, hlabel, ⟨t, ht, hread⟩ | ⟨hnone, q, hq, -, phrase, -, y, hparts, -⟩⟩ :=
    trees?_cases h
  · have hmissing : p.missing = true → t.isShown = false := by
      intro hmissing
      obtain ⟨-, hhidden, -⟩ | ⟨hthere, -⟩ := hread
      · exact hhidden
      · rw [hmissing] at hthere
        cases hthere
    exact ⟨symbol, hlabel, fun bs => by rw [token_track hlabel ht hmissing hextra]⟩
  · refine ⟨symbol, hlabel, fun bs => ?_⟩
    have hphrase : ∀ s, p.label = .symbol s → m.numbering.tokens[s]? = none := by
      intro s hs
      rw [hlabel] at hs
      cases hs
      exact hnone
    rw [leaves_phrase hphrase] at hextra ⊢
    rw [treesAmong?_track hm p.parts hparts hextra bs, bracket_not_token hnone, ite_self]
    exact track_nested (hm q hq) bs
  termination_by sizeOf p
  decreasing_by exact sizeOf_parts p

/-- Pieces with trees that follow some steps leave the brackets open that the steps leave open. -/
theorem treesAmong?_track (hm : ∀ q ∈ m.productions,
      Nested (bracketsOf m.numbering.bracket q.steps.toList)) {parent : String}
    {steps : List Step} {c : Cursor} {x : List Tree × Cursor} (ps : List Piece)
    (h : Piece.treesAmong? m parent steps c ps = some x)
    (hextra : ∀ l ∈ Piece.leavesAmong m ps, l.extra = true → l.token.bracket = [])
    (bs : List Bracket) : track bs (leafBrackets (Piece.leavesAmong m ps)) =
      track bs (bracketsOf m.numbering.bracket steps) := by
  cases ps with
  | nil =>
    rw [(treesAmong?_nil h).1]
    rfl
  | cons p ps =>
    obtain ⟨renamed, y, hy, ss, z, hz, hstep⟩ := treesAmong?_cons h
    rw [Piece.leavesAmong] at hextra ⊢
    obtain ⟨symbol, hlabel, hp⟩ := trees?_track hm p hy fun l hl =>
      hextra l (List.mem_append_left _ hl)
    have hps := treesAmong?_track hm ps hz fun l hl => hextra l (List.mem_append_right _ hl)
    rw [leafBrackets_append, track_append, hp bs]
    -- an extra piece stands beside the steps, any other one takes the first of them
    obtain ⟨he, rfl, -⟩ | ⟨he, -, s, rfl, hs, -⟩ := hstep
    · rw [if_pos he, track_nil, Option.bind_some, hps]
    · obtain rfl : symbol = s.symbol := by
        rw [hlabel] at hs
        exact Label.symbol.inj hs
      rw [he, if_neg Bool.false_ne_true]
      change _ = track bs (m.numbering.bracket s.symbol ++ bracketsOf m.numbering.bracket ss)
      rw [track_append]
      exact congrArg _ (funext hps)
  termination_by sizeOf ps

end

/-! ## Texts -/

/-- A token at the top of a text makes no node there. -/
theorem tokenTrees_top (t : Token) (c : Cursor) (n : Nat) :
    (Piece.tokenTrees t "" none c n).filterMap TopNode.ofTree? = [] := by
  unfold Piece.tokenTrees
  split
  · rfl
  · rfl

/-- A piece with trees has its brackets nested, if a text is made of its leaves and the piece is no
single token. -/
theorem nested_of_piece (hfollowed : followed false (p.leaves Machine.ofGo.get) cs = true)
    (htrees : p.trees? Machine.ofGo.get "" none c = some x) :
    Nested (brackets cs) ∨ x.1.filterMap TopNode.ofTree? = [] := by
  have hknown : ∀ l ∈ p.leaves Machine.ofGo.get, l.token ∈ Token.all := fun l hl =>
    List.mem_toArray.1 (leaves_known Machine.ofGo.get p l hl)
  have hbrackets : brackets cs = leafBrackets (p.leaves Machine.ofGo.get) :=
    Option.some.inj (followed_brackets hknown hfollowed)
  obtain ⟨symbol, hlabel, htrack⟩ :=
    trees?_track production_nested p htrees (followed_extra hfollowed)
  obtain ⟨symbol', hlabel', ⟨t, -, ⟨-, -, hnone⟩ | ⟨-, -, htoken⟩⟩ | ⟨hphrase, -⟩⟩ :=
    trees?_cases htrees
  · rw [hnone]
    exact .inr rfl
  · rw [htoken]
    dsimp only
    split
    · exact .inr rfl
    · exact .inr (tokenTrees_top t _ _)
  · -- a phrase at the top opens and closes its brackets itself
    rw [hlabel] at hlabel'
    cases hlabel'
    left
    rw [nested_iff_track, hbrackets, htrack, bracket_not_token hphrase, ite_self]
    rfl

/-- The trees of a text that is mended are those of a piece, and the text is made of its leaves. -/
theorem piece_of_mended {ts : List Tree} (h : mendedTrees cs = .ok ts) :
    ∃ p d, Piece.trees? Machine.ofGo.get "" none (Cursor.ofChars cs) p = some (ts, d) ∧
      followed false (p.leaves Machine.ofGo.get) cs = true := by
  unfold mendedTrees at h
  split at h
  · cases h
  · next p _ =>
    simp only at h
    split at h
    · cases h
    · split at h
      · next hfollowed =>
        split at h
        · next us d htrees =>
          cases h
          exact ⟨p, d, htrees, hfollowed⟩
        · cases h
      · cases h

/-- A text that is mended has its brackets nested, unless it is a single token. -/
theorem nested_of_mended {ts : List Tree} (h : mendedTrees cs = .ok ts) :
    Nested (brackets cs) ∨ ts.filterMap TopNode.ofTree? = [] := by
  obtain ⟨p, d, htrees, hfollowed⟩ := piece_of_mended h
  exact nested_of_piece hfollowed htrees

theorem brackets_withoutMark (source : String) :
    brackets (withoutMark source) = brackets source.toList := by
  unfold withoutMark
  split
  · next c r hcs =>
    rw [hcs]
    split
    · next hmark =>
      rw [hmark]
      exact (bracketSieve.kept_silent (by decide)).symm
    · rfl
  · next hcs => rw [hcs]

/-! ## The trees of a text -/

/-- The trees of a text in which nothing is wrong. -/
def treesOf (source : String) : Except ParseError (List Tree) :=
  match trees? (withoutMark source) with
  | some ts => .ok ts
  | none => mendedTrees (withoutMark source)

/-- A text is parsed by its trees. -/
theorem parse_eq (source : String) :
    parse source = treesOf source >>= fun ts =>
      SourceFile.ofNodes (ts.filterMap TopNode.ofTree?) := by
  unfold parse treesOf
  dsimp only
  cases trees? (withoutMark source) with
  | some ts => rfl
  | none => rfl

/-- The trees of a text make its file. -/
theorem parse_of_treesOf {source : String} {ts : List Tree} (h : treesOf source = .ok ts) :
    parse source = SourceFile.ofNodes (ts.filterMap TopNode.ofTree?) := by
  rw [parse_eq, h]
  rfl

/-- A text that is parsed has trees. -/
theorem treesOf_of_parse {source : String} {file : SourceFile} (h : parse source = .ok file) :
    ∃ ts, treesOf source = .ok ts ∧
      SourceFile.ofNodes (ts.filterMap TopNode.ofTree?) = .ok file := by
  rw [parse_eq] at h
  exact bind_ok_iff.1 h

/-- **The brackets of a text that is parsed** are nested. -/
theorem nested_of_parse {source : String} {file : SourceFile} (h : parse source = .ok file) :
    Nested (brackets source.toList) := by
  obtain ⟨ts, htrees, hfile⟩ := treesOf_of_parse h
  rw [← brackets_withoutMark]
  unfold treesOf at htrees
  split at htrees
  · next htaken => exact nested_of_trees htaken
  · refine (nested_of_mended htrees).resolve_right fun hnone => ?_
    rw [hnone] at hfile
    cases hfile

end SdkGen.Go
