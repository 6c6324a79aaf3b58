import SdkGen.Proofs.Go.Mended
import SdkGen.Proofs.Go.ReadSpans

/-!
# The parts of what is mended

What the first parts of the trees of a piece are is known from the production that it follows.

* `Numbering.fronts`, `Numbering.holdsType`: what some steps tell of the parts they give.
* `Machine.IsSound`: the node over a production has the parts of its kind.
* `trees?_covers`: the trees of a piece are as its symbol tells, and cover what was read.
* `spans_of_mended`: the trees of a text that is mended.
-/

namespace SdkGen.Go

/-- What the leaf of a token is. -/
def Token.part : Token → Part
  | .word => .word
  | .mark m => .fixed m
  | .reserved w => .fixed w
  | _ => .leaf

/-- The kind of the node that a phrase stands for, by the steps of its production. -/
def phraseKind? (heading : String) (steps : List Step) : Option Kind :=
  if heading = "field declaration" then some (Piece.fieldKind steps) else kindOf? heading

namespace Kind

/-- The phrases that make nodes of the kind always make one. -/
def isFilled (k : Kind) : Bool := k.isType || k = .parameterList

/-- Nothing has to be known of the parts of a node of the kind. -/
def isPlain (k : Kind) : Bool := !k.isFilled && !k.holdsType && k.fronts = [.unknown]

end Kind

/-- How the parts that a phrase gives may start. A type is one node, and parameters are one. -/
def phraseFronts (heading : String) : Fronts :=
  if heading = "interpreted string literal" then [.single .leaf]
  else if heading = "simple type" then Kind.types.map fun k => .single (.node k)
  else match kindOf? heading with
    | some k =>
      if k.isFilled then [.single (.node k)] else [.single (.node k), .none]
    | none => [.unknown]

namespace Numbering

/-- How the parts that a symbol gives within a phrase may start. -/
def symbolFronts (n : Numbering) (parent : String) (renamed : Option String) (symbol : Nat) :
    Fronts :=
  match n.tokens[symbol]? with
  | some t =>
    if !t.isShown then [.none]
    else if renamed = some "type_identifier" && namesType.contains parent then
      [.single (.node .typeName)]
    else [.single t.part]
  | none => ((n.phrase? symbol).map fun d => phraseFronts d.name).getD [.unknown]

/-- How the parts that some steps give within a phrase may start. -/
def fronts (n : Numbering) (parent : String) : List Step → Fronts
  | [] => [.none]
  | s :: ss => (n.symbolFronts parent s.renamed s.symbol).append (n.fronts parent ss)

/-- There is a type among the parts that some steps give. -/
def holdsType (n : Numbering) (parent : String) (steps : List Step) : Bool :=
  steps.any fun s => (n.symbolFronts parent s.renamed s.symbol).holdType

/-- Where the name of a type stands alone, it is a word. -/
def namesWords (n : Numbering) (steps : List Step) : Bool :=
  steps.all fun s => !(s.renamed = some "type_identifier") || n.tokens[s.symbol]? = some .word

/-- What the steps of a phrase tell of the parts of its node, or of those that it gives without
one. -/
def isSound (n : Numbering) (heading : String) (steps : List Step) : Bool :=
  n.namesWords steps &&
    match phraseKind? heading steps with
    | some k => k.isPlain ||
      k.allows (n.fronts heading steps) (n.holdsType heading steps) &&
        ((n.fronts heading steps).grouped k).refines (phraseFronts heading)
    | none => heading ≠ "simple type" || (n.fronts heading steps).refines (phraseFronts heading)

end Numbering

/-- The node over a production has the parts of its kind. -/
def Machine.IsSound (m : Machine) (q : Production) : Prop :=
  ∀ phrase ∈ m.numbering.phrase? q.head, m.numbering.isSound phrase.name q.steps.toList = true

variable {m : Machine} {p : Piece} {ps : List Piece} {parent heading : String}
  {renamed : Option String} {steps : List Step} {symbol i n : Nat} {cs : List Char}
  {x : List Tree × Cursor} {t : Token} {as : Fronts} {typed : Bool} {ts : List Tree} {d : Cursor}

/-! ## Pieces -/

/-- The lexeme of a token is as its leaf has to be. -/
theorem spells_token (h : t.spells n cs = true) : t.part.Spells n cs := by
  cases t with
  | word => exact length_of_spells h
  | mark m =>
    obtain ⟨hne, hlength⟩ : n ≠ 0 ∧ Token.length (.mark m) cs = n := length_of_spells h
    by_cases hstart : m.toList.isPrefixOf cs = true
    · obtain rfl : m.length = n := (if_pos hstart).symm.trans hlength
      exact (List.prefix_iff_eq_take.1 (List.isPrefixOf_iff_prefix.1 hstart)).symm
    · exact absurd ((if_neg hstart).symm.trans hlength).symm hne
  | reserved w =>
    have hboth : (decide (wordLength cs = n) && decide (String.ofList (cs.take n) = w)) = true := h
    rw [Bool.and_eq_true, decide_eq_true_eq, decide_eq_true_eq] at hboth
    show cs.take n = w.toList
    rw [← hboth.2, String.toList_ofList]
  | _ => trivial

/-- The trees of a token. -/
theorem tokenTrees_covers {blank : Nat} (hnames : renamed = some "type_identifier" → t = .word)
    (hspells : t.spells n (cs.drop (i + blank)) = true) (ht : m.numbering.tokens[symbol]? = some t) :
    Covers cs (m.numbering.symbolFronts parent renamed symbol) false i
      (Piece.tokenTrees t parent renamed (cursorAt cs (i + blank)) n)
      (cursorAt cs (i + blank + n)) := by
  have hle : i ≤ i + blank := Nat.le_add_right i blank
  have hleaf := spans_taken (spells_token hspells)
  unfold Numbering.symbolFronts Piece.tokenTrees
  simp only [ht]
  split
  · exact covers_nil cs (Nat.le_trans hle (Nat.le_add_right _ n))
  · split
    · next hname =>
      -- the name of a type stands alone, with a node of its own
      obtain rfl := hnames (of_decide_eq_true (Bool.and_eq_true_iff.1 hname).1)
      have hadmits : Kind.typeName.Admits [.word] :=
        ⟨Fronts.describes_single (Front.describes_single .word), nofun⟩
      exact covers_single hle (.node hadmits (spansAll_single (Nat.le_refl _) hleaf))
    · exact covers_single hle hleaf

/-- A node of which nothing has to be known may have any parts. -/
theorem plain_covers {k : Kind} (hplain : k.isPlain = true) (h : Covers cs as typed i ts d) :
    Covers cs [.single (.node k), .none] false i (Tree.group k ts) d := by
  unfold Kind.isPlain at hplain
  simp only [Bool.and_eq_true, decide_eq_true_eq] at hplain
  obtain ⟨⟨-, htype⟩, hfronts⟩ := hplain
  have hallows : k.allows as typed = true := by
    unfold Kind.allows
    rw [htype, hfronts, Fronts.refines_unknown]
    rfl
  exact (covers_group hallows h).mono (fun _ hss => hss.subset (Fronts.grouped_subset k as)) id

theorem phraseFronts_plain {k : Kind} (hplain : k.isPlain = true) (hk : kindOf? heading = some k) :
    phraseFronts heading = [.single (.node k), .none] := by
  have hliteral : heading ≠ "interpreted string literal" := by
    rintro rfl
    cases hk
  have htype : heading ≠ "simple type" := by
    rintro rfl
    cases hk
  have hfilled : ¬ k.isFilled = true := by
    unfold Kind.isPlain at hplain
    simp only [Bool.and_eq_true, Bool.not_eq_true'] at hplain
    exact Bool.eq_false_iff.1 hplain.1.1
  unfold phraseFronts
  rw [if_neg hliteral, if_neg htype]
  simp only [hk]
  exact if_neg hfilled

/-- The node of a phrase, by the trees of its parts. -/
theorem node_covers {k : Kind} (hk : phraseKind? heading steps = some k)
    (hsound : m.numbering.isSound heading steps = true)
    (h : Covers cs (m.numbering.fronts heading steps) (m.numbering.holdsType heading steps) i ts d) :
    Covers cs (phraseFronts heading) false i (Tree.group k ts) d := by
  obtain ⟨-, hparts⟩ := Bool.and_eq_true_iff.1 hsound
  rw [hk] at hparts
  rcases Bool.or_eq_true_iff.1 hparts with hplain | hboth
  · have hfield : heading ≠ "field declaration" := by
      rintro rfl
      obtain rfl : Piece.fieldKind steps = k := Option.some.inj hk
      unfold Piece.fieldKind at hplain
      split at hplain <;> exact absurd hplain (by decide)
    rw [phraseFronts_plain hplain ((if_neg hfield).symm.trans hk)]
    exact plain_covers hplain h
  · obtain ⟨hallows, hrefines⟩ := Bool.and_eq_true_iff.1 hboth
    exact (covers_group hallows h).mono (fun _ hss => hss.refines hrefines) id

/-- The trees of a phrase, by those of its parts. -/
theorem phraseTrees_covers {c : Cursor} (hsound : m.numbering.isSound heading steps = true)
    (h : Covers cs (m.numbering.fronts heading steps) (m.numbering.holdsType heading steps) i ts d) :
    Covers cs (phraseFronts heading) false i (Piece.phraseTrees heading steps c n ts) d := by
  unfold Piece.phraseTrees
  split
  · next hliteral =>
    -- the literal covers its parts, whatever its text
    obtain ⟨j, rfl, hle⟩ := h.end
    rw [phraseFronts, if_pos hliteral]
    exact covers_single (Nat.le_refl i) (.leaf hle)
  · next hliteral =>
    split
    · next hfield => exact node_covers (if_pos hfield) hsound h
    · next hfield =>
      have hkind : phraseKind? heading steps = kindOf? heading := if_neg hfield
      split
      · next k hk => exact node_covers (hkind.trans hk) hsound h
      · next hk =>
        obtain ⟨-, hparts⟩ := Bool.and_eq_true_iff.1 hsound
        rw [hkind.trans hk] at hparts
        rcases Bool.or_eq_true_iff.1 hparts with hother | hrefines
        · have hfronts : phraseFronts heading = [.unknown] := by
            unfold phraseFronts
            rw [if_neg hliteral, if_neg (of_decide_eq_true hother)]
            simp only [hk]
          rw [hfronts]
          exact h.unknown.untyped
        · exact h.untyped.mono (fun _ hss => hss.refines hrefines) id

mutual

/-- **The trees of a piece** cover what was read, and their first parts are as its symbol tells. -/
theorem trees?_covers (hm : ∀ q ∈ m.productions, m.IsSound q) {parent : String}
    {renamed : Option String} {i : Nat} {x : List Tree × Cursor} (p : Piece)
    (h : p.trees? m parent renamed (cursorAt cs i) = some x)
    (hnames : ∀ symbol, p.label = .symbol symbol → renamed = some "type_identifier" →
      m.numbering.tokens[symbol]? = some .word) :
    ∃ symbol, p.label = .symbol symbol ∧
      Covers cs (if p.extra then [.unknown] else m.numbering.symbolFronts parent renamed symbol) false
        i x.1 x.2 := by
  obtain ⟨symbol, hlabel, ⟨t, ht, ⟨-, hhidden, rfl⟩ | ⟨-, hspells, rfl⟩⟩ |
    ⟨hnone, q, hq, rfl, phrase, hphrase, y, hparts, rfl⟩⟩ := trees?_cases h
  · refine ⟨symbol, hlabel, ?_⟩
    have hfronts : m.numbering.symbolFronts parent renamed symbol = [.none] := by
      unfold Numbering.symbolFronts
      simp only [ht, hhidden, Bool.not_false, if_true]
    rw [hfronts]
    split
    · exact (covers_nil cs (Nat.le_refl i)).unknown
    · exact covers_nil cs (Nat.le_refl i)
  · refine ⟨symbol, hlabel, ?_⟩
    rw [cursorAt_advance] at hspells ⊢
    rw [cursorAt_advance]
    have hword : renamed = some "type_identifier" → t = .word := fun hrenamed =>
      Option.some.inj (ht.symm.trans (hnames symbol hlabel hrenamed))
    split
    · have hle : i ≤ i + p.before.chars + p.size.chars := by omega
      exact (covers_nil cs hle).unknown
    · exact tokenTrees_covers hword hspells ht
  · refine ⟨q.head, hlabel, ?_⟩
    have hsound := hm q hq phrase hphrase
    have htrees := phraseTrees_covers (c := (cursorAt cs i).advance p.before.chars)
      (n := p.size.chars) hsound (treesAmong?_covers hm p.parts hparts (by
        exact (Bool.and_eq_true_iff.1 hsound).1))
    have hfronts : m.numbering.symbolFronts parent renamed q.head = phraseFronts phrase.name := by
      unfold Numbering.symbolFronts
      simp only [hnone, hphrase, Option.map_some, Option.getD_some]
    rw [hfronts]
    split
    · exact htrees.unknown
    · exact htrees
  termination_by sizeOf p
  decreasing_by exact sizeOf_parts p

/-- The trees of pieces that follow one another. -/
theorem treesAmong?_covers (hm : ∀ q ∈ m.productions, m.IsSound q) {parent : String}
    {steps : List Step} {i : Nat} {x : List Tree × Cursor} (ps : List Piece)
    (h : Piece.treesAmong? m parent steps (cursorAt cs i) ps = some x)
    (hnames : m.numbering.namesWords steps = true) :
    Covers cs (m.numbering.fronts parent steps) (m.numbering.holdsType parent steps) i x.1 x.2 := by
  cases ps with
  | nil =>
    obtain ⟨rfl, rfl⟩ := treesAmong?_nil h
    exact covers_nil cs (Nat.le_refl i)
  | cons p ps =>
    obtain ⟨renamed, y, hy, ss, z, hz, ⟨-, rfl, rfl, rfl⟩ | ⟨hextra, rfl, s, rfl, hs, rfl⟩⟩ :=
      treesAmong?_cons h
    · -- an extra piece makes no trees
      obtain ⟨symbol, -, hcovers⟩ := trees?_covers hm p hy fun _ _ => nofun
      obtain ⟨j, hj, hle⟩ := hcovers.end
      rw [hj] at hz
      exact (treesAmong?_covers hm ps hz hnames).start hle
    · obtain ⟨hname, hnames⟩ := Bool.and_eq_true_iff.1 hnames
      have hword : ∀ symbol, p.label = .symbol symbol → s.renamed = some "type_identifier" →
          m.numbering.tokens[symbol]? = some .word := by
        intro symbol hlabel hrenamed
        obtain rfl : symbol = s.symbol := Label.symbol.inj (hlabel.symm.trans hs)
        simpa [hrenamed] using hname
      obtain ⟨symbol, hlabel, hcovers⟩ := trees?_covers hm p hy hword
      obtain rfl : symbol = s.symbol := Label.symbol.inj (hlabel.symm.trans hs)
      rw [hextra, if_neg Bool.false_ne_true] at hcovers
      refine covers_append hcovers.holdType fun j hj => ?_
      rw [hj] at hz
      exact treesAmong?_covers hm ps hz hnames
  termination_by sizeOf ps

end

/-! ## The productions of Go -/

/-- Each sequence of a phrase is sound. -/
theorem phrases_sound : ∀ d ∈ Numbering.ofGo.phrases.toList, ∀ a ∈ d.form.alternatives,
    Numbering.ofGo.isSound d.name (a.steps Numbering.ofGo.ofForm 0 none none true) = true := by
  decide +kernel

/-- The number of a whole text is that of no phrase. -/
theorem phrase?_size (n : Numbering) : n.phrase? n.size = none := by
  unfold Numbering.phrase? Numbering.size
  rw [if_neg (Nat.not_lt.2 (Nat.le_add_right _ _)), Nat.add_sub_cancel_left,
    Array.getElem?_eq_none (Nat.le_refl _)]

theorem sound_ofGo : ∀ q ∈ Machine.ofGo.get.productions, Machine.ofGo.get.IsSound q := by
  intro q hq
  change q ∈ (allProductions Numbering.ofGo).push _ at hq
  change ∀ phrase ∈ Numbering.ofGo.phrase? q.head,
    Numbering.ofGo.isSound phrase.name q.steps.toList = true
  intro phrase hphrase
  rcases Array.mem_push.1 hq with hown | rfl
  · obtain ⟨d, hle, hd, a, ha, hsteps⟩ := mem_allProductions hown
    have hsame : d = phrase := by
      unfold Numbering.phrase? at hphrase
      rw [if_neg (Nat.not_lt.2 hle), hd] at hphrase
      exact Option.some.inj hphrase
    subst hsame
    have hmem : d ∈ Numbering.ofGo.phrases.toList := Array.mem_toList_iff.2 (Array.mem_of_getElem? hd)
    rw [hsteps]
    exact phrases_sound d hmem a ha
  · -- the whole text is no phrase
    have hnone := phrase?_size Numbering.ofGo
    rw [Option.mem_def, hnone] at hphrase
    cases hphrase

/-- The trees of a text that is mended. -/
theorem spans_of_mended (h : mendedTrees cs = .ok ts) : ∃ ss j, SpansAll cs ss 0 ts j := by
  obtain ⟨p, d, htrees, -⟩ := piece_of_mended h
  rw [← cursorAt_zero] at htrees
  obtain ⟨symbol, -, ss, j, -, hts, -⟩ := trees?_covers sound_ofGo p htrees fun _ _ => nofun
  exact ⟨ss, j, hts⟩

end SdkGen.Go
