import SdkGen.Proofs.Go.Lexeme
import SdkGen.Proofs.Go.Runs

/-!
# Trees over a text

A tree covers a part of its text. The leaves that name something or that tell one form of a node
from another stand where their positions say, and the first parts of a node are those of its kind.

* `Part`, `Front`: what a tree is, and what is known about the first of some trees.
* `Kind.fronts`, `Kind.holdsType`, `Kind.Admits`: what a node of a kind consists of.
* `Spans`, `SpansAll`: trees over a part of a text, from one offset up to another.
* `Covers`: what is known of trees that were read from an offset on.
-/

namespace SdkGen.Go

namespace Kind

/-- The kinds of types. -/
def types : List Kind :=
  [.appliedType, .typeName, .qualifiedType, .pointerType, .parenthesizedType, .structType,
    .interfaceType, .mapType, .channelType, .functionType, .sliceType, .arrayType, .negatedType]

/-- The kinds of types that consist of a name, with a package and arguments or not. -/
def namings : List Kind := [.appliedType, .typeName, .qualifiedType]

/-- A node of the kind is a type. -/
def isType (k : Kind) : Bool := k ∈ types

end Kind

/-- What a tree is. -/
inductive Part
  | word
  /-- A given mark or word. -/
  | fixed (text : String)
  /-- Any token. -/
  | leaf
  | node (k : Kind)
  deriving DecidableEq, Repr

/-- The part is a type. -/
def Part.isType : Part → Bool
  | node k => k.isType
  | _ => false

/-! ## First parts -/

/-- What is known about some parts: which the first ones are, and whether there are no others. -/
structure Front where
  parts : List Part
  closed : Bool
  deriving DecidableEq, Repr

namespace Front

/-- No part. -/
def none : Front := ⟨[], true⟩

/-- Whatever parts. -/
def unknown : Front := ⟨[], false⟩

/-- One part. -/
def single (p : Part) : Front := ⟨[p], true⟩

/-- Some parts are as they are known to be. -/
def Describes (a : Front) (ss : List Part) : Prop :=
  if a.closed then ss = a.parts else a.parts <+: ss

/-- All parts that the first front describes are described by the second. -/
def refines (a b : Front) : Bool :=
  if b.closed then a.closed && a.parts = b.parts else b.parts.isPrefixOf a.parts

variable {a b : Front} {ss ss' : List Part}

theorem describes_closed {ps : List Part} : Describes ⟨ps, true⟩ ss ↔ ss = ps := Iff.rfl

theorem describes_open {ps : List Part} : Describes ⟨ps, false⟩ ss ↔ ps <+: ss := Iff.rfl

theorem describes_none : none.Describes [] := rfl

theorem describes_unknown (ss : List Part) : unknown.Describes ss := List.nil_prefix

theorem describes_single (p : Part) : (single p).Describes [p] := rfl

theorem Describes.parts_prefix (h : a.Describes ss) : a.parts <+: ss := by
  unfold Describes at h
  split at h
  · exact h ▸ List.prefix_rfl
  · exact h

theorem Describes.refines (h : a.Describes ss) (hb : a.refines b = true) : b.Describes ss := by
  unfold Front.refines at hb
  unfold Describes
  by_cases hclosed : b.closed = true
  · rw [if_pos hclosed, Bool.and_eq_true, decide_eq_true_eq] at hb
    rw [if_pos hclosed, ← hb.2]
    unfold Describes at h
    rwa [if_pos hb.1] at h
  · rw [if_neg hclosed, List.isPrefixOf_iff_prefix] at hb
    rw [if_neg hclosed]
    exact hb.trans h.parts_prefix

end Front

/-- The ways in which some parts may start. -/
abbrev Fronts := List Front

namespace Fronts

/-- Some parts start in one of the ways. -/
def Describes (as : Fronts) (ss : List Part) : Prop := ∃ a ∈ as, a.Describes ss

/-- Parts behind others. -/
def append (as bs : Fronts) : Fronts :=
  as.flatMap fun a => if a.closed then bs.map fun b => ⟨a.parts ++ b.parts, b.closed⟩ else [a]

/-- All parts that start in one of the first ways start in one of the second. -/
def refines (as bs : Fronts) : Bool := as.all fun a => bs.any a.refines

/-- The node over some parts; there is none over nothing. -/
def grouped (k : Kind) (as : Fronts) : Fronts :=
  if as.all fun a => a.parts ≠ [] then [.single (.node k)] else [.single (.node k), .none]

variable {as bs : Fronts} {ss ss' : List Part}

theorem describes_cons {a : Front} : Describes (a :: as) ss ↔ a.Describes ss ∨ Describes as ss := by
  simp only [Describes, List.mem_cons, or_and_right, exists_or, exists_eq_left]

theorem not_describes_nil : ¬ Describes [] ss := fun ⟨_, hmem, _⟩ => List.not_mem_nil hmem

theorem describes_single {a : Front} (h : a.Describes ss) : Describes [a] ss :=
  describes_cons.2 (.inl h)

theorem of_describes_single {a : Front} (h : Describes [a] ss) : a.Describes ss :=
  (describes_cons.1 h).resolve_right not_describes_nil

theorem describes_append (ha : as.Describes ss) (hb : bs.Describes ss') :
    (as.append bs).Describes (ss ++ ss') := by
  obtain ⟨a, hmem, ha⟩ := ha
  obtain ⟨b, hmem', hb⟩ := hb
  unfold Front.Describes at ha
  by_cases hclosed : a.closed = true
  · rw [if_pos hclosed] at ha
    refine ⟨⟨a.parts ++ b.parts, b.closed⟩, List.mem_flatMap.2 ⟨a, hmem, ?_⟩, ?_⟩
    · rw [if_pos hclosed]
      exact List.mem_map_of_mem hmem'
    · rw [ha]
      unfold Front.Describes at hb ⊢
      split at hb
      · next hb' => rw [if_pos hb', hb]
      · next hb' =>
        rw [if_neg hb']
        exact List.prefix_append_right_inj _ |>.2 hb
  · rw [if_neg hclosed] at ha
    refine ⟨a, List.mem_flatMap.2 ⟨a, hmem, ?_⟩, ?_⟩
    · rw [if_neg hclosed]
      exact List.mem_singleton_self a
    · unfold Front.Describes
      rw [if_neg hclosed]
      exact ha.trans (List.prefix_append ss ss')

theorem refines_unknown (as : Fronts) : as.refines [.unknown] = true :=
  List.all_eq_true.2 fun _ _ => rfl

/-- A node stands over the parts, or nothing. -/
theorem grouped_subset (k : Kind) (as : Fronts) : as.grouped k ⊆ [.single (.node k), .none] := by
  unfold grouped
  split
  · exact List.cons_subset_cons _ (List.nil_subset _)
  · exact List.Subset.refl _

theorem Describes.subset (h : as.Describes ss) (hsubset : as ⊆ bs) : bs.Describes ss := by
  obtain ⟨a, hmem, ha⟩ := h
  exact ⟨a, hsubset hmem, ha⟩

theorem Describes.refines (h : as.Describes ss) (hbs : as.refines bs = true) : bs.Describes ss := by
  obtain ⟨a, hmem, ha⟩ := h
  obtain ⟨b, hb, hrefines⟩ := List.any_eq_true.1 (List.all_eq_true.1 hbs a hmem)
  exact ⟨b, hb, ha.refines hrefines⟩

theorem describes_left (h : as.Describes ss) : (as ++ bs).Describes ss := by
  obtain ⟨a, hmem, ha⟩ := h
  exact ⟨a, List.mem_append_left _ hmem, ha⟩

theorem describes_right (h : bs.Describes ss) : (as ++ bs).Describes ss := by
  obtain ⟨b, hmem, hb⟩ := h
  exact ⟨b, List.mem_append_right _ hmem, hb⟩

theorem describes_grouped (k : Kind) (h : as.Describes ss) :
    (as.grouped k).Describes (if ss = [] then [] else [.node k]) := by
  unfold grouped
  split
  · next hfilled =>
    obtain ⟨a, hmem, ha⟩ := h
    have hne : a.parts ≠ [] := by simpa using List.all_eq_true.1 hfilled a hmem
    have hss : ss ≠ [] := by
      rintro rfl
      exact hne (List.prefix_nil.1 ha.parts_prefix)
    rw [if_neg hss]
    exact describes_single (Front.describes_single _)
  · split
    · exact ⟨.none, by simp, Front.describes_none⟩
    · exact ⟨.single (.node k), by simp, Front.describes_single _⟩

end Fronts

/-! ## The parts of a node -/

namespace Kind

/-- How the parts of a node of a kind may start. -/
def fronts : Kind → Fronts
  | .packageClause => [⟨[.fixed "package", .word], false⟩]
  | .functionDeclaration => [⟨[.fixed "func", .word], false⟩]
  | .methodDeclaration => [⟨[.fixed "func", .node .parameterList, .word], false⟩]
  | .typeSpec => [⟨[.word], false⟩]
  | .field => [⟨[.word], false⟩]
  -- a name, behind a star or not, with a tag or none
  | .embeddedField =>
    [[], [.fixed "*"]].flatMap fun star => namings.flatMap fun k =>
      [[], [.leaf]].map fun tag => ⟨star ++ .node k :: tag, true⟩
  | .appliedType =>
    [⟨[.node .typeName], false⟩, ⟨[.node .qualifiedType], false⟩, ⟨[.node .negatedType], false⟩]
  | .typeName => [⟨[.word], true⟩]
  | .qualifiedType => [⟨[.word, .fixed ".", .word], true⟩]
  | .negatedType => [⟨[.fixed "~"], false⟩]
  | _ => [.unknown]

/-- There is always a type among the parts of a node of the kind. -/
def holdsType (k : Kind) : Bool :=
  k ∈ [.typeSpec, .field, .pointerType, .parenthesizedType, .sliceType, .arrayType]

/-- The parts may be those of a node of the kind. -/
structure Admits (k : Kind) (ss : List Part) : Prop where
  fronts : k.fronts.Describes ss
  type : k.holdsType = true → ∃ s ∈ ss, s.isType = true

/-- All parts that start in one of some ways, with a type among them if so said, may be those of a
node of the kind. -/
def allows (k : Kind) (as : Fronts) (typed : Bool) : Bool :=
  as.refines k.fronts && (!k.holdsType || typed)

theorem admits_of_allows {k : Kind} {as : Fronts} {typed : Bool} {ss : List Part}
    (h : k.allows as typed = true) (hss : as.Describes ss)
    (htyped : typed = true → ∃ s ∈ ss, s.isType = true) : k.Admits ss := by
  obtain ⟨hfronts, htype⟩ := Bool.and_eq_true_iff.1 h
  refine ⟨hss.refines hfronts, fun hholds => ?_⟩
  rw [hholds] at htype
  exact htyped htype

end Kind

/-! ## Parts of a text -/

/-- The place at an offset in a text. -/
def placeAt (cs : List Char) (i : Nat) : Position := Position.start.afterAll (cs.take i)

/-- A word stands at an offset, and goes no further. -/
structure WordAt (cs : List Char) (name : String) (i : Nat) : Prop where
  word : IsWord name.toList
  here : name.toList <+: cs.drop i
  ends : endsWord (cs.drop (i + name.toList.length)) = true

mutual

/-- A tree covers a text from one offset up to another. -/
inductive Spans (cs : List Char) : Part → Nat → Tree → Nat → Prop
  | word {i j : Nat} {text : String} (hat : WordAt cs text i)
      (hle : i + text.toList.length ≤ j) : Spans cs .word i (.leaf text (placeAt cs i)) j
  | fixed {i j : Nat} {text : String} (hat : text.toList <+: cs.drop i)
      (hle : i + text.toList.length ≤ j) :
      Spans cs (.fixed text) i (.leaf text (placeAt cs i)) j
  | leaf {i j : Nat} {text : String} {pos : Position} (hle : i ≤ j) :
      Spans cs .leaf i (.leaf text pos) j
  | node {k : Kind} {ss : List Part} {i j : Nat} {t : Tree} {ts : List Tree}
      (hadmits : k.Admits ss) (hts : SpansAll cs ss i (t :: ts) j) :
      Spans cs (.node k) i (.node k t.pos (t :: ts)) j

/-- Trees that follow one another cover a text from one offset up to another. -/
inductive SpansAll (cs : List Char) : List Part → Nat → List Tree → Nat → Prop
  | nil {i j : Nat} (hle : i ≤ j) : SpansAll cs [] i [] j
  | cons {s : Part} {ss : List Part} {h i j j' : Nat} {t : Tree} {ts : List Tree} (hle : h ≤ i)
      (ht : Spans cs s i t j) (hts : SpansAll cs ss j ts j') :
      SpansAll cs (s :: ss) h (t :: ts) j'

end

variable {cs : List Char} {s : Part} {ss ss' : List Part} {h i i' j j' : Nat} {t : Tree}
  {ts us : List Tree} {k : Kind}

mutual

theorem Spans.le {s : Part} {i j : Nat} {t : Tree} : Spans cs s i t j → i ≤ j
  | .word _ hle => Nat.le_trans (Nat.le_add_right ..) hle
  | .fixed _ hle => Nat.le_trans (Nat.le_add_right ..) hle
  | .leaf hle => hle
  | .node _ hts => SpansAll.le hts

theorem SpansAll.le {ss : List Part} {i j : Nat} {ts : List Tree} : SpansAll cs ss i ts j → i ≤ j
  | .nil hle => hle
  | .cons hle ht hts => Nat.le_trans hle (Nat.le_trans (Spans.le ht) (SpansAll.le hts))

end

theorem SpansAll.start (hle : h ≤ i) (hts : SpansAll cs ss i ts j) : SpansAll cs ss h ts j := by
  cases hts with
  | nil hle' => exact .nil (Nat.le_trans hle hle')
  | cons hle' ht hts => exact .cons (Nat.le_trans hle hle') ht hts

theorem spansAll_append (hts : SpansAll cs ss i ts j) (hus : SpansAll cs ss' j us j') :
    SpansAll cs (ss ++ ss') i (ts ++ us) j' := by
  induction ts generalizing ss i with
  | nil =>
    cases hts with
    | nil hle => exact hus.start hle
  | cons t ts ih =>
    cases hts with
    | cons hle ht hts => exact .cons hle ht (ih hts)

theorem spansAll_single (hle : h ≤ i) (ht : Spans cs s i t j) : SpansAll cs [s] h [t] j :=
  .cons hle ht (.nil (Nat.le_refl _))

/-- The node over some trees covers what they cover. -/
theorem spansAll_group (hadmits : k.Admits ss) (hts : SpansAll cs ss i ts j) :
    SpansAll cs (if ss = [] then [] else [.node k]) i (Tree.group k ts) j := by
  cases ts with
  | nil =>
    cases hts with
    | nil hle => exact .nil hle
  | cons t ts =>
    have hne : ss ≠ [] := by
      rintro rfl
      cases hts
    rw [if_neg hne]
    exact spansAll_single (Nat.le_refl i) (.node hadmits hts)

/-- The first of some trees is a word, if its part is. -/
theorem SpansAll.word (hts : SpansAll cs (.word :: ss) h ts j') :
    ∃ i j text us, ts = .leaf text (placeAt cs i) :: us ∧ h ≤ i ∧ WordAt cs text i ∧
      i + text.toList.length ≤ j ∧ SpansAll cs ss j us j' := by
  cases hts with
  | cons hle ht hts =>
    cases ht with
    | word hat hend => exact ⟨_, _, _, _, rfl, hle, hat, hend, hts⟩

/-- The first of some trees is a given mark or word, if its part is. -/
theorem SpansAll.fixed {text : String} (hts : SpansAll cs (.fixed text :: ss) h ts j') :
    ∃ i j us, ts = .leaf text (placeAt cs i) :: us ∧ h ≤ i ∧
      text.toList <+: cs.drop i ∧ i + text.toList.length ≤ j ∧ SpansAll cs ss j us j' := by
  cases hts with
  | cons hle ht hts =>
    cases ht with
    | fixed hat hend => exact ⟨_, _, _, rfl, hle, hat, hend, hts⟩

/-- The first of some trees is a node, if its part is. -/
theorem SpansAll.node (hts : SpansAll cs (.node k :: ss) h ts j') :
    ∃ i j ss' u vs us, ts = .node k u.pos (u :: vs) :: us ∧ h ≤ i ∧ k.Admits ss' ∧
      SpansAll cs ss' i (u :: vs) j ∧ SpansAll cs ss j us j' := by
  cases hts with
  | cons hle ht hts =>
    cases ht with
    | node hadmits hparts => exact ⟨_, _, _, _, _, _, rfl, hle, hadmits, hparts, hts⟩

/-- A leaf of the sort may stand over the first characters. -/
def Part.Spells (n : Nat) (r : List Char) : Part → Prop
  | word => n ≠ 0 ∧ wordLength r = n
  | fixed text => r.take n = text.toList
  | leaf => True
  | node _ => False

/-- The next characters as one leaf. -/
theorem spans_taken {n : Nat} (hspells : s.Spells n (cs.drop i)) :
    Spans cs s i (.leaf (String.ofList ((cs.drop i).take n)) (placeAt cs i)) (i + n) := by
  have hat : (String.ofList ((cs.drop i).take n)).toList <+: cs.drop i := by
    rw [String.toList_ofList]
    exact List.take_prefix n _
  have hle : i + (String.ofList ((cs.drop i).take n)).toList.length ≤ i + n := by
    rw [String.toList_ofList]
    exact Nat.add_le_add_left (List.length_take_le n _) i
  cases s with
  | word =>
    obtain ⟨hne, rfl⟩ := hspells
    obtain ⟨w, v, hr, hword, hends, hlength⟩ := word_of_length hne
    refine .word ⟨?_, hat, ?_⟩ hle
    · rwa [hlength, hr, List.take_left, String.toList_ofList]
    · rwa [hlength, ← List.drop_drop, hr, List.take_left, String.toList_ofList, List.drop_left]
  | fixed text =>
    have htext : String.ofList ((cs.drop i).take n) = text := by
      rw [show (cs.drop i).take n = text.toList from hspells, String.ofList_toList]
    rw [htext] at hat hle ⊢
    exact .fixed hat hle
  | leaf => exact .leaf (Nat.le_add_right i n)
  | node k => exact hspells.elim

/-! ## Cursors -/

theorem advance_advance (n m : Nat) (c : Cursor) : (c.advance n).advance m = c.advance (n + m) := by
  induction n generalizing c with
  | zero => rw [Nat.zero_add, Cursor.advance]
  | succ n ih =>
    obtain ⟨rest, p⟩ := c
    cases rest with
    | nil =>
      rw [Nat.add_right_comm, Cursor.advance, Cursor.advance]
      cases m <;> rfl
    | cons ch r =>
      rw [Nat.add_right_comm]
      exact ih ⟨r, p.after ch⟩

theorem advance_pos (n : Nat) (c : Cursor) : (c.advance n).pos = c.pos.afterAll (c.rest.take n) := by
  induction n generalizing c with
  | zero => rfl
  | succ n ih =>
    obtain ⟨rest, p⟩ := c
    cases rest with
    | nil => rfl
    | cons ch r => exact ih ⟨r, p.after ch⟩

/-- The cursor at an offset in a text. -/
def cursorAt (cs : List Char) (i : Nat) : Cursor := ⟨cs.drop i, placeAt cs i⟩

theorem cursorAt_zero (cs : List Char) : cursorAt cs 0 = .ofChars cs := rfl

theorem cursorAt_advance (cs : List Char) (i n : Nat) :
    (cursorAt cs i).advance n = cursorAt cs (i + n) := by
  have hat : ∀ i, cursorAt cs i = (Cursor.ofChars cs).advance i := by
    intro i
    show (⟨cs.drop i, placeAt cs i⟩ : Cursor) =
      ⟨((Cursor.ofChars cs).advance i).rest, ((Cursor.ofChars cs).advance i).pos⟩
    rw [advance_rest, advance_pos]
    rfl
  rw [hat, hat, advance_advance]

/-- What is known of some trees that were read from an offset on, up to a cursor. -/
def Covers (cs : List Char) (as : Fronts) (typed : Bool) (i : Nat) (ts : List Tree) (d : Cursor) :
    Prop :=
  ∃ ss j, d = cursorAt cs j ∧ SpansAll cs ss i ts j ∧ as.Describes ss ∧
    (typed = true → ∃ s ∈ ss, s.isType = true)

section Covers

variable {as bs : Fronts} {typed typed' : Bool} {d e : Cursor}

theorem covers_nil (cs : List Char) (hle : i ≤ j) : Covers cs [.none] false i [] (cursorAt cs j) :=
  ⟨[], j, rfl, .nil hle, Fronts.describes_single Front.describes_none, nofun⟩

theorem covers_single (hle : h ≤ i) (ht : Spans cs s i t j) :
    Covers cs [.single s] false h [t] (cursorAt cs j) :=
  ⟨[s], j, rfl, spansAll_single hle ht, Fronts.describes_single (Front.describes_single s), nofun⟩

theorem Covers.start (hle : h ≤ i) (hts : Covers cs as typed i ts d) : Covers cs as typed h ts d := by
  obtain ⟨ss, j, hd, hts, hss⟩ := hts
  exact ⟨ss, j, hd, hts.start hle, hss⟩

/-- The cursor behind the trees. -/
theorem Covers.end (h : Covers cs as typed i ts d) : ∃ j, d = cursorAt cs j ∧ i ≤ j := by
  obtain ⟨ss, j, hd, hts, -⟩ := h
  exact ⟨j, hd, hts.le⟩

theorem covers_append (h : Covers cs as typed i ts d)
    (h' : ∀ j, d = cursorAt cs j → Covers cs bs typed' j us e) :
    Covers cs (as.append bs) (typed || typed') i (ts ++ us) e := by
  obtain ⟨ss, j, rfl, hts, hss, htyped⟩ := h
  obtain ⟨ss', j', rfl, hus, hss', htyped'⟩ := h' j rfl
  refine ⟨ss ++ ss', j', rfl, spansAll_append hts hus, Fronts.describes_append hss hss', ?_⟩
  intro hor
  rcases Bool.or_eq_true_iff.1 hor with hor | hor
  · obtain ⟨s, hs, htype⟩ := htyped hor
    exact ⟨s, List.mem_append_left _ hs, htype⟩
  · obtain ⟨s, hs, htype⟩ := htyped' hor
    exact ⟨s, List.mem_append_right _ hs, htype⟩

/-- Less may be said. -/
theorem Covers.mono (h : Covers cs as typed i ts d) (hfronts : ∀ ss, as.Describes ss → bs.Describes ss)
    (htype : typed' = true → typed = true) : Covers cs bs typed' i ts d := by
  obtain ⟨ss, j, hd, hts, hss, htyped⟩ := h
  exact ⟨ss, j, hd, hts, hfronts ss hss, fun h => htyped (htype h)⟩

theorem Covers.unknown (h : Covers cs as typed i ts d) : Covers cs [.unknown] typed i ts d :=
  h.mono (fun ss _ => Fronts.describes_single (Front.describes_unknown ss)) id

theorem Covers.untyped (h : Covers cs as typed i ts d) : Covers cs as false i ts d :=
  h.mono (fun _ => id) nofun

/-- There is a type among the parts, whichever way they start. -/
def Fronts.holdType (as : Fronts) : Bool := as.all fun a => a.parts.any Part.isType

theorem Covers.holdType (h : Covers cs as typed i ts d) :
    Covers cs as (typed || as.holdType) i ts d := by
  obtain ⟨ss, j, hd, hts, hss, htyped⟩ := h
  refine ⟨ss, j, hd, hts, hss, fun hor => ?_⟩
  rcases Bool.or_eq_true_iff.1 hor with hor | hor
  · exact htyped hor
  · obtain ⟨a, hmem, ha⟩ := hss
    obtain ⟨s, hs, htype⟩ := List.any_eq_true.1 (List.all_eq_true.1 hor a hmem)
    exact ⟨s, ha.parts_prefix.subset hs, htype⟩

/-- The node over some trees. -/
theorem covers_group (hallows : k.allows as typed = true) (h : Covers cs as typed i ts d) :
    Covers cs (as.grouped k) false i (Tree.group k ts) d := by
  obtain ⟨ss, j, hd, hts, hss, htyped⟩ := h
  have hadmits := Kind.admits_of_allows hallows hss htyped
  exact ⟨_, j, hd, spansAll_group hadmits hts, Fronts.describes_grouped k hss, nofun⟩

end Covers

end SdkGen.Go
