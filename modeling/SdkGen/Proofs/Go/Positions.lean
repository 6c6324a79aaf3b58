import SdkGen.Proofs.Go.Nodes
import SdkGen.Proofs.Go.PlainFields
import SdkGen.Proofs.Text.Position

/-!
# Positions in a file

The position of a declaration is where its name stands in the text, and that of a field where its
first token does, however deep the field lies.

* `SourceFile.marks`: the first tokens of the declarations and fields of a file, in order, with their
  positions.
* `Mark.StandsAt`: a token stands at an offset, which its position points at.
* `Placed`: tokens that stand in a part of a text one after the other.
* `type_placed`, `nodes_placed`: the tokens of types and of the nodes at the top are placed.
* `positions_of_parse`: the positions in a file are exact, and in order.
-/

namespace SdkGen.Go

/-! ## Marks -/

/-- A token, and where it is said to stand. -/
structure Mark where
  token : String
  pos : Position

/-- The first token of a type that may be embedded: its name or its package, a star, or the tilde of
a negated type. -/
def TypeSyntax.firstToken : TypeSyntax → String
  | .name n => n
  | .qualified p _ => p
  | .pointer _ => "*"
  | .generic base => base.firstToken
  | .other _ => "~"
  | _ => ""

/-- The first token of a field: its first name, or that of the type it embeds. -/
def FieldSyntax.firstToken (f : FieldSyntax) : String := f.names.head?.getD f.type.firstToken

mutual

/-- The first tokens of the fields in a type, in order. -/
def TypeSyntax.marks : TypeSyntax → List Mark
  | .pointer target => target.marks
  | .slice element => element.marks
  | .array element => element.marks
  | .generic base => base.marks
  | .struct fields => FieldSyntax.marksAll fields
  | _ => []

/-- The first token of a field, and those of the fields in its type. -/
def FieldSyntax.marks : FieldSyntax → List Mark
  | .mk names type tag pos =>
    ⟨(FieldSyntax.mk names type tag pos).firstToken, pos⟩ :: type.marks

def FieldSyntax.marksAll : List FieldSyntax → List Mark
  | [] => []
  | f :: fs => f.marks ++ FieldSyntax.marksAll fs

end

/-- The name of a declaration, and the first tokens of the fields in its type. -/
def Declaration.marks : Declaration → List Mark
  | .type name t pos => ⟨name, pos⟩ :: t.marks
  | .function name _ pos => [⟨name, pos⟩]

/-- The names of the declarations of a file, each with the first tokens of its fields behind it. -/
def SourceFile.marks (file : SourceFile) : List Mark := file.declarations.flatMap Declaration.marks

/-- A star, a tilde, or a whole word stands at an offset. -/
def TokenAt (cs : List Char) (token : String) (i : Nat) : Prop :=
  token ∈ ["*", "~"] ∧ token.toList <+: cs.drop i ∨ WordAt cs token i

/-- The token stands at an offset, which its position points at. -/
structure Mark.StandsAt (m : Mark) (cs : List Char) (i : Nat) : Prop where
  place : m.pos.PointsAt cs i
  token : TokenAt cs m.token i

variable {cs : List Char} {s : Part} {ss : List Part} {k : Kind} {h i i' j j' : Nat} {t : Tree}
  {ts us : List Tree} {token : String} {m : Mark} {ms ms' : List Mark} {type : TypeSyntax}

theorem WordAt.length_pos (h : WordAt cs token i) : 0 < token.toList.length := by
  have hstart := h.word.start
  cases hw : token.toList with
  | nil =>
    rw [hw] at hstart
    cases hstart
  | cons => exact Nat.succ_pos _

/-- There is a character at the offset of a token. -/
theorem TokenAt.lt (h : TokenAt cs token i) : i < cs.length := by
  have hboth : 0 < token.toList.length ∧ token.toList <+: cs.drop i := by
    rcases h with ⟨hmark, hhere⟩ | hword
    · refine ⟨?_, hhere⟩
      revert hmark
      have hmarks : ∀ token ∈ ["*", "~"], 0 < token.toList.length := by decide
      exact hmarks token
    · exact ⟨hword.length_pos, hword.here⟩
  have hlength := hboth.2.length_le
  rw [List.length_drop] at hlength
  omega

/-! ## Tokens in a part of a text -/

/-- Some tokens stand one after the other in the part of a text between two offsets, at the places
they are said to. -/
inductive Placed (cs : List Char) : Nat → List Mark → Nat → Prop
  | nil {i j : Nat} (hle : i ≤ j) : Placed cs i [] j
  | cons {h i j : Nat} {m : Mark} {ms : List Mark} (hle : h ≤ i) (hpos : m.pos = placeAt cs i)
      (htoken : TokenAt cs m.token i) (hms : Placed cs (i + 1) ms j) : Placed cs h (m :: ms) j

theorem Placed.start (hle : h ≤ i) (hms : Placed cs i ms j) : Placed cs h ms j := by
  cases hms with
  | nil hle' => exact .nil (Nat.le_trans hle hle')
  | cons hle' hpos htoken hms => exact .cons (Nat.le_trans hle hle') hpos htoken hms

theorem Placed.stop (hms : Placed cs i ms j) (hle : j ≤ j') : Placed cs i ms j' := by
  induction hms with
  | nil hle' => exact .nil (Nat.le_trans hle' hle)
  | cons hle' hpos htoken hms ih => exact .cons hle' hpos htoken (ih hle)

theorem placed_append (hms : Placed cs i ms j) (hms' : Placed cs j ms' j') :
    Placed cs i (ms ++ ms') j' := by
  induction hms with
  | nil hle => exact hms'.start hle
  | cons hle hpos htoken hms ih => exact .cons hle hpos htoken (ih hms')

theorem Placed.mem (hms : Placed cs h ms j) (hm : m ∈ ms) :
    ∃ i, h ≤ i ∧ m.pos = placeAt cs i ∧ TokenAt cs m.token i := by
  induction hms with
  | nil => cases hm
  | cons hle hpos htoken hms ih =>
    rcases List.mem_cons.1 hm with rfl | hm
    · exact ⟨_, hle, hpos, htoken⟩
    · obtain ⟨i, hi, hat⟩ := ih hm
      exact ⟨i, by omega, hat⟩

/-- Each token stands where its position points. -/
theorem Placed.standsAt (hms : Placed cs h ms j) (hm : m ∈ ms) : ∃ i, m.StandsAt cs i := by
  obtain ⟨i, -, hpos, htoken⟩ := hms.mem hm
  refine ⟨i, ?_, htoken⟩
  rw [hpos]
  exact Position.pointsAt_afterAll cs i

/-- A later offset in a text has a later place. -/
theorem before_placeAt (hlt : i < j) (hi : i < cs.length) :
    (placeAt cs i).before (placeAt cs j) = true := by
  have hsplit : cs.take j = cs.take i ++ (cs.drop i).take (j - i) := by
    rw [← List.take_add, Nat.add_sub_cancel' (Nat.le_of_lt hlt)]
  have hbetween : (cs.drop i).take (j - i) ≠ [] := by
    intro hnil
    have hlength := congrArg List.length hnil
    rw [List.length_take, List.length_drop, List.length_nil] at hlength
    omega
  unfold placeAt
  rw [hsplit, afterAll_append]
  exact Position.before_afterAll hbetween _

/-- A place is that of one offset only. -/
theorem offset_unique (hi : i < cs.length) (hj : j < cs.length)
    (hplace : placeAt cs i = placeAt cs j) : i = j := by
  rcases Nat.lt_trichotomy i j with hlt | heq | hlt
  · have hbefore := before_placeAt hlt hi
    rw [hplace] at hbefore
    exact (Position.not_before_self _ hbefore).elim
  · exact heq
  · have hbefore := before_placeAt hlt hj
    rw [hplace] at hbefore
    exact (Position.not_before_self _ hbefore).elim

/-- The positions of the tokens are in order. -/
theorem Placed.ordered (hms : Placed cs h ms j) :
    ms.Pairwise fun m m' => m.pos.before m'.pos = true := by
  induction hms with
  | nil => exact .nil
  | cons hle hpos htoken hms ih =>
    refine .cons (fun m' hm' => ?_) ih
    obtain ⟨i', hi', hpos', -⟩ := hms.mem hm'
    rw [hpos, hpos']
    exact before_placeAt hi' htoken.lt

/-! ## Embedded types -/

/-- The type of a name, a name in a package or a negated type starts with the token that its node
does, and holds no fields. -/
theorem simple_first (hk : k ∈ [.typeName, .qualifiedType, .negatedType])
    (ht : Spans cs (.node k) h t j) :
    ∃ type i, TypeSyntax.ofTree? t = some type ∧ type.marks = [] ∧ h ≤ i ∧ i < j ∧
      t.pos = placeAt cs i ∧ TokenAt cs type.firstToken i := by
  cases ht with
  | node hadmits hts =>
    simp only [List.mem_cons, List.not_mem_nil, or_false] at hk
    rcases hk with rfl | rfl | rfl
    · obtain ⟨i, name, heq, hi, hat, hle⟩ := typeName_parts hadmits hts
      obtain ⟨rfl, rfl⟩ := List.cons.inj heq
      have hpos := hat.length_pos
      exact ⟨.name name, i, rfl, rfl, hi, by omega, rfl, .inr hat⟩
    · obtain ⟨i, package, p, name, q, heq, -, hi, hat, hle⟩ := qualifiedType_parts hadmits hts
      obtain ⟨rfl, rfl⟩ := List.cons.inj heq
      have hpos := hat.length_pos
      exact ⟨.qualified package name, i, rfl, rfl, hi, by omega, rfl, .inr hat⟩
    · obtain ⟨ss', rfl⟩ := Front.describes_open.1 (Fronts.of_describes_single hadmits.fronts)
      obtain ⟨i, _, us, heq, hi, hat, hle, hts⟩ := hts.fixed
      obtain ⟨rfl, rfl⟩ := List.cons.inj heq
      have hend : i + 1 ≤ j := Nat.le_trans hle hts.le
      exact ⟨.other "negated_type", i, rfl, rfl, hi, hend, rfl, .inl ⟨by decide, hat⟩⟩

/-- A type that may be embedded starts with the token that its node does, and holds no fields. -/
theorem naming_first (hk : k ∈ Kind.namings) (ht : Spans cs (.node k) h t j) :
    ∃ type i, TypeSyntax.ofTree? t = some type ∧ type.marks = [] ∧ h ≤ i ∧ i < j ∧
      t.pos = placeAt cs i ∧ TokenAt cs type.firstToken i := by
  by_cases happlied : k = .appliedType
  · subst happlied
    cases ht with
    | node hadmits hts =>
      rename_i t ts
      obtain ⟨k, hk, i', j', u, us, heq, hle, ht, hle'⟩ := appliedType_parts hadmits hts
      obtain ⟨rfl, rfl⟩ := List.cons.inj heq
      obtain ⟨type, i, htype, hmarks, hi, hlt, hpos, htoken⟩ := simple_first hk ht
      have hbase : TypeSyntax.ofTree? (.node .appliedType t.pos (t :: ts)) =
          some (if (t :: ts).length = 1 then type else .generic type) := by
        rw [TypeSyntax.ofTree?, types_cons htype]
        dsimp only [List.head?_cons]
        split <;> rfl
      refine ⟨_, i, hbase, ?_, Nat.le_trans hle hi, Nat.lt_of_lt_of_le hlt hle', hpos, ?_⟩
      · split <;> exact hmarks
      · split <;> exact htoken
  · have hsimple : k ∈ [.typeName, .qualifiedType, .negatedType] := by
      clear ht
      revert k
      decide
    exact simple_first hsimple ht

/-- The parts of an embedded field: a type that may be embedded, behind a star or not, and no other
type behind it. -/
theorem embeddedField_parts (hadmits : Kind.embeddedField.Admits ss) (hts : SpansAll cs ss h ts j) :
    ∃ k ∈ Kind.namings, ∃ i j' u us, Spans cs (.node k) i u j' ∧ j' ≤ j ∧
      TypeSyntax.ofTrees us = [] ∧
      (h ≤ i ∧ ts = u :: us ∨
        ∃ i', h ≤ i' ∧ i' < i ∧ TokenAt cs "*" i' ∧ ts = .leaf "*" (placeAt cs i') :: u :: us) := by
  obtain ⟨a, ha, hss⟩ := hadmits.fronts
  obtain ⟨star, hstar, hrest⟩ := List.mem_flatMap.1 ha
  obtain ⟨k, hk, hrest⟩ := List.mem_flatMap.1 hrest
  obtain ⟨tag, htag, rfl⟩ := List.mem_map.1 hrest
  obtain rfl := Front.describes_closed.1 hss
  -- a tag is no type
  have htag : ∀ {i : Nat} {us : List Tree}, SpansAll cs tag i us j →
      TypeSyntax.ofTrees us = [] := by
    intro i us hus
    simp only [List.mem_cons, List.not_mem_nil, or_false] at htag
    rcases htag with rfl | rfl
    · cases hus
      rfl
    · cases hus with
      | cons hle ht hts =>
        cases ht
        cases hts
        rfl
  simp only [List.mem_cons, List.not_mem_nil, or_false] at hstar
  rcases hstar with rfl | rfl
  · cases hts with
    | cons hle ht hus => exact ⟨k, hk, _, _, _, _, ht, hus.le, htag hus, .inl ⟨hle, rfl⟩⟩
  · obtain ⟨i', k', us, rfl, hi', hat, hle, hts⟩ := hts.fixed
    cases hts with
    | cons hle' ht hus =>
      have hlt : i' < _ := Nat.lt_of_lt_of_le hle hle'
      exact ⟨k, hk, _, _, _, _, ht, hus.le, htag hus,
        .inr ⟨i', hi', hlt, .inl ⟨by decide, hat⟩, rfl⟩⟩

/-! ## Fields -/

/-- A field is made of the last type among its parts. -/
theorem field_ofTree? {pos : Position} {f : FieldSyntax}
    (hf : FieldSyntax.ofTree? (.node k pos ts) = some f) :
    (k = .field ∨ k = .embeddedField) ∧
      ∃ type ∈ (TypeSyntax.ofTrees ts).getLast?, f = .ofParts k pos ts type := by
  rw [FieldSyntax.ofTree?] at hf
  split at hf
  · next hk =>
    obtain ⟨type, htype, rfl⟩ := Option.map_eq_some_iff.1 hf
    exact ⟨by simpa using hk, type, htype, rfl⟩
  · cases hf

/-- An embedded field stands where its first token does. -/
theorem embeddedField_placed {f : FieldSyntax} (hadmits : Kind.embeddedField.Admits ss)
    (hts : SpansAll cs ss h (t :: ts) j)
    (hf : FieldSyntax.ofTree? (.node .embeddedField t.pos (t :: ts)) = some f) :
    Placed cs h f.marks j := by
  obtain ⟨-, outer, houter, rfl⟩ := field_ofTree? hf
  obtain ⟨k, hk, i, j', u, us, ht, hle, hus, ⟨hi, heq⟩ | ⟨i', hi', hlt, htoken, heq⟩⟩ :=
    embeddedField_parts hadmits hts
  · obtain ⟨rfl, rfl⟩ := List.cons.inj heq
    obtain ⟨type, i', htype, hmarks, hle', hlt, hpos, htoken⟩ := naming_first hk ht
    rw [types_cons htype, hus] at houter
    obtain rfl : type = outer := Option.some.inj houter
    cases ht with
    | node =>
      show Placed cs h (⟨type.firstToken, _⟩ :: type.marks) j
      rw [hmarks]
      exact .cons (Nat.le_trans hi hle') hpos htoken (.nil (Nat.le_trans hlt hle))
  · obtain ⟨rfl, rfl⟩ := List.cons.inj heq
    obtain ⟨type, i'', htype, hmarks, hle', hlt', -⟩ := naming_first hk ht
    change _ ∈ (TypeSyntax.ofTrees (u :: us)).getLast? at houter
    rw [types_cons htype, hus] at houter
    obtain rfl : type = outer := Option.some.inj houter
    show Placed cs h (⟨"*", placeAt cs i'⟩ :: type.marks) j
    rw [hmarks]
    exact .cons hi' rfl htoken (.nil (by omega))

mutual

/-- **The tokens of a type are placed.** -/
theorem type_placed {s : Part} {i j : Nat} {t : Tree} {type : TypeSyntax} (h : Spans cs s i t j)
    (htype : TypeSyntax.ofTree? t = some type) : Placed cs i type.marks j := by
  cases h with
  | node hadmits hts =>
    rename_i k ss t ts
    have hle := hts.le
    have hinner : ∀ inner, (TypeSyntax.ofTrees (t :: ts)).getLast? = some inner →
        Placed cs i inner.marks j := fun inner hlast =>
      types_placed hts inner (List.mem_of_getLast? hlast)
    cases k with
    | typeName =>
      obtain ⟨l, -, rfl⟩ := Option.map_eq_some_iff.1 htype
      exact .nil hle
    | qualifiedType =>
      rw [TypeSyntax.ofTree?] at htype
      split at htype
      · cases htype
        exact .nil hle
      · cases htype
    | appliedType =>
      have hbase : ∀ base, (TypeSyntax.ofTrees (t :: ts)).head? = some base →
          Placed cs i base.marks j := fun base hhead =>
        types_placed hts base (List.mem_of_head? hhead)
      rw [TypeSyntax.ofTree?] at htype
      split at htype
      · exact hbase type htype
      · obtain ⟨base, hhead, rfl⟩ := Option.map_eq_some_iff.1 htype
        exact hbase base hhead
    | pointerType | sliceType | arrayType =>
      obtain ⟨inner, hlast, rfl⟩ := Option.map_eq_some_iff.1 htype
      exact hinner inner hlast
    | parenthesizedType => exact hinner type htype
    | structType =>
      cases htype
      exact fields_placed hts
    | interfaceType | mapType | channelType | functionType | negatedType =>
      cases htype
      exact .nil hle
    | _ => cases htype
  | _ => cases htype
  termination_by sizeOf t

/-- The tokens of each type among some trees. -/
theorem types_placed {ss : List Part} {i j : Nat} {ts : List Tree} (h : SpansAll cs ss i ts j) :
    ∀ type ∈ TypeSyntax.ofTrees ts, Placed cs i type.marks j := by
  cases h with
  | nil => nofun
  | cons hle ht hts =>
    rename_i t ts
    have hrest : ∀ type ∈ TypeSyntax.ofTrees ts, Placed cs i type.marks j := fun type hmem =>
      (types_placed hts type hmem).start (Nat.le_trans hle ht.le)
    rw [TypeSyntax.ofTrees]
    split
    · next type htype =>
      exact List.forall_mem_cons.2 ⟨((type_placed ht htype).start hle).stop hts.le, hrest⟩
    · exact hrest
  termination_by sizeOf ts

/-- The tokens of a field. -/
theorem field_placed {s : Part} {i j : Nat} {t : Tree} {f : FieldSyntax} (h : Spans cs s i t j)
    (hf : FieldSyntax.ofTree? t = some f) : Placed cs i f.marks j := by
  cases h with
  | node hadmits hts =>
    rename_i k ss t ts
    by_cases hembedded : k = .embeddedField
    · subst hembedded
      exact embeddedField_placed hadmits hts hf
    · obtain ⟨hk, type, htype, rfl⟩ := field_ofTree? hf
      obtain rfl := hk.resolve_right hembedded
      obtain ⟨ss', i', j', name, us, heq, hi, hat, hle, hus⟩ := first_name hadmits.fronts hts
      obtain ⟨rfl, rfl⟩ := List.cons.inj heq
      have hnext : i' + 1 ≤ j' := Nat.le_trans (Nat.add_le_add_left hat.length_pos i') hle
      have hmem : type ∈ TypeSyntax.ofTrees ts := List.mem_of_getLast? htype
      show Placed cs i (⟨(fieldNames (.leaf name _ :: ts)).head?.getD _, _⟩ :: type.marks) j
      rw [fieldNames_word hat.word]
      exact .cons hi rfl (.inr hat) ((types_placed hus type hmem).start hnext)
  | _ => cases hf
  termination_by sizeOf t

/-- The tokens of the fields among some trees. -/
theorem fields_placed {ss : List Part} {i j : Nat} {ts : List Tree} (h : SpansAll cs ss i ts j) :
    Placed cs i (FieldSyntax.marksAll (FieldSyntax.ofTrees ts)) j := by
  cases h with
  | nil hle => exact .nil hle
  | cons hle ht hts =>
    rw [FieldSyntax.ofTrees]
    split
    · next f hf => exact placed_append ((field_placed ht hf).start hle) (fields_placed hts)
    · exact (fields_placed hts).start (Nat.le_trans hle ht.le)
  termination_by sizeOf ts

end

/-! ## Declarations -/

theorem specs_placed (hts : SpansAll cs ss i ts j) :
    Placed cs i ((ts.filterMap TopNode.spec?).flatMap Declaration.marks) j := by
  induction ts generalizing ss i with
  | nil => exact .nil hts.le
  | cons t ts ih =>
    cases hts with
    | cons hle ht hts =>
      rcases spec_cases ht with ⟨-, hspec⟩ |
        ⟨_, _, i', j', name, us, type, -, hspec, htype, hi, hat, hle', hus⟩
      · rw [List.filterMap_cons_none hspec]
        exact (ih hts).start (Nat.le_trans hle ht.le)
      · have hnext : i' + 1 ≤ j' := Nat.le_trans (Nat.add_le_add_left hat.length_pos i') hle'
        have htokens := types_placed hus type (List.mem_of_getLast? htype)
        rw [List.filterMap_cons_some hspec, List.flatMap_cons]
        exact placed_append (.cons (Nat.le_trans hle hi) rfl (.inr hat) (htokens.start hnext))
          (ih hts)

/-- The first tokens of what a node at the top declares. -/
def TopNode.marks : TopNode → List Mark
  | declarations ds _ => ds.flatMap Declaration.marks
  | _ => []

/-- The name of a function is all there is. -/
theorem function_placed {name : String} {receiver : Bool} (hi : h ≤ i) (hat : WordAt cs name i)
    (hle : i + name.toList.length ≤ j) :
    Placed cs h ([Declaration.function name receiver (placeAt cs i)].flatMap Declaration.marks) j :=
  .cons hi rfl (.inr hat) (.nil (Nat.le_trans (Nat.add_le_add_left hat.length_pos i) hle))

theorem TopNode.Over.placed {n : TopNode} (hn : TopNode.Over cs i j t n) (hle : i ≤ j) :
    Placed cs i n.marks j := by
  cases hn with
  | package hat => exact .nil hle
  | types hparts => exact specs_placed hparts
  | function hi hat hle => exact function_placed hi hat hle
  | method hi hat hle => exact function_placed hi hat hle
  | skipped hk => exact .nil hle
  | foreign hk => exact .nil hle

/-- **The tokens of the nodes at the top are placed.** -/
theorem nodes_placed (hts : SpansAll cs ss i ts j) :
    Placed cs i ((ts.filterMap TopNode.ofTree?).flatMap TopNode.marks) j := by
  induction ts generalizing ss i with
  | nil => exact .nil hts.le
  | cons t ts ih =>
    cases hts with
    | cons hle ht hts =>
      rcases topNode_cases ht with ⟨-, hn⟩ | ⟨-, n, hn, hover⟩
      · rw [List.filterMap_cons_none hn]
        exact (ih hts).start (Nat.le_trans hle ht.le)
      · rw [List.filterMap_cons_some hn, List.flatMap_cons]
        exact placed_append ((hover.placed ht.le).start hle) (ih hts)

/-! ## Files -/

theorem marks_ofNodes {file : SourceFile} {nodes : List TopNode}
    (h : SourceFile.ofNodes nodes = .ok file) : file.marks = nodes.flatMap TopNode.marks := by
  have hmarks : TopNode.marks = fun n => n.declared.flatMap Declaration.marks := by
    funext n
    cases n <;> rfl
  rw [SourceFile.marks, ofNodes_declarations h, List.flatMap_assoc, hmarks]

/-- **The positions in a file are exact, and in order**: that of a declaration points at its name,
that of a field at its first token, and they follow one another as the declarations do, with the
fields of each behind its name. -/
theorem positions_of_parse {source : String} {file : SourceFile} (h : parse source = .ok file) :
    (∀ m ∈ file.marks, ∃ i, m.StandsAt (withoutMark source) i) ∧
      file.marks.Pairwise fun m m' => m.pos.before m'.pos = true := by
  obtain ⟨ts, hts, hfile⟩ := treesOf_of_parse h
  obtain ⟨ss, j, hspans⟩ := spans_of_treesOf hts
  have hplaced := nodes_placed hspans
  rw [← marks_ofNodes hfile] at hplaced
  exact ⟨fun m hm => hplaced.standsAt hm, hplaced.ordered⟩

/-- A struct with a field behind a comment, a field inside that one, and a field behind both. -/
def nestedStruct : String :=
  "package p\ntype A struct \x7b\n\t/* \u00e9 */ B struct\x7b *C \x7d; D int\n\x7d\nfunc f() \x7b\x7d\n"

/-- Columns count bytes, and a field behind another is placed as well as one inside it. -/
theorem positions_of_nestedStruct : ∃ file, parse nestedStruct = .ok file ∧
    file.marks.map (fun m => (m.token, m.pos)) =
      [("A", ⟨2, 6⟩), ("B", ⟨3, 11⟩), ("*", ⟨3, 21⟩), ("D", ⟨3, 27⟩), ("f", ⟨5, 6⟩)] ∧
    (∀ m ∈ file.marks, ∃ i, m.StandsAt (withoutMark nestedStruct) i) ∧
    file.marks.Pairwise fun m m' => m.pos.before m'.pos = true := by
  have hmarks : (parse nestedStruct).map (fun file => file.marks.map fun m => (m.token, m.pos)) =
      .ok [("A", ⟨2, 6⟩), ("B", ⟨3, 11⟩), ("*", ⟨3, 21⟩), ("D", ⟨3, 27⟩), ("f", ⟨5, 6⟩)] := by
    decide
  obtain ⟨file, hparse, hmarks⟩ := map_ok_iff.1 hmarks
  exact ⟨file, hparse, hmarks, positions_of_parse hparse⟩

/-- A struct that embeds a negated type, applied to arguments. -/
def embeddedNegation : String := "package p\ntype A struct \x7b\n\t~T[int]\n\x7d\n"

/-- An embedded field need not stand at a star or at the name of its type: where the type is negated,
it stands at the tilde. -/
theorem embeddedNegation_tilde : ∃ file f, parse embeddedNegation = .ok file ∧
    f ∈ file.structs.flatMap Prod.snd ∧ f.isEmbedded = true ∧
    ¬ ∃ i, f.pos.PointsAt (withoutMark embeddedNegation) i ∧
      (['*'] <+: (withoutMark embeddedNegation).drop i ∨
        ∃ name, WordAt (withoutMark embeddedNegation) name i) := by
  have hfields : (parse embeddedNegation).map (fun file =>
      (file.structs.flatMap Prod.snd).map fun f => (f.isEmbedded, f.pos)) =
        .ok [(true, ⟨3, 2⟩)] := by
    decide
  have htilde : placeAt (withoutMark embeddedNegation) 27 = ⟨3, 2⟩ ∧
      27 < (withoutMark embeddedNegation).length ∧
      ((withoutMark embeddedNegation).drop 27).head? = some '~' := by
    decide
  obtain ⟨file, hparse, hfields⟩ := map_ok_iff.1 hfields
  obtain ⟨f, hf, hboth⟩ := List.map_eq_singleton_iff.1 hfields
  obtain ⟨hembedded, hpos⟩ := Prod.mk.inj hboth
  refine ⟨file, f, hparse, hf ▸ List.mem_singleton_self f, hembedded, ?_⟩
  rintro ⟨i, hpoints, hstart⟩
  obtain ⟨ch, r, hdrop, hch⟩ : ∃ ch r, (withoutMark embeddedNegation).drop i = ch :: r ∧
      (ch = '*' ∨ isWordStart ch = true) := by
    rcases hstart with ⟨r, hr⟩ | ⟨name, hname⟩
    · exact ⟨'*', r, hr.symm, .inl rfl⟩
    · obtain ⟨r, hr⟩ := hname.here
      have hfirst := hname.word.start
      cases hw : name.toList with
      | nil =>
        rw [hw] at hfirst
        cases hfirst
      | cons ch w =>
        rw [hw] at hfirst hr
        exact ⟨ch, w ++ r, hr.symm, .inr hfirst⟩
  have hlt : i < (withoutMark embeddedNegation).length := by
    by_contra hge
    rw [List.drop_eq_nil_of_le (Nat.le_of_not_lt hge)] at hdrop
    cases hdrop
  rw [hpos] at hpoints
  obtain rfl := offset_unique hlt htilde.2.1 (hpoints.eq_place.symm.trans htilde.1.symm)
  obtain rfl : '~' = ch := Option.some.inj (htilde.2.2.symm.trans (congrArg List.head? hdrop))
  exact absurd hch (by decide)

end SdkGen.Go
