import SdkGen.Proofs.Template.Script

/-!
# Nesting the parts of a template

One rule for each kind of part, to be applied part by part. Each leaves open where the tags stand.

* `Builds`: from the elements so far, the parts left give elements of some kind.
* `builds_tag`: one tag more, whatever it adds.
* `builds_text`, `builds_name`, `builds_opening`, `builds_closing`: one part more.
* `parse?_builds`: what is parsed from the start.
-/

namespace SdkGen.Template

/-- Wherever they stand, some parts can be added to what is built, no block is left open, and the
elements are as `Q` says. -/
def Builds (b : Builder) (lead : Lead) (ps : Script) (Q : List Element → Prop) : Prop :=
  ∀ place, ∃ b', b.addAll (ps.pieces place lead) = some b' ∧ b'.opened = [] ∧ Q b'.elements.reverse

/-- Whether a tag stands on a line of its own, given what is before it and after it. -/
def isAlone (lead : Lead) (ps : Script) : Bool := lead.isBlank && blankFrom ps.written

variable {es : List Element} {os : List OpenBlock} {trim line : Bool} {lead : Lead} {ps : Script}
variable {Q : List Element → Prop} {s w h : String}

theorem builds_nil (hq : Q es.reverse) : Builds ⟨es, [], trim, line⟩ lead [] Q :=
  fun _ => ⟨_, rfl, rfl, hq⟩

theorem builds_text
    (next : Builds ⟨.text s.toList :: es, os, false, false⟩ (lead.after s.toList) ps Q) :
    Builds ⟨es, os, false, false⟩ lead (.text s :: ps) Q := by
  intro place
  obtain ⟨b, hb, hopened, hq⟩ := next (place.after s.toList)
  exact ⟨b, hb, hopened, hq⟩

theorem Builder.addAll_cons (b : Builder) (p : Piece) (ps : List Piece) :
    b.addAll (p :: ps) = match b.add p with
      | some b' => b'.addAll ps
      | none => none := rfl

/-- One tag more, which changes what is built as it would anywhere. -/
theorem builds_tag {b : Builder} {next : Place → Builder} {p : Part} {tag : Tag}
    (ht : p.tag? = some tag)
    (hadd : ∀ place, b.addTag (.of ⟨tag, false, p.trimsAfter, ps.written⟩ place lead) =
      some (next place))
    (hnext : ∀ place, Builds (next place) .afterTag ps Q) :
    Builds b lead (p :: ps) Q := by
  intro place
  obtain ⟨b', hb, hopened, hq⟩ := hnext place (place.after p.written)
  refine ⟨b', ?_, hopened, hq⟩
  rw [Script.pieces_tag ht, Builder.addAll_cons, Builder.add, hadd]
  exact hb

/-- Text after a tag that takes the blanks behind it away. -/
theorem builds_text_trimmed (hblank : s.toList.all isTagBlank = false)
    (next : Builds ⟨.text (s.toList.dropWhile Blank.isBlank) :: es, os, true, false⟩
      (lead.after s.toList) ps Q) :
    Builds ⟨es, os, true, line⟩ lead (.text s :: ps) Q := by
  intro place
  obtain ⟨b, hb, hopened, hq⟩ := next (place.after s.toList)
  refine ⟨b, ?_, hopened, hq⟩
  rw [← hb]
  change Builder.addAll _ (.text s.toList (s.toList.all isTagBlank) ::
    ps.pieces (place.after s.toList) (lead.after s.toList)) = _
  simp only [Builder.addAll_cons, Builder.add, Builder.addText, hblank, Bool.and_false,
    Bool.false_eq_true, if_false, Builder.trimmed, if_true]

theorem builds_name
    (next : ∀ place, Builds ⟨.expression place (nameCall w.toList) :: es, os, false, line⟩
      .afterTag ps Q) :
    Builds ⟨es, os, trim, line⟩ lead (.name w :: ps) Q :=
  builds_tag rfl (fun _ => rfl) next

theorem builds_opening (halone : isAlone lead ps = false)
    (next : ∀ place, Builds ⟨[], ⟨.helper, place, false, blockCall h.toList w.toList, [], es, [],
      false⟩ :: os, false, false⟩ .afterTag ps Q) :
    Builds ⟨es, os, trim, line⟩ lead (.opening h w :: ps) Q := by
  refine builds_tag rfl (fun place => ?_) next
  unfold isAlone at halone
  simp only [PlacedTag.of, halone, Builder.addTag, Builder.openBlock, Builder.makeWay,
    Builder.trimBefore, Part.trimsAfter]
  rfl

/-- A block is closed; its closing tag takes its line away where it stands alone. -/
theorem builds_closing {place : Place} {before : List Element} {mark a : Bool}
    (halone : isAlone lead ps = a) (hes : a = true → Builder.trimLast isLineBlank es = es)
    (next : Builds ⟨.block place false (blockCall h.toList w.toList) [] es.reverse none :: before,
      os, mark, a⟩ .afterTag ps Q) :
    Builds ⟨es, ⟨.helper, place, false, blockCall h.toList w.toList, [], before, [], false⟩ :: os,
      trim, line⟩ lead (.closing h mark :: ps) Q := by
  have htrim : (if a then Builder.trimLast isLineBlank es else es) = es := by
    cases a with
    | true => exact hes rfl
    | false => rfl
  have hname : (blockCall h.toList w.toList).name? = some h := by
    simp [blockCall, Call.name?, namePath]
  refine builds_tag rfl (fun start => ?_) fun _ => next
  unfold isAlone at halone
  simp only [PlacedTag.of, halone, Builder.addTag, Builder.makeWay, Builder.trimBefore,
    Part.trimsAfter, Builder.closeBlock, Builder.firstCall, List.getLast?_nil, Option.map_none,
    Option.getD_none, hname, htrim, Bool.false_eq_true, if_false, if_true]
  rfl

/-- A plain template is parsed into what its parts build. -/
theorem parse?_builds (hplain : ps.IsPlain) (h : Builds ⟨[], [], false, false⟩ .start ps Q) :
    ∃ es, parse? ps.written = some es ∧ Q es := by
  obtain ⟨b, hb, hopened, hq⟩ := h ⟨1, 1⟩
  refine ⟨b.elements.reverse, ?_, hq⟩
  rw [parse?_written ps hplain, hb]
  simp [hopened]

/-! ## Lines -/

theorem isAlone_afterTag : isAlone .afterTag ps = false := rfl

/-- A line with something on it before the tag. -/
theorem isAlone_after {c : Char} {cs : List Char} (hc : (isLineBlank c || isLineEnd c) = false) :
    isAlone (lead.after (cs ++ [c])) ps = false := by
  simp only [Bool.or_eq_false_iff] at hc
  unfold isAlone Lead.after
  rw [List.foldl_append]
  simp [hc.1, hc.2]

end SdkGen.Template
