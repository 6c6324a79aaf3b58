import SdkGen.Template.Parse
import SdkGen.Proofs.Template.Word

/-!
# Templates of plain parts

The built-in templates use little of the language: text, the value of a name, and blocks of a
helper on a name. A `Script` is such a template as a list of parts.

* `Part`, `Script.written`: the parts, and the template that they are.
* `Script.pieces`: its pieces.
* `parse?_written`: how a template of plain parts is parsed.
-/

namespace SdkGen.Template

/-- A part of a template. -/
inductive Part
  | text (s : String)
  | name (word : String)
  | opening (helper word : String)
  | closing (helper : String) (trim : Bool)

namespace Part

/-- What stands between the braces of a tag; nothing for text. -/
def inside : Part → List Char
  | text _ => []
  | name word => word.toList
  | opening helper word => '#' :: (helper.toList ++ ' ' :: word.toList)
  | closing helper trim => '/' :: (helper.toList ++ if trim then ['~'] else [])

/-- A part as it stands in the template. -/
def written : Part → List Char
  | text s => s.toList
  | p => doubleOpen ++ p.inside ++ doubleClose

/-- What a tag is read as. -/
def tag? : Part → Option Tag
  | text _ => none
  | name word => some (.expression (nameCall word.toList))
  | opening helper word => some (.opening (blockCall helper.toList word.toList) [])
  | closing helper _ => some (.closing helper)

/-- Whether blanks after the part are taken away. -/
def trimsAfter : Part → Bool
  | closing _ trim => trim
  | _ => false

end Part

/-- Text without a backslash, without the braces of a tag, and not ending in half of them. -/
def isPlainText : List Char → Bool
  | [] => true
  | c :: cs => c ≠ '\\' && (c ≠ '{' || cs.head?.any (· ≠ '{')) && isPlainText cs

namespace Part

/-- Whether a part is text. -/
def isText : Part → Bool
  | text _ => true
  | _ => false

/-- Whether a part is read as what it is. -/
def IsPlain : Part → Prop
  | text s => s.toList ≠ [] ∧ isPlainText s.toList = true
  | name word => IsPlainWord word.toList
  | opening helper word => IsPlainWord helper.toList ∧ IsPlainWord word.toList
  | closing helper _ => IsPlainWord helper.toList

end Part

/-- A template as a list of parts. -/
abbrev Script := List Part

namespace Script

/-- The template of some parts. -/
def written (ps : Script) : List Char := ps.flatMap Part.written

/-- Whether all parts are plain and no two texts meet. -/
def IsPlain : Script → Prop
  | [] => True
  | p :: ps => p.IsPlain ∧ (p.isText && ps.head?.any Part.isText) = false ∧ IsPlain ps

/-- The pieces of a template from a place on. -/
def pieces (place : Place) (lead : Lead) : Script → List Piece
  | [] => []
  | p :: ps =>
    match p.tag? with
    | none =>
      .text p.written (p.written.all isTagBlank) ::
        pieces (place.after p.written) (lead.after p.written) ps
    | some tag =>
      .tag (.of ⟨tag, false, p.trimsAfter, written ps⟩ place lead) ::
        pieces (place.after p.written) .afterTag ps

end Script

/-! ## Text -/

variable {s rest : List Char}

theorem not_startsEscape {c : Char} (hc : c ≠ '\\') (r : List Char) :
    startsEscape (c :: r) = false := by
  simp [startsEscape, hc]

theorem readPlain_tag (h : startsTag rest = true ∨ rest = []) : readPlain rest = ([], rest) := by
  rcases h with h | rfl
  · unfold startsTag at h
    split at h
    · rfl
    · cases h
  · rfl

/-- Plain text is read up to the next tag. -/
theorem readPlain_text (hs : isPlainText s = true) (h : startsTag rest = true ∨ rest = []) :
    readPlain (s ++ rest) = (s, rest) := by
  induction s with
  | nil => exact readPlain_tag h
  | cons c s ih =>
    simp only [isPlainText, Bool.and_eq_true, decide_eq_true_eq] at hs
    obtain ⟨⟨hslash, hbrace⟩, hs⟩ := hs
    have hescape := not_startsEscape hslash (s ++ rest)
    rw [List.cons_append, readPlain]
    · rw [hescape, ih hs]
      rfl
    · rintro r rfl
      cases s with
      | nil => simp at hbrace
      | cons d s =>
        intro hr
        simp only [List.cons_append, List.cons.injEq] at hr
        simp [hr.1] at hbrace
    · exact fun _ hc => absurd hc hslash
    · exact fun _ hc => absurd hc hslash

/-- No tag starts in plain text. -/
theorem not_startsTag_text (hne : s ≠ []) (hs : isPlainText s = true) :
    startsTag (s ++ rest) = false := by
  obtain ⟨c, s, rfl⟩ := List.exists_cons_of_ne_nil hne
  rw [← Bool.not_eq_true]
  intro htag
  unfold startsTag at htag
  split at htag
  · rename_i heq
    simp only [List.cons_append, List.cons.injEq] at heq
    obtain ⟨rfl, heq⟩ := heq
    cases s with
    | nil => simp [isPlainText] at hs
    | cons d s =>
      simp only [List.cons_append, List.cons.injEq] at heq
      simp [isPlainText, heq.1] at hs
  · cases htag

/-- A step over plain text. -/
theorem piecesFrom_text {n : Nat} {place : Place} {lead : Lead} (hne : s ≠ [])
    (hs : isPlainText s = true) (h : startsTag rest = true ∨ rest = []) :
    piecesFrom (n + 1) place lead (s ++ rest) =
      (piecesFrom n (place.after s) (lead.after s) rest).map (.text s (s.all isTagBlank) :: ·) := by
  have htake : (s ++ rest).take ((s ++ rest).length - rest.length) = s := by simp
  have hstart : ¬ startsTag (s ++ rest) = true := by
    rw [not_startsTag_text hne hs]
    exact Bool.false_ne_true
  have hread := readPlain_text hs h
  obtain ⟨c, s, rfl⟩ := List.exists_cons_of_ne_nil hne
  change (if startsTag (c :: s ++ rest) then _ else _) = _
  rw [if_neg hstart, hread]
  dsimp only
  rw [htake]

theorem piecesFrom_startsTag {n : Nat} {place : Place} {lead : Lead} {t : TagRead} {c d : Char}
    (hstart : startsTag (c :: d :: rest) = true) (hraw : readRaw rest = none)
    (h : readTag rest = some t) :
    piecesFrom (n + 1) place lead (c :: d :: rest) =
      (piecesFrom n (place.after ((c :: d :: rest).take ((c :: d :: rest).length - t.rest.length)))
        .afterTag t.rest).map (.tag (.of t place lead) :: ·) := by
  change (if startsTag (c :: d :: rest) then _ else _) = _
  rw [if_pos hstart, List.drop_succ_cons, List.drop_succ_cons, List.drop_zero, hraw]
  dsimp only
  rw [h]

/-- A step over a tag that opens no raw text. -/
theorem piecesFrom_tag {n : Nat} {place : Place} {lead : Lead} {t : TagRead} {w : List Char}
    (hraw : readRaw (w ++ t.rest) = none) (h : readTag (w ++ t.rest) = some t) :
    piecesFrom (n + 1) place lead (doubleOpen ++ w ++ t.rest) =
      (piecesFrom n (place.after (doubleOpen ++ w)) .afterTag t.rest).map
        (.tag (.of t place lead) :: ·) := by
  have htake : ('{' :: '{' :: (w ++ t.rest)).take
      (('{' :: '{' :: (w ++ t.rest)).length - t.rest.length) = doubleOpen ++ w := by
    change (doubleOpen ++ w ++ t.rest).take ((doubleOpen ++ w ++ t.rest).length - _) = _
    rw [List.length_append, Nat.add_sub_cancel, List.take_left]
  change piecesFrom (n + 1) place lead ('{' :: '{' :: (w ++ t.rest)) = _
  rw [piecesFrom_startsTag rfl hraw h, htake]

theorem readRaw_none {c : Char} (hc : c ≠ '{') (r : List Char) : readRaw (c :: r) = none := by
  have : literally doubleOpen (c :: r) = none := by simp [doubleOpen, literally, hc.symm]
  unfold readRaw
  rw [this]
  rfl

/-! ## Parts -/

theorem Script.pieces_tag {p : Part} {tag : Tag} {place : Place} {lead : Lead} {ps : Script}
    (ht : p.tag? = some tag) :
    Script.pieces place lead (p :: ps) =
      .tag (.of ⟨tag, false, p.trimsAfter, ps.written⟩ place lead) ::
        ps.pieces (place.after p.written) .afterTag := by
  cases p with
  | text s => cases ht
  | _ => cases ht; rfl

/-- A plain tag is read as it is meant. -/
theorem readTag_part {p : Part} {tag : Tag} (hp : p.IsPlain) (ht : p.tag? = some tag)
    (rest : List Char) :
    readRaw (p.inside ++ doubleClose ++ rest) = none ∧
      readTag (p.inside ++ doubleClose ++ rest) = some ⟨tag, false, p.trimsAfter, rest⟩ := by
  cases p with
  | text s => cases ht
  | name word =>
    cases ht
    have hread := readTag_word (r := rest) hp
    obtain ⟨c, w, hw⟩ := List.exists_cons_of_ne_nil hp.ne_nil
    have hc : c ≠ '{' := letter_ne (hp.letters c (by simp [hw])) (by decide)
    refine ⟨?_, by simpa [Part.inside, Part.trimsAfter, doubleClose] using hread⟩
    rw [Part.inside, hw]
    exact readRaw_none hc _
  | opening helper word =>
    cases ht
    have hread := readTag_opening (r := rest) hp.2 hp.1
    exact ⟨readRaw_none (by decide) _,
      by simpa [Part.inside, Part.trimsAfter, doubleClose] using hread⟩
  | closing helper trim =>
    cases ht
    have hread := readTag_closing (r := rest) hp trim
    exact ⟨readRaw_none (by decide) _,
      by simpa [Part.inside, Part.trimsAfter, doubleClose] using hread⟩

theorem written_eq {p : Part} (hp : p.isText = false) :
    p.written = doubleOpen ++ (p.inside ++ doubleClose) := by
  cases p <;> simp_all [Part.isText, Part.written]

theorem starts_written (ps : Script) (h : ps.head?.any Part.isText = false) :
    startsTag ps.written = true ∨ ps.written = [] := by
  cases ps with
  | nil => exact .inr rfl
  | cons p ps =>
    have hp : p.isText = false := by simpa using h
    rw [Script.written, List.flatMap_cons, written_eq hp]
    exact .inl rfl

/-- The pieces of a plain template are those of its parts. -/
theorem piecesFrom_written (ps : Script) (h : ps.IsPlain) {n : Nat} (hn : ps.length < n)
    (place : Place) (lead : Lead) :
    piecesFrom n place lead ps.written = some (ps.pieces place lead) := by
  induction ps generalizing n place lead with
  | nil =>
    obtain ⟨n, rfl⟩ := Nat.exists_eq_succ_of_ne_zero (Nat.ne_of_gt hn)
    rfl
  | cons p ps ih =>
    obtain ⟨n, rfl⟩ := Nat.exists_eq_succ_of_ne_zero (Nat.ne_of_gt (Nat.zero_lt_of_lt hn))
    obtain ⟨hp, hmeet, hps⟩ := h
    have ih := @ih hps n (by simpa using hn)
    have hwritten : Script.written (p :: ps) = p.written ++ Script.written ps :=
      List.flatMap_cons
    rw [hwritten]
    cases ht : p.tag? with
    | none =>
      obtain ⟨s, rfl⟩ : ∃ s, p = .text s := by cases p <;> simp_all [Part.tag?]
      have hstart := starts_written ps (by simpa [Part.isText] using hmeet)
      rw [Part.written, piecesFrom_text hp.1 hp.2 hstart, ih]
      rfl
    | some tag =>
      have htext : p.isText = false := by cases p <;> simp_all [Part.tag?, Part.isText]
      obtain ⟨hraw, hread⟩ := readTag_part hp ht (Script.written ps)
      rw [written_eq htext,
        piecesFrom_tag (t := ⟨tag, false, p.trimsAfter, Script.written ps⟩) hraw hread, ih,
        Script.pieces_tag ht, written_eq htext]
      rfl

/-- The parts of a plain template are fewer than its characters. -/
theorem length_le_written (ps : Script) (h : ps.IsPlain) : ps.length ≤ ps.written.length := by
  induction ps with
  | nil => exact Nat.le_refl 0
  | cons p ps ih =>
    obtain ⟨hp, -, hps⟩ := h
    have hpos : 0 < p.written.length := by
      cases p with
      | text s => exact List.length_pos_iff.2 hp.1
      | name => simp [Part.written, doubleOpen]
      | opening => simp [Part.written, doubleOpen]
      | closing => simp [Part.written, doubleOpen]
    have := ih hps
    rw [Script.written, List.flatMap_cons, List.length_append, List.length_cons]
    exact Nat.le_trans (Nat.add_comm _ _ ▸ Nat.add_le_add hpos this) (Nat.le_refl _)

/-- **A plain template is parsed part by part.** -/
theorem parse?_written (ps : Script) (h : ps.IsPlain) :
    parse? ps.written =
      match Builder.addAll ⟨[], [], false, false⟩ (ps.pieces ⟨1, 1⟩ .start) with
      | some b => if b.opened.isEmpty then some b.elements.reverse else none
      | none => none := by
  have hlength := length_le_written ps h
  unfold parse? pieces
  rewrite [piecesFrom_written ps h (by omega)]
  rfl

end SdkGen.Template
