import SdkGen.Go.Mending.Leaf
import SdkGen.Proofs.Go.Brackets
import SdkGen.Proofs.Go.Forms
import SdkGen.Proofs.Go.Literal

/-!
# Brackets of the leaves of a text

A text that is made of some leaves has their brackets. Where the leaves stand between double
quotes, the text is the rest of a string literal and what is behind it.

* `bracketsBehind`: the brackets of a text, or of what is behind a string literal's rest.
* `fits_brackets`: what one leaf takes from them.
* `followed_brackets`: the brackets of a text are those of its leaves.
-/

namespace SdkGen.Go

/-- The brackets of a text. If a double quote is open, those behind the rest of the string literal;
none where that does not close. -/
def bracketsBehind (quoted : Bool) (cs : List Char) : Option (List Char) :=
  if quoted then (quotedTail 0 cs).map fun n => brackets (cs.drop n) else some (brackets cs)

/-- The brackets of some leaves. -/
def leafBrackets (ls : List Leaf) : List Char := ls.flatMap (·.token.bracket)

/-- Whether a token, if it is a mark, is a bracket or one of the grammar's marks. -/
def Token.isRead : Token → Bool
  | .mark m => bracketMarks.contains m || marks.contains m
  | _ => true

variable {c d : Char} {cs u r : List Char} {t : Token} {n blank : Nat}

/-! ## Tokens outside string literals -/

theorem token_mark {m : String} (hm : .mark m ∈ Token.all) : m ∈ bracketMarks ∨ m ∈ marks := by
  have hall : Token.all.all Token.isRead = true := by decide
  have hone : (bracketMarks.contains m || marks.contains m) = true := List.all_eq_true.1 hall _ hm
  simpa only [Bool.or_eq_true, List.contains_iff_mem] using hone

theorem bracketMark_single {m : String} (hm : m ∈ bracketMarks) :
    ∃ c ∈ openings ++ closings, m.toList = [c] := by
  have hall : bracketMarks.all (fun m => (openings ++ closings).any (m.toList = [·])) = true := by
    decide
  obtain ⟨c, hc, heq⟩ := List.any_eq_true.1 (List.all_eq_true.1 hall m hm)
  exact ⟨c, hc, of_decide_eq_true heq⟩

theorem bracket_none (h : ∀ m, t ≠ .mark m) : t.bracket = [] := by
  cases t with
  | mark m => exact absurd rfl (h m)
  | _ => rfl

theorem scans_imaginary : Scans imaginaryLength := by
  have hplain := scans_max scans_integer scans_float
  have hi : Scans (charLength (· = 'i')) := scans_char (plain_of (by decide))
  unfold imaginaryLength
  exact scans_max (scans_andThen hplain hi) (scans_andThen (scans_digits plain_digit) hi)

/-- A character that is no bracket, no quote and no slash. -/
theorem brackets_char (hd : d ∉ quotes ++ openings ++ closings ++ ['/'])
    (h : charLength (· = d) cs ≠ 0) :
    brackets cs = brackets (cs.drop (charLength (· = d) cs)) := by
  obtain ⟨r, rfl⟩ := charLength_here h
  have hone : charLength (· = d) (d :: r) = 1 := by simp [charLength]
  rw [hone]
  exact bracketSieve.kept_silent hd

theorem brackets_scanned {f : List Char → Nat} (hf : Scans f) (cs : List Char) :
    brackets cs = brackets (cs.drop (f cs)) := (bracketSieve.kept_take (hf.plain cs)).symm

theorem brackets_literal (h : quoteLength cs = n) (hn : n ≠ 0) :
    brackets cs = brackets (cs.drop n) := by
  subst h
  exact (bracketSieve.kept_literal hn).symm

theorem brackets_mark {m : String} (hm : .mark m ∈ Token.all) (hstart : m.toList <+: cs)
    (hcomment : commentLength cs = 0) :
    brackets cs = Token.bracket (.mark m) ++ brackets (cs.drop m.length) := by
  obtain ⟨v, rfl⟩ := hstart
  rw [← String.length_toList, List.drop_left]
  by_cases hbracket : m ∈ bracketMarks
  · obtain ⟨c, hc, hsingle⟩ := bracketMark_single hbracket
    rw [Token.bracket, if_pos (List.contains_iff_mem.2 hbracket), hsingle]
    exact brackets_cons hc
  · -- any other mark is one of those that the grammar reads
    have hplain := mark_plain m ((token_mark hm).resolve_left hbracket)
    rw [Token.bracket, if_neg (by rwa [List.contains_iff_mem])]
    refine bracketSieve.kept_mark hplain hcomment ?_
    intro r hr
    rw [hr]
    rfl

/-- Most tokens are as long as their longest lexeme. -/
theorem length_of_spells {k : Nat} (h : (decide (n ≠ 0) && decide (k = n)) = true) :
    n ≠ 0 ∧ k = n := by
  simpa using h

/-- Most tokens take nothing from the brackets of a text. -/
theorem spells_silent (hmark : ∀ m, t ≠ .mark m) (hattached : t.isAttached = false)
    (hquote : t ≠ .openingQuote) (h : t.spells n cs = true) :
    brackets cs = brackets (cs.drop n) := by
  cases t with
  | endOfText =>
    simp only [Token.spells, Bool.and_eq_true, decide_eq_true_eq] at h
    rw [h.1, List.drop_zero]
  | nul =>
    simp only [Token.spells] at h
    split at h
    · next hzero => rw [hzero, List.drop_zero]
    · next hne =>
      obtain rfl := of_decide_eq_true h
      exact brackets_char (by decide) hne
  | reserved w =>
    simp only [Token.spells, Bool.and_eq_true, decide_eq_true_eq] at h
    obtain ⟨rfl, -⟩ := h
    exact brackets_scanned scans_word cs
  | mark m => exact absurd rfl (hmark m)
  | openingQuote => exact absurd rfl hquote
  | content => cases hattached
  | escape => cases hattached
  | closingQuote => cases hattached
  | word =>
    obtain ⟨-, rfl⟩ : n ≠ 0 ∧ wordLength cs = n := length_of_spells h
    exact brackets_scanned scans_word cs
  | lineEnd =>
    obtain ⟨hne, rfl⟩ : n ≠ 0 ∧ charLength (· = '\n') cs = n := length_of_spells h
    exact brackets_char (by decide) hne
  | rawText =>
    obtain ⟨hne, rfl⟩ : n ≠ 0 ∧ rawTextLength cs = n := length_of_spells h
    exact brackets_literal (quoteLength_raw hne) hne
  | integer =>
    obtain ⟨-, rfl⟩ : n ≠ 0 ∧ integerLength cs = n := length_of_spells h
    exact brackets_scanned scans_integer cs
  | floating =>
    obtain ⟨-, rfl⟩ : n ≠ 0 ∧ floatLength cs = n := length_of_spells h
    exact brackets_scanned scans_float cs
  | imaginary =>
    obtain ⟨-, rfl⟩ : n ≠ 0 ∧ imaginaryLength cs = n := length_of_spells h
    exact brackets_scanned scans_imaginary cs
  | rune =>
    obtain ⟨hne, rfl⟩ : n ≠ 0 ∧ runeLength cs = n := length_of_spells h
    exact brackets_literal (quoteLength_rune hne) hne
  | comment =>
    obtain ⟨hne, rfl⟩ : n ≠ 0 ∧ commentLength cs = n := length_of_spells h
    exact (bracketSieve.kept_comment hne).symm

/-- **A token takes the bracket that it is** from the brackets of a text, outside string literals
and where no comment stands. -/
theorem spells_brackets (ht : t ∈ Token.all) (hcomment : t = .comment ∨ commentLength cs = 0)
    (hattached : t.isAttached = false) (hquote : t ≠ .openingQuote) (h : t.spells n cs = true) :
    brackets cs = t.bracket ++ brackets (cs.drop n) := by
  by_cases hmark : ∃ m, t = .mark m
  · obtain ⟨m, rfl⟩ := hmark
    obtain ⟨hne, hlength⟩ : n ≠ 0 ∧ Token.length (.mark m) cs = n := length_of_spells h
    by_cases hstart : m.toList.isPrefixOf cs = true
    · obtain rfl : m.length = n := (if_pos hstart).symm.trans hlength
      exact brackets_mark ht (List.isPrefixOf_iff_prefix.1 hstart) (hcomment.resolve_left nofun)
    · exact absurd ((if_neg hstart).symm.trans hlength).symm hne
  · have hmark' : ∀ m, t ≠ .mark m := fun m hm => hmark ⟨m, hm⟩
    rw [bracket_none hmark', List.nil_append]
    exact spells_silent hmark' hattached hquote h

/-! ## Parts of string literals -/

/-- A character that a string literal holds as it is, on one line. -/
def IsHeld (c : Char) : Prop := c ≠ '"' ∧ c ≠ '\\' ∧ c ≠ '\n'

/-- Whether the literal goes on behind some characters as it does from their start on. -/
def Continues (n : Nat) (cs : List Char) : Prop :=
  quotedTail 0 cs = (quotedTail 0 (cs.drop n)).map (n + ·)

theorem Continues.trans {m : Nat} (hn : Continues n cs) (hm : Continues m (cs.drop n)) :
    Continues (n + m) cs := by
  unfold Continues at *
  rw [hn, hm, map_add_map, List.drop_drop]

theorem continues_held (hu : ∀ c ∈ u, IsHeld c) (r : List Char) :
    Continues u.length (u ++ r) := by
  induction u with
  | nil => simp [Continues]
  | cons c u ih =>
    have hone : Continues 1 (c :: (u ++ r)) := by
      obtain ⟨hquote, hescape, hline⟩ := hu c (by simp)
      rw [Continues, quotedTail, if_neg hquote, if_neg hescape, if_neg hline]
      rfl
    rw [List.length_cons, Nat.add_comm]
    exact hone.trans (ih fun d hd => hu d (by simp [hd]))

theorem continues_take (hn : n ≤ cs.length) (h : ∀ c ∈ cs.take n, IsHeld c) : Continues n cs := by
  have hheld := continues_held h (cs.drop n)
  rwa [List.take_append_drop, List.length_take_of_le hn] at hheld

theorem continues_takeWhile {p : Char → Bool} (hp : ∀ c, p c = true → IsHeld c)
    (cs : List Char) : Continues (cs.takeWhile p).length cs := by
  have htake : ∀ c ∈ cs.takeWhile p, IsHeld c := fun c hc =>
    hp c (List.all_eq_true.1 List.all_takeWhile c hc)
  have hheld := continues_held htake (cs.dropWhile p)
  rwa [List.takeWhile_append_dropWhile] at hheld

theorem continues_digits (h : exactDigits n isHexDigit cs ≠ 0) : Continues n cs := by
  unfold exactDigits at h
  split at h
  · next hdigits =>
    simp only [Bool.and_eq_true, decide_eq_true_eq, List.length_take] at hdigits
    refine continues_take (by omega) fun c hc => hex_plain (List.all_eq_true.1 hdigits.2 c hc)
  · exact absurd rfl h

theorem continues_backslash (h : escapes (c :: r) = true) : Continues 2 ('\\' :: c :: r) := by
  rw [Continues, quotedTail, if_neg (by decide), if_pos rfl, if_pos h, quotedTail, map_add_map]
  rfl

/-- A string literal goes on behind an escape. -/
theorem continues_escape (h : escapeLength cs ≠ 0) : Continues (escapeLength cs) cs := by
  unfold escapeLength at h ⊢
  split at h
  · next c r =>
    by_cases hescapes : escapes (c :: r) = true
    · have htwo := continues_backslash hescapes
      simp only [if_pos hescapes]
      rw [escapes] at hescapes
      split
      · exact htwo.trans (continues_takeWhile (fun _ => hex_plain) r)
      · next hx =>
        rw [if_neg hx] at hescapes
        split
        · next hu =>
          rw [if_pos hu] at hescapes
          exact htwo.trans (continues_digits (of_decide_eq_true hescapes))
        · next hu =>
          rw [if_neg hu] at hescapes
          split
          · next hU =>
            rw [if_pos hU] at hescapes
            exact htwo.trans (continues_digits (of_decide_eq_true hescapes))
          · exact htwo
    · simp [hescapes] at h
  · exact absurd rfl h

/-- A string literal goes on behind a part of it that does not close it. -/
theorem continues_part (hattached : t.isAttached = true) (hclosing : t ≠ .closingQuote)
    (h : t.spells n cs = true) : Continues n cs := by
  cases t with
  | content =>
    obtain ⟨-, rfl⟩ : n ≠ 0 ∧ Token.length .content cs = n := length_of_spells h
    refine continues_takeWhile (fun c hc => ?_) cs
    simp only [Bool.and_eq_true, decide_eq_true_eq] at hc
    exact ⟨hc.1.1, hc.2, hc.1.2⟩
  | escape =>
    obtain ⟨hne, rfl⟩ : n ≠ 0 ∧ escapeLength cs = n := length_of_spells h
    exact continues_escape hne
  | closingQuote => exact absurd rfl hclosing
  | _ => cases hattached

theorem standsPart_false (h : standsPart (c :: r) = false) : c = '\\' ∨ c = '\n' := by
  have hnone : ∀ t ∈ [Token.content, .escape, .closingQuote], t.length (c :: r) = 0 := by
    intro t ht
    simpa using List.any_eq_false.1 h t ht
  have hquote : c ≠ '"' := by
    rintro rfl
    exact absurd (hnone .closingQuote (by simp)) (by simp [Token.length, charLength])
  refine Decidable.byContradiction fun hother => ?_
  rw [not_or] at hother
  exact absurd (hnone .content (by simp)) (by simp [Token.length, hquote, hother])

/-- How far white space goes that stands before a comment. -/
theorem blank_comment (hblank : (cs.take blank).all isSpace = true)
    (hcomment : commentLength (cs.drop blank) ≠ 0) : (cs.takeWhile isSpace).length = blank := by
  cases hrest : cs.drop blank with
  | nil => exact absurd (by rw [hrest]; rfl) hcomment
  | cons c r =>
    rw [hrest] at hcomment
    obtain rfl := comment_slash hcomment
    have hsplit := List.take_append_drop blank cs
    have hlen : blank ≤ cs.length := by
      have := congrArg List.length hrest
      rw [List.length_drop, List.length_cons] at this
      omega
    rw [← hsplit, hrest, List.takeWhile_append_of_pos (List.all_eq_true.1 hblank),
      List.takeWhile_cons_of_neg (by decide), List.append_nil, List.length_take_of_le hlen]

/-- Where no part of a string literal stands, it goes on behind a comment. -/
theorem continues_comment (hpart : standsPart cs = false)
    (hblank : (cs.take blank).all isSpace = true) (hcomment : commentLength (cs.drop blank) ≠ 0) :
    Continues (blank + commentLength (cs.drop blank)) cs := by
  cases cs with
  | nil => exact absurd (by simp [commentLength]) hcomment
  | cons c r =>
    have hhead := standsPart_false hpart
    cases blank with
    | zero =>
      obtain rfl := comment_slash hcomment
      simp at hhead
    | succ b =>
      rw [List.take_succ_cons, List.all_cons, Bool.and_eq_true] at hblank
      rw [List.drop_succ_cons] at hcomment ⊢
      -- the white space before the comment starts with the end of a line
      obtain rfl : c = '\n' := by
        refine hhead.resolve_left ?_
        rintro rfl
        cases hblank.1
      obtain ⟨m, hm⟩ := Nat.exists_eq_succ_of_ne_zero hcomment
      rw [Continues, quotedTail, if_neg (by decide), if_neg (by decide), if_pos rfl]
      simp only [blank_comment hblank.2 hcomment, hm]
      rw [quotedTail_drop, map_add_map, Nat.add_right_comm, List.drop_succ_cons,
        Nat.add_comm 1 (b + m.succ)]

/-! ## Leaves -/

theorem passedOver_silent (hc : isPassedOver c = true) :
    c ∉ quotes ++ openings ++ closings ++ ['/'] := by
  rw [isPassedOver, Bool.or_eq_true, decide_eq_true_eq] at hc
  rcases hc with hspace | rfl
  · exact space_silent hspace
  · decide

/-- There is no bracket in what is passed over before a token. -/
theorem brackets_blank (h : (cs.take blank).all isPassedOver = true) :
    brackets cs = brackets (cs.drop blank) := by
  have hkept := bracketSieve.kept_append (v := cs.drop blank) fun c hc =>
    passedOver_silent (List.all_eq_true.1 h c hc)
  rwa [List.take_append_drop] at hkept

/-- What is behind the rest of a string literal is behind it from any place on. -/
theorem bracketsBehind_part (h : Continues n cs) :
    bracketsBehind true cs = bracketsBehind true (cs.drop n) := by
  change (quotedTail 0 cs).map _ = (quotedTail 0 (cs.drop n)).map _
  rw [h, Option.map_map]
  exact congrArg (Option.map · _) (funext fun k => by simp only [Function.comp, List.drop_drop])

/-- A double quote opens a string literal, if it closes. -/
theorem brackets_opened {bs : List Char} (h : bracketsBehind true r = some bs) :
    brackets ('"' :: r) = bs := by
  obtain ⟨k, hk, rfl⟩ := Option.map_eq_some_iff.1 h
  have hlength : quotedLength ('"' :: r) = 1 + k := by simp [quotedLength, hk]
  have hquote : quoteLength ('"' :: r) = quotedLength ('"' :: r) := quoteLength_quoted (by omega)
  have hliteral := brackets_literal (hquote.trans hlength) (by omega)
  rwa [Nat.add_comm, List.drop_succ_cons] at hliteral

/-- Outside string literals a leaf takes the bracket that it is, or opens a string literal. -/
theorem fits_outside {l : Leaf} {bs : List Char} (ht : l.token ∈ Token.all)
    (h : l.fits false cs = true)
    (hrest : bracketsBehind (l.leavesQuoted false) (cs.drop (l.blank + l.length)) = some bs) :
    brackets cs = l.token.bracket ++ bs := by
  simp only [Leaf.fits, Bool.and_eq_true] at h
  obtain ⟨⟨hspells, -⟩, hstands⟩ := h
  split at hstands
  · cases hstands
  · next hattached =>
    simp only [if_neg Bool.false_ne_true, Bool.and_eq_true, Bool.or_eq_true,
      decide_eq_true_eq] at hstands
    obtain ⟨hcomment, hblank⟩ := hstands
    rw [brackets_blank hblank]
    rw [← List.drop_drop] at hrest
    generalize cs.drop l.blank = rest at *
    by_cases hquote : l.token = .openingQuote
    · -- the leaves behind the quote stand within the literal
      rw [hquote] at hspells ⊢
      obtain ⟨hne, hlength⟩ : l.length ≠ 0 ∧ charLength (· = '"') rest = l.length :=
        length_of_spells hspells
      obtain ⟨r, rfl⟩ := charLength_here (hlength ▸ hne)
      have hone : l.length = 1 := by simpa [charLength] using hlength.symm
      rw [Leaf.leavesQuoted, hquote, hone] at hrest
      exact brackets_opened hrest
    · have htoken := spells_brackets ht hcomment (by simpa using hattached) hquote hspells
      have hclosed : l.leavesQuoted false = false := by
        unfold Leaf.leavesQuoted
        split
        · next hopens => exact absurd hopens hquote
        · rfl
        · rfl
      rw [hclosed] at hrest
      rw [htoken, Option.some.inj hrest]

/-- Within a string literal a leaf takes nothing. -/
theorem fits_inside {l : Leaf} {bs : List Char} (h : l.fits true cs = true)
    (hrest : bracketsBehind (l.leavesQuoted true) (cs.drop (l.blank + l.length)) = some bs) :
    bracketsBehind true cs = some bs ∧ l.token.bracket = [] := by
  obtain ⟨token, extra, blank, length⟩ := l
  simp only [Leaf.fits, Bool.and_eq_true] at h
  obtain ⟨⟨hspells, -⟩, hstands⟩ := h
  split at hstands
  · next hattached =>
    obtain ⟨-, hblank⟩ := Bool.and_eq_true_iff.1 hstands
    obtain rfl := of_decide_eq_true hblank
    rw [Nat.zero_add] at hrest
    by_cases hclosing : token = .closingQuote
    · subst hclosing
      obtain ⟨hne, rfl⟩ : length ≠ 0 ∧ charLength (· = '"') cs = length :=
        length_of_spells hspells
      obtain ⟨r, rfl⟩ := charLength_here hne
      exact ⟨hrest, rfl⟩
    · have hpart := bracketsBehind_part (continues_part hattached hclosing hspells)
      cases token with
      | content => exact ⟨hpart.trans hrest, rfl⟩
      | escape => exact ⟨hpart.trans hrest, rfl⟩
      | closingQuote => exact absurd rfl hclosing
      | _ => cases hattached
  · -- a comment at the end of a line within the literal
    simp only [if_true, Bool.and_eq_true, Bool.not_eq_true', decide_eq_true_eq] at hstands
    obtain ⟨⟨rfl, hpart⟩, hblank⟩ := hstands
    obtain ⟨hne, rfl⟩ : length ≠ 0 ∧ commentLength (cs.drop blank) = length :=
      length_of_spells hspells
    exact ⟨(bracketsBehind_part (continues_comment hpart hblank hne)).trans hrest, rfl⟩

/-- **What one leaf takes** from the brackets of a text is the bracket that it is. -/
theorem fits_brackets {l : Leaf} {quoted : Bool} {bs : List Char} (ht : l.token ∈ Token.all)
    (h : l.fits quoted cs = true)
    (hrest : bracketsBehind (l.leavesQuoted quoted) (cs.drop (l.blank + l.length)) = some bs) :
    bracketsBehind quoted cs = some (l.token.bracket ++ bs) := by
  cases quoted with
  | false => exact congrArg some (fits_outside ht h hrest)
  | true =>
    obtain ⟨hbehind, hnone⟩ := fits_inside h hrest
    rw [hbehind, hnone, List.nil_append]

/-- A leaf that is extra is no bracket. -/
theorem followed_extra {ls : List Leaf} {quoted : Bool} (h : followed quoted ls cs = true) :
    ∀ l ∈ ls, l.extra = true → l.token.bracket = [] := by
  induction ls generalizing quoted cs with
  | nil => exact fun l hl => nomatch hl
  | cons l ls ih =>
    rw [followed, Bool.and_eq_true] at h
    intro l' hl' hextra
    rcases List.mem_cons.1 hl' with rfl | hrest
    · have hfits := h.1
      simp only [Leaf.fits, Bool.and_eq_true, Bool.or_eq_true, hextra, Bool.not_true,
        Bool.false_eq_true, false_or, decide_eq_true_eq] at hfits
      rcases hfits.1.2 with hcomment | hend
      · rw [hcomment]
        rfl
      · rw [hend]
        rfl
    · exact ih h.2 l' hrest hextra

/-- **The brackets of a text that is made of some leaves** are those of the leaves. -/
theorem followed_brackets {ls : List Leaf} {quoted : Bool} (hall : ∀ l ∈ ls, l.token ∈ Token.all)
    (h : followed quoted ls cs = true) : bracketsBehind quoted cs = some (leafBrackets ls) := by
  -- from leaf to leaf: whether a double quote is open goes along with the text
  induction ls generalizing quoted cs with
  | nil =>
    simp only [followed, Bool.and_eq_true, Bool.not_eq_true', List.isEmpty_iff] at h
    obtain ⟨rfl, rfl⟩ := h
    rfl
  | cons l ls ih =>
    rw [followed, Bool.and_eq_true] at h
    have hrest := ih (fun l' hl' => hall l' (by simp [hl'])) h.2
    exact fits_brackets (hall l (by simp)) h.1 hrest

end SdkGen.Go
