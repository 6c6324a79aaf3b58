import SdkGen.Proofs.Go.Lexeme
import SdkGen.Text.Lowercase

/-!
# Lowercase forms

What becomes of the first character of a word.

* `shift_cases`: beyond ASCII a character keeps its place, or a run of the table moves it.
* `ofChar_ascii`: which characters have an ASCII letter as their lowercase form.
* `wordStart_ofChar`: among the characters of words, those that start words are kept apart.
-/

namespace SdkGen.Lowercase

open Go (isWordStart)
open Identifier

variable {c b : Char} {n : Nat}

/-! ## Runs -/

/-- The run moves the code point. -/
def Run.Moves (r : Run) (n : Nat) : Prop :=
  r ∈ runs ∧ r.first ≤ n ∧ n ≤ r.last ∧ (n - r.first) % r.step = 0

theorem shift_cases (n : Nat) : shift n = 0 ∨ ∃ r : Run, r.Moves n ∧ shift n = r.shift := by
  unfold shift
  cases hfind : runs.find? fun r =>
      decide (r.first ≤ n) && decide (n ≤ r.last) && (n - r.first) % r.step == 0 with
  | none => exact .inl rfl
  | some r =>
    have hmoves := List.find?_some hfind
    simp only [Bool.and_eq_true, decide_eq_true_eq, beq_iff_eq] at hmoves
    exact .inr ⟨r, ⟨List.mem_of_find?_eq_some hfind, hmoves.1.1, hmoves.1.2, hmoves.2⟩, rfl⟩

/-- Only the sign of the kelvin has its lowercase form within ASCII. -/
def Run.isKelvin (r : Run) : Bool := r.first = 0x212A && r.last = 0x212A && r.shift = -8383

/-- The lowercase code points of the run lie beyond ASCII, and none is a surrogate. -/
def Run.isFar (r : Run) : Bool :=
  decide (128 ≤ r.first + r.shift) && (decide (r.last + r.shift < 0xD800) ||
    (decide (0xDFFF < r.first + r.shift) && decide (r.last + r.shift < 0x110000)))

theorem isFar_runs : (runs.all fun r => r.isKelvin || r.isFar) = true := by decide

/-! ## Starts of words -/

/-- Whether each span lies within a range; the spans stand in the order of these ranges. -/
def covers : Ranges → Ranges → Bool
  | [], spans => spans.isEmpty
  | g :: gs, spans => covers gs (spans.dropWhile fun s => decide (g.1 ≤ s.1) && decide (s.2 ≤ g.2))

theorem covers_sound {ranges spans : Ranges} (h : covers ranges spans = true) :
    ∀ s ∈ spans, ∃ g ∈ ranges, g.1 ≤ s.1 ∧ s.2 ≤ g.2 := by
  induction ranges generalizing spans with
  | nil =>
    intro s hs
    rw [covers, List.isEmpty_iff] at h
    rw [h] at hs
    cases hs
  | cons g gs ih =>
    intro s hs
    rw [← List.takeWhile_append_dropWhile (p := fun s : Nat × Nat =>
      decide (g.1 ≤ s.1) && decide (s.2 ≤ g.2)) (l := spans)] at hs
    rcases List.mem_append.1 hs with hs | hs
    · have hwithin := List.all_eq_true.1 (List.all_takeWhile ..) s hs
      simp only [Bool.and_eq_true, decide_eq_true_eq] at hwithin
      exact ⟨g, List.mem_cons_self .., hwithin⟩
    · obtain ⟨g', hg', hwithin⟩ := ih h s hs
      exact ⟨g', List.mem_cons_of_mem _ hg', hwithin⟩

/-- The code points that the run is about. -/
def Run.span (r : Run) : Nat × Nat := (r.first, r.last)

/-- Their lowercase code points. -/
def Run.target (r : Run) : Nat × Nat := ((r.first + r.shift).toNat, (r.last + r.shift).toNat)

/-- The first code points of the runs that do not lead from one range of starts to another. -/
def oddRuns : List Nat := [0x1C89, 0x1F59, 0x212A, 0x24B6, 0xA7CB, 0xA7CC, 0xA7D6, 0xA7DC, 0x10D50]

def plainRuns : List Run := runs.filter fun r => !oddRuns.contains r.first

/-- Ranges of starts that runs lead to from elsewhere. -/
def lowerRanges : Ranges :=
  [(0xD8, 0xF6), (0xF8, 0x2C1), (0x37B, 0x37D), (0x3A3, 0x3F5), (0x560, 0x588), (0x10D0, 0x10FA),
    (0x10FC, 0x1248), (0x13F8, 0x13FD), (0x1D00, 0x1DBF), (0x1E00, 0x1F15), (0x1F20, 0x1F45),
    (0x1F50, 0x1F57), (0x1F5F, 0x1F7D), (0x1F80, 0x1FB4), (0x1FC2, 0x1FC4), (0x1FD0, 0x1FD3),
    (0x1FF2, 0x1FF4), (0x214E, 0x214E), (0x2C00, 0x2CE4), (0x2D00, 0x2D25), (0x2D27, 0x2D27),
    (0x2D2D, 0x2D2D), (0xAB30, 0xAB5A), (0xAB70, 0xABE2), (0xFF41, 0xFF5A), (0x104D8, 0x104FB),
    (0x10597, 0x105A1), (0x105A3, 0x105B1), (0x105B3, 0x105B9), (0x105BB, 0x105BC),
    (0x10CC0, 0x10CF2)]

def Run.isLower (r : Run) : Bool :=
  lowerRanges.any fun g => decide (g.1 ≤ r.target.1) && decide (r.target.2 ≤ g.2)

set_option maxRecDepth 1000 in
theorem lowerRanges_sublist : lowerRanges.isSublist startRanges = true := by decide

set_option maxRecDepth 3000 in
theorem covers_span : covers startRanges (plainRuns.map Run.span) = true := by decide

set_option maxRecDepth 3000 in
theorem covers_target :
    covers startRanges ((plainRuns.filter fun r => !r.isLower).map Run.target) = true := by
  decide

/-- Whether the run leads starts of words, and no other characters of words, to starts of words: it
is about no characters of words at all, or this can be seen one by one. -/
def Run.keepsStarts (r : Run) : Bool :=
  (continueRanges.all fun g => decide (g.2 < r.first) || decide (r.last < g.1)) ||
  (List.range (r.last + 1 - r.first)).all fun i =>
    i % r.step != 0 || !continueRanges.holds (r.first + i) ||
      startRanges.holds (r.first + i) == startRanges.holds (r.first + i + r.shift).toNat

set_option maxRecDepth 3000 in
theorem keepsStarts_odd :
    (runs.all fun r => !oddRuns.contains r.first || r.isKelvin || r.keepsStarts) = true := by
  decide

theorem holds_of_mem {ranges : Ranges} {g : Nat × Nat} (hg : g ∈ ranges) (hlow : g.1 ≤ n)
    (hhigh : n ≤ g.2) : ranges.holds n = true := by
  unfold Ranges.holds
  refine List.any_eq_true.2 ⟨g, hg, ?_⟩
  simp only [Bool.and_eq_true, decide_eq_true_eq]
  exact ⟨hlow, hhigh⟩

/-- **Beyond ASCII, lowercase leads starts of words, and no other characters of words, to starts of
words**; but for the sign of the kelvin, whose lowercase form lies within ASCII. -/
theorem holds_moved {r : Run} (hr : r.Moves n) (hword : continueRanges.holds n = true)
    (hkelvin : r.isKelvin = false) :
    startRanges.holds n = startRanges.holds (n + r.shift).toNat := by
  obtain ⟨hmem, hfirst, hlast, hstep⟩ := hr
  by_cases hodd : oddRuns.contains r.first = true
  · -- checked code point by code point, unless no character of a word is among them
    have hkeeps := List.all_eq_true.1 keepsStarts_odd r hmem
    rw [hodd, hkelvin, Bool.not_true, Bool.false_or, Bool.false_or] at hkeeps
    unfold Run.keepsStarts at hkeeps
    rcases Bool.or_eq_true_iff.1 hkeeps with hmiss | heach
    · obtain ⟨g, hg, hwithin⟩ := List.any_eq_true.1 hword
      have hnot := List.all_eq_true.1 hmiss g hg
      simp only [Bool.and_eq_true, Bool.or_eq_true, decide_eq_true_eq] at hwithin hnot
      omega
    · have hn := List.all_eq_true.1 heach (n - r.first) (List.mem_range.2 (by omega))
      have hback : r.first + (n - r.first) = n := by omega
      have hback' : (r.first : Int) + ((n - r.first : Nat) : Int) = n := by omega
      simpa [hstep, hback, hback', hword] using hn
  · -- the run lies within one range of starts, and leads into one
    have hplain : r ∈ plainRuns := List.mem_filter.2 ⟨hmem, by simpa using hodd⟩
    obtain ⟨g, hg, hspan⟩ := covers_sound covers_span r.span (List.mem_map_of_mem hplain)
    have htarget : ∃ g ∈ startRanges, g.1 ≤ r.target.1 ∧ r.target.2 ≤ g.2 := by
      by_cases hlower : r.isLower = true
      · obtain ⟨g, hg, hwithin⟩ := List.any_eq_true.1 hlower
        simp only [Bool.and_eq_true, decide_eq_true_eq] at hwithin
        exact ⟨g, (List.isSublist_iff_sublist.1 lowerRanges_sublist).subset hg, hwithin⟩
      · exact covers_sound covers_target r.target (List.mem_map_of_mem
          (List.mem_filter.2 ⟨hplain, by simpa using hlower⟩))
    obtain ⟨g', hg', htarget⟩ := htarget
    have hspan' : g.1 ≤ r.first ∧ r.last ≤ g.2 := hspan
    have htarget' : g'.1 ≤ (r.first + r.shift).toNat ∧ (r.last + r.shift).toNat ≤ g'.2 := htarget
    rw [holds_of_mem hg (by omega) (by omega), holds_of_mem hg' (by omega) (by omega)]

/-! ## Characters -/

theorem toNat_ofNat (h : n < 0xD800 ∨ 0xDFFF < n ∧ n < 0x110000) : (Char.ofNat n).toNat = n := by
  have hvalid : n.isValidChar := h
  unfold Char.ofNat
  rw [dif_pos hvalid]
  rfl

/-- Beyond ASCII the lowercase form of a character is one character, but for one of them. -/
theorem ofChar_far (hfar : 128 ≤ c.toNat) (hdotted : c ≠ '\u0130') :
    ∃ b, ofChar c = [b] ∧ (b = c ∨ (c.toNat = 0x212A ∧ b = 'k') ∨
      ∃ r : Run, r.Moves c.toNat ∧ r.isKelvin = false ∧ 128 ≤ b.toNat ∧
        b.toNat = (c.toNat + r.shift).toNat) := by
  refine ⟨Char.ofNat (c.toNat + shift c.toNat).toNat, ?_, ?_⟩
  · unfold ofChar
    rw [if_neg (by omega), if_neg hdotted]
  rcases shift_cases c.toNat with hzero | ⟨r, hr, hshift⟩
  · left
    rw [hzero, Int.add_zero, Int.toNat_natCast, Char.ofNat_toNat]
  right
  rw [hshift]
  obtain ⟨hmem, hfirst, hlast, -⟩ := id hr
  have hrun := List.all_eq_true.1 isFar_runs r hmem
  by_cases hkelvin : r.isKelvin = true
  · left
    unfold Run.isKelvin at hkelvin
    simp only [Bool.and_eq_true, decide_eq_true_eq] at hkelvin
    have hc : c.toNat = 0x212A := by omega
    rw [hc, hkelvin.2]
    exact ⟨rfl, by decide⟩
  · right
    rw [Bool.not_eq_true] at hkelvin
    rw [hkelvin, Bool.false_or] at hrun
    unfold Run.isFar at hrun
    simp only [Bool.and_eq_true, Bool.or_eq_true, decide_eq_true_eq] at hrun
    have htoNat := toNat_ofNat (n := (c.toNat + r.shift).toNat) (by omega)
    exact ⟨r, hr, hkelvin, by omega, htoNat⟩

/-- Only one character has more than one character as its lowercase form. -/
theorem ofChar_single (hdotted : c ≠ '\u0130') : ∃ b, ofChar c = [b] := by
  by_cases hc : c.toNat < 128
  · unfold ofChar
    rw [if_pos hc]
    exact ⟨_, rfl⟩
  · obtain ⟨b, hform, -⟩ := ofChar_far (by omega) hdotted
    exact ⟨b, hform⟩

theorem ofChar_ne_nil (c : Char) : ofChar c ≠ [] := by
  by_cases hdotted : c = '\u0130'
  · subst hdotted
    decide
  · obtain ⟨b, hform⟩ := ofChar_single hdotted
    rw [hform]
    exact List.cons_ne_nil _ _

/-- A fact about ASCII is checked character by character. -/
theorem of_ascii {P : Char → Prop} (h : ∀ n < 128, P (Char.ofNat n)) (hc : c.toNat < 128) :
    P c := by
  have hchar := h c.toNat hc
  rwa [Char.ofNat_toNat] at hchar

/-- **Only ASCII letters have an ASCII letter as their lowercase form,** but for two signs. -/
theorem ofChar_ascii {s : List Char} (h : ofChar c = b :: s) (hb : b.toNat < 128) (hk : b ≠ 'k')
    (hi : b ≠ 'i') : s = [] ∧ (c = b ∨ c = b.toUpper) := by
  by_cases hc : c.toNat < 128
  · have hcase : c = c.toLower ∨ c = c.toLower.toUpper :=
      of_ascii (P := fun c => c = c.toLower ∨ c = c.toLower.toUpper) (by decide) hc
    unfold ofChar at h
    rw [if_pos hc] at h
    obtain ⟨rfl, rfl⟩ := List.cons.inj h
    exact ⟨rfl, hcase⟩
  by_cases hdotted : c = '\u0130'
  · subst hdotted
    exact absurd (List.cons.inj h).1.symm hi
  obtain ⟨b', hform, hkept | ⟨-, hkelvin⟩ | ⟨r, -, -, hfar, -⟩⟩ := ofChar_far (by omega) hdotted
  all_goals
    rw [hform] at h
    obtain ⟨rfl, rfl⟩ := List.cons.inj h
  · exact absurd hb (hkept ▸ hc)
  · exact absurd hkelvin hk
  · omega

set_option maxRecDepth 1000 in
theorem wordStart_kelvin : isWordStart '\u212A' = true := by decide

/-- **A character of a word starts words if and only if its lowercase form does**, and what else
belongs to that form may stand in a word. -/
theorem wordStart_ofChar (hword : isContinue c = true) : ∃ b s, ofChar c = b :: s ∧
    isWordStart b = isWordStart c ∧ ∀ d ∈ s, isContinue d = true := by
  by_cases hc : c.toNat < 128
  · have hlower : isWordStart c.toLower = isWordStart c :=
      of_ascii (P := fun c => isWordStart c.toLower = isWordStart c) (by decide) hc
    refine ⟨c.toLower, [], ?_, hlower, fun d hd => absurd hd List.not_mem_nil⟩
    unfold ofChar
    rw [if_pos hc]
  by_cases hdotted : c = '\u0130'
  · subst hdotted
    refine ⟨'i', ['\u0307'], rfl, by decide, ?_⟩
    intro d hd
    rw [List.mem_singleton.1 hd]
    decide
  obtain ⟨b, hform, hb⟩ := ofChar_far (by omega) hdotted
  refine ⟨b, [], hform, ?_, fun d hd => absurd hd List.not_mem_nil⟩
  rcases hb with rfl | ⟨hkelvin, rfl⟩ | ⟨r, hr, hkelvin, hfar, htarget⟩
  · rfl
  · have hc' : c = '\u212A' := by
      rw [← Char.ofNat_toNat c, hkelvin]
    rw [hc']
    exact wordStart_kelvin.symm
  · have hcontinue : continueRanges.holds c.toNat = true := by
      unfold isContinue at hword
      rwa [if_neg (by omega)] at hword
    have hholds := holds_moved hr hcontinue hkelvin
    have hfarStart : ∀ d : Char, 128 ≤ d.toNat → isWordStart d = startRanges.holds d.toNat := by
      intro d hd
      have hne : d ≠ '_' := by
        rintro rfl
        revert hd
        decide
      unfold isWordStart isStart
      rw [if_neg (by omega), decide_eq_false hne, Bool.false_or]
    rw [hfarStart b hfar, hfarStart c (by omega), hholds, htarget]

end SdkGen.Lowercase
