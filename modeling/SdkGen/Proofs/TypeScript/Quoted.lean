import Mathlib.Data.List.TakeWhile
import SdkGen.Template.Literal
import SdkGen.TypeScript.Path

/-!
# Quoted texts and comments

How a compiler of the generated files reads their comments and literals: a comment behind `//` ends
with its line, and a literal in single quotes ends at the next quote that is not escaped. The value
of a literal is made of 16-bit units.

* `secondLine`: the second line of a text.
* `escape?`, `readLiteral`: what an escape stands for, and the value of a literal with what stands
  behind it.
* `secondLine_iff`: a text that is put into the second line stays in it if no line ends in it.
* `readLiteral_escaped_iff`: an escaped text is read back if no line feed or carriage return is in
  it.
* `bodyFrom_takes`: the value of a literal is as long as its text only if nothing is escaped there.
* `readLiteral_plain_iff`: a text that is not escaped is read back if nothing in it needs an escape.
-/

namespace SdkGen.TypeScript

open Template (hexValue)

/-! ## Lines -/

/-- A character that ends a line: line feed, carriage return, line separator, paragraph
separator. -/
def isLineEnd (c : Char) : Bool := c ∈ ['\n', '\r', '\u2028', '\u2029']

/-- What stands behind the first line. A carriage return and a line feed are one line end. -/
def behindLine : List Char → List Char
  | [] => []
  | '\r' :: '\n' :: r => r
  | c :: r => if isLineEnd c then r else behindLine r

/-- The second line of a text, without its end. -/
def secondLine (cs : List Char) : List Char := (behindLine cs).takeWhile fun c => !isLineEnd c

/-! ## Literals -/

/-- The 16-bit units of a code point: one, or the two of a surrogate pair. -/
def unitsOf (code : Nat) : List Nat :=
  if code < 0x10000 then [code]
  else [0xD800 + (code - 0x10000) / 0x400, 0xDC00 + (code - 0x10000) % 0x400]

/-- The 16-bit units of a text. -/
def units (cs : List Char) : List Nat := cs.flatMap fun c => unitsOf c.toNat

/-- The number that hexadecimal digits spell; none where one of them is no digit. -/
def hexNumber? (ds : List Char) : Option Nat :=
  ds.foldlM (fun n d => (hexValue d).map (16 * n + ·)) 0

/-- A unit that is spelled by a fixed number of digits. -/
def unit? (count : Nat) (cs : List Char) : Option (List Nat × Nat) :=
  if count ≤ cs.length then (hexNumber? (cs.take count)).map fun n => ([n], count) else none

/-- A code point that is spelled by digits in braces; the opening one is passed already. -/
def codePoint? (cs : List Char) : Option (List Nat × Nat) :=
  let ds := cs.takeWhile (· ≠ '}')
  if ds ≠ [] ∧ ds.length < cs.length then
    ((hexNumber? ds).filter (· < 0x110000)).map fun n => (unitsOf n, ds.length + 1)
  else none

/-- The letters that stand for a control character behind a backslash. -/
def controls : List (Char × Nat) :=
  [('b', 8), ('t', 9), ('n', 10), ('v', 11), ('f', 12), ('r', 13)]

/-- What an escape stands for, given what stands behind the backslash, and how much of that it
takes. A line end stands for nothing, and a character without a meaning of its own for itself; digits
are refused but for a single zero. -/
def escape? : List Char → Option (List Nat × Nat)
  | [] => none
  | 'u' :: '{' :: r => (codePoint? r).map fun e => (e.1, e.2 + 2)
  | 'u' :: r => (unit? 4 r).map fun e => (e.1, e.2 + 1)
  | 'x' :: r => (unit? 2 r).map fun e => (e.1, e.2 + 1)
  | '\r' :: '\n' :: _ => some ([], 2)
  | c :: r =>
    if isLineEnd c then some ([], 1)
    else if c = '0' ∧ r.head?.all (fun d => !d.isDigit) then some ([0], 1)
    else if c.isDigit then none
    else some (match controls.lookup c with
      | some n => [n]
      | none => unitsOf c.toNat, 1)

/-- A character that leaves a literal open where it is not escaped. -/
def leavesOpen (c : Char) : Bool := c = '\n' || c = '\r'

/-- A character that cannot stand for itself in a literal: it would close it, start an escape or
leave it open. -/
def needsEscape (c : Char) : Bool := c = '\'' || c = '\\' || leavesOpen c

/-- The value of a literal up to its closing quote, and what stands behind that. The number counts
the characters of an escape that are still to be passed. A line feed or a carriage return leaves the
literal open. -/
def bodyFrom : Nat → List Char → Option (List Nat × List Char)
  | _, [] => none
  | k + 1, _ :: r => bodyFrom k r
  | 0, c :: r =>
    if c = '\'' then some ([], r)
    else if leavesOpen c then none
    else if c = '\\' then
      (escape? r).bind fun e => (bodyFrom e.2 r).map fun p => (e.1 ++ p.1, p.2)
    else (bodyFrom 0 r).map fun p => (unitsOf c.toNat ++ p.1, p.2)

/-- The value of the literal in single quotes at the start of a text, and what stands behind it. -/
def readLiteral : List Char → Option (List Nat × List Char)
  | '\'' :: r => bodyFrom 0 r
  | _ => none

variable {cs r front rest taken : List Char} {c : Char} {value : List Nat} {k n : Nat}

/-! ## Reading lines -/

theorem behindLine_append (hfront : ∀ c ∈ front, ¬ isLineEnd c) :
    behindLine (front ++ '\n' :: r) = r := by
  induction front with
  | nil => rfl
  | cons c front ih =>
    have hrest := ih fun d hd => hfront d (List.mem_cons_of_mem _ hd)
    have hc := hfront c (List.mem_cons_self ..)
    have hreturn : c ≠ '\r' := by
      rintro rfl
      exact hc rfl
    rw [List.cons_append]
    unfold behindLine
    split
    · next heq => cases heq
    · next heq => exact absurd (List.cons.inj heq).1 hreturn
    · next heq =>
      obtain ⟨rfl, rfl⟩ := List.cons.inj heq
      rw [if_neg hc]
      exact hrest

/-- **A text that is put behind the start of the second line stays in that line if and only if no
line ends in it.** -/
theorem secondLine_iff {start : List Char} (hfront : ∀ c ∈ front, ¬ isLineEnd c)
    (hstart : ∀ c ∈ start, ¬ isLineEnd c) :
    secondLine (front ++ '\n' :: (start ++ (cs ++ '\n' :: r))) = start ++ cs ↔
      ∀ c ∈ cs, ¬ isLineEnd c := by
  have hpass : ∀ cs : List Char, (∀ c ∈ cs, ¬ isLineEnd c) → ∀ c ∈ cs, (!isLineEnd c) = true := by
    intro cs h c hc
    rw [Bool.eq_false_iff.2 (h c hc)]
    rfl
  unfold secondLine
  rw [behindLine_append hfront, List.takeWhile_append_of_pos (hpass start hstart),
    List.append_cancel_left_eq]
  constructor
  · intro h c hc
    rw [← h] at hc
    simpa using List.mem_takeWhile_imp hc
  · intro h
    rw [List.takeWhile_append_of_pos (hpass cs h)]
    exact List.append_nil cs

/-! ## Reading escaped texts -/

theorem leavesOpen_iff : leavesOpen c = true ↔ c = '\n' ∨ c = '\r' := by simp [leavesOpen]

theorem needsEscape_iff : needsEscape c = true ↔ c = '\'' ∨ c = '\\' ∨ leavesOpen c = true := by
  simp [needsEscape, or_assoc]

theorem units_cons (c : Char) (cs : List Char) : units (c :: cs) = unitsOf c.toNat ++ units cs :=
  List.flatMap_cons

theorem units_append (cs ds : List Char) : units (cs ++ ds) = units cs ++ units ds :=
  List.flatMap_append

theorem bodyFrom_plain (h : ¬ needsEscape c) :
    bodyFrom 0 (c :: r) = (bodyFrom 0 r).map fun p => (unitsOf c.toNat ++ p.1, p.2) := by
  rw [needsEscape_iff, not_or, not_or] at h
  simp [bodyFrom, h]

theorem bodyFrom_escaped (h : c = '\\' ∨ c = '\'') : bodyFrom 0 ('\\' :: c :: r) =
    (bodyFrom 0 r).map fun p => (unitsOf c.toNat ++ p.1, p.2) := by
  rcases h with rfl | rfl <;> rfl

theorem bodyFrom_open (h : leavesOpen c) : bodyFrom 0 (c :: r) = none := by
  rcases leavesOpen_iff.1 h with rfl | rfl <;> rfl

/-- A character of an escaped text gives its units, or leaves the literal open. -/
theorem bodyFrom_escapeQuoted_cons (c : Char) (cs r : List Char) :
    bodyFrom 0 (escapeQuoted (c :: cs) ++ r) =
      if leavesOpen c then none
      else (bodyFrom 0 (escapeQuoted cs ++ r)).map fun p => (unitsOf c.toNat ++ p.1, p.2) := by
  rw [escapeQuoted.eq_2]
  by_cases hescaped : c = '\\' ∨ c = '\''
  · have hclosed : ¬ leavesOpen c := by rcases hescaped with rfl | rfl <;> decide
    rw [if_pos (by simpa using hescaped), List.cons_append, List.cons_append,
      bodyFrom_escaped hescaped, if_neg hclosed]
  · rw [if_neg (by simpa using hescaped), List.cons_append]
    by_cases hopen : leavesOpen c
    · rw [bodyFrom_open hopen, if_pos hopen]
    · have hplain : ¬ needsEscape c := by
        rw [needsEscape_iff]
        rintro (hquote | hbackslash | h)
        · exact hescaped (.inr hquote)
        · exact hescaped (.inl hbackslash)
        · exact hopen h
      rw [bodyFrom_plain hplain, if_neg hopen]

theorem bodyFrom_escapeQuoted (cs r : List Char) :
    bodyFrom 0 (escapeQuoted cs ++ '\'' :: r) =
      if cs.any leavesOpen then none else some (units cs, r) := by
  induction cs with
  | nil => rfl
  | cons c cs ih =>
    rw [bodyFrom_escapeQuoted_cons, ih, List.any_cons]
    cases leavesOpen c with
    | true => rfl
    | false => cases cs.any leavesOpen <;> rfl

/-- **The literal of a text is read back if and only if no line feed and no carriage return is in
the text.** -/
theorem readLiteral_escaped_iff (s : String) (r : List Char) :
    readLiteral ((stringLiteral s).toList ++ r) = some (units s.toList, r) ↔
      ∀ c ∈ s.toList, ¬ leavesOpen c := by
  have htext : (stringLiteral s).toList ++ r = '\'' :: (escapeQuoted s.toList ++ '\'' :: r) := by
    unfold stringLiteral
    simp
  rw [htext]
  change bodyFrom 0 _ = _ ↔ _
  rw [bodyFrom_escapeQuoted, ← List.any_eq_false]
  cases s.toList.any leavesOpen with
  | true => exact iff_of_false nofun nofun
  | false => exact iff_of_true rfl rfl

/-! ## Reading texts as they stand -/

theorem length_unitsOf (code : Nat) : 0 < (unitsOf code).length := by
  unfold unitsOf
  split
  · exact Nat.zero_lt_one
  · exact Nat.zero_lt_two

theorem unitsOf_le (code : Nat) : (unitsOf code).length ≤ 2 := by
  unfold unitsOf
  split
  · exact Nat.le_succ 1
  · exact Nat.le_refl 2

/-- A text has at least as many units as characters. -/
theorem length_le_units (cs : List Char) : cs.length ≤ (units cs).length := by
  induction cs with
  | nil => exact Nat.zero_le _
  | cons c cs ih =>
    have hc := length_unitsOf c.toNat
    rw [units_cons, List.length_append, List.length_cons]
    omega

theorem unit?_length {count : Nat} (h : unit? count cs = some (value, n)) :
    n = count ∧ count ≤ cs.length ∧ value.length = 1 := by
  unfold unit? at h
  split at h
  · next hle =>
    obtain ⟨m, -, heq⟩ := Option.map_eq_some_iff.1 h
    cases heq
    exact ⟨rfl, hle, rfl⟩
  · cases h

theorem codePoint?_length (h : codePoint? cs = some (value, n)) :
    n ≤ cs.length ∧ value.length ≤ 2 ∧ 2 ≤ n := by
  unfold codePoint? at h
  simp only at h
  split at h
  · next hds =>
    obtain ⟨m, -, heq⟩ := Option.map_eq_some_iff.1 h
    cases heq
    have hsome := List.length_pos_iff.2 hds.1
    exact ⟨by omega, unitsOf_le m, by omega⟩
  · cases h

/-- **An escape stands for no more units than its text behind the backslash has.** -/
theorem escape?_length (h : escape? cs = some (value, n)) :
    n ≤ cs.length ∧ value.length ≤ (units (cs.take n)).length := by
  have hlong : n ≤ cs.length → value.length ≤ n →
      n ≤ cs.length ∧ value.length ≤ (units (cs.take n)).length := by
    intro hn hvalue
    have hunits := length_le_units (cs.take n)
    rw [List.length_take, Nat.min_eq_left hn] at hunits
    exact ⟨hn, Nat.le_trans hvalue hunits⟩
  unfold escape? at h
  split at h
  · cases h
  · obtain ⟨e, he, heq⟩ := Option.map_eq_some_iff.1 h
    cases heq
    obtain ⟨hn, hvalue, htwo⟩ := codePoint?_length he
    refine hlong ?_ (by omega)
    simp only [List.length_cons]
    omega
  · obtain ⟨e, he, heq⟩ := Option.map_eq_some_iff.1 h
    cases heq
    obtain ⟨hcount, hn, hvalue⟩ := unit?_length he
    refine hlong ?_ (by omega)
    simp only [List.length_cons]
    omega
  · obtain ⟨e, he, heq⟩ := Option.map_eq_some_iff.1 h
    cases heq
    obtain ⟨hcount, hn, hvalue⟩ := unit?_length he
    refine hlong ?_ (by omega)
    simp only [List.length_cons]
    omega
  · cases h
    exact hlong (by simp) (by simp)
  · next c r _ _ _ _ =>
    split at h
    · cases h
      exact hlong (by simp) (by simp)
    · split at h
      · cases h
        exact hlong (by simp) (by simp)
      · split at h
        · cases h
        · cases h
          refine ⟨by simp, ?_⟩
          rw [List.take_succ_cons, List.take_zero, units_cons]
          cases controls.lookup c with
          | some m => simpa [units, Nat.succ_le_iff] using length_unitsOf c.toNat
          | none => simp [units]

/-- A literal starts with its closing quote, with an escape or with a character that stands for
itself. -/
theorem bodyFrom_cons (h : bodyFrom 0 (c :: r) = some (value, rest)) :
    (c = '\'' ∧ value = [] ∧ r = rest) ∨
      (∃ v n w, c = '\\' ∧ escape? r = some (v, n) ∧ bodyFrom n r = some (w, rest) ∧
        value = v ++ w) ∨
      ∃ w, ¬ needsEscape c ∧ bodyFrom 0 r = some (w, rest) ∧ value = unitsOf c.toNat ++ w := by
  unfold bodyFrom at h
  by_cases hquote : c = '\''
  · rw [if_pos hquote] at h
    cases h
    exact .inl ⟨hquote, rfl, rfl⟩
  by_cases hopen : leavesOpen c = true
  · rw [if_neg hquote, if_pos hopen] at h
    cases h
  by_cases hbackslash : c = '\\'
  · rw [if_neg hquote, if_neg hopen, if_pos hbackslash] at h
    obtain ⟨⟨v, n⟩, hescape, h⟩ := Option.bind_eq_some_iff.1 h
    obtain ⟨⟨w, tail⟩, hbody, heq⟩ := Option.map_eq_some_iff.1 h
    cases heq
    exact .inr (.inl ⟨v, n, w, hbackslash, hescape, hbody, rfl⟩)
  · rw [if_neg hquote, if_neg hopen, if_neg hbackslash] at h
    obtain ⟨⟨w, tail⟩, hbody, heq⟩ := Option.map_eq_some_iff.1 h
    cases heq
    refine .inr (.inr ⟨w, ?_, hbody, rfl⟩)
    rw [needsEscape_iff]
    rintro (h | h | h)
    · exact hquote h
    · exact hbackslash h
    · exact hopen h

/-- A part of a text was taken for the rest of a literal, its first characters being passed
already. -/
structure Takes (k : Nat) (cs : List Char) (value : List Nat) (rest taken : List Char) : Prop where
  text : cs = taken ++ '\'' :: rest
  passed : k ≤ taken.length
  value_le : value.length ≤ (units (taken.drop k)).length
  /-- A value that is as long as the text has no escape in it. -/
  plain : value.length = (units (taken.drop k)).length → ∀ c ∈ taken.drop k, ¬ needsEscape c

theorem takes_escape {v w : List Nat} (hescape : escape? r = some (v, n))
    (h : Takes n r w rest taken) : Takes 0 ('\\' :: r) (v ++ w) rest ('\\' :: taken) := by
  obtain ⟨-, hvalue⟩ := escape?_length hescape
  have htake : r.take n = taken.take n := by
    rw [h.text, List.take_append_of_le_length h.passed]
  -- the backslash itself stands for nothing
  have hunits : (units ('\\' :: taken)).length =
      1 + (units (taken.take n)).length + (units (taken.drop n)).length := by
    have hparts : units taken = units (taken.take n) ++ units (taken.drop n) := by
      rw [← units_append, List.take_append_drop]
    have hbackslash : (unitsOf '\\'.toNat).length = 1 := rfl
    rw [units_cons, List.length_append, hparts, List.length_append, hbackslash, Nat.add_assoc]
  have hle := h.value_le
  rw [htake] at hvalue
  refine ⟨by rw [h.text]; rfl, Nat.zero_le _, ?_, ?_⟩
  · rw [List.drop_zero, hunits, List.length_append]
    omega
  · rw [List.drop_zero, hunits, List.length_append]
    omega

theorem takes_plain {w : List Nat} (hc : ¬ needsEscape c) (h : Takes 0 r w rest taken) :
    Takes 0 (c :: r) (unitsOf c.toNat ++ w) rest (c :: taken) := by
  have hle := h.value_le
  rw [List.drop_zero] at hle
  refine ⟨by rw [h.text]; rfl, Nat.zero_le _, ?_, ?_⟩
  · rw [List.drop_zero, units_cons, List.length_append, List.length_append]
    omega
  · rw [List.drop_zero, units_cons, List.length_append, List.length_append, List.forall_mem_cons]
    intro hequal
    exact ⟨hc, h.plain (by rw [List.drop_zero]; omega)⟩

/-- What is taken for a literal ends at its closing quote. -/
theorem bodyFrom_takes (h : bodyFrom k cs = some (value, rest)) :
    ∃ taken, Takes k cs value rest taken := by
  induction cs generalizing k value with
  | nil => simp [bodyFrom] at h
  | cons c r ih =>
    cases k with
    | succ k =>
      obtain ⟨taken, htaken⟩ := ih h
      exact ⟨c :: taken, by rw [htaken.text]; rfl, Nat.succ_le_succ htaken.passed,
        htaken.value_le, htaken.plain⟩
    | zero =>
      obtain ⟨rfl, rfl, rfl⟩ | ⟨v, n, w, rfl, hescape, hbody, rfl⟩ | ⟨w, hc, hbody, rfl⟩ :=
        bodyFrom_cons h
      · exact ⟨[], rfl, Nat.le_refl _, Nat.le_refl _, by simp⟩
      · obtain ⟨taken, htaken⟩ := ih hbody
        exact ⟨_, takes_escape hescape htaken⟩
      · obtain ⟨taken, htaken⟩ := ih hbody
        exact ⟨_, takes_plain hc htaken⟩

theorem bodyFrom_plain_append (h : ∀ c ∈ cs, ¬ needsEscape c) :
    bodyFrom 0 (cs ++ '\'' :: r) = some (units cs, r) := by
  induction cs with
  | nil => rfl
  | cons c cs ih =>
    rw [List.forall_mem_cons] at h
    rw [List.cons_append, bodyFrom_plain h.1, ih h.2]
    rfl

/-- **A text that is put between quotes as it stands is read back if and only if nothing in it needs
an escape.** -/
theorem readLiteral_plain_iff (cs r : List Char) :
    readLiteral ('\'' :: (cs ++ '\'' :: r)) = some (units cs, r) ↔ ∀ c ∈ cs, ¬ needsEscape c := by
  constructor
  · intro h
    obtain ⟨taken, htaken⟩ := bodyFrom_takes (k := 0) h
    have hplain := htaken.plain
    rw [List.drop_zero, ← List.append_cancel_right htaken.text] at hplain
    exact hplain rfl
  · intro h
    exact bodyFrom_plain_append h

end SdkGen.TypeScript
