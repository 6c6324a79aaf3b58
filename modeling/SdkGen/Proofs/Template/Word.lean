import SdkGen.Template.Tag

/-!
# Tags of plain words

A plain word is a run of small letters and underscores that no reader takes for anything else.

* `readName_letters`, `readPath_letters`, `readParam_word`: a plain word is read up to its end.
* `readTag_word`: the tag of a word writes the value of that name.
* `readTag_opening`, `readTag_closing`: the tags around a block with one parameter.
-/

namespace SdkGen.Template

/-- A letter of a plain word. -/
def isWordLetter (c : Char) : Bool := ('a' ≤ c && c ≤ 'z') || c = '_'

/-- The words with a meaning of their own. -/
def ownWords : List (List Char) :=
  [['a', 's'], ['n', 'u', 'l', 'l'], ['t', 'r', 'u', 'e'], ['f', 'a', 'l', 's', 'e'],
    ['t', 'h', 'i', 's']]

/-- A run of letters that is read as a name. What goes on from `else` is read as an `else`. -/
structure IsPlainWord (w : List Char) : Prop where
  ne_nil : w ≠ []
  letters : ∀ c ∈ w, isWordLetter c = true
  not_own : w ∉ ownWords
  not_else : ¬ ['e', 'l', 's', 'e'] <+: w

instance (w : List Char) : Decidable (IsPlainWord w) :=
  decidable_of_iff (w ≠ [] ∧ w.all isWordLetter = true ∧ w ∉ ownWords ∧
      ¬ ['e', 'l', 's', 'e'] <+: w)
    ⟨fun ⟨a, b, c, d⟩ => ⟨a, List.all_eq_true.1 b, c, d⟩,
      fun ⟨a, b, c, d⟩ => ⟨a, List.all_eq_true.2 b, c, d⟩⟩

theorem isSymbol_of_letter {c : Char} (h : isWordLetter c = true) : isSymbol c = true := by
  unfold isWordLetter at h
  delta isSymbol Char.isAlphanum Char.isAlpha Char.isLower
  simp only [Bool.or_eq_true, Bool.and_eq_true, decide_eq_true_eq] at h ⊢
  rcases h with h | h
  · exact .inl (.inl (.inl (.inl (.inl (.inr h)))))
  · exact .inl (.inl (.inl (.inr h)))

theorem letter_ne {c d : Char} (h : isWordLetter c = true) (hd : isWordLetter d = false) :
    c ≠ d := by
  rintro rfl
  simp [h] at hd

theorem not_digit_of_letter {c : Char} (h : isWordLetter c = true) : c.isDigit = false := by
  simp only [isWordLetter, Bool.or_eq_true, Bool.and_eq_true, decide_eq_true_eq] at h
  change (97 ≤ c.toNat ∧ c.toNat ≤ 122) ∨ c = '_' at h
  rcases h with h | rfl
  · rw [← Bool.not_eq_true, Char.isDigit, Bool.and_eq_true, decide_eq_true_eq, decide_eq_true_eq]
    change ¬(48 ≤ c.toNat ∧ c.toNat ≤ 57)
    omega
  · decide

theorem not_tagBlank_of_letter {c : Char} (h : isWordLetter c = true) : isTagBlank c = false := by
  have h1 := letter_ne h (d := ' ') (by decide)
  have h2 := letter_ne h (d := '\t') (by decide)
  have h3 := letter_ne h (d := '\n') (by decide)
  have h4 := letter_ne h (d := '\r') (by decide)
  simp [isTagBlank, h1, h2, h3, h4]

variable {w r : List Char} {s : Char}

/-! ## Names -/

theorem takeWhile_letters {p : Char → Bool} (hw : ∀ c ∈ w, p c = true) (hs : p s = false) :
    (w ++ s :: r).takeWhile p = w := by
  induction w with
  | nil => simp [hs]
  | cons c w ih =>
    rw [List.cons_append, List.takeWhile_cons, if_pos (hw c (by simp)),
      ih fun d hd => hw d (by simp [hd])]

/-- A run of letters that something else ends is read as a name. -/
theorem readName_letters (hne : w ≠ []) (hw : ∀ c ∈ w, isWordLetter c = true)
    (hs : isSymbol s = false) : readName (w ++ s :: r) = some (String.ofList w, s :: r) := by
  unfold readName
  rw [takeWhile_letters (fun c hc => isSymbol_of_letter (hw c hc)) hs]
  simp [hne, List.isEmpty_iff]

theorem skip_letters (hne : w ≠ []) (hw : ∀ c ∈ w, isWordLetter c = true) :
    skip (w ++ r) = w ++ r := by
  obtain ⟨c, w, rfl⟩ := List.exists_cons_of_ne_nil hne
  simp [skip, not_tagBlank_of_letter (hw c (by simp))]

/-- Given characters stand at the start of a word only if the word goes on from them. -/
theorem literally_letters (kw : List Char) (hs : s ∉ kw) :
    literally kw (w ++ s :: r) = none ∨
      ∃ v, w = kw ++ v ∧ literally kw (w ++ s :: r) = some (v ++ s :: r) := by
  induction kw generalizing w with
  | nil => exact .inr ⟨w, rfl, rfl⟩
  | cons k kw ih =>
    cases w with
    | nil =>
      refine .inl ?_
      have : k ≠ s := fun h => hs (by simp [h])
      simp [literally, this]
    | cons c w =>
      by_cases hk : k = c
      · subst hk
        rcases ih (w := w) fun h => hs (by simp [h]) with h | ⟨v, rfl, h⟩
        · exact .inl (by simpa [literally] using h)
        · exact .inr ⟨v, rfl, by simpa [literally] using h⟩
      · exact .inl (by simp [literally, hk])

/-- No given word ends inside a longer one. -/
theorem not_endsName_letters {v : List Char} (hne : v ≠ [])
    (hv : ∀ c ∈ v, isWordLetter c = true) : endsName (v ++ s :: r) = false := by
  obtain ⟨c, v, rfl⟩ := List.exists_cons_of_ne_nil hne
  simp [endsName, isSymbol_of_letter (hv c (by simp))]

theorem readWord_letters {word : String} {v : Json.Value} (hne : w ≠ word.toList)
    (hw : ∀ c ∈ w, isWordLetter c = true) (hs : s ∉ word.toList) :
    readWord word v (w ++ s :: r) = none := by
  unfold readWord
  rcases literally_letters (w := w) (r := r) word.toList hs with h | ⟨u, rfl, h⟩
  · rw [h]
  · rw [h]
    have hu : u ≠ [] := fun hu => hne (by simp [hu])
    have := not_endsName_letters (s := s) (r := r) hu fun c hc => hw c (by simp [hc])
    simp [this]

/-! ## Paths -/

/-- What may follow a word in a tag. -/
def endsWord (s : Char) : Bool := s = ' ' || s = '}' || s = '~'

theorem not_isSymbol_of_endsWord (hs : endsWord s = true) : isSymbol s = false := by
  simp only [endsWord, Bool.or_eq_true, decide_eq_true_eq] at hs
  rcases hs with (rfl | rfl) | rfl <;> decide

theorem endsWord_not_mem (hs : endsWord s = true) (kw : List Char)
    (hkw : (kw.all fun c => !endsWord c) = true) : s ∉ kw := by
  intro hmem
  have hnot := List.all_eq_true.1 hkw s hmem
  rw [hs] at hnot
  cases hnot

theorem separator_none (hs : endsWord s = true) : separator? (s :: r) = none := by
  simp only [endsWord, Bool.or_eq_true, decide_eq_true_eq] at hs
  rcases hs with (rfl | rfl) | rfl <;> rfl

theorem separator_none_letter (h : isWordLetter s = true) : separator? (s :: r) = none := by
  have h1 := letter_ne h (d := '.') (by decide)
  have h2 := letter_ne h (d := '/') (by decide)
  simp [separator?, h1, h2]

theorem readSteps_end (n : Nat) (hs : endsWord s = true) : readSteps n (s :: r) = ([], s :: r) := by
  cases n with
  | zero => rfl
  | succ n => rw [readSteps, separator_none hs]; rfl

/-- No step goes up from a text that starts with a letter. -/
theorem readUps_none {cs : List Char} (n : Nat) (h : literally ['.', '.'] cs = none) :
    readUps n cs = (0, cs) := by
  cases n with
  | zero => rfl
  | succ n => rw [readUps, h]; rfl

variable (hne : w ≠ []) (hw : ∀ c ∈ w, isWordLetter c = true) (hs : endsWord s = true)

include hne hw in
theorem literally_none {p : Char} {ps : List Char} (hp : isWordLetter p = false) :
    literally (p :: ps) (w ++ r) = none := by
  obtain ⟨c, w, rfl⟩ := List.exists_cons_of_ne_nil hne
  have : p ≠ c := (letter_ne (hw c (by simp)) hp).symm
  simp [literally, this]

theorem flag_cons_of_ne {c p : Char} (h : c ≠ p) (r : List Char) :
    flag p (c :: r) = (false, c :: r) := if_neg h

include hne hw in
theorem flag_letters {p : Char} (hp : isWordLetter p = false) :
    flag p (w ++ r) = (false, w ++ r) := by
  obtain ⟨c, w, rfl⟩ := List.exists_cons_of_ne_nil hne
  exact flag_cons_of_ne (letter_ne (hw c (by simp)) hp) _

include hne hw hs in
theorem skipCurrent_letters : skipCurrent (w ++ s :: r) = w ++ s :: r := by
  have hbind : (literally ['t', 'h', 'i', 's'] (w ++ s :: r)).bind separator? = none := by
    have hmem := endsWord_not_mem hs ['t', 'h', 'i', 's'] (by decide)
    rcases literally_letters (w := w) (r := r) _ hmem with h | ⟨v, rfl, h⟩
    · rw [h]; rfl
    · rw [h]
      cases v with
      | nil => exact separator_none hs
      | cons c v => exact separator_none_letter (hw c (by simp))
  unfold skipCurrent
  rw [hbind, literally_none hne hw (by decide)]
  rfl

include hne hw hs in
theorem readStep_letters : readStep (w ++ s :: r) = some (String.ofList w, s :: r) := by
  rw [← readName_letters hne hw (not_isSymbol_of_endsWord hs)]
  obtain ⟨c, w, rfl⟩ := List.exists_cons_of_ne_nil hne
  have : c ≠ '[' := letter_ne (hw c (by simp)) (by decide)
  unfold readStep
  split
  · rename_i h
    simp only [List.cons_append, List.cons.injEq] at h
    exact absurd h.1 this
  · rfl

include hne hw hs in
/-- A run of letters is read as the path of a single name. -/
theorem readPath_letters :
    readPath (w ++ s :: r) = some (namePath (String.ofList w), s :: r) := by
  have htake : (w ++ s :: r).take ((w ++ s :: r).length - (s :: r).length) = w := by simp
  unfold readPath
  rw [skipCurrent_letters hne hw hs]
  simp only [skipRoot, literally_none hne hw (by decide : isWordLetter '@' = false),
    Option.bind_none, flag_letters hne hw (by decide : isWordLetter '@' = false),
    readUps_none _ (literally_none hne hw (by decide : isWordLetter '.' = false)),
    readStep_letters hne hw hs, readSteps_end _ hs, htake]
  by_cases h : String.ofList w = "this" <;> simp [namePath, h]

/-! ## Parameters -/

include hne hw in
theorem readText_none {q : Char} (hq : isWordLetter q = false) : readText q (w ++ r) = none := by
  obtain ⟨c, w, rfl⟩ := List.exists_cons_of_ne_nil hne
  have : c ≠ q := letter_ne (hw c (by simp)) hq
  simp [readText, this]

include hne hw in
theorem readNumber_none : readNumber (w ++ r) = none := by
  unfold readNumber
  rw [flag_letters hne hw (by decide)]
  obtain ⟨c, w, rfl⟩ := List.exists_cons_of_ne_nil hne
  simp [not_digit_of_letter (hw c (by simp))]

include hne hw in
theorem readArray_none (n : Nat) : readArray n (w ++ r) = none := by
  obtain ⟨c, w, rfl⟩ := List.exists_cons_of_ne_nil hne
  have : c ≠ '[' := letter_ne (hw c (by simp)) (by decide)
  cases n with
  | zero => rfl
  | succ n => simp [readArray, this]

include hne hw in
theorem readObject_none (n : Nat) : readObject n (w ++ r) = none := by
  obtain ⟨c, w, rfl⟩ := List.exists_cons_of_ne_nil hne
  have : c ≠ '{' := letter_ne (hw c (by simp)) (by decide)
  cases n with
  | zero => rfl
  | succ n => simp [readObject, this]

include hne hw in
theorem readSubexpression_none (n : Nat) : readSubexpression n (w ++ r) = none := by
  obtain ⟨c, w, rfl⟩ := List.exists_cons_of_ne_nil hne
  have : c ≠ '(' := letter_ne (hw c (by simp)) (by decide)
  cases n with
  | zero => rfl
  | succ n => simp [readSubexpression, this]

variable (hword : IsPlainWord w)

include hword hs in
/-- A plain word is no literal. -/
theorem readLiteral_none (n : Nat) : readLiteral false n (w ++ s :: r) = none := by
  obtain ⟨hne, hw, hown, -⟩ := hword
  have hquoted : readQuoted false (w ++ s :: r) = none := by
    unfold readQuoted
    rw [readText_none hne hw (by decide), readText_none hne hw (by decide)]
  have hwords : ∀ (word : String) (v : Json.Value), word.toList ∈ ownWords →
      (word.toList.all fun c => !endsWord c) = true → readWord word v (w ++ s :: r) = none := by
    intro word v hmem hends
    exact readWord_letters (fun h => hown (h ▸ hmem)) hw (endsWord_not_mem hs _ hends)
  cases n with
  | zero => rfl
  | succ n =>
    rw [readLiteral, hquoted]
    simp only [readArray_none hne hw, readObject_none hne hw, readNumber_none hne hw,
      hwords "null" .null (by decide) (by decide), hwords "true" _ (by decide) (by decide),
      hwords "false" _ (by decide) (by decide)]
    rfl

include hword hs in
theorem not_atKeyword : atKeyword (w ++ s :: r) = false := by
  obtain ⟨-, hw, hown, helse⟩ := hword
  have hmem := endsWord_not_mem hs ['e', 'l', 's', 'e'] (by decide)
  have hmem' := endsWord_not_mem hs ['a', 's'] (by decide)
  have hnone : literally ['e', 'l', 's', 'e'] (w ++ s :: r) = none := by
    rcases literally_letters (w := w) (r := r) _ hmem with h | ⟨v, rfl, -⟩
    · exact h
    · exact absurd (List.prefix_append _ _) helse
  unfold atKeyword
  rw [hnone]
  rcases literally_letters (w := w) (r := r) _ hmem' with h | ⟨v, rfl, h⟩
  · rw [h]; rfl
  · have hv : v ≠ [] := by
      rintro rfl
      exact hown (by simp [ownWords])
    have hv' : ∀ c ∈ v, isWordLetter c = true := fun c hc => hw c (by simp [hc])
    rw [h]
    change endsName (skip (v ++ s :: r)) = false
    rw [skip_letters hv hv', not_endsName_letters hv hv']

include hword hs in
/-- A plain word is read as a parameter. -/
theorem readParam_word (n : Nat) :
    readParam (n + 1) (w ++ s :: r) = some (.path (namePath (String.ofList w)), s :: r) := by
  rw [readParam, not_atKeyword hs hword, readLiteral_none hs hword,
    readPath_letters hword.ne_nil hword.letters hs]
  rfl

/-! ## Calls -/

theorem readName_close : readName ('}' :: r) = none := by
  rw [readName, List.takeWhile_cons_of_neg (by decide)]
  rfl

theorem readParam_close (n : Nat) : readParam n ('}' :: r) = none := by
  have hliteral : ∀ n, readLiteral false n ('}' :: r) = none := by
    intro n
    have hdigit : ('}' :: r).takeWhile Char.isDigit = [] :=
      List.takeWhile_cons_of_neg (by decide)
    have harray : ∀ n, readArray n ('}' :: r) = none := by
      intro n; cases n <;> simp [readArray]
    have hobject : ∀ n, readObject n ('}' :: r) = none := by
      intro n; cases n <;> simp [readObject]
    cases n with
    | zero => rfl
    | succ n =>
      simp [readLiteral, readQuoted, readText, harray, hobject, readNumber, flag, hdigit, readWord,
        literally]
  have hpath : readPath ('}' :: r) = none := by
    have hstep : readStep ('}' :: r) = none := by simp [readStep, readName_close]
    simp [readPath, skipCurrent, skipRoot, literally, flag, readUps_none, hstep]
  cases n with
  | zero => rfl
  | succ n =>
    have hsub : readSubexpression n ('}' :: r) = none := by cases n <;> simp [readSubexpression]
    rw [readParam, hliteral, hpath, hsub]
    simp

/-- No parameter starts with the end of a tag. -/
theorem readArguments_close (n : Nat) : readArguments n ('}' :: r) = ([], '}' :: r) := by
  have hargument : ∀ n, readArgument n ('}' :: r) = none := by
    intro n
    cases n with
    | zero => rfl
    | succ n => simp [readArgument, readName_close, readParam_close]
  have hskip : skip ('}' :: r) = '}' :: r := List.dropWhile_cons_of_neg (by decide)
  cases n with
  | zero => rfl
  | succ n => rw [readArguments, hskip, hargument]

include hword in
theorem readApplied_none (n : Nat) : readApplied n (w ++ '}' :: r) = none := by
  cases n with
  | zero => rfl
  | succ n =>
    rw [readApplied, readName_letters hword.ne_nil hword.letters (by decide)]
    simp only [readArguments_close]

include hword in
/-- A plain word alone is read as a path without parameters. -/
theorem readCall_word (n : Nat) :
    readCall n (w ++ '}' :: r) =
      some (.mk (.path (namePath (String.ofList w))) [] [], '}' :: r) := by
  have hread := readPath_letters (r := r) hword.ne_nil hword.letters (s := '}') (by decide)
  unfold readCall readHead
  rw [readApplied_none hword, readSubexpression_none hword.ne_nil hword.letters, hread]
  rfl

include hword in
theorem readArgument_word (n : Nat) :
    readArgument (n + 2) (w ++ '}' :: r) =
      some (.plain (.path (namePath (String.ofList w))), '}' :: r) := by
  have hskip : skip ('}' :: r) = '}' :: r := List.dropWhile_cons_of_neg (by decide)
  rw [readArgument, readName_letters hword.ne_nil hword.letters (by decide),
    readParam_word (by decide) hword]
  simp [hskip, literally]

variable {h : List Char} (hhead : IsPlainWord h)

include hword hhead in
/-- A block's tag has a name and a parameter. -/
theorem readBlockHead_words (n : Nat) :
    readBlockHead (n + 3) (h ++ ' ' :: w ++ '}' :: r) =
      some ((.mk (.path (namePath (String.ofList h)))
        [.path (namePath (String.ofList w))] [], []), '}' :: r) := by
  have hskip : skip (' ' :: (w ++ '}' :: r)) = w ++ '}' :: r := by
    rw [skip, List.dropWhile_cons_of_pos (by decide)]
    exact skip_letters hword.ne_nil hword.letters
  have hclose : skip ('}' :: r) = '}' :: r := List.dropWhile_cons_of_neg (by decide)
  have hargs : readArguments (n + 3) (' ' :: (w ++ '}' :: r)) =
      ([.plain (.path (namePath (String.ofList w)))], '}' :: r) := by
    rw [readArguments, hskip, readArgument_word hword]
    simp only [readArguments_close]
  have hnames : readBlockNames ('}' :: r) = none := by simp [readBlockNames, literally]
  rw [List.append_assoc, List.cons_append]
  unfold readBlockHead
  rw [readName_letters hhead.ne_nil hhead.letters (by decide)]
  simp only [hargs, hclose, hnames]
  rfl

/-! ## Tags -/

theorem finish_close : finish doubleClose ('}' :: '}' :: r) = some (false, r) := by
  simp [finish, skip, isTagBlank, flag, doubleClose, literally]

theorem finish_trimmed : finish doubleClose ('~' :: '}' :: '}' :: r) = some (true, r) := by
  simp [finish, skip, isTagBlank, flag, doubleClose, literally]

include hword in
theorem readOtherwise_none (n : Nat) (trim : Bool) :
    readOtherwise n trim (w ++ '}' :: r) = none := by
  obtain ⟨hne, hw, hown, helse⟩ := hword
  have hnone : literally ['e', 'l', 's', 'e'] (w ++ '}' :: r) = none := by
    rcases literally_letters (w := w) (r := r) (s := '}') ['e', 'l', 's', 'e'] (by decide)
      with h | ⟨v, rfl, -⟩
    · exact h
    · exact absurd (List.prefix_append _ _) helse
  unfold readOtherwise
  rw [hnone, literally_none hne hw (by decide)]
  rfl

include hne hw in
theorem ne_cons_of_letters {d : Char} (hd : isWordLetter d = false) (cs : List Char) :
    w ++ r ≠ d :: cs := by
  obtain ⟨c, w, rfl⟩ := List.exists_cons_of_ne_nil hne
  intro hcs
  exact letter_ne (hw c (by simp)) hd (List.cons.inj hcs).1

/-- A call of a name alone. -/
def nameCall (w : List Char) : Call := .mk (.path (namePath (String.ofList w))) [] []

/-- A call of a helper on a name. -/
def blockCall (h w : List Char) : Call :=
  .mk (.path (namePath (String.ofList h))) [.path (namePath (String.ofList w))] []

include hword in
/-- The tag of a plain word writes what the word names. -/
theorem readTag_word :
    readTag (w ++ '}' :: '}' :: r) = some ⟨.expression (nameCall w), false, false, r⟩ := by
  have hskip := skip_letters (r := '}' :: '}' :: r) hword.ne_nil hword.letters
  have hflag := flag_letters (r := '}' :: '}' :: r) hword.ne_nil hword.letters
    (by decide : isWordLetter '~' = false)
  have hbody : ∀ n, readTagBody n (w ++ '}' :: '}' :: r) =
      some ⟨.expression (nameCall w), false, false, r⟩ := by
    intro n
    have htag : tagOf (readCall n) Tag.expression false doubleClose (w ++ '}' :: '}' :: r) =
        some ⟨.expression (nameCall w), false, false, r⟩ := by
      simp [tagOf, hskip, readCall_word hword, finish_close, nameCall]
    unfold readTagBody
    rw [hskip, hflag]
    dsimp only
    rw [hskip]
    split
    case h_7 => rw [readOtherwise_none hword]; exact htag
    all_goals
      rename_i heq
      exact absurd heq (ne_cons_of_letters hword.ne_nil hword.letters (by decide) _)
  rw [readTag, hbody]
  rfl

include hword hhead in
/-- The tag that opens a block with one parameter. -/
theorem readTag_opening :
    readTag ('#' :: (h ++ ' ' :: w ++ '}' :: '}' :: r)) =
      some ⟨.opening (blockCall h w) [], false, false, r⟩ := by
  rw [List.append_assoc]
  have hmark : skip ('#' :: (h ++ (' ' :: w ++ '}' :: '}' :: r))) =
      '#' :: (h ++ (' ' :: w ++ '}' :: '}' :: r)) := List.dropWhile_cons_of_neg (by decide)
  have hskip : skip (h ++ (' ' :: w ++ '}' :: '}' :: r)) = h ++ (' ' :: w ++ '}' :: '}' :: r) :=
    skip_letters hhead.ne_nil hhead.letters
  have hbody : ∀ n, readTagBody (n + 3) ('#' :: (h ++ (' ' :: w ++ '}' :: '}' :: r))) =
      some ⟨.opening (blockCall h w) [], false, false, r⟩ := by
    intro n
    have htag : tagOf (readBlockHead (n + 3)) (fun head => Tag.opening head.1 head.2) false
        doubleClose (h ++ (' ' :: w ++ '}' :: '}' :: r)) =
          some ⟨.opening (blockCall h w) [], false, false, r⟩ := by
      have := readBlockHead_words (r := '}' :: r) hword hhead n
      rw [List.append_assoc] at this
      simp only [tagOf, hskip, this]
      simp [finish_close, blockCall]
    unfold readTagBody
    rw [hmark, flag_cons_of_ne (by decide)]
    dsimp only
    rw [hmark]
    simp only [hskip]
    split
    case h_3 => exact htag
    all_goals
      rename_i heq
      exact absurd heq (ne_cons_of_letters hhead.ne_nil hhead.letters (by decide) _)
  rw [readTag, show ∀ k, 2 * k + 8 = 2 * k + 5 + 3 by omega, hbody]
  rfl

include hhead in
/-- The tag that closes a block, with or without a mark that takes away the blanks after it. -/
theorem readTag_closing (trim : Bool) :
    readTag ('/' :: (h ++ ((if trim then ['~'] else []) ++ '}' :: '}' :: r))) =
      some ⟨.closing (String.ofList h), false, trim, r⟩ := by
  obtain ⟨s, r', hs, hrest, hfinish⟩ : ∃ s r', endsWord s = true ∧
      (if trim then ['~'] else []) ++ '}' :: '}' :: r = s :: r' ∧
        finish doubleClose (s :: r') = some (trim, r) := by
    cases trim with
    | true => exact ⟨'~', '}' :: '}' :: r, by decide, rfl, finish_trimmed⟩
    | false => exact ⟨'}', '}' :: r, by decide, rfl, finish_close⟩
  rw [hrest]
  have hmark : skip ('/' :: (h ++ s :: r')) = '/' :: (h ++ s :: r') :=
    List.dropWhile_cons_of_neg (by decide)
  have hskip : skip (h ++ s :: r') = h ++ s :: r' := skip_letters hhead.ne_nil hhead.letters
  have hbody : ∀ n, readTagBody n ('/' :: (h ++ s :: r')) =
      some ⟨.closing (String.ofList h), false, trim, r⟩ := by
    intro n
    have hname := readName_letters (r := r') hhead.ne_nil hhead.letters
      (not_isSymbol_of_endsWord hs)
    have htag : tagOf readName Tag.closing false doubleClose (h ++ s :: r') =
        some ⟨.closing (String.ofList h), false, trim, r⟩ := by
      simp [tagOf, hskip, hname, hfinish]
    unfold readTagBody
    rw [hmark, flag_cons_of_ne (by decide)]
    dsimp only
    rw [hmark]
    change (tagOf readName Tag.closing false doubleClose (h ++ s :: r') <|> _) = _
    rw [htag]
    rfl
  rw [readTag, hbody]
  rfl

end SdkGen.Template
