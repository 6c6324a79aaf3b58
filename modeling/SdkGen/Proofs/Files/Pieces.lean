import SdkGen.Files.Path

/-!
# The pieces of a path

A path is walked back from its end: its trail lists the pieces, the last one first.

* `trail_ofReversed`: a path that is made of pieces has these pieces.
* `pieces_absolute`, `pieces_relative`: how a path starts.
* `trimmed_cases`: idle pieces are dropped at the end of a trail.
-/

namespace SdkGen.Path

variable {path p name : String} {ps up before : List String} {c : Char} {cs w : List Char}
  {ws : List (List Char)}

/-- The pieces of a path, the last one first. -/
def trail (path : String) : List String := (pieces path).reverse

/-! ## Cutting at slashes -/

theorem split_nil : split [] = [[]] := rfl

theorem split_slash (cs : List Char) : split ('/' :: cs) = [] :: split cs := rfl

theorem split_step (hc : c ≠ '/') : split (c :: cs) =
    match split cs with
    | [] => [[c]]
    | p :: ps => (c :: p) :: ps := if_neg hc

theorem split_cons (hc : c ≠ '/') (hsplit : split cs = w :: ws) :
    split (c :: cs) = (c :: w) :: ws := by
  rw [split_step hc, hsplit]

theorem split_ne_nil (cs : List Char) : split cs ≠ [] := by
  cases cs with
  | nil => simp [split_nil]
  | cons c cs =>
    by_cases hc : c = '/'
    · rw [hc, split_slash]
      simp
    · rw [split_step hc]
      cases split cs <;> simp

theorem split_plain (hw : '/' ∉ w) : split w = [w] := by
  induction w with
  | nil => rfl
  | cons c w ih =>
    obtain ⟨hc, hw⟩ := not_or.1 (mt List.mem_cons.2 hw)
    exact split_cons (Ne.symm hc) (ih hw)

theorem split_append (hw : '/' ∉ w) (cs : List Char) : split (w ++ '/' :: cs) = w :: split cs := by
  induction w with
  | nil => exact split_slash cs
  | cons c w ih =>
    obtain ⟨hc, hw⟩ := not_or.1 (mt List.mem_cons.2 hw)
    exact split_cons (Ne.symm hc) (ih hw)

/-- Pieces that are joined by slashes are cut there again. -/
theorem split_intercalate (hne : ws ≠ []) (hws : ∀ w ∈ ws, '/' ∉ w) :
    split (['/'].intercalate ws) = ws := by
  induction ws with
  | nil => exact absurd rfl hne
  | cons w ws ih =>
    have hw := hws w List.mem_cons_self
    cases ws with
    | nil =>
      rw [List.intercalate_singleton]
      exact split_plain hw
    | cons v ws =>
      rw [List.intercalate_cons_cons, List.append_assoc, List.singleton_append, split_append hw,
        ih (by simp) fun w hw => hws w (List.mem_cons_of_mem _ hw)]

theorem not_slash_mem_split (hw : w ∈ split cs) : '/' ∉ w := by
  induction cs generalizing w with
  | nil =>
    rw [split_nil, List.mem_singleton] at hw
    simp [hw]
  | cons c cs ih =>
    by_cases hc : c = '/'
    · rw [hc, split_slash, List.mem_cons] at hw
      rcases hw with rfl | hw
      · simp
      · exact ih hw
    · obtain ⟨v, vs, hsplit⟩ := List.exists_cons_of_ne_nil (split_ne_nil cs)
      rw [split_cons hc hsplit] at hw
      rw [hsplit] at ih
      rcases List.mem_cons.1 hw with rfl | hw
      · rw [List.mem_cons, not_or]
        exact ⟨Ne.symm hc, ih List.mem_cons_self⟩
      · exact ih (List.mem_cons_of_mem _ hw)

/-- No piece of a path has a slash. -/
def Slashless (ps : List String) : Prop := ∀ p ∈ ps, '/' ∉ p.toList

theorem slashless_trail (path : String) : Slashless (trail path) := by
  intro p hp
  rw [trail, List.mem_reverse, pieces, List.mem_map] at hp
  obtain ⟨w, hw, rfl⟩ := hp
  rw [String.toList_ofList]
  exact not_slash_mem_split hw

theorem trail_ne_nil (path : String) : trail path ≠ [] := by
  unfold trail pieces
  simpa using split_ne_nil path.toList

theorem Slashless.suffix (h : Slashless ps) (hup : up <:+ ps) : Slashless up :=
  fun p hp => h p (hup.subset hp)

/-- **A path that is made of pieces has these pieces.** -/
theorem trail_ofReversed (hne : ps ≠ []) (hroot : ps ≠ [""]) (hps : Slashless ps) :
    trail (ofReversed ps) = ps := by
  have hjoin : ofReversed ps = "/".intercalate ps.reverse := by
    unfold ofReversed
    split
    · exact absurd rfl hne
    · exact absurd rfl hroot
    · rfl
  unfold trail pieces
  rw [hjoin, String.toList_intercalate]
  have hsplit : split (['/'].intercalate (ps.reverse.map String.toList)) =
      ps.reverse.map String.toList := by
    refine split_intercalate (by simpa using hne) ?_
    intro w hw
    obtain ⟨p, hp, rfl⟩ := List.mem_map.1 hw
    exact hps p (List.mem_reverse.1 hp)
  have hslash : "/".toList = ['/'] := rfl
  rw [hslash, hsplit, List.map_map]
  have hid : String.ofList ∘ String.toList = id := funext fun _ => String.ofList_toList
  rw [hid, List.map_id, List.reverse_reverse]

/-- A path that is made of pieces is not empty. -/
theorem ofReversed_ne_empty (hne : ps ≠ []) (hslash : Slashless ps) :
    ofReversed ps ≠ "" := by
  by_cases hroot : ps = [""]
  · subst hroot
    decide
  · intro hempty
    have htrail := trail_ofReversed hne hroot hslash
    rw [hempty] at htrail
    exact hroot htrail.symm

/-! ## How a path starts -/

theorem mem_split (hc : c ≠ '/') : c ∈ cs ↔ ∃ w ∈ split cs, c ∈ w := by
  induction cs with
  | nil => simp [split]
  | cons d cs ih =>
    by_cases hd : d = '/'
    · rw [hd, split_slash, List.mem_cons, ih]
      simp [hc]
    · obtain ⟨v, vs, hsplit⟩ := List.exists_cons_of_ne_nil (split_ne_nil cs)
      rw [split_cons hd hsplit, List.mem_cons, ih, hsplit]
      simp [or_assoc]

/-- A character other than a slash stands in a path if it stands in one of the pieces. -/
theorem mem_path (hc : c ≠ '/') : c ∈ path.toList ↔ ∃ p ∈ trail path, c ∈ p.toList := by
  rw [mem_split hc]
  simp only [trail, pieces, List.mem_reverse, List.mem_map]
  constructor
  · rintro ⟨w, hw, hmem⟩
    exact ⟨String.ofList w, ⟨w, hw, rfl⟩, by simpa using hmem⟩
  · rintro ⟨p, ⟨w, hw, rfl⟩, hmem⟩
    exact ⟨w, hw, by simpa using hmem⟩

/-- A path from the root has an empty piece first, and more behind it. -/
theorem pieces_absolute (h : isAbsolute path = true) :
    ∃ rest, rest ≠ [] ∧ pieces path = "" :: rest := by
  unfold isAbsolute at h
  unfold pieces
  cases hpath : path.toList with
  | nil => simp [hpath] at h
  | cons d cs =>
    obtain rfl : d = '/' := by simpa [hpath] using h
    exact ⟨(split cs).map String.ofList, by simpa using split_ne_nil cs, by rw [split_slash]; rfl⟩

/-- Any other path starts with a piece that is not empty. -/
theorem pieces_relative (h : isAbsolute path = false) (hne : path ≠ "") :
    ∃ p rest, p ≠ "" ∧ pieces path = p :: rest := by
  unfold isAbsolute at h
  unfold pieces
  cases hpath : path.toList with
  | nil => exact absurd (String.toList_eq_nil_iff.1 hpath) hne
  | cons d cs =>
    have hd : d ≠ '/' := by simpa [hpath] using h
    obtain ⟨w, ws, hsplit⟩ := List.exists_cons_of_ne_nil (split_ne_nil cs)
    rw [split_cons hd hsplit]
    exact ⟨String.ofList (d :: w), ws.map String.ofList, by simp, rfl⟩

/-! ## What is above -/

theorem trimmed_cons_cons (p q : String) (ps : List String) :
    trimmed (p :: q :: ps) = if isIdle p then trimmed (q :: ps) else p :: q :: ps := by
  rw [trimmed]

/-- Idle pieces are dropped at the end, down to the first piece. -/
theorem trimmed_cases (hne : ps ≠ []) : ∃ idle name before, ps = idle ++ name :: before ∧
    trimmed ps = name :: before ∧ (∀ p ∈ idle, isIdle p = true) ∧
    (before = [] ∨ isIdle name = false) := by
  induction ps with
  | nil => exact absurd rfl hne
  | cons p ps ih =>
    cases ps with
    | nil => exact ⟨[], p, [], rfl, rfl, by simp, .inl rfl⟩
    | cons q ps =>
      rw [trimmed_cons_cons]
      cases hp : isIdle p with
      | false => exact ⟨[], p, q :: ps, rfl, by simp, by simp, .inr hp⟩
      | true =>
        obtain ⟨idle, name, before, heq, htrimmed, hidle, hname⟩ := ih (by simp)
        refine ⟨p :: idle, name, before, by rw [heq]; rfl, by simpa using htrimmed, ?_, hname⟩
        intro r hr
        rcases List.mem_cons.1 hr with rfl | hr
        · exact hp
        · exact hidle r hr

/-- Every path ends in some piece. -/
theorem exists_trimmed (path : String) :
    ∃ name before, trimmed (trail path) = name :: before ∧ Slashless before := by
  obtain ⟨idle, name, before, htrail, htrimmed, -⟩ := trimmed_cases (trail_ne_nil path)
  refine ⟨name, before, htrimmed, (slashless_trail path).suffix ?_⟩
  rw [htrail]
  exact (List.suffix_cons name before).trans (List.suffix_append idle (name :: before))

/-- A trail without idle pieces at the end. -/
def Trim (ps : List String) : Prop := trimmed ps = ps

theorem trim_cons_iff : Trim (name :: before) ↔ before = [] ∨ isIdle name = false := by
  unfold Trim
  cases before with
  | nil => simp [trimmed]
  | cons q ps =>
    rw [trimmed_cons_cons]
    cases hidle : isIdle name with
    | false => simp
    | true =>
      -- what is trimmed is shorter
      obtain ⟨idle, n, rest, heq, htrimmed, -, -⟩ := trimmed_cases (List.cons_ne_nil q ps)
      have hlength := congrArg List.length heq
      simp only [List.length_append, List.length_cons] at hlength
      refine iff_of_false (fun h => ?_) (by simp)
      have hlength' := congrArg List.length (htrimmed.symm.trans h)
      simp only [List.length_cons] at hlength'
      omega

theorem trim_trimmed (ps : List String) : Trim (trimmed ps) := by
  by_cases hne : ps = []
  · subst hne
    rfl
  · obtain ⟨idle, name, before, -, htrimmed, -, hname⟩ := trimmed_cases hne
    rw [htrimmed]
    exact trim_cons_iff.2 hname

end SdkGen.Path
