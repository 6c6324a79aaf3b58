import SdkGen.Go.Automaton.Machine
import SdkGen.Proofs.Go.Nested

/-!
# Brackets of the productions

Every phrase of Go closes the brackets that it opens: its form does, and so do the productions
into which the form is taken apart.

* `Form.after`: the brackets that are open behind a form.
* `alternatives_after`: each way through a form leaves the same brackets open.
* `production_nested`: the brackets of a production are nested.
-/

namespace SdkGen.Go

/-- The marks that are brackets. -/
def bracketMarks : List String := ["(", ")", "[", "]", "\x7b", "\x7d"]

/-- The bracket that a token is, if it is one. -/
def Token.bracket : Token → List Char
  | .mark m => if bracketMarks.contains m then m.toList else []
  | _ => []

/-- The brackets that are open behind a form, the last one first; none where one is closed that is
not open, or where that depends on a choice. What is repeated has to close what it opens. -/
def Form.after : Form → List Bracket → Option (List Bracket)
  | .nothing, bs => some bs
  | .token t, bs => track bs t.bracket
  | .phrase _, bs => some bs
  | .sequence f g, bs => (f.after bs).bind g.after
  | .choice f g, bs => if f.after bs = g.after bs then f.after bs else none
  | .repeated f, bs => if f.after [] = some [] then some bs else none
  | .ranked _ _ f, bs => f.after bs
  | .weighted _ f, bs => f.after bs
  | .renamed _ f, bs => f.after bs

/-- The bracket that a symbol is, if it is one. -/
def Numbering.bracket (n : Numbering) (symbol : Nat) : List Char :=
  (n.tokens[symbol]?.map Token.bracket).getD []

/-- The brackets of some steps. -/
def bracketsOf (bracket : Nat → List Char) (ss : List Step) : List Char :=
  ss.flatMap fun s => bracket s.symbol

variable {f g : Form} {bs cs : List Bracket}

/-! ## Forms -/

theorem after_choice (h : (f.choice g).after bs = some cs) :
    f.after bs = some cs ∧ g.after bs = some cs := by
  rw [Form.after] at h
  split at h
  · next hsame => exact ⟨h, hsame ▸ h⟩
  · cases h

theorem after_repeated (h : f.repeated.after bs = some cs) : f.after [] = some [] ∧ bs = cs := by
  rw [Form.after] at h
  split at h
  · next hclosed => exact ⟨hclosed, Option.some.inj h⟩
  · cases h

/-- Each phrase closes the brackets that it opens. -/
theorem definition_after : ∀ d ∈ definitions, d.form.after [] = some [] := by decide

/-- A phrase for each repetition leaves the same brackets open, and closes those that it opens. -/
theorem extractRepeats_after (owner : String) (f : Form) {rs : Form.Repeats}
    (hrs : ∀ r ∈ rs, r.1.after [] = some []) (h : f.after bs = some cs) :
    (f.extractRepeats owner rs).1.after bs = some cs ∧
      ∀ r ∈ (f.extractRepeats owner rs).2, r.1.after [] = some [] := by
  induction f generalizing bs cs rs with
  | nothing => exact ⟨h, hrs⟩
  | token t => exact ⟨h, hrs⟩
  | phrase name => exact ⟨h, hrs⟩
  | sequence f g ihf ihg =>
    obtain ⟨ds, hf, hg⟩ := Option.bind_eq_some_iff.1 h
    obtain ⟨hf', hrs'⟩ := ihf hrs hf
    obtain ⟨hg', hrs''⟩ := ihg hrs' hg
    exact ⟨Option.bind_eq_some_iff.2 ⟨ds, hf', hg'⟩, hrs''⟩
  | choice f g ihf ihg =>
    obtain ⟨hf, hg⟩ := after_choice h
    obtain ⟨hf', hrs'⟩ := ihf hrs hf
    obtain ⟨hg', hrs''⟩ := ihg hrs' hg
    exact ⟨(if_pos (hf'.trans hg'.symm)).trans hf', hrs''⟩
  | repeated f ih =>
    obtain ⟨hf, rfl⟩ := after_repeated h
    obtain ⟨hf', hrs'⟩ := ih hrs hf
    -- the phrase that takes its place leaves open what was open, known before or new
    cases hlookup : (f.extractRepeats owner rs).2.lookup (f.extractRepeats owner rs).1 with
    | some name =>
      simp only [Form.extractRepeats, hlookup]
      exact ⟨rfl, hrs'⟩
    | none =>
      simp only [Form.extractRepeats, hlookup]
      refine ⟨rfl, fun r hr => ?_⟩
      rcases List.mem_append.1 hr with hold | hnew
      · exact hrs' r hold
      · rw [List.mem_singleton.1 hnew]
        exact hf'
  | ranked rank side f ih => exact ih hrs h
  | weighted weight f ih => exact ih hrs h
  | renamed name f ih => exact ih hrs h

/-! ## Sequences -/

theorem closeRank_brackets (bracket : Nat → List Char) (rank : Int) (side : Option Side)
    (ss : List Step) :
    bracketsOf bracket (Form.closeRank rank side ss) = bracketsOf bracket ss := by
  fun_induction Form.closeRank rank side ss with
  | case1 => rfl
  | case2 s => rfl
  | case3 s t ss ih => exact congrArg (bracket s.symbol ++ ·) ih

section

variable {number : Form → Nat} {bracket : Nat → List Char}

/-- **Each way through a form** leaves the brackets open that the form leaves open. -/
theorem alternatives_after (htoken : ∀ t, bracket (number (.token t)) = t.bracket)
    (hphrase : ∀ name, bracket (number (.phrase name)) = []) (h : f.after bs = some cs) :
    ∀ a ∈ f.alternatives, ∀ rank side renamed last,
      track bs (bracketsOf bracket (a.steps number rank side renamed last)) = some cs := by
  induction f generalizing bs cs with
  | nothing =>
    intro a ha rank side renamed last
    rw [List.mem_singleton.1 ha]
    exact h
  | token t =>
    intro a ha rank side renamed last
    rw [List.mem_singleton.1 ha]
    change track bs (bracket (number (.token t)) ++ []) = some cs
    rw [htoken, List.append_nil]
    exact h
  | phrase name =>
    intro a ha rank side renamed last
    rw [List.mem_singleton.1 ha]
    change track bs (bracket (number (.phrase name)) ++ []) = some cs
    rw [hphrase]
    exact h
  | sequence f g ihf ihg =>
    intro a ha rank side renamed last
    obtain ⟨x, hx, hmap⟩ := List.mem_flatMap.1 ha
    obtain ⟨y, hy, rfl⟩ := List.mem_map.1 hmap
    obtain ⟨ds, hf, hg⟩ := Option.bind_eq_some_iff.1 h
    rw [Form.steps, bracketsOf, List.flatMap_append, track_append]
    exact Option.bind_eq_some_iff.2
      ⟨ds, ihf hf x hx rank side renamed false, ihg hg y hy rank side renamed last⟩
  | choice f g ihf ihg =>
    intro a ha rank side renamed last
    obtain ⟨hf, hg⟩ := after_choice h
    rcases List.mem_append.1 ha with hx | hy
    · exact ihf hf a hx rank side renamed last
    · exact ihg hg a hy rank side renamed last
  | repeated f ih =>
    intro a ha rank side renamed last
    obtain ⟨-, rfl⟩ := after_repeated h
    rw [List.mem_singleton.1 ha]
    rfl
  | ranked r s f ih =>
    intro a ha rank side renamed last
    obtain ⟨x, hx, rfl⟩ := List.mem_map.1 ha
    have hinner := ih h x hx r (s.or side) renamed last
    -- another rank at the last step changes no symbol
    cases last with
    | true => exact hinner
    | false =>
      rw [← closeRank_brackets bracket rank side] at hinner
      exact hinner
  | weighted w f ih =>
    intro a ha rank side renamed last
    obtain ⟨x, hx, rfl⟩ := List.mem_map.1 ha
    exact ih h x hx rank side renamed last
  | renamed name f ih =>
    intro a ha rank side renamed last
    obtain ⟨x, hx, rfl⟩ := List.mem_map.1 ha
    exact ih h x hx rank side (some name) last

end

/-! ## Productions -/

/-- Each of some phrases closes the brackets that it opens, and so does all that is repeated. -/
def Closes (p : List Definition × Form.Repeats) : Prop :=
  (∀ d ∈ p.1, d.form.after [] = some []) ∧ ∀ r ∈ p.2, r.1.after [] = some []

theorem Closes.nil : Closes ([], []) := by
  constructor <;> intro _ h <;> cases h

/-- The phrases, also those for repetitions, close the brackets that they open. -/
theorem phrase_after : ∀ d ∈ Numbering.ofGo.phrases, d.form.after [] = some [] := by
  intro d hd
  change d ∈ (plainDefinitions.1 ++ plainDefinitions.2).toArray at hd
  rw [List.mem_toArray] at hd
  unfold plainDefinitions at hd
  split at hd
  next ds rs heq =>
    have hcloses : Closes (ds, rs) := by
      rw [← heq]
      refine List.foldlRecOn (motive := Closes) definitions _ .nil ?_
      rintro ⟨ds, rs⟩ ⟨hds, hrs⟩ d hd
      obtain ⟨hform, hrs'⟩ := extractRepeats_after d.name d.form hrs (definition_after d hd)
      refine ⟨fun e he => ?_, hrs'⟩
      rcases List.mem_append.1 he with hold | hnew
      · exact hds e hold
      · rw [List.mem_singleton.1 hnew]
        exact hform
    rcases List.mem_append.1 hd with hown | hrepeat
    · exact hcloses.1 d hown
    · obtain ⟨r, hr, rfl⟩ := List.mem_map.1 hrepeat
      exact (if_pos (hcloses.2 r hr).symm)

theorem bracket_ofToken (t : Token) :
    Numbering.ofGo.bracket (Numbering.ofGo.ofToken t) = t.bracket := by
  change ((Token.all.toArray[(Token.all.toArray.idxOf? t).getD 0]?).map Token.bracket).getD [] = _
  rw [List.getElem?_toArray, List.idxOf?_toArray]
  cases hindex : Token.all.idxOf? t with
  | some i =>
    obtain ⟨hi, rfl, -⟩ := List.idxOf?_eq_some_iff.1 hindex
    rw [Option.getD_some, List.getElem?_eq_getElem hi]
    rfl
  | none =>
    -- the token has the number of the end of the text, and is no bracket
    have hmem := List.idxOf?_eq_none_iff.1 hindex
    cases t with
    | mark m =>
      have hall : ∀ m ∈ bracketMarks, Token.mark m ∈ Token.all := by decide
      have hm : bracketMarks.contains m = false := by
        rw [← Bool.not_eq_true, List.contains_iff_mem]
        exact fun hm => hmem (hall m hm)
      simp only [Token.bracket, hm]
      rfl
    | _ => rfl

theorem bracket_phrase {n : Numbering} {symbol : Nat} (h : n.tokens.size ≤ symbol) :
    n.bracket symbol = [] := by
  rw [Numbering.bracket, Array.getElem?_eq_none h]
  rfl

/-- The productions of a phrase are its sequences. -/
theorem mem_productionsOf (n : Numbering) (head : Nat) (f : Form) :
    ∀ q ∈ n.productionsOf head f, q.head = head ∧
      ∃ a ∈ f.alternatives, q.steps.toList = a.steps n.ofForm 0 none none true := by
  unfold Numbering.productionsOf
  refine List.foldlRecOn (motive := fun ps : List Production => ∀ q ∈ ps, q.head = head ∧
    ∃ a ∈ f.alternatives, q.steps.toList = a.steps n.ofForm 0 none none true) _ _ (by simp) ?_
  intro ps hps a ha q hq
  simp only at hq
  split at hq
  · exact hps q hq
  · rcases List.mem_append.1 hq with hold | hnew
    · exact hps q hold
    · rw [List.mem_singleton.1 hnew]
      exact ⟨rfl, a, ha, rfl⟩

/-- A production is a sequence of the phrase whose number it has. -/
theorem mem_allProductions {n : Numbering} {q : Production} (hq : q ∈ allProductions n) :
    ∃ d, n.tokens.size ≤ q.head ∧ n.phrases[q.head - n.tokens.size]? = some d ∧
      ∃ a ∈ d.form.alternatives, q.steps.toList = a.steps n.ofForm 0 none none true := by
  obtain ⟨⟨d, i⟩, hd, hq⟩ := List.mem_flatMap.1 (List.mem_toArray.1 hq)
  obtain ⟨hle, hget⟩ := List.mk_mem_zipIdx_iff_le_and_getElem?_sub.1 hd
  obtain ⟨rfl, hsteps⟩ := mem_productionsOf n i d.form q hq
  exact ⟨d, hle, by rw [← hget, Array.getElem?_toList], hsteps⟩

/-- **The brackets of a production are nested.** -/
theorem production_nested : ∀ p ∈ Machine.ofGo.get.productions,
    Nested (bracketsOf Numbering.ofGo.bracket p.steps.toList) := by
  intro p hp
  change p ∈ (allProductions Numbering.ofGo).push _ at hp
  rcases Array.mem_push.1 hp with hown | rfl
  · obtain ⟨d, -, hd, a, ha, hsteps⟩ := mem_allProductions hown
    rw [hsteps, nested_iff_track]
    exact alternatives_after bracket_ofToken (fun name => bracket_phrase (Nat.le_add_right _ _))
      (phrase_after d (Array.mem_of_getElem? hd)) a ha 0 none none true
  · -- the production of a whole text is one phrase
    change Nested (Numbering.ofGo.bracket Numbering.ofGo.tokens.size ++ [])
    rw [bracket_phrase (Nat.le_refl _)]
    exact .nil

end SdkGen.Go
