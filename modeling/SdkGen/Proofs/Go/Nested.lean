import SdkGen.Go.Rule

/-!
# Nested brackets

* `Nested`: brackets that are closed in order, each by one of its own kind.
* `track`: the brackets that are open behind some others.
* `nested_iff_track`: brackets are nested if and only if none is left open.
-/

namespace SdkGen.Go

/-- Brackets that are closed in order, each by one of its own kind. -/
inductive Nested : List Char → Prop
  | nil : Nested []
  | append {us vs : List Char} (hus : Nested us) (hvs : Nested vs) : Nested (us ++ vs)
  | enclosed (b : Bracket) {us : List Char} (hus : Nested us) :
      Nested (b.opening :: (us ++ [b.closing]))

namespace Bracket

/-- The bracket that a character opens. -/
def opened? (c : Char) : Option Bracket := [round, square, curly].find? fun b => b.opening = c

/-- The bracket that a character closes. -/
def closed? (c : Char) : Option Bracket := [round, square, curly].find? fun b => b.closing = c

end Bracket

/-- The brackets that are open behind one more, the last one first; none where it closes no open
one. -/
def trackOne (open_ : List Bracket) (c : Char) : Option (List Bracket) :=
  match Bracket.opened? c, Bracket.closed? c, open_ with
  | some b, _, bs => some (b :: bs)
  | none, some b, b' :: bs => if b' = b then some bs else none
  | _, _, _ => none

/-- The brackets that are open behind some others. -/
def track (open_ : List Bracket) (cs : List Char) : Option (List Bracket) := cs.foldlM trackOne open_

variable {bs : List Bracket} {b : Bracket} {c : Char} {us vs cs : List Char}

/-! ## One bracket -/

theorem trackOne_opening (b : Bracket) (bs : List Bracket) :
    trackOne bs b.opening = some (b :: bs) := by cases b <;> rfl

theorem trackOne_closing (b : Bracket) (bs : List Bracket) :
    trackOne (b :: bs) b.closing = some bs := by cases b <;> rfl

/-- What becomes of the open brackets tells what was read. -/
theorem trackOne_cases {open_ : List Bracket} (h : trackOne open_ c = some bs) :
    (∃ b, c = b.opening ∧ bs = b :: open_) ∨ ∃ b, c = b.closing ∧ open_ = b :: bs := by
  unfold trackOne at h
  split at h
  · next b hopened =>
    have hopening := List.find?_some hopened
    cases h
    exact .inl ⟨b, (of_decide_eq_true hopening).symm, rfl⟩
  · next b _ _ _ hclosed =>
    have hclosing := List.find?_some hclosed
    split at h
    · next hsame =>
      cases h
      exact .inr ⟨b, (of_decide_eq_true hclosing).symm, by rw [hsame]⟩
    · cases h
  · cases h

theorem track_nil (bs : List Bracket) : track bs [] = some bs := rfl

theorem track_cons (bs : List Bracket) (c : Char) (cs : List Char) :
    track bs (c :: cs) = (trackOne bs c).bind (track · cs) := rfl

theorem track_append (bs : List Bracket) (us vs : List Char) :
    track bs (us ++ vs) = (track bs us).bind (track · vs) := by
  induction us generalizing bs with
  | nil => rfl
  | cons c us ih =>
    rw [List.cons_append, track_cons, track_cons, Option.bind_assoc]
    exact congrArg _ (funext fun bs => ih bs)

/-! ## Nested brackets -/

/-- Nested brackets leave open what was open before. -/
theorem track_nested (h : Nested us) (bs : List Bracket) : track bs us = some bs := by
  induction h generalizing bs with
  | nil => rfl
  | append _ _ ihu ihv => rw [track_append, ihu, Option.bind_some, ihv]
  | enclosed b _ ih =>
    rw [track_cons, trackOne_opening, Option.bind_some, track_append, ih, Option.bind_some,
      track_cons, trackOne_closing]
    rfl

/-- Some brackets close all that are open, with nested ones between them. -/
def Closing : List Bracket → List Char → Prop
  | [], cs => Nested cs
  | b :: bs, cs => ∃ us vs, Nested us ∧ cs = us ++ b.closing :: vs ∧ Closing bs vs

theorem Closing.behind (h : Closing bs vs) (hus : Nested us) : Closing bs (us ++ vs) := by
  cases bs with
  | nil => exact hus.append h
  | cons b bs =>
    obtain ⟨ws, xs, hws, rfl, hrest⟩ := h
    exact ⟨us ++ ws, xs, hus.append hws, by rw [List.append_assoc], hrest⟩

theorem closing_of_track (h : track bs cs = some []) : Closing bs cs := by
  induction cs generalizing bs with
  | nil =>
    cases h
    exact .nil
  | cons c cs ih =>
    obtain ⟨bs', hone, hrest⟩ := Option.bind_eq_some_iff.1 h
    obtain ⟨b, rfl, rfl⟩ | ⟨b, rfl, rfl⟩ := trackOne_cases hone
    · obtain ⟨us, vs, hus, rfl, hvs⟩ := ih hrest
      -- the bracket that is opened here and the one that closes it
      have hpair := hvs.behind (hus.enclosed b)
      rw [List.cons_append, List.append_assoc, List.singleton_append] at hpair
      exact hpair
    · exact ⟨[], cs, .nil, rfl, ih hrest⟩

/-- **Brackets are nested if and only if none of them is left open or closes another kind.** -/
theorem nested_iff_track : Nested cs ↔ track [] cs = some [] :=
  ⟨fun h => track_nested h [], closing_of_track⟩

instance (cs : List Char) : Decidable (Nested cs) := decidable_of_iff _ nested_iff_track.symm

end SdkGen.Go
