import SdkGen.Proofs.Go.Depth
import SdkGen.Proofs.Go.Sieve
import SdkGen.Proofs.Go.Spans

/-!
# The parts of what is read

What the first parts of the trees of a rule are is known from the rule.

* `Rule.fronts`, `Rule.holdsType`: what a rule tells of the parts it gives.
* `Rule.IsSound`: the nodes in a rule have the parts of their kinds.
* `runs_covers`: the trees of a rule are as it tells, and cover what was read.
* `spans_of_trees`: the trees of a text that the grammar takes.
-/

namespace SdkGen.Go

/-- What the leaf of a token is. -/
def Terminal.part : Terminal → Part
  | .word => .word
  | .keyword w => .fixed w
  | .mark [m] => .fixed m
  | _ => .leaf

namespace Rule

variable {ι : Type} (known : ι → Fronts)

/-- How the parts that a rule gives may start, if that is known of the phrases. -/
def fronts : Rule ι → Fronts
  | .terminal t => [.single t.part]
  | .sequence a b => a.fronts.append b.fronts
  | .choice a b => a.fronts ++ b.fronts
  | .many _ => [.unknown]
  | .enclosed b _ => [⟨[.fixed (String.ofList [b.opening])], false⟩]
  | .node k r => r.fronts.grouped k
  | .phrase i => known i
  | .attempt r => r.fronts
  -- nothing is read
  | _ => [.none]

/-- There is a type among the parts that a rule gives. -/
def holdsType : Rule ι → Bool
  | .sequence a b => a.holdsType || b.holdsType
  | .choice a b => a.holdsType && b.holdsType
  | .enclosed _ r => r.holdsType
  | .node k r => ((r.fronts known).grouped k).holdType
  | .phrase i => (known i).holdType
  | .attempt r => r.holdsType
  | _ => false

/-- The nodes in a rule have the parts of their kinds. -/
def isSound : Rule ι → Bool
  | .sequence a b => a.isSound && b.isSound
  | .choice a b => a.isSound && b.isSound
  | .many r => r.isSound
  | .enclosed _ r => r.isSound
  | .node k r => k.allows (r.fronts known) (r.holdsType known) && r.isSound
  | .attempt r => r.isSound
  | _ => true

end Rule

variable {ι : Type} {g : ι → Rule ι} {r : Rule ι} {c d : Cursor} {o : Outcome} {cs : List Char}
  {ts : List Tree} {i : Nat} {known : ι → Fronts}

/-- What is known of a phrase is so by its rule. -/
structure Rule.Known (g : ι → Rule ι) (known : ι → Fronts) : Prop where
  fronts : ∀ i, ((g i).fronts known).refines (known i) = true
  sound : ∀ i, (g i).isSound known = true

/-! ## Tokens -/

theorem longestMark_take {ms : List String} {n : Nat} (h : (longestMark ms cs).length = n + 1) :
    cs.take (n + 1) = (longestMark ms cs).toList := by
  rcases longestMark_mem ms cs with hnone | ⟨-, hstart⟩
  · rw [hnone] at h
    cases h
  · rw [← h]
    exact (List.prefix_iff_eq_take.1 hstart).symm

/-- The lexeme of a token is as its leaf has to be. -/
theorem spells_terminal {t : Terminal} {n : Nat} (h : t.length cs = n + 1) :
    t.part.Spells (n + 1) cs := by
  cases t with
  | word =>
    unfold Terminal.length at h
    simp only at h
    split at h
    · cases h
    · exact ⟨Nat.succ_ne_zero n, h⟩
  | keyword w =>
    unfold Terminal.length at h
    simp only at h
    split at h
    · next heq => exact h ▸ eq_of_beq heq
    · cases h
  | mark wanted =>
    unfold Terminal.length at h
    simp only at h
    split at h
    · next hwanted =>
      have htake := longestMark_take h
      unfold Terminal.part
      split
      · next hpart => cases hpart
      · next hpart => cases hpart
      · next m hpart =>
        cases hpart
        exact htake.trans (congrArg _ (List.mem_singleton.1 (List.contains_iff_mem.1 hwanted)))
      · trivial
    · cases h
  | _ => trivial

/-- The next characters as one token cover the text. -/
theorem takeToken_covers {s : Part} {n blank : Nat} (hspells : s.Spells n (cs.drop (i + blank)))
    (h : takeToken n (cursorAt cs (i + blank)) = .matched ts d) :
    Covers cs [.single s] false i ts d := by
  cases h
  rw [cursorAt_advance]
  exact covers_single (Nat.le_add_right i blank) (spans_taken hspells)

theorem terminal_covers {t : Terminal} (h : t.read (cursorAt cs i) = .matched ts d) :
    Covers cs [.single t.part] false i ts d := by
  unfold Terminal.read skipBlanks at h
  rw [cursorAt_advance] at h
  simp only at h
  split at h
  · cases h
  · next n hlength => exact takeToken_covers (spells_terminal hlength) h

theorem bracket_covers {ch : Char} (h : readBracket ch (cursorAt cs i) = .matched ts d) :
    Covers cs [.single (.fixed (String.ofList [ch]))] false i ts d := by
  unfold readBracket skipBlanks at h
  rw [cursorAt_advance] at h
  simp only at h
  split at h
  · next hhead =>
    refine takeToken_covers ?_ h
    obtain ⟨r, hr⟩ := List.head?_eq_some_iff.1 hhead
    show (cursorAt cs _).rest.take 1 = (String.ofList [ch]).toList
    rw [hr, String.toList_ofList]
    rfl
  · cases h

/-! ## Rules -/

/-- What stands between brackets comes behind the opening one. -/
theorem enclosed_covers {b : Bracket} {as : Fronts} {typed : Bool} {us vs : List Tree}
    {e f : Cursor} (hopen : readBracket b.opening (cursorAt cs i) = .matched ts d)
    (h : ∀ j, d = cursorAt cs j → Covers cs as typed j us e)
    (hclose : readBracket b.closing e = .matched vs f) :
    Covers cs [⟨[.fixed (String.ofList [b.opening])], false⟩] typed i (ts ++ us ++ vs) f := by
  have hbehind : ∀ j, d = cursorAt cs j → Covers cs [.unknown] typed j (us ++ vs) f := by
    intro j hj
    have hboth := covers_append (h j hj) fun j' hj' => bracket_covers (hj' ▸ hclose)
    rw [Bool.or_false] at hboth
    exact hboth.unknown
  rw [List.append_assoc]
  exact covers_append (bracket_covers hopen) hbehind

/-- **The trees of a rule** cover what was read, and their first parts are as the rule tells. -/
theorem runs_covers (hg : Rule.Known g known) (h : Runs g r c o) (ho : o = .matched ts d)
    (hc : c = cursorAt cs i) (hr : r.isSound known = true) :
    Covers cs (r.fronts known) (r.holdsType known) i ts d := by
  have hmatches := matches_of_runs h ho
  clear h ho
  -- along the reading: the trees of a rule are made of those of its parts
  induction hmatches generalizing i with
  | terminal h => exact terminal_covers (hc ▸ h)
  | sequence ha hb iha ihb =>
    obtain ⟨hra, hrb⟩ := Bool.and_eq_true_iff.1 hr
    exact covers_append (iha hc hra) fun j hj => ihb hj hrb
  | left ha ih =>
    obtain ⟨hra, -⟩ := Bool.and_eq_true_iff.1 hr
    exact (ih hc hra).mono (fun _ => Fronts.describes_left) fun h => (Bool.and_eq_true_iff.1 h).1
  | right hb ih =>
    obtain ⟨-, hrb⟩ := Bool.and_eq_true_iff.1 hr
    exact (ih hc hrb).mono (fun _ => Fronts.describes_right) fun h => (Bool.and_eq_true_iff.1 h).2
  | done r c =>
    rw [hc]
    exact (covers_nil cs (Nat.le_refl i)).unknown
  | again h hm ih ihm =>
    exact (covers_append (ih hc hr) fun j hj => ihm hj hr).unknown.untyped
  | enclosed hopen h hclose ih =>
    exact enclosed_covers (hc ▸ hopen) (fun j hj => ih hj hr) hclose
  | node h ih =>
    obtain ⟨hallows, hr⟩ := Bool.and_eq_true_iff.1 hr
    exact (covers_group hallows (ih hc hr)).holdType
  | phrase h ih =>
    rename_i p c d ts
    have hphrase := (ih hc (hg.sound p)).untyped
    exact (hphrase.mono (fun _ hss => hss.refines (hg.fronts p)) id).holdType
  | attempt h ih => exact ih hc hr
  | empty c | look p r c | sameLine c | beforeOpening b c | beforeClosing b c =>
    rw [hc]
    exact covers_nil cs (Nat.le_refl i)

/-! ## The grammar of Go -/

/-- What is known of the parts of a phrase: a type is one node, and parameters stand in brackets. -/
def Phrase.fronts : Phrase → Fronts
  | .type _ => Kind.types.map fun k => .single (.node k)
  | .parameters => [⟨[.fixed "("], false⟩]
  | _ => [.unknown]

theorem known_grammar : Rule.Known grammar Phrase.fronts where
  fronts i := by rcases i with (_ | _) | _ | ⟨_ | _, _ | _⟩ | _ | _ | _ | _ <;> decide
  sound i := by rcases i with (_ | _) | _ | ⟨_ | _, _ | _⟩ | _ | _ | _ | _ <;> decide

/-- The trees of a text that the grammar takes. -/
theorem spans_of_trees (h : trees? cs = some ts) : ∃ ss j, SpansAll cs ss 0 ts j := by
  obtain ⟨d, hruns, -⟩ := trees?_eq_some.1 h
  have hsound : sourceFile.isSound Phrase.fronts = true := by decide
  obtain ⟨ss, j, -, hts, -⟩ := runs_covers known_grammar hruns rfl (cursorAt_zero cs).symm hsound
  exact ⟨ss, j, hts⟩

end SdkGen.Go
