import SdkGen.Proofs.Go.Runs

/-!
# What lies between two cursors

A rule that is matched has read tokens, and between brackets again tokens and brackets.

* `Reads`: the tokens and brackets between two cursors.
* `matches_reads`: a matched rule has read such.
-/

namespace SdkGen.Go

/-- From one cursor to another there are only tokens, and brackets that are closed. -/
inductive Reads : Cursor → Cursor → Prop
  | refl (c : Cursor) : Reads c c
  | token {t : Terminal} {c d : Cursor} {ts : List Tree} (h : t.read c = .matched ts d) : Reads c d
  | trans {c d e : Cursor} (h : Reads c d) (h' : Reads d e) : Reads c e
  | enclosed {b : Bracket} {c d e f : Cursor} {us vs : List Tree}
      (hopen : readBracket b.opening c = .matched us d) (h : Reads d e)
      (hclose : readBracket b.closing e = .matched vs f) : Reads c f

variable {ι : Type} {g : ι → Rule ι} {c d : Cursor}

/-- **A matched rule has read tokens and closed brackets.** -/
theorem matches_reads {r : Rule ι} {ts : List Tree} (h : Matches g r c ts d) : Reads c d := by
  induction h with
  | terminal h => exact .token h
  | sequence ha hb iha ihb => exact iha.trans ihb
  | left ha ih => exact ih
  | right hb ih => exact ih
  | again h hm ih ihm => exact ih.trans ihm
  | enclosed hopen h hclose ih => exact .enclosed hopen ih hclose
  | node h ih => exact ih
  | phrase h ih => exact ih
  | attempt h ih => exact ih
  | empty c | done r c | look p r c | sameLine c | beforeOpening b c | beforeClosing b c =>
    exact .refl c

end SdkGen.Go
