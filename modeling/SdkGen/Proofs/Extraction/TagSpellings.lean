import SdkGen.Proofs.Extraction.ConventionalTags
import SdkGen.Proofs.Go.Literal

/-!
# The spellings of a tag

A tag is written as a raw literal, or as an interpreted one with escapes. Both are read as the text
they were written for, and so nothing that is made of a tag depends on its spelling.

* `interpretedOf`, `rawOf`: the literals of a text.
* `decode_piece`: the escape of a character is read as the character, whatever follows it.
* `unquote_interpretedOf`, `unquote_rawOf`: what is read is what was written.
* `spellings_agree`: both spellings of a tag give one entry, and one field.
-/

namespace SdkGen.StructTag

open Go (TextPiece TextLiteral)

/-- A character in an interpreted literal: quotes, backslashes, line feeds, tabs and carriage
returns are escaped, and all others stand for themselves. -/
def pieceOf (c : Char) : TextPiece :=
  if c = '"' then .escape '"'
  else if c = '\\' then .escape '\\'
  else if c = '\n' then .escape 'n'
  else if c = '\t' then .escape 't'
  else if c = '\r' then .escape 'r'
  else .char c

/-- The interpreted literal of a text. -/
def interpretedOf (s : String) : TextLiteral := .interpreted (s.toList.map pieceOf)

/-- The raw literal of a text. -/
def rawOf (s : String) : TextLiteral := .raw s.toList

/-- A literal as it stands in a source file. -/
def spelled (l : TextLiteral) : String := String.ofList l.written

theorem isSound_piece (c : Char) : (pieceOf c).IsSound := by
  have hescape : ∀ c, (TextPiece.digitsOf.map Prod.fst).contains c = false →
      (TextPiece.escape c).IsSound := by
    intro c hc hmem
    rw [List.contains_iff_mem.2 hmem] at hc
    cases hc
  unfold pieceOf
  split
  · exact hescape _ rfl
  split
  · exact hescape _ rfl
  split
  · exact hescape _ rfl
  split
  · exact hescape _ rfl
  split
  · exact hescape _ rfl
  · next hquote hbackslash hfeed _ _ => exact ⟨hquote, hbackslash, hfeed⟩

/-- A text can be written as an interpreted literal. -/
theorem isSound_interpretedOf (s : String) : (interpretedOf s).IsSound := by
  intro t ht
  obtain ⟨c, -, rfl⟩ := List.mem_map.1 ht
  exact isSound_piece c

/-- A text can be written as a raw literal if it has no raw quote. -/
theorem isSound_rawOf_iff (s : String) : (rawOf s).IsSound ↔ '\x60' ∉ s.toList :=
  ⟨fun h hmem => h _ hmem rfl, fun h _ hc => ne_of_mem_of_not_mem hc h⟩

/-- **An escape is read as the character it stands for**, whatever follows it. -/
theorem decode_piece (c : Char) (r : List Char) :
    decode ((pieceOf c).written ++ r) = c :: decode r := by
  unfold pieceOf
  split
  · next h => subst h; rfl
  split
  · next h => subst h; rfl
  split
  · next h => subst h; rfl
  split
  · next h => subst h; rfl
  split
  · next h => subst h; rfl
  · next hbackslash _ _ _ =>
    -- a character that is no backslash takes nothing of what follows
    rw [TextPiece.written, List.singleton_append, decode.eq_2]
    rintro d s rfl
    exact fun _ => hbackslash rfl

theorem decode_pieces (cs : List Char) :
    decode ((cs.map pieceOf).flatMap TextPiece.written) = cs := by
  induction cs with
  | nil => rfl
  | cons c cs ih => rw [List.map_cons, List.flatMap_cons, decode_piece, ih]

/-- **An interpreted literal is read as the text it was written for.** -/
theorem unquote_interpretedOf (s : String) : unquote (spelled (interpretedOf s)) = s := by
  have hliteral : (spelled (interpretedOf s)).toList =
      '"' :: ((s.toList.map pieceOf).flatMap TextPiece.written ++ ['"']) := String.toList_ofList
  have hraw : between '\x60' (spelled (interpretedOf s)).toList = none := by
    rw [hliteral]
    rfl
  unfold unquote
  rw [hraw, hliteral, between_marked]
  dsimp only
  rw [decode_pieces, String.ofList_toList]

theorem unquote_rawOf (s : String) : unquote (spelled (rawOf s)) = s := by
  have hliteral : spelled (rawOf s) = "\x60" ++ s ++ "\x60" := by
    apply String.toList_inj.1
    simp [spelled, rawOf, TextLiteral.written]
  rw [hliteral, unquote_raw]

/-- **A tag has one entry in both spellings, and the field with it is the same.** Every text can be
written as an interpreted literal, and as a raw one unless it has a raw quote; both are read as the
text. -/
theorem spellings_agree (s : String) :
    ((interpretedOf s).IsSound ∧ unquote (spelled (interpretedOf s)) = s) ∧
      (((rawOf s).IsSound ↔ '\x60' ∉ s.toList) ∧ unquote (spelled (rawOf s)) = s) ∧
      json? (spelled (interpretedOf s)) = json? (spelled (rawOf s)) ∧
      ∀ names type pos pos',
        Field.ofSyntax? (.mk names type (some (spelled (interpretedOf s))) pos) =
          Field.ofSyntax? (.mk names type (some (spelled (rawOf s))) pos') := by
  have hentry : json? (spelled (interpretedOf s)) = json? (spelled (rawOf s)) := by
    unfold json?
    rw [unquote_interpretedOf, unquote_rawOf]
  refine ⟨⟨isSound_interpretedOf s, unquote_interpretedOf s⟩,
    ⟨isSound_rawOf_iff s, unquote_rawOf s⟩, hentry, fun names type pos pos' => ?_⟩
  have hwire : ∀ literal pos, wireTag? (.mk names type (some literal) pos) = json? literal :=
    fun _ _ => rfl
  unfold Field.ofSyntax?
  rw [hwire, hwire, hentry]
  dsimp only [Go.FieldSyntax.names, Go.FieldSyntax.type]

/-- Quotes and backslashes are escaped in an interpreted literal. -/
example : (interpretedOf "json:\"a\\\"").written = "\"json:\\\"a\\\\\\\"\"".toList := by decide

end SdkGen.StructTag
