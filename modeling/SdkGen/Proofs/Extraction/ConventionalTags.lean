import Mathlib.Data.List.TakeWhile
import SdkGen.Proofs.Extraction.WireNames

/-!
# Conventional tags

A conventional tag is made of pairs of a key and a quoted value, with single spaces between them.
The JSON entry is not looked for among the keys: it starts behind the first `json:` of the whole
tag, which may also be the end of a longer key, or stand within a value.

* `Pair`, `literalOf`: the pairs of a tag, and the raw literal that is written for them.
* `Pair.HoldsEntry`, `Pair.entryValue?`: whether a pair is taken for the JSON entry, and what is
  read from it.
* `jsonValue?_literalOf`: the entry is that of the first pair that is taken for it.
* `json?_conventional`: which tags have no entry, and where the entry is that of the key `json`.
-/

namespace SdkGen.StructTag

open Occurrence (splitFirst splitFirst_eq_some splitFirst_eq_none splitFirst_before
  splitFirst_behind)

/-- None of the characters is in the text. -/
def Lacks (cs : List Char) (s : String) : Prop := ∀ c ∈ s.toList, c ∉ cs

instance (cs : List Char) (s : String) : Decidable (Lacks cs s) :=
  decidable_of_iff ((s.toList.all fun c => !cs.contains c) = true) (by simp [Lacks])

/-- A pair of a conventional tag. -/
structure Pair where
  key : String
  value : String
  key_ne : key ≠ ""
  key_plain : Lacks [' ', ':', '"', '\x60'] key
  value_plain : Lacks ['"', '\\', '\x60'] value

/-- The name of the entry, as a key. -/
def entryKey : List Char := ['j', 's', 'o', 'n']

/-- What the entry is looked for by. -/
def entryStart : List Char := entryKey ++ [':']

namespace Pair

/-- The pair as it is written. -/
def written (p : Pair) : String := p.key ++ ":\"" ++ p.value ++ "\""

/-- The pair is taken for the JSON entry: its key ends like the entry's, or the start of an entry
stands in its value. -/
def HoldsEntry (p : Pair) : Prop :=
  entryKey <:+ p.key.toList ∨ entryStart <:+: p.value.toList

/-- What is read from a pair that is taken for the entry: its value, or what stands behind the start
of an entry there, in both cases up to the first space. -/
def entryValue? (p : Pair) : Option (List Char) :=
  if entryKey <:+ p.key.toList then some (p.value.toList.takeWhile (· ≠ ' '))
  else (splitFirst entryStart p.value.toList).map fun parts => parts.2.takeWhile (· ≠ ' ')

end Pair

/-- The text of some pairs, with single spaces between them. -/
def textOf (pairs : List Pair) : String := " ".intercalate (pairs.map Pair.written)

/-- The raw literal of some pairs. -/
def literalOf (pairs : List Pair) : String := "\x60" ++ textOf pairs ++ "\x60"

variable {p : Pair} {pairs : List Pair} {cs rest name : List Char}

/-! ## The text of a literal -/

/-- What stands between two marks is found, whatever it is. -/
theorem between_marked (mark : Char) (cs : List Char) :
    between mark (mark :: (cs ++ [mark])) = some cs := by
  have hopen : Occurrence.dropPrefix [mark] (mark :: (cs ++ [mark])) = some (cs ++ [mark]) :=
    Occurrence.dropPrefix_eq_some.2 rfl
  have hclose : Occurrence.dropPrefix [mark].reverse (cs ++ [mark]).reverse = some cs.reverse :=
    Occurrence.dropPrefix_eq_some.2 (by simp)
  unfold between
  rw [hopen]
  dsimp only
  unfold Occurrence.dropSuffix
  rw [hclose, Option.map_some, List.reverse_reverse]

/-- The text between two raw quotes is what stands between them. -/
theorem unquote_raw (s : String) : unquote ("\x60" ++ s ++ "\x60") = s := by
  have hmark : "\x60".toList = ['\x60'] := rfl
  have hliteral : ("\x60" ++ s ++ "\x60").toList = '\x60' :: (s.toList ++ ['\x60']) := by
    rw [String.toList_append, String.toList_append, hmark, List.append_assoc, List.singleton_append]
  unfold unquote
  rw [hliteral, between_marked]
  exact String.ofList_toList

theorem toList_written (p : Pair) :
    p.written.toList = p.key.toList ++ [':'] ++ '"' :: (p.value.toList ++ ['"']) := by
  have hopen : ":\"".toList = [':', '"'] := rfl
  have hclose : "\"".toList = ['"'] := rfl
  unfold Pair.written
  simp only [String.toList_append, hopen, hclose, List.append_assoc, List.cons_append,
    List.nil_append]

/-- The text of some pairs from the first one on: the others, if any, stand behind a space. -/
theorem toList_textOf (p : Pair) (pairs : List Pair) :
    ∃ rest, (textOf (p :: pairs)).toList = p.written.toList ++ rest ∧
      rest = if pairs = [] then [] else ' ' :: (textOf pairs).toList := by
  unfold textOf
  cases pairs with
  | nil => exact ⟨[], by simp⟩
  | cons q qs =>
    have hspace : " ".toList = [' '] := rfl
    refine ⟨_, ?_, rfl⟩
    rw [if_neg (List.cons_ne_nil _ _)]
    simp only [String.toList_intercalate, List.map_cons, List.intercalate_cons_cons, hspace,
      List.append_assoc, List.cons_append, List.nil_append]

/-! ## Where an entry starts -/

/-- In a key with its colon an entry starts only where the key ends like that of an entry. -/
theorem splitFirst_key (p : Pair) :
    (entryKey <:+ p.key.toList →
        ∃ before, splitFirst entryStart (p.key.toList ++ [':']) = some (before, [])) ∧
      (¬ entryKey <:+ p.key.toList → splitFirst entryStart (p.key.toList ++ [':']) = none) := by
  have hcolon : ':' ∉ p.key.toList := fun h => p.key_plain ':' h (by decide)
  -- the colon of the key is its only one, so what is found ends with it
  have hends : ∀ before after, p.key.toList ++ [':'] = before ++ (entryStart ++ after) →
      after = [] ∧ p.key.toList = before ++ entryKey := by
    intro before after heq
    have hafter : after = [] := by
      by_contra hne
      obtain ⟨front, last, hlast⟩ := (List.eq_nil_or_concat after).resolve_left hne
      rw [hlast, List.concat_eq_append, ← List.append_assoc, ← List.append_assoc] at heq
      have hkey := (List.append_inj' heq rfl).1
      apply hcolon
      rw [hkey]
      simp [entryStart]
    subst hafter
    have hkey : p.key.toList ++ [':'] = (before ++ entryKey) ++ [':'] := by
      rw [heq, List.append_nil, entryStart, List.append_assoc]
    exact ⟨rfl, List.append_cancel_right hkey⟩
  constructor
  · rintro ⟨front, hfront⟩
    cases hsplit : splitFirst entryStart (p.key.toList ++ [':']) with
    | none =>
      have hmissing := splitFirst_eq_none.1 hsplit
      refine absurd ⟨front, [], ?_⟩ hmissing
      rw [← hfront, List.append_nil, entryStart, List.append_assoc]
    | some parts =>
      obtain ⟨before, after⟩ := parts
      obtain ⟨rfl, -⟩ := hends _ _ (splitFirst_eq_some hsplit)
      exact ⟨before, rfl⟩
  · intro hkey
    rw [splitFirst_eq_none]
    rintro ⟨before, after, heq⟩
    rw [List.append_assoc] at heq
    exact hkey ⟨before, (hends _ _ heq.symm).2.symm⟩

/-- **The first entry of a text that starts with a pair** is that of the pair, or is behind it. -/
theorem splitFirst_pair (p : Pair) (rest : List Char) :
    (splitFirst entryStart (p.written.toList ++ rest)).map Prod.snd =
      if entryKey <:+ p.key.toList then some ('"' :: (p.value.toList ++ '"' :: rest))
      else match splitFirst entryStart p.value.toList with
        | some parts => some (parts.2 ++ '"' :: rest)
        | none => (splitFirst entryStart rest).map Prod.snd := by
  have hquote : '"' ∉ entryStart := by decide
  have hstart : entryStart ≠ [] := by decide
  have htext : p.written.toList ++ rest =
      (p.key.toList ++ [':']) ++ '"' :: (p.value.toList ++ '"' :: rest) := by
    rw [toList_written]
    simp only [List.append_assoc, List.cons_append, List.nil_append]
  obtain ⟨hfound, hmissing⟩ := splitFirst_key p
  rw [htext]
  by_cases hkey : entryKey <:+ p.key.toList
  · obtain ⟨before, hbefore⟩ := hfound hkey
    rw [if_pos hkey, splitFirst_before hquote hbefore]
    rfl
  · rw [if_neg hkey, splitFirst_behind hquote hstart (hmissing hkey), Option.map_map]
    -- the quotes part the value from what stands around it
    cases hvalue : splitFirst entryStart p.value.toList with
    | some parts =>
      obtain ⟨before, after⟩ := parts
      rw [splitFirst_before hquote hvalue]
      rfl
    | none =>
      rw [splitFirst_behind hquote hstart hvalue, Option.map_map]
      rfl

/-! ## What is read as its value -/

/-- A text without quotes that ends with a quote, cut at the first space, is read up to its own
first space. -/
theorem withoutQuotes_cut (hcs : '"' ∉ cs) (hrest : ∀ c ∈ rest.head?, c = ' ') :
    withoutQuotes ((cs ++ '"' :: rest).takeWhile (· ≠ ' ')) = cs.takeWhile (· ≠ ' ') := by
  have hplain : ∀ ds : List Char, '"' ∉ ds → withoutQuotes ds = ds ∧
      withoutQuotes (ds ++ ['"']) = ds := by
    intro ds hds
    have hstart : ∀ ds : List Char, '"' ∉ ds → ds.dropWhile (· = '"') = ds := by
      intro ds hds
      cases ds with
      | nil => rfl
      | cons d ds =>
        have hd : d ≠ '"' := fun h => hds (h ▸ List.mem_cons_self ..)
        rw [List.dropWhile_cons_of_neg (by simpa using hd)]
    have hback : '"' ∉ ds.reverse := fun h => hds (List.mem_reverse.1 h)
    constructor
    · unfold withoutQuotes
      rw [hstart ds hds, hstart _ hback, List.reverse_reverse]
    · unfold withoutQuotes
      cases ds with
      | nil => rfl
      | cons d ds =>
        have hd : d ≠ '"' := fun h => hds (h ▸ List.mem_cons_self ..)
        rw [List.cons_append, List.dropWhile_cons_of_neg (by simpa using hd), ← List.cons_append,
          List.reverse_append]
        change (((d :: ds).reverse).dropWhile (· = '"')).reverse = _
        rw [hstart _ hback, List.reverse_reverse]
  have hcut : '"' ∉ cs.takeWhile (· ≠ ' ') := fun h => hcs (List.takeWhile_subset _ h)
  by_cases hspace : ' ' ∈ cs
  · -- the text is cut at its own space, before the quote
    have hshort : (cs.takeWhile (· ≠ ' ')).length ≠ cs.length := by
      intro hlength
      have hall := List.takeWhile_eq_self_iff.1
        ((List.takeWhile_prefix _).eq_of_length hlength) ' ' hspace
      simp at hall
    rw [List.takeWhile_append, if_neg hshort]
    exact (hplain _ hcut).1
  · have hall : ∀ c ∈ cs, (decide (c ≠ ' ')) = true := by
      intro c hc
      have hne : c ≠ ' ' := fun h => hspace (h ▸ hc)
      simpa using hne
    have hend : ('"' :: rest).takeWhile (· ≠ ' ') = ['"'] := by
      cases rest with
      | nil => rfl
      | cons c rest =>
        obtain rfl : c = ' ' := hrest c rfl
        rfl
    rw [List.takeWhile_append_of_pos hall, hend, (hplain cs hcs).2,
      List.takeWhile_eq_self_iff.2 hall]

theorem withoutQuotes_quote (cs : List Char) : withoutQuotes ('"' :: cs) = withoutQuotes cs := by
  unfold withoutQuotes
  rw [List.dropWhile_cons_of_pos (by simp)]

/-! ## Conventional tags -/

theorem entryValue?_isSome (p : Pair) : p.entryValue?.isSome ↔ p.HoldsEntry := by
  unfold Pair.entryValue? Pair.HoldsEntry
  by_cases hkey : entryKey <:+ p.key.toList
  · simp [hkey]
  · rw [if_neg hkey, Option.isSome_map, Option.isSome_iff_ne_none, ne_eq, splitFirst_eq_none,
      not_not]
    simp [hkey]

instance (p : Pair) : Decidable p.HoldsEntry :=
  decidable_of_iff _ (entryValue?_isSome p)

/-- **The JSON entry of a conventional tag** is that of the first pair that is taken for it. -/
theorem jsonValue?_literalOf (pairs : List Pair) :
    jsonValue? (literalOf pairs) = pairs.findSome? Pair.entryValue? := by
  have hread : jsonValue? (literalOf pairs) =
      ((splitFirst entryStart (textOf pairs).toList).map Prod.snd).map fun after =>
        withoutQuotes (after.takeWhile (· ≠ ' ')) := by
    unfold jsonValue? literalOf
    rw [unquote_raw, Option.map_map]
    rfl
  rw [hread]
  clear hread
  induction pairs with
  | nil => rfl
  | cons p pairs ih =>
    obtain ⟨rest, htext, hrest⟩ := toList_textOf p pairs
    have hquote : '"' ∉ p.value.toList := fun h => p.value_plain _ h (by decide)
    have hspace : ∀ c ∈ rest.head?, c = ' ' := by
      rw [hrest]
      split
      · simp
      · simp [eq_comm]
    rw [htext, splitFirst_pair, List.findSome?_cons, Pair.entryValue?.eq_1 p]
    by_cases hkey : entryKey <:+ p.key.toList
    · simp only [if_pos hkey, Option.map_some]
      rw [List.takeWhile_cons_of_pos (by decide), withoutQuotes_quote,
        withoutQuotes_cut hquote hspace]
    · simp only [if_neg hkey]
      cases hvalue : splitFirst entryStart p.value.toList with
      | some parts =>
        obtain ⟨before, after⟩ := parts
        have hparts : '"' ∉ after := by
          intro h
          apply hquote
          rw [splitFirst_eq_some hvalue]
          exact List.mem_append_right _ (List.mem_append_right _ h)
        simp only [Option.map_some]
        rw [withoutQuotes_cut hparts hspace]
      | none =>
        -- the entry is that of the other pairs
        simp only [Option.map_none]
        rw [← ih, hrest]
        split
        · next hlast =>
          subst hlast
          rfl
        · have hfront : splitFirst entryStart [] = none := by decide
          have hspace : ' ' ∉ entryStart := by decide
          have hbehind : splitFirst entryStart (' ' :: (textOf pairs).toList) = _ :=
            splitFirst_behind hspace (by decide) hfront
          rw [hbehind]
          simp only [Option.map_map]
          rfl

/-- A value that is a name without a comma is the name, and with the option behind it the name of
an optional field. -/
theorem ofValue_name (hcomma : ',' ∉ name) :
    JsonEntry.ofValue name = ⟨String.ofList name, false⟩ ∧
      JsonEntry.ofValue (name ++ omitOption) = ⟨String.ofList name, true⟩ := by
  have hnone : splitFirst omitOption name = none := by
    rw [splitFirst_eq_none]
    intro hwithin
    exact hcomma (hwithin.subset (by decide))
  have hsome : splitFirst omitOption (name ++ omitOption) = some (name, []) := by
    clear hnone
    induction name with
    | nil => decide
    | cons c name ih =>
      rw [List.mem_cons, not_or] at hcomma
      obtain ⟨hc, hrest⟩ := hcomma
      have hhere : Occurrence.dropPrefix omitOption (c :: (name ++ omitOption)) = none := by
        unfold omitOption
        rw [Occurrence.dropPrefix, if_neg hc]
      rw [List.cons_append, Occurrence.splitFirst_cons, hhere]
      dsimp only
      rw [ih hrest]
      rfl
  unfold JsonEntry.ofValue
  rw [hnone, hsome]
  dsimp only
  rw [List.append_nil]
  exact ⟨rfl, rfl⟩

/-- **The entry of a conventional tag.** There is none if and only if no key ends in `json` and
`json:` stands in no value. The pair with the key `json` gives the name that is its value, and
tells by the option behind it that the field is optional, whatever pairs stand behind it, if no pair
before it is taken for the entry. -/
theorem json?_conventional (pairs : List Pair) :
    (json? (literalOf pairs) = none ↔ ∀ p ∈ pairs, ¬ p.HoldsEntry) ∧
      ∀ before p after, pairs = before ++ p :: after → p.key = "json" →
        (∀ q ∈ before, ¬ q.HoldsEntry) →
        ∀ name : String, ',' ∉ name.toList → ' ' ∉ name.toList →
          (p.value = name → json? (literalOf pairs) = some ⟨name, false⟩) ∧
          (p.value = name ++ ",omitempty" → json? (literalOf pairs) = some ⟨name, true⟩) := by
  have hentry : json? (literalOf pairs) = (pairs.findSome? Pair.entryValue?).map .ofValue := by
    rw [json?_eq, jsonValue?_literalOf]
  have hholds : ∀ q : Pair, q.entryValue? = none ↔ ¬ q.HoldsEntry := by
    intro q
    rw [← entryValue?_isSome, Option.not_isSome_iff_eq_none]
  constructor
  · rw [hentry, Option.map_eq_none_iff, List.findSome?_eq_none_iff]
    exact forall₂_congr fun q _ => hholds q
  · rintro before p after rfl hkey hbefore name hcomma hspace
    have hnone : before.findSome? Pair.entryValue? = none :=
      List.findSome?_eq_none_iff.2 fun q hq => (hholds q).2 (hbefore q hq)
    have hvalue : p.entryValue? = some (p.value.toList.takeWhile (· ≠ ' ')) := by
      unfold Pair.entryValue?
      rw [if_pos (by rw [hkey]; decide)]
    rw [hentry, List.findSome?_append, hnone, Option.none_or, List.findSome?_cons, hvalue]
    obtain ⟨hplain, hoption⟩ := ofValue_name hcomma
    rw [String.ofList_toList] at hplain hoption
    have huncut : ∀ cs : List Char, ' ' ∉ cs → cs.takeWhile (· ≠ ' ') = cs := by
      intro cs hcs
      refine List.takeWhile_eq_self_iff.2 fun c hc => ?_
      have hne : c ≠ ' ' := fun h => hcs (h ▸ hc)
      simpa using hne
    constructor
    · intro hname
      rw [hname, huncut _ hspace]
      exact congrArg some hplain
    · intro hname
      have htext : (name ++ ",omitempty").toList = name.toList ++ omitOption := by
        rw [String.toList_append]
        rfl
      have hlong : ' ' ∉ name.toList ++ omitOption := by
        rw [List.mem_append, not_or]
        exact ⟨hspace, by decide⟩
      rw [hname, htext, huncut _ hlong]
      exact congrArg some hoption

/-- A tag of three pairs, where the one behind the key `json` has the text of an entry in its
value. -/
theorem json?_of_three :
    literalOf [⟨"gorm", "size:255;not null", by decide, by decide, by decide⟩,
        ⟨"json", "bio,omitempty", by decide, by decide, by decide⟩,
        ⟨"validate", "json:x", by decide, by decide, by decide⟩] =
      "\x60gorm:\"size:255;not null\" json:\"bio,omitempty\" validate:\"json:x\"\x60" ∧
    (∀ q ∈ [(⟨"gorm", "size:255;not null", by decide, by decide, by decide⟩ : Pair)],
      ¬ q.HoldsEntry) ∧
    ',' ∉ "bio".toList ∧ ' ' ∉ "bio".toList ∧ "bio,omitempty" = "bio" ++ ",omitempty" ∧
    json? (literalOf [⟨"gorm", "size:255;not null", by decide, by decide, by decide⟩,
      ⟨"json", "bio,omitempty", by decide, by decide, by decide⟩,
      ⟨"validate", "json:x", by decide, by decide, by decide⟩]) = some ⟨"bio", true⟩ := by
  have hbefore : ∀ q ∈ [(⟨"gorm", "size:255;not null", by decide, by decide, by decide⟩ : Pair)],
      ¬ q.HoldsEntry := by decide
  have hcomma : ',' ∉ "bio".toList := by decide
  have hspace : ' ' ∉ "bio".toList := by decide
  have hvalue : "bio,omitempty" = "bio" ++ ",omitempty" := by decide
  refine ⟨rfl, hbefore, hcomma, hspace, hvalue, ?_⟩
  exact ((json?_conventional _).2 [_] _ _ rfl rfl hbefore "bio" hcomma hspace).2 hvalue

/-- A longer key that ends in `json` is taken for the entry, and so is the text of an entry in the
value of a pair before it. -/
theorem json?_not_by_key :
    json? (literalOf [⟨"xjson", "a", by decide, by decide, by decide⟩]) = some ⟨"a", false⟩ ∧
    json? (literalOf [⟨"gorm", "json:x", by decide, by decide, by decide⟩,
      ⟨"json", "id", by decide, by decide, by decide⟩]) = some ⟨"x", false⟩ := by
  constructor
  · rw [json?_eq, jsonValue?_literalOf]
    decide
  · rw [json?_eq, jsonValue?_literalOf]
    decide

end SdkGen.StructTag
