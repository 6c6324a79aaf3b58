import SdkGen.Proofs.Json.Strings
import SdkGen.Proofs.Text.Lines
import SdkGen.Report.Flat

/-!
# What flat text says

A line of flat text tells of one scalar: the keys and indices that lead to it, and its text. What
all lines say can be read back from the text, as long as no key and no string hides where a part
of a line ends and nothing is lost to the blanks that are taken off the end.

* `entries`: what the lines of a value say, with `leaves_eq`.
* `plain_entries`: each entry goes on one line where no key and no string has a line feed.
* `dotted_inj`: different paths are dotted differently.
* `entries_of_flatText`: the text determines the entries.
* `part`: the entries behind a key, and with them `items_of_entries`: the items of an array.
-/

namespace SdkGen.Report

open Json (Value Number)

/-- What a line says: the keys and indices that lead to a scalar, and its text. -/
abbrev Entry := List String × String

/-- Entries behind one more key. -/
def under (key : String) (es : List Entry) : List Entry := es.map fun e => (key :: e.1, e.2)

mutual

/-- What the lines of a value say. -/
def entries : Value → List Entry
  | .array items => itemEntries 0 items
  | .object members => memberEntries members
  | .null => [([], scalarText .null)]
  | .bool b => [([], scalarText (.bool b))]
  | .number n => [([], scalarText (.number n))]
  | .string s => [([], s)]

/-- What the lines of an array's items say, from an index on. -/
def itemEntries (i : Nat) : List Value → List Entry
  | [] => []
  | v :: vs => under (toString i) (entries v) ++ itemEntries (i + 1) vs

/-- What the lines of an object's members say. -/
def memberEntries : List (String × Value) → List Entry
  | [] => []
  | (k, v) :: ms => under k (entries v) ++ memberEntries ms

end

/-- The path and the text of a leaf. -/
def leafText (leaf : String × Value) : String × String := (leaf.1, scalarText leaf.2)

/-- The path that an entry's keys make behind another, and the entry's text. -/
def behind (path : String) (e : Entry) : String × String := (e.1.foldl childPath path, e.2)

theorem map_behind_under (path key : String) (es : List Entry) :
    (under key es).map (behind path) = es.map (behind (childPath path key)) := by
  rw [under, List.map_map]
  rfl

mutual

/-- The leaves of a value are its entries, their keys put behind the path. -/
theorem leaves_eq (path : String) (v : Value) :
    (leaves path v).map leafText = (entries v).map (behind path) := by
  cases v with
  | array items => exact itemLeaves_eq path 0 items
  | object members => exact memberLeaves_eq path members
  | null => rfl
  | bool b => rfl
  | number n => rfl
  | string s => rfl

theorem itemLeaves_eq (path : String) (i : Nat) (vs : List Value) :
    (itemLeaves path i vs).map leafText = (itemEntries i vs).map (behind path) := by
  cases vs with
  | nil => rfl
  | cons v vs =>
    rw [itemLeaves, itemEntries, List.map_append, List.map_append, leaves_eq, map_behind_under,
      itemLeaves_eq]

theorem memberLeaves_eq (path : String) (ms : List (String × Value)) :
    (memberLeaves path ms).map leafText = (memberEntries ms).map (behind path) := by
  match ms with
  | [] => rfl
  | (k, v) :: ms =>
    rw [memberLeaves, memberEntries, List.map_append, List.map_append, leaves_eq,
      map_behind_under, memberLeaves_eq]

end

/-! ## One line for each entry -/

theorem not_mem_digits {c : Char} (hc : c.isDigit = false) (n : Nat) : c ∉ Nat.toDigits 10 n := by
  intro hmem
  have hdigit : c.isDigit = true := Nat.isDigit_of_mem_toDigits (by decide) (by decide) hmem
  rw [hc] at hdigit
  cases hdigit

/-- What is no digit is in no index. -/
theorem not_mem_index {c : Char} (hc : c.isDigit = false) (n : Nat) : c ∉ (toString n).toList := by
  rw [Nat.toString_eq_ofList_toDigits, String.toList_ofList]
  exact not_mem_digits hc n

theorem index_inj {m n : Nat} (h : toString m = toString n) : m = n := by
  rw [Nat.toString_eq_ofList_toDigits, Nat.toString_eq_ofList_toDigits] at h
  have hdigits : Nat.toDigits 10 m = Nat.toDigits 10 n := String.ofList_injective h
  rw [← Nat.ofDigitChars_ten_toDigits (n := m), hdigits, Nat.ofDigitChars_ten_toDigits]

theorem not_newline_decimal (d : Decimal) : '\n' ∉ (Number.decimalText d).toList := by
  have hdigits : ∀ n, '\n' ∉ Nat.toDigits 10 n := not_mem_digits rfl
  have htake : ∀ k n, '\n' ∉ (Nat.toDigits 10 n).take k :=
    fun k n h => hdigits n (List.mem_of_mem_take h)
  have hdrop : ∀ k n, '\n' ∉ (Nat.toDigits 10 n).drop k :=
    fun k n h => hdigits n (List.mem_of_mem_drop h)
  have hself : ∀ s : String, toString s = s := fun _ => rfl
  unfold Number.decimalText Json.zeros
  dsimp only
  -- positional, with a point behind, before or among the digits, or with an exponent
  split
  · split
    · simp [hself, hdigits]
    · split <;> simp [hself, hdigits, htake, hdrop]
  · split <;> split <;> simp [hself, hdigits, htake, hdrop, -List.drop_one]

/-- The text of a number goes on one line. -/
theorem not_newline_number (n : Number) : '\n' ∉ n.text.toList := by
  cases n with
  | integer n =>
    have hdigits : ∀ n, '\n' ∉ Nat.toDigits 10 n := not_mem_digits rfl
    rw [Number.text, Int.toString_eq_repr, Int.repr_eq_if]
    split <;> simp [hdigits]
  | float bits =>
    unfold Number.text
    dsimp only
    split
    · decide
    · split <;> split <;> simp [not_newline_decimal]

/-- The keys of an entry are as they should be, and its text goes on one line. -/
def Plain (P : String → Prop) (e : Entry) : Prop := (∀ k ∈ e.1, P k) ∧ '\n' ∉ e.2.toList

section

variable {P : String → Prop}

theorem plain_scalar {s : String} (h : '\n' ∉ s.toList) : ∀ e ∈ [(([], s) : Entry)], Plain P e := by
  intro e he
  rw [List.mem_singleton.1 he]
  exact ⟨nofun, h⟩

theorem plain_under {key : String} {es : List Entry} (hkey : P key) (h : ∀ e ∈ es, Plain P e) :
    ∀ e ∈ under key es, Plain P e := by
  intro e he
  obtain ⟨e', he', rfl⟩ := List.mem_map.1 he
  exact ⟨List.forall_mem_cons.2 ⟨hkey, (h e' he').1⟩, (h e' he').2⟩

mutual

/-- The entries are plain if the keys and strings of the value are, and all indices. -/
theorem plain_entries (hindex : ∀ n : Nat, P (toString n)) (v : Value) (hkeys : ∀ k ∈ v.keys, P k)
    (htexts : ∀ s ∈ v.texts, '\n' ∉ s.toList) : ∀ e ∈ entries v, Plain P e := by
  cases v with
  | array items => exact plain_itemEntries hindex 0 items hkeys htexts
  | object members => exact plain_memberEntries hindex members hkeys htexts
  | null => exact plain_scalar (by decide)
  | bool b =>
    refine plain_scalar ?_
    cases b <;> decide
  | number n => exact plain_scalar (not_newline_number n)
  | string s => exact plain_scalar (htexts s List.mem_cons_self)

theorem plain_itemEntries (hindex : ∀ n : Nat, P (toString n)) (i : Nat) (vs : List Value)
    (hkeys : ∀ k ∈ (Value.array vs).keys, P k)
    (htexts : ∀ s ∈ (Value.array vs).texts, '\n' ∉ s.toList) :
    ∀ e ∈ itemEntries i vs, Plain P e := by
  cases vs with
  | nil => exact nofun
  | cons v vs =>
    obtain ⟨hkeys, hkeys'⟩ := List.forall_mem_append.1 hkeys
    obtain ⟨htexts, htexts'⟩ := List.forall_mem_append.1 htexts
    rw [itemEntries, List.forall_mem_append]
    exact ⟨plain_under (hindex i) (plain_entries hindex v hkeys htexts),
      plain_itemEntries hindex (i + 1) vs hkeys' htexts'⟩

theorem plain_memberEntries (hindex : ∀ n : Nat, P (toString n)) (ms : List (String × Value))
    (hkeys : ∀ k ∈ (Value.object ms).keys, P k)
    (htexts : ∀ s ∈ (Value.object ms).texts, '\n' ∉ s.toList) :
    ∀ e ∈ memberEntries ms, Plain P e := by
  match ms with
  | [] => exact nofun
  | (k, v) :: ms =>
    obtain ⟨hmember, hkeys'⟩ := List.forall_mem_append.1 hkeys
    obtain ⟨hkey, hkeys⟩ := List.forall_mem_cons.1 hmember
    obtain ⟨htexts, htexts'⟩ := List.forall_mem_append.1 htexts
    rw [memberEntries, List.forall_mem_append]
    exact ⟨plain_under hkey (plain_entries hindex v hkeys htexts),
      plain_memberEntries hindex ms hkeys' htexts'⟩

end

end

/-! ## Paths -/

/-- A key that stays apart from others in a dotted path. -/
structure IsKey (k : String) : Prop where
  nonempty : k ≠ ""
  dotless : '.' ∉ k.toList
  newlineless : '\n' ∉ k.toList

instance (k : String) : Decidable (IsKey k) :=
  decidable_of_iff (k ≠ "" ∧ '.' ∉ k.toList ∧ '\n' ∉ k.toList)
    ⟨fun h => ⟨h.1, h.2.1, h.2.2⟩, fun h => ⟨h.1, h.2, h.3⟩⟩

theorem isKey_index (n : Nat) : IsKey (toString n) where
  nonempty := Nat.repr_ne_empty
  dotless := not_mem_index rfl n
  newlineless := not_mem_index rfl n

/-- The keys of a path with dots between them. -/
def dotted (p : List String) : String := ".".intercalate p

theorem foldl_childPath {path : String} (hpath : path ≠ "") (p : List String) :
    p.foldl childPath path = dotted (path :: p) := by
  unfold dotted
  induction p generalizing path with
  | nil => rw [List.foldl_nil, String.intercalate_singleton]
  | cons k p ih =>
    have hchild : childPath path k = path ++ "." ++ k := if_neg hpath
    have hne : path ++ "." ++ k ≠ "" := by simp
    rw [List.foldl_cons, hchild, ih hne, String.intercalate_cons_cons]
    cases p with
    | nil => rw [String.intercalate_singleton, String.intercalate_singleton]
    | cons k' p =>
      rw [String.intercalate_cons_cons, String.intercalate_cons_cons]
      simp only [String.append_assoc]

/-- The path of an entry is dotted. -/
theorem behind_empty {e : Entry} (h : ∀ k ∈ e.1, k ≠ "") : behind "" e = (dotted e.1, e.2) := by
  obtain ⟨p, s⟩ := e
  unfold behind
  cases p with
  | nil => rfl
  | cons k p =>
    have hchild : childPath "" k = k := if_pos rfl
    rw [List.foldl_cons, hchild, foldl_childPath (h k List.mem_cons_self)]

theorem mem_dotted {c : Char} (hc : c ≠ '.') {p : List String} (h : c ∈ (dotted p).toList) :
    ∃ k ∈ p, c ∈ k.toList := by
  unfold dotted at h
  induction p with
  | nil =>
    rw [String.intercalate_nil] at h
    cases h
  | cons k p ih =>
    cases p with
    | nil =>
      rw [String.intercalate_singleton] at h
      exact ⟨k, List.mem_cons_self, h⟩
    | cons k' p =>
      rw [String.intercalate_cons_cons, String.toList_append, String.toList_append,
        List.mem_append, List.mem_append] at h
      rcases h with (h | h) | h
      · exact ⟨k, List.mem_cons_self, h⟩
      · exact absurd (List.mem_singleton.1 h) hc
      · obtain ⟨k'', hk'', hmem⟩ := ih h
        exact ⟨k'', List.mem_cons_of_mem _ hk'', hmem⟩

theorem dotted_eq_empty {p : List String} (hp : ∀ k ∈ p, k ≠ "") (h : dotted p = "") : p = [] := by
  unfold dotted at h
  match p with
  | [] => rfl
  | [k] =>
    rw [String.intercalate_singleton] at h
    exact absurd h (hp k List.mem_cons_self)
  | k :: k' :: p =>
    rw [String.intercalate_cons_cons] at h
    simp at h

/-- **Different paths are dotted differently.** -/
theorem dotted_inj {p q : List String} (hp : ∀ k ∈ p, IsKey k) (hq : ∀ k ∈ q, IsKey k)
    (h : dotted p = dotted q) : p = q := by
  -- no path at all and one empty key would be dotted alike, but no key is empty
  by_cases hempty : p = []
  · rw [hempty] at h ⊢
    exact (dotted_eq_empty (fun k hk => (hq k hk).nonempty) h.symm).symm
  by_cases hempty' : q = []
  · rw [hempty'] at h ⊢
    exact dotted_eq_empty (fun k hk => (hp k hk).nonempty) h
  have hsplit : ∀ r : List String, r ≠ [] → (∀ k ∈ r, IsKey k) →
      (dotted r).toList.splitOn '.' = r.map String.toList := by
    intro r hr hkeys
    unfold dotted
    rw [String.toList_intercalate]
    refine List.splitOn_intercalate '.' ?_ (by simpa using hr)
    intro w hw
    obtain ⟨k, hk, rfl⟩ := List.mem_map.1 hw
    exact (hkeys k hk).dotless
  have hkeys : p.map String.toList = q.map String.toList := by
    rw [← hsplit p hempty hp, h, hsplit q hempty' hq]
  exact (List.map_inj_right fun _ _ => String.toList_inj.1).1 hkeys

/-! ## Reading the lines -/

/-- The line of an entry, without its end. -/
def entryLine (e : Entry) : List Char := (dotted e.1).toList ++ ' ' :: '=' :: ' ' :: e.2.toList

/-- The lines of a value are those of its entries. -/
theorem toList_lines {v : Value} (h : ∀ e ∈ entries v, ∀ k ∈ e.1, k ≠ "") :
    (String.join ((leaves "" v).map leafLine)).toList =
      (entries v).flatMap fun e => entryLine e ++ ['\n'] := by
  have hline : ∀ l : String × Value, (leafLine l).toList =
      (leafText l).1.toList ++ ' ' :: '=' :: ' ' :: (leafText l).2.toList ++ ['\n'] := by
    intro l
    simp [leafLine, leafText]
  have hpath : (leaves "" v).map leafText = (entries v).map fun e => (dotted e.1, e.2) := by
    rw [leaves_eq]
    exact List.map_congr_left fun e he => behind_empty (h e he)
  rw [String.toList_join, List.flatMap_map]
  calc (leaves "" v).flatMap (fun l => (leafLine l).toList)
      = ((leaves "" v).map leafText).flatMap
          fun l => l.1.toList ++ ' ' :: '=' :: ' ' :: l.2.toList ++ ['\n'] := by
        rw [List.flatMap_map]
        simp only [hline]
    _ = (entries v).flatMap fun e => entryLine e ++ ['\n'] := by
        rw [hpath, List.flatMap_map]
        rfl

/-- What stands before the first of some character, and what stands behind it, is known from the
text. -/
theorem append_cons_inj {c : Char} {a b r s : List Char} (ha : c ∉ a) (hb : c ∉ b)
    (h : a ++ c :: r = b ++ c :: s) : a = b ∧ r = s := by
  induction a generalizing b with
  | nil =>
    cases b with
    | nil => exact ⟨rfl, (List.cons.inj h).2⟩
    | cons d b =>
      have hd : c = d := (List.cons.inj h).1
      exact absurd (hd ▸ List.mem_cons_self) hb
  | cons d a ih =>
    rw [List.mem_cons, not_or] at ha
    cases b with
    | nil =>
      have hd : d = c := (List.cons.inj h).1
      exact absurd hd.symm ha.1
    | cons d' b =>
      rw [List.mem_cons, not_or] at hb
      obtain ⟨hd, hrest⟩ := List.cons.inj h
      obtain ⟨hab, hrs⟩ := ih ha.2 hb.2 hrest
      exact ⟨by rw [hd, hab], hrs⟩

/-- The keys of an entry's path are kept apart by dots, and the path ends at a space. -/
abbrev IsSpacelessKey (k : String) : Prop := IsKey k ∧ ' ' ∉ k.toList

theorem entryLine_inj {e f : Entry} (he : Plain IsSpacelessKey e) (hf : Plain IsSpacelessKey f)
    (h : entryLine e = entryLine f) : e = f := by
  have hspace : ∀ {e : Entry}, Plain IsSpacelessKey e → ' ' ∉ (dotted e.1).toList := by
    intro e he hmem
    obtain ⟨k, hk, hmem⟩ := mem_dotted (by decide) hmem
    exact (he.1 k hk).2 hmem
  obtain ⟨hpath, htext⟩ := append_cons_inj (hspace he) (hspace hf) h
  have hkeys : e.1 = f.1 := dotted_inj (fun k hk => (he.1 k hk).1) (fun k hk => (hf.1 k hk).1)
    (String.toList_inj.1 hpath)
  have htexts : e.2 = f.2 := String.toList_inj.1 (List.cons.inj (List.cons.inj htext).2).2
  exact Prod.ext hkeys htexts

theorem not_newline_entryLine {e : Entry} (he : Plain IsKey e) : '\n' ∉ entryLine e := by
  unfold entryLine
  rw [List.mem_append, not_or]
  constructor
  · intro hmem
    obtain ⟨k, hk, hmem⟩ := mem_dotted (by decide) hmem
    exact (he.1 k hk).newlineless hmem
  · simp [he.2]

/-- Lines tell which entries they are of. -/
theorem entries_of_lines {es fs : List Entry} (hes : ∀ e ∈ es, Plain IsSpacelessKey e)
    (hfs : ∀ e ∈ fs, Plain IsSpacelessKey e)
    (h : (es.flatMap fun e => entryLine e ++ ['\n']) = fs.flatMap fun e => entryLine e ++ ['\n']) :
    es = fs := by
  have hline : ∀ {e : Entry}, Plain IsSpacelessKey e → '\n' ∉ entryLine e :=
    fun he => not_newline_entryLine ⟨fun k hk => (he.1 k hk).1, he.2⟩
  induction es generalizing fs with
  | nil =>
    cases fs with
    | nil => rfl
    | cons f fs => simp at h
  | cons e es ih =>
    cases fs with
    | nil => simp at h
    | cons f fs =>
      obtain ⟨he, hes⟩ := List.forall_mem_cons.1 hes
      obtain ⟨hf, hfs⟩ := List.forall_mem_cons.1 hfs
      rw [List.flatMap_cons, List.flatMap_cons, List.append_assoc, List.append_assoc] at h
      obtain ⟨hfirst, hrest⟩ := append_cons_inj (hline he) (hline hf) h
      rw [entryLine_inj he hf hfirst, ih hes hfs hrest]

/-! ## The end of the text -/

/-- The text of the last entry ends in a character that shows. -/
def Ends (es : List Entry) : Prop :=
  ∃ front p s, es = front ++ [(p, s)] ∧ ∃ before c, s.toList = before ++ [c] ∧
    Blank.isBlank c = false

theorem ends_word {s : String} {before : List Char} {c : Char} (hs : s.toList = before ++ [c])
    (hc : Blank.isBlank c = false) : Ends [([], s)] :=
  ⟨[], [], s, rfl, before, c, hs, hc⟩

theorem ends_append (es : List Entry) {fs : List Entry} (h : Ends fs) : Ends (es ++ fs) := by
  obtain ⟨front, p, s, rfl, hs⟩ := h
  exact ⟨es ++ front, p, s, (List.append_assoc _ _ _).symm, hs⟩

theorem ends_under (key : String) {es : List Entry} (h : Ends es) : Ends (under key es) := by
  obtain ⟨front, p, s, rfl, hs⟩ := h
  exact ⟨under key front, key :: p, s, List.map_append, hs⟩

/-- Only the end of the last line is taken off. -/
theorem trimEnd_lines {es : List Entry} (h : Ends es) {lines : String}
    (hlines : lines.toList = es.flatMap fun e => entryLine e ++ ['\n']) :
    lines.toList = (Blank.trimEnd lines).toList ++ ['\n'] := by
  obtain ⟨front, p, s, rfl, before, c, hs, hc⟩ := h
  obtain ⟨body, hbody⟩ : ∃ body, lines.toList = body ++ [c] ++ ['\n'] := by
    refine ⟨(front.flatMap fun e => entryLine e ++ ['\n']) ++
      ((dotted p).toList ++ ' ' :: '=' :: ' ' :: before), ?_⟩
    rw [hlines, List.flatMap_append, List.flatMap_singleton, entryLine, hs]
    simp
  have htrim : Blank.trimEndChars lines.toList = body ++ [c] := by
    rw [hbody, List.append_assoc, List.singleton_append, Blank.trimEndChars_append_cons hc]
    rfl
  rw [Blank.trimEnd, htrim, String.toList_ofList, hbody]

/-- The text and the end of its last line are the lines of the entries. -/
theorem toList_flatText {v : Value} (hv : ∀ e ∈ entries v, Plain IsSpacelessKey e)
    (hend : Ends (entries v)) :
    (flatText v).toList ++ ['\n'] = (entries v).flatMap fun e => entryLine e ++ ['\n'] := by
  have hlines := toList_lines fun e he k hk => ((hv e he).1 k hk).1.nonempty
  rw [← hlines]
  exact (trimEnd_lines hend hlines).symm

/-- **What the lines say is known from the text.** -/
theorem entries_of_flatText {v w : Value} (hv : ∀ e ∈ entries v, Plain IsSpacelessKey e)
    (hw : ∀ e ∈ entries w, Plain IsSpacelessKey e) (hvend : Ends (entries v))
    (hwend : Ends (entries w)) (h : flatText v = flatText w) : entries v = entries w := by
  refine entries_of_lines hv hw ?_
  rw [← toList_flatText hv hvend, ← toList_flatText hw hwend, h]

/-! ## Entries behind a key -/

/-- The entries behind a key, without it. -/
def part (key : String) (es : List Entry) : List Entry :=
  es.filterMap fun e => match e.1 with
    | k :: p => if k = key then some (p, e.2) else none
    | [] => none

theorem part_append (key : String) (es fs : List Entry) :
    part key (es ++ fs) = part key es ++ part key fs :=
  List.filterMap_append

@[simp] theorem part_under (key : String) (es : List Entry) : part key (under key es) = es := by
  induction es with
  | nil => rfl
  | cons e es ih =>
    rw [under, part, List.map_cons, List.filterMap_cons]
    simp only [if_true]
    exact congrArg (e :: ·) ih

theorem part_under_ne {key k : String} (h : k ≠ key) (es : List Entry) :
    part key (under k es) = [] := by
  induction es with
  | nil => rfl
  | cons e es ih =>
    rw [under, part, List.map_cons, List.filterMap_cons]
    simp only [if_neg h]
    exact ih

/-- An index has no entries among the items that come later. -/
theorem part_itemEntries {i j : Nat} (h : i < j) (vs : List Value) :
    part (toString i) (itemEntries j vs) = [] := by
  induction vs generalizing j with
  | nil => rfl
  | cons v vs ih =>
    have hne : toString j ≠ toString i := by
      intro heq
      have hindex := index_inj heq
      omega
    rw [itemEntries, part_append, part_under_ne hne, List.nil_append]
    exact ih (Nat.lt_succ_of_lt h)

theorem itemEntries_append (i : Nat) (vs ws : List Value) :
    itemEntries i (vs ++ ws) = itemEntries i vs ++ itemEntries (i + vs.length) ws := by
  induction vs generalizing i with
  | nil => rfl
  | cons v vs ih =>
    rw [List.cons_append, itemEntries, itemEntries, ih, List.append_assoc, List.length_cons,
      Nat.add_assoc, Nat.add_comm 1]

/-- **The items of an array are known from their entries**, if each has one and is known from its
own. -/
theorem items_of_entries {α β : Type} {f : α → Value} {g : α → β}
    (hsolid : ∀ a, entries (f a) ≠ []) (hitem : ∀ a b, entries (f a) = entries (f b) → g a = g b)
    {i : Nat} {as bs : List α} (h : itemEntries i (as.map f) = itemEntries i (bs.map f)) :
    as.map g = bs.map g := by
  have hnone : ∀ (i : Nat) (a : α) (vs : List Value), itemEntries i (f a :: vs) ≠ [] := by
    intro i a vs hempty
    rw [itemEntries, List.append_eq_nil_iff, under, List.map_eq_nil_iff] at hempty
    exact hsolid a hempty.1
  induction as generalizing i bs with
  | nil =>
    cases bs with
    | nil => rfl
    | cons b bs => exact absurd h.symm (hnone i b _)
  | cons a as ih =>
    cases bs with
    | nil => exact absurd h (hnone i a _)
    | cons b bs =>
      -- the entries behind the first index are those of the first items
      rw [List.map_cons, List.map_cons, itemEntries, itemEntries] at h
      have hpart := congrArg (part (toString i)) h
      rw [part_append, part_append, part_under, part_under,
        part_itemEntries (Nat.lt_succ_self i), part_itemEntries (Nat.lt_succ_self i),
        List.append_nil, List.append_nil] at hpart
      rw [hpart] at h
      rw [List.map_cons, List.map_cons, hitem a b hpart, ih (List.append_cancel_left h)]

end SdkGen.Report
