import SdkGen.Text.Keyed

/-!
# Keyed lists

* `insert_cons`, `lookup_cons`: one pair at a time.
* `lookup_insert`: what is found after a value is put under a key.
* `lookup_insertAll`: of several values that are put, the last of a key counts.
* `keys_insert_congr`: where a value is put depends on the keys alone.
* `keys_ofList`, `ascending_ofList`: the keys of a list that is put in order.
-/

namespace SdkGen.Keyed

variable {α : Type}

/-! ## One pair at a time -/

theorem insert_nil (key : String) (v : α) : insert key v [] = [(key, v)] := rfl

theorem insert_cons (key k : String) (v w : α) (r : List (String × α)) :
    insert key v ((k, w) :: r) =
      if key = k then (key, v) :: r
      else if key < k then (key, v) :: (k, w) :: r
      else (k, w) :: insert key v r := rfl

theorem lookup_nil (key : String) : lookup key ([] : List (String × α)) = none := rfl

theorem lookup_cons (key k : String) (v : α) (r : List (String × α)) :
    lookup key ((k, v) :: r) = if k = key then some v else lookup key r := rfl

/-! ## What is found -/

theorem lookup_insert (key k : String) (v : α) (m : List (String × α)) :
    lookup k (insert key v m) = if key = k then some v else lookup k m := by
  induction m with
  | nil => simp [insert_nil, lookup_cons]
  | cons e m ih =>
    obtain ⟨k', w⟩ := e
    rw [insert_cons]
    by_cases hkey : key = k'
    · subst hkey
      by_cases hk : key = k <;> simp [lookup_cons, hk]
    · by_cases hlt : key < k'
      · simp [hkey, hlt, lookup_cons]
      · rw [if_neg hkey, if_neg hlt, lookup_cons, ih, lookup_cons]
        by_cases hk : k' = k
        · have : key ≠ k := fun h => hkey (h.trans hk.symm)
          simp [hk, this]
        · simp [hk]

theorem mem_insert {key : String} {v : α} {m : List (String × α)} {e : String × α}
    (h : e ∈ insert key v m) : e = (key, v) ∨ e ∈ m := by
  induction m with
  | nil => exact .inl (List.mem_singleton.1 h)
  | cons e' m ih =>
    obtain ⟨k, w⟩ := e'
    rw [insert_cons] at h
    split at h
    · exact (List.mem_cons.1 h).imp_right (List.mem_cons_of_mem _)
    · split at h
      · exact List.mem_cons.1 h
      · rcases List.mem_cons.1 h with rfl | h
        · exact .inr List.mem_cons_self
        · exact (ih h).imp_right (List.mem_cons_of_mem _)

theorem lookup_insert_self (key : String) (v : α) (m : List (String × α)) :
    lookup key (insert key v m) = some v := by
  rw [lookup_insert, if_pos rfl]

theorem lookup_append (k : String) (a b : List (String × α)) :
    lookup k (a ++ b) = (lookup k a).or (lookup k b) := by
  induction a with
  | nil => rfl
  | cons e a ih =>
    obtain ⟨key, v⟩ := e
    by_cases hk : key = k <;> simp [lookup_cons, hk, ih]

/-- Nothing is found under a key that does not stand there. -/
theorem lookup_eq_none_iff (k : String) (m : List (String × α)) :
    lookup k m = none ↔ k ∉ m.map Prod.fst := by
  induction m with
  | nil => simp [lookup_nil]
  | cons e m ih =>
    obtain ⟨key, v⟩ := e
    rw [lookup_cons, List.map_cons, List.mem_cons, not_or, ← ih]
    by_cases hk : key = k
    · simp [hk]
    · simp [hk, Ne.symm hk]

theorem mem_of_lookup {k : String} {v : α} {m : List (String × α)} (h : lookup k m = some v) :
    (k, v) ∈ m := by
  induction m with
  | nil => cases h
  | cons e m ih =>
    obtain ⟨key, w⟩ := e
    rw [lookup_cons] at h
    split at h
    · next hkey =>
      cases h
      exact hkey ▸ List.mem_cons_self
    · exact List.mem_cons_of_mem _ (ih h)

/-- **Of several values that are put under keys, the last under a key is found.** -/
theorem lookup_insertAll (es : List (String × α)) (k : String) (m : List (String × α)) :
    lookup k (es.foldl (fun acc e => insert e.1 e.2 acc) m) =
      (lookup k es.reverse).or (lookup k m) := by
  induction es generalizing m with
  | nil => rfl
  | cons e es ih =>
    rw [List.foldl_cons, ih, lookup_insert, List.reverse_cons, lookup_append, Option.or_assoc]
    obtain ⟨key, v⟩ := e
    by_cases hk : key = k <;> simp [lookup_cons, lookup_nil, hk]

/-- What is found in a list that is put in order is the last value of its key. -/
theorem lookup_ofList (es : List (String × α)) (k : String) :
    lookup k (ofList es) = lookup k es.reverse := by
  rw [ofList, lookup_insertAll, lookup_nil, Option.or_none]

/-! ## Keys -/

/-- The keys stand in increasing order, and so no key stands twice. -/
def Ascending (m : List (String × α)) : Prop := (m.map Prod.fst).Pairwise (· < ·)

theorem keys_insert (key k : String) (v : α) (m : List (String × α)) :
    k ∈ (insert key v m).map Prod.fst ↔ k = key ∨ k ∈ m.map Prod.fst := by
  induction m with
  | nil => simp [insert_nil]
  | cons e m ih =>
    obtain ⟨k', w⟩ := e
    rw [insert_cons]
    by_cases hkey : key = k'
    · simp [hkey]
    · by_cases hlt : key < k'
      · simp [hkey, hlt]
      · rw [if_neg hkey, if_neg hlt, List.map_cons, List.mem_cons, ih, List.map_cons,
          List.mem_cons]
        exact or_left_comm

/-- Where a value is put depends on the keys alone. -/
theorem keys_insert_congr {β : Type} (key : String) (v : α) (w : β) {m : List (String × α)}
    {n : List (String × β)} (hkeys : m.map Prod.fst = n.map Prod.fst) :
    (insert key v m).map Prod.fst = (insert key w n).map Prod.fst := by
  induction m generalizing n with
  | nil =>
    rw [List.map_eq_nil_iff.1 hkeys.symm]
    rfl
  | cons e m ih =>
    cases n with
    | nil => cases hkeys
    | cons e' n =>
      obtain ⟨k, a⟩ := e
      obtain ⟨k', b⟩ := e'
      obtain ⟨rfl, htail⟩ := List.cons.inj hkeys
      rw [insert_cons, insert_cons]
      by_cases hkey : key = k
      · rw [if_pos hkey, if_pos hkey]
        exact congrArg _ htail
      rw [if_neg hkey, if_neg hkey]
      by_cases hlt : key < k
      · rw [if_pos hlt, if_pos hlt]
        exact congrArg (key :: k :: ·) htail
      · rw [if_neg hlt, if_neg hlt]
        exact congrArg (k :: ·) (ih htail)

theorem lt_of_not_lt {a b : String} (hne : a ≠ b) (h : ¬ a < b) : b < a := by
  refine Decidable.byContradiction fun hnot => hne ?_
  exact String.le_antisymm (String.not_lt.1 hnot) (String.not_lt.1 h)

theorem ascending_insert (key : String) (v : α) {m : List (String × α)} (h : Ascending m) :
    Ascending (insert key v m) := by
  unfold Ascending at h ⊢
  induction m with
  | nil => simp [insert_nil]
  | cons e m ih =>
    obtain ⟨k', w⟩ := e
    obtain ⟨hhead, htail⟩ := List.pairwise_cons.1 h
    rw [insert_cons]
    -- the key is there already, or belongs in front of the first one, or behind it
    by_cases hkey : key = k'
    · rw [if_pos hkey, hkey]
      exact h
    rw [if_neg hkey]
    by_cases hlt : key < k'
    · rw [if_pos hlt]
      refine List.pairwise_cons.2 ⟨?_, h⟩
      intro k hk
      rcases List.mem_cons.1 hk with rfl | hk
      · exact hlt
      · exact String.lt_trans hlt (hhead k hk)
    · rw [if_neg hlt]
      refine List.pairwise_cons.2 ⟨?_, ih htail⟩
      intro k hk
      rcases (keys_insert key k v m).1 hk with rfl | hk
      · exact lt_of_not_lt hkey hlt
      · exact hhead k hk

theorem keys_insertAll (es : List (String × α)) (k : String) (m : List (String × α)) :
    k ∈ (es.foldl (fun acc e => insert e.1 e.2 acc) m).map Prod.fst ↔
      k ∈ es.map Prod.fst ∨ k ∈ m.map Prod.fst := by
  induction es generalizing m with
  | nil => simp
  | cons e es ih =>
    rw [List.foldl_cons, ih, keys_insert, List.map_cons, List.mem_cons, or_assoc]
    exact or_left_comm

theorem ascending_insertAll (es : List (String × α)) {m : List (String × α)} (h : Ascending m) :
    Ascending (es.foldl (fun acc e => insert e.1 e.2 acc) m) := by
  induction es generalizing m with
  | nil => exact h
  | cons e es ih => exact ih (ascending_insert e.1 e.2 h)

/-- In a list that is in order each pair is found under its key. -/
theorem mem_iff_lookup {m : List (String × α)} (h : Ascending m) {k : String} {v : α} :
    (k, v) ∈ m ↔ lookup k m = some v := by
  refine ⟨fun hmem => ?_, mem_of_lookup⟩
  unfold Ascending at h
  induction m with
  | nil => cases hmem
  | cons e m ih =>
    obtain ⟨hhead, htail⟩ := List.pairwise_cons.1 h
    rcases List.mem_cons.1 hmem with rfl | hmem
    · exact if_pos rfl
    · have hlt : e.1 < k := hhead k (List.mem_map_of_mem hmem)
      rw [lookup_cons, if_neg (String.ne_of_lt hlt), ih htail hmem]

/-- Putting a list in order keeps its keys. -/
theorem keys_ofList (es : List (String × α)) (k : String) :
    k ∈ (ofList es).map Prod.fst ↔ k ∈ es.map Prod.fst := by
  unfold ofList
  rw [keys_insertAll]
  simp

/-- **A list that is put in order has each key once, and its keys increase.** -/
theorem ascending_ofList (es : List (String × α)) : Ascending (ofList es) :=
  ascending_insertAll es (.nil)

end SdkGen.Keyed
