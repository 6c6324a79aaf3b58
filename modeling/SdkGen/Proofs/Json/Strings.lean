import SdkGen.Json.Value
import SdkGen.Proofs.Text.Keyed

/-!
# Keys and strings of a value

* `Value.keys`, `Value.texts`: all keys and all strings of a value, at any depth.
* `gathered_sorted`: sorting the members of objects brings in no others.
-/

namespace SdkGen.Json.Value

mutual

/-- What stands for the keys and for the strings of a value, at any depth. -/
def gathered (ofKey ofText : String → List String) : Value → List String
  | .array items => gatheredItems ofKey ofText items
  | .object members => gatheredMembers ofKey ofText members
  | .null => []
  | .bool _ => []
  | .number _ => []
  | .string s => ofText s

/-- What is gathered from the items of an array. -/
def gatheredItems (ofKey ofText : String → List String) : List Value → List String
  | [] => []
  | v :: vs => gathered ofKey ofText v ++ gatheredItems ofKey ofText vs

/-- What is gathered from an object's members. -/
def gatheredMembers (ofKey ofText : String → List String) : List (String × Value) → List String
  | [] => []
  | (k, v) :: ms => ofKey k ++ gathered ofKey ofText v ++ gatheredMembers ofKey ofText ms

end

/-- The keys of all objects in a value. -/
def keys : Value → List String := gathered (fun k => [k]) fun _ => []

/-- All strings in a value; keys are not among them. -/
def texts : Value → List String := gathered (fun _ => []) fun s => [s]

variable {ofKey ofText : String → List String} {s : String}

theorem mem_gatheredItems {vs : List Value} :
    s ∈ gatheredItems ofKey ofText vs ↔ ∃ v ∈ vs, s ∈ gathered ofKey ofText v := by
  induction vs with
  | nil => simp [gatheredItems]
  | cons v vs ih => simp [gatheredItems, ih]

theorem mem_gatheredMembers {ms : List (String × Value)} :
    s ∈ gatheredMembers ofKey ofText ms ↔
      ∃ m ∈ ms, s ∈ ofKey m.1 ∨ s ∈ gathered ofKey ofText m.2 := by
  induction ms with
  | nil => simp [gatheredMembers]
  | cons m ms ih => simp [gatheredMembers, ih, or_assoc]

theorem forall_keys_cons {P : String → Prop} {key : String} {v : Value}
    {ms : List (String × Value)} : (∀ k ∈ (Value.object ((key, v) :: ms)).keys, P k) ↔
      P key ∧ (∀ k ∈ v.keys, P k) ∧ ∀ k ∈ (Value.object ms).keys, P k := by
  change (∀ k ∈ [key] ++ v.keys ++ (Value.object ms).keys, P k) ↔ _
  rw [List.forall_mem_append, List.forall_mem_append, List.forall_mem_singleton, and_assoc]

theorem forall_keys_array {P : String → Prop} {vs : List Value} :
    (∀ k ∈ (Value.array vs).keys, P k) ↔ ∀ v ∈ vs, ∀ k ∈ v.keys, P k := by
  constructor
  · exact fun h v hv k hk => h k (mem_gatheredItems.2 ⟨v, hv, hk⟩)
  · intro h k hk
    obtain ⟨v, hv, hk⟩ := mem_gatheredItems.1 hk
    exact h v hv k hk

mutual

/-- **Sorting brings in no key and no string.** -/
theorem gathered_sorted (v : Value) :
    ∀ s ∈ gathered ofKey ofText v.sorted, s ∈ gathered ofKey ofText v := by
  cases v with
  | array items => exact gatheredItems_sorted items
  | object members => exact gatheredMembers_sorted members
  | null => exact fun _ => id
  | bool b => exact fun _ => id
  | number n => exact fun _ => id
  | string s => exact fun _ => id

theorem gatheredItems_sorted (vs : List Value) :
    ∀ s ∈ gatheredItems ofKey ofText (sortedItems vs), s ∈ gatheredItems ofKey ofText vs := by
  cases vs with
  | nil => exact fun _ => id
  | cons v vs =>
    intro s hs
    rw [sortedItems, gatheredItems, List.mem_append] at hs
    rw [gatheredItems, List.mem_append]
    exact hs.imp (gathered_sorted v s) (gatheredItems_sorted vs s)

theorem gatheredMembers_sorted (ms : List (String × Value)) :
    ∀ s ∈ gatheredMembers ofKey ofText (sortedMembers ms),
      s ∈ gatheredMembers ofKey ofText ms := by
  match ms with
  | [] => exact fun _ => id
  | (k, v) :: ms =>
    intro s hs
    have hrest := gatheredMembers_sorted ms s
    rw [gatheredMembers, List.mem_append, List.mem_append]
    unfold sortedMembers at hs
    dsimp only at hs
    -- a member whose key comes again is left out
    split at hs
    · exact .inr (hrest hs)
    · obtain ⟨m, hm, hsm⟩ := mem_gatheredMembers.1 hs
      rcases Keyed.mem_insert hm with rfl | hm
      · exact .inl (hsm.imp_right (gathered_sorted v s))
      · exact .inr (hrest (mem_gatheredMembers.2 ⟨m, hm, hsm⟩))

end

theorem keys_sorted (v : Value) : ∀ k ∈ v.sorted.keys, k ∈ v.keys := gathered_sorted v

theorem texts_sorted (v : Value) : ∀ s ∈ v.sorted.texts, s ∈ v.texts := gathered_sorted v

theorem sortedItems_map {α : Type} (f : α → Value) (as : List α) :
    sortedItems (as.map f) = as.map fun a => (f a).sorted := by
  induction as with
  | nil => rfl
  | cons a as ih => rw [List.map_cons, sortedItems, ih, List.map_cons]

end SdkGen.Json.Value
