import SdkGen.Json.Value
import SdkGen.Proofs.Text.Keyed

/-!
# Sorted values

Sorting goes down into a value part by part. It leaves items where they are, and puts members in the
order of their keys; of two members with one key the later counts.

* `getElem?_sortedItems`: the items of a sorted array.
* `ascending_sortedMembers`, `lookup_sortedMembers`: the members of a sorted object.
-/

namespace SdkGen.Json.Value

variable {vs : List Value} {ms : List (String × Value)}

theorem getElem?_sortedItems (vs : List Value) (i : Nat) :
    (sortedItems vs)[i]? = vs[i]?.map sorted := by
  induction vs generalizing i with
  | nil => rfl
  | cons v vs ih =>
    cases i with
    | zero => rfl
    | succ i => exact ih i

theorem ascending_sortedMembers (ms : List (String × Value)) :
    Keyed.Ascending (sortedMembers ms) := by
  induction ms with
  | nil => exact .nil
  | cons m ms ih =>
    unfold sortedMembers
    dsimp only
    split
    · exact ih
    · exact Keyed.ascending_insert _ _ ih

/-- **Under a key stands the last of its values, sorted.** -/
theorem lookup_sortedMembers (k : String) (ms : List (String × Value)) :
    Keyed.lookup k (sortedMembers ms) = (Keyed.lookup k ms.reverse).map sorted := by
  induction ms with
  | nil => rfl
  | cons m ms ih =>
    obtain ⟨key, v⟩ := m
    rw [List.reverse_cons, Keyed.lookup_append]
    unfold sortedMembers
    dsimp only
    split
    · next hlater =>
      -- the member is left out, and its key comes again
      by_cases hk : key = k
      · subst hk
        cases hlast : Keyed.lookup key ms.reverse with
        | none =>
          rw [hlast, Option.map_none, Keyed.lookup_eq_none_iff] at ih
          exact absurd (by simpa using hlater) ih
        | some w => rw [ih, hlast, Option.some_or]
      · rw [ih, Keyed.lookup_cons, if_neg hk, Keyed.lookup_nil, Option.or_none]
    · next hlater =>
      rw [Keyed.lookup_insert]
      by_cases hk : key = k
      · subst hk
        have hnone : Keyed.lookup key (sortedMembers ms) = none := by
          rw [Keyed.lookup_eq_none_iff]
          simpa using hlater
        rw [ih, Option.map_eq_none_iff] at hnone
        rw [hnone, if_pos rfl, Option.none_or, Keyed.lookup_cons, if_pos rfl, Option.map_some]
      · rw [ih, if_neg hk, Keyed.lookup_cons, if_neg hk, Keyed.lookup_nil, Option.or_none]

end SdkGen.Json.Value
