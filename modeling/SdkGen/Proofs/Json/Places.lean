import SdkGen.Proofs.Json.Sorted
import SdkGen.Proofs.Text.ByteOrder

/-!
# Places in a value

A place in a value is reached from outside by steps: by a key into an object, by an index into an
array. Places come in document order, which goes by the bytes of keys and the size of indices at the
first step where they part.

* `Step`, `partAt?`: a step, and the part of a value at a place.
* `Before`: the document order of places.
* `scalars`: the scalars of a value with their places, as they are written.
* `mem_scalars`: of a sorted value these are all scalars at all places.
* `ordered_scalars`: and they are in document order.
-/

namespace SdkGen.Json

/-- A step into a value. -/
inductive Step
  | key (k : String)
  | index (i : Nat)
  deriving DecidableEq, Repr

/-- The steps that lead to a part of a value. -/
abbrev Place := List Step

namespace Step

/-- The part of a value that a step leads to; of the members of one key the last one counts. -/
def part? : Step → Value → Option Value
  | key k, .object members => Keyed.lookup k members.reverse
  | index i, .array items => items[i]?
  | _, _ => none

/-- The order of the steps into one value. -/
def Precedes : Step → Step → Prop
  | key k, key l => ByteOrder.bytes k < ByteOrder.bytes l
  | index i, index j => i < j
  | _, _ => False

end Step

/-- The part of a value at a place. -/
def partAt? : Place → Value → Option Value
  | [], v => some v
  | step :: p, v => (step.part? v).bind (partAt? p)

/-- The document order: places part at some step, and the first one is earlier there. -/
inductive Before : Place → Place → Prop
  | here {step step' : Step} {p q : Place} (h : step.Precedes step') :
      Before (step :: p) (step' :: q)
  | behind {step : Step} {p q : Place} (h : Before p q) : Before (step :: p) (step :: q)

/-- Whether a value has no parts. -/
def isScalar : Value → Bool
  | .array _ => false
  | .object _ => false
  | .null => true
  | .bool _ => true
  | .number _ => true
  | .string _ => true

/-- A scalar and its place. -/
abbrev Leaf := Place × Value

/-- Leaves behind one more step. -/
def Leaf.behind (step : Step) (ls : List Leaf) : List Leaf := ls.map fun l => (step :: l.1, l.2)

mutual

/-- The scalars of a value, in the order in which they stand in it. -/
def scalars : Value → List Leaf
  | .array items => itemScalars 0 items
  | .object members => memberScalars members
  | .null => [([], .null)]
  | .bool b => [([], .bool b)]
  | .number n => [([], .number n)]
  | .string s => [([], .string s)]

/-- The scalars of an array's items from an index on. -/
def itemScalars (i : Nat) : List Value → List Leaf
  | [] => []
  | v :: vs => Leaf.behind (.index i) (scalars v) ++ itemScalars (i + 1) vs

/-- The scalars of an object's members. -/
def memberScalars : List (String × Value) → List Leaf
  | [] => []
  | (k, v) :: ms => Leaf.behind (.key k) (scalars v) ++ memberScalars ms

end

variable {v s : Value} {p q : Place} {step : Step} {ls : List Leaf} {vs : List Value}
  {ms : List (String × Value)} {i : Nat}

/-! ## All scalars -/

theorem mem_behind : (p, s) ∈ Leaf.behind step ls ↔ ∃ q, p = step :: q ∧ (q, s) ∈ ls := by
  constructor
  · intro h
    obtain ⟨l, hl, heq⟩ := List.mem_map.1 h
    cases heq
    exact ⟨l.1, rfl, hl⟩
  · rintro ⟨q, rfl, h⟩
    exact List.mem_map_of_mem h

theorem mem_itemScalars : (p, s) ∈ itemScalars i vs ↔
    ∃ j q v, p = .index (i + j) :: q ∧ vs[j]? = some v ∧ (q, s) ∈ scalars v := by
  induction vs generalizing i with
  | nil => simp [itemScalars]
  | cons v vs ih =>
    rw [itemScalars, List.mem_append, mem_behind, ih]
    constructor
    · rintro (⟨q, rfl, h⟩ | ⟨j, q, w, rfl, hw, h⟩)
      · exact ⟨0, q, v, rfl, rfl, h⟩
      · exact ⟨j + 1, q, w, by rw [Nat.add_assoc, Nat.add_comm 1], hw, h⟩
    · rintro ⟨j, q, w, rfl, hw, h⟩
      cases j with
      | zero =>
        cases hw
        exact .inl ⟨q, rfl, h⟩
      | succ j => exact .inr ⟨j, q, w, by rw [Nat.add_assoc, Nat.add_comm 1], hw, h⟩

theorem mem_memberScalars : (p, s) ∈ memberScalars ms ↔
    ∃ k q v, p = .key k :: q ∧ (k, v) ∈ ms ∧ (q, s) ∈ scalars v := by
  induction ms with
  | nil => simp [memberScalars]
  | cons m ms ih =>
    obtain ⟨key, v⟩ := m
    rw [memberScalars, List.mem_append, mem_behind, ih]
    constructor
    · rintro (⟨q, rfl, h⟩ | ⟨k, q, w, rfl, hw, h⟩)
      · exact ⟨key, q, v, rfl, List.mem_cons_self, h⟩
      · exact ⟨k, q, w, rfl, List.mem_cons_of_mem _ hw, h⟩
    · rintro ⟨k, q, w, rfl, hw, h⟩
      rcases List.mem_cons.1 hw with heq | hw
      · cases heq
        exact .inl ⟨q, rfl, h⟩
      · exact .inr ⟨k, q, w, rfl, hw, h⟩

/-- A scalar has no part, so it stands in itself alone. -/
theorem mem_scalars_self : ([], s) ∈ scalars v.sorted ↔ v = s ∧ isScalar s = true := by
  cases v with
  | array items =>
    refine ⟨fun h => ?_, ?_⟩
    · obtain ⟨_, _, _, heq, -⟩ := mem_itemScalars.1 h
      cases heq
    · rintro ⟨rfl, h⟩
      cases h
  | object members =>
    refine ⟨fun h => ?_, ?_⟩
    · obtain ⟨_, _, _, heq, -⟩ := mem_memberScalars.1 h
      cases heq
    · rintro ⟨rfl, h⟩
      cases h
  | _ =>
    rw [Value.sorted, scalars, List.mem_singleton, Prod.mk.injEq]
    constructor
    · rintro ⟨-, rfl⟩
      exact ⟨rfl, rfl⟩
    · rintro ⟨rfl, -⟩
      exact ⟨rfl, rfl⟩

/-- **The scalars behind a step are those of the part to which it leads.** -/
theorem mem_scalars_step : (step :: q, s) ∈ scalars v.sorted ↔
    ∃ w, step.part? v = some w ∧ (q, s) ∈ scalars w.sorted := by
  cases v with
  | array items =>
    rw [Value.sorted, scalars, mem_itemScalars]
    constructor
    · rintro ⟨j, q, w, heq, hw, h⟩
      rw [Nat.zero_add] at heq
      cases heq
      rw [Value.getElem?_sortedItems] at hw
      obtain ⟨u, hu, rfl⟩ := Option.map_eq_some_iff.1 hw
      exact ⟨u, hu, h⟩
    · rintro ⟨u, hu, h⟩
      cases step with
      | key k => cases hu
      | index j =>
        refine ⟨j, q, u.sorted, by rw [Nat.zero_add], ?_, h⟩
        rw [Value.getElem?_sortedItems]
        exact Option.map_eq_some_iff.2 ⟨u, hu, rfl⟩
  | object members =>
    -- sorted, there is one member of each key, and it is the one to which the step leads
    have hfound : ∀ {k w}, (k, w) ∈ Value.sortedMembers members ↔
        ∃ u, Keyed.lookup k members.reverse = some u ∧ u.sorted = w := by
      intro k w
      rw [Keyed.mem_iff_lookup (Value.ascending_sortedMembers members),
        Value.lookup_sortedMembers, Option.map_eq_some_iff]
    rw [Value.sorted, scalars, mem_memberScalars]
    constructor
    · rintro ⟨k, q, w, heq, hw, h⟩
      cases heq
      obtain ⟨u, hu, rfl⟩ := hfound.1 hw
      exact ⟨u, hu, h⟩
    · rintro ⟨u, hu, h⟩
      cases step with
      | key k => exact ⟨k, q, u.sorted, rfl, hfound.2 ⟨u, hu, rfl⟩, h⟩
      | index i => cases hu
  | _ =>
    rw [Value.sorted, scalars, List.mem_singleton]
    constructor
    · nofun
    · rintro ⟨w, hw, -⟩
      cases step <;> cases hw

/-- **The scalars of a sorted value are the scalars at all places of the value.** -/
theorem mem_scalars : (p, s) ∈ scalars v.sorted ↔ partAt? p v = some s ∧ isScalar s = true := by
  induction p generalizing v with
  | nil => rw [mem_scalars_self, partAt?, Option.some_inj]
  | cons step p ih =>
    rw [mem_scalars_step, partAt?, Option.bind_eq_some_iff]
    simp only [ih, ← and_assoc, exists_and_right]

/-! ## Document order -/

/-- Leaves are in document order, each place earlier than all that follow. -/
def Ordered (ls : List Leaf) : Prop := ls.Pairwise fun l m => Before l.1 m.1

theorem ordered_behind (step : Step) (h : Ordered ls) : Ordered (Leaf.behind step ls) :=
  List.Pairwise.map _ (fun _ _ hbefore => .behind hbefore) h

theorem ordered_itemScalars (h : ∀ v ∈ vs, Ordered (scalars v)) (i : Nat) :
    Ordered (itemScalars i vs) := by
  induction vs generalizing i with
  | nil => exact .nil
  | cons v vs ih =>
    obtain ⟨hv, hvs⟩ := List.forall_mem_cons.1 h
    refine List.pairwise_append.2 ⟨ordered_behind _ hv, ih hvs (i + 1), ?_⟩
    rintro ⟨p, s⟩ hs ⟨q, t⟩ ht
    obtain ⟨_, rfl, -⟩ := mem_behind.1 hs
    obtain ⟨j, _, _, rfl, -⟩ := mem_itemScalars.1 ht
    exact .here (show i < i + 1 + j by omega)

theorem ordered_memberScalars (hkeys : Keyed.Ascending ms)
    (h : ∀ m ∈ ms, Ordered (scalars m.2)) : Ordered (memberScalars ms) := by
  unfold Keyed.Ascending at hkeys
  induction ms with
  | nil => exact .nil
  | cons m ms ih =>
    obtain ⟨hkey, hkeys⟩ := List.pairwise_cons.1 hkeys
    obtain ⟨hm, hms⟩ := List.forall_mem_cons.1 h
    refine List.pairwise_append.2 ⟨ordered_behind _ hm, ih hkeys hms, ?_⟩
    rintro ⟨p, s⟩ hs ⟨q, t⟩ ht
    obtain ⟨_, rfl, -⟩ := mem_behind.1 hs
    obtain ⟨k, _, _, rfl, hmem, -⟩ := mem_memberScalars.1 ht
    exact .here (ByteOrder.bytes_lt (hkey k (List.mem_map_of_mem hmem)))

mutual

/-- **The scalars of a sorted value are in document order.** -/
theorem ordered_scalars (v : Value) : Ordered (scalars v.sorted) := by
  cases v with
  | array items => exact ordered_itemScalars (ordered_items items) 0
  | object members =>
    exact ordered_memberScalars (Value.ascending_sortedMembers members) (ordered_members members)
  | null => exact List.pairwise_singleton _ _
  | bool b => exact List.pairwise_singleton _ _
  | number n => exact List.pairwise_singleton _ _
  | string s => exact List.pairwise_singleton _ _

theorem ordered_items (vs : List Value) : ∀ v ∈ Value.sortedItems vs, Ordered (scalars v) := by
  cases vs with
  | nil => nofun
  | cons v vs => exact List.forall_mem_cons.2 ⟨ordered_scalars v, ordered_items vs⟩

theorem ordered_members (ms : List (String × Value)) :
    ∀ m ∈ Value.sortedMembers ms, Ordered (scalars m.2) := by
  match ms with
  | [] => nofun
  | (k, v) :: ms =>
    intro m hm
    unfold Value.sortedMembers at hm
    dsimp only at hm
    split at hm
    -- the member is left out, or it is put among the others
    · exact ordered_members ms m hm
    · rcases Keyed.mem_insert hm with rfl | hm
      · exact ordered_scalars v
      · exact ordered_members ms m hm

end

end SdkGen.Json
