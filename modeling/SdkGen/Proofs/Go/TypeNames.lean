import SdkGen.Proofs.Go.Positions

/-!
# Names in types

The names and packages in the types of a source file are words, however deep they stand, and so are
the names by which the fields of its structs go.

* `TypeSyntax.Named`: the names in a type are words, those of the fields in it included.
* `type_named`, `nodes_typeNamed`: the types among the trees of a text are so.
* `types_of_parse`: those of a file's structs are.
-/

namespace SdkGen.Go

mutual

/-- The names and packages in a type are words, those of the fields in it included. -/
def TypeSyntax.Named : TypeSyntax → Prop
  | .name name => IsWord name.toList
  | .qualified package name => IsWord package.toList ∧ IsWord name.toList
  | .pointer target => target.Named
  | .slice element => element.Named
  | .array element => element.Named
  | .generic base => base.Named
  | .struct fields => FieldSyntax.AllNamed fields
  | _ => True

/-- The first name of a field is a word, if it has one, and so are the names in its type. -/
def FieldSyntax.Named : FieldSyntax → Prop
  | .mk names type _ _ => (∀ name ∈ names.head?, IsWord name.toList) ∧ type.Named

/-- The names of some fields are words. -/
def FieldSyntax.AllNamed : List FieldSyntax → Prop
  | [] => True
  | f :: fs => f.Named ∧ FieldSyntax.AllNamed fs

end

theorem allNamed_iff {fs : List FieldSyntax} : FieldSyntax.AllNamed fs ↔ ∀ f ∈ fs, f.Named := by
  induction fs with
  | nil => exact ⟨fun _ => nofun, fun _ => trivial⟩
  | cons f fs ih => rw [FieldSyntax.AllNamed, ih, List.forall_mem_cons]

variable {cs : List Char} {s : Part} {ss : List Part} {h i j : Nat} {t : Tree} {ts : List Tree}

/-- A field that embeds a type has no name of its own. -/
theorem named_embedded {pos : Position} {type : TypeSyntax} (htype : type.Named) :
    (FieldSyntax.ofParts .embeddedField pos ts type).Named := by
  cases ts with
  | nil => exact ⟨nofun, htype⟩
  | cons t ts => cases t <;> exact ⟨nofun, htype⟩

mutual

/-- **The names in a type are words.** -/
theorem type_named {s : Part} {i j : Nat} {t : Tree} {type : TypeSyntax} (h : Spans cs s i t j)
    (htype : TypeSyntax.ofTree? t = some type) : type.Named := by
  cases h with
  | node hadmits hts =>
    rename_i k ss t ts
    have hinner : ∀ inner, (TypeSyntax.ofTrees (t :: ts)).getLast? = some inner → inner.Named :=
      fun inner hlast => types_named hts inner (List.mem_of_getLast? hlast)
    cases k with
    | typeName =>
      obtain ⟨i', name, heq, -, hat, -⟩ := typeName_parts hadmits hts
      rw [heq] at htype
      cases htype
      exact hat.word
    | qualifiedType =>
      obtain ⟨i', package, p, name, q, heq, hname, -, hat, -⟩ := qualifiedType_parts hadmits hts
      rw [heq] at htype
      cases htype
      exact ⟨hat.word, hname⟩
    | appliedType =>
      have hbase : ∀ base, (TypeSyntax.ofTrees (t :: ts)).head? = some base → base.Named :=
        fun base hhead => types_named hts base (List.mem_of_head? hhead)
      rw [TypeSyntax.ofTree?] at htype
      split at htype
      · exact hbase type htype
      · obtain ⟨base, hhead, rfl⟩ := Option.map_eq_some_iff.1 htype
        exact hbase base hhead
    | pointerType | sliceType | arrayType =>
      obtain ⟨inner, hlast, rfl⟩ := Option.map_eq_some_iff.1 htype
      exact hinner inner hlast
    | parenthesizedType => exact hinner type htype
    | structType =>
      cases htype
      exact allNamed_iff.2 (fields_named hts)
    | interfaceType | mapType | channelType | functionType | negatedType =>
      cases htype
      trivial
    | _ => cases htype
  | _ => cases htype
  termination_by sizeOf t

theorem types_named {ss : List Part} {i j : Nat} {ts : List Tree} (h : SpansAll cs ss i ts j) :
    ∀ type ∈ TypeSyntax.ofTrees ts, type.Named := by
  cases h with
  | nil => nofun
  | cons hle ht hts =>
    rename_i t ts
    rw [TypeSyntax.ofTrees]
    split
    · next type htype => exact List.forall_mem_cons.2 ⟨type_named ht htype, types_named hts⟩
    · exact types_named hts
  termination_by sizeOf ts

theorem field_named {s : Part} {i j : Nat} {t : Tree} {f : FieldSyntax} (h : Spans cs s i t j)
    (hf : FieldSyntax.ofTree? t = some f) : f.Named := by
  cases h with
  | node hadmits hts =>
    rename_i k ss t ts
    obtain ⟨hk, type, htype, rfl⟩ := field_ofTree? hf
    have hnamed : type.Named := types_named hts type (List.mem_of_getLast? htype)
    rcases hk with rfl | rfl
    · obtain ⟨_, _, _, name, us, heq, -, hat, -⟩ := first_name hadmits.fronts hts
      obtain ⟨rfl, rfl⟩ := List.cons.inj heq
      refine ⟨?_, hnamed⟩
      rw [fieldNames_word hat.word]
      rintro name ⟨⟩
      exact hat.word
    · exact named_embedded hnamed
  | _ => cases hf
  termination_by sizeOf t

theorem fields_named {ss : List Part} {i j : Nat} {ts : List Tree} (h : SpansAll cs ss i ts j) :
    ∀ f ∈ FieldSyntax.ofTrees ts, f.Named := by
  cases h with
  | nil => nofun
  | cons hle ht hts =>
    rename_i t ts
    rw [FieldSyntax.ofTrees]
    split
    · next f hf => exact List.forall_mem_cons.2 ⟨field_named ht hf, fields_named hts⟩
    · exact fields_named hts
  termination_by sizeOf ts

end

/-! ## Files -/

/-- The names in what is declared as a type are words. -/
def Declaration.TypeNamed : Declaration → Prop
  | type _ t _ => t.Named
  | function _ _ _ => True

theorem specs_typeNamed (hts : SpansAll cs ss i ts j) :
    ∀ d ∈ ts.filterMap TopNode.spec?, d.TypeNamed := by
  induction ts generalizing ss i with
  | nil => nofun
  | cons t ts ih =>
    cases hts with
    | cons hle ht hts =>
      rcases spec_cases ht with ⟨-, hspec⟩ | ⟨_, _, _, _, _, _, type, -, hspec, htype, -, -, -, hus⟩
      · rw [List.filterMap_cons_none hspec]
        exact ih hts
      · rw [List.filterMap_cons_some hspec]
        exact List.forall_mem_cons.2
          ⟨types_named hus type (List.mem_of_getLast? htype), ih hts⟩

theorem TopNode.Over.typeNamed {n : TopNode} (hn : TopNode.Over cs i j t n) :
    ∀ d ∈ n.declared, d.TypeNamed := by
  cases hn with
  | types hparts => exact specs_typeNamed hparts
  | function hi hat hle => exact List.forall_mem_singleton.2 trivial
  | method hi hat hle => exact List.forall_mem_singleton.2 trivial
  | package hat => nofun
  | skipped hk => nofun
  | foreign hk => nofun

theorem nodes_typeNamed (hts : SpansAll cs ss i ts j) :
    ∀ n ∈ ts.filterMap TopNode.ofTree?, ∀ d ∈ n.declared, d.TypeNamed := by
  induction ts generalizing ss i with
  | nil => nofun
  | cons t ts ih =>
    cases hts with
    | cons hle ht hts =>
      rcases topNode_cases ht with ⟨-, hn⟩ | ⟨-, n, hn, hover⟩
      · rw [List.filterMap_cons_none hn]
        exact ih hts
      · rw [List.filterMap_cons_some hn]
        exact List.forall_mem_cons.2 ⟨hover.typeNamed, ih hts⟩

/-- **The names in the fields of a file's structs are words.** -/
theorem types_of_parse {source : String} {file : SourceFile} (h : parse source = .ok file) :
    ∀ s ∈ file.structs, ∀ f ∈ s.2, f.Named := by
  obtain ⟨ts, hts, hfile⟩ := treesOf_of_parse h
  obtain ⟨ss, j, hspans⟩ := spans_of_treesOf hts
  intro s hs
  obtain ⟨d, hd, hstruct⟩ := List.mem_filterMap.1 hs
  rw [ofNodes_declarations hfile] at hd
  obtain ⟨n, hn, hd⟩ := List.mem_flatMap.1 hd
  have hnamed := nodes_typeNamed hspans n hn d hd
  split at hstruct
  · cases hstruct
    exact allNamed_iff.1 hnamed
  · cases hstruct

end SdkGen.Go
