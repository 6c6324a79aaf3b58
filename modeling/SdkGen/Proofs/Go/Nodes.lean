import SdkGen.Proofs.Go.MendedSpans

/-!
# Nodes over a text

What stands first in a node of each kind, and what is made of the node.

* `spans_of_treesOf`: the trees of a text cover it.
* `named_parts`, `method_parts`: the name of what a node declares.
* `type_isSome`, `types_found`: a node of a type stands for one.
* `spec_cases`: what a type spec declares.
* `topNode_cases`: what a node at the top of a file is.
* `ofNodes_declarations`: what a file declares.
-/

namespace SdkGen.Go

variable {cs : List Char} {s : Part} {ss : List Part} {h i j : Nat} {t : Tree} {ts us : List Tree}
  {k : Kind} {source : String} {type : TypeSyntax}

/-- **The trees of a text cover it.** -/
theorem spans_of_treesOf (h : treesOf source = .ok ts) :
    ∃ ss j, SpansAll (withoutMark source) ss 0 ts j := by
  unfold treesOf at h
  split at h
  · next htrees =>
    cases h
    exact spans_of_trees htrees
  · exact spans_of_mended h

/-! ## Names -/

/-- A name behind a given word. -/
theorem named_parts {text : String} (hss : Fronts.Describes [⟨[.fixed text, .word], false⟩] ss)
    (hts : SpansAll cs ss h ts j) :
    ∃ p i name us, ts = .leaf text p :: .leaf name (placeAt cs i) :: us ∧ h ≤ i ∧
      WordAt cs name i ∧ i + name.toList.length ≤ j := by
  obtain ⟨ss', rfl⟩ := Front.describes_open.1 (Fronts.of_describes_single hss)
  obtain ⟨p, _, us, rfl, hp, -, hle, hts⟩ := hts.fixed
  obtain ⟨i, _, name, vs, rfl, hi, hat, hle', hts⟩ := hts.word
  exact ⟨_, i, name, vs, rfl, by omega, hat, Nat.le_trans hle' hts.le⟩

/-- The name of a method stands behind the receiver. -/
theorem method_parts (hadmits : Kind.methodDeclaration.Admits ss) (hts : SpansAll cs ss h ts j) :
    ∃ p q receiver i name us,
      ts = .leaf "func" p :: .node .parameterList q receiver :: .leaf name (placeAt cs i) :: us ∧
        h ≤ i ∧ WordAt cs name i ∧ i + name.toList.length ≤ j := by
  obtain ⟨ss', rfl⟩ := Front.describes_open.1 (Fronts.of_describes_single hadmits.fronts)
  obtain ⟨p, _, us, rfl, hp, -, hle, hts⟩ := hts.fixed
  obtain ⟨q, _, _, _, _, vs, rfl, hq, -, hreceiver, hts⟩ := hts.node
  obtain ⟨i, _, name, ws, rfl, hi, hat, hle', hts⟩ := hts.word
  have hlast := hreceiver.le
  exact ⟨_, _, _, i, name, ws, rfl, by omega, hat, Nat.le_trans hle' hts.le⟩

/-- The name of a type, or the first one of a field, stands first. -/
theorem first_name (hss : Fronts.Describes [⟨[.word], false⟩] ss) (hts : SpansAll cs ss h ts j) :
    ∃ ss' i k name us, ts = .leaf name (placeAt cs i) :: us ∧ h ≤ i ∧ WordAt cs name i ∧
      i + name.toList.length ≤ k ∧ SpansAll cs ss' k us j := by
  obtain ⟨ss', rfl⟩ := Front.describes_open.1 (Fronts.of_describes_single hss)
  obtain ⟨i, k, name, us, rfl, hi, hat, hle, hts⟩ := hts.word
  exact ⟨ss', i, k, name, us, rfl, hi, hat, hle, hts⟩

/-! ## Types -/

theorem mem_types (ht : t ∈ ts) (htype : TypeSyntax.ofTree? t = some type) :
    type ∈ TypeSyntax.ofTrees ts := by
  induction ts with
  | nil => cases ht
  | cons u us ih =>
    rw [TypeSyntax.ofTrees]
    rcases List.mem_cons.1 ht with rfl | ht
    · rw [htype]
      exact List.mem_cons_self
    · split
      · exact List.mem_cons_of_mem _ (ih ht)
      · exact ih ht

theorem types_cons (htype : TypeSyntax.ofTree? t = some type) :
    TypeSyntax.ofTrees (t :: ts) = type :: TypeSyntax.ofTrees ts := by
  rw [TypeSyntax.ofTrees, htype]

/-- The name of a type. -/
theorem typeName_parts (hadmits : Kind.typeName.Admits ss) (hts : SpansAll cs ss h ts j) :
    ∃ i name, ts = [.leaf name (placeAt cs i)] ∧ h ≤ i ∧ WordAt cs name i ∧
      i + name.toList.length ≤ j := by
  obtain rfl := Front.describes_closed.1 (Fronts.of_describes_single hadmits.fronts)
  obtain ⟨i, _, name, us, rfl, hi, hat, hle, hts⟩ := hts.word
  cases hts with
  | nil hle' => exact ⟨i, name, rfl, hi, hat, Nat.le_trans hle hle'⟩

/-- The name of a type behind its package. -/
theorem qualifiedType_parts (hadmits : Kind.qualifiedType.Admits ss) (hts : SpansAll cs ss h ts j) :
    ∃ i package p name q, ts = [.leaf package (placeAt cs i), .leaf "." p, .leaf name q] ∧
      IsWord name.toList ∧ h ≤ i ∧ WordAt cs package i ∧ i + package.toList.length ≤ j := by
  obtain rfl := Front.describes_closed.1 (Fronts.of_describes_single hadmits.fronts)
  obtain ⟨i, _, package, us, rfl, hi, hat, hle, hts⟩ := hts.word
  have hend := Nat.le_trans hle hts.le
  obtain ⟨_, _, _, rfl, -, -, -, hts⟩ := hts.fixed
  obtain ⟨_, _, name, _, rfl, -, hname, -, hts⟩ := hts.word
  cases hts
  exact ⟨i, package, _, name, _, rfl, hname.word, hi, hat, hend⟩

/-- The type that is applied to arguments stands first. -/
theorem appliedType_parts (hadmits : Kind.appliedType.Admits ss) (hts : SpansAll cs ss h ts j) :
    ∃ k ∈ [.typeName, .qualifiedType, .negatedType], ∃ i j' t us, ts = t :: us ∧ h ≤ i ∧
      Spans cs (.node k) i t j' ∧ j' ≤ j := by
  obtain ⟨a, ha, hss⟩ := hadmits.fronts
  obtain ⟨k, hk, rfl⟩ : ∃ k ∈ [.typeName, .qualifiedType, .negatedType],
      (⟨[.node k], false⟩ : Front) = a := List.mem_map.1 ha
  obtain ⟨ss', rfl⟩ := Front.describes_open.1 hss
  cases hts with
  | cons hle ht hts => exact ⟨k, hk, _, _, _, _, rfl, hle, ht, hts.le⟩

mutual

/-- **A node of a type stands for one.** -/
theorem type_isSome {s : Part} {i j : Nat} {t : Tree} (h : Spans cs s i t j)
    (hs : s.isType = true) : ∃ type, TypeSyntax.ofTree? t = some type := by
  cases h with
  | word => cases hs
  | fixed => cases hs
  | leaf => cases hs
  | node hadmits hts =>
    rename_i k ss t ts
    -- a type that is wanted among the parts is found
    have hlast : k.holdsType = true →
        ∃ type, (TypeSyntax.ofTrees (t :: ts)).getLast? = some type := fun hk =>
      Option.isSome_iff_exists.1 (List.getLast?_isSome.2 (types_found hts (hadmits.type hk)))
    cases k with
    | typeName =>
      obtain ⟨i, name, heq, -⟩ := typeName_parts hadmits hts
      rw [heq]
      exact ⟨_, rfl⟩
    | qualifiedType =>
      obtain ⟨i, package, p, name, q, heq, -⟩ := qualifiedType_parts hadmits hts
      rw [heq]
      exact ⟨_, rfl⟩
    | appliedType =>
      obtain ⟨k, hk, i', j', u, us, heq, -, ht, -⟩ := appliedType_parts hadmits hts
      obtain ⟨rfl, rfl⟩ := List.cons.inj heq
      have hbase : ∀ k ∈ [.typeName, .qualifiedType, .negatedType], (Part.node k).isType = true := by
        decide
      obtain ⟨type, htype⟩ := type_isSome ht (hbase k hk)
      refine ⟨if (t :: ts).length = 1 then type else .generic type, ?_⟩
      rw [TypeSyntax.ofTree?, types_cons htype]
      dsimp only [List.head?_cons]
      split <;> rfl
    | pointerType => exact (hlast rfl).imp' .pointer fun _ h => by rw [TypeSyntax.ofTree?, h]; rfl
    | parenthesizedType => exact hlast rfl
    | sliceType => exact (hlast rfl).imp' .slice fun _ h => by rw [TypeSyntax.ofTree?, h]; rfl
    | arrayType => exact (hlast rfl).imp' .array fun _ h => by rw [TypeSyntax.ofTree?, h]; rfl
    | structType => exact ⟨_, rfl⟩
    | interfaceType => exact ⟨_, rfl⟩
    | mapType => exact ⟨_, rfl⟩
    | channelType => exact ⟨_, rfl⟩
    | functionType => exact ⟨_, rfl⟩
    | negatedType => exact ⟨_, rfl⟩
    | _ => cases hs
  termination_by sizeOf t

/-- A type among some trees is found. -/
theorem types_found {ss : List Part} {i j : Nat} {ts : List Tree} (h : SpansAll cs ss i ts j)
    (hss : ∃ s ∈ ss, s.isType = true) : TypeSyntax.ofTrees ts ≠ [] := by
  cases h with
  | nil =>
    obtain ⟨s, hs, -⟩ := hss
    cases hs
  | cons hle ht hts =>
    rename_i s ss i j t ts
    obtain ⟨s', hs', htype⟩ := hss
    rcases List.mem_cons.1 hs' with rfl | hs'
    · obtain ⟨type, hsome⟩ := type_isSome ht htype
      exact List.ne_nil_of_mem (mem_types List.mem_cons_self hsome)
    · have hrest := types_found hts ⟨s', hs', htype⟩
      rw [TypeSyntax.ofTrees]
      split
      · exact List.cons_ne_nil _ _
      · exact hrest
  termination_by sizeOf ts

end

/-- The type in a node that holds one. -/
theorem last_type (hadmits : k.Admits ss) (hk : k.holdsType = true) (hts : SpansAll cs ss h ts j) :
    ∃ type, (TypeSyntax.ofTrees ts).getLast? = some type :=
  Option.isSome_iff_exists.1 (List.getLast?_isSome.2 (types_found hts (hadmits.type hk)))

/-! ## Type specs -/

/-- A tree over a text is a type spec, which declares the last type behind its name, or declares
nothing. -/
theorem spec_cases (ht : Spans cs s h t j) :
    (t.kind? ≠ some .typeSpec ∧ TopNode.spec? t = none) ∨
    ∃ pos ss' i k name us type, t = .node .typeSpec pos (.leaf name (placeAt cs i) :: us) ∧
      TopNode.spec? t = some (.type name type (placeAt cs i)) ∧
      (TypeSyntax.ofTrees us).getLast? = some type ∧ h ≤ i ∧ WordAt cs name i ∧
      i + name.toList.length ≤ k ∧ SpansAll cs ss' k us j := by
  by_cases hk : t.kind? = some .typeSpec
  · cases ht with
    | node hadmits hts =>
      obtain rfl := Option.some.inj hk
      obtain ⟨type, htype⟩ := last_type hadmits rfl hts
      obtain ⟨ss', i, k, name, us, heq, hi, hat, hle, hus⟩ := first_name hadmits.fronts hts
      rw [heq] at htype ⊢
      refine .inr ⟨_, ss', i, k, name, us, type, rfl, ?_, htype, hi, hat, hle, hus⟩
      unfold TopNode.spec?
      simp only [htype]
    | _ => cases hk
  · refine .inl ⟨hk, ?_⟩
    unfold TopNode.spec?
    split
    · exact absurd rfl hk
    · rfl

/-! ## Nodes at the top -/

/-- The kinds of the nodes that may stand behind the package clause. -/
def topKinds : List Kind :=
  [.packageClause, .importDeclaration, .constDeclaration, .varDeclaration, .typeDeclaration,
    .functionDeclaration, .methodDeclaration]

/-- What a node over a part of a text is at the top of a file. -/
inductive TopNode.Over (cs : List Char) (h j : Nat) : Tree → TopNode → Prop
  | package {p q : Position} {name : String} {i : Nat} {parts : List Tree}
      (hat : WordAt cs name i) :
      Over cs h j (.node .packageClause p (.leaf "package" q :: .leaf name (placeAt cs i) :: parts))
        (.package name p)
  | types {p : Position} {ss : List Part} {parts : List Tree} (hparts : SpansAll cs ss h parts j) :
      Over cs h j (.node .typeDeclaration p parts) (.declarations (parts.filterMap spec?) p)
  | function {p q : Position} {name : String} {i : Nat} {parts : List Tree} (hi : h ≤ i)
      (hat : WordAt cs name i) (hle : i + name.toList.length ≤ j) :
      Over cs h j
        (.node .functionDeclaration p (.leaf "func" q :: .leaf name (placeAt cs i) :: parts))
        (.declarations [.function name false (placeAt cs i)] p)
  | method {p q r : Position} {name : String} {i : Nat} {receiver parts : List Tree} (hi : h ≤ i)
      (hat : WordAt cs name i) (hle : i + name.toList.length ≤ j) :
      Over cs h j
        (.node .methodDeclaration p
          (.leaf "func" q :: .node .parameterList r receiver :: .leaf name (placeAt cs i) :: parts))
        (.declarations [.function name true (placeAt cs i)] p)
  | skipped {k : Kind} {p : Position} {parts : List Tree}
      (hk : k ∈ [.importDeclaration, .constDeclaration, .varDeclaration]) :
      Over cs h j (.node k p parts) (.skipped p)
  | foreign {k : Kind} {p : Position} {parts : List Tree} (hk : k ∉ topKinds) :
      Over cs h j (.node k p parts) (.foreign (statementKind k parts) p)

/-- **A tree over a text is a leaf, or a node at the top of a file.** -/
theorem topNode_cases (ht : Spans cs s h t j) :
    (t.kind? = none ∧ TopNode.ofTree? t = none) ∨
      t.kind?.isSome = true ∧ ∃ n, TopNode.ofTree? t = some n ∧ TopNode.Over cs h j t n := by
  cases ht with
  | node hadmits hts =>
    refine .inr ⟨rfl, ?_⟩
    rename_i k ss t ts
    cases k with
    | packageClause =>
      obtain ⟨p, i, name, us, heq, -, hat, -⟩ := named_parts hadmits.fronts hts
      rw [heq]
      exact ⟨_, rfl, .package hat⟩
    | functionDeclaration =>
      obtain ⟨p, i, name, us, heq, hi, hat, hle⟩ := named_parts hadmits.fronts hts
      rw [heq]
      exact ⟨_, rfl, .function hi hat hle⟩
    | methodDeclaration =>
      obtain ⟨p, q, receiver, i, name, us, heq, hi, hat, hle⟩ := method_parts hadmits hts
      rw [heq]
      exact ⟨_, rfl, .method hi hat hle⟩
    | typeDeclaration => exact ⟨_, rfl, .types hts⟩
    | importDeclaration | constDeclaration | varDeclaration =>
      exact ⟨_, rfl, .skipped (by decide)⟩
    | _ => exact ⟨_, rfl, .foreign (by decide)⟩
  | _ => exact .inl ⟨rfl, rfl⟩

/-! ## The declarations of a file -/

/-- What a node declares. -/
def TopNode.declared : TopNode → List Declaration
  | declarations ds _ => ds
  | _ => []

/-- A file declares what its nodes declare, in order. -/
theorem addNodes_declarations {file file' : SourceFile} {nodes : List TopNode}
    (h : file.addNodes nodes = .ok file') :
    file'.declarations = file.declarations ++ nodes.flatMap TopNode.declared := by
  induction nodes generalizing file with
  | nil =>
    cases h
    simp
  | cons n nodes ih =>
    cases n with
    | package name p =>
      have hrest := ih h
      exact hrest
    | declarations ds p =>
      rw [SourceFile.addNodes] at h
      rw [ih h]
      simp [TopNode.declared]
    | skipped p =>
      rw [SourceFile.addNodes] at h
      exact ih h
    | foreign kind p => cases h

theorem ofNodes_declarations {file : SourceFile} {nodes : List TopNode}
    (h : SourceFile.ofNodes nodes = .ok file) :
    file.declarations = nodes.flatMap TopNode.declared := by
  cases nodes with
  | nil => cases h
  | cons n nodes =>
    cases n with
    | package name p => exact addNodes_declarations h
    | declarations ds p => cases h
    | skipped p => cases h
    | foreign kind p => cases h

end SdkGen.Go
