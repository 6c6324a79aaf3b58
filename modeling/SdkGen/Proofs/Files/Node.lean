import SdkGen.Files.Node

/-!
# What stands at a place

A tree is seen as what stands at each place: nothing, a directory, or a file with its bytes.

* `Node.occupant?`: what stands at a place.
* `child?_cons` to `put_cons_cons`: one step of each function.
* `child?_setChild`: the children after one of them is set.
* `occupant?_put`: what stands at each place after a file or a new directory is put somewhere.
* `put_file_same`, `put_put`: what becomes of a tree into which a file is put again.
-/

namespace SdkGen

/-- What stands at a place. -/
inductive Occupant
  | file (bytes : ByteArray)
  | directory

namespace Node

/-- What a node is, without what is below it. -/
def occupant : Node → Occupant
  | file bytes => .file bytes
  | directory _ => .directory

/-- What stands at a place below a node. -/
def occupant? (v : Node) (place : List String) : Option Occupant := (v.get? place).map occupant

variable {v root : Node} {name : String} {place dir : List String}
  {children : List (String × Node)} {bytes : ByteArray}

theorem child?_nil (name : String) : child? name [] = none := rfl

theorem child?_cons (name n : String) (v : Node) (rest : List (String × Node)) :
    child? name ((n, v) :: rest) = if n = name then some v else child? name rest := rfl

theorem setChild_nil (name : String) (v : Node) : setChild name v [] = [(name, v)] := rfl

theorem setChild_cons (name n : String) (v w : Node) (rest : List (String × Node)) :
    setChild name v ((n, w) :: rest) =
      if n = name then (n, v) :: rest else (n, w) :: setChild name v rest := rfl

theorem get?_nil (v : Node) : v.get? [] = some v := by cases v <;> rfl

theorem get?_directory_cons : (directory children).get? (name :: place) =
    match child? name children with
    | some v => v.get? place
    | none => none := rfl

theorem put_single : put v (directory children) [name] =
    directory (setChild name v children) := rfl

theorem put_cons_cons (next : String) : put v (directory children) (name :: next :: place) =
    match child? name children with
    | some w => directory (setChild name (put v w (next :: place)) children)
    | none => directory children := rfl

theorem child?_setChild (name other : String) (v : Node) (children : List (String × Node)) :
    child? other (setChild name v children) =
      if other = name then some v else child? other children := by
  induction children with
  | nil => simp [setChild_nil, child?_cons, child?_nil, eq_comm]
  | cons c children ih =>
    obtain ⟨n, w⟩ := c
    rw [setChild_cons]
    by_cases hn : n = name
    · subst hn
      by_cases ho : n = other
      · simp [child?_cons, ho]
      · simp [child?_cons, ho, Ne.symm ho]
    · by_cases ho : n = other
      · subst ho
        simp [child?_cons, hn]
      · simp [child?_cons, hn, ho, ih]

theorem occupant?_nil (v : Node) : v.occupant? [] = some v.occupant := by
  cases v <;> rfl

theorem occupant?_file_cons : (file bytes).occupant? (name :: place) = none := rfl

theorem occupant?_directory_cons : (directory children).occupant? (name :: place) =
    (child? name children).bind (occupant? · place) := by
  unfold occupant?
  rw [get?_directory_cons]
  cases child? name children <;> rfl

/-- Only a directory has something below it. -/
theorem directory_of_occupant?_cons (h : root.occupant? (name :: place) ≠ none) :
    ∃ children, root = directory children := by
  cases root with
  | file bytes => exact absurd occupant?_file_cons h
  | directory children => exact ⟨children, rfl⟩

/-- Where no directory stands, nothing stands below. -/
theorem occupant?_below (h : root.occupant? place ≠ some .directory) :
    root.occupant? (place ++ name :: dir) = none := by
  induction place generalizing root with
  | nil =>
    cases root with
    | file bytes => exact occupant?_file_cons
    | directory children => exact absurd rfl h
  | cons d place ih =>
    cases root with
    | file bytes => exact occupant?_file_cons
    | directory children =>
      rw [occupant?_directory_cons] at h
      rw [List.cons_append, occupant?_directory_cons]
      cases hchild : child? d children with
      | none => rfl
      | some w =>
        rw [hchild] at h
        exact ih h

theorem put_below {w : Node} (hchild : child? name children = some w) (hplace : place ≠ []) :
    put v (directory children) (name :: place) =
      directory (setChild name (put v w place) children) := by
  cases place with
  | nil => exact absurd rfl hplace
  | cons next place =>
    rw [put_cons_cons, hchild]

/-- **A file or an empty directory, put into a directory in place of no directory, is all that
changes.** -/
theorem occupant?_put (hdir : root.occupant? dir = some .directory)
    (hplace : root.occupant? (dir ++ [name]) ≠ some .directory)
    (hleaf : ∀ n r, v.occupant? (n :: r) = none) (q : List String) :
    (put v root (dir ++ [name])).occupant? q =
      if q = dir ++ [name] then some v.occupant else root.occupant? q := by
  -- down the directories on the way; whatever is beside the way is not looked into
  induction dir generalizing root q with
  | nil =>
    obtain ⟨children, rfl⟩ : ∃ children, root = directory children := by
      cases root with
      | file bytes => cases hdir
      | directory children => exact ⟨children, rfl⟩
    rw [List.nil_append] at hplace ⊢
    cases q with
    | nil => rfl
    | cons n r =>
      rw [put_single, occupant?_directory_cons, child?_setChild]
      by_cases hn : n = name
      · subst hn
        rw [if_pos rfl, Option.bind_some]
        cases r with
        | nil => rw [if_pos rfl, occupant?_nil]
        | cons a r =>
          -- nothing is below what is put there, and nothing was below what it replaces
          have hbelow : (directory children).occupant? ([n] ++ a :: r) = none :=
            occupant?_below hplace
          rw [hleaf, if_neg (by simp), ← hbelow]
          rfl
      · rw [if_neg hn, if_neg (by simp [hn]), occupant?_directory_cons]
  | cons d dir ih =>
    obtain ⟨children, rfl⟩ := directory_of_occupant?_cons (hdir ▸ Option.some_ne_none _)
    rw [occupant?_directory_cons] at hdir
    rw [List.cons_append, occupant?_directory_cons] at hplace
    cases hchild : child? d children with
    | none =>
      rw [hchild] at hdir
      cases hdir
    | some w =>
      rw [hchild, Option.bind_some] at hdir hplace
      rw [List.cons_append, put_below hchild (by simp)]
      cases q with
      | nil => rfl
      | cons n r =>
        rw [occupant?_directory_cons, occupant?_directory_cons, child?_setChild]
        by_cases hn : n = d
        · subst hn
          rw [if_pos rfl, Option.bind_some, ih hdir hplace, hchild, Option.bind_some]
          simp
        · rw [if_neg hn, if_neg (by simp [hn])]

/-! ## Putting again -/

/-- What is there already changes nothing. -/
theorem setChild_same (h : child? name children = some v) :
    setChild name v children = children := by
  induction children with
  | nil => cases h
  | cons c children ih =>
    obtain ⟨n, w⟩ := c
    rw [child?_cons] at h
    rw [setChild_cons]
    by_cases hn : n = name
    · rw [if_pos hn, Option.some.injEq] at h
      rw [if_pos hn, h]
    · rw [if_neg hn] at h
      rw [if_neg hn, ih h]

theorem setChild_setChild (name : String) (v w : Node) (children : List (String × Node)) :
    setChild name v (setChild name w children) = setChild name v children := by
  induction children with
  | nil => simp [setChild_nil, setChild_cons]
  | cons c children ih =>
    obtain ⟨n, u⟩ := c
    rw [setChild_cons]
    by_cases hn : n = name
    · simp [hn, setChild_cons]
    · simp [hn, setChild_cons, ih]

theorem put_same (h : root.get? place = some v) : put v root place = root := by
  induction place generalizing root with
  | nil =>
    rw [get?_nil, Option.some.injEq] at h
    rw [h]
    cases v <;> rfl
  | cons name place ih =>
    cases root with
    | file bytes => cases h
    | directory children =>
      rw [get?_directory_cons] at h
      cases hchild : child? name children with
      | none =>
        rw [hchild] at h
        cases h
      | some w =>
        rw [hchild] at h
        by_cases hplace : place = []
        · subst hplace
          have hw : w = v := by simpa [get?_nil] using h
          rw [put_single, setChild_same (hchild.trans (congrArg some hw))]
        · rw [put_below hchild hplace, ih h, setChild_same hchild]

/-- **A file that stands at a place, put there, changes nothing.** -/
theorem put_file_same (h : root.occupant? place = some (.file bytes)) :
    put (.file bytes) root place = root := by
  refine put_same ?_
  unfold occupant? at h
  rcases hget : root.get? place with _ | b | children
  · rw [hget] at h
    cases h
  · rw [hget] at h
    cases h
    rfl
  · rw [hget] at h
    cases h

/-- **What is put last counts.** -/
theorem put_put (v w root : Node) (place : List String) :
    put v (put w root place) place = put v root place := by
  induction place generalizing root with
  | nil => cases w <;> cases root <;> rfl
  | cons name place ih =>
    cases root with
    | file bytes => rfl
    | directory children =>
      by_cases hplace : place = []
      · subst hplace
        rw [put_single, put_single, put_single, setChild_setChild]
      · cases hchild : child? name children with
        | none =>
          have hput : ∀ u, put u (directory children) (name :: place) = directory children := by
            intro u
            obtain ⟨next, rest, rfl⟩ := List.exists_cons_of_ne_nil hplace
            rw [put_cons_cons, hchild]
          rw [hput, hput]
        | some u =>
          have hset : child? name (setChild name (put w u place) children) =
              some (put w u place) := by
            rw [child?_setChild, if_pos rfl]
          rw [put_below hchild hplace, put_below hset hplace, put_below hchild hplace, ih,
            setChild_setChild]

end Node

end SdkGen
