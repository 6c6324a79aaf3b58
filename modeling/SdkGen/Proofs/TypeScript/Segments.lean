import SdkGen.Proofs.TypeScript.PathLiteral

/-!
# The segments of a path

A segment is what stands between two slashes. Parameters are looked for in the whole path, so that
one may also start in the middle of a segment, and end before the segment does.

* `segments`, `segmentName?`, `HoldsParameter`: the segments of a path, those that are a parameter
  as a whole, and those in which one starts.
* `split_segments`: no parameter goes over a slash.
* `splitFrom_eq_segmentPieces_iff`: which segments are taken as a whole or left as they are.
* `pathParams_segments_iff`: for which paths the parameters are segments, and the others are kept.
-/

namespace SdkGen.TypeScript

/-- The segments of a path, between its slashes. -/
def segments (path : String) : List (List Char) := path.toList.splitOn '/'

/-- The name of a segment that is a parameter as a whole: a colon and an identifier. -/
def segmentName? : List Char → Option (List Char)
  | ':' :: name => if isName name then some name else none
  | _ => none

/-- The names of those segments, in order. -/
def segmentNames (path : String) : List String :=
  (segments path).filterMap fun segment => (segmentName? segment).map String.ofList

/-- A parameter starts in a segment: a colon before the start of a name. -/
def HoldsParameter (segment : List Char) : Prop := ∃ c, isNameStart c ∧ [':', c] <:+: segment

/-- A parameter starts in no segment but those that are one as a whole. -/
def SegmentsApart (path : String) : Prop :=
  ∀ segment ∈ segments path, segmentName? segment = none → ¬ HoldsParameter segment

section Values

variable {V : Type} (s : Scope V)

/-- What a segment becomes in a request: it is replaced if it is a parameter, and kept if not. -/
def Scope.segment? (segment : List Char) : Option (List Nat) :=
  match segmentName? segment with
  | some name => s.encoded? (String.ofList name)
  | none => some (units segment)

/-- The path of a request, segment by segment. -/
def segmentsPath? (path : String) : Option (List Nat) :=
  joined? (((segments path).map s.segment?).intersperse (some (units ['/'])))

end Values

variable {cs r name segment : List Char} {c : Char} {path : String} {ps : List PathPiece}

/-! ## Joined lists -/

section Joined

variable {α β : Type} {sep : List β} {f g : α → List β} {l : List α}

theorem intercalate_nil_left (ls : List (List β)) : [].intercalate ls = ls.flatten := by
  induction ls with
  | nil => rfl
  | cons as ls ih =>
    cases ls with
    | nil => rw [List.intercalate_singleton, List.flatten_singleton]
    | cons bs ls => rw [List.intercalate_cons_cons, ih, List.append_nil, ← List.flatten_cons]

theorem mem_intercalate {x : β} {ls : List (List β)} (h : x ∈ sep.intercalate ls) :
    x ∈ sep ∨ ∃ as ∈ ls, x ∈ as := by
  induction ls with
  | nil => cases h
  | cons as ls ih =>
    cases ls with
    | nil =>
      rw [List.intercalate_singleton] at h
      exact .inr ⟨as, List.mem_cons_self .., h⟩
    | cons bs ls =>
      rw [List.intercalate_cons_cons, List.mem_append, List.mem_append] at h
      rcases h with (h | h) | h
      · exact .inr ⟨as, List.mem_cons_self .., h⟩
      · exact .inl h
      · exact (ih h).imp_right fun ⟨cs, hcs, hx⟩ => ⟨cs, List.mem_cons_of_mem _ hcs, hx⟩

/-- What is done to both parts of a list may be done before they are joined. -/
theorem map_intercalate {h : List α → List β} (hnil : h [] = [])
    (happend : ∀ as bs, h (as ++ bs) = h as ++ h bs) (sep : List α) (ls : List (List α)) :
    h (sep.intercalate ls) = (h sep).intercalate (ls.map h) := by
  induction ls with
  | nil => exact hnil
  | cons as ls ih =>
    cases ls with
    | nil => rw [List.map_singleton, List.intercalate_singleton, List.intercalate_singleton]
    | cons bs ls =>
      rw [List.map_cons] at ih
      rw [List.map_cons, List.map_cons, List.intercalate_cons_cons, List.intercalate_cons_cons,
        happend, happend, ih]

theorem length_intercalate_le (hle : ∀ x ∈ l, (f x).length ≤ (g x).length) :
    (sep.intercalate (l.map f)).length ≤ (sep.intercalate (l.map g)).length := by
  induction l with
  | nil => exact Nat.le_refl _
  | cons x l ih =>
    rw [List.forall_mem_cons] at hle
    have hrest := ih hle.2
    cases l with
    | nil => simpa only [List.map_singleton, List.intercalate_singleton] using hle.1
    | cons y l =>
      simp only [List.map_cons, List.intercalate_cons_cons, List.length_append] at hrest ⊢
      have hfirst := hle.1
      omega

/-- Joined lists of which none is longer than the other's are equal only one by one. -/
theorem intercalate_map_eq (hle : ∀ x ∈ l, (f x).length ≤ (g x).length)
    (heq : sep.intercalate (l.map f) = sep.intercalate (l.map g)) : ∀ x ∈ l, f x = g x := by
  induction l with
  | nil => exact fun _ => nofun
  | cons x l ih =>
    rw [List.forall_mem_cons] at hle ⊢
    cases l with
    | nil =>
      simp only [List.map_singleton, List.intercalate_singleton] at heq
      exact ⟨heq, fun _ => nofun⟩
    | cons y l =>
      have hrest : (sep.intercalate ((y :: l).map f)).length ≤
          (sep.intercalate ((y :: l).map g)).length := length_intercalate_le hle.2
      simp only [List.map_cons, List.intercalate_cons_cons, List.append_assoc] at heq hrest
      have hlength := congrArg List.length heq
      simp only [List.length_append] at hlength
      have hfirst := hle.1
      obtain ⟨hx, htail⟩ := List.append_inj heq (by omega)
      exact ⟨hx, ih hle.2 (List.append_cancel_left htail)⟩

end Joined

/-! ## Segments apart -/

theorem head?_append_slash {P : Char → Bool} (hP : P '/' = false) (h : cs.head?.any P = false) :
    (cs ++ '/' :: r).head?.any P = false := by
  cases cs with
  | nil => exact hP
  | cons c cs => exact h

/-- No parameter goes over a slash. -/
theorem splitFrom_slash (cs r : List Char) : PathPiece.splitFrom 0 (cs ++ '/' :: r) =
    PathPiece.splitFrom 0 cs ++ .char '/' :: PathPiece.splitFrom 0 r := by
  induction cs using split_induction with
  | nil => exact splitFrom_char (.inl (by decide))
  | param name after hname hafter hsplit ih =>
    rw [List.cons_append, List.append_assoc,
      splitFrom_param hname (head?_append_slash (by decide) hafter), hsplit, ih, List.cons_append]
  | char c cs hchar hsplit ih =>
    rw [List.cons_append, splitFrom_char (hchar.imp_right (head?_append_slash (by decide))), hsplit,
      ih, List.cons_append]

/-- **The pieces of a path are those of its segments.** -/
theorem split_segments (path : String) : PathPiece.split path =
    [PathPiece.char '/'].intercalate ((segments path).map (PathPiece.splitFrom 0)) := by
  have hjoined : ∀ ls : List (List Char), PathPiece.splitFrom 0 (['/'].intercalate ls) =
      [PathPiece.char '/'].intercalate (ls.map (PathPiece.splitFrom 0)) := by
    intro ls
    induction ls with
    | nil => rfl
    | cons cs ls ih =>
      cases ls with
      | nil => rw [List.map_singleton, List.intercalate_singleton, List.intercalate_singleton]
      | cons ds ls =>
        rw [List.map_cons] at ih
        rw [List.map_cons, List.map_cons, List.intercalate_cons_cons, List.intercalate_cons_cons,
          List.append_assoc, List.singleton_append, splitFrom_slash, ih, List.append_assoc,
          List.singleton_append]
  have hpath : ['/'].intercalate (segments path) = path.toList := List.intercalate_splitOn '/'
  rw [← hjoined, hpath]
  rfl

/-! ## One segment -/

/-- The pieces of a segment that is taken as a whole, or kept as it is. -/
def segmentPieces (segment : List Char) : List PathPiece :=
  match segmentName? segment with
  | some name => [.param name]
  | none => segment.map .char

theorem segmentName?_eq_some :
    segmentName? segment = some name ↔ segment = ':' :: name ∧ isName name = true := by
  unfold segmentName?
  split
  · next word =>
    split
    · next hname =>
      rw [Option.some.injEq]
      constructor
      · rintro rfl
        exact ⟨rfl, hname⟩
      · rintro ⟨heq, -⟩
        exact (List.cons.inj heq).2
    · next hname =>
      refine iff_of_false nofun ?_
      rintro ⟨heq, hname'⟩
      rw [(List.cons.inj heq).2] at hname
      exact hname hname'
  · next hnot =>
    refine iff_of_false nofun ?_
    rintro ⟨rfl, -⟩
    exact hnot _ rfl

/-- A parameter starts in a segment if and only if there is one among its pieces. -/
theorem holdsParameter_iff : HoldsParameter cs ↔ ∃ name, .param name ∈ PathPiece.splitFrom 0 cs := by
  induction cs using split_induction with
  | nil =>
    refine iff_of_false ?_ (by rintro ⟨name, ⟨⟩⟩)
    rintro ⟨c, -, hinfix⟩
    cases List.infix_nil.1 hinfix
  | param name after hname hafter hsplit _ =>
    refine iff_of_true ?_ ⟨name, by rw [hsplit]; exact List.mem_cons_self ..⟩
    cases name with
    | nil => cases hname
    | cons c name => exact ⟨c, (Bool.and_eq_true_iff.1 hname).1, [], name ++ after, rfl⟩
  | char c r hchar hsplit ih =>
    have hrest : HoldsParameter (c :: r) ↔ HoldsParameter r := by
      constructor
      · rintro ⟨d, hd, hinfix⟩
        rcases List.infix_cons_iff.1 hinfix with hhead | hrest
        · obtain ⟨rest, hrest⟩ := hhead
          obtain ⟨rfl, rfl⟩ := List.cons.inj hrest
          rcases hchar with hcolon | hstart
          · exact absurd rfl hcolon
          · exact absurd hd (Bool.eq_false_iff.1 hstart)
        · exact ⟨d, hd, hrest⟩
      · rintro ⟨d, hd, hinfix⟩
        exact ⟨d, hd, List.infix_cons hinfix⟩
    rw [hrest, ih, hsplit]
    simp

theorem splitFrom_of_not_holds (h : ¬ HoldsParameter cs) :
    PathPiece.splitFrom 0 cs = cs.map .char := by
  rw [holdsParameter_iff] at h
  induction cs using split_induction with
  | nil => rfl
  | param name after _ _ hsplit _ =>
    rw [hsplit] at h
    exact absurd ⟨name, List.mem_cons_self ..⟩ h
  | char c r _ hsplit ih =>
    rw [hsplit] at h ⊢
    rw [ih fun ⟨name, hname⟩ => h ⟨name, List.mem_cons_of_mem _ hname⟩, List.map_cons]

/-- **A segment is taken as a whole or kept as it is if and only if no parameter starts in it that
it is not itself.** -/
theorem splitFrom_eq_segmentPieces_iff :
    PathPiece.splitFrom 0 segment = segmentPieces segment ↔
      (segmentName? segment = none → ¬ HoldsParameter segment) := by
  unfold segmentPieces
  cases hname : segmentName? segment with
  | none =>
    constructor
    · rintro hpieces - hholds
      obtain ⟨name, hmem⟩ := holdsParameter_iff.1 hholds
      rw [hpieces] at hmem
      simp at hmem
    · exact fun h => splitFrom_of_not_holds (h rfl)
  | some name =>
    refine iff_of_true ?_ nofun
    obtain ⟨rfl, hword⟩ := segmentName?_eq_some.1 hname
    have hsplit : PathPiece.splitFrom 0 (':' :: (name ++ [])) = [.param name] :=
      splitFrom_param hword rfl
    rwa [List.append_nil] at hsplit

/-- The segment is its pieces, either way. -/
theorem source_segmentPieces (segment : List Char) :
    (segmentPieces segment).flatMap PathPiece.source = segment ∧
      (PathPiece.splitFrom 0 segment).flatMap PathPiece.source = segment := by
  constructor
  · unfold segmentPieces
    cases hname : segmentName? segment with
    | none => simp [List.flatMap_map, PathPiece.source]
    | some name =>
      rw [(segmentName?_eq_some.1 hname).1]
      exact List.append_nil _
  · have hsource := (source_split (String.ofList segment)).1
    unfold PathPiece.split at hsource
    rwa [String.toList_ofList] at hsource

/-! ## The names of pieces -/

theorem names_intercalate (ls : List (List PathPiece)) :
    ([PathPiece.char '/'].intercalate ls).filterMap PathPiece.name? =
      [].intercalate (ls.map (List.filterMap PathPiece.name?)) :=
  map_intercalate rfl (fun _ _ => List.filterMap_append) _ ls

theorem segmentNames_eq (path : String) : segmentNames path =
    [].intercalate ((segments path).map fun s => (segmentPieces s).filterMap PathPiece.name?) := by
  have hname : ∀ segment, (segmentPieces segment).filterMap PathPiece.name? =
      ((segmentName? segment).map String.ofList).toList := by
    intro segment
    unfold segmentPieces
    cases segmentName? segment with
    | none => simp [PathPiece.name?]
    | some name => rfl
  unfold segmentNames
  rw [intercalate_nil_left, ← List.flatMap_def, List.filterMap_eq_flatMap_toList]
  exact List.flatMap_congr fun segment _ => (hname segment).symm

theorem pathParams_eq (path : String) : pathParams path =
    [].intercalate ((segments path).map fun s =>
      (PathPiece.splitFrom 0 s).filterMap PathPiece.name?) := by
  unfold pathParams
  rw [split_segments, names_intercalate, List.map_map]
  rfl

/-- A segment names no parameter that does not start in it. -/
theorem length_names_le (segment : List Char) :
    ((segmentPieces segment).filterMap PathPiece.name?).length ≤
      ((PathPiece.splitFrom 0 segment).filterMap PathPiece.name?).length := by
  cases hname : segmentName? segment with
  | none =>
    have hnone : (segmentPieces segment).filterMap PathPiece.name? = [] := by
      simp [segmentPieces, hname, PathPiece.name?]
    rw [hnone]
    exact Nat.zero_le _
  | some name => rw [splitFrom_eq_segmentPieces_iff.2 (by rw [hname]; nofun)]

/-- The names are those of the segments only if a parameter starts in no other. -/
theorem segmentsApart_of_names (h : pathParams path = segmentNames path) : SegmentsApart path := by
  rw [pathParams_eq, segmentNames_eq] at h
  intro segment hsegment hname hholds
  have hnames := intercalate_map_eq (fun s _ => length_names_le s) h.symm segment hsegment
  obtain ⟨name, hmem⟩ := holdsParameter_iff.1 hholds
  have hfound : String.ofList name ∈
      (PathPiece.splitFrom 0 segment).filterMap PathPiece.name? :=
    List.mem_filterMap.2 ⟨_, hmem, rfl⟩
  rw [← hnames] at hfound
  simp [segmentPieces, hname, PathPiece.name?] at hfound

/-! ## The texts of pieces -/

/-- The units of the characters among pieces. -/
def keptUnits (ps : List PathPiece) : List Nat :=
  ps.flatMap fun
    | .char c => unitsOf c.toNat
    | .param _ => []

theorem keptUnits_append (ps qs : List PathPiece) :
    keptUnits (ps ++ qs) = keptUnits ps ++ keptUnits qs := List.flatMap_append

theorem keptUnits_chars (cs : List Char) : keptUnits (cs.map .char) = units cs := by
  unfold keptUnits units
  rw [List.flatMap_map]

/-- Characters are kept, and of a parameter not even the colon is. -/
theorem length_keptUnits_le (ps : List PathPiece) :
    (keptUnits ps).length ≤ (units (ps.flatMap PathPiece.source)).length ∧
      ((∃ name, .param name ∈ ps) →
        (keptUnits ps).length < (units (ps.flatMap PathPiece.source)).length) := by
  induction ps with
  | nil => exact ⟨Nat.le_refl _, by rintro ⟨name, ⟨⟩⟩⟩
  | cons p ps ih =>
    obtain ⟨hle, hlt⟩ := ih
    cases p with
    | char c =>
      have hkept : keptUnits (.char c :: ps) = unitsOf c.toNat ++ keptUnits ps := rfl
      have hsource : units ((PathPiece.char c :: ps).flatMap PathPiece.source) =
          unitsOf c.toNat ++ units (ps.flatMap PathPiece.source) := rfl
      rw [hkept, hsource, List.length_append, List.length_append]
      refine ⟨Nat.add_le_add_left hle _, ?_⟩
      rintro ⟨name, hmem⟩
      have hrest : .param name ∈ ps := (List.mem_cons.1 hmem).resolve_left nofun
      exact Nat.add_lt_add_left (hlt ⟨name, hrest⟩) _
    | param name =>
      have hkept : keptUnits (.param name :: ps) = keptUnits ps := rfl
      have hsource : units ((PathPiece.param name :: ps).flatMap PathPiece.source) =
          58 :: (units name ++ units (ps.flatMap PathPiece.source)) := by
        rw [List.flatMap_cons, units_append]
        rfl
      rw [hkept, hsource, List.length_cons, List.length_append]
      have hall : (keptUnits ps).length <
          (units name).length + (units (ps.flatMap PathPiece.source)).length + 1 := by omega
      exact ⟨Nat.le_of_lt hall, fun _ => hall⟩

/-- The pieces of a path, each segment taken as a whole or kept as it is. -/
def segmentsPieces (path : String) : List PathPiece :=
  [PathPiece.char '/'].intercalate ((segments path).map segmentPieces)

theorem split_of_segmentsApart (h : SegmentsApart path) :
    PathPiece.split path = segmentsPieces path := by
  rw [split_segments, segmentsPieces]
  congr 1
  exact List.map_congr_left fun segment hsegment =>
    splitFrom_eq_segmentPieces_iff.2 (h segment hsegment)

theorem source_segmentsPieces (path : String) :
    (segmentsPieces path).flatMap PathPiece.source = path.toList := by
  have hsource : (segments path).map (List.flatMap PathPiece.source ∘ segmentPieces) =
      segments path := by
    conv_rhs => rw [← List.map_id (segments path)]
    exact List.map_congr_left fun segment _ => (source_segmentPieces segment).1
  unfold segmentsPieces
  rw [map_intercalate rfl (fun _ _ => List.flatMap_append), List.map_map, hsource]
  exact List.intercalate_splitOn '/'

/-- The units that are kept are those of the segments only if a parameter starts in no other. -/
theorem segmentsApart_of_units
    (h : keptUnits (PathPiece.split path) = keptUnits (segmentsPieces path)) :
    SegmentsApart path := by
  have hkept : ∀ segment, segmentName? segment = none →
      keptUnits (segmentPieces segment) =
        units ((PathPiece.splitFrom 0 segment).flatMap PathPiece.source) := by
    intro segment hname
    rw [(source_segmentPieces segment).2, segmentPieces, hname]
    exact keptUnits_chars segment
  have hle : ∀ segment ∈ segments path,
      (keptUnits (PathPiece.splitFrom 0 segment)).length ≤
        (keptUnits (segmentPieces segment)).length := by
    intro segment _
    cases hname : segmentName? segment with
    | none =>
      rw [hkept segment hname]
      exact (length_keptUnits_le _).1
    | some name => rw [splitFrom_eq_segmentPieces_iff.2 (by rw [hname]; nofun)]
  unfold segmentsPieces at h
  rw [split_segments, map_intercalate rfl keptUnits_append, map_intercalate rfl keptUnits_append,
    List.map_map, List.map_map] at h
  intro segment hsegment hname hholds
  have hlength := (length_keptUnits_le (PathPiece.splitFrom 0 segment)).2
    (holdsParameter_iff.1 hholds)
  have hunits := intercalate_map_eq hle h segment hsegment
  rw [← hkept segment hname, ← hunits] at hlength
  exact Nat.lt_irrefl _ hlength

/-! ## Values -/

section Values

variable {V : Type} (s : Scope V)

theorem joined?_chars (cs : List Char) :
    joined? ((cs.map PathPiece.char).map (PathPiece.request? s)) = some (units cs) := by
  induction cs with
  | nil => rfl
  | cons c cs ih =>
    rw [List.map_cons, List.map_cons, joined?, ih]
    rfl

theorem joined?_segmentPieces (segment : List Char) :
    joined? ((segmentPieces segment).map (PathPiece.request? s)) = s.segment? segment := by
  unfold segmentPieces Scope.segment?
  cases segmentName? segment with
  | none => exact joined?_chars s segment
  | some name =>
    show (s.encoded? (String.ofList name)).bind (fun t => some (t ++ [])) = _
    simp

theorem joined?_intercalate {α : Type} (text? : α → Option (List Nat)) (sep : List α)
    (ls : List (List α)) : joined? ((sep.intercalate ls).map text?) =
      joined? ((ls.map fun l => joined? (l.map text?)).intersperse (joined? (sep.map text?))) := by
  induction ls with
  | nil => rfl
  | cons as ls ih =>
    cases ls with
    | nil =>
      rw [List.intercalate_singleton]
      show _ = (joined? (as.map text?)).bind fun t => some (t ++ [])
      simp
    | cons bs ls =>
      rw [List.intercalate_cons_cons, List.append_assoc, List.map_append, joined?_append,
        List.map_append, joined?_append, ih]
      rfl

/-- The path of a request, segment by segment, is that of these pieces. -/
theorem segmentsPath?_eq (path : String) : segmentsPath? s path =
    joined? ((segmentsPieces path).map (PathPiece.request? s)) := by
  have hslash : joined? ([PathPiece.char '/'].map (PathPiece.request? s)) = some (units ['/']) := rfl
  unfold segmentsPath? segmentsPieces
  rw [joined?_intercalate, hslash, List.map_map]
  congr 2
  exact List.map_congr_left fun segment _ => (joined?_segmentPieces s segment).symm

/-- The path of a request is that of its segments if these are apart. -/
theorem requestPath?_of_segmentsApart (h : SegmentsApart path) :
    requestPath? s path = segmentsPath? s path := by
  rw [segmentsPath?_eq, requestPath?, split_of_segmentsApart h]

end Values

/-- A scope in which every name has a value, and every value the empty text. -/
def emptyScope : Scope Unit where
  lookup? _ := some ()
  call? _ _ := some ()
  text? _ := some []

/-- There, only the characters are left of a path. -/
theorem joined?_emptyScope (ps : List PathPiece) :
    joined? (ps.map (PathPiece.request? emptyScope)) = some (keptUnits ps) := by
  induction ps with
  | nil => rfl
  | cons p ps ih =>
    rw [List.map_cons, joined?, ih]
    cases p <;> rfl

/-! ## Line ends -/

theorem named_split (path : String) : ∀ p ∈ PathPiece.split path, p.Named := by
  have key : ∀ cs : List Char, ∀ p ∈ PathPiece.splitFrom 0 cs, p.Named := by
    intro cs
    induction cs using split_induction with
    | nil => exact fun _ => nofun
    | param name after hname _ hsplit ih =>
      rw [hsplit, List.forall_mem_cons]
      exact ⟨hname, ih⟩
    | char c r _ hsplit ih =>
      rw [hsplit, List.forall_mem_cons]
      exact ⟨trivial, ih⟩
  exact key path.toList

theorem named_segmentsPieces (path : String) : ∀ p ∈ segmentsPieces path, p.Named := by
  intro p hp
  rcases mem_intercalate hp with hslash | ⟨ps, hps, hp⟩
  · rw [List.mem_singleton.1 hslash]
    trivial
  · obtain ⟨segment, -, rfl⟩ := List.mem_map.1 hps
    unfold segmentPieces at hp
    cases hname : segmentName? segment with
    | none =>
      rw [hname] at hp
      obtain ⟨c, -, rfl⟩ := List.mem_map.1 hp
      trivial
    | some name =>
      rw [hname] at hp
      rw [List.mem_singleton.1 hp]
      exact (segmentName?_eq_some.1 hname).2

/-- A character that is in no parameter is one of the pieces if it is in the path. -/
theorem char_mem_of_source (hcs : ps.flatMap PathPiece.source = cs) (hps : ∀ p ∈ ps, p.Named)
    (hc : c ≠ ':' ∧ isNameChar c = false) : .char c ∈ ps ↔ c ∈ cs := by
  rw [← hcs, List.mem_flatMap]
  constructor
  · exact fun hmem => ⟨_, hmem, List.mem_singleton_self c⟩
  · rintro ⟨p, hp, hmem⟩
    cases p with
    | char d => rwa [List.mem_singleton.1 hmem]
    | param name =>
      exfalso
      have hname : isName name = true := hps _ hp
      rcases List.mem_cons.1 hmem with hcolon | hmem
      · exact hc.1 hcolon
      · have hchar := List.all_eq_true.1 (Bool.and_eq_true_iff.1 hname).2 c hmem
        rw [hc.2] at hchar
        cases hchar

theorem return_mem_unitsOf : 13 ∈ unitsOf c.toNat ↔ c = '\r' := by
  have hreturn : 13 = c.toNat ↔ c = '\r' := by
    constructor
    · intro h
      exact Char.toNat_inj.1 h.symm
    · rintro rfl
      rfl
  unfold unitsOf
  split
  · rw [List.mem_singleton, hreturn]
  · next hlarge =>
    rw [← hreturn]
    simp only [List.mem_cons, List.not_mem_nil, or_false]
    omega

theorem return_mem_keptUnits : 13 ∈ keptUnits ps ↔ .char '\r' ∈ ps := by
  unfold keptUnits
  rw [List.mem_flatMap]
  constructor
  · rintro ⟨p, hp, hmem⟩
    cases p with
    | char c => rwa [return_mem_unitsOf.1 hmem] at hp
    | param name => cases hmem
  · exact fun hmem => ⟨_, hmem, return_mem_unitsOf.2 rfl⟩

theorem return_not_mem_lineEnds (ps : List PathPiece) : .char '\r' ∉ lineEnds ps := by
  have hfeed : PathPiece.char '\r' ≠ .char '\n' := by decide
  induction ps with
  | nil => exact List.not_mem_nil
  | cons p ps ih =>
    rw [lineEnds]
    split
    · next hp => exact List.not_mem_cons_of_ne_of_not_mem (Ne.symm hp) ih
    · split
      · exact ih
      · exact List.not_mem_cons_of_ne_of_not_mem hfeed ih

/-- Without a carriage return, the pieces are those of the template literal. -/
theorem lineEnds_split (h : '\r' ∉ path.toList) :
    lineEnds (PathPiece.split path) = PathPiece.split path := by
  refine lineEnds_of_ne fun p hp heq => h ?_
  rw [heq] at hp
  exact (char_mem_of_source (source_split path).1 (named_split path) (by decide)).1 hp

/-! ## The literal of a path -/

theorem pathParams_eq_segmentNames_iff :
    pathParams path = segmentNames path ↔ SegmentsApart path := by
  refine ⟨segmentsApart_of_names, fun hapart => ?_⟩
  unfold pathParams
  rw [split_of_segmentsApart hapart, segmentsPieces, names_intercalate, List.map_map,
    segmentNames_eq]
  rfl

theorem segmentsApart_of_no_params (h : pathParams path = []) : SegmentsApart path := by
  have hle : (segmentNames path).length ≤ (pathParams path).length := by
    rw [segmentNames_eq, pathParams_eq]
    exact length_intercalate_le fun s _ => length_names_le s
  rw [h] at hle
  apply segmentsApart_of_names
  rw [h, List.eq_nil_of_length_eq_zero (Nat.le_zero.1 hle)]

/-- With parameters, the literal is read whatever the path. -/
theorem readUrl_template (h : pathParams path ≠ []) (rest : List Char) :
    readUrl ((pathExpression path).toList ++ rest) =
      some (.template ((lineEnds (PathPiece.split path)).flatMap PathPiece.parts), rest) := by
  rw [pathExpression_template h, String.toList_ofList, List.cons_append, List.cons_append,
    List.append_assoc, List.singleton_append]
  show (templateFrom 0 _).map _ = _
  rw [templateFrom_lineEnds (named_split path)]
  rfl

/-- Without parameters, it is read if no line ends in the path. -/
theorem readUrl_quoted (h : pathParams path = []) (rest : List Char) :
    readUrl ((pathExpression path).toList ++ rest) =
      (readLiteral ((pathExpression path).toList ++ rest)).map fun p => (.quoted p.1, p.2) := by
  have hstart : ∃ more, (pathExpression path).toList ++ rest = '\'' :: more := by
    rw [pathExpression_quoted h]
    unfold stringLiteral
    rw [String.toList_append, String.toList_append]
    exact ⟨_, rfl⟩
  obtain ⟨more, hmore⟩ := hstart
  rw [hmore]
  rfl

/-- The path of a request is read from its literal if the segments are apart, and line ends are kept. -/
theorem value?_of_segmentsApart (hapart : SegmentsApart path) (hreturn : '\r' ∉ path.toList)
    (hfeed : '\n' ∈ path.toList → pathParams path ≠ []) :
    ∃ literal : UrlLiteral,
      (∀ rest, readUrl ((pathExpression path).toList ++ rest) = some (literal, rest)) ∧
      ∀ (V : Type) (s : Scope V), literal.value? s = segmentsPath? s path := by
  by_cases hparams : pathParams path = []
  · have hclosed : ∀ c ∈ path.toList, ¬ leavesOpen c := by
      intro c hc hopen
      unfold leavesOpen at hopen
      rw [Bool.or_eq_true, decide_eq_true_eq, decide_eq_true_eq] at hopen
      rcases hopen with rfl | rfl
      · exact hfeed hc hparams
      · exact hreturn hc
    refine ⟨.quoted (units path.toList), fun rest => ?_, fun V s => ?_⟩
    · rw [readUrl_quoted hparams, pathExpression_quoted hparams,
        (readLiteral_escaped_iff path rest).2 hclosed]
      rfl
    · rw [← requestPath?_of_segmentsApart s hapart]
      exact (requestPath?_plain s hparams).symm
  · refine ⟨_, readUrl_template hparams, fun V s => ?_⟩
    rw [lineEnds_split hreturn, ← requestPath?_of_segmentsApart s hapart]
    exact joined?_flatMap_parts s _

/-- The path of a request is read from its literal only then. -/
theorem segmentsApart_of_value? {literal : UrlLiteral}
    (hread : readUrl (pathExpression path).toList = some (literal, []))
    (hvalue : literal.value? emptyScope = segmentsPath? emptyScope path) :
    SegmentsApart path ∧ '\r' ∉ path.toList ∧ ('\n' ∈ path.toList → pathParams path ≠ []) := by
  by_cases hparams : pathParams path = []
  · have hapart := segmentsApart_of_no_params hparams
    rw [← requestPath?_of_segmentsApart _ hapart, requestPath?_plain _ hparams] at hvalue
    have hquoted := readUrl_quoted hparams []
    rw [List.append_nil, hread] at hquoted
    obtain ⟨⟨value, rest⟩, hliteral, heq⟩ := Option.map_eq_some_iff.1 hquoted.symm
    obtain ⟨rfl, rfl⟩ := Prod.mk.inj heq
    obtain rfl : value = units path.toList := Option.some.inj hvalue
    have hclosed := (readLiteral_escaped_iff path []).1 (by
      rwa [List.append_nil, ← pathExpression_quoted hparams])
    exact ⟨hapart, fun hreturn => hclosed _ hreturn rfl, fun hfeed => absurd rfl (hclosed _ hfeed)⟩
  · have htemplate := readUrl_template hparams []
    rw [List.append_nil, hread] at htemplate
    obtain ⟨rfl, -⟩ := Prod.mk.inj (Option.some.inj htemplate)
    have hunits : keptUnits (lineEnds (PathPiece.split path)) = keptUnits (segmentsPieces path) := by
      have hjoined := joined?_flatMap_parts emptyScope (lineEnds (PathPiece.split path))
      rw [joined?_emptyScope] at hjoined
      rw [segmentsPath?_eq, joined?_emptyScope] at hvalue
      exact Option.some.inj (hjoined.symm.trans hvalue)
    have hnot : PathPiece.char '\r' ∉ segmentsPieces path := by
      rw [← return_mem_keptUnits, ← hunits, return_mem_keptUnits]
      exact return_not_mem_lineEnds _
    have hreturn : '\r' ∉ path.toList := fun hmem => hnot <|
      (char_mem_of_source (source_segmentsPieces path) (named_segmentsPieces path) (by decide)).2 hmem
    rw [lineEnds_split hreturn] at hunits
    exact ⟨segmentsApart_of_units hunits, hreturn, fun _ => hparams⟩

/-- **The parameters of a path, and of the method for it, are its segments that are a colon and a
name if and only if no parameter starts in another segment.** In the request, only those segments are
replaced and the others are kept if and only if, moreover, no carriage return is in the path, and a
line feed only beside parameters. -/
theorem pathParams_segments_iff (path : String) :
    (pathParams path = segmentNames path ↔ SegmentsApart path) ∧
    (∀ e : Endpoint, e.path = path →
      (parameterNames e = segmentNames path ++ (if TakesData e then ["data"] else []) ↔
        SegmentsApart path)) ∧
    ((∃ literal : UrlLiteral,
        (∀ rest, readUrl ((pathExpression path).toList ++ rest) = some (literal, rest)) ∧
        ∀ (V : Type) (s : Scope V), literal.value? s = segmentsPath? s path) ↔
      SegmentsApart path ∧ '\r' ∉ path.toList ∧
        ('\n' ∈ path.toList → pathParams path ≠ [])) := by
  refine ⟨pathParams_eq_segmentNames_iff, ?_, ?_⟩
  · rintro e rfl
    rw [parameterNames_eq, List.append_cancel_right_eq]
    exact pathParams_eq_segmentNames_iff
  · constructor
    · rintro ⟨literal, hread, hvalue⟩
      have hwhole := hread []
      rw [List.append_nil] at hwhole
      exact segmentsApart_of_value? hwhole (hvalue Unit emptyScope)
    · rintro ⟨hapart, hreturn, hfeed⟩
      exact value?_of_segmentsApart hapart hreturn hfeed

/-- Behind a version, a colon starts a parameter, and the text of the segment is lost. -/
theorem pathParams_port_like :
    pathParams "/api/v1:latest" = ["latest"] ∧ segmentNames "/api/v1:latest" = [] ∧
      pathExpression "/api/v1:latest" =
        "\x60/api/v1$\x7bencodeURIComponent(String(latest))\x7d\x60" ∧
      ¬ ∀ path, pathParams path = segmentNames path := by
  have hparams : pathParams "/api/v1:latest" = ["latest"] := by decide
  have hnames : segmentNames "/api/v1:latest" = [] := by decide
  refine ⟨hparams, hnames, by decide, fun hall => ?_⟩
  have heq := hall "/api/v1:latest"
  rw [hparams, hnames] at heq
  cases heq

end SdkGen.TypeScript
