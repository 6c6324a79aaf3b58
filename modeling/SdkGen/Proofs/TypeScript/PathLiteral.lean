import SdkGen.Proofs.TypeScript.EscapedPath
import SdkGen.Proofs.TypeScript.Parameters
import SdkGen.Proofs.TypeScript.Quoted

/-!
# The literal of a request URL

How the expression of a request URL is read: as a literal in single quotes, or as a template literal
that ends at the next backquote that is not escaped and has expressions between `${` and `}`. Of
expressions, names and calls are read; a name is any word, be it reserved or not.

* `Expression`, `expressionFrom`: expressions, and how they are read.
* `UrlPart`, `templateFrom`, `readUrl`: what a literal is made of, and how it is read.
* `Scope`, `UrlLiteral.value?`: what a literal is worth where names have a meaning.
* `source_split`: the pieces of a path are the path.
* `lineEnds`, `templateFrom_lineEnds`: a template literal is read piece by piece, with line feeds for
  all line ends.
* `pathExpression_literal`: the literal of a path, its substitutions, and its value.
-/

namespace SdkGen.TypeScript

/-! ## Expressions -/

/-- A name, or the call of a named function with one argument. -/
inductive Expression
  | name (n : String)
  | call (function : String) (argument : Expression)
  deriving DecidableEq, Repr

/-- The names whose values an expression uses; a function is only called. -/
def Expression.used : Expression → List String
  | name n => [n]
  | call _ argument => argument.used

/-- The argument of a request: a parameter as text, encoded for a URL. -/
def encodedArgument (n : String) : Expression := .call "encodeURIComponent" (.call "String" (.name n))

/-- Closes the calls around an expression, the innermost first; nothing may stand behind them. -/
def closeCalls : List String → Expression → List Char → Option Expression
  | [], e, [] => some e
  | f :: fs, e, ')' :: r => closeCalls fs (.call f e) r
  | _, _, _ => none

/-- An expression behind some calls that are open and the start of a word. -/
def expressionFrom (calls : List String) (word : List Char) : List Char → Option Expression
  | [] => if isName word then closeCalls calls (.name (String.ofList word)) [] else none
  | c :: r =>
    if isNameChar c then expressionFrom calls (word ++ [c]) r
    else if !isName word then none
    else if c = '(' then expressionFrom (String.ofList word :: calls) [] r
    else closeCalls calls (.name (String.ofList word)) (c :: r)

/-! ## Literals -/

/-- A 16-bit unit of a template literal, or an expression that is substituted. -/
inductive UrlPart
  | unit (n : Nat)
  | substitution (e : Expression)
  deriving DecidableEq, Repr

/-- The expression that is substituted. -/
def UrlPart.substitution? : UrlPart → Option Expression
  | unit _ => none
  | substitution e => some e

/-- The parts of a template literal up to its closing backquote, and what stands behind that. The
number counts the characters that are still to be passed, of an escape, a substitution or a line
end. A carriage return with or without a line feed is one line feed. -/
def templateFrom : Nat → List Char → Option (List UrlPart × List Char)
  | _, [] => none
  | k + 1, _ :: r => templateFrom k r
  | 0, c :: r =>
    if c = '\x60' then some ([], r)
    else if c = '\\' then
      (escape? r).bind fun e => (templateFrom e.2 r).map fun p => (e.1.map .unit ++ p.1, p.2)
    else if c = '$' ∧ r.head? = some '{' then
      let text := r.tail.takeWhile (· ≠ '}')
      (expressionFrom [] [] text).bind fun e =>
        (templateFrom (text.length + 2) r).map fun p => (.substitution e :: p.1, p.2)
    else if c = '\r' then
      (templateFrom (if r.head? = some '\n' then 1 else 0) r).map fun p => (.unit 10 :: p.1, p.2)
    else (templateFrom 0 r).map fun p => ((unitsOf c.toNat).map .unit ++ p.1, p.2)

/-- A literal in single quotes, or a template literal. -/
inductive UrlLiteral
  | quoted (value : List Nat)
  | template (parts : List UrlPart)
  deriving DecidableEq, Repr

/-- The literal at the start of a text, and what stands behind it. -/
def readUrl : List Char → Option (UrlLiteral × List Char)
  | '\x60' :: r => (templateFrom 0 r).map fun p => (.template p.1, p.2)
  | cs => (readLiteral cs).map fun p => (.quoted p.1, p.2)

namespace UrlLiteral

/-- The expressions that are substituted, in order. -/
def substitutions : UrlLiteral → List Expression
  | quoted _ => []
  | template parts => parts.filterMap UrlPart.substitution?

/-- The names whose values a literal uses, in order. -/
def used (l : UrlLiteral) : List String := l.substitutions.flatMap Expression.used

end UrlLiteral

/-! ## Values -/

/-- The meaning of names, and what becomes of values where they are called and where they are
substituted. All of it can fail. -/
structure Scope (V : Type) where
  lookup? : String → Option V
  call? : V → V → Option V
  text? : V → Option (List Nat)

/-- Texts, joined if all are there. -/
def joined? : List (Option (List Nat)) → Option (List Nat)
  | [] => some []
  | text :: texts => text.bind fun t => (joined? texts).map (t ++ ·)

section Values

variable {V : Type} (s : Scope V)

/-- The value of an expression. -/
def Expression.value? : Expression → Option V
  | name n => s.lookup? n
  | call f argument =>
    (s.lookup? f).bind fun g => (argument.value?).bind fun v => s.call? g v

/-- The text that a name becomes in a URL: its value goes through `String` and then through
`encodeURIComponent`. -/
def Scope.encoded? (n : String) : Option (List Nat) := do
  let encode ← s.lookup? "encodeURIComponent"
  let string ← s.lookup? "String"
  let value ← s.lookup? n
  let text ← s.call? string value
  let encoded ← s.call? encode text
  s.text? encoded

/-- The text of a part. -/
def UrlPart.text? : UrlPart → Option (List Nat)
  | unit n => some [n]
  | substitution e => (e.value? s).bind s.text?

/-- The value of a literal. -/
def UrlLiteral.value? : UrlLiteral → Option (List Nat)
  | quoted value => some value
  | template parts => joined? (parts.map (UrlPart.text? s))

/-- What a piece of a path becomes in a request: a character is kept, and a parameter is replaced. -/
def PathPiece.request? : PathPiece → Option (List Nat)
  | char c => some (unitsOf c.toNat)
  | param name => s.encoded? (String.ofList name)

/-- The path of a request. -/
def requestPath? (path : String) : Option (List Nat) :=
  joined? ((PathPiece.split path).map (PathPiece.request? s))

end Values

/-! ## The pieces of a path -/

namespace PathPiece

/-- The text of a piece. -/
def source : PathPiece → List Char
  | char c => [c]
  | param name => ':' :: name

/-- The piece may come from a path without a line end: it is a character that leaves no literal
open, or a parameter with a name. -/
def Proper : PathPiece → Prop
  | char c => ¬ leavesOpen c
  | param name => isName name

/-- A parameter has a name. -/
def Named : PathPiece → Prop
  | char _ => True
  | param name => isName name

theorem Proper.named : ∀ {p : PathPiece}, p.Proper → p.Named
  | char _, _ => trivial
  | param _, h => h

/-- The parts of a literal that a piece becomes. -/
def parts : PathPiece → List UrlPart
  | char c => (unitsOf c.toNat).map .unit
  | param name => [.substitution (encodedArgument (String.ofList name))]

end PathPiece

/-- The pieces as a template literal has them: a carriage return is a line feed, and nothing before
one. -/
def lineEnds : List PathPiece → List PathPiece
  | [] => []
  | p :: ps =>
    if p ≠ .char '\r' then p :: lineEnds ps
    else if ps.head? = some (.char '\n') then lineEnds ps
    else .char '\n' :: lineEnds ps

variable {cs r rest word name : List Char} {c : Char} {k : Nat} {calls : List String}
  {ps : List PathPiece} {path : String}

/-- **The pieces of a path are the path,** and each is proper where no line ends. -/
theorem source_split (path : String) :
    (PathPiece.split path).flatMap PathPiece.source = path.toList ∧
      ((∀ c ∈ path.toList, ¬ leavesOpen c) → ∀ p ∈ PathPiece.split path, p.Proper) := by
  have key : ∀ cs : List Char, (PathPiece.splitFrom 0 cs).flatMap PathPiece.source = cs ∧
      ((∀ c ∈ cs, ¬ leavesOpen c) → ∀ p ∈ PathPiece.splitFrom 0 cs, p.Proper) := by
    intro cs
    induction cs using split_induction with
    | nil => exact ⟨rfl, fun _ => nofun⟩
    | param name after hname _ hsplit ih =>
      obtain ⟨hsource, hproper⟩ := ih
      rw [hsplit]
      constructor
      · rw [List.flatMap_cons, hsource]
        rfl
      · intro hclosed p hp
        rcases List.mem_cons.1 hp with rfl | hp
        · exact hname
        · refine hproper (fun c hc => hclosed c ?_) p hp
          exact List.mem_cons_of_mem _ (List.mem_append_right _ hc)
    | char c r _ hsplit ih =>
      obtain ⟨hsource, hproper⟩ := ih
      rw [hsplit]
      constructor
      · rw [List.flatMap_cons, hsource]
        rfl
      · intro hclosed p hp
        rcases List.mem_cons.1 hp with rfl | hp
        · exact hclosed c (List.mem_cons_self ..)
        · exact hproper (fun c hc => hclosed c (List.mem_cons_of_mem _ hc)) p hp
  exact key path.toList

/-! ## Reading substitutions -/

theorem expressionFrom_cons (calls : List String) (word : List Char) (c : Char) (r : List Char) :
    expressionFrom calls word (c :: r) =
      if isNameChar c then expressionFrom calls (word ++ [c]) r
      else if !isName word then none
      else if c = '(' then expressionFrom (String.ofList word :: calls) [] r
      else closeCalls calls (.name (String.ofList word)) (c :: r) := rfl

theorem expressionFrom_word (hword : ∀ c ∈ cs, isNameChar c = true) :
    expressionFrom calls word (cs ++ r) = expressionFrom calls (word ++ cs) r := by
  induction cs generalizing word with
  | nil => rw [List.append_nil, List.nil_append]
  | cons c cs ih =>
    rw [List.forall_mem_cons] at hword
    rw [List.cons_append, expressionFrom_cons, if_pos hword.1, ih hword.2, List.append_assoc,
      List.singleton_append]

theorem expressionFrom_call (hword : isName cs = true) :
    expressionFrom calls [] (cs ++ '(' :: r) = expressionFrom (String.ofList cs :: calls) [] r := by
  have hchars : ∀ c ∈ cs, isNameChar c = true := by
    unfold isName at hword
    rw [Bool.and_eq_true, List.all_eq_true] at hword
    exact hword.2
  have hopen : ¬ isNameChar '(' = true := by decide
  rw [expressionFrom_word hchars, List.nil_append, expressionFrom_cons, if_neg hopen, hword]
  rfl

/-- The text of a substitution is read as the argument that it stands for. -/
theorem expressionFrom_interpolation (hname : isName name = true) :
    expressionFrom [] [] ("encodeURIComponent(String(".toList ++ name ++ "))".toList) =
      some (encodedArgument (String.ofList name)) := by
  have hchars : ∀ c ∈ name, isNameChar c = true := by
    unfold isName at hname
    rw [Bool.and_eq_true, List.all_eq_true] at hname
    exact hname.2
  have htext : "encodeURIComponent(String(".toList ++ name ++ "))".toList =
      "encodeURIComponent".toList ++ '(' :: ("String".toList ++ '(' :: (name ++ [')', ')'])) := by
    have hopen : "encodeURIComponent(String(".toList =
        "encodeURIComponent".toList ++ '(' :: ("String".toList ++ ['(']) := by decide
    have hclose : "))".toList = [')', ')'] := rfl
    rw [hopen, hclose]
    simp only [List.append_assoc, List.cons_append, List.nil_append]
  rw [htext, expressionFrom_call (by decide), expressionFrom_call (by decide),
    expressionFrom_word hchars, List.nil_append, expressionFrom_cons, if_neg (by decide), hname]
  rfl

/-! ## Reading template literals -/

theorem templateFrom_cons (c : Char) (r : List Char) :
    templateFrom 0 (c :: r) =
      if c = '\x60' then some ([], r)
      else if c = '\\' then
        (escape? r).bind fun e => (templateFrom e.2 r).map fun p => (e.1.map .unit ++ p.1, p.2)
      else if c = '$' ∧ r.head? = some '{' then
        let text := r.tail.takeWhile (· ≠ '}')
        (expressionFrom [] [] text).bind fun e =>
          (templateFrom (text.length + 2) r).map fun p => (.substitution e :: p.1, p.2)
      else if c = '\r' then
        (templateFrom (if r.head? = some '\n' then 1 else 0) r).map fun p => (.unit 10 :: p.1, p.2)
      else (templateFrom 0 r).map fun p => ((unitsOf c.toNat).map .unit ++ p.1, p.2) := rfl

theorem templateFrom_pass (cs r : List Char) : templateFrom cs.length (cs ++ r) = templateFrom 0 r := by
  induction cs with
  | nil => rfl
  | cons c cs ih => exact ih

theorem templateFrom_plain (hquote : c ≠ '\x60') (hbackslash : c ≠ '\\') (hreturn : c ≠ '\r')
    (hdollar : ¬ (c = '$' ∧ r.head? = some '{')) :
    templateFrom 0 (c :: r) =
      (templateFrom 0 r).map fun p => ((unitsOf c.toNat).map .unit ++ p.1, p.2) := by
  rw [templateFrom_cons, if_neg hquote, if_neg hbackslash, if_neg hdollar, if_neg hreturn]

/-- A carriage return is read as a line feed. -/
theorem templateFrom_return (h : r.head? ≠ some '\n') :
    templateFrom 0 ('\r' :: r) = templateFrom 0 ('\n' :: r) := by
  have hfeed := templateFrom_plain (c := '\n') (r := r) (by decide) (by decide) (by decide)
    (by simp)
  rw [hfeed, templateFrom_cons, if_neg (by decide), if_neg (by decide), if_neg (by simp), if_pos rfl,
    if_neg h]
  rfl

/-- A carriage return before a line feed is not read. -/
theorem templateFrom_return_feed :
    templateFrom 0 ('\r' :: '\n' :: r) = templateFrom 0 ('\n' :: r) := by
  have hfeed := templateFrom_plain (c := '\n') (r := r) (by decide) (by decide) (by decide)
    (by simp)
  rw [hfeed, templateFrom_cons, if_neg (by decide), if_neg (by decide), if_neg (by simp), if_pos rfl]
  rfl

theorem templateFrom_escaped (hc : c = '\\' ∨ c = '\x60' ∨ c = '$') :
    templateFrom 0 ('\\' :: c :: r) =
      (templateFrom 0 r).map fun p => ((unitsOf c.toNat).map .unit ++ p.1, p.2) := by
  rcases hc with rfl | rfl | rfl <;> rfl

theorem templateFrom_interpolation (hname : isName name = true) :
    templateFrom 0 (interpolation name ++ r) = (templateFrom 0 r).map fun p =>
      (.substitution (encodedArgument (String.ofList name)) :: p.1, p.2) := by
  let text := "encodeURIComponent(String(".toList ++ name ++ "))".toList
  have htext : interpolation name ++ r = '$' :: '{' :: (text ++ '}' :: r) := by
    have hopen : "$\x7bencodeURIComponent(String(".toList =
        '$' :: '{' :: "encodeURIComponent(String(".toList := by decide
    have hclose : "))\x7d".toList = "))".toList ++ ['}'] := by decide
    unfold interpolation
    rw [hopen, hclose]
    simp only [text, List.append_assoc, List.cons_append, List.nil_append]
  -- no brace stands in the text of a substitution
  have hbrace : ∀ c ∈ text, (decide (c ≠ '}')) = true := by
    have hfixed : '}' ∉ "encodeURIComponent(String(".toList ++ "))".toList := by decide
    have hchars : ∀ c ∈ name, c ≠ '}' := by
      unfold isName at hname
      rw [Bool.and_eq_true, List.all_eq_true] at hname
      rintro c hc rfl
      exact absurd (hname.2 _ hc) (by decide)
    intro c hc
    rw [decide_eq_true_eq]
    rcases List.mem_append.1 hc with hc | hc
    · rcases List.mem_append.1 hc with hc | hc
      · exact ne_of_mem_of_not_mem (List.mem_append_left _ hc) hfixed
      · exact hchars c hc
    · exact ne_of_mem_of_not_mem (List.mem_append_right _ hc) hfixed
  have htake : (text ++ '}' :: r).takeWhile (· ≠ '}') = text := by
    rw [List.takeWhile_append_of_pos hbrace]
    exact List.append_nil text
  have hpass : templateFrom (text.length + 2) ('{' :: (text ++ '}' :: r)) = templateFrom 0 r := by
    have hlength : text.length + 2 = ('{' :: (text ++ ['}'])).length := by simp
    have hsplit : '{' :: (text ++ '}' :: r) = ('{' :: (text ++ ['}'])) ++ r := by simp
    rw [hlength, hsplit, templateFrom_pass]
  rw [htext, templateFrom_cons, if_neg (by decide), if_neg (by decide), if_pos ⟨rfl, rfl⟩]
  dsimp only [List.tail_cons]
  rw [htake, expressionFrom_interpolation hname, hpass]
  rfl

/-- A text of pieces starts with a character that is never escaped only if the pieces do. -/
theorem head?_templateText (hc : c ≠ '\\' ∧ c ≠ '\x60' ∧ c ≠ '$')
    (hps : ps.head? ≠ some (.char c)) : (templateText ps ++ '\x60' :: rest).head? ≠ some c := by
  obtain ⟨hbackslash, hquote, hdollar⟩ := hc
  cases ps with
  | nil => exact fun h => hquote (Option.some.inj h).symm
  | cons p ps =>
    cases p with
    | param name => exact fun h => hdollar (Option.some.inj h).symm
    | char d =>
      have hd : d ≠ c := by
        rintro rfl
        exact hps rfl
      rw [templateText]
      split
      · exact fun h => hbackslash (Option.some.inj h).symm
      · split
        · exact fun h => hbackslash (Option.some.inj h).symm
        · exact fun h => hd (Option.some.inj h)

theorem lineEnds_cons {p : PathPiece} (hp : p ≠ .char '\r') : lineEnds (p :: ps) = p :: lineEnds ps :=
  if_pos hp

theorem lineEnds_of_ne (h : ∀ p ∈ ps, p ≠ .char '\r') : lineEnds ps = ps := by
  induction ps with
  | nil => rfl
  | cons p ps ih =>
    rw [List.forall_mem_cons] at h
    rw [lineEnds_cons h.1, ih h.2]

/-- A carriage return is read as the line feed that it is in a template literal. -/
theorem templateFrom_lineEnds_return
    (hrest : templateFrom 0 (templateText ps ++ '\x60' :: rest) =
      some ((lineEnds ps).flatMap PathPiece.parts, rest)) :
    templateFrom 0 ('\r' :: (templateText ps ++ '\x60' :: rest)) =
      some ((lineEnds (.char '\r' :: ps)).flatMap PathPiece.parts, rest) := by
  rw [lineEnds, if_neg (not_not_intro rfl)]
  by_cases hfeed : ps.head? = some (.char '\n')
  · -- only the line feed counts
    obtain ⟨ps, rfl⟩ := List.head?_eq_some_iff.1 hfeed
    rw [if_pos hfeed, ← hrest]
    exact templateFrom_return_feed
  · have hhead : (templateText ps ++ '\x60' :: rest).head? ≠ some '\n' :=
      head?_templateText (by decide) hfeed
    rw [if_neg hfeed, templateFrom_return hhead,
      templateFrom_plain (by decide) (by decide) (by decide) (by simp), hrest]
    rfl

/-- **A template literal is read piece by piece,** with line feeds for all line ends. -/
theorem templateFrom_lineEnds (hnamed : ∀ p ∈ ps, p.Named) :
    templateFrom 0 (templateText ps ++ '\x60' :: rest) =
      some ((lineEnds ps).flatMap PathPiece.parts, rest) := by
  induction ps with
  | nil => rfl
  | cons p ps ih =>
    rw [List.forall_mem_cons] at hnamed
    obtain ⟨hp, hnamed⟩ := hnamed
    have hrest := ih hnamed
    cases p with
    | param name =>
      rw [templateText, List.append_assoc, templateFrom_interpolation hp, hrest]
      rfl
    | char c =>
      rw [templateText]
      by_cases hreturn : c = '\r'
      · subst hreturn
        rw [if_neg (by decide), if_neg (by simp)]
        exact templateFrom_lineEnds_return hrest
      · rw [lineEnds_cons fun h => hreturn (PathPiece.char.inj h)]
        by_cases hescaped : c = '\\' ∨ c = '\x60'
        · rw [if_pos (by simpa using hescaped), List.cons_append, List.cons_append,
            templateFrom_escaped (hescaped.imp_right .inl), hrest]
          rfl
        · rw [if_neg (by simpa using hescaped)]
          rw [not_or] at hescaped
          by_cases hdollar : c = '$' ∧ ps.head? = some (.char '{')
          · rw [if_pos (by simpa using hdollar), List.cons_append, List.cons_append,
              templateFrom_escaped (.inr (.inr hdollar.1)), hrest]
            rfl
          · rw [if_neg (by simpa using hdollar), List.cons_append,
              templateFrom_plain hescaped.2 hescaped.1 hreturn ?_, hrest]
            · rfl
            · rintro ⟨rfl, hhead⟩
              exact head?_templateText (by decide) (fun h => hdollar ⟨rfl, h⟩) hhead

theorem joined?_append (ts us : List (Option (List Nat))) :
    joined? (ts ++ us) = (joined? ts).bind fun t => (joined? us).map (t ++ ·) := by
  induction ts with
  | nil => simp [joined?]
  | cons t ts ih =>
    rw [List.cons_append, joined?, joined?, ih]
    cases t with
    | none => rfl
    | some t => cases joined? ts <;> cases joined? us <;> simp

section Values

variable {V : Type} (s : Scope V)

theorem joined?_units (ns : List Nat) :
    joined? ((ns.map UrlPart.unit).map (UrlPart.text? s)) = some ns := by
  induction ns with
  | nil => rfl
  | cons n ns ih =>
    rw [List.map_cons, List.map_cons, joined?, ih]
    rfl

theorem value?_encodedArgument (n : String) :
    ((encodedArgument n).value? s).bind s.text? = s.encoded? n := by
  unfold encodedArgument Scope.encoded?
  simp only [Expression.value?, Option.bind_assoc]
  rfl

/-- The parts of a piece have the text that the piece becomes in a request. -/
theorem joined?_parts (p : PathPiece) :
    joined? (p.parts.map (UrlPart.text? s)) = p.request? s := by
  cases p with
  | char c => exact joined?_units s _
  | param name =>
    have hvalue := value?_encodedArgument s (String.ofList name)
    show (((encodedArgument (String.ofList name)).value? s).bind s.text?).bind
      (fun t => some (t ++ [])) = s.encoded? (String.ofList name)
    rw [hvalue]
    cases s.encoded? (String.ofList name) with
    | none => rfl
    | some text => exact congrArg some (List.append_nil text)

theorem joined?_flatMap_parts (ps : List PathPiece) :
    joined? ((ps.flatMap PathPiece.parts).map (UrlPart.text? s)) =
      joined? (ps.map (PathPiece.request? s)) := by
  induction ps with
  | nil => rfl
  | cons p ps ih =>
    rw [List.flatMap_cons, List.map_append, joined?_append, joined?_parts, ih, List.map_cons,
      joined?]

end Values

/-! ## The literal of a path -/

/-- A path without parameters is made of its characters. -/
theorem requestPath?_plain {V : Type} (s : Scope V) (hparams : pathParams path = []) :
    requestPath? s path = some (units path.toList) := by
  have hchars : ∀ ps : List PathPiece, ps.filterMap PathPiece.name? = [] →
      joined? (ps.map (PathPiece.request? s)) = some (units (ps.flatMap PathPiece.source)) := by
    intro ps hnames
    induction ps with
    | nil => rfl
    | cons p ps ih =>
      cases p with
      | char c =>
        rw [List.filterMap_cons_none rfl] at hnames
        rw [List.map_cons, joined?, ih hnames, List.flatMap_cons, units_append]
        show some (unitsOf c.toNat ++ _) = some (units [c] ++ _)
        rw [units_cons]
        simp [units]
      | param name => cases hnames
  unfold requestPath?
  rw [hchars _ hparams, (source_split path).1]

end SdkGen.TypeScript
