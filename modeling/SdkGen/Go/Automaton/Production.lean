import SdkGen.Go.Form.Table

/-!
# Productions

A form is taken apart into productions: plain sequences of symbols. A repetition becomes a phrase
of its own.

* `Production`: a phrase's number and the steps of one of its sequences.
* `Numbering`: the numbers of tokens and phrases.
* `allProductions`: all productions, phrase by phrase.
-/

namespace SdkGen.Go

/-- A symbol in a sequence, with the rank and the side in force there. -/
structure Step where
  symbol : Nat
  rank : Int
  side : Option Side
  /-- The name that the sequence gives the symbol. -/
  renamed : Option String
  deriving DecidableEq, Repr, Inhabited

/-- One sequence of symbols that makes up a phrase. -/
structure Production where
  head : Nat
  steps : Array Step
  weight : Int
  deriving DecidableEq, Repr, Inhabited

namespace Form

/-- The names of the phrases that stand for repetitions, by what is repeated. -/
abbrev Repeats := List (Form × String)

/-- Replaces each repetition within the form of a phrase by a phrase of its own. -/
def extractRepeats (owner : String) : Form → Repeats → Form × Repeats
  | .sequence a b, rs =>
    let (a', rs) := extractRepeats owner a rs
    let (b', rs) := extractRepeats owner b rs
    (.sequence a' b', rs)
  | .choice a b, rs =>
    let (a', rs) := extractRepeats owner a rs
    let (b', rs) := extractRepeats owner b rs
    (.choice a' b', rs)
  | .ranked r s f, rs => (extractRepeats owner f rs).map (.ranked r s) id
  | .weighted w f, rs => (extractRepeats owner f rs).map (.weighted w) id
  | .renamed n f, rs => (extractRepeats owner f rs).map (.renamed n) id
  | .repeated f, rs =>
    let (f', rs) := extractRepeats owner f rs
    match rs.lookup f' with
    | some name => (.phrase name, rs)
    | none =>
      let name := owner ++ " items " ++ toString rs.length
      (.phrase name, rs ++ [(f', name)])
  | f, rs => (f, rs)

/-- The choices within a form, each made in every way. -/
def alternatives : Form → List Form
  | .choice a b => alternatives a ++ alternatives b
  | .sequence a b => (alternatives a).flatMap fun x => (alternatives b).map x.sequence
  | .ranked r s f => (alternatives f).map (.ranked r s)
  | .weighted w f => (alternatives f).map (.weighted w)
  | .renamed n f => (alternatives f).map (.renamed n)
  | f => [f]

/-- The weight of a sequence: the greatest one given in it. -/
def weight : Form → Int
  | .sequence a b => if a.weight.natAbs < b.weight.natAbs then b.weight else a.weight
  | .ranked _ _ f => f.weight
  | .renamed _ f => f.weight
  | .weighted w f => if w.natAbs < f.weight.natAbs then f.weight else w
  | _ => 0

/-- Gives the last step the rank and the side in force around a ranked part. -/
def closeRank (rank : Int) (side : Option Side) : List Step → List Step
  | [] => []
  | [s] => [{ s with rank := rank, side := side }]
  | s :: t :: ts => s :: closeRank rank side (t :: ts)

/-- The steps of a sequence. A ranked part keeps its rank up to its last step only if it ends the
whole sequence. -/
def steps (number : Form → Nat) (rank : Int) (side : Option Side) (renamed : Option String)
    (last : Bool) : Form → List Step
  | .sequence a b =>
    steps number rank side renamed false a ++ steps number rank side renamed last b
  | .ranked r s f =>
    let inner := steps number r (s.or side) renamed last f
    if last then inner else closeRank rank side inner
  | .weighted _ f => steps number rank side renamed last f
  | .renamed n f => steps number rank side (some n) last f
  | .token t => [⟨number (.token t), rank, side, renamed⟩]
  | .phrase n => [⟨number (.phrase n), rank, side, renamed⟩]
  | _ => []

end Form

/-- The definitions with a phrase of its own for each repetition: twice, or what is repeated. -/
def plainDefinitions : List Definition × List Definition :=
  let (ds, repeats) := definitions.foldl (fun (ds, rs) d =>
    let (f, rs) := d.form.extractRepeats d.name rs
    (ds ++ [⟨d.name, d.shown, f⟩], rs)) ([], [])
  (ds, repeats.map fun (f, name) =>
    ⟨name, false, ((Form.phrase name).sequence (.phrase name)).choice f⟩)

/-- The numbers of tokens and phrases: first the tokens, then the phrases, then the phrases that
stand for repetitions. -/
structure Numbering where
  tokens : Array Token
  phrases : Array Definition
  /-- The number of the first phrase that stands for a repetition. -/
  firstRepeat : Nat
  deriving Inhabited

namespace Numbering

/-- The numbering of Go. -/
def ofGo : Numbering :=
  let (ds, repeats) := plainDefinitions
  ⟨Token.all.toArray, (ds ++ repeats).toArray, Token.all.length + ds.length⟩

/-- How many symbols are numbered. -/
def size (n : Numbering) : Nat := n.tokens.size + n.phrases.size

/-- The number of a token. -/
def ofToken (n : Numbering) (t : Token) : Nat := (n.tokens.idxOf? t).getD 0

/-- The number of a token or phrase. -/
def ofForm (n : Numbering) : Form → Nat
  | .token t => n.ofToken t
  | .phrase name => n.tokens.size + (n.phrases.findIdx? (·.name == name)).getD 0
  | _ => 0

/-- Whether a symbol stands for a repetition. -/
def isRepeat (n : Numbering) (symbol : Nat) : Bool := n.firstRepeat ≤ symbol

/-- Whether a symbol makes a node of its own. -/
def isShown (n : Numbering) (symbol : Nat) : Bool :=
  match n.tokens[symbol]? with
  | some t => t.isShown
  | none => (n.phrases[symbol - n.tokens.size]?).any (·.shown)

end Numbering

/-- The productions of one phrase, each once. -/
def Numbering.productionsOf (n : Numbering) (head : Nat) (f : Form) : List Production :=
  f.alternatives.foldl (fun ps a =>
    let p : Production := ⟨head, (a.steps n.ofForm 0 none none true).toArray, a.weight⟩
    if ps.contains p then ps else ps ++ [p]) []

/-- All productions, phrase by phrase. -/
def allProductions (n : Numbering) : Array Production :=
  ((n.phrases.toList.zipIdx n.tokens.size).flatMap fun (d, i) => n.productionsOf i d.form).toArray

end SdkGen.Go
