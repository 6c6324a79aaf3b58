import SdkGen.Go.Token

/-!
# Forms of phrases

A phrase is defined by its form: a sequence, a choice or a repetition of tokens and phrases. Where
two readings compete, ranks, sides and weights say which one is preferred.

* `Form`: the right side of a definition.
* `Definition`: a phrase and its form.
-/

namespace SdkGen.Go

/-- How operators of one rank group: `a - b - c` groups to the left. -/
inductive Side
  | left
  | right
  deriving DecidableEq, Repr

/-- The right side of a phrase's definition. -/
inductive Form
  | nothing
  | token (t : Token)
  | phrase (name : String)
  | sequence (first second : Form)
  | choice (first second : Form)
  /-- Once or more often. -/
  | repeated (f : Form)
  /-- The rank decides between reading on and ending a phrase; the side decides at equal rank. -/
  | ranked (rank : Int) (side : Option Side) (f : Form)
  /-- Of two whole readings the heavier one is kept. -/
  | weighted (weight : Int) (f : Form)
  /-- A token or phrase under another name. -/
  | renamed (name : String) (f : Form)
  deriving DecidableEq, Repr, Inhabited

namespace Form

instance : AndThen Form := ⟨fun a b => a.sequence (b ())⟩

instance : OrElse Form := ⟨fun a b => a.choice (b ())⟩

/-- Present or not. -/
def maybe (f : Form) : Form := f.choice .nothing

/-- As often as present. -/
def many (f : Form) : Form := maybe (.repeated f)

/-- A given mark. -/
def mark (text : String) : Form := .token (.mark text)

/-- A given reserved word. -/
def word (text : String) : Form := .token (.reserved text)

/-- One of some marks. -/
def oneOf : List String → Form
  | [] => .nothing
  | [m] => mark m
  | m :: ms => (mark m).choice (oneOf ms)

/-- One or more, with a mark between them. -/
def separated (m : String) (f : Form) : Form := f >> many (mark m >> f)

/-- One or more, with commas between them. -/
def commaSeparated (f : Form) : Form := separated "," f

end Form

/-- The definition of a phrase. A phrase that is not `shown` makes no node of its own. -/
structure Definition where
  name : String
  shown : Bool
  form : Form
  deriving Repr, Inhabited

end SdkGen.Go
