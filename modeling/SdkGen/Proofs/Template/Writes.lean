import Mathlib.Tactic.Set
import SdkGen.Template.Engine
import SdkGen.Proofs.Template.Word

/-!
# What elements write

Rules for reading a template as a text with holes, for templates without inclusions: whatever the
elements write is laid out as it stands.

* `Lays`: outputs whose layout is a text.
* `Writes`: what a renderer writes in a context.
* `Sees`: a context inside an object of the data.
* `writes_text`, `writes_name`, `writes_if`, `writes_each`: one rule for each kind of element.
-/

namespace SdkGen.Template

open Json (Value)

/-! ## Layout -/

/-- Outputs that are laid out as a text wherever no blanks come before lines. -/
def Lays (parts : List Output) (s : List Char) : Prop :=
  ∀ m : Margin, m.indent = none → (layoutAll m parts).1 = s ∧ (layoutAll m parts).2.indent = none

theorem lays_nil : Lays [] [] := fun _ hm => ⟨rfl, hm⟩

theorem layoutAll_nil (m : Margin) : layoutAll m [] = ([], m) := rfl

theorem layoutAll_cons (m : Margin) (o : Output) (os : List Output) :
    layoutAll m (o :: os) =
      ((o.layout m).1 ++ (layoutAll (o.layout m).2 os).1, (layoutAll (o.layout m).2 os).2) := rfl

theorem indented_nil (s : List Char) : Margin.indented [] s = s := by
  induction s with
  | nil => rfl
  | cons c s ih =>
    cases s with
    | nil => rfl
    | cons d s => by_cases hc : c = '\n' <;> simp [Margin.indented, hc, ih]

theorem lays_text (s : List Char) : Lays [.text s] s := by
  intro m hm
  cases s with
  | nil => exact ⟨rfl, hm⟩
  | cons c s =>
    simp only [layoutAll_cons, layoutAll_nil, Output.layout, Margin.write, hm, Option.getD_none,
      indented_nil]
    by_cases hdue : (m.isDue && !Margin.isBreak c) = true <;> simp [hdue]

theorem lays_helper {parts : List Output} {s : List Char} (isAlone : Bool) (h : Lays parts s) :
    Lays [.helper isAlone parts] s := by
  intro m hm
  obtain ⟨htext, -⟩ := h (m.enterHelper isAlone) hm
  simp only [layoutAll_cons, layoutAll_nil, Output.layout, List.append_nil]
  refine ⟨htext, ?_⟩
  unfold Margin.leave
  split <;> exact hm

theorem layoutAll_append (m : Margin) (a b : List Output) :
    layoutAll m (a ++ b) =
      ((layoutAll m a).1 ++ (layoutAll (layoutAll m a).2 b).1,
        (layoutAll (layoutAll m a).2 b).2) := by
  induction a generalizing m with
  | nil => rfl
  | cons o a ih => simp only [List.cons_append, layoutAll_cons, ih, List.append_assoc]

theorem lays_append {a b : List Output} {s t : List Char} (ha : Lays a s) (hb : Lays b t) :
    Lays (a ++ b) (s ++ t) := by
  intro m hm
  obtain ⟨hs, hm'⟩ := ha m hm
  obtain ⟨ht, hm''⟩ := hb _ hm'
  rw [layoutAll_append, hs, ht]
  exact ⟨rfl, hm''⟩

/-! ## Renderers -/

/-- A renderer writes a text in a context, and defines no templates. -/
def Writes (r : Renderer) (ctx : Context) (s : List Char) : Prop :=
  ∃ parts, r ctx = .ok (parts, ctx.inner) ∧ Lays parts s

/-- A context in an object of the data, where no block gives names to its values. -/
structure Sees (ctx : Context) (members : List (String × Value)) : Prop where
  base : (ctx.scope.base 0) = ⟨.object members, true⟩
  noNames : ∀ f ∈ ctx.scope.frames, f.names = []

variable {named : Templates} {deeper : Found → Renderer} {ctx : Context}
variable {members : List (String × Value)} {v : Value} {w : String}

theorem Writes.congr {r : Renderer} {s t : List Char} (h : Writes r ctx s) (hst : s = t) :
    Writes r ctx t := hst ▸ h

theorem writes_nil : Writes (renderElements named deeper []) ctx [] :=
  ⟨[], by rw [renderElements], lays_nil⟩

theorem writes_cons {e : Element} {es : List Element} {s t : List Char}
    (he : Writes (renderElement named deeper e) ctx s)
    (hes : Writes (renderElements named deeper es) ctx t) :
    Writes (renderElements named deeper (e :: es)) ctx (s ++ t) := by
  obtain ⟨a, ha, hs⟩ := he
  obtain ⟨b, hb, ht⟩ := hes
  refine ⟨a ++ b, ?_, lays_append hs ht⟩
  rw [renderElements]
  simp only [ha]
  rw [hb]

theorem writes_text (s : List Char) : Writes (renderElement named deeper (.text s)) ctx s :=
  ⟨[.text s], by rw [renderElement], lays_text s⟩

/-! ## Names -/

/-- What a name refers to inside an object. -/
theorem resolve_name (hsees : Sees ctx members) (hv : Keyed.lookup w members = some v)
    (hthis : w ≠ "this") : ctx.scope.resolve (namePath w) = .ok (some ⟨v, true⟩) := by
  have hnone : ctx.scope.named? w = none := by
    unfold Scope.named?
    rw [List.findSome?_eq_none_iff]
    intro f hf
    rw [hsees.noNames f hf]
    rfl
  have hwalk : Scope.walkFrom (ctx.scope.base 0) [w] = .ok (some ⟨v, true⟩) := by
    rw [hsees.base]
    simp [Scope.walkFrom, Scope.walk, Scope.step, hv, Except.map]
  unfold Scope.resolve namePath
  simp only [hthis, if_false, Bool.false_eq_true, List.head?_cons, Option.bind_some, hnone, hwalk]

theorem evalParam_name (hsees : Sees ctx members) (hv : Keyed.lookup w members = some v)
    (hthis : w ≠ "this") :
    evalParam ctx.scope (.path (namePath w)) = .ok ⟨some w, some ⟨v, true⟩⟩ := by
  rw [evalParam, resolve_name hsees hv hthis]
  rfl

theorem evalHead_name (scope : Scope) (w : String) :
    evalHead scope (.path (namePath w)) = .ok w := by
  rw [evalHead]
  rfl

theorem writes_name (place : Place) (hsees : Sees ctx members)
    (hv : Keyed.lookup w members = some v) (hthis : w ≠ "this") (hhelper : isHelper w = false) :
    Writes (renderElement named deeper (.expression place (nameCall w.toList))) ctx
      (valueText v).toList := by
  refine ⟨[.text (valueText v).toList], ?_, lays_text _⟩
  have hpath : nameCall w.toList = .mk (.path (namePath w)) [] [] := by
    rw [nameCall, String.ofList_toList]
  have hhead := evalHead_name ctx.scope w
  have hout : expressionOutput ctx.scope (nameCall w.toList) =
      .ok (.text (valueText v).toList) := by
    have hbare : (Call.mk (.path (namePath w)) [] []).isBare = true := rfl
    rw [hpath]
    unfold expressionOutput
    rw [Call.head, hhead, evalParam_name hsees hv hthis, hbare]
    simp only [bind, Except.bind, hhelper]
    rfl
  rw [renderElement]
  simp [hout, causedAt, Except.map]

/-! ## Blocks -/

variable {h : String} {isAlone : Bool} {body : List Element} {s : List Char}

theorem evalArguments_block (hsees : Sees ctx members) (hv : Keyed.lookup w members = some v)
    (hthis : w ≠ "this") :
    evalArguments ctx.scope (blockCall h.toList w.toList) [] =
      .ok (h, ⟨[⟨some w, some ⟨v, true⟩⟩], [], []⟩) := by
  have hcall : blockCall h.toList w.toList = .mk (.path (namePath h)) [.path (namePath w)] [] := by
    rw [blockCall, String.ofList_toList, String.ofList_toList]
  have hhead := evalHead_name ctx.scope h
  have hparams : evalParams ctx.scope [.path (namePath w)] =
      .ok [⟨some w, some ⟨v, true⟩⟩] := by
    rw [evalParams, evalParam_name hsees hv hthis, evalParams]
    rfl
  rw [hcall]
  unfold evalArguments
  rw [Call.head, Call.params, Call.named, hhead, hparams, evalNamed]
  rfl

/-- A block without an `else` writes what its plan says. -/
theorem writes_block {p : Plan} (place : Place) (hsees : Sees ctx members)
    (hv : Keyed.lookup w members = some v) (hthis : w ≠ "this")
    (hplan : plan h ⟨[⟨some w, some ⟨v, true⟩⟩], [], []⟩ ⟨true, false⟩ = .ok p)
    (hp : ∃ parts,
      renderPlan (renderElements named deeper body) none { ctx with current := none } p =
        .ok (parts, ctx.inner) ∧ Lays parts s) :
    Writes (renderElement named deeper
      (.block place isAlone (blockCall h.toList w.toList) [] body none)) ctx s := by
  obtain ⟨parts, hparts, hlays⟩ := hp
  refine ⟨[.helper isAlone parts], ?_, lays_helper isAlone hlays⟩
  have hblock : renderBlock isAlone (blockCall h.toList w.toList) []
      (renderElements named deeper body) none ctx = .ok ([.helper isAlone parts], ctx.inner) := by
    unfold renderBlock
    simp only [evalArguments_block hsees hv hthis, Option.isSome_none, hplan, hparts]
  rw [renderElement, renderOtherwise]
  simp only [hblock]
  rfl

/-- The helper of a block that stands under a condition. -/
def conditionHelper (wanted : Bool) : String := if wanted then "if" else "unless"

theorem writes_if (wanted : Bool) (place : Place) (hsees : Sees ctx members)
    (hv : Keyed.lookup w members = some v) (hthis : w ≠ "this")
    (hbody : Writes (renderElements named deeper body) { ctx with current := none } s) :
    Writes (renderElement named deeper (.block place isAlone
        (blockCall (conditionHelper wanted).toList w.toList) [] body none)) ctx
      (if isTruthy false v = wanted then s else []) := by
  have hplan : plan (conditionHelper wanted) ⟨[⟨some w, some ⟨v, true⟩⟩], [], []⟩ ⟨true, false⟩ =
      .ok (if isTruthy false v = wanted then .contents else .otherwise) := by
    cases wanted <;> rfl
  refine writes_block place hsees hv hthis hplan ?_
  by_cases hc : isTruthy false v = wanted
  · obtain ⟨parts, hparts, hlays⟩ := hbody
    rw [if_pos hc, if_pos hc]
    exact ⟨parts, hparts, hlays⟩
  · rw [if_neg hc, if_neg hc]
    exact ⟨[], rfl, lays_nil⟩

variable {α : Type} {membersOf : α → List (String × Value)} {text : α → List Char}

/-- Each frame of a loop over objects shows the members of one. -/
theorem renderInside_frames {r : Renderer} (ctx : Context) (xs : List α) (before : Nat)
    (hnames : ∀ f ∈ ctx.scope.frames, f.names = [])
    (hr : ∀ x ∈ xs, ∀ c : Context, Sees c (membersOf x) → Writes r c (text x)) :
    ∃ parts, renderInside r ctx ctx.inner
        (itemFrames true [] before (xs.map fun x => (none, .object (membersOf x)))) =
          .ok (parts, ctx.inner) ∧ Lays parts (xs.flatMap text) := by
  induction xs generalizing before with
  | nil => exact ⟨[], rfl, lays_nil⟩
  | cons x xs ih =>
    obtain ⟨more, hmore, hlays⟩ := ih (before + 1) fun y hy => hr y (List.mem_cons_of_mem _ hy)
    rw [List.map_cons, itemFrames, renderInside, List.flatMap_cons]
    set f : Frame := ⟨⟨.object (membersOf x), true⟩, _, _⟩ with hf
    have hsees : Sees { ctx with scope := ctx.scope.push f } (membersOf x) := by
      refine ⟨rfl, fun g hg => ?_⟩
      rcases List.mem_cons.1 hg with rfl | hg
      · rfl
      · exact hnames g hg
    obtain ⟨parts, hparts, htext⟩ := hr x (by simp) _ hsees
    refine ⟨parts ++ more, ?_, lays_append htext hlays⟩
    simp only at hparts
    rw [hparts]
    simp only
    rw [hmore]

/-- **A loop over objects** writes what its contents write inside each. -/
theorem writes_each {xs : List α} (place : Place) (hsees : Sees ctx members)
    (hv : Keyed.lookup w members = some (.array (xs.map fun x => .object (membersOf x))))
    (hthis : w ≠ "this")
    (hbody : ∀ x ∈ xs, ∀ c : Context, Sees c (membersOf x) →
      Writes (renderElements named deeper body) c (text x)) :
    Writes (renderElement named deeper
        (.block place isAlone (blockCall "each".toList w.toList) [] body none)) ctx
      (xs.flatMap text) := by
  have hitems :
      (xs.map fun x => Value.object (membersOf x)).map (fun v => ((none : Option String), v)) =
      xs.map fun x => (none, .object (membersOf x)) := by
    rw [List.map_map]
    rfl
  obtain ⟨parts, hparts, hlays⟩ := renderInside_frames { ctx with current := none } xs 0
    hsees.noNames hbody
  cases xs with
  | nil => exact writes_block place hsees hv hthis rfl ⟨[], rfl, lays_nil⟩
  | cons x xs =>
    refine writes_block (p := .inside (itemFrames true [] 0
      ((x :: xs).map fun x => (none, .object (membersOf x))))) place hsees hv hthis ?_
      ⟨parts, hparts, hlays⟩
    rw [← hitems]
    rfl

/-! ## Engines -/

/-- A template of an engine is rendered to what its elements write. -/
theorem render_eq {e : Engine} {name : String} {members : List (String × Value)}
    {elements : List Element} {s : List Char} (h : Keyed.lookup name e.templates = some elements)
    (hwrites : ∀ deeper ctx, Sees ctx members →
      Writes (renderElements e.templates deeper elements) ctx s) :
    e.render name (.object members) = .ok (String.ofList s) := by
  have hsees : Sees ⟨.ofData (.object members), [], [], 0, some name⟩ members := by
    refine ⟨rfl, fun f hf => ?_⟩
    rcases List.mem_singleton.1 hf with rfl
    rfl
  obtain ⟨parts, hparts, hlays⟩ := hwrites (e.renderer 255) _ hsees
  have hfound : e.renderer Engine.inclusionDepth ⟨some name, elements⟩
      ⟨.ofData (.object members), [], [], 0, some name⟩ = .ok (parts, []) := by
    change renderFound e.templates (e.renderer 255) _ _ = _
    rw [renderFound, hparts]
  unfold Engine.render
  rw [h]
  simp only [hfound]
  rw [(hlays .start rfl).1]

end SdkGen.Template
