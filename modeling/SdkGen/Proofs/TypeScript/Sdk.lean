import SdkGen.Proofs.TypeScript.Client
import SdkGen.Proofs.TypeScript.Declarations
import SdkGen.TypeScript.Sdk

/-!
# Both files of an SDK

The files of an SDK, for every configuration and every model.

* `generate_texts`: both files are rendered, each with its text, the declarations first.
* `methodText_mem`: the method of each endpoint stands in the client.
* `texts_differ`: the two files never have one text.
-/

namespace SdkGen.TypeScript

open Template

variable (c : GeneratorConfig) (x : Extraction)

/-- The text of the client of an extraction. -/
def sdkClientText : String := clientText (clientStyle c) x.endpoints x.records

/-- The declarations and the client of an extraction, as files. -/
def typesFile : GeneratedFile := ⟨.types, c.typesOutput, declarationsText c x.records⟩

def clientFile : GeneratedFile := ⟨.client, c.clientOutput, sdkClientText c x⟩

theorem generateTypes_text : generateTypes c x = .ok (declarationsText c x.records) := by
  obtain ⟨p, hp⟩ := lookup_declarations
  have hrender := render_eq hp fun deeper ctx hsees => writes_declarations c p x.records hsees
  unfold generateTypes DeclarationStyle.render renderTemplate
  rw [data_declarationStyle, hrender, String.ofList_toList]
  rfl

theorem generateClient_text : generateClient c x = .ok (sdkClientText c x) := by
  obtain ⟨p, hp⟩ := lookup_client
  have hrender := render_eq hp fun deeper ctx hsees =>
    writes_client p (clientStyle c) x.endpoints x.records hsees
  unfold generateClient ClientStyle.render renderTemplate
  rw [data_clientStyle, hrender, String.ofList_toList]
  rfl

/-- **Rendering succeeds for every configuration and every model.** -/
theorem generate_texts : generate c x = .ok [typesFile c x, clientFile c x] := by
  unfold generate
  rw [generateTypes_text, generateClient_text]
  rfl

/-- What is joined stands in the text that it is joined to. -/
theorem join_of_mem {α : Type} {a : α} {as : List α} (f : α → String) (h : a ∈ as) :
    ∃ before after, String.join (as.map f) = before ++ f a ++ after := by
  obtain ⟨front, back, rfl⟩ := List.append_of_mem h
  refine ⟨String.join (front.map f), String.join (back.map f), ?_⟩
  rw [List.map_append, List.map_cons, String.join_append, String.join_cons, String.append_assoc]

theorem methodText_mem {e : Endpoint} (he : e ∈ x.endpoints) :
    ∃ before after, sdkClientText c x = before ++ methodText e ++ after := by
  obtain ⟨front, back, hmethods⟩ := join_of_mem methodText he
  unfold sdkClientText clientText
  rw [hmethods]
  generalize _ ++ clientClass = start
  refine ⟨start ++ front, back ++ clientTail, ?_⟩
  simp only [String.append_assoc]

/-- The first lines of the two files are different. -/
theorem texts_differ : declarationsText c x.records ≠ sdkClientText c x := by
  have htypes : (declarationsText c x.records).toList[29]? = some 't' := by
    unfold declarationsText
    simp only [String.append_assoc, String.toList_append]
    rw [List.getElem?_append_left (by decide)]
    decide
  have hclient : (sdkClientText c x).toList[29]? = some 'A' := by
    unfold sdkClientText clientText
    simp only [String.append_assoc, String.toList_append]
    rw [List.getElem?_append_left (by decide)]
    decide
  intro h
  rw [h, hclient] at htypes
  cases htypes

end SdkGen.TypeScript
