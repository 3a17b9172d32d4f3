import TelemetrySpool.Proofs.Json.WhiteSpace
import TelemetrySpool.Telemetry.Request

/-!
# Indentation is layout

A request is stored in one of two forms, and the pretty one is the compact one with spaces and line
feeds outside string literals. Files that were written in the pretty form hold more line feeds than
lines, but squeezing them still gives the compact documents, one after the other: every line ends
outside the literals of its document, and its line feed is layout too.
-/

namespace TelemetrySpool.Request

open Json (squeeze Squeezes)

variable (request : Request)

/-- The pretty document of a request is squeezed to the compact one, whatever follows. -/
theorem squeezes_document :
    Squeezes (request.document true).toList (request.document false).toList := by
  have htext : ∀ isPretty, (request.document isPretty).toList =
      if isPretty then Json.pretty request.toJson else Json.compact request.toJson := fun _ => by
    rw [document, Json.render, String.toList_ofList]
  rw [htext, htext]
  exact Json.squeezes_prettyAt 0 request.toJson

/-- The line feed behind a pretty document is layout as well. -/
theorem squeezes_line : Squeezes (request.line true).toList (request.document false).toList := by
  have hfeed : Squeezes "\n".toList [] := .layout (by decide) .nil
  have hline := request.squeezes_document.append hfeed
  rwa [List.append_nil, ← String.toList_append] at hline

/-- Lines one after the other are squeezed to the documents one after the other. -/
theorem squeezes_lines (requests : List Request) :
    Squeezes (requests.flatMap fun request => (request.line true).toList)
      (requests.flatMap fun request => (request.document false).toList) := by
  induction requests with
  | nil => exact .nil
  | cons request rest ih =>
    rw [List.flatMap_cons, List.flatMap_cons]
    exact request.squeezes_line.append ih

/-- The pretty document of a request is squeezed to the compact one, which has nothing to squeeze
itself; and pretty lines one after the other are squeezed to the compact documents. -/
theorem squeeze_documents :
    (∀ request : Request,
      squeeze (request.document true).toList = (request.document false).toList ∧
        squeeze (request.document false).toList = (request.document false).toList) ∧
      ∀ requests : List Request,
        squeeze (requests.flatMap fun request => (request.line true).toList) =
          requests.flatMap fun request => (request.document false).toList := by
  refine ⟨fun request => ?_, fun requests => (squeezes_lines requests).squeeze_eq⟩
  have hpretty := request.squeezes_document.squeeze_eq
  refine ⟨hpretty, ?_⟩
  rw [← hpretty, Json.squeeze_squeeze]

end TelemetrySpool.Request
