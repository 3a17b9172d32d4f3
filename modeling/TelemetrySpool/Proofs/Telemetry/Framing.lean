import TelemetrySpool.Pipeline
import TelemetrySpool.Proofs.Json.Inline
import TelemetrySpool.Proofs.Time.Stamp

/-!
# Lines can be told apart

The compact document of a request holds no line end, so that the line feed behind it is the only
one of its line. Cutting stored lines at line feeds thus gives back the documents, and the console
shows a document as it is stored.
-/

namespace TelemetrySpool

open Text (Inline)

/-- No line ends in text without control characters. -/
theorem Text.Inline.not_isLineEnd {text : List Char} (h : Inline text) {c : Char} (hc : c ∈ text) :
    Record.isLineEnd c = false := by
  have hcr : c ≠ '\r' := by
    rintro rfl
    exact h.notMem (by decide) hc
  have hlf : c ≠ '\n' := by
    rintro rfl
    exact h.notMem (by decide) hc
  simp only [Record.isLineEnd, hcr, hlf, decide_false, Bool.or_self]

theorem Signal.inline_name (signal : Signal) : Inline signal.name.toList := by
  cases signal <;> decide

namespace Instant

theorem inline_padded (width n : Nat) : Inline (Digits.padded width n) :=
  .of_isDigit fun _ => Digits.isDigit_of_mem_padded

/-- The text of an offset has no control character. -/
theorem inline_offsetText (offset : Int) : Inline (offsetText offset) := by
  have hsign : Inline [if offset < 0 then '-' else '+'] := by split <;> decide
  refine Inline.cons_iff.2 ⟨hsign _ (List.mem_singleton_self _), ?_⟩
  simp only [Inline.append_iff, Inline.cons_iff, inline_padded, and_true, true_and]
  decide

/-- The readable form of an instant has no control character, whatever the offset is. -/
theorem inline_readable (t : Instant) (offset : Int) : Inline (t.readable offset).toList := by
  have hyear : ∀ year, Inline (yearText year) := fun year c hc => by
    rcases mem_yearText hc with h | rfl | rfl
    · exact Inline.of_isDigit (fun d hd => List.mem_singleton.1 hd ▸ h) c
        (List.mem_singleton_self c)
    · decide
    · decide
  simp only [readable, String.toList_ofList, Inline.append_iff, Inline.cons_iff, inline_padded,
    hyear, inline_offsetText, and_true, true_and]
  decide

end Instant

namespace Request

variable (request : Request)

/-- A compact document has no control character. -/
theorem inline_document : Inline (request.document false).toList := by
  rw [document, Json.render, String.toList_ofList]
  exact Json.inline_compact request.toJson

/-- A line is a document and a line feed. -/
theorem toList_line :
    (request.line false).toList = (request.document false).toList ++ ['\n'] := by
  rw [line, String.toList_append]
  rfl

/-- Stored lines are cut into the documents that they were made from. -/
theorem pieces_lines (requests : List Request) :
    Text.pieces '\n' (requests.flatMap fun request => (request.line false).toList) =
      requests.map (fun request => (request.document false).toList) ++ [[]] := by
  induction requests with
  | nil => rfl
  | cons request rest ih =>
    have hn : '\n' ∉ (request.document false).toList :=
      request.inline_document.notMem (by decide)
    rw [List.flatMap_cons, toList_line, List.append_assoc, List.singleton_append,
      Text.pieces_append_cons hn, ih, List.map_cons, List.cons_append]

/-- Of a line that is a document and a line feed, the document is left without its line ends. -/
theorem trimEnd_line :
    Text.trimEnd Record.isLineEnd (request.line false).toList =
      (request.document false).toList := by
  rw [toList_line, Text.trimEnd_concat _ (by decide)]
  -- The last character of the document, if there is one, ends no line.
  rcases List.eq_nil_or_concat (request.document false).toList with h | ⟨init, c, h⟩
  · rw [h]
    rfl
  · have hm : c ∈ (request.document false).toList := by simp [h]
    have hc := request.inline_document.not_isLineEnd hm
    rw [h, List.concat_eq_append, Text.trimEnd_concat_of_not _ (by simp [hc])]

/-- The console shows the time, the signal and the document of a request. -/
theorem consoleLine_eq {record : Record} (h : record.line = request.line false)
    (offset : Instant → Int) :
    record.consoleLine offset = "[" ++ record.time.readable (offset record.time) ++ "] [" ++
      record.signal.name ++ "] " ++ request.document false := by
  rw [Record.consoleLine, h, trimEnd_line, String.ofList_toList]

/-- Without indentation a pipeline makes one record of every request, with its line. -/
theorem exists_record {σ : Type} (sinks : List (Registered σ)) (time : Instant) :
    ∃ record, Pipeline.record ⟨false, sinks⟩ request request.signal time = .ok record ∧
      record.line = request.line false ∧ record.signal = request.signal ∧ record.time = time := by
  exact ⟨⟨request.signal, request.line false, request.isError, time, request.signal_ne⟩,
    by rw [Pipeline.record, dif_neg request.signal_ne, if_neg fun h => h rfl], rfl, rfl, rfl⟩

/-- The line of a request ends in its only line feed and has no carriage return, so that lines one
after the other are cut at line feeds into their documents; and in any local time the console shows
the record of a request on one line that ends in the document. -/
theorem lines_framed {σ : Type} (sinks : List (Registered σ)) (requests : List Request) :
    (∀ request : Request,
      (request.line false).toList = (request.document false).toList ++ ['\n'] ∧
        '\n' ∉ (request.document false).toList ∧ '\r' ∉ (request.line false).toList) ∧
      Text.pieces '\n' (requests.flatMap fun request => (request.line false).toList) =
        requests.map (fun request => (request.document false).toList) ++ [[]] ∧
      ∀ (request : Request) (time : Instant) (offset : Instant → Int), ∃ record,
        Pipeline.record ⟨false, sinks⟩ request request.signal time = .ok record ∧
          (∀ c ∈ (record.consoleLine offset).toList, Record.isLineEnd c = false) ∧
          record.consoleLine offset = "[" ++ time.readable (offset time) ++ "] [" ++
            request.signal.name ++ "] " ++ request.document false := by
  refine ⟨fun request => ⟨request.toList_line, ?_, ?_⟩, pieces_lines requests,
    fun request time offset => ?_⟩
  · exact request.inline_document.notMem (by decide)
  · rw [toList_line, List.mem_append, List.mem_singleton, not_or]
    exact ⟨request.inline_document.notMem (by decide), by decide⟩
  · obtain ⟨record, hrecord, hline, hsignal, htime⟩ := request.exists_record sinks time
    have hshown := request.consoleLine_eq hline offset
    rw [hsignal, htime] at hshown
    refine ⟨record, hrecord, ?_, hshown⟩
    have hinline : Inline (record.consoleLine offset).toList := by
      rw [hshown]
      simp only [String.toList_append, Inline.append_iff, time.inline_readable,
        request.signal.inline_name, request.inline_document, and_true]
      decide
    exact fun c hc => hinline.not_isLineEnd hc

end Request

end TelemetrySpool
