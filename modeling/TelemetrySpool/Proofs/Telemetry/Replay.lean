import TelemetrySpool.Proofs.Json.ReadBack
import TelemetrySpool.Proofs.Telemetry.Contents

/-!
# Stored documents can be replayed

The document that is stored for a request is read back as the request, in either layout, if its
doubles are finite, its attribute values are complete and it opens no more brackets than a reader
allows. A request that arrived in JSON always is like this, whatever its document looked like: so
what was accepted once and stored is accepted again and is the same request. What is asked of the
doubles is only that the reader takes the text of each one for that double.
-/

namespace TelemetrySpool

open AnyValue (AllComplete)
open Json (Every Written HasKind FiniteDouble Regular Sound Settled Faithful depth)

/-- Whether the text of a double is read as that double. -/
def Double.ReadsBack (x : Double) : Prop :=
  Json.parse? (Bytes.ofText (String.ofList (Json.doubleText x))) = some (.double x)

/-- The double that a JSON value is. -/
def Json.double? : Json → Option Double
  | double x => some x
  | _ => none

/-- Reading the text of a double decides whether it is read back. -/
theorem Double.readsBack_iff (x : Double) :
    x.ReadsBack ↔ (Json.parse? (Utf8.octets (Json.doubleText x))).bind Json.double? = some x := by
  rw [ReadsBack, Utf8.ofText_ofList]
  generalize Json.parse? (Utf8.octets (Json.doubleText x)) = read
  rcases read with _ | (_ | _ | _ | y | _ | _ | _ | _) <;> simp [Json.double?]

instance (x : Double) : Decidable x.ReadsBack := decidable_of_iff _ x.readsBack_iff.symm

namespace Request

/-- The doubles of a request, measured ones and those in attributes. -/
def doubles (m : Request) : List Double := m.toJson.doubles

/-- Every request writes words and nothing unreadable. -/
theorem written (m : Request) : Every Written m.toJson := by
  cases m with
  | traces request => exact TraceRequest.schema_lawful.written request
  | logs request => exact LogsRequest.schema_lawful.written request
  | metrics request => exact MetricsRequest.schema_lawful.written request

/-- A request is read back from its JSON value. -/
theorem ofJson?_toJson {m : Request} (hk : Every HasKind m.toJson)
    (hd : depth m.toJson ≤ AnyValue.maxLevels) : ofJson? m.signal m.toJson = some m := by
  cases m with
  | traces request =>
    show (TraceRequest.schema.ofJson? (TraceRequest.schema.toJson request)).map traces = _
    rw [TraceRequest.schema_lawful.ofJson?_toJson request hk hd, Option.map_some]
  | logs request =>
    show (LogsRequest.schema.ofJson? (LogsRequest.schema.toJson request)).map logs = _
    rw [LogsRequest.schema_lawful.ofJson?_toJson request hk hd, Option.map_some]
  | metrics request =>
    show (MetricsRequest.schema.ofJson? (MetricsRequest.schema.toJson request)).map metrics = _
    rw [MetricsRequest.schema_lawful.ofJson?_toJson request hk hd, Option.map_some]

/-- The brackets that missing lists can add to any request. -/
def slack : Nat := 12

/-- Whatever a request was read from, what it writes is sound and nests no deeper. -/
theorem settled {signal : Signal} {j : Json} {m : Request} (hj : Every Regular j)
    (h : ofJson? signal j = some m) :
    m.signal = signal ∧ Settled (max (depth j) slack) m.toJson := by
  cases signal with
  | unspecified => cases h
  | traces =>
    obtain ⟨request, hr, rfl⟩ := Option.map_eq_some_iff.1 h
    exact ⟨rfl, (TraceRequest.schema_lawful.settled hj hr).mono (by unfold slack; omega)⟩
  | logs =>
    obtain ⟨request, hr, rfl⟩ := Option.map_eq_some_iff.1 h
    exact ⟨rfl, (LogsRequest.schema_lawful.settled hj hr).mono (by unfold slack; omega)⟩
  | metrics =>
    obtain ⟨request, hr, rfl⟩ := Option.map_eq_some_iff.1 h
    exact ⟨rfl, (MetricsRequest.schema_lawful.settled hj hr).mono (by unfold slack; omega)⟩

theorem decode_json_eq_ok {signal : Signal} {body : Bytes} {m : Request} :
    decode signal .json body = .ok m ↔
      ∃ j, Json.parse? body = some j ∧ ofJson? signal j = some m := by
  rw [← Option.bind_eq_some_iff, decode]
  cases (Json.parse? body).bind (ofJson? signal) with
  | none => simp
  | some request => simp

/-- The doubles of a request decide whether its JSON value is faithful. -/
theorem every_faithful {m : Request} (hx : ∀ x ∈ m.doubles, x.isFinite ∧ x.ReadsBack) :
    Every Faithful m.toJson := by
  intro part hpart
  have hw := m.written part hpart
  cases part with
  | integer n => exact hw
  | double x =>
    obtain ⟨hf, hr⟩ := hx x (Json.mem_doubles.2 hpart)
    rw [Double.ReadsBack, Utf8.ofText_ofList] at hr
    exact ⟨hf, hr⟩
  | unreadable => exact hw
  | _ => trivial

/-- A document is read back as the request that it was written for. -/
theorem decode_document {m : Request} (hx : ∀ x ∈ m.doubles, x.isFinite ∧ x.ReadsBack)
    (hv : AllComplete m.values) (hd : depth m.toJson ≤ Json.maxDepth) (isPretty : Bool) :
    decode m.signal .json (Bytes.ofText (m.document isPretty)) = .ok m := by
  have hparse : Json.parse? (Bytes.ofText (m.document isPretty)) = some m.toJson :=
    Json.parse?_render (every_faithful hx) hd isPretty
  have hread : ofJson? m.signal m.toJson = some m :=
    ofJson?_toJson (m.every_hasKind.2 hv) (Nat.le_trans hd (by decide))
  exact decode_json_eq_ok.2 ⟨m.toJson, hparse, hread⟩

/-- A request that was read from a document can be written so that it is read back. -/
theorem sound_of_decode {signal : Signal} {body : Bytes} {m : Request}
    (h : decode signal .json body = .ok m) : m.signal = signal ∧ (∀ x ∈ m.doubles, x.isFinite) ∧
      AllComplete m.values ∧ depth m.toJson ≤ Json.maxDepth := by
  obtain ⟨j, hparse, hread⟩ := decode_json_eq_ok.1 h
  have hfits := Json.fits_of_parse? hparse
  obtain ⟨hsignal, hsound, hdepth⟩ := settled hfits.2 hread
  refine ⟨hsignal, fun x hx => (hsound _ (Json.mem_doubles.1 hx)).2, ?_, Nat.le_trans hdepth ?_⟩
  · exact m.every_hasKind.1 (hsound.mono fun _ hs => hs.1)
  · exact Nat.max_le.2 ⟨hfits.1, by decide⟩

/--
Stored JSON can be replayed. Any request with finite doubles, complete attribute values and at most
as many nested brackets as a reader allows is given back by its document in either layout; every
request that is accepted in JSON is such a request; and so storing what was accepted and reading it
again changes nothing. Each double has to be one that the reader gives back from its own text.
-/
theorem replay :
    (∀ (m : Request) (isPretty : Bool), (∀ x ∈ m.doubles, x.ReadsBack) →
      (∀ x ∈ m.doubles, x.isFinite) → AllComplete m.values → depth m.toJson ≤ 127 →
        decode m.signal .json (Bytes.ofText (m.document isPretty)) = .ok m) ∧
    (∀ (signal : Signal) (body : Bytes) (m : Request), decode signal .json body = .ok m →
      (∀ x ∈ m.doubles, x.isFinite) ∧ AllComplete m.values ∧ depth m.toJson ≤ 127) ∧
    ∀ (signal : Signal) (body : Bytes) (m : Request) (isPretty : Bool),
      decode signal .json body = .ok m → (∀ x ∈ m.doubles, x.ReadsBack) →
        decode signal .json (Bytes.ofText (m.document isPretty)) = decode signal .json body := by
  refine ⟨?_, ?_, ?_⟩
  · intro m isPretty hr hf hv hd
    exact decode_document (fun x hx => ⟨hf x hx, hr x hx⟩) hv hd isPretty
  · intro signal body m h
    exact (sound_of_decode h).2
  · intro signal body m isPretty h hr
    obtain ⟨hsignal, hf, hv, hd⟩ := sound_of_decode h
    rw [h, ← hsignal]
    exact decode_document (fun x hx => ⟨hf x hx, hr x hx⟩) hv hd isPretty

/-- A log record whose body is a list with a tenth, a control character and a pair of no value. -/
theorem replay_nested :
    let m : Request := .logs { resourceLogs := [{ scopeLogs := [{ logRecords := [{
      body := some (.list [.double ⟨0x3fb999999999999a⟩, .text "\x01\n", .keyed [.mk "" none]])
      traceId := [0, 255] }] }] }] }
    decode .logs .json (Bytes.ofText (m.document true)) = .ok m ∧
      decode .logs .json (Bytes.ofText (m.document false)) = .ok m := by
  intro m
  have hr : ∀ x ∈ m.doubles, x.ReadsBack := by decide +kernel
  have hf : ∀ x ∈ m.doubles, x.isFinite := by decide +kernel
  have hv : AllComplete m.values := by decide +kernel
  have hd : depth m.toJson ≤ 127 := by decide +kernel
  exact ⟨replay.1 m true hr hf hv hd, replay.1 m false hr hf hv hd⟩

end Request

end TelemetrySpool
