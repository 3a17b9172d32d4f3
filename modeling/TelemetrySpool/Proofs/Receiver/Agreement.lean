import TelemetrySpool.Proofs.Receiver.Acknowledgement
import TelemetrySpool.Proofs.Telemetry.BinaryMessages
import TelemetrySpool.Proofs.Telemetry.Replay

/-!
# All ways to a receiver agree

A request reaches a receiver as a posted body in the binary form or in JSON, as a call over gRPC, or
from the owner of the receiver. Whichever way it takes, the receiver makes one record of it, with
the same line, and dispatches it, so the files, the active paths and the health are the same
afterwards.
-/

namespace TelemetrySpool

open AnyValue (AllComplete)
open Json (depth)

namespace HttpRequest

/-- A request that posts a body of an encoding for a signal, within the limit once it has been
expanded. -/
structure Posts (request : HttpRequest) (limit : Nat) (signal : Signal) (encoding : Encoding)
    (body : Bytes) : Prop where
  method : request.method = "POST"
  path : request.path = pathOf signal
  encoded : request.encoding = .ok encoding
  buffered : ∃ compressed, request.compressed? = some compressed ∧
    request.buffered compressed limit = .ok body

/-- What has been buffered is within the limit. -/
theorem length_le_of_buffered {request : HttpRequest} {compressed : Bool} {limit : Nat}
    {body : Bytes} (h : request.buffered compressed limit = .ok body) : body.length ≤ limit := by
  have hwithin : ∀ bytes : Bytes,
      (if limit < bytes.length then .error .tooLong else .ok bytes : Except HttpRefusal Bytes) =
        .ok body → body.length ≤ limit := by
    intro bytes hbytes
    split at hbytes
    · cases hbytes
    · next hle =>
      obtain rfl := Except.ok.inj hbytes
      exact Nat.le_of_not_lt hle
  unfold buffered at h
  dsimp only at h
  split at h
  · split at h
    · exact hwithin _ h
    · cases h
  · exact hwithin _ h

/-- A plain request that posts a body. -/
def posting (signal : Signal) (encoding : Encoding) (body : Bytes) : HttpRequest where
  method := "POST"
  target := pathOf signal
  headers := [("content-type", Bytes.ofText encoding.contentType)]
  body

/-- A plain request posts any body within the limit. -/
theorem posts_posting {limit : Nat} (signal : Signal) (encoding : Encoding) {body : Bytes}
    (h : body.length ≤ limit) :
    (posting signal encoding body).Posts limit signal encoding body := by
  have htype : "content-type".toLower = "content-type" := by decide +kernel
  have hheader (name : String) : (posting signal encoding body).header? name =
      if "content-type" = name then some (Bytes.ofText encoding.contentType) else none := by
    rw [header?, posting, List.find?_singleton, htype]
    by_cases hname : "content-type" = name
    · simp [hname]
    · simp [hname]
  refine ⟨rfl, ?_, ?_, false, ?_, if_neg (Nat.not_lt.2 h)⟩
  · show String.ofList (withoutHost ((pathOf signal).toList.takeWhile _)) = pathOf signal
    cases signal <;> decide
  · have hvisible :
        visibleText? (Bytes.ofText encoding.contentType) = some encoding.contentType := by
      cases encoding <;> decide +kernel
    have hcontent : (posting signal encoding body).contentType = encoding.contentType := by
      rw [contentType, hheader, if_pos rfl, Option.bind_some, hvisible]
      rfl
    rw [HttpRequest.encoding, hcontent]
    cases encoding <;> decide +kernel
  · rw [compressed?, hheader]
    rfl

end HttpRequest

namespace Receiver

variable {r : Receiver}

/-- The receiver after it has made its record of a request and offered it to every sink. -/
def written (r : Receiver) (m : Request) : Receiver :=
  let p := (r.pipeline.dispatch (r.recordOf m) r.token.upcoming r.health r.outlets).value
  { r with
    token := r.token.skip r.pipeline.sinks.length
    clock := r.clock.tick
    health := p.health
    outlets := p.state }

/-- A request written to the pipeline leaves what it writes. -/
theorem submit_eq_written (m : Request) :
    ∃ report, (write m m.signal r).value = (.ok report, r.written m) :=
  ⟨_, submit_value r m⟩

/-- So does one that comes by a call. -/
theorem call_eq_written (m : Request) : (call m.signal m r).value.2 = r.written m := by
  obtain ⟨report, hw⟩ := submit_eq_written (r := r) m
  rw [call_value hw]

/-- A body that is decoded as a request is written as that request. -/
theorem handle_eq_written {limit : Nat} {request : HttpRequest} {encoding : Encoding} {body : Bytes}
    {m : Request} (hp : request.Posts limit m.signal encoding body)
    (hd : Request.decode m.signal encoding body = .ok m) :
    (handle limit request r).value.2 = r.written m := by
  obtain ⟨compressed, hcompressed, hbuffered⟩ := hp.buffered
  have hcarries : request.Carries limit m.signal m :=
    HttpRequest.carries_iff.2
      ⟨compressed, encoding, body, hcompressed, hp.encoded, hbuffered, hd⟩
  obtain ⟨report, hw⟩ := submit_eq_written (r := r) m
  obtain ⟨answer, hvalue⟩ := handle_value_of_carries m.signal_ne hp.method hp.path hcarries hw
  rw [hvalue]
  cases outcome report with
  | ok _ => rfl
  | error _ => rfl

/--
All ways to a receiver agree. Whatever state it is in, a request that can be replayed from JSON
leaves it in the same state, whether its binary form is posted, or its document in either layout, or
it comes by a call, or from the owner. So the line is the same, and it is in the same files, under
the same active paths, and the health is the same. The binary form is read back as the request: a
hundred nested messages are more than 127 nested brackets can hold, so the limit on nested messages
is no condition of its own.
-/
theorem ways_agree {m : Request} (hr : ∀ x ∈ m.doubles, x.ReadsBack)
    (hf : ∀ x ∈ m.doubles, x.isFinite) (hv : AllComplete m.values) (hd : depth m.toJson ≤ 127)
    {limit : Nat} (hlimit : limit < UInt64.size) (r : Receiver) :
    (m.toBinary.length ≤ limit → Request.decode m.signal .binary m.toBinary = .ok m) ∧
      (∀ request : HttpRequest, request.Posts limit m.signal .binary m.toBinary →
        (handle limit request r).value.2 = r.written m) ∧
      (∀ (isPretty : Bool) (request : HttpRequest),
        request.Posts limit m.signal .json (Bytes.ofText (m.document isPretty)) →
          (handle limit request r).value.2 = r.written m) ∧
      (call m.signal m r).value.2 = r.written m ∧ (submit m r).value.2 = r.written m := by
  have hbinary : m.toBinary.length ≤ limit →
      Request.decode m.signal .binary m.toBinary = .ok m := fun hlength =>
    Request.decode_toBinary hd (Nat.lt_of_le_of_lt hlength hlimit)
  refine ⟨hbinary, fun request hp => ?_, fun isPretty request hp => ?_, call_eq_written m, ?_⟩
  · obtain ⟨compressed, -, hbuffered⟩ := hp.buffered
    exact handle_eq_written hp (hbinary (HttpRequest.length_le_of_buffered hbuffered))
  · have hdocument := Request.decode_document (fun x hx => ⟨hf x hx, hr x hx⟩) hv hd isPretty
    exact handle_eq_written hp hdocument
  · obtain ⟨report, hw⟩ := submit_eq_written (r := r) m
    exact congrArg Prod.snd hw

/-- A log record with a nested body and a negative number, posted to a receiver that is new. -/
theorem ways_agree_nested :
    let m : Request := .logs { resourceLogs := [{ scopeLogs := [{ logRecords := [{
      body := some (.list [.double ⟨0x3fb999999999999a⟩, .int (-1), .keyed [.mk "" none]])
      severityNumber := -2, traceId := [0, 255] }] }] }] }
    let r := fresh {} (Host.roomy 65536)
    (handle 2048 (.posting .logs .binary m.toBinary) r).value.2 = r.written m ∧
      (handle 2048 (.posting .logs .json (Bytes.ofText (m.document true))) r).value.2 =
        r.written m := by
  intro m r
  have hr : ∀ x ∈ m.doubles, x.ReadsBack := by decide +kernel
  have hf : ∀ x ∈ m.doubles, x.isFinite := by decide +kernel
  have hv : AllComplete m.values := by decide +kernel
  have hd : depth m.toJson ≤ 127 := by decide +kernel
  obtain ⟨-, hbinary, hjson, -⟩ := ways_agree hr hf hv hd (show 2048 < UInt64.size by decide) r
  have hbytes : m.toBinary.length ≤ 2048 := by decide +kernel
  have htext : (Bytes.ofText (m.document true)).length ≤ 2048 := by
    rw [Request.document, Json.render, Utf8.ofText_ofList]
    decide +kernel
  exact ⟨hbinary _ (HttpRequest.posts_posting .logs .binary hbytes),
    hjson true _ (HttpRequest.posts_posting .logs .json htext)⟩

end Receiver

end TelemetrySpool
