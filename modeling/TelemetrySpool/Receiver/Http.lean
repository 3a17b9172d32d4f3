import TelemetrySpool.Compression.Gzip
import TelemetrySpool.Receiver.Basic

/-!
# Requests over HTTP

Telemetry is posted to one path per signal, in the binary form or in JSON, and compressed if its
headers say so; health can be asked for at a path of its own. The body is buffered up to a limit
before anything is made of it. Whatever is wrong with a request is a refusal, which has a status and
a text.
-/

namespace TelemetrySpool

/-- An HTTP request. -/
structure HttpRequest where
  method : String
  /-- The path, with whatever precedes and follows it. -/
  target : String
  headers : List (String × Bytes) := []
  body : Bytes := []
  deriving DecidableEq, Repr

/-- An HTTP response; only the headers that matter to a client are kept. -/
structure HttpResponse where
  status : Nat
  contentType : Option String := none
  /-- The methods that would have been allowed. -/
  allow : Option String := none
  body : String := ""
  deriving DecidableEq, Repr

/-- Why a request to store telemetry is refused. -/
inductive HttpRefusal where
  /-- The body is over the limit. -/
  | tooLong
  /-- The compressed body cannot be expanded. -/
  | unexpandable
  | unsupportedContentType (text : String)
  | undecodable (error : DecodeError)
  | pipeline (error : PipelineError)
  | allSinksFailed (count : Nat)
  | interrupted
  deriving DecidableEq, Repr

namespace DecodeError

/-- What is said of a body that is no request. -/
def message : DecodeError → String
  | json => "Invalid JSON payload: the document is not a request"
  | binary => "Invalid protobuf payload: the message is not a request"

end DecodeError

namespace HttpRefusal

/-- What is said of a body that cannot be buffered. -/
def bufferText (cause : String) : String := "Failed to buffer the request body: " ++ cause

/-- The text of a refusal. -/
def message : HttpRefusal → String
  | tooLong => bufferText "length limit exceeded"
  | unexpandable => bufferText "the compressed data are damaged"
  | unsupportedContentType text => "Unsupported content type: " ++ text
  | undecodable error => error.message
  | pipeline error => error.message
  | allSinksFailed count => "All " ++ Digits.text count ++ " sinks failed to write the request"
  | interrupted => "Shutting down, request was not persisted"

/-- The status of a refusal. -/
def status : HttpRefusal → Nat
  | tooLong => 413
  | unexpandable => 400
  | unsupportedContentType _ => 415
  | undecodable _ => 400
  | pipeline _ => 500
  | allSinksFailed _ => 500
  | interrupted => 503

end HttpRefusal

namespace HttpResponse

/-- The content type of texts. -/
def textType : String := "text/plain; charset=utf-8"

/-- A response that says something. -/
def ofText (status : Nat) (body : String) : HttpResponse :=
  { status, contentType := some textType, body }

/-- The response of a refusal. -/
def ofRefusal (refusal : HttpRefusal) : HttpResponse := ofText refusal.status refusal.message

end HttpResponse

namespace Encoding

/-- The content type of an encoding. -/
def contentType : Encoding → String
  | json => "application/json"
  | binary => "application/x-protobuf"

/-- The body of the response to a request that was stored. -/
def emptyResult : Encoding → String
  | json => "\x7b\"partialSuccess\":null\x7d"
  | binary => ""

/-- The response to a request that was stored. -/
def accepted (encoding : Encoding) : HttpResponse :=
  { status := 200, contentType := some encoding.contentType, body := encoding.emptyResult }

end Encoding

namespace HttpRequest

/-- The value of the first header with a name, whose letters may be of either case. -/
def header? (request : HttpRequest) (name : String) : Option Bytes :=
  (request.headers.find? fun header => header.1.toLower = name).map (·.2)

/-- A path without the scheme and the host that may precede it; behind a host it is never empty. -/
def withoutHost (target : List Char) : List Char :=
  if target.head? = some '/' then target
  else
    match target.dropWhile (· ≠ ':') with
    | ':' :: '/' :: '/' :: rest =>
      let path := rest.dropWhile (· ≠ '/')
      if path = [] then ['/'] else path
    | _ => target

/-- The path without scheme, host, query and fragment. -/
def path (request : HttpRequest) : String :=
  String.ofList (withoutHost (request.target.toList.takeWhile fun c => c ≠ '?' ∧ c ≠ '#'))

/-- Whether an octet is a visible character, a space or a tab. -/
def isVisible (b : UInt8) : Bool := (0x20 ≤ b && b < 0x7f) || b = 0x09

/-- The text of a header value that has visible characters alone. -/
def visibleText? (value : Bytes) : Option String :=
  if value.all isVisible then Bytes.toText? value else none

/-- The content type, which is that of the binary form unless it is given legibly. -/
def contentType (request : HttpRequest) : String :=
  ((request.header? "content-type").bind visibleText?).getD Encoding.binary.contentType

/-- The encoding that the content type starts with. -/
def encoding (request : HttpRequest) : Except HttpRefusal Encoding :=
  let text := request.contentType
  if Encoding.binary.contentType.toList.isPrefixOf text.toList then .ok .binary
  else if Encoding.json.contentType.toList.isPrefixOf text.toList then .ok .json
  else .error (.unsupportedContentType text)

/-- Whether the body is compressed; none if it is encoded in a way that is not known. -/
def compressed? (request : HttpRequest) : Option Bool :=
  match request.header? "content-encoding" with
  | none => some false
  | some value =>
    if value = Bytes.ofText "gzip" then some true
    else if value = Bytes.ofText "identity" then some false
    else none

/-- Buffers the body, which may have `limit` octets when it has been expanded. -/
def buffered (request : HttpRequest) (compressed : Bool) (limit : Nat) :
    Except HttpRefusal Bytes :=
  let within (bytes : Bytes) := if limit < bytes.length then .error .tooLong else .ok bytes
  if compressed then
    match Compression.Gzip.expand request.body with
    | .done bytes => within bytes
    | .broken count => .error (if limit < count then .tooLong else .unexpandable)
  else within request.body

/-- The path at which requests of a signal are posted. -/
def pathOf (signal : Signal) : String := "/v1/" ++ signal.name

/-- The signal whose requests are posted at a path. -/
def signalAt? (path : String) : Option Signal := Signal.concrete.find? fun s => pathOf s = path

/-- The path at which health is asked for. -/
def healthPath : String := "/health"

end HttpRequest

namespace Receiver

/-- Reports a refusal that is not the fault of the client. -/
def announceRefusal (refusal : HttpRefusal) : Work Unit :=
  match refusal with
  | .pipeline _ | .allSinksFailed _ =>
    announce .error "Failed to handle OTLP request" [("error", .text refusal.message)]
  | .interrupted => announce .warn "Rejected OTLP request during shutdown"
  | _ => pure ()

/-- What a report means for the request it is about. -/
def outcome (report : Report) : Except HttpRefusal Unit :=
  if report.allFailed then .error (.allSinksFailed report.failed)
  else if report.interrupted then .error .interrupted
  else .ok ()

/-- The encoding and the content of a request of a signal. -/
def readPosted (request : HttpRequest) (compressed : Bool) (limit : Nat) (signal : Signal) :
    Except HttpRefusal (Encoding × Request) := do
  let body ← request.buffered compressed limit
  let encoding ← request.encoding
  match Request.decode signal encoding body with
  | .ok content => .ok (encoding, content)
  | .error error => .error (.undecodable error)

/-- Stores a request of a signal. -/
def ingest (request : HttpRequest) (compressed : Bool) (limit : Nat) (signal : Signal) :
    Work (Except HttpRefusal Encoding) := do
  match readPosted request compressed limit signal with
  | .error refusal => pure (.error refusal)
  | .ok (encoding, content) =>
    match ← write content signal with
    | .error error => pure (.error (.pipeline error))
    | .ok report => pure ((outcome report).map fun () => encoding)

/-- Answers a request of a signal. -/
def post (request : HttpRequest) (compressed : Bool) (limit : Nat) (signal : Signal) :
    Work HttpResponse := do
  match ← ingest request compressed limit signal with
  | .ok encoding => pure encoding.accepted
  | .error refusal => do
    announceRefusal refusal
    pure (.ofRefusal refusal)

/-- The response that tells the health. -/
def healthResponse (health : Health) : HttpResponse :=
  if health.isDegraded then .ofText 503 ("degraded: " ++ health.lastError.getD "")
  else .ofText 200 "ok"

/-- Answers an HTTP request whose body may have `limit` octets. -/
def handle (limit : Nat) (request : HttpRequest) : Work HttpResponse := do
  match request.compressed? with
  | none => pure { status := 415 }
  | some compressed =>
    if request.path = HttpRequest.healthPath then
      let response := healthResponse (← get).health
      if request.method = "GET" then pure response
      else if request.method = "HEAD" then pure { response with body := "" }
      else pure { status := 405, allow := some "GET,HEAD" }
    else
      match HttpRequest.signalAt? request.path with
      | none => pure { status := 404 }
      | some signal =>
        if request.method = "POST" then post request compressed limit signal
        else pure { status := 405, allow := some "POST" }

end Receiver

end TelemetrySpool
