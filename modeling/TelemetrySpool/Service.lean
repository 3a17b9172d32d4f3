import TelemetrySpool.Config.Loading
import TelemetrySpool.Receiver.Basic

/-!
# The service

The service loads its configuration, sets up a receiver, and finds out the addresses on which its
transports listen. Whatever goes wrong on the way is a refusal to start, which is shown with its
cause.
-/

namespace TelemetrySpool

/-- Why the service does not start. -/
inductive StartError where
  | config (error : ConfigError)
  | receiver (error : ReceiverError)
  | httpAddress (port : UInt16)
  | grpcAddress (port : UInt16)
  deriving DecidableEq, Repr

namespace StartError

/-- What is said of text that spells no socket address. -/
def addressText : String := "invalid socket address syntax"

/-- What went wrong. -/
def message : StartError → String
  | config _ => "Failed to load configuration"
  | receiver error => error.message
  | httpAddress port => "Invalid HTTP port " ++ Digits.text port.toNat
  | grpcAddress port => "Invalid gRPC port " ++ Digits.text port.toNat

/-- Why it went wrong. -/
def cause : StartError → String
  | config error => error.message
  | receiver error => error.causeText
  | httpAddress _ => addressText
  | grpcAddress _ => addressText

/-- A text with all its lines but the first indented. -/
def indented (text : String) : String :=
  String.ofList <| text.toList.flatMap fun c => if c = '\n' then "\n    ".toList else [c]

/-- How a refusal is shown. -/
def text (error : StartError) : String :=
  "Error: " ++ error.message ++ "\n\nCaused by:\n    " ++ indented error.cause ++ "\n"

end StartError

namespace Protocols

/-- The text of the address and a port on which a transport listens. -/
def listenText (p : Protocols) (port : UInt16) : String :=
  p.bindAddress ++ ":" ++ Digits.text port.toNat

/-- The address and a port on which a transport listens. -/
def listenAddress? (p : Protocols) (port : UInt16) : Option SocketAddress :=
  SocketAddress.parse? (p.listenText port)

/-- The address of HTTP, if that is enabled. -/
def httpAddress (p : Protocols) : Except StartError (Option SocketAddress) :=
  if p.httpEnabled then
    (p.listenAddress? p.httpPort).elim (.error (.httpAddress p.httpPort)) fun a => .ok (some a)
  else .ok none

/-- The address of gRPC, if that is enabled. -/
def grpcAddress (p : Protocols) : Except StartError (Option SocketAddress) :=
  if p.grpcEnabled then
    (p.listenAddress? p.grpcPort).elim (.error (.grpcAddress p.grpcPort)) fun a => .ok (some a)
  else .ok none

/-- The addresses of both transports, HTTP first. -/
def addresses (p : Protocols) :
    Except StartError (Option SocketAddress × Option SocketAddress) := do
  let http ← p.httpAddress
  let grpc ← p.grpcAddress
  return (http, grpc)

end Protocols

/-- A service that has started. -/
structure Service where
  config : Config
  pipeline : Pipeline Outlets
  http : Option SocketAddress
  grpc : Option SocketAddress

namespace Service

/-- Loads the configuration that the environment asks for. -/
def loadConfig (environment : Environment) : Task Store StartError Config := fun s =>
  let loaded := (Config.load environment s.files none).run
  ⟨(loaded.value.mapError .config, s), loaded.events⟩

/-- Sets up the pipeline of a configuration. -/
def setUp (config : Config) (host : Host) : Task Store StartError (Pipeline Outlets) := fun s =>
  let done := Receiver.setUp config host s
  ⟨(done.value.1.mapError .receiver, done.value.2), done.events⟩

/-- Starts the service. -/
def start (environment : Environment) (host : Host) : Task Store StartError Service := do
  let config ← loadConfig environment
  let pipeline ← setUp config host
  let (http, grpc) ← Task.ofExcept config.protocols.addresses
  pure { config, pipeline, http, grpc }

end Service

end TelemetrySpool
