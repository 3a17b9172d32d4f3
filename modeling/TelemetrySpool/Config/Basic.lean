import TelemetrySpool.Files.Path
import TelemetrySpool.Files.Tree
import TelemetrySpool.Net.IpAddress

/-!
# Configurations

A configuration says where files go, when they are replaced, how lines look, and over which
protocols requests arrive. It is valid if every part is; the first fault found, in a fixed order,
is the one reported.
-/

namespace TelemetrySpool

/-- Over which protocols requests arrive. -/
structure Protocols where
  httpEnabled : Bool := true
  httpPort : UInt16 := 4318
  grpcEnabled : Bool := false
  grpcPort : UInt16 := 4317
  bindAddress : String := "127.0.0.1"
  /-- The most octets that the body of an HTTP request may have. -/
  maxBodyBytes : UInt64 := 16777216
  deriving DecidableEq, Repr

/-- Whether records are printed, and in color. -/
structure ConsoleSettings where
  enabled : Bool := false
  colored : Bool := true
  deriving DecidableEq, Repr

/-- The settings of a spool. -/
structure Config where
  outputDir : Path := "./telemetry"
  /-- The size in units of 1048576 octets above which a file is replaced. -/
  maxFileSizeMb : UInt64 := 100
  /-- Whether documents take several lines. -/
  prettyJson : Bool := false
  console : ConsoleSettings := {}
  protocols : Protocols := {}
  deriving DecidableEq, Repr

/-- Why there is no valid configuration. -/
inductive ConfigError where
  | emptyOutputDir
  /-- The output directory has too many octets. -/
  | longOutputDir (bytes : Nat)
  | nullInOutputDir
  | zeroFileSize
  | largeFileSize
  | noProtocol
  | zeroHttpPort
  | zeroGrpcPort
  | equalPorts
  | badBindAddress (address : String)
  | zeroBodySize
  /-- A configuration file that cannot be read. -/
  | unreadableFile (path : Path) (cause : String)
  /-- A configuration file that holds no configuration. -/
  | malformedFile
  deriving DecidableEq, Repr

namespace Config

/-- The most octets of the path of the output directory. -/
def maxOutputDirBytes : Nat := 4096

/-- The greatest size limit of files. -/
def maxFileSizeMbLimit : Nat := 10240

end Config

namespace ConfigError

/-- What is said about a configuration file that holds no configuration. -/
def malformedText : String := "the document is not a configuration"

/-- The text of an error. -/
def message : ConfigError → String
  | emptyOutputDir => "Invalid output directory: Output directory cannot be empty"
  | longOutputDir bytes =>
    "Invalid output directory: Output directory path is too long (" ++ Digits.text bytes ++
      " characters, max " ++ Digits.text Config.maxOutputDirBytes ++ ")"
  | nullInOutputDir => "Invalid output directory: Output directory path cannot contain null bytes"
  | zeroFileSize => "Invalid file size: Maximum file size must be greater than 0"
  | largeFileSize =>
    "Invalid file size: Maximum file size must be at most " ++
      Digits.text Config.maxFileSizeMbLimit ++ " MB"
  | noProtocol => "Configuration validation failed: At least one protocol must be enabled"
  | zeroHttpPort => "Invalid port: HTTP port must be between 1 and 65535"
  | zeroGrpcPort => "Invalid port: gRPC port must be between 1 and 65535"
  | equalPorts =>
    "Invalid port: HTTP and gRPC ports must be different when both protocols are enabled"
  | badBindAddress address =>
    "Configuration validation failed: Bind address is not an IP address: " ++ address
  | zeroBodySize => "Configuration validation failed: Maximum body size must be greater than 0"
  | unreadableFile path cause => "Failed to read configuration: " ++ path ++ ": " ++ cause
  | malformedFile => "Configuration validation failed: Failed to parse YAML: " ++ malformedText

end ConfigError

/-- Fails with an error unless a condition holds. -/
def ensure {ε : Type} (condition : Bool) (error : ε) : Except ε Unit :=
  if condition then .ok () else .error error

/-- What follows a check succeeds only if the condition holds. -/
theorem ensure_bind_eq_ok_iff {ε α : Type} (condition : Bool) (error : ε)
    (next : Unit → Except ε α) (a : α) :
    (ensure condition error >>= next) = .ok a ↔ condition = true ∧ next () = .ok a := by
  cases condition <;> simp [ensure, bind, Except.bind]

namespace Protocols

/-- Checks the protocols, in the order in which faults are reported. -/
def validate (p : Protocols) : Except ConfigError Unit := do
  ensure (p.httpEnabled || p.grpcEnabled) .noProtocol
  ensure (p.httpPort ≠ 0) .zeroHttpPort
  ensure (p.grpcPort ≠ 0) .zeroGrpcPort
  ensure (!(p.httpEnabled && p.grpcEnabled && p.httpPort = p.grpcPort)) .equalPorts
  ensure (IpAddress.parse? p.bindAddress).isSome (.badBindAddress p.bindAddress)
  ensure (p.maxBodyBytes ≠ 0) .zeroBodySize

end Protocols

namespace Config

/-- Checks a configuration, in the order in which faults are reported. -/
def validate (c : Config) : Except ConfigError Unit := do
  ensure (c.outputDir ≠ "") .emptyOutputDir
  ensure (c.outputDir.utf8ByteSize ≤ maxOutputDirBytes) (.longOutputDir c.outputDir.utf8ByteSize)
  ensure (!c.outputDir.toList.contains '\x00') .nullInOutputDir
  ensure (c.maxFileSizeMb ≠ 0) .zeroFileSize
  ensure (c.maxFileSizeMb.toNat ≤ maxFileSizeMbLimit) .largeFileSize
  c.protocols.validate

end Config

/-- One change of a configuration that is put together step by step. -/
inductive Setting where
  | outputDir (value : Path)
  | maxFileSizeMb (value : UInt64)
  | prettyJson (value : Bool)
  | consoleEnabled (value : Bool)
  | protocols (value : Protocols)
  | httpEnabled (value : Bool)
  | httpPort (value : UInt16)
  | grpcEnabled (value : Bool)
  | grpcPort (value : UInt16)
  deriving DecidableEq, Repr

namespace Config

/-- A configuration with one setting changed. -/
def apply (c : Config) : Setting → Config
  | .outputDir value => { c with outputDir := value }
  | .maxFileSizeMb value => { c with maxFileSizeMb := value }
  | .prettyJson value => { c with prettyJson := value }
  | .consoleEnabled value => { c with console.enabled := value }
  | .protocols value => { c with protocols := value }
  | .httpEnabled value => { c with protocols.httpEnabled := value }
  | .httpPort value => { c with protocols.httpPort := value }
  | .grpcEnabled value => { c with protocols.grpcEnabled := value }
  | .grpcPort value => { c with protocols.grpcPort := value }

/-- The configuration that settings make of the default one, if it is valid. -/
def build (settings : List Setting) : Except ConfigError Config := do
  let config := settings.foldl apply {}
  config.validate
  pure config

end Config

end TelemetrySpool
