import TelemetrySpool.Event
import TelemetrySpool.Yaml.Dialect

/-!
# Loading configurations

A configuration is loaded from a file, or starts from one that is given or from the default one.
Variables of the environment then replace settings one by one; a value that does not fit is
reported and leaves its setting alone. What results has to be valid.
-/

namespace TelemetrySpool

/-- The values of environment variables by name. -/
abbrev Environment := String → Option String

/-- Why the value of a variable does not fit its setting. -/
inductive ValueError where
  | emptyNumber
  | badDigit
  | tooLarge
  | badFlag
  deriving DecidableEq, Repr

namespace ValueError

/-- The text of an error. -/
def message : ValueError → String
  | emptyNumber => "cannot parse integer from empty string"
  | badDigit => "invalid digit found in string"
  | tooLarge => "number too large to fit in target type"
  | badFlag => "provided string was not \x60true\x60 or \x60false\x60"

end ValueError

namespace Environment

/-- Reads digits from the left; a number beyond the limit is refused before later characters are. -/
def readDigits (limit : Nat) (acc : Nat) : List Char → Except ValueError Nat
  | [] => .ok acc
  | c :: rest =>
    match Digits.value? c with
    | none => .error .badDigit
    | some d =>
      let next := 10 * acc + d
      if limit ≤ next then .error .tooLarge else readDigits limit next rest

/-- Reads a number below a limit, which a plus sign may precede. -/
def readNumber (limit : Nat) (text : String) : Except ValueError Nat :=
  match text.toList with
  | [] => .error .emptyNumber
  | ['+'] => .error .badDigit
  | '+' :: digits => readDigits limit 0 digits
  | digits => readDigits limit 0 digits

/-- Reads one of the words for truth values. -/
def readFlag (text : String) : Except ValueError Bool :=
  if text = "true" then .ok true else if text = "false" then .ok false else .error .badFlag

end Environment

/-- A variable of the environment that replaces a setting. -/
structure Variable where
  name : String
  /-- How its value is shown, and what it makes of a configuration. -/
  read : String → Except ValueError (String × (Config → Config))

namespace Variable

open Environment

/-- A variable whose value is taken as it is. -/
def ofText (name : String) (set : String → Config → Config) : Variable where
  name
  read raw := .ok (raw, set raw)

/-- A variable that holds a truth value. -/
def ofFlag (name : String) (set : Bool → Config → Config) : Variable where
  name
  read raw := (readFlag raw).map fun flag => (if flag then "true" else "false", set flag)

/-- A variable that holds a number below a limit. -/
def ofNumber (name : String) (limit : Nat) (set : Nat → Config → Config) : Variable where
  name
  read raw := (readNumber limit raw).map fun n => (Digits.text n, set n)

/-- All variables that replace settings, in the order in which they are looked up. -/
def all : List Variable := [
  ofText "OTLP_OUTPUT_DIR" fun value c => { c with outputDir := value },
  ofNumber "OTLP_MAX_FILE_SIZE_MB" UInt64.size fun n c => { c with maxFileSizeMb := .ofNat n },
  ofFlag "OTLP_PRETTY_JSON" fun flag c => { c with prettyJson := flag },
  ofFlag "OTLP_CONSOLE_ENABLED" fun flag c => { c with console.enabled := flag },
  ofFlag "OTLP_CONSOLE_COLORED" fun flag c => { c with console.colored := flag },
  ofFlag "OTLP_HTTP_ENABLED" fun flag c => { c with protocols.httpEnabled := flag },
  ofNumber "OTLP_HTTP_PORT" UInt16.size fun n c => { c with protocols.httpPort := .ofNat n },
  ofFlag "OTLP_GRPC_ENABLED" fun flag c => { c with protocols.grpcEnabled := flag },
  ofNumber "OTLP_GRPC_PORT" UInt16.size fun n c => { c with protocols.grpcPort := .ofNat n },
  ofText "OTLP_BIND_ADDRESS" fun value c => { c with protocols.bindAddress := value }]

/-- The name of the variable that names a configuration file. -/
def configFile : String := "OTLP_CONFIG_FILE"

/-- Replaces a setting if its variable is set to a value that fits. -/
def apply (environment : Environment) (config : Config) (v : Variable) : Logged Config :=
  match environment v.name with
  | none => pure config
  | some raw =>
    match v.read raw with
    | .ok (shown, change) => do
      Logged.report ⟨.debug, "Applying environment variable override",
        [("env_var", .text v.name), ("value", .text shown)]⟩
      pure (change config)
    | .error error => do
      Logged.report ⟨.warn, "Failed to parse environment variable, ignoring",
        [("env_var", .text v.name), ("value", .text raw), ("error", .text error.message)]⟩
      pure config

end Variable

namespace Config

/-- What comes of loading a configuration, with the events reported meanwhile. -/
abbrev Loading := ExceptT ConfigError Logged

/-- Reports an event while loading. -/
def announce (level : Level) (message : String) (details : List (String × Detail) := []) :
    Loading Unit :=
  ExceptT.lift (Logged.report ⟨level, message, details⟩)

/-- The configuration that the environment makes of a given one, whether it is valid or not. -/
def override (environment : Environment) (config : Config) : Logged Config :=
  Variable.all.foldlM (Variable.apply environment) config

/-- Hands on a valid configuration and refuses any other. -/
def accept (config : Config) : Loading Config :=
  match config.validate with
  | .error error => do
    announce .warn "Configuration validation failed" [("error", .text error.message)]
    throw error
  | .ok () => do
    announce .info "Configuration loaded and validated successfully" [
      ("output_dir", .text config.outputDir),
      ("max_file_size_mb", .number config.maxFileSizeMb.toNat),
      ("http_enabled", .flag config.protocols.httpEnabled),
      ("grpc_enabled", .flag config.protocols.grpcEnabled),
      ("console_enabled", .flag config.console.enabled)]
    pure config

/-- Applies the environment to a configuration, which then has to be valid. -/
def complete (environment : Environment) (config : Config) : Loading Config := do
  accept (← ExceptT.lift (config.override environment))

/-- What is said about a file whose octets are no text. -/
def noTextMessage : String := "stream did not contain valid UTF-8"

/-- The text of a file, or why there is none. -/
def readText (files : FileTree) (path : Path) : Except String String :=
  match files.read path with
  | .error error => .error error.message
  | .ok bytes => (Bytes.toText? bytes).elim (.error noTextMessage) .ok

/-- Loads a configuration from a file. -/
def loadFile (environment : Environment) (files : FileTree) (path : Path) : Loading Config := do
  let details : List (String × Detail) := [("config_path", .text path)]
  announce .info "Loading configuration from YAML file" details
  match readText files path with
  | .error cause =>
    announce .warn "Failed to read configuration file" (details ++ [("error", .text cause)])
    throw (.unreadableFile path cause)
  | .ok text =>
    match ofYaml? text with
    | none =>
      announce .warn "Failed to parse YAML configuration"
        (details ++ [("error", .text ConfigError.malformedText)])
      throw .malformedFile
    | some config =>
      announce .debug "Parsed YAML configuration successfully" details
      config.complete environment

/-- Loads a configuration from the environment alone. -/
def loadEnvironment (environment : Environment) : Loading Config := do
  announce .info "Loading configuration from environment variables"
  complete environment {}

/--
Loads a configuration from a given one, or else from the file that the environment names, or else
from the environment alone.
-/
def load (environment : Environment) (files : FileTree) : Option Config → Loading Config
  | some config => do
    announce .info
      "Loading configuration with provided config and environment variable overrides"
    config.complete environment
  | none =>
    match environment Variable.configFile with
    | none | some "" => loadEnvironment environment
    | some path => loadFile environment files path

end Config

end TelemetrySpool
