import TelemetrySpool.Config.Basic
import TelemetrySpool.Json.Basic

/-!
# Reading configurations from documents

A configuration is read from a document whose sections hold members by key. What a section, a text,
a truth value and a number look like is left to a dialect, so that every document language shares
one reading: members that are missing take their defaults, unknown members are passed over, and a
known member that does not fit spoils the whole document.
-/

namespace TelemetrySpool

/-- How the values of a document language are seen when a configuration is read. -/
structure Dialect (δ : Type) where
  text? : δ → Option String
  flag? : δ → Option Bool
  natural? : δ → Option Nat
  /-- The members of a section that have one of the given keys; none of them may repeat. -/
  members? : (keys : List String) → δ → Option (List (String × δ))

namespace Dialect

variable {δ τ : Type}

/-- Reads the member with a key, or takes the default if there is none. -/
def member? (members : List (String × δ)) (key : String) (read? : δ → Option τ) (default : τ) :
    Option τ :=
  match members.lookup key with
  | none => some default
  | some value => read? value

/-- Reads a natural number of sixteen bits. -/
def port? (d : Dialect δ) (value : δ) : Option UInt16 := do
  let n ← d.natural? value
  if n < UInt16.size then some (UInt16.ofNat n) else none

/-- Reads a natural number of sixty-four bits. -/
def size? (d : Dialect δ) (value : δ) : Option UInt64 := do
  let n ← d.natural? value
  if n < UInt64.size then some (UInt64.ofNat n) else none

end Dialect

namespace Protocols

/-- The keys of the protocols section, in order. -/
def keys : List String :=
  ["http_enabled", "http_port", "grpc_enabled", "grpc_port", "bind_address", "max_body_bytes"]

/-- Reads the protocols section. -/
def read? {δ : Type} (d : Dialect δ) (value : δ) : Option Protocols := do
  let members ← d.members? keys value
  let default : Protocols := {}
  let httpEnabled ← Dialect.member? members "http_enabled" d.flag? default.httpEnabled
  let httpPort ← Dialect.member? members "http_port" d.port? default.httpPort
  let grpcEnabled ← Dialect.member? members "grpc_enabled" d.flag? default.grpcEnabled
  let grpcPort ← Dialect.member? members "grpc_port" d.port? default.grpcPort
  let bindAddress ← Dialect.member? members "bind_address" d.text? default.bindAddress
  let maxBodyBytes ← Dialect.member? members "max_body_bytes" d.size? default.maxBodyBytes
  some { httpEnabled, httpPort, grpcEnabled, grpcPort, bindAddress, maxBodyBytes }

end Protocols

namespace ConsoleSettings

/-- The keys of the console section, in order. -/
def keys : List String := ["enabled", "colored"]

/-- Reads the console section. -/
def read? {δ : Type} (d : Dialect δ) (value : δ) : Option ConsoleSettings := do
  let members ← d.members? keys value
  let default : ConsoleSettings := {}
  let enabled ← Dialect.member? members "enabled" d.flag? default.enabled
  let colored ← Dialect.member? members "colored" d.flag? default.colored
  some { enabled, colored }

end ConsoleSettings

namespace Config

/-- The keys of a configuration, in order. -/
def keys : List String :=
  ["output_dir", "max_file_size_mb", "pretty_json", "console", "protocols"]

/-- Reads a configuration. -/
def read? {δ : Type} (d : Dialect δ) (value : δ) : Option Config := do
  let members ← d.members? keys value
  let default : Config := {}
  let outputDir ← Dialect.member? members "output_dir" d.text? default.outputDir
  let maxFileSizeMb ← Dialect.member? members "max_file_size_mb" d.size? default.maxFileSizeMb
  let prettyJson ← Dialect.member? members "pretty_json" d.flag? default.prettyJson
  let console ← Dialect.member? members "console" (ConsoleSettings.read? d) default.console
  let protocols ← Dialect.member? members "protocols" (Protocols.read? d) default.protocols
  some { outputDir, maxFileSizeMb, prettyJson, console, protocols }

end Config

namespace Json

/-- The members of an object with one of the given keys, unless one of these repeats. -/
def knownMembers? (keys : List String) (members : List (String × Json)) :
    Option (List (String × Json)) :=
  let known := members.filter fun member => keys.contains member.1
  if (known.map (·.1)).Nodup then some known else none

/-- The JSON dialect: a section is an object, or an array of its values in order. -/
def dialect : Dialect Json where
  text?
    | string text => some text
    | _ => none
  flag?
    | bool value => some value
    | _ => none
  natural?
    | integer n => if 0 ≤ n then some n.toNat else none
    | _ => none
  members? keys
    | object members => knownMembers? keys members
    | array items => if items.length ≤ keys.length then some (keys.zip items) else none
    | _ => none

end Json

end TelemetrySpool
