import TelemetrySpool.Proofs.Net.Socket
import TelemetrySpool.Proofs.Outcome
import TelemetrySpool.Service

/-!
# Which configurations are served

A loaded configuration is valid, so it has an IP address and a protocol that is enabled. Whether the
service starts with it depends on the kind of that address alone. Four octets with a colon and a
port are the address of a transport. Eight groups with a colon and a port are none, and the first
transport that is enabled is refused, though the same groups in brackets would have been fine.
-/

namespace TelemetrySpool

namespace Config

variable {environment : Environment} {config : Config}

/-- Loading succeeds if each of its steps does. -/
theorem value_bind_eq_ok_iff {α β : Type} {first : Loading α} {next : α → Loading β} {b : β} :
    (first >>= next).run.value = .ok b ↔
      ∃ a, first.run.value = .ok a ∧ (next a).run.value = .ok b := by
  rw [ExceptT.run_bind, Logged.bind_eq]
  cases first.run.value with
  | error _ => simp
  | ok _ => simp

/-- Only valid configurations are handed on. -/
theorem validate_of_accept {given : Config} (h : given.accept.run.value = .ok config) :
    config.validate = .ok () := by
  unfold accept at h
  cases hvalid : given.validate with
  | error error =>
    rw [hvalid] at h
    obtain ⟨_, -, h⟩ := value_bind_eq_ok_iff.1 h
    cases h
  | ok _ =>
    rw [hvalid] at h
    obtain ⟨_, -, h⟩ := value_bind_eq_ok_iff.1 h
    cases h
    exact hvalid

/-- A configuration that was completed has been checked. -/
theorem validate_of_complete {given : Config}
    (h : (given.complete environment).run.value = .ok config) : config.validate = .ok () := by
  obtain ⟨_, -, h⟩ := value_bind_eq_ok_iff.1 h
  exact validate_of_accept h

/-- So has one that was loaded from a file. -/
theorem validate_of_loadFile {files : FileTree} {path : Path}
    (h : (loadFile environment files path).run.value = .ok config) :
    config.validate = .ok () := by
  obtain ⟨_, -, h⟩ := value_bind_eq_ok_iff.1 h
  split at h
  · obtain ⟨_, -, h⟩ := value_bind_eq_ok_iff.1 h
    cases h
  · split at h
    · obtain ⟨_, -, h⟩ := value_bind_eq_ok_iff.1 h
      cases h
    · obtain ⟨_, -, h⟩ := value_bind_eq_ok_iff.1 h
      exact validate_of_complete h

/-- Whatever a configuration is loaded from, it is valid. -/
theorem validate_of_load {files : FileTree} {provided : Option Config}
    (h : (load environment files provided).run.value = .ok config) : config.validate = .ok () := by
  cases provided with
  | some given =>
    obtain ⟨_, -, h⟩ := value_bind_eq_ok_iff.1 h
    exact validate_of_complete h
  | none =>
    have hnothing : (loadEnvironment environment).run.value = .ok config →
        config.validate = .ok () := fun h => by
      obtain ⟨_, -, h⟩ := value_bind_eq_ok_iff.1 h
      exact validate_of_complete h
    unfold load at h
    dsimp only at h
    split at h
    · exact hnothing h
    · exact hnothing h
    · exact validate_of_loadFile h

/-- Valid protocols have one that is enabled, and an address. -/
theorem protocols_of_validate (h : config.validate = .ok ()) :
    (config.protocols.httpEnabled || config.protocols.grpcEnabled) = true ∧
      (IpAddress.parse? config.protocols.bindAddress).isSome = true := by
  simp only [validate, Protocols.validate, ensure_bind_eq_ok_iff] at h
  obtain ⟨-, -, -, -, -, henabled, -, -, -, haddress, -⟩ := h
  exact ⟨henabled, haddress⟩

end Config

namespace Protocols

/-- Where the transports that are enabled listen on an address. -/
def listening (p : Protocols) (address : IpAddress) :
    Option SocketAddress × Option SocketAddress :=
  (if p.httpEnabled then some ⟨address, p.httpPort.toNat⟩ else none,
    if p.grpcEnabled then some ⟨address, p.grpcPort.toNat⟩ else none)

/-- The refusal of the first transport that is enabled. -/
def refusal (p : Protocols) : StartError :=
  if p.httpEnabled then .httpAddress p.httpPort else .grpcAddress p.grpcPort

variable {p : Protocols} {found : List Nat}

/-- Four octets give every enabled transport an address. -/
theorem addresses_of_v4 (h : IpAddress.parse? p.bindAddress = some (.v4 found)) :
    p.addresses = .ok (p.listening (.v4 found)) := by
  have hport (port : UInt16) : p.listenAddress? port = some ⟨.v4 found, port.toNat⟩ :=
    SocketAddress.parse?_of_v4 h port.toNat_lt
  have hhttp : p.httpAddress = .ok (p.listening (.v4 found)).1 := by
    unfold httpAddress listening
    rw [hport]
    split <;> rfl
  have hgrpc : p.grpcAddress = .ok (p.listening (.v4 found)).2 := by
    unfold grpcAddress listening
    rw [hport]
    split <;> rfl
  rw [addresses, hhttp, hgrpc]
  rfl

/-- Eight groups give no enabled transport an address. -/
theorem addresses_of_v6 (h : IpAddress.parse? p.bindAddress = some (.v6 found))
    (henabled : (p.httpEnabled || p.grpcEnabled) = true) : p.addresses = .error p.refusal := by
  have hport (port : UInt16) : p.listenAddress? port = none :=
    SocketAddress.parse?_of_v6 h port.toNat
  cases hhttp : p.httpEnabled with
  | true => simp [addresses, httpAddress, refusal, hhttp, hport, bind, Except.bind]
  | false =>
    have hgrpc : p.grpcEnabled = true := by simpa [hhttp] using henabled
    simp [addresses, httpAddress, grpcAddress, refusal, hhttp, hgrpc, hport, bind, Except.bind]

end Protocols

namespace Service

variable {environment : Environment} {s : Store} {config : Config} {files : FileTree}

/-- Once a configuration is loaded and its directory is there, all depends on the addresses. -/
theorem ends_start (host : Host)
    (hload : (Config.load environment s.files none).run.value = .ok config)
    (hdirectory : s.files.createDirectories config.outputDir = (files, .ok ())) :
    (start environment host).Ends s
      (config.protocols.addresses.map fun found =>
        ⟨config, (config.pipeline host).value, found.1, found.2⟩)
      { s with files } := by
  have hconfig : (loadConfig environment).Ends s (.ok config) s := by
    simp only [Task.Ends, loadConfig, hload]
    rfl
  have hpipeline :
      (setUp config host).Ends s (.ok (config.pipeline host).value) { s with files } := by
    simp only [Task.Ends, setUp, Receiver.setUp, Config.validate_of_load hload, hdirectory]
    rfl
  refine Task.ends_bind_iff.2 (.inl ⟨config, s, hconfig, ?_⟩)
  refine Task.ends_bind_iff.2 (.inl ⟨_, _, hpipeline, ?_⟩)
  rw [Task.ends_bind_iff]
  cases haddresses : config.protocols.addresses with
  | ok found =>
    exact .inl ⟨found, _, Task.ends_ofExcept_iff.2 ⟨rfl, rfl⟩, Task.ends_pure_iff.2 ⟨rfl, rfl⟩⟩
  | error error => exact .inr ⟨error, Task.ends_ofExcept_iff.2 ⟨rfl, rfl⟩, rfl⟩

/--
A loaded configuration is served if its address has four octets, with that address and the port of
each enabled transport. If the address has eight groups, the first enabled transport is refused,
although the groups in brackets, with any port, are a socket address.
-/
theorem starts_or_refuses (host : Host) {provided : Option Config}
    (hload : (Config.load environment s.files provided).run.value = .ok config)
    (hdirectory : s.files.createDirectories config.outputDir = (files, .ok ())) :
    (∃ octets, IpAddress.parse? config.protocols.bindAddress = some (.v4 octets) ∧
      config.protocols.addresses = .ok (config.protocols.listening (.v4 octets)) ∧
      (provided = none →
        (start environment host).Ends s
          (.ok ⟨config, (config.pipeline host).value, (config.protocols.listening (.v4 octets)).1,
            (config.protocols.listening (.v4 octets)).2⟩)
          { s with files })) ∨
    ∃ groups, IpAddress.parse? config.protocols.bindAddress = some (.v6 groups) ∧
      config.protocols.addresses = .error config.protocols.refusal ∧
      (provided = none →
        (start environment host).Ends s (.error config.protocols.refusal) { s with files }) ∧
      ∀ port : UInt16,
        SocketAddress.parse?
            ("[" ++ config.protocols.bindAddress ++ "]:" ++ Digits.text port.toNat) =
          some ⟨.v6 groups, port.toNat⟩ := by
  obtain ⟨henabled, haddress⟩ := Config.protocols_of_validate (Config.validate_of_load hload)
  obtain ⟨address, haddress⟩ := Option.isSome_iff_exists.1 haddress
  cases address with
  | v4 octets =>
    have hlisten := Protocols.addresses_of_v4 haddress
    refine .inl ⟨octets, haddress, hlisten, ?_⟩
    rintro rfl
    have hends := ends_start host hload hdirectory
    rwa [hlisten] at hends
  | v6 groups =>
    have hrefuse := Protocols.addresses_of_v6 haddress henabled
    refine .inr ⟨groups, haddress, hrefuse, ?_, ?_⟩
    · rintro rfl
      have hends := ends_start host hload hdirectory
      rwa [hrefuse] at hends
    · exact fun port => SocketAddress.parse?_of_v6_in_brackets haddress port.toNat_lt

/-- A store without files. -/
def blank : Store where
  clock := .still .epoch

/-- An environment that sets the address and nothing else. -/
def bound (address : String) : Environment := fun name =>
  if name = "OTLP_BIND_ADDRESS" then some address else none

/-- The default configuration with another address. -/
def defaultAt (address : String) : Config := { protocols.bindAddress := address }

/-- The files after the default directory is created. -/
def withDirectory : FileTree := (blank.files.createDirectories "./telemetry").1

/-- Addresses of both kinds are accepted, and the default one is served. -/
theorem starts_on_loopback :
    (Config.load (bound "127.0.0.1") blank.files none).run.value = .ok (defaultAt "127.0.0.1") ∧
      blank.files.createDirectories (defaultAt "127.0.0.1").outputDir = (withDirectory, .ok ()) ∧
      (start (bound "127.0.0.1") (.roomy 65536)).Ends blank
        (.ok ⟨defaultAt "127.0.0.1", ((defaultAt "127.0.0.1").pipeline (.roomy 65536)).value,
          some ⟨.v4 [127, 0, 0, 1], 4318⟩, none⟩)
        { blank with files := withDirectory } := by
  have hload : (Config.load (bound "127.0.0.1") blank.files none).run.value =
      .ok (defaultAt "127.0.0.1") := rfl
  have hdirectory : blank.files.createDirectories (defaultAt "127.0.0.1").outputDir =
      (withDirectory, .ok ()) := rfl
  have haddress : IpAddress.parse? (defaultAt "127.0.0.1").protocols.bindAddress =
      some (.v4 [127, 0, 0, 1]) := rfl
  refine ⟨hload, hdirectory, ?_⟩
  rcases starts_or_refuses (.roomy 65536) hload hdirectory with
    ⟨octets, h, -, hstart⟩ | ⟨groups, h, -⟩
  · rw [haddress] at h
    cases h
    exact hstart rfl
  · rw [haddress] at h
    cases h

/-- Not every loaded configuration is served: the loopback address of eight groups is accepted, the
directory can be created, and the service refuses to start. -/
theorem not_forall_starts :
    ¬ ∀ (environment : Environment) (host : Host) (s : Store) (config : Config) (files : FileTree),
      (Config.load environment s.files none).run.value = .ok config →
      s.files.createDirectories config.outputDir = (files, .ok ()) →
      ∃ service s', (start environment host).Ends s (.ok service) s' := by
  intro h
  have hload : (Config.load (bound "::1") blank.files none).run.value =
      .ok (defaultAt "::1") := rfl
  have hdirectory : blank.files.createDirectories (defaultAt "::1").outputDir =
      (withDirectory, .ok ()) := rfl
  obtain ⟨service, s', hends⟩ := h _ (.roomy 65536) _ _ _ hload hdirectory
  have haddresses : (defaultAt "::1").protocols.addresses = .error (.httpAddress 4318) := by
    rfl
  have hrefused := ends_start (.roomy 65536) hload hdirectory
  rw [haddresses] at hrefused
  have hsame := hends.symm.trans hrefused
  cases hsame

end Service

end TelemetrySpool
