import TelemetrySpool.Proofs.Config.Precedence
import TelemetrySpool.Proofs.Outcome
import TelemetrySpool.Receiver.Basic

/-!
# Which configurations are let through

Every way to a configuration ends in the same check: building one, loading one, and setting up a
receiver with one. It lets through what the documentation allows, but for the length of the output
directory. This is said to be counted in characters, and the message of the refusal speaks of
characters too, but what is counted are octets. So a directory of other letters than the plain Latin
ones is refused before it has too many characters.
-/

namespace TelemetrySpool

namespace Text

/-- Every character takes one octet at least. -/
theorem length_le_utf8ByteSize (text : String) : text.length ≤ text.utf8ByteSize := by
  have hlist : ∀ chars : List Char, chars.length ≤ (String.ofList chars).utf8ByteSize := by
    intro chars
    induction chars with
    | nil => exact Nat.zero_le _
    | cons c rest ih =>
      have hone := c.utf8Size_pos
      rw [String.ofList_cons, String.utf8ByteSize_append, String.utf8ByteSize_singleton,
        List.length_cons]
      omega
  have htext := hlist text.toList
  rwa [String.ofList_toList, String.length_toList] at htext

theorem utf8ByteSize_replicate (n : Nat) (c : Char) :
    (String.ofList (List.replicate n c)).utf8ByteSize = n * c.utf8Size := by
  induction n with
  | zero => rw [Nat.zero_mul]; rfl
  | succ n ih =>
    rw [List.replicate_succ, String.ofList_cons, String.utf8ByteSize_append,
      String.utf8ByteSize_singleton, ih, Nat.succ_mul, Nat.add_comm]

end Text

theorem ensure_eq_ok_iff {ε : Type} (condition : Bool) (error : ε) :
    ensure condition error = .ok () ↔ condition = true := by
  cases condition <;> simp [ensure]

/-- What the documentation asks of protocols. -/
structure Protocols.Documented (p : Protocols) : Prop where
  enabled : p.httpEnabled = true ∨ p.grpcEnabled = true
  httpPort : p.httpPort ≠ 0
  grpcPort : p.grpcPort ≠ 0
  apart : p.httpEnabled = true → p.grpcEnabled = true → p.httpPort ≠ p.grpcPort
  address : ∃ address, IpAddress.parse? p.bindAddress = some address
  body : 0 < p.maxBodyBytes.toNat

/-- The check of protocols accepts what the documentation allows. -/
theorem Protocols.validate_eq_ok_iff {p : Protocols} : p.validate = .ok () ↔ p.Documented := by
  have henabled : (p.httpEnabled || p.grpcEnabled) = true ↔
      p.httpEnabled = true ∨ p.grpcEnabled = true := Bool.or_eq_true _ _ ▸ Iff.rfl
  have hapart : (!(p.httpEnabled && p.grpcEnabled && decide (p.httpPort = p.grpcPort))) = true ↔
      (p.httpEnabled = true → p.grpcEnabled = true → p.httpPort ≠ p.grpcPort) := by
    cases p.httpEnabled <;> cases p.grpcEnabled <;> simp
  have hbody : p.maxBodyBytes ≠ 0 ↔ 0 < p.maxBodyBytes.toNat := by
    rw [Nat.pos_iff_ne_zero, ne_eq, ne_eq, ← UInt64.toNat_inj]
    rfl
  simp only [validate, ensure_bind_eq_ok_iff, ensure_eq_ok_iff, henabled, hapart,
    Option.isSome_iff_exists, decide_eq_true_iff, hbody]
  constructor
  · rintro ⟨henabled, hhttp, hgrpc, hapart, haddress, hbody⟩
    exact ⟨henabled, hhttp, hgrpc, hapart, haddress, hbody⟩
  · rintro ⟨henabled, hhttp, hgrpc, hapart, haddress, hbody⟩
    exact ⟨henabled, hhttp, hgrpc, hapart, haddress, hbody⟩

namespace Config

/-- What the documentation asks of a configuration. -/
structure Documented (c : Config) : Prop where
  nonempty : c.outputDir ≠ ""
  noNull : '\x00' ∉ c.outputDir.toList
  /-- The output directory has no more than so many characters. -/
  length : c.outputDir.length ≤ 4096
  minFileSize : 1 ≤ c.maxFileSizeMb.toNat
  maxFileSize : c.maxFileSizeMb.toNat ≤ 10240
  protocols : c.protocols.Documented

variable {c : Config}

/-- The check accepts what the documentation allows, if its directory has not too many octets. -/
theorem validate_eq_ok_iff : c.validate = .ok () ↔
    Documented c ∧ c.outputDir.utf8ByteSize ≤ maxOutputDirBytes := by
  have hnull : (!c.outputDir.toList.contains '\x00') = true ↔ '\x00' ∉ c.outputDir.toList := by
    simp
  have hsize : c.maxFileSizeMb ≠ 0 ↔ 1 ≤ c.maxFileSizeMb.toNat := by
    rw [Nat.one_le_iff_ne_zero, ne_eq, ne_eq, ← UInt64.toNat_inj]
    rfl
  simp only [validate, ensure_bind_eq_ok_iff, decide_eq_true_iff, hnull, hsize,
    Protocols.validate_eq_ok_iff]
  constructor
  · rintro ⟨hne, hbytes, hnull, hmin, hmax, hprotocols⟩
    have hlength := Nat.le_trans (Text.length_le_utf8ByteSize c.outputDir) hbytes
    exact ⟨⟨hne, hnull, hlength, hmin, hmax, hprotocols⟩, hbytes⟩
  · rintro ⟨⟨hne, hnull, -, hmin, hmax, hprotocols⟩, hbytes⟩
    exact ⟨hne, hbytes, hnull, hmin, hmax, hprotocols⟩

/-- A directory with too many octets is refused for its length, however few its characters are. -/
theorem validate_of_documented (h : Documented c)
    (hlong : maxOutputDirBytes < c.outputDir.utf8ByteSize) :
    c.validate = .error (.longOutputDir c.outputDir.utf8ByteSize) := by
  have hbytes : ¬ c.outputDir.utf8ByteSize ≤ maxOutputDirBytes := Nat.not_le.2 hlong
  simp [validate, ensure, h.nonempty, hbytes, bind, Except.bind]

/-- Every way to a configuration lets it through just if it is admitted. -/
structure Guarded (c : Config) (admitted : Prop) : Prop where
  validate : c.validate = .ok () ↔ admitted
  build : ∀ settings, build settings = .ok c ↔ c = settings.foldl apply {} ∧ admitted
  loadEnvironment : ∀ environment, (loadEnvironment environment).run.value = .ok c ↔
    c = ({} : Config).overridden environment ∧ admitted
  loadFile : ∀ environment files path, (loadFile environment files path).run.value = .ok c ↔
    ∃ given, decoded files path = .ok given ∧ c = given.overridden environment ∧ admitted
  load : ∀ environment files given, (load environment files given).run.value = .ok c ↔
    ∃ start, source environment files given = .ok start ∧ c = start.overridden environment ∧
      admitted
  /-- A receiver is set up with no other configuration. -/
  setUp : ∀ host s pipeline s', (Receiver.setUp c host).Ends s (.ok pipeline) s' → admitted
  /-- A receiver is refused because of its configuration just if this is another one. -/
  refused : ∀ host s,
    (∃ error s', (Receiver.setUp c host).Ends s (.error (.config error)) s') ↔ ¬ admitted

theorem build_eq_checked (settings : List Setting) :
    build settings = (settings.foldl apply {}).checked := by
  rw [build, checked]
  cases (settings.foldl apply {}).validate <;> rfl

theorem bind_checked_eq_ok_iff {environment : Environment} {start : Except ConfigError Config} :
    (start.bind fun given => (given.overridden environment).checked) = .ok c ↔
      ∃ given, start = .ok given ∧ c = given.overridden environment ∧ c.validate = .ok () := by
  cases start with
  | error error => simp [Except.bind]
  | ok given => simp [Except.bind, checked_eq_ok_iff]

/-- Every way to a configuration leads through the check. -/
theorem guarded_of_validate {admitted : Prop} (h : c.validate = .ok () ↔ admitted) :
    Guarded c admitted where
  validate := h
  build settings := by rw [build_eq_checked, checked_eq_ok_iff, h]
  loadEnvironment environment := by rw [value_loadEnvironment, checked_eq_ok_iff, h]
  loadFile environment files path := by rw [value_loadFile, bind_checked_eq_ok_iff, h]
  load environment files given := by rw [value_load, bind_checked_eq_ok_iff, h]
  setUp host s pipeline s' hends := by
    rw [← h]
    unfold Task.Ends Receiver.setUp at hends
    cases hvalid : c.validate with
    | ok _ => rfl
    | error error =>
      rw [hvalid] at hends
      cases hends
  refused host s := by
    rw [← h]
    constructor
    · rintro ⟨error, s', hends⟩ hvalid
      unfold Task.Ends Receiver.setUp at hends
      rw [hvalid] at hends
      dsimp only at hends
      split at hends <;> cases hends
    · intro hinvalid
      cases hvalid : c.validate with
      | ok _ => exact absurd hvalid hinvalid
      | error error =>
        refine ⟨error, s, ?_⟩
        unfold Task.Ends Receiver.setUp
        rw [hvalid]

/-- A configuration is guarded by what the check accepts, and by nothing else. -/
theorem guarded_iff {admitted : Prop} : Guarded c admitted ↔ (c.validate = .ok () ↔ admitted) :=
  ⟨Guarded.validate, guarded_of_validate⟩

/--
Every way to a configuration lets it through just if the documentation allows it and its output
directory has at most 4096 octets. So the documentation is right about a configuration just if it
allows none with more octets; where it does, the configuration is refused for its length.
-/
theorem guarded_by_octets (c : Config) :
    Guarded c (Documented c ∧ c.outputDir.utf8ByteSize ≤ 4096) ∧
      (Guarded c (Documented c) ↔ (Documented c → c.outputDir.utf8ByteSize ≤ 4096)) ∧
      (Documented c → 4096 < c.outputDir.utf8ByteSize →
        c.validate = .error (.longOutputDir c.outputDir.utf8ByteSize)) := by
  refine ⟨guarded_of_validate validate_eq_ok_iff, ?_, validate_of_documented⟩
  rw [guarded_iff, validate_eq_ok_iff]
  exact and_iff_left_iff_imp

/-- The default configuration with a directory of so many letters that take two octets each. -/
def accented (n : Nat) : Config := { outputDir := String.ofList (List.replicate n 'é') }

theorem documented_accented : Documented (accented 2049) where
  nonempty h := by
    have hlength := congrArg String.length h
    rw [accented, String.length_ofList, List.length_replicate] at hlength
    exact absurd hlength (by decide)
  noNull h := by
    rw [accented, String.toList_ofList] at h
    exact absurd (List.eq_of_mem_replicate h) (by decide)
  length := by
    rw [accented, String.length_ofList, List.length_replicate]
    decide
  minFileSize := by decide
  maxFileSize := by decide
  protocols := ⟨.inl rfl, by decide, by decide, by decide, ⟨_, rfl⟩, by decide⟩

/-- Not every configuration is let through that the documentation allows: 2049 letters are not too
many, but their 4098 octets are. -/
theorem not_forall_guarded_documented : ¬ ∀ c, Guarded c (Documented c) := by
  intro h
  have hvalid := (h (accented 2049)).validate.2 documented_accented
  have hbytes := (validate_eq_ok_iff.1 hvalid).2
  rw [accented, Text.utf8ByteSize_replicate] at hbytes
  exact absurd hbytes (by decide)

end Config

end TelemetrySpool
