import Mathlib.Data.List.Forall2
import Mathlib.Data.List.Nodup
import TelemetrySpool.Config.Loading

/-!
# Where settings come from

Every variable of the environment governs one setting. If its value fits, the setting has that
value, whatever the configuration said from which the loading started; if not, the variable might as
well not be set. So the configuration that is checked can be told setting by setting, whichever way
it is loaded, and a loaded configuration is loaded again as it is.
-/

namespace TelemetrySpool

namespace Digits

/-- Digits that follow make a number no smaller. -/
theorem le_of_readFrom {digits : List Char} {acc n : Nat} (h : readFrom acc digits = some n) :
    acc ≤ n := by
  induction digits generalizing acc with
  | nil => exact Nat.le_of_eq (Option.some.inj h)
  | cons c rest ih =>
    rw [readFrom] at h
    split at h
    · have hle := ih h
      omega
    · cases h

end Digits

namespace Environment

/-- The number below a limit that a variable is set to. -/
def number? (environment : Environment) (limit : Nat) (name : String) : Option Nat :=
  (environment name).bind fun raw => (Digits.readUnsigned? raw.toList).filter (· < limit)

/-- The truth value that a variable is set to. -/
def flag? (environment : Environment) (name : String) : Option Bool :=
  (environment name).bind fun raw =>
    if raw = "true" then some true else if raw = "false" then some false else none

/-- Digits are read as a number below the limit, or not at all. -/
theorem toOption_readDigits {limit acc : Nat} (h : acc < limit) (digits : List Char) :
    (readDigits limit acc digits).toOption =
      (Digits.readFrom acc digits).filter (· < limit) := by
  induction digits generalizing acc with
  | nil => simp [readDigits, Digits.readFrom, Except.toOption, Option.filter, h]
  | cons c rest ih =>
    rw [readDigits, Digits.readFrom]
    cases Digits.value? c with
    | none => rfl
    | some d =>
      dsimp only
      split
      · next hlarge =>
        -- What follows cannot bring the number back below the limit.
        symm
        rw [Except.toOption, Option.filter_eq_none_iff]
        intro n hn
        have hle := Digits.le_of_readFrom hn
        simp only [decide_eq_true_eq]
        omega
      · exact ih (by omega)

/-- A number is read if the whole text spells it and it is below the limit. -/
theorem toOption_readNumber {limit : Nat} (h : 0 < limit) (raw : String) :
    (readNumber limit raw).toOption =
      (Digits.readUnsigned? raw.toList).filter (· < limit) := by
  rw [readNumber]
  split
  · next hraw => rw [hraw]; rfl
  · next hraw => rw [hraw]; rfl
  · next digits hne hraw =>
    rw [hraw, toOption_readDigits h]
    cases digits with
    | nil => exact absurd rfl hne
    | cons c rest => rfl
  · next hnil _ hsign =>
    rw [toOption_readDigits h, Digits.readUnsigned?, Digits.readNat?]
    · exact hnil
    · exact hsign

end Environment

namespace Variable

open Environment

variable {environment : Environment} {α : Type} {set : α → Config → Config} {get : Config → α}

/-- A variable replaces the setting that it governs by what its value is read as, if it is. -/
theorem value_apply {v : Variable} {read? : String → Option α}
    (hread : ∀ raw, (v.read raw).toOption.map Prod.snd = (read? raw).map set)
    (hset : ∀ c, set (get c) c = c) (c : Config) :
    (apply environment c v).value =
      set (((environment v.name).bind read?).getD (get c)) c := by
  unfold apply
  cases environment v.name with
  | none => exact (hset c).symm
  | some raw =>
    have hraw := hread raw
    dsimp only [Option.bind_some]
    cases hv : v.read raw with
    | error error =>
      rw [hv] at hraw
      rw [Option.map_eq_none_iff.1 hraw.symm]
      exact (hset c).symm
    | ok result =>
      rw [hv] at hraw
      obtain ⟨a, ha, hchange⟩ := Option.map_eq_some_iff.1 hraw.symm
      rw [ha, Option.getD_some, hchange]
      rfl

/-- A text that is set overrides its field. -/
theorem value_apply_ofText {set : String → Config → Config} (get : Config → String)
    (hset : ∀ c, set (get c) c = c) (name : String) (c : Config) :
    (apply environment c (ofText name set)).value =
      set ((environment name).getD (get c)) c := by
  have hread : ∀ raw, ((ofText name set).read raw).toOption.map Prod.snd = (some raw).map set :=
    fun _ => rfl
  rw [value_apply hread hset, Option.bind_fun_some]
  rfl

/-- A flag that is set and can be read overrides its field. -/
theorem value_apply_ofFlag {set : Bool → Config → Config} (get : Config → Bool)
    (hset : ∀ c, set (get c) c = c) (name : String) (c : Config) :
    (apply environment c (ofFlag name set)).value =
      set ((environment.flag? name).getD (get c)) c := by
  refine value_apply (fun raw => ?_) hset c
  simp only [ofFlag, readFlag]
  split
  · rfl
  · split <;> rfl

/-- So does a number. -/
theorem value_apply_ofNumber {set : Nat → Config → Config} (get : Config → Nat)
    (hset : ∀ c, set (get c) c = c) {limit : Nat} (hlimit : 0 < limit) (name : String)
    (c : Config) :
    (apply environment c (ofNumber name limit set)).value =
      set ((environment.number? limit name).getD (get c)) c := by
  refine value_apply (fun raw => ?_) hset c
  rw [← toOption_readNumber hlimit]
  simp only [ofNumber]
  cases readNumber limit raw <;> rfl

/-- Variables that are looked up one after the other do to a configuration what each of them
does. -/
theorem value_foldlM {looked : List Variable} {steps : List (Config → Config)}
    (h : List.Forall₂ (fun v step => ∀ c, (apply environment c v).value = step c) looked steps)
    (c : Config) :
    (looked.foldlM (apply environment) c).value = steps.foldl (fun c step => step c) c := by
  induction h generalizing c with
  | nil => rfl
  | cons hstep _ ih =>
    rw [List.foldlM_cons, Logged.bind_eq, List.foldl_cons, ← hstep]
    exact ih _

end Variable

namespace Config

open Variable Environment

/-- The configuration in which every setting has the value that its own variable is set to, if there
is one that fits, and else the value that it has in a given configuration. -/
def overridden (environment : Environment) (c : Config) : Config where
  outputDir := (environment "OTLP_OUTPUT_DIR").getD c.outputDir
  maxFileSizeMb :=
    ((environment.number? UInt64.size "OTLP_MAX_FILE_SIZE_MB").map .ofNat).getD c.maxFileSizeMb
  prettyJson := (environment.flag? "OTLP_PRETTY_JSON").getD c.prettyJson
  console.enabled := (environment.flag? "OTLP_CONSOLE_ENABLED").getD c.console.enabled
  console.colored := (environment.flag? "OTLP_CONSOLE_COLORED").getD c.console.colored
  protocols.httpEnabled := (environment.flag? "OTLP_HTTP_ENABLED").getD c.protocols.httpEnabled
  protocols.httpPort :=
    ((environment.number? UInt16.size "OTLP_HTTP_PORT").map .ofNat).getD c.protocols.httpPort
  protocols.grpcEnabled := (environment.flag? "OTLP_GRPC_ENABLED").getD c.protocols.grpcEnabled
  protocols.grpcPort :=
    ((environment.number? UInt16.size "OTLP_GRPC_PORT").map .ofNat).getD c.protocols.grpcPort
  protocols.bindAddress := (environment "OTLP_BIND_ADDRESS").getD c.protocols.bindAddress
  protocols.maxBodyBytes := c.protocols.maxBodyBytes

variable {environment : Environment}

/-- The variables together replace every setting by what is meant for it. -/
theorem value_override (c : Config) :
    (c.override environment).value = c.overridden environment := by
  have hsize : 0 < UInt64.size := by decide
  have hport : 0 < UInt16.size := by decide
  have hword : ∀ (found : Option Nat) (given : UInt64),
      UInt64.ofNat (found.getD given.toNat) = (found.map .ofNat).getD given := by
    intro found given
    cases found <;> simp
  have hshort : ∀ (found : Option Nat) (given : UInt16),
      UInt16.ofNat (found.getD given.toNat) = (found.map .ofNat).getD given := by
    intro found given
    cases found <;> simp
  refine (value_foldlM (
    .cons (value_apply_ofText (·.outputDir) (fun _ => rfl) _) <|
    .cons (value_apply_ofNumber (·.maxFileSizeMb.toNat) (fun _ => by simp) hsize _) <|
    .cons (value_apply_ofFlag (·.prettyJson) (fun _ => rfl) _) <|
    .cons (value_apply_ofFlag (·.console.enabled) (fun _ => rfl) _) <|
    .cons (value_apply_ofFlag (·.console.colored) (fun _ => rfl) _) <|
    .cons (value_apply_ofFlag (·.protocols.httpEnabled) (fun _ => rfl) _) <|
    .cons (value_apply_ofNumber (·.protocols.httpPort.toNat) (fun _ => by simp) hport _) <|
    .cons (value_apply_ofFlag (·.protocols.grpcEnabled) (fun _ => rfl) _) <|
    .cons (value_apply_ofNumber (·.protocols.grpcPort.toNat) (fun _ => by simp) hport _) <|
    .cons (value_apply_ofText (·.protocols.bindAddress) (fun _ => rfl) _) .nil) c).trans ?_
  simp only [List.foldl_cons, List.foldl_nil, hword, hshort]
  rfl

/-- A configuration, if it is valid. -/
def checked (c : Config) : Except ConfigError Config := c.validate.map fun _ => c

/-- A configuration is checked and not changed. -/
theorem checked_eq_ok_iff {c c' : Config} :
    c.checked = .ok c' ↔ c' = c ∧ c'.validate = .ok () := by
  rw [checked]
  cases hvalid : c.validate with
  | error error =>
    simp only [Except.map, reduceCtorEq, false_iff]
    rintro ⟨rfl, hok⟩
    rw [hvalid] at hok
    cases hok
  | ok _ =>
    simp only [Except.map, Except.ok.injEq]
    exact ⟨fun h => ⟨h.symm, h ▸ hvalid⟩, fun h => h.1.symm⟩

/-- The configuration that a file holds. -/
def decoded (files : FileTree) (path : Path) : Except ConfigError Config :=
  match readText files path with
  | .error cause => .error (.unreadableFile path cause)
  | .ok text => (ofYaml? text).elim (.error .malformedFile) .ok

/-- The file that the environment names. -/
def named? (environment : Environment) : Option Path :=
  (environment configFile).filter (· ≠ "")

/-- The configuration from which loading starts: a given one, that of the file which the environment
names, or the default one. -/
def source (environment : Environment) (files : FileTree) :
    Option Config → Except ConfigError Config
  | some c => .ok c
  | none => (named? environment).elim (.ok {}) (decoded files)

variable {files : FileTree} {path : Path}

/-- Accepting a configuration is checking it. -/
theorem value_accept (c : Config) : c.accept.run.value = c.checked := by
  rw [accept, checked]
  cases c.validate <;> rfl

/-- What is announced on the way does not matter. -/
theorem value_announce_bind {α : Type} (level : Level) (message : String)
    (details : List (String × Detail)) (next : Unit → Loading α) :
    (announce level message details >>= next).run.value = (next ()).run.value := rfl

/-- Completing one is overriding it from the environment, then checking it. -/
theorem value_complete (c : Config) :
    (c.complete environment).run.value = (c.overridden environment).checked := by
  rw [← value_override, ← value_accept]
  rfl

/-- Without a file the environment overrides the defaults. -/
theorem value_loadEnvironment : (loadEnvironment environment).run.value =
    (({} : Config).overridden environment).checked := by
  rw [loadEnvironment, value_announce_bind, value_complete]

/-- With a file it overrides what the file says. -/
theorem value_loadFile : (loadFile environment files path).run.value =
    (decoded files path).bind fun c => (c.overridden environment).checked := by
  rw [loadFile, value_announce_bind, decoded]
  cases readText files path with
  | error cause => rfl
  | ok text =>
    dsimp only
    cases ofYaml? text with
    | none => rfl
    | some c =>
      dsimp only
      rw [value_announce_bind, value_complete]
      rfl

/-- Without a path the environment may name the file. -/
theorem load_none : load environment files none =
    (named? environment).elim (loadEnvironment environment) (loadFile environment files) := by
  rw [load, named?]
  cases environment configFile with
  | none => rfl
  | some path =>
    by_cases hempty : path = ""
    · rw [hempty]
      rfl
    · rw [Option.filter_some_pos (by simpa using hempty)]
      split
      · next h => cases h
      · next h => exact absurd (Option.some.inj h) hempty
      · next h => rw [Option.some.inj h]; rfl

/-- Loading takes a configuration from its source, replaces settings and checks the result. -/
theorem value_load (given : Option Config) : (load environment files given).run.value =
    (source environment files given).bind fun c => (c.overridden environment).checked := by
  cases given with
  | some c =>
    rw [load, value_announce_bind, value_complete]
    rfl
  | none =>
    rw [load_none, source]
    cases named? environment with
    | none => exact value_loadEnvironment
    | some path => exact value_loadFile

/-- One variable moves a port away from the other one, and a second one does not fit. -/
example : (load
    (fun name => [("OTLP_GRPC_PORT", "+05000"), ("OTLP_HTTP_PORT", "65536")].lookup name) {}
    (some { protocols.grpcEnabled := true, protocols.grpcPort := 4318 })).run.value =
    .ok { protocols.grpcEnabled := true, protocols.grpcPort := 5000 } := by rfl

end Config

end TelemetrySpool
