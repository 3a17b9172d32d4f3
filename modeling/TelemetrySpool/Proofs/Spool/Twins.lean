import TelemetrySpool.Proofs.Files.Parts
import TelemetrySpool.Proofs.Respect
import TelemetrySpool.Proofs.Spool.Clearing
import TelemetrySpool.Proofs.Spool.Command

/-!
# Work under one key in two stores

Two stores are twins for a key if it has the same active path in both and the file trees are in a
relation. Work under the key then comes to the same in both, whatever is active for other keys, as
long as the relation is kept by the few things that are done to the files: the directory is created,
the files of the signal are listed and measured, a line is appended to one of them, and all of them
are removed. Which relations these are is shown elsewhere; here they are put together to whole
errands.
-/

namespace TelemetrySpool

namespace SlotKey

/-- Whether a place is that of a file of the signal in the directory. -/
def owns (key : SlotKey) (place : Place) : Bool :=
  decide (place.dropLast = key.directory.place) &&
    place.getLast?.any (FileName.belongsTo key.signal)

/-- A name in the directory belongs to the key if it is one of its signal. -/
theorem owns_concat (key : SlotKey) (name : String) :
    key.owns (key.directory.place ++ [name]) = FileName.belongsTo key.signal name := by
  simp [owns]

/-- What belongs to a key is a name of its signal in its directory. -/
theorem exists_of_owns {key : SlotKey} {place : Place} (h : key.owns place = true) :
    ∃ name, place = key.directory.place ++ [name] ∧ FileName.belongsTo key.signal name := by
  rw [owns, Bool.and_eq_true, decide_eq_true_iff, Option.any_eq_true] at h
  obtain ⟨hdir, name, hlast, hb⟩ := h
  obtain ⟨init, rfl⟩ := List.getLast?_eq_some_iff.1 hlast
  rw [List.dropLast_concat] at hdir
  exact ⟨name, by rw [hdir], hb⟩

/-- Nothing that belongs to a key exists always. -/
theorem alwaysExists_of_owns {key : SlotKey} {place : Place} (h : key.owns place = true) :
    FileTree.alwaysExists place = false := by
  obtain ⟨name, rfl, hb⟩ := exists_of_owns h
  exact FileTree.alwaysExists_concat _ (FileName.ne_of_belongsTo hb (by decide))
    (FileName.ne_of_belongsTo hb (by decide))

/-- A place belongs to one signal at most. -/
theorem signal_eq_of_owns {key key' : SlotKey} {place : Place} (h : key.owns place = true)
    (h' : key'.owns place = true) : key.signal = key'.signal := by
  rw [owns, Bool.and_eq_true, Option.any_eq_true] at h h'
  obtain ⟨-, name, hn, hb⟩ := h
  obtain ⟨-, name', hn', hb'⟩ := h'
  obtain rfl := Option.some.inj (hn.symm.trans hn')
  exact FileName.signal_unique (FileName.belongsTo_iff.1 hb).1 (FileName.belongsTo_iff.1 hb').1

/-- What belongs to a key is a matter of its slot. -/
theorem owns_eq_of_id {key key' : SlotKey} (h : key.id = key'.id) : key.owns = key'.owns := by
  obtain ⟨hroute, hsignal⟩ := SlotId.mk.inj h
  funext place
  rw [owns, owns, Path.place_eq_of_route hroute, hsignal]

end SlotKey

namespace Store

/-! ## Removing files -/

section Remove

variable {R : Store → Store → Prop} {path : Path}

/-- What the attempts to remove a file respect, its removal does. -/
theorem respects_removeFrom (h : (tryRemove path).Respects R fun _ => True) (left : Nat) :
    (removeFrom path left).Respects R fun _ => True := by
  induction left with
  | zero =>
    refine Task.respects_bind h fun found _ => ?_
    cases found with
    | none => exact Task.respects_pure trivial
    | some error => exact Task.respects_fail _
  | succ left ih =>
    refine Task.respects_bind h fun found _ => ?_
    cases found with
    | none => exact Task.respects_pure trivial
    | some error => exact Task.respects_bind (Task.respects_report _ _ _) fun _ _ => ih

/-- What the attempts to remove one of some files respect, the removal of all of them does. -/
theorem respects_removeAll {paths : List Path}
    (h : ∀ path ∈ paths, (tryRemove path).Respects R fun _ => True) :
    (removeAll paths).Respects R fun _ => True := by
  induction paths with
  | nil => exact Task.respects_pure trivial
  | cons path paths ih =>
    obtain ⟨hpath, hpaths⟩ := List.forall_mem_cons.1 h
    refine Task.respects_bind (respects_removeFrom hpath _) fun _ _ => ?_
    refine Task.respects_bind (ih hpaths) fun _ _ => ?_
    exact Task.respects_pure trivial

end Remove

/-! ## Twins -/

/-- Whether a path is that of a file of a signal, whoever has named it. -/
def OwnPath (key : SlotKey) (path : Path) : Prop :=
  ∃ name, Path.IsPlain name ∧ FileName.belongsTo key.signal name ∧
    path = Path.join key.directory name

variable {key : SlotKey} {path base : Path}

/-- The place of such a path belongs to the key. -/
theorem OwnPath.owns_place (h : OwnPath key path) : key.owns path.place = true := by
  obtain ⟨name, hn, hb, rfl⟩ := h
  rw [Path.place_join _ hn, key.owns_concat]
  exact hb

/-- Whether a path is a base path of a key. -/
def IsBase (key : SlotKey) (path : Path) : Prop :=
  ∃ time, path = FileName.basePath key.directory key.signal time

/-- Both streams of a base path have files of the signal. -/
theorem IsBase.ownPath (h : IsBase key base) (stream : Stream) :
    OwnPath key (FileName.ofStream base stream) := by
  obtain ⟨time, rfl⟩ := h
  have hb := FileName.belongsToStream_iff.1 (FileName.belongsToStream_ofTime key.signal time stream)
  exact ⟨_, FileName.isPlain_ofTime key.signal time stream, hb.1,
    FileName.ofStream_basePath key.directory key.signal time stream⟩

/-- What is active for other keys, and whether the rotation is closed, is as it was in `r₀`. -/
structure SameOthers (key : SlotKey) (r₀ r : Rotation) : Prop where
  closed : r.closed = r₀.closed
  active : ∀ key', key'.id ≠ key.id → r.active? key' = r₀.active? key'

namespace SameOthers

variable {r₀ r r' : Rotation} (h : SameOthers key r₀ r)
include h

/-- Opening slots leaves the other keys. -/
theorem opened (ha : r.Agrees r') : SameOthers key r₀ r' :=
  ⟨ha.closed.trans h.closed, fun key' hk => (ha.active key').trans (h.active key' hk)⟩

/-- Making a path active leaves the other keys. -/
theorem activate (path : Option Path) : SameOthers key r₀ (r.activate key path) :=
  ⟨h.closed, fun key' hk => by rw [Rotation.active?_activate, if_neg hk, h.active key' hk]⟩

end SameOthers

/-- Work under a key, which started with `s₀` and `t₀`, has come to the same point in two stores
whose files are in a relation. -/
structure Twin (key : SlotKey) (F : FileTree → FileTree → Prop) (s₀ t₀ s t : Store) : Prop where
  left : SameOthers key s₀.rotation s.rotation
  right : SameOthers key t₀.rotation t.rotation
  closed : s.rotation.closed = t.rotation.closed
  active : s.rotation.active? key = t.rotation.active? key
  isBase : ∀ base, s.rotation.active? key = some base → IsBase key base
  files : F s.files t.files
  clock : s.clock = t.clock

namespace Twin

variable {F G : FileTree → FileTree → Prop} {s₀ t₀ s t : Store} (h : Twin key F s₀ t₀ s t)
include h

/-- The files become others. -/
theorem withFiles {files files' : FileTree} (hg : G files files') :
    Twin key G s₀ t₀ { s with files } { t with files := files' } :=
  ⟨h.left, h.right, h.closed, h.active, h.isBase, hg, h.clock⟩

theorem mono (hg : G s.files t.files) : Twin key G s₀ t₀ s t :=
  ⟨h.left, h.right, h.closed, h.active, h.isBase, hg, h.clock⟩

/-- Both clocks move on. -/
theorem tick :
    Twin key F s₀ t₀ { s with clock := s.clock.tick } { t with clock := t.clock.tick } :=
  ⟨h.left, h.right, h.closed, h.active, h.isBase, h.files, congrArg Clock.tick h.clock⟩

/-- Slots are opened in both. -/
theorem opened {r r' : Rotation} (hr : s.rotation.Agrees r) (hr' : t.rotation.Agrees r') :
    Twin key F s₀ t₀ { s with rotation := r } { t with rotation := r' } where
  left := h.left.opened hr
  right := h.right.opened hr'
  closed := hr.closed.trans (h.closed.trans hr'.closed.symm)
  active := (hr.active key).trans (h.active.trans (hr'.active key).symm)
  isBase base hb := h.isBase base ((hr.active key).symm.trans hb)
  files := h.files
  clock := h.clock

/-- A path is made active in both. -/
theorem activate {path : Option Path} (hp : ∀ base, path = some base → IsBase key base) :
    Twin key F s₀ t₀ { s with rotation := s.rotation.activate key path }
      { t with rotation := t.rotation.activate key path } where
  left := h.left.activate path
  right := h.right.activate path
  closed := h.closed
  active := by
    rw [Rotation.active?_activate, Rotation.active?_activate, if_pos rfl, if_pos rfl]
  isBase base hb := by
    rw [Rotation.active?_activate, if_pos rfl] at hb
    exact hp base hb
  files := h.files
  clock := h.clock

end Twin

/-- Lists the files of a key and removes them. -/
def sweep (key : SlotKey) : StoreTask Nat := do
  let paths ← Task.look fun s => list s.files key.directory key.signal
  removeAll (← Task.ofExcept paths)

/-- A relation between file trees that work under a key keeps, and through which it sees nothing. -/
structure Kin (key : SlotKey) (F : FileTree → FileTree → Prop) : Prop where
  size : ∀ {files files' path}, F files files' → OwnPath key path →
    files.size? path = files'.size? path
  list : ∀ {files files'}, F files files' →
    list files key.directory key.signal = list files' key.directory key.signal
  create : ∀ {s₀ t₀}, (createDirectories key.directory).Respects (Twin key F s₀ t₀) fun _ => True
  append : ∀ {s₀ t₀ path} {sink : FileSink} {space fault},
    sink.volume = .answering space fault → OwnPath key path → ∀ bytes,
      (sink.append path bytes).Respects (Twin key F s₀ t₀) fun _ => True
  sweep : ∀ {s₀ t₀}, (sweep key).Respects (Twin key F s₀ t₀) fun _ => True

/-! ## The slot of a key -/

section Slot

variable {F : FileTree → FileTree → Prop} {s₀ t₀ : Store}

/-- A slot is opened in both stores, or in none. -/
theorem respects_request (key : SlotKey) :
    (request key).Respects (Twin key F s₀ t₀) fun _ => True := by
  intro s t h
  have hsame : ∀ r r' : Rotation, r.closed = r'.closed →
      (∃ error, r.open? key = .error error ∧ r'.open? key = .error error) ∨
        ∃ next next', r.open? key = .ok next ∧ r'.open? key = .ok next' := by
    intro r r' hc
    unfold Rotation.open?
    split
    · exact .inl ⟨_, rfl, rfl⟩
    · rw [hc]
      split
      · exact .inl ⟨_, rfl, rfl⟩
      · exact .inr ⟨_, _, rfl, rfl⟩
  rcases hsame _ _ h.closed with ⟨error, hs, ht⟩ | ⟨r, r', hs, ht⟩
  · refine ⟨.error error, s, t, ?_, ?_, h, fun _ _ => trivial⟩
    · simp only [Task.Ends, request, hs]
    · simp only [Task.Ends, request, ht]
  · refine ⟨.ok (), _, _, ?_, ?_,
      h.opened (Rotation.agrees_of_open? hs) (Rotation.agrees_of_open? ht), fun _ _ => trivial⟩
    · simp only [Task.Ends, request, hs]
    · simp only [Task.Ends, request, ht]

/-- Whether the request was cancelled is told in both. -/
theorem respects_enter (key : SlotKey) (cancelled : Bool) :
    (enter key cancelled).Respects (Twin key F s₀ t₀) fun _ => True := by
  refine Task.respects_bind (respects_request key) fun _ _ => ?_
  cases cancelled with
  | true => exact Task.respects_fail _
  | false => exact Task.respects_pure trivial

/-- The clock gives the same reading. -/
theorem respects_takeReading :
    takeReading.Respects (Twin key F s₀ t₀) fun _ => True := by
  intro s t h
  refine ⟨.ok s.clock.now, _, _, rfl, ?_, h.tick, fun _ _ => trivial⟩
  rw [h.clock]
  rfl

/-- The same base path is active, if there is one. -/
theorem respects_look_active (key : SlotKey) :
    (Task.look (·.rotation.active? key) : StoreTask (Option Path)).Respects (Twin key F s₀ t₀)
      fun active => ∀ base, active = some base → IsBase key base :=
  Task.respects_look fun _ _ h => ⟨h.active, h.isBase⟩

/-- The same base path is made active, or none. -/
theorem respects_activate (key : SlotKey) {path : Option Path}
    (hp : ∀ base, path = some base → IsBase key base) :
    (changeRotation fun r => r.activate key path).Respects (Twin key F s₀ t₀) fun _ => True :=
  Task.respects_change fun _ _ h => h.activate hp

/-- The same base path comes next. -/
theorem respects_rotate (key : SlotKey) :
    (rotate key).Respects (Twin key F s₀ t₀) (IsBase key) := by
  refine Task.respects_bind (respects_look_active key) fun active _ => ?_
  refine Task.respects_bind respects_takeReading fun time _ => ?_
  refine Task.respects_bind (Task.respects_report _ _ _) fun _ _ => ?_
  have hbase : IsBase key (freshPath key active freshPathSteps time) :=
    freshPath_eq_basePath key active freshPathSteps time
  refine Task.respects_bind (respects_activate key fun base hb => ?_) fun _ _ => ?_
  · exact Option.some.inj hb ▸ hbase
  · exact Task.respects_pure hbase

/-- A step on the files fails for one reason in both trees, or leaves them in the relation. -/
theorem respects_changeFiles {step : FileTree → Except FileError FileTree}
    (h : ∀ files files', F files files' →
      (∃ error, step files = .error error ∧ step files' = .error error) ∨
        ∃ next next', step files = .ok next ∧ step files' = .ok next' ∧ F next next') :
    (changeFiles path step).Respects (Twin key F s₀ t₀) fun _ => True := by
  intro s t ht
  rcases h _ _ ht.files with ⟨error, hs, hs'⟩ | ⟨next, next', hs, hs', hF⟩
  · refine ⟨.error (.file path error), s, t, ?_, ?_, ht, fun _ _ => trivial⟩
    · simp only [Task.Ends, changeFiles, hs]
    · simp only [Task.Ends, changeFiles, hs']
  · refine ⟨.ok (), _, _, ?_, ?_, ht.withFiles hF, fun _ _ => trivial⟩
    · simp only [Task.Ends, changeFiles, hs]
    · simp only [Task.Ends, changeFiles, hs']

/-- A directory is created in both trees, or in none, for one reason. -/
theorem respects_createDirectories
    (h : ∀ files files', F files files' →
      (files.createDirectories path).2 = (files'.createDirectories path).2 ∧
        F (files.createDirectories path).1 (files'.createDirectories path).1) :
    (createDirectories path).Respects (Twin key F s₀ t₀) fun _ => True := by
  intro s t ht
  obtain ⟨hdone, hF⟩ := h _ _ ht.files
  exact ⟨_, _, _, ends_createDirectories_iff.2 ⟨rfl, rfl⟩,
    ends_createDirectories_iff.2 ⟨by rw [hdone], rfl⟩, ht.withFiles hF, fun _ _ => trivial⟩

/-- A volume that answers the same about every tree takes the same octets. -/
theorem respects_appendOnce {sink : FileSink} {space : Space} {fault : Option (Nat × String)}
    (hv : sink.volume = .answering space fault)
    (h : ∀ files files', F files files' → ∀ bytes,
      (∃ error, files.append path bytes = .error error ∧ files'.append path bytes = .error error) ∨
        ∃ next next', files.append path bytes = .ok next ∧ files'.append path bytes = .ok next' ∧
          F next next') (bytes : Bytes) :
    (sink.appendOnce path bytes).Respects (Twin key F s₀ t₀) fun _ => True := by
  rw [FileSink.appendOnce, hv]
  refine Task.respects_bind (P := fun _ => True)
    (Task.respects_look fun _ _ _ => ⟨rfl, trivial⟩) fun broken _ => ?_
  refine Task.respects_bind (respects_changeFiles fun files files' hF => h files files' hF _)
    fun _ _ => ?_
  cases broken with
  | some fault => exact Task.respects_fail _
  | none => exact Task.respects_pure trivial

end Slot

/-! ## Work on the files -/

namespace Kin

variable {F : FileTree → FileTree → Prop} (h : Kin key F) {s₀ t₀ : Store}
include h

/-- An active path is found in both stores, or named by the same reading. -/
theorem respects_activePath : (activePath key).Respects (Twin key F s₀ t₀) (IsBase key) := by
  refine Task.respects_bind (respects_look_active key) fun active ha => ?_
  cases active with
  | some base => exact Task.respects_pure (ha base rfl)
  | none =>
    refine Task.respects_bind h.create fun _ _ => ?_
    refine Task.respects_bind respects_takeReading fun time _ => ?_
    refine Task.respects_bind (Task.respects_report _ _ _) fun _ _ => ?_
    have hbase : IsBase key (FileName.basePath key.directory key.signal time) := ⟨time, rfl⟩
    refine Task.respects_bind (respects_activate key fun base hb => ?_) fun _ _ => ?_
    · exact Option.some.inj hb ▸ hbase
    · exact Task.respects_pure hbase

/-- A file of the key has grown over the limit in both stores, or in none. -/
theorem respects_look_exceeds (hp : OwnPath key path) (maxMb : UInt64) :
    (Task.look fun s => exceeds s.files path maxMb : StoreTask Bool).Respects (Twin key F s₀ t₀)
      fun _ => True :=
  Task.respects_look fun _ _ ht => ⟨by rw [exceeds, exceeds, h.size ht.files hp], trivial⟩

/-- A record goes to the same file. -/
theorem respects_target {sink : FileSink} {signal : Signal} (hk : sink.key signal = key) :
    (sink.target signal).Respects (Twin key F s₀ t₀) (OwnPath key) := by
  subst hk
  refine Task.respects_bind h.respects_activePath fun base hbase => ?_
  refine Task.respects_bind (h.respects_look_exceeds (hbase.ownPath sink.stream) sink.maxMb)
    fun exceeds _ => ?_
  cases exceeds with
  | true =>
    refine Task.respects_bind (respects_rotate (sink.key signal)) fun base hbase => ?_
    exact Task.respects_pure (hbase.ownPath sink.stream)
  | false => exact Task.respects_pure (hbase.ownPath sink.stream)

omit h in
/-- A volume that answers the same about every tree tells nothing about it. -/
theorem respects_ensureSpace {sink : FileSink} {space : Space} {fault : Option (Nat × String)}
    (hv : sink.volume = .answering space fault) (target : Path) (length : Nat) :
    (sink.ensureSpace target length).Respects (Twin key F s₀ t₀) fun _ => True := by
  refine Task.respects_bind
    (Task.respects_look (P := fun found => found = space) fun s t _ => ?_) fun found _ => ?_
  · rw [hv]
    exact ⟨rfl, rfl⟩
  · cases found with
    | available bytes =>
      dsimp only
      split
      · exact Task.respects_bind (Task.respects_report _ _ _) fun _ _ => Task.respects_fail _
      · exact Task.respects_pure trivial
    | _ => exact Task.respects_fail _

/-- A record is stored in both stores, or fails in both for one reason. -/
theorem respects_write {sink : FileSink} {record : Record} (hk : sink.key record.signal = key)
    {space : Space} {fault : Option (Nat × String)} (hv : sink.volume = .answering space fault)
    (cancelled : Bool) :
    (sink.write record cancelled).Respects (Twin key F s₀ t₀) fun _ => True := by
  have henter : (enter ⟨sink.directory, record.signal⟩ cancelled).Respects (Twin key F s₀ t₀)
      fun _ => True := hk ▸ respects_enter (sink.key record.signal) cancelled
  refine Task.respects_bind henter fun _ _ => ?_
  refine Task.respects_bind (h.respects_target hk) fun target ht => ?_
  refine Task.respects_bind (respects_ensureSpace hv target _) fun _ _ => ?_
  refine Task.respects_bind (h.append hv ht _) fun _ _ => ?_
  exact Task.respects_report _ _ _

/-- As many files of the key are removed from both. -/
theorem respects_clearSignal :
    (clearSignal key.directory key.signal).Respects (Twin key F s₀ t₀) fun _ => True := by
  refine Task.respects_bind (respects_enter key false) fun _ _ => ?_
  refine Task.respects_bind (respects_activate key fun _ hb => by cases hb) fun _ _ => ?_
  exact h.sweep

/-- A clear of the signal counts the same. -/
theorem respects_clear :
    (clear key.directory (some key.signal)).Respects (Twin key F s₀ t₀) fun _ => True := by
  refine Task.respects_bind (P := fun _ => True) ?_ fun _ _ => ?_
  · refine Task.respects_bind h.respects_clearSignal fun _ _ => ?_
    refine Task.respects_bind (Task.respects_pure (P := fun _ => True) trivial) fun _ _ => ?_
    exact Task.respects_pure trivial
  · refine Task.respects_bind (Task.respects_report _ _ _) fun _ _ => ?_
    exact Task.respects_pure trivial

/-- A listing of the signal shows the same. -/
theorem respects_list :
    (Command.list key.directory key.signal).task.Respects (Twin key F s₀ t₀) fun _ => True := by
  intro s t ht
  refine ⟨(Store.list s.files key.directory key.signal).map .paths, s, t, rfl, ?_, ht,
    fun _ _ => trivial⟩
  rw [h.list ht.files]
  rfl

end Kin

end Store

/-! ## Errands -/

/-- What is asked of one signal of a directory. A write has an answer to how much space is free, and
an append that is to break off has the octets that get there and the reason. -/
inductive Errand where
  | write (stream : Stream) (maxMb : UInt64) (space : Space) (fault : Option (Nat × String))
    (record : Record) (cancelled : Bool)
  | path (signal : Signal)
  | rotate (signal : Signal)
  | list (signal : Signal)
  | clear (signal : Signal)

namespace Errand

/-- The signal that is asked something of. -/
def signal : Errand → Signal
  | write _ _ _ _ record _ => record.signal
  | path signal => signal
  | rotate signal => signal
  | list signal => signal
  | clear signal => signal

/-- The command for a directory. -/
def command (directory : Path) : Errand → Command
  | write stream maxMb space fault record cancelled =>
    .write ⟨stream, directory, maxMb, .answering space fault⟩ record cancelled
  | path signal => .path ⟨directory, signal⟩
  | rotate signal => .rotate ⟨directory, signal⟩
  | list signal => .list directory signal
  | clear signal => .clear directory (some signal)

/-- An errand tells the same in twins, and leaves twins. -/
theorem respects_task {directory : Path} (errand : Errand) {F : FileTree → FileTree → Prop}
    (h : Store.Kin ⟨directory, errand.signal⟩ F) {s₀ t₀ : Store} :
    (errand.command directory).task.Respects (Store.Twin ⟨directory, errand.signal⟩ F s₀ t₀)
      fun _ => True := by
  cases errand with
  | write stream maxMb space fault record cancelled =>
    exact Task.respects_bind (h.respects_write rfl rfl cancelled)
      fun _ _ => Task.respects_pure trivial
  | path signal =>
    refine Task.respects_bind (Task.respects_bind (Store.respects_enter ⟨directory, signal⟩ false)
      fun _ _ => h.respects_activePath) fun _ _ => ?_
    exact Task.respects_pure trivial
  | rotate signal =>
    refine Task.respects_bind (Task.respects_bind (Store.respects_enter ⟨directory, signal⟩ false)
      fun _ _ => Store.respects_rotate ⟨directory, signal⟩) fun _ _ => ?_
    exact Task.respects_pure trivial
  | list signal =>
    exact h.respects_list
  | clear signal =>
    exact Task.respects_bind h.respects_clear fun _ _ => Task.respects_pure trivial

end Errand

end TelemetrySpool
