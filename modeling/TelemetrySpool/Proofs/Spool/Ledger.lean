import TelemetrySpool.Proofs.Spool.Confinement

/-!
# What the files of a signal hold

A ledger lists, for each stream of a signal, the records that have been written since the signal was
cleared last, and the base path under which each of them went. A store tracks its ledgers if every
file holds the lines that its ledger has under its base path, and if the base paths in use are named
by readings that the clock has given before. As long as the clock goes on, a new base path is then
one that no ledger knows.
-/

namespace TelemetrySpool

open FileTree (extended extended_concat)

/-- A record that was written, with the base path under which it went. -/
structure Filed where
  base : Path
  record : Record

/-- The records under a base path, in the order in which they were written. -/
def recordsUnder (ledger : List Filed) (base : Path) : List Record :=
  (ledger.filter (·.base = base)).map (·.record)

/-- The lines under a base path. -/
def linesUnder (ledger : List Filed) (base : Path) : List String :=
  (recordsUnder ledger base).map (·.line)

/-- The octets under a base path. -/
def sizeUnder (ledger : List Filed) (base : Path) : Nat :=
  ((linesUnder ledger base).flatMap Bytes.ofText).length

/-- Entries of two ledgers follow each other under every base path. -/
theorem recordsUnder_append (ledger ledger' : List Filed) (base : Path) :
    recordsUnder (ledger ++ ledger') base =
      recordsUnder ledger base ++ recordsUnder ledger' base := by
  rw [recordsUnder, List.filter_append, List.map_append]
  rfl

/-- The last entry brings a line under its own base path. -/
theorem linesUnder_concat (ledger : List Filed) (filed : Filed) (base : Path) :
    linesUnder (ledger ++ [filed]) base =
      linesUnder ledger base ++ if filed.base = base then [filed.record.line] else [] := by
  rw [linesUnder, recordsUnder_append, List.map_append, linesUnder]
  by_cases h : filed.base = base
  · simp [recordsUnder, h]
  · simp [recordsUnder, h]

/-- Choosing records and looking under a base path may change places. -/
theorem recordsUnder_filter (ledger : List Filed) (base : Path) (p : Record → Bool) :
    recordsUnder (ledger.filter fun f => p f.record) base =
      (recordsUnder ledger base).filter p := by
  rw [recordsUnder, recordsUnder, List.filter_map, List.filter_filter, List.filter_filter]
  simp only [Function.comp_def, Bool.and_comm]

/-- Chosen records take no more octets than all. -/
theorem sizeUnder_filter_le (ledger : List Filed) (base : Path) (p : Record → Bool) :
    sizeUnder (ledger.filter fun f => p f.record) base ≤ sizeUnder ledger base := by
  unfold sizeUnder linesUnder
  rw [recordsUnder_filter]
  induction recordsUnder ledger base with
  | nil => exact Nat.le_refl _
  | cons record records ih =>
    rw [List.filter_cons]
    split
    · simpa using ih
    · simp only [List.map_cons, List.flatMap_cons, List.length_append]
      omega

namespace Store

/-- The files of a key hold what the ledgers of its streams say. -/
structure Tracks (key : SlotKey) (ledger : Stream → List Filed) (s : Store) : Prop
    extends Confined key s where
  past : ∀ stream, ∀ f ∈ ledger stream, key.Past s.clock f.base
  file?_eq : ∀ time stream, s.files.file? (key.file time stream).place =
    extended none (linesUnder (ledger stream) (key.basePath time))

/-- A ledger with one more record for a stream. -/
def enter? (ledger : Stream → List Filed) (stream : Stream) (filed : Filed) : Stream → List Filed :=
  fun other => if other = stream then ledger other ++ [filed] else ledger other

namespace Tracks

variable {key : SlotKey} {ledger : Stream → List Filed} {s s' : Store}

/-- Work that changes no file of the key keeps to the ledgers. -/
theorem of_confined (h : Tracks key ledger s) {key' : SlotKey} (hs : Confined key s')
    (hf : Framed key' s s') (hfile : ∀ time stream,
      s'.files.file? (key.file time stream).place = s.files.file? (key.file time stream).place) :
    Tracks key ledger s' where
  toConfined := hs
  past stream f hm := (h.past stream f hm).mono hf.reading hf.next
  file?_eq time stream := by rw [hfile, h.file?_eq]

/-- What a file holds is as large as its ledger says. -/
theorem length_file? (h : Tracks key ledger s) (time : Instant) (stream : Stream) :
    ((s.files.file? (key.file time stream).place).getD []).length =
      sizeUnder (ledger stream) (key.basePath time) := by
  rw [h.file?_eq, extended, sizeUnder]
  split
  · next hl =>
    rw [hl]
    rfl
  · rfl

/-- The limit counts more octets than a directory reports. -/
theorem directorySize_le_sizeLimit {maxMb : UInt64} (hm : maxMb ≠ 0) :
    FileTree.directorySize ≤ sizeLimit maxMb := by
  have hpos : 0 < maxMb.toNat := by
    rcases Nat.eq_zero_or_pos maxMb.toNat with h | h
    · exact absurd (UInt64.toNat_inj.1 h) hm
    · exact h
  have hsize : UInt64.size = 18446744073709551616 := rfl
  simp only [sizeLimit, FileTree.directorySize, bytesPerMb]
  omega

/-- A file is over the limit only if the lines in it are. -/
theorem lt_sizeUnder_of_exceeds (h : Tracks key ledger s) {maxMb : UInt64} (hm : maxMb ≠ 0)
    {time : Instant} {stream : Stream}
    (hx : exceeds s.files (key.file time stream) maxMb = true) :
    sizeLimit maxMb < sizeUnder (ledger stream) (key.basePath time) := by
  obtain ⟨size, hsize, hlt⟩ := (Option.any_eq_true _ _).1 hx
  obtain ⟨hr, entry, hg⟩ := FileTree.exists_of_size? hsize
  rw [FileTree.size?_eq hr hg] at hsize
  cases entry with
  | directory =>
    have hle := directorySize_le_sizeLimit hm
    obtain rfl := Option.some.inj hsize
    exact absurd (of_decide_eq_true hlt) (Nat.not_lt.2 hle)
  | file content =>
    have hfile := h.file?_eq time stream
    rw [FileTree.file?_eq_some_iff.2 hg] at hfile
    obtain rfl := FileTree.eq_of_extended_none hfile.symm
    obtain rfl := Option.some.inj hsize
    exact of_decide_eq_true hlt

/-- Opening a slot changes nothing that the ledgers tell. -/
theorem of_opened (h : Tracks key ledger s) (ho : Opened s s') : Tracks key ledger s' :=
  h.of_confined (h.toConfined.of_opened ho) (ho.framed key) fun time stream => by rw [ho.files]

/-- A base path that is found is one that a reading has named. -/
theorem of_finds (h : Tracks key ledger s) {base : Path} (hf : Finds key s base s') :
    Tracks key ledger s' :=
  h.of_confined (h.toConfined.of_finds hf).1 hf.framed fun _ _ => hf.files.file?_eq _

/-- What a write settles on: a base path under which its own stream is not over the limit yet. -/
theorem of_settles (h : Tracks key ledger s) (hc : s.clock.Increasing) {sink : FileSink}
    {base : Path} (hkey : sink.key key.signal = key)
    (hset : FileSink.Settles sink key.signal s base s') :
    Tracks key ledger s' ∧ key.Past s'.clock base ∧
      sizeUnder (ledger sink.stream) base ≤ sizeLimit sink.maxMb := by
  obtain ⟨hs', hp, hle⟩ := h.toConfined.of_settles hc hkey hset
  have hframed := hset.framed
  rw [hkey] at hframed
  have ht := h.of_confined hs' hframed fun _ _ => hset.files.file?_eq _
  refine ⟨ht, hp, ?_⟩
  obtain ⟨i, -, rfl⟩ := hp
  rwa [← ht.length_file?]

/-- What grows is the file of one base path and one stream. -/
theorem file?_of_grown {base : Path} {stream : Stream} {line : Bytes} {files : FileTree}
    {reading : Instant} (hbase : base = key.basePath reading) (hf : s.files.SameFiles files)
    (hg : files.Grown s'.files (FileName.ofStream base stream) line) (time : Instant)
    (other : Stream) : s'.files.file? (key.file time other).place =
      if key.basePath time = base ∧ other = stream then
        some ((s.files.file? (key.file time other).place).getD [] ++ line)
      else s.files.file? (key.file time other).place := by
  have hplace : (key.file time other).place = (FileName.ofStream base stream).place ↔
      key.basePath time = base ∧ other = stream := by
    rw [hbase]
    constructor
    · exact FileName.place_ofStream_inj
    · rintro ⟨hb, rfl⟩
      rw [SlotKey.file, hb]
  rw [hg.of_sameFiles hf]
  by_cases he : key.basePath time = base ∧ other = stream
  · rw [if_pos (hplace.2 he), if_pos he]
  · rw [if_neg (mt hplace.1 he), if_neg he]

/-- A line at the end of a file is one more in its ledger. -/
theorem of_grown (h : Tracks key ledger s) {base : Path} {record : Record} {stream : Stream}
    {files : FileTree} (hp : key.Past s.clock base) (hf : s.files.SameFiles files)
    (hr : s'.rotation = s.rotation) (hc : s'.clock = s.clock)
    (hg : files.Grown s'.files (FileName.ofStream base stream) (Bytes.ofText record.line)) :
    Tracks key (enter? ledger stream ⟨base, record⟩) s' := by
  refine ⟨h.toConfined.of_grown hp hf hr hc hg, fun other f hm => ?_, fun time other => ?_⟩
  · rw [hc]
    unfold enter? at hm
    split at hm
    · rcases List.mem_append.1 hm with hm | hm
      · exact h.past other f hm
      · rw [List.mem_singleton.1 hm]
        exact hp
    · exact h.past other f hm
  · obtain ⟨i, -, hbase⟩ := hp
    rw [file?_of_grown hbase hf hg, h.file?_eq, enter?]
    by_cases ho : other = stream
    · rw [if_pos ho, linesUnder_concat]
      by_cases hb : base = key.basePath time
      · rw [if_pos ⟨hb.symm, ho⟩, if_pos hb, extended_concat]
      · rw [if_neg fun he => hb he.1.symm, if_neg hb, List.append_nil]
    · rw [if_neg fun he => ho he.2, if_neg ho]

/-- A write of the signal that succeeds adds its record to the ledger of its stream. -/
theorem of_writes (h : Tracks key ledger s) (hc : s.clock.Increasing) {sink : FileSink}
    {record : Record} {cancelled : Bool} (hkey : sink.key record.signal = key)
    (hw : sink.Writes record cancelled s (.ok ()) s') :
    ∃ base, s'.rotation.active? key = some base ∧
      sizeUnder (ledger sink.stream) base ≤ sizeLimit sink.maxMb ∧
      Tracks key (enter? ledger sink.stream ⟨base, record⟩) s' := by
  have hsignal : record.signal = key.signal := by rw [← hkey]; rfl
  cases hw with
  | @stored s₁ s₂ _ base files _ _ ho hset hr hclock hf hg =>
    have hactive := hset.active
    rw [hsignal] at hset hkey
    obtain ⟨ht, hp, hle⟩ := (h.of_opened ho).of_settles (by rw [ho.clock]; exact hc) hkey hset
    refine ⟨base, ?_, hle, ht.of_grown hp hf hr hclock hg⟩
    rw [hr, ← hactive, hsignal, hkey]

/-- A write that finds the ledger of its stream within the limit takes the path that is active. -/
theorem rotation_of_writes (h : Tracks key ledger s) {sink : FileSink} {record : Record}
    {cancelled : Bool} {base : Path} (hkey : sink.key record.signal = key)
    (hw : sink.Writes record cancelled s (.ok ()) s') (hm : sink.maxMb ≠ 0)
    (ha : s.rotation.active? key = some base)
    (hle : sizeUnder (ledger sink.stream) base ≤ sizeLimit sink.maxMb) :
    s'.rotation.active? key = some base ∧ s'.clock = s.clock := by
  cases hw with
  | @stored s₁ s₂ _ base' files _ _ ho hset hr hclock hf hg =>
    have hactive : s₁.rotation.active? key = some base := by
      rw [ho.rotation.active]
      exact ha
    have hfinds : ∀ {b : Path} {s₃ : Store}, Finds (sink.key record.signal) s₁ b s₃ →
        b = base ∧ s₃ = s₁ := by
      intro b s₃ hfs
      rw [hkey] at hfs
      cases hfs with
      | active hb =>
        rw [hactive] at hb
        exact ⟨(Option.some.inj hb).symm, rfl⟩
      | new hb _ =>
        rw [hactive] at hb
        cases hb
    cases hset with
    | found hfs hx =>
      obtain ⟨rfl, rfl⟩ := hfinds hfs
      rw [hr, hclock]
      exact ⟨hactive, ho.clock⟩
    | rotated hfs hx =>
      obtain ⟨rfl, rfl⟩ := hfinds hfs
      have ht := h.of_opened ho
      obtain ⟨i, -, rfl⟩ := ht.active _ hactive
      have hlt := ht.lt_sizeUnder_of_exceeds hm hx
      omega

/-- A write of another signal leaves the files of the key alone. -/
theorem of_writes_of_ne (h : Tracks key ledger s) {sink : FileSink} {record : Record}
    {cancelled : Bool} {outcome : Except SinkError Unit} (hs : record.signal ≠ key.signal)
    (hw : sink.Writes record cancelled s outcome s') : Tracks key ledger s' := by
  obtain ⟨hs', hfile⟩ := h.toConfined.of_writes_of_ne hs hw
  exact h.of_confined hs' hw.framed hfile

/-- A clear empties the ledgers of the signals that it is asked for, and leaves all others alone. -/
theorem of_cleared (h : Tracks key ledger s) {signals : List Signal} (hd : key.directory ≠ "")
    (hcl : Cleared key.directory signals s s') :
    Tracks key (fun stream => if key.signal ∈ signals then [] else ledger stream) s' := by
  have hsh := hcl.files h.proper
  refine ⟨h.toConfined.of_swept (.of_cleared hcl), fun stream f hm => ?_, fun time stream => ?_⟩
  · rw [hcl.clock]
    split at hm
    · exact absurd hm List.not_mem_nil
    · exact h.past stream f hm
  · have hplace := FileName.place_ofStream key.directory key.signal time stream
    have hb := (FileName.belongsToStream_iff.1
      (FileName.belongsToStream_ofTime key.signal time stream)).1
    rw [SlotKey.file, SlotKey.basePath, hplace]
    split
    · next hs =>
      have hreach := h.reaches time stream
      rw [SlotKey.file, SlotKey.basePath, FileName.ofStream_basePath] at hreach
      rw [hcl.gone h.proper hd key.signal hs _
        (FileName.isPlain_ofTime key.signal time stream) hb hreach]
      rfl
    · next hs =>
      rw [hsh.file?_of_not, ← hplace]
      · exact h.file?_eq time stream
      · rintro ⟨signal, hm, name, hn, he⟩
        have hname := (List.cons.inj (List.append_cancel_left he)).1
        rw [← hname] at hn
        exact hs (FileName.signal_unique (FileName.belongsTo_iff.1 hb).1
          (FileName.belongsTo_iff.1 hn).1 ▸ hm)

end Tracks

end Store

end TelemetrySpool
