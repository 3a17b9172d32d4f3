import TelemetrySpool.Proofs.Files.Ancestry
import TelemetrySpool.Proofs.Sink.Progress
import TelemetrySpool.Proofs.Spool.Confinement

/-!
# Room for a new file

Nothing is in the way of a new file if its directory stands, its place is free and no name on the
way to it is too long. A write that settles on such a file stores its line there, as long as the
volume has the space and takes what it is given; and then there is room for every other file as
before.
-/

namespace TelemetrySpool

open Store

/-- No name of a file has a null character. -/
theorem FileName.null_notMem_ofTime (signal : Signal) (time : Instant) (stream : Stream) :
    '\x00' ∉ (ofTime signal time stream).toList := by
  rw [toList_ofTime, List.mem_append, List.mem_append, not_or, not_or]
  refine ⟨⟨by cases signal <;> decide, fun h => ?_⟩, by cases stream <;> decide⟩
  exact absurd (Instant.mem_stamp h) (by decide)

namespace SlotKey

/-- Whether the names that an instant gives to the files of a key are not too long. -/
def Fits (key : SlotKey) (time : Instant) : Prop :=
  ∀ stream,
    (Path.join key.directory (FileName.ofTime key.signal time stream)).utf8ByteSize ≤
        FileTree.maxPathBytes ∧
      (FileName.ofTime key.signal time stream).utf8ByteSize ≤ FileTree.maxNameBytes

/-- There is room for a file: its directory stands, and its place is free. -/
structure Room (key : SlotKey) (files : FileTree) (time : Instant) (stream : Stream) : Prop where
  stands : files.stat key.directory = .ok .directory
  free : files.get? (key.file time stream).place = none

/-- The files after a line has been stored in a new one. -/
def filed (key : SlotKey) (files : FileTree) (time : Instant) (stream : Stream) (line : Bytes) :
    FileTree :=
  files.set (key.file time stream).place (.file line)

variable {key : SlotKey} {files : FileTree} {time : Instant} {stream : Stream} {line : Bytes}

/-- A file of a directory that stands is found in its place. -/
theorem resolve_file (hs : files.stat key.directory = .ok .directory) (hfits : key.Fits time)
    (stream : Stream) :
    files.resolve (key.file time stream) = .ok (key.file time stream).place := by
  have hplain := FileName.isPlain_ofTime key.signal time stream
  have hstands : files.Stands key.directory := .inr hs
  have hnull : ¬ (Path.join key.directory
      (FileName.ofTime key.signal time stream)).toList.contains '\x00' := by
    obtain ⟨hdirectory, -⟩ := FileTree.resolve_eq_ok_iff.1 (FileTree.stat_eq_ok_iff.1 hs).1
    rw [List.contains_iff_mem]
    intro hm
    rcases Path.mem_toList_join hm with hm | hm | hm
    · rw [List.contains_iff_mem.2 hm] at hdirectory
      cases hdirectory
    · exact absurd hm (by decide)
    · exact FileName.null_notMem_ofTime key.signal time stream hm
  rw [file, basePath, FileName.place_ofStream, FileName.ofStream_basePath,
    hstands.resolve_join hplain, if_neg hnull, if_neg]
  rw [not_or, Nat.not_lt, Nat.not_lt]
  exact hfits stream

/-- A file that was filed stands in its place, and the other entries stay. -/
theorem get?_filed (key : SlotKey) (files : FileTree) (time : Instant) (stream : Stream)
    (line : Bytes) (place : Place) :
    (key.filed files time stream line).get? place =
      if place = (key.file time stream).place then some (.file line) else files.get? place := by
  refine FileTree.get?_set files place _ ?_
  rw [file, basePath, FileName.place_ofStream]
  exact FileTree.alwaysExists_concat_of_isPlain _ (FileName.isPlain_ofTime key.signal time stream)

/-- It holds its line. -/
theorem get?_filed_self (key : SlotKey) (files : FileTree) (time : Instant) (stream : Stream)
    (line : Bytes) :
    (key.filed files time stream line).get? (key.file time stream).place = some (.file line) := by
  rw [get?_filed, if_pos rfl]

/-- A file under another base path or of another stream is as it was. -/
theorem get?_filed_of_ne (files : FileTree) (line : Bytes) {other : Instant} {stream' : Stream}
    (hne : key.basePath other ≠ key.basePath time ∨ stream' ≠ stream) :
    (key.filed files time stream line).get? (key.file other stream').place =
      files.get? (key.file other stream').place := by
  rw [get?_filed, if_neg]
  intro he
  obtain ⟨hbase, hstream⟩ := FileName.place_ofStream_inj he
  exact hne.elim (· hbase) (· hstream)

namespace Room

/-- The file that is filed is no directory. -/
theorem get?_filed_directory (h : key.Room files time stream) (line : Bytes) {place : Place}
    (hp : files.get? place = some .directory) :
    (key.filed files time stream line).get? place = some .directory := by
  rw [get?_filed, if_neg]
  · exact hp
  · intro he
    rw [he, h.free] at hp
    cases hp

/-- The directory still stands. -/
theorem stat_filed (h : key.Room files time stream) (line : Bytes) :
    (key.filed files time stream line).stat key.directory = .ok .directory :=
  FileTree.stat_mono h.stands fun _ => h.get?_filed_directory line

/-- A file is not in the way of one under another base path or of another stream. -/
theorem filed (h : key.Room files time stream) (line : Bytes) {other : Instant} {stream' : Stream}
    (h' : files.get? (key.file other stream').place = none)
    (hne : key.basePath other ≠ key.basePath time ∨ stream' ≠ stream) :
    key.Room (key.filed files time stream line) other stream' :=
  ⟨h.stat_filed line, (get?_filed_of_ne files line hne).trans h'⟩

/-- What is appended to a file for which there is room is all that it holds. -/
theorem append_eq (h : key.Room files time stream) (hfits : key.Fits time) (line : Bytes) :
    files.append (key.file time stream) line = .ok (key.filed files time stream line) := by
  rw [FileTree.append, resolve_file h.stands hfits]
  simp only [bind, Except.bind, h.free]
  rfl

end Room

/-- Whether a file is too large, told from what it holds. -/
theorem exceeds_eq (hs : files.stat key.directory = .ok .directory) (hfits : key.Fits time)
    {content : Bytes} (hg : files.get? (key.file time stream).place = some (.file content))
    (maxMb : UInt64) :
    exceeds files (key.file time stream) maxMb = decide (sizeLimit maxMb < content.length) := by
  rw [exceeds, FileTree.size?_eq (resolve_file hs hfits stream) hg, Option.any_some]
  rfl

end SlotKey

/-- A volume that takes every append, and has so much free at every path that is found that a line
of that many octets may be written. About a path that is not found it cannot be asked. -/
structure Volume.Takes (volume : Volume) (length : Nat) : Prop where
  complete : volume.Complete
  found : ∀ files path entry, files.stat path = .ok entry →
    ∃ bytes, volume.space files path = .available bytes ∧ FileSink.required length ≤ bytes
  lost : ∀ files path error, files.stat path = .error error →
    volume.space files path = .unreachable error

/-- A volume with enough octets free takes a line. -/
theorem Volume.takes_ofFree {bytes length : Nat} (h : FileSink.required length ≤ bytes) :
    (ofFree bytes).Takes length where
  complete := complete_ofFree bytes
  found files path entry hs := ⟨bytes, by simp only [ofFree, hs], h⟩
  lost files path error hs := by simp only [ofFree, hs]

/-- The free space for a file is asked about at its directory. -/
theorem FileSink.directoryOf_file {sink : FileSink} {key : SlotKey} (hd : key.directory ≠ "")
    (time : Instant) (stream : Stream) :
    sink.directoryOf (key.file time stream) = Path.trimmed key.directory := by
  rw [directoryOf, SlotKey.file, SlotKey.basePath, FileName.ofStream_basePath,
    Path.parent?_join hd (FileName.isPlain_ofTime key.signal time stream), Option.getD_some]

/-- A line is stored in a file of its own if there is room for one, and the volume takes it. -/
theorem FileSink.exists_filed {sink : FileSink} {record : Record} {key : SlotKey} {time : Instant}
    {s s₁ : Store} (hv : sink.volume.Takes (Bytes.ofText record.line).length)
    (hopen : s.rotation.closed = false)
    (hset : sink.Settles record.signal s (key.basePath time) s₁)
    (hroom : key.Room s₁.files time sink.stream) (hfits : key.Fits time) :
    ∃ s', (sink.write record false).Ends s (.ok ()) s' ∧
      Opened { s₁ with
        files := key.filed s₁.files time sink.stream (Bytes.ofText record.line) } s' := by
  have hd : key.directory ≠ "" :=
    (FileTree.resolve_eq_ok_iff.1 (FileTree.stat_eq_ok_iff.1 hroom.stands).1).2.1
  obtain ⟨bytes, hspace, hbytes⟩ := hv.found _ _ _ (FileTree.stat_trimmed hroom.stands)
  rw [← sink.directoryOf_file hd time sink.stream] at hspace
  exact sink.ends_write_of_settles record hv.complete hopen hset hspace hbytes
    (hroom.append_eq hfits _)

end TelemetrySpool
