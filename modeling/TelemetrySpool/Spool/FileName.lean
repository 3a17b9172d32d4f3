import TelemetrySpool.Files.Path
import TelemetrySpool.Signal
import TelemetrySpool.Time.Instant

/-!
# File names

A base file is named for its signal and the instant at which it was opened. The file of its errors
has the same name with another suffix, so both sort next to each other. The files of a signal are
recognized by the first and the last part of their names.
-/

namespace TelemetrySpool

/-- The two streams of a signal. -/
inductive Stream where
  /-- All records. -/
  | all
  /-- Only those that report an error. -/
  | errors
  deriving DecidableEq, Repr

namespace Stream

/-- The suffix of the files of a stream. -/
def suffix : Stream → String
  | all => ".ndjson"
  | errors => ".errors.ndjson"

/-- The name of the sink that writes a stream. -/
def sinkName : Stream → String
  | all => "file"
  | errors => "file-errors"

end Stream

namespace FileName

/-- The name of a base file. -/
def base (signal : Signal) (time : Instant) : String :=
  signal.name ++ "." ++ time.stamp ++ Stream.all.suffix

/-- The path of a base file in a directory. -/
def basePath (directory : Path) (signal : Signal) (time : Instant) : Path :=
  Path.join directory (base signal time)

/-- A base path with another suffix; a path without the suffix of base files gets it added. -/
def withSuffix (path : Path) (suffix : String) : Path :=
  match Text.before? Stream.all.suffix.toList path.toList with
  | some stem => String.ofList stem ++ suffix
  | none => path ++ suffix

/-- The path of a stream that belongs to a base path. -/
def ofStream (path : Path) (stream : Stream) : Path := withSuffix path stream.suffix

/-- The suffix of base files gives way to another one. -/
theorem withSuffix_append (stem suffix : String) :
    withSuffix (stem ++ Stream.all.suffix) suffix = stem ++ suffix := by
  simp [withSuffix, Text.before?_append]

/-- A base path is itself that of the stream of all records. -/
theorem ofStream_all (directory : Path) (signal : Signal) (time : Instant) :
    ofStream (basePath directory signal time) .all = basePath directory signal time := by
  unfold ofStream basePath base Path.join
  split
  · exact withSuffix_append _ _
  · rw [← String.append_assoc]
    exact withSuffix_append _ _
  · rw [← String.append_assoc]
    exact withSuffix_append _ _

/-- Whether a name is that of a file of a signal: it starts with the signal and a point, and ends
with the suffix of base files; the two parts may share the point. -/
def belongsTo (signal : Signal) (name : String) : Bool :=
  (signal.name ++ ".").toList.isPrefixOf name.toList &&
    Stream.all.suffix.toList.isSuffixOf name.toList

end FileName

end TelemetrySpool
