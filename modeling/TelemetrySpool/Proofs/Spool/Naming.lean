import TelemetrySpool.Proofs.Files.Route
import TelemetrySpool.Proofs.Time.Stamp
import TelemetrySpool.Spool.FileName

/-!
# Whose file a name is

The files that a spool writes are named by a signal, an instant and a stream. Such a name is a plain
one, so it stands in the directory itself, and it tells the signal, the stream and the millisecond.
-/

namespace TelemetrySpool.FileName

/-- The name of the file of a stream that was opened at an instant. -/
def ofTime (signal : Signal) (time : Instant) (stream : Stream) : String :=
  signal.name ++ "." ++ time.stamp ++ stream.suffix

/-- The file of a stream that belongs to a base path stands in the same directory. -/
theorem ofStream_basePath (directory : Path) (signal : Signal) (time : Instant) (stream : Stream) :
    ofStream (basePath directory signal time) stream =
      Path.join directory (ofTime signal time stream) := by
  unfold ofStream basePath base ofTime Path.join
  split
  · exact withSuffix_append _ _
  · rw [← String.append_assoc, withSuffix_append, String.append_assoc]
  · rw [← String.append_assoc, withSuffix_append, String.append_assoc]

/-- Whether a name is that of a file of a stream of a signal: all files of the signal are, but for
the suffix that parts those of its errors from the others. -/
def belongsToStream (signal : Signal) (stream : Stream) (name : String) : Bool :=
  belongsTo signal name &&
    (Stream.errors.suffix.toList.isSuffixOf name.toList == decide (stream = .errors))

/-- A name is selected by its beginning and its end. -/
theorem belongsTo_iff {signal : Signal} {name : String} :
    belongsTo signal name ↔
      (signal.name ++ ".").toList <+: name.toList ∧ Stream.all.suffix.toList <:+ name.toList := by
  rw [belongsTo, Bool.and_eq_true, List.isPrefixOf_iff_prefix, List.isSuffixOf_iff_suffix]

/-- The streams of a signal are told apart by the end of a name. -/
theorem belongsToStream_iff {signal : Signal} {stream : Stream} {name : String} :
    belongsToStream signal stream name ↔
      belongsTo signal name ∧ (Stream.errors.suffix.toList <:+ name.toList ↔ stream = .errors) := by
  rw [belongsToStream, Bool.and_eq_true, beq_iff_eq]
  refine and_congr Iff.rfl ?_
  rw [Bool.eq_iff_iff, decide_eq_true_iff, List.isSuffixOf_iff_suffix]

/-- A name of a signal is longer than the names that lead elsewhere. -/
theorem ne_of_belongsTo {signal : Signal} {name short : String} (h : belongsTo signal name)
    (hs : short.toList.length ≤ 3) : name ≠ short := by
  have hl := (belongsTo_iff.1 h).1.length_le
  have hsignal : 3 < (signal.name ++ ".").toList.length := by cases signal <;> decide
  rintro rfl
  omega

/-- A name without a slash that belongs to a signal leads to a child of its directory. -/
theorem isPlain_of_belongsTo {signal : Signal} {name : String} (h : belongsTo signal name)
    (hs : '/' ∉ name.toList) : Path.IsPlain name where
  ne_dot := ne_of_belongsTo h (by decide)
  ne_dots := ne_of_belongsTo h (by decide)
  ne_empty he := ne_of_belongsTo h (by decide) (String.toList_eq_nil_iff.1 he)
  noSlash := hs

/-- No name of a signal, up to its point, starts that of another one. -/
theorem signal_unique {a b : Signal} {name : List Char}
    (ha : (a.name ++ ".").toList <+: name) (hb : (b.name ++ ".").toList <+: name) : a = b := by
  have all : ∀ a b : Signal, (a.name ++ ".").toList <+: (b.name ++ ".").toList → a = b := by
    intro a b h
    cases a <;> cases b <;> first | rfl | exact absurd h (by decide)
  rcases Nat.le_total (a.name ++ ".").toList.length (b.name ++ ".").toList.length with hl | hl
  · exact all a b (List.prefix_of_prefix_length_le ha hb hl)
  · exact (all b a (List.prefix_of_prefix_length_le hb ha hl)).symm

/-- A name belongs to one signal and one stream at most. -/
theorem belongsToStream_unique {a b : Signal} {c d : Stream} {name : String}
    (h : belongsToStream a c name) (h' : belongsToStream b d name) : a = b ∧ c = d := by
  rw [belongsToStream_iff, belongsTo_iff] at h h'
  refine ⟨signal_unique h.1.1 h'.1.1, ?_⟩
  have hs : c = .errors ↔ d = .errors := h.2.symm.trans h'.2
  cases c <;> cases d <;> simp_all

/-- A stamp has neither a point nor a slash. -/
theorem ne_of_mem_stamp {time : Instant} {c : Char} (h : c ∈ time.stamp.toList) :
    c ≠ '.' ∧ c ≠ '/' := by
  constructor
  · rintro rfl
    exact absurd (Instant.mem_stamp h) (by decide)
  · rintro rfl
    exact absurd (Instant.mem_stamp h) (by decide)

/-- A name consists of the signal, the time and the stream. -/
theorem toList_ofTime (signal : Signal) (time : Instant) (stream : Stream) :
    (ofTime signal time stream).toList =
      (signal.name ++ ".").toList ++ time.stamp.toList ++ stream.suffix.toList := by
  simp only [ofTime, String.toList_append]

/-- The suffix of errors is found on the names of their files alone. -/
theorem errors_suffix_iff (signal : Signal) (time : Instant) (stream : Stream) :
    Stream.errors.suffix.toList <:+ (ofTime signal time stream).toList ↔ stream = .errors := by
  rw [toList_ofTime]
  cases stream with
  | errors => simp only [List.suffix_append]
  | all =>
    simp only [reduceCtorEq, iff_false]
    -- What precedes the common part of the suffixes would have to end the stamp.
    have hsplit : Stream.errors.suffix.toList = ".errors".toList ++ Stream.all.suffix.toList := rfl
    rw [hsplit, List.suffix_append_self_iff]
    rintro ⟨start, h⟩
    have hne : time.stamp.toList ≠ [] := by
      rw [Instant.toList_stamp]
      simp
    have hlast := congrArg List.getLast? h
    rw [List.getLast?_append, List.getLast?_append, List.getLast?_eq_some_getLast hne] at hlast
    have hs : 's' = time.stamp.toList.getLast hne := Option.some.inj hlast
    have hmem : 's' ∈ time.stamp.toList := hs ▸ List.getLast_mem hne
    exact absurd (Instant.mem_stamp hmem) (by decide)

/-- The suffix of all files ends every name. -/
theorem all_suffix_ofTime (signal : Signal) (time : Instant) (stream : Stream) :
    Stream.all.suffix.toList <:+ (ofTime signal time stream).toList := by
  have hs : Stream.all.suffix.toList <:+ stream.suffix.toList := by cases stream <;> decide
  rw [toList_ofTime]
  exact hs.trans (List.suffix_append _ _)

/-- The name of a file belongs to its signal and its stream. -/
theorem belongsToStream_ofTime (signal : Signal) (time : Instant) (stream : Stream) :
    belongsToStream signal stream (ofTime signal time stream) := by
  rw [belongsToStream_iff, belongsTo_iff, errors_suffix_iff, toList_ofTime]
  refine ⟨⟨⟨_, by rw [List.append_assoc]⟩, ?_⟩, Iff.rfl⟩
  rw [← toList_ofTime]
  exact all_suffix_ofTime signal time stream

/-- The name of a file leads to a child of its directory. -/
theorem isPlain_ofTime (signal : Signal) (time : Instant) (stream : Stream) :
    Path.IsPlain (ofTime signal time stream) := by
  have hb := (belongsToStream_iff.1 (belongsToStream_ofTime signal time stream)).1
  refine isPlain_of_belongsTo hb fun h => ?_
  rw [toList_ofTime, List.mem_append, List.mem_append] at h
  rcases h with (h | h) | h
  · cases signal <;> exact absurd h (by decide)
  · exact (ne_of_mem_stamp h).2 rfl
  · cases stream <;> exact absurd h (by decide)

/-- The name of a file tells its stamp and its stream. -/
theorem ofTime_inj {signal : Signal} {t u : Instant} {c d : Stream}
    (h : ofTime signal t c = ofTime signal u d) : t.stamp = u.stamp ∧ c = d := by
  have hc := belongsToStream_unique (belongsToStream_ofTime signal t c)
    (h ▸ belongsToStream_ofTime signal u d)
  obtain ⟨-, rfl⟩ := hc
  have hl := congrArg String.toList h
  rw [toList_ofTime, toList_ofTime, List.append_assoc, List.append_assoc] at hl
  exact ⟨String.toList_inj.1 (List.append_cancel_right (List.append_cancel_left hl)), rfl⟩

/-- The place of a file is that of its name in the directory. -/
theorem place_ofStream (directory : Path) (signal : Signal) (time : Instant) (stream : Stream) :
    (ofStream (basePath directory signal time) stream).place =
      directory.place ++ [ofTime signal time stream] := by
  rw [ofStream_basePath, Path.place_join _ (isPlain_ofTime signal time stream)]

/-- Files at one place belong to one base path and one stream. -/
theorem place_ofStream_inj {directory : Path} {signal : Signal} {t u : Instant} {c d : Stream}
    (h : (ofStream (basePath directory signal t) c).place =
      (ofStream (basePath directory signal u) d).place) :
    basePath directory signal t = basePath directory signal u ∧ c = d := by
  rw [place_ofStream, place_ofStream] at h
  have hn := List.append_cancel_left h
  obtain ⟨hs, hc⟩ := ofTime_inj (List.cons.inj hn).1
  exact ⟨by rw [basePath, basePath, base, base, hs], hc⟩

/-- Base paths are the same path only if they have the same name in the same directory. -/
theorem route_basePath_eq_iff {directory directory' : Path} {signal signal' : Signal}
    {t u : Instant} :
    (basePath directory signal t).route = (basePath directory' signal' u).route ↔
      directory.route = directory'.route ∧ base signal t = base signal' u :=
  Path.route_join_eq_iff (isPlain_ofTime signal t .all) (isPlain_ofTime signal' u .all)

/-- In a directory that is written in one way only, base paths are the same path only if they are
the same text. -/
theorem basePath_eq_of_route {directory : Path} {signal : Signal} {t u : Instant}
    (h : (basePath directory signal t).route = (basePath directory signal u).route) :
    basePath directory signal t = basePath directory signal u := by
  rw [basePath, basePath, (route_basePath_eq_iff.1 h).2]

/-- A base path tells its stamp. -/
theorem stamp_eq_of_basePath {directory : Path} {signal : Signal} {t u : Instant}
    (h : basePath directory signal t = basePath directory signal u) : t.stamp = u.stamp := by
  have hp : (ofStream (basePath directory signal t) .all).place =
      (ofStream (basePath directory signal u) .all).place := by rw [h]
  rw [place_ofStream, place_ofStream] at hp
  have hn := List.append_cancel_left hp
  exact (ofTime_inj (List.cons.inj hn).1).1

/-- A base path tells its stamp in whichever way its directory is written. -/
theorem stamp_eq_of_route {directory directory' : Path} {signal : Signal} {t u : Instant}
    (h : (basePath directory signal t).route = (basePath directory' signal u).route) :
    t.stamp = u.stamp := (ofTime_inj (d := .all) (route_basePath_eq_iff.1 h).2).1

/-- Base paths of different milliseconds are different. -/
theorem millis_eq_of_basePath {directory : Path} {signal : Signal} {t u : Instant}
    (h : basePath directory signal t = basePath directory signal u) : t.millis = u.millis :=
  Instant.millis_eq_of_stamp (stamp_eq_of_basePath h)

/-- Whether a place is that of a file of a stream of a signal in a directory. -/
def isFileOf (directory : Path) (signal : Signal) (stream : Stream) (place : Place) : Bool :=
  decide (place.dropLast = directory.place) && place.getLast?.any (belongsToStream signal stream)

/-- A place is that of a file of one signal and one stream at most. -/
theorem isFileOf_unique {directory directory' : Path} {a b : Signal} {c d : Stream} {place : Place}
    (h : isFileOf directory a c place) (h' : isFileOf directory' b d place) : a = b ∧ c = d := by
  simp only [isFileOf, Bool.and_eq_true] at h h'
  cases hl : place.getLast? with
  | none =>
    rw [hl] at h
    exact absurd h.2 (by simp)
  | some name =>
    rw [hl] at h h'
    exact belongsToStream_unique h.2 h'.2

/-- The file of a stream that belongs to a base path is one of its signal and its stream. -/
theorem isFileOf_ofStream (directory : Path) (signal : Signal) (time : Instant) (stream : Stream) :
    isFileOf directory signal stream (ofStream (basePath directory signal time) stream).place := by
  rw [place_ofStream, isFileOf, List.dropLast_concat, List.getLast?_concat, Option.any_some,
    belongsToStream_ofTime]
  simp

end TelemetrySpool.FileName
