import TelemetrySpool.Proofs.Spool.Deeds
import TelemetrySpool.Proofs.Spool.Interleaving

/-!
# Errors of dispatches side by side

A dispatch writes an error twice, with a lease for each of the two writes. In between others may
replace the active base path, so the two lines of an error need not lie under one base path. What is
left is an order: the line among all records never lies under a later base path than the line among
the errors. They lie under the same one as long as no path is replaced while an error stands between
its two writes.
-/

namespace TelemetrySpool

namespace SlotKey

/-- A base path that is named by an instant which is not after that of another one. -/
def NoLater (key : SlotKey) (base base' : Path) : Prop :=
  ∃ time time', base = key.basePath time ∧ base' = key.basePath time' ∧ time.millis ≤ time'.millis

variable {key : SlotKey} {base base' base'' : Path}

/-- One base path may be passed on the way to another. -/
theorem NoLater.trans (h : key.NoLater base base') (h' : key.NoLater base' base'') :
    key.NoLater base base'' := by
  obtain ⟨time, middle, hb, hm, hle⟩ := h
  obtain ⟨middle', time'', hm', hb'', hle'⟩ := h'
  have heq : middle.millis = middle'.millis := FileName.millis_eq_of_basePath (hm.symm.trans hm')
  exact ⟨time, time'', hb, hb'', by omega⟩

/-- A path of the past is no later than itself. -/
theorem Past.noLater_self {c : Clock} (h : key.Past c base) : key.NoLater base base := by
  obtain ⟨i, -, hb⟩ := h
  exact ⟨c.reading i, c.reading i, hb, hb, Int.le_refl _⟩

/-- A path of the past is no later than the one of the next reading. -/
theorem Past.noLater_now {c : Clock} (h : key.Past c base) (hc : c.Increasing) :
    key.NoLater base (key.basePath c.now) := by
  obtain ⟨i, hi, hb⟩ := h
  exact ⟨c.reading i, c.now, hb, rfl, Int.le_of_lt (hc.lt hi)⟩

end SlotKey

namespace Store

variable {key : SlotKey} {ledger : Stream → List Filed} {s s' : Store}

/-- The active path of a key is replaced by a later one at most. -/
def Advances (key : SlotKey) (s s' : Store) : Prop :=
  ∀ base, s.rotation.active? key = some base →
    ∃ base', s'.rotation.active? key = some base' ∧ key.NoLater base base'

/-- Where the active path is kept there is nothing to advance. -/
theorem Tracks.advances_of_active_eq (h : Tracks key ledger s)
    (ha : s'.rotation.active? key = s.rotation.active? key) : Advances key s s' := by
  intro base hb
  exact ⟨base, ha.trans hb, (h.active base hb).noLater_self⟩

/-- A write that succeeds goes under the active path, or under a later one that it makes active. -/
theorem Tracks.advances_of_writes (h : Tracks key ledger s) (hc : s.clock.Increasing)
    {sink : FileSink} {record : Record} {cancelled : Bool} (hkey : sink.key record.signal = key)
    (hw : sink.Writes record cancelled s (.ok ()) s') : Advances key s s' := by
  intro base hb
  have hpast := h.active base hb
  cases hw with
  | @stored s₁ s₂ _ settled files _ _ ho hset hr hclock hf hg =>
    have hactive : s₁.rotation.active? key = some base := by
      rw [ho.rotation.active]
      exact hb
    refine ⟨settled, ?_, ?_⟩
    · rw [hr, ← hkey]
      exact hset.active
    · cases hset with
      | found hfound _ =>
        rw [hkey] at hfound
        obtain ⟨rfl, -⟩ := hfound.unique (.active hactive) rfl rfl rfl
        exact hpast.noLater_self
      | rotated hfound _ =>
        rw [hkey] at hfound ⊢
        cases hfound with
        | active _ =>
          have ht := h.of_opened ho
          rw [ht.rotated_eq (by rw [ho.clock]; exact hc), ho.clock]
          exact hpast.noLater_now hc
        | new hnone _ =>
          rw [hactive] at hnone
          cases hnone

end Store

namespace Member

variable (directory : Path) (volume : Volume) (maxMb : UInt64) (record : Record)

/-- The sink for all records takes every record. -/
theorem admits_all : ((all maxMb []).registered directory volume).admits record = true :=
  rfl

/-- The sink for errors takes errors. -/
theorem admits_errors :
    ((errors maxMb []).registered directory volume).admits record = record.isError :=
  Bool.and_true _

end Member

/-- The records of the writes to a stream of a signal. -/
def recordsOf (attempts : List Attempt) (signal : Signal) (stream : Stream) : List Record :=
  (attempts.filter fun a => a.record.signal = signal && a.stream = stream).map (·.record)

/-- The records of two runs of attempts follow each other. -/
theorem recordsOf_append (attempts attempts' : List Attempt) (signal : Signal) (stream : Stream) :
    recordsOf (attempts ++ attempts') signal stream =
      recordsOf attempts signal stream ++ recordsOf attempts' signal stream := by
  rw [recordsOf, List.filter_append, List.map_append]
  rfl

/-- One attempt brings one record to its own stream. -/
theorem recordsOf_singleton (attempt : Attempt) (signal : Signal) (stream : Stream) :
    recordsOf [attempt] signal stream =
      if attempt.record.signal = signal ∧ attempt.stream = stream then [attempt.record]
      else [] := by
  by_cases h : attempt.record.signal = signal ∧ attempt.stream = stream
  · simp [recordsOf, h]
  · rw [if_neg h, recordsOf, List.filter_cons_of_neg (by simpa using h)]
    rfl

/-- The ledgers of a signal before and after some writes, each of which enters its record. -/
def Entered (signal : Signal) (attempts : List Attempt) (ledger ledger' : Stream → List Filed) :
    Prop :=
  ∀ stream, (ledger' stream).map (·.record) =
    (ledger stream).map (·.record) ++ recordsOf attempts signal stream

namespace Entered

variable {signal : Signal} {attempts attempts' : List Attempt}
  {ledger ledger' ledger'' : Stream → List Filed} {stream : Stream} {record : Record}
  {outcome : Except SinkError Unit}

protected theorem nil : Entered signal [] ledger ledger :=
  fun _ => (List.append_nil _).symm

/-- Entries of two runs of attempts follow each other. -/
protected theorem append (h : Entered signal attempts ledger ledger')
    (h' : Entered signal attempts' ledger' ledger'') :
    Entered signal (attempts ++ attempts') ledger ledger'' := by
  intro stream
  rw [h', h, recordsOf_append, List.append_assoc]

/-- A write of the signal enters its record into the ledger of its stream. -/
theorem of_enter? (hs : record.signal = signal) (base : Path) :
    Entered signal [⟨stream, record, outcome⟩] ledger
      (Store.enter? ledger stream ⟨base, record⟩) := by
  intro other
  rw [recordsOf_singleton, Store.enter?]
  by_cases hother : other = stream
  · rw [if_pos hother, if_pos ⟨hs, hother.symm⟩, List.map_append]
    rfl
  · rw [if_neg hother, if_neg fun he => hother he.2.symm, List.append_nil]

/-- A write of another signal enters nothing. -/
theorem of_ne (hs : record.signal ≠ signal) :
    Entered signal [⟨stream, record, outcome⟩] ledger ledger := by
  intro other
  rw [recordsOf_singleton, if_neg fun he => hs he.1, List.append_nil]

end Entered

/-- The sinks that a record has before it: both file sinks of a spool, the one of errors, or none of
them. Further sinks do not act on the store. -/
inductive Spool.OnRoute (spool : Spool) : List Member → Prop
  | ahead {others : List Member} : (∀ member ∈ others, member.stream? = none) →
      OnRoute spool (.all (spool.maxMb .all) [] :: .errors (spool.maxMb .errors) [] :: others)
  | between {others : List Member} : (∀ member ∈ others, member.stream? = none) →
      OnRoute spool (.errors (spool.maxMb .errors) [] :: others)
  | behind {others : List Member} : (∀ member ∈ others, member.stream? = none) →
      OnRoute spool others

/-- An error of a signal that has been offered to the sink of all records, and not yet to that of
errors. -/
def Flight.isBetween (signal : Signal) (flight : Flight) : Bool :=
  flight.record.signal = signal && flight.record.isError &&
    flight.left.head?.bind Member.stream? = some .errors

/-- Behind both file sinks no error is between them. -/
theorem Flight.isBetween_of_behind (signal : Signal) (record : Record) (report : Report)
    {left : List Member} (h : ∀ member ∈ left, member.stream? = none) :
    Flight.isBetween signal ⟨record, left, report⟩ = false := by
  cases left with
  | nil => simp [isBetween]
  | cons member left => simp [isBetween, h member List.mem_cons_self]

/-- A change that replaces the active path of a signal only while no error of it is between its two
writes. -/
def Spool.LetsPass (spool : Spool) (signal : Signal) (t t' : Traffic) : Prop :=
  t.flights.any (·.isBetween signal) →
    t'.outlets.store.rotation.active? (spool.key signal) =
      t.outlets.store.rotation.active? (spool.key signal)

/-- Turns that all let the errors of a signal pass. -/
def Spool.Undisturbed (spool : Spool) (signal : Signal) (t : Traffic) : List Turn → Prop
  | [] => True
  | turn :: turns =>
    spool.LetsPass signal t (t.step spool.directory turn).1 ∧
      Undisturbed spool signal (t.step spool.directory turn).1 turns

/-- A line of a record among all records, under a base path that is no later than one at hand, and
that is the one at hand if the lines of errors stay `together`. -/
def Beside (key : SlotKey) (together : Prop) (ledger : Stream → List Filed) (record : Record)
    (base : Path) : Prop :=
  ∃ base', ⟨base', record⟩ ∈ ledger .all ∧ key.NoLater base' base ∧ (together → base' = base)

/-- What holds between two turns: an error between its two writes is beside the active path, and one
behind them is beside the path of its second write. -/
structure Company (spool : Spool) (signal : Signal) (together : Prop)
    (ledger : Stream → List Filed) (t : Traffic) : Prop where
  increasing : t.outlets.store.clock.Increasing
  tracks : Store.Tracks (spool.key signal) ledger t.outlets.store
  onRoute : ∀ flight ∈ t.flights, spool.OnRoute flight.left
  between : ∀ flight ∈ t.flights, flight.isBetween signal →
    ∃ active, t.outlets.store.rotation.active? (spool.key signal) = some active ∧
      Beside (spool.key signal) together ledger flight.record active
  errors : ∀ filed ∈ ledger .errors,
    Beside (spool.key signal) together ledger filed.record filed.base

namespace Traffic

/-- What a turn can be: void or the end of a flight, or an offer to the next sink of a flight. -/
theorem step_cases (t : Traffic) (directory : Path) (turn : Turn) :
    ((t.step directory turn).1.outlets = t.outlets ∧ (t.step directory turn).2 = [] ∧
      (t.step directory turn).1.flights ⊆ t.flights) ∨
    ∃ record member left report report', ⟨record, member :: left, report⟩ ∈ t.flights ∧
      (∀ flight ∈ (t.step directory turn).1.flights,
        flight ∈ t.flights ∨ flight = ⟨record, left, report'⟩) ∧
      (t.step directory turn).2 = attempts directory turn member record t.outlets ∧
      (t.step directory turn).1.outlets =
        if (member.registered directory turn.volume).admits record then
          ((member.registered directory turn.volume).sink.write record turn.cancelled
            t.outlets).value.2
        else t.outlets := by
  unfold step
  split
  · exact Or.inl ⟨rfl, rfl, fun _ h => h⟩
  · exact Or.inl ⟨rfl, rfl, fun _ h => List.mem_of_mem_eraseIdx h⟩
  · next record member left report hf =>
    let registered := member.registered directory turn.volume
    let p := (registered.offer record turn.cancelled ⟨report, t.health, t.outlets⟩).value
    have hoffer := registered.offer_state record turn.cancelled ⟨report, t.health, t.outlets⟩
    refine Or.inr ⟨record, member, left, report, p.report, List.mem_of_getElem? hf, ?_, rfl, hoffer⟩
    intro flight hm
    exact List.mem_or_eq_of_mem_set hm

end Traffic

/-- A write whose record is stored. -/
theorem FileSink.writes_of_stored {sink : FileSink} {record : Record} {cancelled : Bool} {s : Store}
    (hs : Attempt.stored ⟨sink.stream, record, (sink.write record cancelled s).value.1⟩) :
    sink.Writes record cancelled s (.ok ()) (sink.write record cancelled s).value.2 := by
  have hw := writes_of_ends (Task.ends_self (sink.write record cancelled) s)
  have hok : (sink.write record cancelled s).value.1 = .ok () := Attempt.stored_iff.1 hs
  rwa [hok] at hw

section Step

variable {spool : Spool} {signal : Signal} {together : Prop} {ledger ledger' : Stream → List Filed}
  {t t' : Traffic} {record : Record} {base : Path}

/-- A line that lies beside another one stays there as the ledger grows. -/
theorem Beside.mono {key : SlotKey} (h : Beside key together ledger record base)
    (hl : ledger .all ⊆ ledger' .all) : Beside key together ledger' record base := by
  obtain ⟨base', hm, hle, heq⟩ := h
  exact ⟨base', hl hm, hle, heq⟩

/-- What is beside a path is beside what replaces it, if that happens only while lines stay together
anyway. -/
theorem Beside.advance {key : SlotKey} (h : Beside key together ledger record base) {base' : Path}
    (hle : key.NoLater base base') (heq : together → base = base') :
    Beside key together ledger record base' := by
  obtain ⟨first, hm, hle', heq'⟩ := h
  exact ⟨first, hm, hle'.trans hle, fun ht => (heq' ht).trans (heq ht)⟩

namespace Company

/-- What a turn preserves that moves one flight on. -/
theorem of_turn (h : Company spool signal together ledger t) {flight : Flight}
    (hflights : ∀ f ∈ t'.flights, f ∈ t.flights ∨ f = flight)
    (hc : t'.outlets.store.clock.Increasing)
    (ht : Store.Tracks (spool.key signal) ledger' t'.outlets.store)
    (hall : ledger .all ⊆ ledger' .all)
    (hadvances : Store.Advances (spool.key signal) t.outlets.store t'.outlets.store)
    (hstill : together → spool.LetsPass signal t t')
    (hroute : spool.OnRoute flight.left)
    (hflight : flight.isBetween signal →
      ∃ active, t'.outlets.store.rotation.active? (spool.key signal) = some active ∧
        Beside (spool.key signal) together ledger' flight.record active)
    (herrors : ∀ filed ∈ ledger' .errors,
      Beside (spool.key signal) together ledger' filed.record filed.base) :
    Company spool signal together ledger' t' := by
  refine ⟨hc, ht, ?_, ?_, herrors⟩
  · intro f hf
    rcases hflights f hf with hold | rfl
    · exact h.onRoute f hold
    · exact hroute
  · intro f hf hbetween
    rcases hflights f hf with hold | rfl
    · obtain ⟨active, hactive, hbeside⟩ := h.between f hold hbetween
      obtain ⟨active', hactive', hle⟩ := hadvances active hactive
      refine ⟨active', hactive', (hbeside.mono hall).advance hle fun htogether => ?_⟩
      have hsame := hstill htogether (List.any_eq_true.2 ⟨f, hold, hbetween⟩)
      exact Option.some.inj (hactive.symm.trans (hsame.symm.trans hactive'))
    · exact hflight hbetween

/-- A turn that keeps to the ledgers and to the active path, and brings no error between its two
writes. -/
theorem of_elsewhere (h : Company spool signal together ledger t) {flight : Flight}
    (hflights : ∀ f ∈ t'.flights, f ∈ t.flights ∨ f = flight)
    (hc : t'.outlets.store.clock.Increasing)
    (ht : Store.Tracks (spool.key signal) ledger t'.outlets.store)
    (hactive : t'.outlets.store.rotation.active? (spool.key signal) =
      t.outlets.store.rotation.active? (spool.key signal))
    (hroute : spool.OnRoute flight.left) (hflight : flight.isBetween signal = false) :
    Company spool signal together ledger t' := by
  refine h.of_turn hflights hc ht (fun _ hm => hm) (h.tracks.advances_of_active_eq hactive)
    (fun _ _ => hactive) hroute (fun hb => ?_) h.errors
  rw [hflight] at hb
  cases hb

/-- A record of the signal is stored among all records. -/
theorem of_writes_all (h : Company spool signal together ledger t) {flight : Flight}
    (hflights : ∀ f ∈ t'.flights, f ∈ t.flights ∨ f = flight) (hroute : spool.OnRoute flight.left)
    {volume : Volume} {cancelled : Bool} (hs : flight.record.signal = signal)
    (hw : (spool.sink .all volume).Writes flight.record cancelled t.outlets.store (.ok ())
      t'.outlets.store)
    (hstill : together → spool.LetsPass signal t t') :
    ∃ base, Company spool signal together
      (Store.enter? ledger .all ⟨base, flight.record⟩) t' := by
  have hkey := spool.key_sink .all volume hs
  obtain ⟨base, hactive, -, ht⟩ := h.tracks.of_writes h.increasing hkey hw
  have hall : ledger .all ⊆ Store.enter? ledger .all ⟨base, flight.record⟩ .all :=
    List.subset_append_left _ _
  refine ⟨base, h.of_turn hflights (h.increasing.of_framed hw.framed) ht hall
    (h.tracks.advances_of_writes h.increasing hkey hw) hstill hroute (fun _ => ?_) ?_⟩
  · have hself := (ht.active base hactive).noLater_self
    exact ⟨base, hactive, base, List.mem_append_right _ (List.mem_singleton_self _), hself,
      fun _ => rfl⟩
  · intro filed hm
    exact (h.errors filed hm).mono hall

/-- An error of the signal that is between its two writes is stored among the errors. -/
theorem of_writes_errors (h : Company spool signal together ledger t) {flight before : Flight}
    (hflights : ∀ f ∈ t'.flights, f ∈ t.flights ∨ f = flight) (hroute : spool.OnRoute flight.left)
    (hflight : flight.isBetween signal = false) (hbefore : before ∈ t.flights)
    (hbetween : before.isBetween signal) (hrecord : before.record = flight.record)
    {volume : Volume} {cancelled : Bool} (hs : flight.record.signal = signal)
    (hw : (spool.sink .errors volume).Writes flight.record cancelled t.outlets.store (.ok ())
      t'.outlets.store)
    (hstill : together → spool.LetsPass signal t t') :
    ∃ base, Company spool signal together
      (Store.enter? ledger .errors ⟨base, flight.record⟩) t' := by
  have hkey := spool.key_sink .errors volume hs
  obtain ⟨base, hactive', -, ht⟩ := h.tracks.of_writes h.increasing hkey hw
  have hadvances := h.tracks.advances_of_writes h.increasing hkey hw
  obtain ⟨active, hactive, hbeside⟩ := h.between before hbefore hbetween
  obtain ⟨_, hbase, hle⟩ := hadvances active hactive
  obtain rfl := Option.some.inj (hactive'.symm.trans hbase)
  have hall : ledger .all ⊆ Store.enter? ledger .errors ⟨base, flight.record⟩ .all :=
    fun _ hm => hm
  refine ⟨base, h.of_turn hflights (h.increasing.of_framed hw.framed) ht hall hadvances hstill
    hroute (fun hb => ?_) ?_⟩
  · rw [hflight] at hb
    cases hb
  · intro filed hm
    rcases List.mem_append.1 hm with hold | hnew
    · exact (h.errors filed hold).mono hall
    · obtain rfl := List.mem_singleton.1 hnew
      rw [← hrecord]
      refine (hbeside.mono hall).advance hle fun htogether => ?_
      have hsame := hstill htogether (List.any_eq_true.2 ⟨before, hbefore, hbetween⟩)
      exact Option.some.inj (hactive.symm.trans (hsame.symm.trans hactive'))

/-- A write of another signal. -/
theorem of_writes_of_ne (h : Company spool signal together ledger t) {flight : Flight}
    (hflights : ∀ f ∈ t'.flights, f ∈ t.flights ∨ f = flight) (hroute : spool.OnRoute flight.left)
    {stream : Stream} {volume : Volume} {cancelled : Bool} {outcome : Except SinkError Unit}
    (hs : flight.record.signal ≠ signal)
    (hw : (spool.sink stream volume).Writes flight.record cancelled t.outlets.store outcome
      t'.outlets.store) : Company spool signal together ledger t' := by
  have hkey : (spool.key signal).id ≠ ((spool.sink stream volume).key flight.record.signal).id :=
    fun he => hs (congrArg SlotId.signal he).symm
  refine h.of_elsewhere hflights (h.increasing.of_framed hw.framed)
    (h.tracks.of_writes_of_ne hs hw) (hw.framed.active _ hkey) hroute ?_
  simp [Flight.isBetween, hs]

/-- A flight comes to the sink of all records. -/
theorem of_offer_all (h : Company spool signal together ledger t) {turn : Turn}
    {left : List Member} {report : Report}
    (hflights : ∀ f ∈ t'.flights, f ∈ t.flights ∨ f = ⟨record, left, report⟩)
    (hroute : spool.OnRoute left)
    (ho : t'.outlets = (((Member.all (spool.maxMb .all) []).registered spool.directory
      turn.volume).sink.write record turn.cancelled t.outlets).value.2)
    (hstored : ∀ attempt ∈ Traffic.attempts spool.directory turn (.all (spool.maxMb .all) [])
      record t.outlets, attempt.stored)
    (hstill : together → spool.LetsPass signal t t') :
    ∃ ledger', Company spool signal together ledger' t' ∧
      Entered signal (Traffic.attempts spool.directory turn (.all (spool.maxMb .all) []) record
        t.outlets) ledger ledger' := by
  let outcome := (((Member.all (spool.maxMb .all) []).registered spool.directory
    turn.volume).sink.write record turn.cancelled t.outlets).value.1
  have ha : Traffic.attempts spool.directory turn (.all (spool.maxMb .all) []) record t.outlets =
      [⟨.all, record, outcome⟩] := rfl
  rw [ha] at hstored ⊢
  have hw : (spool.sink .all turn.volume).Writes record turn.cancelled t.outlets.store (.ok ())
      t'.outlets.store := by
    rw [ho]
    exact FileSink.writes_of_stored (hstored _ (List.mem_singleton_self _))
  by_cases hs : record.signal = signal
  · obtain ⟨base, hnext⟩ := h.of_writes_all hflights hroute hs hw hstill
    exact ⟨_, hnext, .of_enter? hs base⟩
  · exact ⟨ledger, h.of_writes_of_ne hflights hroute hs hw, .of_ne hs⟩

/-- A flight comes to the sink of errors. -/
theorem of_offer_errors (h : Company spool signal together ledger t) {turn : Turn}
    {left : List Member} {report report' : Report}
    (hbefore : ⟨record, .errors (spool.maxMb .errors) [] :: left, report⟩ ∈ t.flights)
    (hflights : ∀ f ∈ t'.flights, f ∈ t.flights ∨ f = ⟨record, left, report'⟩)
    (hleft : ∀ member ∈ left, member.stream? = none)
    (ho : t'.outlets =
      if ((Member.errors (spool.maxMb .errors) []).registered spool.directory turn.volume).admits
          record then
        (((Member.errors (spool.maxMb .errors) []).registered spool.directory
          turn.volume).sink.write record turn.cancelled t.outlets).value.2
      else t.outlets)
    (hstored : ∀ attempt ∈ Traffic.attempts spool.directory turn
      (.errors (spool.maxMb .errors) []) record t.outlets, attempt.stored)
    (hstill : together → spool.LetsPass signal t t') :
    ∃ ledger', Company spool signal together ledger' t' ∧
      Entered signal (Traffic.attempts spool.directory turn (.errors (spool.maxMb .errors) [])
        record t.outlets) ledger ledger' := by
  let outcome := (((Member.errors (spool.maxMb .errors) []).registered spool.directory
    turn.volume).sink.write record turn.cancelled t.outlets).value.1
  have hadmits := Member.admits_errors spool.directory turn.volume (spool.maxMb .errors) record
  have ha : Traffic.attempts spool.directory turn (.errors (spool.maxMb .errors) []) record
      t.outlets = if record.isError then [⟨.errors, record, outcome⟩] else [] := by
    rw [← hadmits]
    rfl
  have hroute : spool.OnRoute left := .behind hleft
  have hbehind := Flight.isBetween_of_behind signal record report' hleft
  rw [hadmits] at ho
  rw [ha] at hstored ⊢
  cases he : record.isError with
  | false =>
    rw [he] at ho
    refine ⟨ledger, h.of_elsewhere hflights ?_ ?_ ?_ hroute hbehind, .nil⟩
    · exact ho ▸ h.increasing
    · exact ho ▸ h.tracks
    · rw [ho]
      rfl
  | true =>
    rw [he] at ho hstored
    have hw : (spool.sink .errors turn.volume).Writes record turn.cancelled t.outlets.store (.ok ())
        t'.outlets.store := by
      rw [ho]
      exact FileSink.writes_of_stored (hstored _ (List.mem_singleton_self _))
    by_cases hs : record.signal = signal
    · have hbetween : Flight.isBetween signal
          ⟨record, .errors (spool.maxMb .errors) [] :: left, report⟩ = true := by
        simp [Flight.isBetween, hs, he, Member.stream?]
      obtain ⟨base, hnext⟩ :=
        h.of_writes_errors hflights hroute hbehind hbefore hbetween rfl hs hw hstill
      exact ⟨_, hnext, .of_enter? hs base⟩
    · exact ⟨ledger, h.of_writes_of_ne hflights hroute hs hw, .of_ne hs⟩

/-- A flight comes to a sink that does not act on the store. -/
theorem of_offer_other (h : Company spool signal together ledger t) {turn : Turn} {member : Member}
    {left : List Member} {report : Report}
    (hothers : ∀ other ∈ member :: left, other.stream? = none)
    (hflights : ∀ f ∈ t'.flights, f ∈ t.flights ∨ f = ⟨record, left, report⟩)
    (ho : t'.outlets = if (member.registered spool.directory turn.volume).admits record then
        ((member.registered spool.directory turn.volume).sink.write record turn.cancelled
          t.outlets).value.2
      else t.outlets) :
    Company spool signal together ledger t' := by
  have hstore : t'.outlets.store = t.outlets.store := by
    cases member with
    | all maxMb filters => simp [Member.stream?] at hothers
    | errors maxMb filters => simp [Member.stream?] at hothers
    | other registered spares =>
      rw [ho]
      split
      · exact spares record turn.cancelled t.outlets
      · rfl
  have hleft : ∀ other ∈ left, other.stream? = none :=
    fun other hm => hothers other (List.mem_cons_of_mem _ hm)
  refine h.of_elsewhere hflights ?_ ?_ ?_ (.behind hleft)
    (Flight.isBetween_of_behind signal record report hleft)
  · exact hstore ▸ h.increasing
  · exact hstore ▸ h.tracks
  · rw [hstore]

/-- What a turn preserves, and the records that it enters into the ledgers. -/
theorem of_step (h : Company spool signal together ledger t) (turn : Turn)
    (hstored : ∀ attempt ∈ (t.step spool.directory turn).2, attempt.stored)
    (hstill : together → spool.LetsPass signal t (t.step spool.directory turn).1) :
    ∃ ledger', Company spool signal together ledger' (t.step spool.directory turn).1 ∧
      Entered signal (t.step spool.directory turn).2 ledger ledger' := by
  have hcases := t.step_cases spool.directory turn
  generalize t.step spool.directory turn = done at hcases hstored hstill ⊢
  obtain ⟨t', attempts⟩ := done
  rcases hcases with ⟨ho, hnone, hsub⟩ |
      ⟨record, member, left, report, report', hm, hflights, ha, ho⟩
  · obtain rfl : attempts = [] := hnone
    refine ⟨ledger, ⟨?_, ?_, fun f hf => h.onRoute f (hsub hf), fun f hf => ?_, h.errors⟩, .nil⟩
    · exact ho ▸ h.increasing
    · exact ho ▸ h.tracks
    · rw [ho]
      exact h.between f (hsub hf)
  · cases h.onRoute _ hm with
    | ahead hothers =>
      rw [ha] at hstored ⊢
      exact h.of_offer_all hflights (.between hothers) ho hstored hstill
    | between hothers =>
      rw [ha] at hstored ⊢
      exact h.of_offer_errors hm hflights hothers ho hstored hstill
    | behind hothers =>
      have hnone : attempts = [] := by
        rw [show attempts = _ from ha, Traffic.attempts, hothers member List.mem_cons_self]
      subst hnone
      exact ⟨ledger, h.of_offer_other hothers hflights ho, .nil⟩

/-- What a whole run preserves, and the records that it enters into the ledgers. -/
theorem of_run (h : Company spool signal together ledger t) (turns : List Turn)
    (hstored : ∀ attempt ∈ (t.run spool.directory turns).2, attempt.stored)
    (hstill : together → spool.Undisturbed signal t turns) :
    ∃ ledger', Company spool signal together ledger' (t.run spool.directory turns).1 ∧
      Entered signal (t.run spool.directory turns).2 ledger ledger' := by
  induction turns generalizing t ledger with
  | nil => exact ⟨ledger, h, .nil⟩
  | cons turn turns ih =>
    rw [Traffic.run] at hstored ⊢
    obtain ⟨middle, hmiddle, hfirst⟩ := h.of_step turn
      (fun a ha => hstored a (List.mem_append_left _ ha)) fun htogether => (hstill htogether).1
    obtain ⟨last, hlast, hlater⟩ := ih hmiddle
      (fun a ha => hstored a (List.mem_append_right _ ha)) fun htogether => (hstill htogether).2
    exact ⟨last, hlast, hfirst.append hlater⟩

end Company

end Step

namespace Spool

/-- The sinks that fill a spool, and others behind them. -/
def members (spool : Spool) (others : List Member) : List Member :=
  .all (spool.maxMb .all) [] :: .errors (spool.maxMb .errors) [] :: others

/-- Records that have all of these sinks before them. -/
def departures (spool : Spool) (others : List Member) (records : List Record) (health : Health)
    (o : Outlets) : Traffic :=
  Traffic.start (spool.members others) records health o

variable {spool : Spool} {signal : Signal} {others : List Member} {health : Health} {o : Outlets}

/-- In the beginning all sinks are before every record. -/
theorem Unused.company (h : spool.Unused signal o.store)
    (hothers : ∀ member ∈ others, member.stream? = none) (together : Prop)
    (records : List Record) : Company spool signal together (fun _ => [])
      (spool.departures others records health o) := by
  have hstart : ∀ flight ∈ (spool.departures others records health o).flights,
      flight.left = spool.members others := by
    intro flight hm
    obtain ⟨record, -, rfl⟩ := List.mem_map.1 hm
    rfl
  refine ⟨h.increasing, h.tracks, fun flight hm => ?_, fun flight hm hb => ?_, ?_⟩
  · rw [hstart flight hm]
    exact .ahead hothers
  · simp [Flight.isBetween, hstart flight hm, members, Member.stream?] at hb
  · intro filed hm
    exact absurd hm List.not_mem_nil

/-- How the errors of a signal lie beside all its records. -/
structure ErrorsOrdered (spool : Spool) (signal : Signal) (undisturbed : Prop)
    (attempts : List Attempt) (s : Store) (ledger : Stream → List Filed) : Prop where
  /-- The files hold the lines of the ledgers. -/
  tracks : Store.Tracks (spool.key signal) ledger s
  /-- The ledgers hold the records of all writes. -/
  records_eq : ∀ stream, (ledger stream).map (·.record) = recordsOf attempts signal stream
  /-- An error never comes under an earlier base path than its line among all records. -/
  noLater : ∀ filed ∈ ledger .errors,
    ∃ base, ⟨base, filed.record⟩ ∈ ledger .all ∧ (spool.key signal).NoLater base filed.base
  /-- If nothing disturbs, both lines come under one base path. -/
  subset : undisturbed → ledger .errors ⊆ ledger .all

/-- Whatever turns dispatches take in a directory without a file of the signal, as long as every
write is stored and the clock goes on, an error goes under the base path of its line among all
records or under a later one; and it goes under the same one if no active path is replaced while an
error is between its two writes. -/
theorem Unused.exists_errorsOrdered (h : spool.Unused signal o.store)
    (hothers : ∀ member ∈ others, member.stream? = none) (records : List Record)
    (turns : List Turn)
    (hstored : ∀ attempt ∈ ((spool.departures others records health o).run spool.directory turns).2,
      attempt.stored) :
    ∃ ledger, spool.ErrorsOrdered signal
      (spool.Undisturbed signal (spool.departures others records health o) turns)
      ((spool.departures others records health o).run spool.directory turns).2
      ((spool.departures others records health o).run spool.directory turns).1.outlets.store
      ledger := by
  obtain ⟨ledger, hdone, hrecords⟩ := (h.company hothers _ records).of_run turns hstored id
  refine ⟨ledger, hdone.tracks, hrecords, fun filed hm => ?_, fun hundisturbed filed hm => ?_⟩
  · obtain ⟨base, hall, hle, -⟩ := hdone.errors filed hm
    exact ⟨base, hall, hle⟩
  · obtain ⟨base, hall, -, heq⟩ := hdone.errors filed hm
    rw [heq hundisturbed] at hall
    exact hall

/-- Two errors of one signal that take turns at a clock that goes on. -/
theorem exists_errorsOrdered_of_two :
    let spool : Spool := ⟨"out", fun _ => 100⟩
    let o : Outlets := { store := { clock := .everyMilli } }
    let record (line : String) : Record := ⟨.logs, line, true, .epoch, by decide⟩
    let others : List Member :=
      [.other ⟨.console true fun _ => 0, [.all]⟩ (Sink.sparesStore_console true _)]
    let records := [record "[0]\n", record "[1]\n"]
    let turns := [0, 1, 1, 0, 0, 1].map fun flight =>
      (⟨flight, false, .constant (.available 1000000000)⟩ : Turn)
    (spool.Unused .logs o.store ∧ (∀ member ∈ others, member.stream? = none) ∧
      ∀ attempt ∈ ((spool.departures others records {} o).run spool.directory turns).2,
        attempt.stored) ∧
    ∃ ledger, spool.ErrorsOrdered .logs
      (spool.Undisturbed .logs (spool.departures others records {} o) turns)
      ((spool.departures others records {} o).run spool.directory turns).2
      ((spool.departures others records {} o).run spool.directory turns).1.outlets.store
      ledger := by
  intro spool o record others records turns
  have hunused : spool.Unused .logs o.store :=
    unused_empty spool .logs Clock.increasing_everyMilli
  have hothers : ∀ member ∈ others, member.stream? = none := by simp [others, Member.stream?]
  have hstored : ∀ attempt ∈ ((spool.departures others records {} o).run spool.directory turns).2,
      attempt.stored := by
    decide +kernel
  refine ⟨⟨hunused, hothers, hstored⟩, ?_⟩
  exact @Unused.exists_errorsOrdered spool .logs others {} o hunused hothers records turns hstored

end Spool

end TelemetrySpool
