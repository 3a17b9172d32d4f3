import TelemetrySpool.Proofs.Receiver.Acknowledgement
import TelemetrySpool.Proofs.Spool.Command

/-!
# After a shutdown

A receiver that has been shut down turns every request away: each of its file sinks fails, which
degrades its health. Since no command does anything to a closed store, the files stay as they were,
whatever is demanded of the receiver and of other file sinks on the same store, and in whatever
order.
-/

namespace TelemetrySpool

/-- After the shutdown a file sink is refused before it looks at anything. -/
theorem FileSink.trial_of_closed (sink : FileSink) (record : Record) (cancelled : Bool) {s : Store}
    (hc : s.rotation.closed = true) :
    sink.trial record cancelled s = ⟨sink, s, .error .shutDown, s⟩ := by
  have hw : (sink.write record cancelled s).value = _ :=
    Command.ends_write_of_closed hc sink record cancelled
  rw [trial, hw]

/-- The file sinks that a configured pipeline offers a request to: the one of all records, and the
one of errors if it reports an error. -/
def Request.streams (content : Request) : List Stream :=
  if content.isError then [.all, .errors] else [.all]

/-- Each file sink fails on a closed store, and leaves it as it was to the next one. -/
theorem Config.trials_of_closed (config : Config) (host : Host) (r : Receiver) (content : Request)
    (hc : r.outlets.store.rotation.closed = true) :
    r.trialsOf config host content = content.streams.map fun stream =>
      ⟨config.fileSink host stream, r.outlets.store, .error .shutDown, r.outlets.store⟩ := by
  have herror : (r.recordOf content).isError = content.isError := rfl
  rw [Receiver.trialsOf, trials, herror, Request.streams]
  simp only [FileSink.trial_of_closed _ _ _ hc]
  split <;> rfl

namespace Receiver

variable {config : Config} {host : Host} {r : Receiver}

/-- What a request comes to when all file sinks fail. -/
structure TurnedAway (content : Request) (report : Report) : Prop where
  persisted : report.persisted = 0
  cancelled : report.cancelled = 0
  failed : report.failed = content.streams.length

/-- After the shutdown a request is turned away and the store stays. -/
theorem submit_of_closed (hp : r.pipeline = (config.pipeline host).value)
    (hc : r.outlets.store.rotation.closed = true) (content : Request) :
    ∃ report r', (write content content.signal r).value = (.ok report, r') ∧
      TurnedAway content report ∧ r'.health.isDegraded ∧ r'.pipeline = r.pipeline ∧
      r'.outlets.store = r.outlets.store := by
  have ht := config.dispatch_tallied host (r.recordOf content) r.token.upcoming r.health r.outlets
  have htrials := config.trials_of_closed host r content hc
  rw [trialsOf] at htrials
  rw [htrials, ← hp] at ht
  have hreport : TurnedAway content (r.pipeline.dispatch (r.recordOf content) r.token.upcoming
      r.health r.outlets).value.report := by
    refine ⟨ht.persisted.trans ?_, ht.cancelled.trans ?_, ht.failed.trans ?_⟩ <;>
      simp [List.countP_map, Function.comp_def, Trial.ending, Ending.of]
  refine ⟨_, _, submit_value r content, hreport, ?_, rfl, ?_⟩
  · refine Pipeline.isDegraded_dispatch _ _ _ _ _ ?_
    rw [hreport.failed, Request.streams]
    split <;> decide
  · dsimp only
    rw [ht.store, Request.streams, storeAfter]
    split <;> rfl

/-- A request over HTTP does nothing, or does what the request that it carries does. -/
theorem handle_cases (limit : Nat) (request : HttpRequest) :
    (handle limit request r).value.2 = r ∨
      ∃ content, (handle limit request r).value.2 = (write content content.signal r).value.2 := by
  unfold handle
  cases request.compressed? with
  | none => exact .inl rfl
  | some compressed =>
    dsimp only
    split
    · left
      rw [bind_value]
      split
      · rfl
      · split <;> rfl
    · cases HttpRequest.signalAt? request.path with
      | none => exact .inl rfl
      | some signal =>
        dsimp only
        split
        · rw [post_value]
          cases hr : readPosted request compressed limit signal with
          | error refusal => exact .inl rfl
          | ok posted =>
            obtain ⟨encoding, content⟩ := posted
            obtain ⟨_, -, -, hd⟩ := readPosted_eq_ok_iff.1 hr
            refine .inr ⟨content, ?_⟩
            rw [Request.signal_of_decode hd]
            dsimp only
            rcases (write content signal r).value with ⟨result, r'⟩
            cases result with
            | error error => rfl
            | ok report =>
              dsimp only
              cases outcome report <;> rfl
        · exact .inl rfl

/-- A call of the service of another signal does nothing. -/
theorem call_of_ne {signal : Signal} {content : Request} (h : signal ≠ content.signal) :
    (call signal content r).value.2 = r := by
  obtain ⟨error, he⟩ : ∃ error, (write content signal r).value = (.error error, r) := by
    obtain ⟨error, he⟩ : ∃ error,
        r.pipeline.record content signal r.clock.now = .error error := by
      unfold Pipeline.record
      split
      · exact ⟨_, rfl⟩
      · exact ⟨_, if_pos (Ne.symm h)⟩
    exact ⟨error, congrArg Logged.value (r.write_of_error he)⟩
  rw [call, bind_value, he]
  rfl

end Receiver

/-- What can be demanded of a receiver, and of any file sink that shares its store. -/
inductive Demand where
  | submit (content : Request)
  | http (limit : Nat) (request : HttpRequest)
  | grpc (signal : Signal) (content : Request)
  | store (command : Command)
  | shutDown

/-- What is said to a demand. -/
inductive Reply where
  | report (result : Except PipelineError Report)
  | response (response : HttpResponse)
  | status (result : Except GrpcStatus Unit)
  | answer (result : Except SinkError Answer)
  | done

namespace Receiver

variable {config : Config} {host : Host} {r r' : Receiver}

/-- Does what is demanded. -/
def meet : Demand → Work Reply
  | .submit content => .report <$> submit content
  | .http limit request => .response <$> handle limit request
  | .grpc signal content => .status <$> call signal content
  | .store command => .answer <$> onStore command.task
  | .shutDown => (fun () => .done) <$> shutDown

/-- The receiver after demands that were made of it one after the other. -/
def after (r : Receiver) (demands : List Demand) : Receiver :=
  demands.foldl (fun r demand => (meet demand r).value.2) r

/-- What has to be said to a demand after a shutdown, and what it does to the health: no file sink
takes a request that is accepted, and a command on the store does nothing. -/
def Refused (r r' : Receiver) : Demand → Reply → Prop
  | .submit content, reply =>
    ∃ report, reply = .report (.ok report) ∧ TurnedAway content report ∧ r'.health.isDegraded
  | .http limit request, reply => ∀ signal content, signal ≠ .unspecified →
    request.method = "POST" → request.path = HttpRequest.pathOf signal →
    request.Carries limit signal content →
      reply = .response
        (.ofText 500 (HttpRefusal.allSinksFailed content.streams.length).message) ∧
      r'.health.isDegraded
  | .grpc signal content, reply => signal = content.signal →
    reply = .status
      (.error ⟨.internal, "Failed to persist " ++ signal.name ++ ": all sinks failed"⟩) ∧
    r'.health.isDegraded
  | .store command, reply => reply = .answer (command.whenClosed r.outlets.store.files)
  | .shutDown, reply => reply = .done

/-- What no demand changes after a shutdown. -/
structure Kept (r r' : Receiver) : Prop where
  pipeline : r'.pipeline = r.pipeline
  store : r'.outlets.store = r.outlets.store
  degraded : r.health.isDegraded → r'.health.isDegraded

namespace Kept

protected theorem refl (r : Receiver) : Kept r r := ⟨rfl, rfl, id⟩

protected theorem trans {a b c : Receiver} (hab : Kept a b) (hbc : Kept b c) : Kept a c :=
  ⟨hbc.pipeline.trans hab.pipeline, hbc.store.trans hab.store,
    fun h => hbc.degraded (hab.degraded h)⟩

end Kept

/-- A request that is written to a closed store changes nothing but the health, for the worse. -/
theorem kept_write_of_closed (hp : r.pipeline = (config.pipeline host).value)
    (hc : r.outlets.store.rotation.closed = true) (content : Request) :
    Kept r (write content content.signal r).value.2 := by
  obtain ⟨report, r', hw, -, hdegraded, hpipeline, hstore⟩ := submit_of_closed hp hc content
  rw [hw]
  exact ⟨hpipeline, hstore, fun _ => hdegraded⟩

/-- The reply to a demand is that of what does it. -/
theorem map_value {α β : Type} (f : α → β) (work : Work α) (r : Receiver) :
    ((f <$> work) r).value = (f (work r).value.1, (work r).value.2) := rfl

/-- The shutdown cancels the token and closes the rotation. -/
theorem shutDown_value (r : Receiver) :
    (shutDown r).value.2 =
      { r with
        token := r.token.cancel
        outlets.store := { r.outlets.store with rotation := r.outlets.store.rotation.close } } :=
  rfl

/-- A shutdown that follows another one has nothing to close. -/
theorem kept_shutDown_of_closed (hc : r.outlets.store.rotation.closed = true) :
    Kept r (shutDown r).value.2 := by
  refine ⟨rfl, ?_, id⟩
  have hclose : r.outlets.store.rotation.close = r.outlets.store.rotation := by
    rw [Rotation.close, ← hc]
  rw [shutDown_value, hclose]

/-- No demand changes a closed store. -/
theorem kept_meet_of_closed (hp : r.pipeline = (config.pipeline host).value)
    (hc : r.outlets.store.rotation.closed = true) (demand : Demand) :
    Kept r (meet demand r).value.2 := by
  cases demand with
  | submit content => exact kept_write_of_closed hp hc content
  | http limit request =>
    rcases handle_cases (r := r) limit request with h | ⟨content, h⟩
    · rw [meet, map_value, h]
      exact .refl r
    · rw [meet, map_value, h]
      exact kept_write_of_closed hp hc content
  | grpc signal content =>
    rw [meet, map_value]
    by_cases hs : signal = content.signal
    · obtain ⟨report, r', hw, -⟩ := submit_of_closed hp hc content
      have hkept := kept_write_of_closed hp hc content
      rw [hw] at hkept
      rw [hs, call_value hw]
      exact hkept
    · rw [call_of_ne hs]
      exact .refl r
  | store command =>
    have he : (command.task r.outlets.store).value = _ := Command.ends_of_closed hc command
    exact ⟨rfl, congrArg Prod.snd he, id⟩
  | shutDown => exact kept_shutDown_of_closed hc

/-- Every demand is refused when the store is closed. -/
theorem refused_meet_of_closed (hp : r.pipeline = (config.pipeline host).value)
    (hc : r.outlets.store.rotation.closed = true) (demand : Demand) :
    Refused r (meet demand r).value.2 demand (meet demand r).value.1 := by
  -- A report of failures only is answered as such over both transports.
  have hflags : ∀ {content : Request} {report : Report}, TurnedAway content report →
      report.allFailed = true ∧ report.failed = content.streams.length := by
    intro content report ht
    refine ⟨?_, ht.failed⟩
    rw [Report.allFailed, ht.persisted, ht.failed, Request.streams]
    split <;> rfl
  cases demand with
  | submit content =>
    obtain ⟨report, r', hw, ht, hdegraded, -⟩ := submit_of_closed hp hc content
    rw [meet, map_value, submit, hw]
    exact ⟨report, rfl, ht, hdegraded⟩
  | http limit request =>
    intro signal content hs hm hpath hcarries
    obtain ⟨report, r', hw, ht, hdegraded, -⟩ := submit_of_closed hp hc content
    obtain ⟨encoding, hv⟩ := handle_value_of_carries hs hm hpath hcarries hw
    obtain ⟨hall, hfailed⟩ := hflags ht
    rw [outcome, if_pos hall, hfailed] at hv
    rw [meet, map_value, hv]
    exact ⟨rfl, hdegraded⟩
  | grpc signal content =>
    rintro rfl
    obtain ⟨report, r', hw, ht, hdegraded, -⟩ := submit_of_closed hp hc content
    rw [meet, map_value, call_value hw, if_pos (hflags ht).1]
    exact ⟨rfl, hdegraded⟩
  | store command =>
    have he : (command.task r.outlets.store).value = _ := Command.ends_of_closed hc command
    exact congrArg Reply.answer (congrArg Prod.fst he)
  | shutDown => rfl

/-- Demands that follow one another change nothing either. -/
theorem kept_after_of_closed (hp : r.pipeline = (config.pipeline host).value)
    (hc : r.outlets.store.rotation.closed = true) (demands : List Demand) :
    Kept r (r.after demands) := by
  induction demands generalizing r with
  | nil => exact .refl r
  | cons demand demands ih =>
    have hdone := kept_meet_of_closed hp hc demand
    refine hdone.trans (ih (hdone.pipeline.trans hp) ?_)
    rw [hdone.store]
    exact hc

/-- A shutdown is final: whatever is demanded afterwards, and whatever has been demanded since, the
files are those that the shutdown found, the demand is refused, and the health does not mend. -/
theorem shutDown_final (hp : r.pipeline = (config.pipeline host).value) (earlier : List Demand)
    (demand : Demand) :
    let before := (shutDown r).value.2.after earlier
    let done := (meet demand before).value
    done.2.outlets.store.files = r.outlets.store.files ∧
      done.2.outlets.store.rotation = r.outlets.store.rotation.close ∧
      Refused before done.2 demand done.1 ∧
      (before.health.isDegraded → done.2.health.isDegraded) := by
  intro before done
  have hclosed : (shutDown r).value.2.outlets.store.rotation.closed = true := rfl
  have hkept : Kept (shutDown r).value.2 before :=
    kept_after_of_closed (r := (shutDown r).value.2) hp hclosed earlier
  have hp' : before.pipeline = (config.pipeline host).value := hkept.pipeline.trans hp
  have hc' : before.outlets.store.rotation.closed = true := by
    rw [hkept.store]
    exact hclosed
  have hdone : Kept before done.2 := kept_meet_of_closed hp' hc' demand
  have hstore := hdone.store.trans hkept.store
  refine ⟨?_, ?_, refused_meet_of_closed hp' hc' demand, hdone.degraded⟩
  · rw [hstore]
    rfl
  · rw [hstore]
    rfl

/-- A request to a receiver that has been shut down since it stored one. -/
theorem shutDown_final_fresh :
    let host : Host := .roomy 65536
    let r := (submit (.logs {}) (fresh {} host)).value.2
    let before := (shutDown r).value.2.after [.store (.path ⟨"out", .logs⟩)]
    let done := (meet (.submit (.logs {})) before).value
    r.pipeline = (Config.pipeline {} host).value ∧
      done.2.outlets.store.files = r.outlets.store.files ∧
      done.2.outlets.store.rotation = r.outlets.store.rotation.close ∧
      Refused before done.2 (.submit (.logs {})) done.1 ∧
      (before.health.isDegraded → done.2.health.isDegraded) :=
  ⟨rfl, shutDown_final rfl [.store (.path ⟨"out", .logs⟩)] (.submit (.logs {}))⟩

end Receiver

end TelemetrySpool
