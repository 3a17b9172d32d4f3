import TelemetrySpool.Proofs.Receiver.Posted
import TelemetrySpool.Proofs.Receiver.Wiring
import TelemetrySpool.Proofs.Sink.Write
import TelemetrySpool.Receiver.Grpc

/-!
# What an answer says about the files

A client learns from the answer alone whether its request is kept. The answer is read off counts, in
which consoles and skipped sinks are mixed with file sinks; it is shown here to say exactly whether
some file has got the line of the request at its end, and if not, whether a write failed or all of
them were given up. The same holds over both transports and in every state of the receiver, whatever
the volume answers and whenever the token is cancelled.

What a posted request carries is told here from its headers and its body, in terms of its own, so
that the limit of the body and the encodings are part of what is shown.
-/

namespace TelemetrySpool

/-- The write made one file longer by a line, and changed no other file. -/
def Trial.Appended (trial : Trial) (line : String) : Prop :=
  ∃ place, ∀ other, trial.after.files.file? other =
    if other = place then some ((trial.before.files.file? other).getD [] ++ Bytes.ofText line)
    else trial.before.files.file? other

/-- Some write has put the line into a file. -/
def Stores (trials : List Trial) (line : String) : Prop := ∃ trial ∈ trials, trial.Appended line

/-- No write has put the line into a file, and one of them failed. -/
def Fails (trials : List Trial) (line : String) : Prop :=
  ¬ Stores trials line ∧ ∃ trial ∈ trials, trial.ending = .failed

/-- No write has put the line into a file and none failed, but one was given up. -/
def GivesUp (trials : List Trial) (line : String) : Prop :=
  ¬ Stores trials line ∧ (∀ trial ∈ trials, trial.ending ≠ .failed) ∧
    ∃ trial ∈ trials, trial.ending = .cancelled

/-- A write that does not succeed changes no file or leaves a part of its line, so a line that is
not empty is in a file exactly if its write succeeded. -/
theorem FileSink.appended_trial_iff (sink : FileSink) (record : Record) (cancelled : Bool)
    (s : Store) (hl : Bytes.ofText record.line ≠ []) :
    (sink.trial record cancelled s).Appended record.line ↔
      (sink.trial record cancelled s).ending = .stored := by
  have hw := writes_of_ends (Task.ends_self (sink.write record cancelled) s)
  rw [Trial.ending, Ending.of_eq_stored_iff]
  unfold trial
  constructor
  · rintro ⟨place, hline⟩
    dsimp only at hline ⊢
    have hgrown := hline place
    rw [if_pos rfl] at hgrown
    -- A file at whose end the line stands has changed.
    have hchanged : some ((s.files.file? place).getD [] ++ Bytes.ofText record.line) ≠
        s.files.file? place := by
      cases s.files.file? place with
      | none => simp
      | some content =>
        rw [Option.getD_some, ne_eq, Option.some.injEq, List.append_right_eq_self]
        exact hl
    rcases hw.file?_cases with ⟨-, hsame⟩ | ⟨base, part, -, -, hwhole, hfiles⟩
    · exact absurd (hgrown.symm.trans (hsame place)) hchanged
    · rw [hfiles] at hgrown
      split at hgrown
      · exact hwhole.2 (List.append_cancel_left (Option.some.inj hgrown))
      · exact absurd hgrown.symm hchanged
  · intro ho
    dsimp only at ho
    rw [ho] at hw
    obtain ⟨base, -, hfiles⟩ := hw.file?_of_ok
    exact ⟨_, hfiles⟩

/-- Every trial of a request is one by a file sink of the configuration. -/
theorem Config.exists_of_mem_trials {config : Config} {host : Host} {record : Record}
    {cancelled : Nat → Bool} {s : Store} {trial : Trial}
    (h : trial ∈ config.trials host record cancelled s) :
    ∃ stream look s', trial = (config.fileSink host stream).trial record look s' := by
  unfold trials at h
  dsimp only at h
  split at h
  · rcases List.mem_cons.1 h with rfl | h
    · exact ⟨_, _, _, rfl⟩
    · exact ⟨_, _, _, List.mem_singleton.1 h⟩
  · exact ⟨_, _, _, List.mem_singleton.1 h⟩

/-- A line is stored somewhere if a file sink says so. -/
theorem Config.stores_trials_iff {config : Config} {host : Host} {record : Record}
    {cancelled : Nat → Bool} {s : Store}
    (hl : Bytes.ofText record.line ≠ []) :
    Stores (config.trials host record cancelled s) record.line ↔
      ∃ trial ∈ config.trials host record cancelled s, trial.ending = .stored := by
  refine exists_congr fun trial => and_congr_right fun hm => ?_
  obtain ⟨stream, look, s', rfl⟩ := Config.exists_of_mem_trials hm
  exact (config.fileSink host stream).appended_trial_iff record look s' hl

/-- Some file sink tries every record. -/
theorem Config.trials_ne_nil (config : Config) (host : Host) (record : Record)
    (cancelled : Nat → Bool) (s : Store) :
    config.trials host record cancelled s ≠ [] := by
  unfold trials
  dsimp only
  split <;> exact List.cons_ne_nil _ _

/-- What a report of the writes means for a request. -/
structure Judged (trials : List Trial) (line : String) (report : Report) : Prop where
  allFailed : report.allFailed = true ↔ Fails trials line
  interrupted : report.allFailed = false ∧ report.interrupted = true ↔ GivesUp trials line
  neither : report.allFailed = false ∧ report.interrupted = false ↔ Stores trials line

/-- The counters of a report judge what the file sinks have done. -/
theorem Config.judged_of_tallied {config : Config} {host : Host} {record : Record}
    {cancelled : Nat → Bool} {s : Store} {p : Progress Outlets} (hl : Bytes.ofText record.line ≠ [])
    (h : Tallied s (config.trials host record cancelled s) p) :
    Judged (config.trials host record cancelled s) record.line p.report := by
  have hstores : Stores (config.trials host record cancelled s) record.line ↔ _ :=
    stores_trials_iff hl
  have hcount : ∀ ending : Ending,
      0 < (config.trials host record cancelled s).countP (·.ending = ending) ↔
        ∃ trial ∈ config.trials host record cancelled s, trial.ending = ending := by
    intro ending
    simp only [List.countP_pos_iff, decide_eq_true_eq]
  have hp := hcount .stored
  have hf := hcount .failed
  have hc := hcount .cancelled
  rw [← h.persisted] at hp
  rw [← h.failed] at hf
  rw [← h.cancelled] at hc
  -- There is at least one write, and it ends in one of three ways.
  have hsome : 0 < p.report.persisted ∨ 0 < p.report.failed ∨ 0 < p.report.cancelled := by
    obtain ⟨trial, hm⟩ := List.exists_mem_of_ne_nil _ (config.trials_ne_nil host record cancelled s)
    cases he : trial.ending with
    | stored => exact Or.inl (hp.2 ⟨trial, hm, he⟩)
    | failed => exact Or.inr (Or.inl (hf.2 ⟨trial, hm, he⟩))
    | cancelled => exact Or.inr (Or.inr (hc.2 ⟨trial, hm, he⟩))
  have hnone : (∀ trial ∈ config.trials host record cancelled s, trial.ending ≠ .failed) ↔
      ¬ 0 < p.report.failed := by
    rw [hf]
    simp only [not_exists, not_and, ne_eq]
  constructor
  · rw [Fails, hstores, ← hp, ← hf, Report.allFailed]
    simp only [Bool.and_eq_true, decide_eq_true_eq]
    omega
  · rw [GivesUp, hstores, ← hp, ← hc, hnone, Report.allFailed, Report.interrupted]
    simp only [Bool.and_eq_true, Bool.and_eq_false_iff, decide_eq_true_eq, decide_eq_false_iff_not]
    omega
  · rw [hstores, ← hp, Report.allFailed, Report.interrupted]
    simp only [Bool.and_eq_false_iff, decide_eq_false_iff_not]
    omega

namespace Request

/-- A line has its line feed at least. -/
theorem ofText_line_ne_nil (pretty : Bool) (request : Request) :
    Bytes.ofText (request.line pretty) ≠ [] := by
  intro h
  have htext := Bytes.toText?_ofText (request.line pretty)
  rw [h] at htext
  have hempty : request.line pretty = "" := by
    have hnil : Bytes.toText? [] = some "" := Bytes.toText?_ofText ""
    exact Option.some.inj (htext.symm.trans hnil)
  have hl := congrArg String.toList hempty
  rw [line, String.toList_append] at hl
  exact List.cons_ne_nil _ _ (List.append_eq_nil_iff.1 hl).2

end Request

namespace Receiver

/-- Work that follows other work starts with what that has left. -/
theorem bind_run {α β : Type} (work : Work α) (next : α → Work β) (r : Receiver) :
    (work >>= next) r = ⟨(next (work r).value.1 (work r).value.2).value,
      (work r).events ++ (next (work r).value.1 (work r).value.2).events⟩ := rfl

/-- Work follows on the state that the work before it has left. -/
theorem bind_value {α β : Type} (work : Work α) (next : α → Work β) (r : Receiver) :
    ((work >>= next) r).value = (next (work r).value.1 (work r).value.2).value := rfl

/-- The record that a receiver makes of a request. -/
def recordOf (r : Receiver) (content : Request) : Record :=
  ⟨content.signal, content.line r.pipeline.pretty, content.isError, r.clock.now, content.signal_ne⟩

/-- The writes that a request comes to. -/
def trialsOf (config : Config) (host : Host) (r : Receiver) (content : Request) : List Trial :=
  config.trials host (r.recordOf content) r.token.upcoming r.outlets.store

/-- A request that becomes no record does nothing. -/
theorem write_of_error (r : Receiver) {request : Request} {signal : Signal}
    {error : PipelineError}
    (h : r.pipeline.record request signal r.clock.now = .error error) :
    write request signal r = ⟨(.error error, r), []⟩ := by
  have hget : (get : Work Receiver) r = ⟨(r, r), []⟩ := rfl
  rw [write, bind_run]
  simp only [hget, h]
  rfl

/-- A request that becomes a record is dispatched. -/
theorem write_of_ok (r : Receiver) {request : Request} {signal : Signal} {record : Record}
    (h : r.pipeline.record request signal r.clock.now = .ok record) :
    write request signal r =
      let p := r.pipeline.dispatch record r.token.upcoming r.health r.outlets
      ⟨(.ok p.value.report, { r with
          token := r.token.skip r.pipeline.sinks.length
          clock := r.clock.tick
          health := p.value.health
          outlets := p.value.state }), p.events⟩ := by
  have hget : (get : Work Receiver) r = ⟨(r, r), []⟩ := rfl
  rw [write, bind_run]
  simp only [hget, h]
  exact congrArg (Logged.mk _) (List.append_nil _)

/-- A request that is declared as what it is becomes a record. -/
theorem record_eq (r : Receiver) (content : Request) :
    r.pipeline.record content content.signal r.clock.now = .ok (r.recordOf content) := by
  rw [Pipeline.record, dif_neg content.signal_ne, if_neg (fun h => h rfl)]
  rfl

/-- A request that is written as what it is becomes a record, which is dispatched. -/
theorem submit_value (r : Receiver) (content : Request) :
    (write content content.signal r).value =
      let p := (r.pipeline.dispatch (r.recordOf content) r.token.upcoming r.health r.outlets).value
      (.ok p.report, { r with
        token := r.token.skip r.pipeline.sinks.length
        clock := r.clock.tick
        health := p.health
        outlets := p.state }) :=
  congrArg Logged.value (r.write_of_ok (r.record_eq content))

/-- What the report of a request means, and what its writes leave. -/
theorem judged_submit {config : Config} {host : Host} {r : Receiver}
    (hp : r.pipeline = (config.pipeline host).value) (content : Request) :
    ∃ report r', (write content content.signal r).value = (.ok report, r') ∧
      Judged (r.trialsOf config host content) (content.line config.prettyJson) report ∧
      r'.outlets.store = storeAfter r.outlets.store (r.trialsOf config host content) := by
  have ht := config.dispatch_tallied host (r.recordOf content) r.token.upcoming r.health r.outlets
  have hline : (r.recordOf content).line = content.line config.prettyJson := by
    rw [recordOf, hp, config.pipeline_pretty]
  have hl : Bytes.ofText (r.recordOf content).line ≠ [] := by
    rw [hline]
    exact content.ofText_line_ne_nil _
  refine ⟨_, _, submit_value r content, ?_, ?_⟩
  · rw [hp, ← hline]
    exact Config.judged_of_tallied hl ht
  · rw [hp]
    exact ht.store

end Receiver

/-- What an answer to a posted request says, and what the request has done. -/
structure Acknowledged (config : Config) (host : Host) (r : Receiver) (limit : Nat)
    (signal : Signal) (request : HttpRequest) (response : HttpResponse) (r' : Receiver) :
    Prop where
  ok : response.status = 200 ↔ ∃ content, request.Carries limit signal content ∧
    Stores (r.trialsOf config host content) (content.line config.prettyJson)
  failed : response.status = 500 ↔ ∃ content, request.Carries limit signal content ∧
    Fails (r.trialsOf config host content) (content.line config.prettyJson)
  unavailable : response.status = 503 ↔ ∃ content, request.Carries limit signal content ∧
    GivesUp (r.trialsOf config host content) (content.line config.prettyJson)
  tooLong : response.status = 413 ↔ request.TooLong limit
  unsupported : response.status = 415 ↔ request.Unsupported limit
  total : response.status ∈ [200, 400, 413, 415, 500, 503]
  refused : response.status ∈ [400, 413, 415] → r' = r
  store : ∀ content, request.Carries limit signal content →
    r'.outlets.store = storeAfter r.outlets.store (r.trialsOf config host content)

/-- What the result of a call says, and what the call has done. -/
structure Answered (config : Config) (host : Host) (r : Receiver) (content : Request)
    (result : Except GrpcStatus Unit) (r' : Receiver) : Prop where
  ok : result = .ok () ↔ Stores (r.trialsOf config host content) (content.line config.prettyJson)
  failed : (∃ status, result = .error status ∧ status.code = .internal) ↔
    Fails (r.trialsOf config host content) (content.line config.prettyJson)
  unavailable : (∃ status, result = .error status ∧ status.code = .unavailable) ↔
    GivesUp (r.trialsOf config host content) (content.line config.prettyJson)
  store : r'.outlets.store = storeAfter r.outlets.store (r.trialsOf config host content)

namespace Receiver

variable {config : Config} {host : Host} {r : Receiver}

/-- What a posted request is answered, read off what it carries and how that is written. -/
theorem post_value (request : HttpRequest) (compressed : Bool) (limit : Nat) (signal : Signal) :
    (post request compressed limit signal r).value =
      match readPosted request compressed limit signal with
      | .error refusal => (.ofRefusal refusal, r)
      | .ok (encoding, content) =>
        match (write content signal r).value with
        | (.error error, r') => (.ofRefusal (.pipeline error), r')
        | (.ok report, r') =>
          match outcome report with
          | .ok () => (encoding.accepted, r')
          | .error refusal => (.ofRefusal refusal, r') := by
  have hrefuse : ∀ (refusal : HttpRefusal) (r' : Receiver),
      ((do announceRefusal refusal; pure (.ofRefusal refusal) : Work HttpResponse) r').value =
        (.ofRefusal refusal, r') := by
    intro refusal r'
    cases refusal <;> rfl
  rw [post, bind_value, ingest]
  cases readPosted request compressed limit signal with
  | error refusal => exact hrefuse refusal r
  | ok posted =>
    obtain ⟨encoding, content⟩ := posted
    dsimp only
    rw [bind_value]
    rcases hw : (write content signal r).value with ⟨result, r'⟩
    cases result with
    | error error => exact hrefuse (.pipeline error) r'
    | ok report =>
      dsimp only
      cases ho : outcome report with
      | ok _ => rfl
      | error refusal => exact hrefuse refusal r'

/-- A request that is posted where its signal belongs is answered as what it carries. -/
theorem handle_value {request : HttpRequest} {signal : Signal} (hs : signal ≠ .unspecified)
    (hm : request.method = "POST") (hp : request.path = HttpRequest.pathOf signal) (limit : Nat) :
    (handle limit request r).value =
      match request.compressed? with
      | none => ({ status := 415 }, r)
      | some compressed => (post request compressed limit signal r).value := by
  have hhealth : HttpRequest.pathOf signal ≠ HttpRequest.healthPath := by
    cases signal <;> first | exact absurd rfl hs | decide
  have hat : HttpRequest.signalAt? (HttpRequest.pathOf signal) = some signal := by
    cases signal <;> first | exact absurd rfl hs | decide
  unfold handle
  cases request.compressed? with
  | none => rfl
  | some compressed => simp only [hp, hhealth, if_false, hat, hm, if_true]

/-- The two flags of a report can be told from the status. -/
theorem status_of_flags (allFailed interrupted : Bool) :
    let status := if allFailed then 500 else if interrupted then 503 else 200
    (status = 200 ↔ allFailed = false ∧ interrupted = false) ∧ (status = 500 ↔ allFailed = true) ∧
      (status = 503 ↔ allFailed = false ∧ interrupted = true) ∧ status ∉ [400, 413, 415] ∧
      status ∈ [200, 500, 503] := by
  decide +revert

/-- A posted request that carries nothing is refused for a fault of its own, and told which. -/
theorem handle_of_not_carries {request : HttpRequest} {signal : Signal}
    (hs : signal ≠ .unspecified) (hm : request.method = "POST")
    (hpath : request.path = HttpRequest.pathOf signal) {limit : Nat}
    (hc : ∀ content, ¬ request.Carries limit signal content) :
    ∃ response, (handle limit request r).value = (response, r) ∧
      response.status ∈ [400, 413, 415] ∧ (response.status = 413 ↔ request.TooLong limit) ∧
      (response.status = 415 ↔ request.Unsupported limit) := by
  rw [handle_value hs hm hpath]
  cases hcomp : request.compressed? with
  | none =>
    have hlong : ¬ request.TooLong limit := HttpRequest.not_tooLong_of_compressed? hcomp
    exact ⟨_, rfl, by simp, iff_of_false (by simp) hlong,
      iff_of_true rfl (.inl (HttpRequest.compressed?_eq_none_iff.1 hcomp))⟩
  | some compressed =>
    dsimp only
    rw [post_value]
    cases hr : readPosted request compressed limit signal with
    | ok posted =>
      obtain ⟨body, hb, he, hd⟩ := readPosted_eq_ok_iff.1 hr
      exact absurd (HttpRequest.carries_iff.2 ⟨compressed, posted.1, body, hcomp, he, hb, hd⟩)
        (hc posted.2)
    | error refusal => exact ⟨_, rfl, refusal_status hcomp hr⟩

/-- A request that carries a content does what its content does when it is written, and its answer
is read off the report. -/
theorem handle_value_of_carries {request : HttpRequest} {signal : Signal}
    (hs : signal ≠ .unspecified) (hm : request.method = "POST")
    (hpath : request.path = HttpRequest.pathOf signal) {limit : Nat} {content : Request}
    (hc : request.Carries limit signal content) {report : Report} {r' : Receiver}
    (hw : (write content content.signal r).value = (.ok report, r')) :
    ∃ encoding : Encoding, (handle limit request r).value =
      match outcome report with
      | .ok () => (encoding.accepted, r')
      | .error refusal => (.ofRefusal refusal, r') := by
  obtain ⟨compressed, encoding, body, hcomp, he, hb, hd⟩ := HttpRequest.carries_iff.1 hc
  rw [Request.signal_of_decode hd] at hw
  refine ⟨encoding, ?_⟩
  rw [handle_value hs hm hpath, hcomp]
  dsimp only
  rw [post_value, readPosted_eq_ok_iff.2 ⟨body, hb, he, hd⟩]
  dsimp only
  rw [hw]

/-- The status of the answer to a request that carries a content is read off the report. -/
theorem handle_of_carries {request : HttpRequest} {signal : Signal} (hs : signal ≠ .unspecified)
    (hm : request.method = "POST") (hpath : request.path = HttpRequest.pathOf signal) {limit : Nat}
    {content : Request} (hc : request.Carries limit signal content)
    (hp : r.pipeline = (config.pipeline host).value) :
    ∃ report, Judged (r.trialsOf config host content) (content.line config.prettyJson) report ∧
      (handle limit request r).value.1.status =
        (if report.allFailed then 500 else if report.interrupted then 503 else 200) ∧
      (handle limit request r).value.2.outlets.store =
        storeAfter r.outlets.store (r.trialsOf config host content) := by
  obtain ⟨report, r', hw, hj, hstore⟩ := judged_submit hp content
  obtain ⟨encoding, hvalue⟩ := handle_value_of_carries hs hm hpath hc hw
  refine ⟨report, hj, ?_⟩
  rw [hvalue, outcome]
  cases report.allFailed with
  | true => exact ⟨rfl, hstore⟩
  | false =>
    cases report.interrupted with
    | true => exact ⟨rfl, hstore⟩
    | false => exact ⟨rfl, hstore⟩

/-- The answer to a posted request says what has become of its line. -/
theorem acknowledged_handle (hp : r.pipeline = (config.pipeline host).value) {request : HttpRequest}
    {signal : Signal} (hs : signal ≠ .unspecified) (hm : request.method = "POST")
    (hpath : request.path = HttpRequest.pathOf signal) (limit : Nat) :
    Acknowledged config host r limit signal request (handle limit request r).value.1
      (handle limit request r).value.2 := by
  by_cases hcarries : ∃ content, request.Carries limit signal content
  · obtain ⟨content, hc⟩ := hcarries
    obtain ⟨report, hj, hstatus, hstore⟩ := handle_of_carries hs hm hpath hc hp
    have honly := exists_carries_iff hc
    obtain ⟨h200, h500, h503, hno, hone⟩ := status_of_flags report.allFailed report.interrupted
    rw [← hstatus] at h200 h500 h503 hno hone
    have hnot : ∀ status ∈ [400, 413, 415], (handle limit request r).value.1.status ≠ status :=
      fun _ hmem heq => hno (heq ▸ hmem)
    have htotal : (handle limit request r).value.1.status ∈ [200, 400, 413, 415, 500, 503] :=
      List.Sublist.subset (by decide) hone
    refine ⟨?_, ?_, ?_, iff_of_false (hnot _ (by decide)) hc.not_tooLong,
      iff_of_false (hnot _ (by decide)) hc.not_unsupported, htotal, fun hm => absurd hm hno,
      fun other ho => ?_⟩
    · rw [honly fun other =>
        Stores (r.trialsOf config host other) (other.line config.prettyJson), h200]
      exact hj.neither
    · rw [honly fun other =>
        Fails (r.trialsOf config host other) (other.line config.prettyJson), h500]
      exact hj.allFailed
    · rw [honly fun other =>
        GivesUp (r.trialsOf config host other) (other.line config.prettyJson), h503]
      exact hj.interrupted
    · rw [← carries_unique hc ho]
      exact hstore
  · have hnone : ∀ content, ¬ request.Carries limit signal content :=
      fun content hc => hcarries ⟨content, hc⟩
    obtain ⟨response, hvalue, hstatus, htoo, hun⟩ :=
      handle_of_not_carries (r := r) hs hm hpath hnone
    have htotal : response.status ∈ [200, 400, 413, 415, 500, 503] :=
      List.Sublist.subset (by decide) hstatus
    rw [hvalue]
    have hno : ∀ status, status ∉ [400, 413, 415] → ∀ P : Request → Prop,
        (response.status = status ↔
          ∃ content, request.Carries limit signal content ∧ P content) := by
      intro status hst P
      constructor
      · rintro rfl
        exact absurd hstatus hst
      · rintro ⟨content, hc, -⟩
        exact absurd hc (hnone content)
    exact ⟨hno 200 (by decide) _, hno 500 (by decide) _, hno 503 (by decide) _, htoo, hun, htotal,
      fun _ => rfl, fun content hc => absurd hc (hnone content)⟩

/-- A call of the service of its own signal does what its content does when it is written, and its
result is read off the report. -/
theorem call_value {content : Request} {report : Report} {r' : Receiver}
    (hw : (write content content.signal r).value = (.ok report, r')) :
    (call content.signal content r).value =
      (if report.allFailed then .error (.allFailed content.signal)
        else if report.interrupted then .error (.interrupted content.signal) else .ok (), r') := by
  rw [call, bind_value, hw]
  dsimp only
  cases report.allFailed with
  | true => rfl
  | false =>
    cases report.interrupted with
    | true => rfl
    | false => rfl

/-- The result of a call says the same. -/
theorem answered_call (hp : r.pipeline = (config.pipeline host).value) (content : Request) :
    Answered config host r content (call content.signal content r).value.1
      (call content.signal content r).value.2 := by
  obtain ⟨report, r', hw, hj, hstore⟩ := judged_submit hp content
  have hcases : ∀ a b : Bool, ∀ failed unavailable : GrpcStatus,
      failed.code = .internal → unavailable.code = .unavailable →
      let result : Except GrpcStatus Unit :=
        if a then .error failed else if b then .error unavailable else .ok ()
      (result = .ok () ↔ a = false ∧ b = false) ∧
        ((∃ status, result = .error status ∧ status.code = .internal) ↔ a = true) ∧
        ((∃ status, result = .error status ∧ status.code = .unavailable) ↔
          a = false ∧ b = true) := by
    intro a b failed unavailable hf hu
    cases a <;> cases b <;> simp [hf, hu]
  obtain ⟨hok, hinternal, hunavailable⟩ := hcases report.allFailed report.interrupted
    (.allFailed content.signal) (.interrupted content.signal) rfl rfl
  rw [call_value hw]
  exact ⟨hok.trans hj.neither, hinternal.trans hj.allFailed, hunavailable.trans hj.interrupted,
    hstore⟩

/-- The answers of a receiver over both transports say what has become of the requests. -/
structure Truthful (config : Config) (host : Host) (r : Receiver) : Prop where
  http : ∀ limit request signal, signal ≠ .unspecified → request.method = "POST" →
    request.path = HttpRequest.pathOf signal →
      Acknowledged config host r limit signal request (handle limit request r).value.1
        (handle limit request r).value.2
  grpc : ∀ content, Answered config host r content (call content.signal content r).value.1
    (call content.signal content r).value.2

/-- A receiver with the pipeline of a configuration is truthful, whatever has happened to it. -/
theorem truthful_of_pipeline (hp : r.pipeline = (config.pipeline host).value) :
    r.Truthful config host := by
  constructor
  · intro limit request signal hs hm hpath
    exact acknowledged_handle hp hs hm hpath limit
  · exact answered_call hp

/-- A receiver whose volumes are full, which has been shut down. -/
theorem truthful_after_shutDown :
    let host : Host := { volume := fun _ => .ofFree 0, offset := fun _ => 7200 }
    let r := (shutDown (fresh {} host)).value.2
    r.pipeline = (Config.pipeline {} host).value ∧ r.Truthful {} host :=
  ⟨rfl, truthful_of_pipeline rfl⟩

end Receiver

end TelemetrySpool
