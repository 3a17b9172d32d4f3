import TelemetrySpool.Proofs.Receiver.Closing
import TelemetrySpool.Proofs.Receiver.Correlation

/-!
# The states of a library

A library is a receiver that was set up from a valid configuration on files of any kind. Demands are
made of it and of its store, and all the while anything may happen to the files from outside. In
every state that it gets into it has the pipeline of its configuration, and all active paths are
base paths that were named by some instant.
-/

namespace TelemetrySpool

namespace Command

open Store

variable {s s' : Store}

/-- Work that gets into a store keeps every active path named if it does so inside. -/
theorem named_enter_bind {α : Type} {key : SlotKey} {cancelled : Bool} {next : Unit → StoreTask α}
    {outcome : Except SinkError α} (h : (enter key cancelled >>= next).Ends s outcome s')
    (hnext : ∀ {s₁ s₂ : Store} {o : Except SinkError α}, (next ()).Ends s₁ o s₂ →
      s₁.rotation.Named → s₂.rotation.Named) (hn : s.rotation.Named) : s'.rotation.Named := by
  rcases Task.ends_bind_iff.1 h with ⟨_, s₁, he, hends⟩ | ⟨_, he, -⟩
  · exact hnext hends (hn.of_agrees (opened_of_enter he).rotation)
  · exact hn.of_agrees (opened_of_enter he).rotation

/-- A path that is asked for is named by an instant. -/
theorem named_requestPath {key : SlotKey} {outcome : Except SinkError Path}
    (h : (requestPath key).Ends s outcome s') (hn : s.rotation.Named) : s'.rotation.Named := by
  refine named_enter_bind h (fun hends hn₁ => ?_) hn
  rcases activePath_cases hends with ⟨_, -, hf⟩ | ⟨-, _, -, rfl⟩
  · exact hf.named hn₁
  · exact hn₁

/-- So is one that is rotated to. -/
theorem named_requestRotation {key : SlotKey} {outcome : Except SinkError Path}
    (h : (requestRotation key).Ends s outcome s') (hn : s.rotation.Named) :
    s'.rotation.Named := by
  refine named_enter_bind h (fun hends hn₁ => ?_) hn
  obtain ⟨-, rfl⟩ := ends_rotate_iff.1 hends
  exact hn₁.activate (freshPath_eq_basePath _ _ _ _)

/-- No command makes a path active that is not named by an instant. -/
theorem named_task (command : Command) {outcome : Except SinkError Answer}
    (h : command.task.Ends s outcome s') (hn : s.rotation.Named) : s'.rotation.Named := by
  have last : ∀ {α : Type} {task : StoreTask α} (answer : α → Answer),
      (do pure (answer (← task))).Ends s outcome s' →
        (∀ {o s₁}, task.Ends s o s₁ → s₁.rotation.Named) → s'.rotation.Named := by
    intro α task answer hends htask
    rcases Task.ends_bind_iff.1 hends with ⟨_, s₁, ht, hp⟩ | ⟨_, ht, -⟩
    · obtain ⟨-, rfl⟩ := Task.ends_pure_iff.1 hp
      exact htask ht
    · exact htask ht
  cases command with
  | write sink record cancelled =>
    exact last (fun _ => .written) h fun hw => (FileSink.writes_of_ends hw).named hn
  | path key => exact last .path h fun hp => named_requestPath hp hn
  | rotate key => exact last .path h fun hr => named_requestRotation hr hn
  | list directory signal =>
    obtain ⟨-, rfl⟩ := Task.ends_ofExcept_iff.1 h
    exact hn
  | clear directory signal =>
    exact last .count h fun hc key base hb =>
      hn key base ((Swept.of_clear hc).active key base hb)

end Command

namespace Receiver

variable {config : Config} {host : Host} {r : Receiver}

/-- A receiver after its files have been changed from outside. -/
def withFiles (r : Receiver) (files : FileTree) : Receiver :=
  { r with outlets.store.files := files }

/-- The states that a library gets into. -/
inductive Reachable (config : Config) (host : Host) : Receiver → Prop
  | setUp {files : FileTree} {names times : Clock} {token : Token} {pipeline : Pipeline Outlets}
      {s : Store} :
      (setUp config host { files, clock := names }).value = (.ok pipeline, s) →
        Reachable config host { pipeline, token, clock := times, outlets := { store := s } }
  | meet {r : Receiver} (demand : Demand) :
      Reachable config host r → Reachable config host (meet demand r).value.2
  | outside {r : Receiver} (files : FileTree) :
      Reachable config host r → Reachable config host (r.withFiles files)

/-- What holds in every state. -/
structure Kempt (config : Config) (host : Host) (r : Receiver) : Prop where
  valid : config.validate = .ok ()
  pipeline : r.pipeline = (config.pipeline host).value
  named : r.outlets.store.rotation.Named

/-- Writing a request keeps all paths named. -/
theorem Kempt.write (h : r.Kempt config host) (content : Request) :
    Kempt config host (write content content.signal r).value.2 := by
  have ht := config.dispatch_tallied host (r.recordOf content) r.token.upcoming r.health r.outlets
  rw [submit_value]
  refine ⟨h.valid, h.pipeline, ?_⟩
  have hw₁ := (config.fileSink host .all).writes_trial (r.recordOf content) (r.token.upcoming 0)
    r.outlets.store
  have hn₁ := hw₁.named h.named
  rw [← h.pipeline] at ht
  dsimp only
  rw [ht.store, Config.trials]
  split
  · exact ((config.fileSink host .errors).writes_trial _ _ _).named hn₁
  · exact hn₁

/-- Every demand leaves a receiver in order. -/
theorem Kempt.meet (h : r.Kempt config host) (demand : Demand) :
    Kempt config host (meet demand r).value.2 := by
  cases demand with
  | submit content => exact h.write content
  | http limit request =>
    rcases handle_cases (r := r) limit request with he | ⟨content, he⟩
    · rw [Receiver.meet, map_value, he]
      exact h
    · rw [Receiver.meet, map_value, he]
      exact h.write content
  | grpc signal content =>
    rw [Receiver.meet, map_value]
    by_cases hs : signal = content.signal
    · have hwrite := h.write content
      rw [submit_value] at hwrite
      rw [hs, call_value (submit_value r content)]
      exact hwrite
    · rw [call_of_ne hs]
      exact h
  | store command =>
    exact ⟨h.valid, h.pipeline, command.named_task (Task.ends_self _ _) h.named⟩
  | shutDown => exact ⟨h.valid, h.pipeline, h.named⟩

/-- A receiver is in order once it is set up. -/
theorem kempt_of_setUp {s s' : Store} {pipeline : Pipeline Outlets} {times : Clock} {token : Token}
    (h : (setUp config host s).value = (.ok pipeline, s')) (hn : s.rotation.Named) :
    Kempt config host { pipeline, token, clock := times, outlets := { store := s' } } := by
  unfold setUp at h
  split at h
  · cases h
  · next hv =>
    split at h
    · cases h
    · obtain ⟨hp, rfl⟩ := Prod.mk.inj h
      exact ⟨hv, (Except.ok.inj hp).symm, hn⟩

/-- What holds in the beginning and is preserved by demands holds in every state; changes from
outside do not touch it. -/
theorem Reachable.kempt (h : Reachable config host r) : r.Kempt config host := by
  induction h with
  | setUp hs => exact kempt_of_setUp hs Rotation.named_empty
  | meet demand _ ih => exact ih.meet demand
  | outside files _ ih => exact ⟨ih.valid, ih.pipeline, ih.named⟩

end Receiver

end TelemetrySpool
