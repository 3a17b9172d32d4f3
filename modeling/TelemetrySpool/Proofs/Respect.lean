import TelemetrySpool.Proofs.Outcome

/-!
# Tasks that respect a relation

A relation between states is respected by a task that does the same to both of them: started in two
states that are related, it ends with one outcome in two states that are related again. Sequences
respect what their parts do, so a relation has to be looked at for the steps alone. An invariant is
the relation of a state to itself.
-/

namespace TelemetrySpool.Task

variable {σ ε α β : Type} {R : σ → σ → Prop}

/-- A task that is started in two states that are related ends with one outcome in states that are
related again, and a value that it gives is of a kind. -/
def Respects (R : σ → σ → Prop) (P : α → Prop) (task : Task σ ε α) : Prop :=
  ∀ s t, R s t → ∃ outcome s' t', task.Ends s outcome s' ∧ task.Ends t outcome t' ∧ R s' t' ∧
    ∀ value, outcome = .ok value → P value

variable {P : α → Prop} {Q : β → Prop}

/-- A value is given in all states. -/
theorem respects_pure {value : α} (h : P value) : (pure value : Task σ ε α).Respects R P :=
  fun s t hR => ⟨.ok value, s, t, rfl, rfl, hR, fun _ he => Except.ok.inj he ▸ h⟩

/-- A failure gives no value. -/
theorem respects_fail (error : ε) : (fail error : Task σ ε α).Respects R P :=
  fun s t hR => ⟨.error error, s, t, rfl, rfl, hR, fun _ he => by cases he⟩

/-- A report leaves the state alone. -/
theorem respects_report (level : Level) (message : String) (details : List (String × Detail)) :
    (report level message details : Task σ ε Unit).Respects R (fun _ => True) :=
  fun s t hR => ⟨.ok (), s, t, rfl, rfl, hR, fun _ _ => trivial⟩

/-- What a result holds is the same in all states. -/
theorem respects_ofExcept {result : Except ε α} (h : ∀ value, result = .ok value → P value) :
    (ofExcept result : Task σ ε α).Respects R P :=
  fun s t hR => ⟨result, s, t, rfl, rfl, hR, h⟩

/-- What is read has to be the same in states that are related. -/
theorem respects_look {read : σ → α} (h : ∀ s t, R s t → read s = read t ∧ P (read s)) :
    (look read : Task σ ε α).Respects R P := by
  intro s t hR
  obtain ⟨he, hP⟩ := h s t hR
  exact ⟨.ok (read s), s, t, rfl, by rw [he]; rfl, hR, fun _ ho => Except.ok.inj ho ▸ hP⟩

/-- What is changed has to be related afterwards. -/
theorem respects_change {step : σ → σ} (h : ∀ s t, R s t → R (step s) (step t)) :
    (change step : Task σ ε Unit).Respects R (fun _ => True) :=
  fun s t hR => ⟨.ok (), step s, step t, rfl, rfl, h s t hR, fun _ _ => trivial⟩

/-- A sequence respects what its parts do, the second one for the values that the first one can
give. -/
theorem respects_bind {task : Task σ ε α} {next : α → Task σ ε β} (h : task.Respects R P)
    (hn : ∀ value, P value → (next value).Respects R Q) : (task >>= next).Respects R Q := by
  intro s t hR
  obtain ⟨outcome, s₁, t₁, hs, ht, hR₁, hP⟩ := h s t hR
  cases outcome with
  | error error =>
    exact ⟨.error error, s₁, t₁, ends_bind_iff.2 (.inr ⟨_, hs, rfl⟩),
      ends_bind_iff.2 (.inr ⟨_, ht, rfl⟩), hR₁, fun _ he => by cases he⟩
  | ok value =>
    obtain ⟨outcome, s₂, t₂, hs', ht', hR₂, hQ⟩ := hn value (hP value rfl) s₁ t₁ hR₁
    exact ⟨outcome, s₂, t₂, ends_bind_iff.2 (.inl ⟨_, _, hs, hs'⟩),
      ends_bind_iff.2 (.inl ⟨_, _, ht, ht'⟩), hR₂, hQ⟩

/-! ## Invariants -/

variable {I : σ → Prop} {task : Task σ ε α}

/-- A task keeps an invariant, however it ends, and a value that it gives is of a kind. -/
def Maintains (I : σ → Prop) (P : α → Prop) (task : Task σ ε α) : Prop :=
  task.Respects (fun s t => s = t ∧ I s) P

/-- An invariant is looked at for one state at a time. -/
theorem maintains_iff : task.Maintains I P ↔
    ∀ s outcome s', I s → task.Ends s outcome s' →
      I s' ∧ ∀ value, outcome = .ok value → P value := by
  constructor
  · intro h s outcome s' hs he
    obtain ⟨outcome₁, s₁, t₁, hs₁, -, ⟨-, hI⟩, hP⟩ := h s s ⟨rfl, hs⟩
    obtain ⟨rfl, rfl⟩ := Prod.mk.inj (he.symm.trans hs₁)
    exact ⟨hI, hP⟩
  · rintro h s t ⟨rfl, hs⟩
    obtain ⟨hI, hP⟩ := h s _ _ hs (ends_self task s)
    exact ⟨_, _, _, ends_self task s, ends_self task s, ⟨rfl, hI⟩, hP⟩

/-- What is read tells something about a state that keeps the invariant. -/
theorem maintains_look {read : σ → α} (h : ∀ s, I s → P (read s)) :
    (look read : Task σ ε α).Maintains I P :=
  respects_look fun s _ hs => ⟨congrArg read hs.1, h s hs.2⟩

/-- Reading keeps every invariant. -/
theorem maintains_read (read : σ → α) :
    (look read : Task σ ε α).Maintains I fun _ => True := maintains_look fun _ _ => trivial

/-- A change has to keep the invariant. -/
theorem maintains_change {step : σ → σ} (h : ∀ s, I s → I (step s)) :
    (change step : Task σ ε Unit).Maintains I fun _ => True :=
  respects_change fun s _ hs => ⟨congrArg step hs.1, h s hs.2⟩

end TelemetrySpool.Task
