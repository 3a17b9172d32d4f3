import TelemetrySpool.Task

/-!
# How tasks end

A task that is started in a state ends with an outcome in some other state. These relations forget
the events that were reported on the way, and a sequence of two tasks is taken apart by one rule:
either the first one gave a value to the second, or its failure is that of the whole.
-/

namespace TelemetrySpool.Task

variable {σ ε α β : Type}

/-- A task started in the state `s` ends with an outcome in the state `s'`. -/
def Ends (task : Task σ ε α) (s : σ) (outcome : Except ε α) (s' : σ) : Prop :=
  (task s).value = (outcome, s')

/-- Every task ends. -/
theorem ends_self (task : Task σ ε α) (s : σ) :
    task.Ends s (task s).value.1 (task s).value.2 := rfl

/-- A task that gives a value when it is run ends with that value. -/
theorem ends_of_toOption {task : Task σ ε α} {s : σ} {value : α}
    (h : (task s).value.1.toOption = some value) : task.Ends s (.ok value) (task s).value.2 := by
  cases hv : (task s).value.1 with
  | error error =>
    rw [hv] at h
    cases h
  | ok found =>
    rw [hv] at h
    exact Prod.ext (by rw [hv, Option.some.inj h]) rfl

/-- A value ends a task at once. -/
theorem ends_pure_iff {value : α} {s s' : σ} {outcome : Except ε α} :
    (pure value : Task σ ε α).Ends s outcome s' ↔ outcome = .ok value ∧ s' = s := by
  simp only [Ends, pure_run, Prod.mk.injEq]
  exact and_congr eq_comm eq_comm

/-- So does an error. -/
theorem ends_fail_iff {error : ε} {s s' : σ} {outcome : Except ε α} :
    (fail error : Task σ ε α).Ends s outcome s' ↔ outcome = .error error ∧ s' = s := by
  simp only [Ends, fail, Prod.mk.injEq]
  exact and_congr eq_comm eq_comm

/-- A result that is there already ends a task as it is. -/
theorem ends_ofExcept_iff {result : Except ε α} {s s' : σ} {outcome : Except ε α} :
    (ofExcept result : Task σ ε α).Ends s outcome s' ↔ outcome = result ∧ s' = s := by
  simp only [Ends, ofExcept, Prod.mk.injEq]
  exact and_congr eq_comm eq_comm

/-- Logging changes no state. -/
theorem ends_report_iff {level : Level} {message : String} {details : List (String × Detail)}
    {s s' : σ} {outcome : Except ε Unit} :
    (report level message details : Task σ ε Unit).Ends s outcome s' ↔
      outcome = .ok () ∧ s' = s := by
  simp only [Ends, report, Prod.mk.injEq]
  exact and_congr eq_comm eq_comm

/-- A sequence ends as its second task does, or with the failure of its first one. -/
theorem ends_bind_iff {task : Task σ ε α} {next : α → Task σ ε β} {s s' : σ}
    {outcome : Except ε β} :
    (task >>= next).Ends s outcome s' ↔
      (∃ value s₁, task.Ends s (.ok value) s₁ ∧ (next value).Ends s₁ outcome s') ∨
        ∃ error, task.Ends s (.error error) s' ∧ outcome = .error error := by
  rcases h : task s with ⟨⟨first, s₁⟩, events⟩
  cases first with
  | ok value =>
    simp only [Ends, bind_of_ok h, h, Prod.mk.injEq, Except.ok.injEq, reduceCtorEq, false_and,
      exists_false, or_false]
    constructor
    · exact fun hn => ⟨value, s₁, ⟨rfl, rfl⟩, hn⟩
    · rintro ⟨_, _, ⟨rfl, rfl⟩, hn⟩
      exact hn
  | error error =>
    simp only [Ends, bind_of_error h, h, Prod.mk.injEq, reduceCtorEq, false_and, exists_false,
      false_or, Except.error.injEq]
    constructor
    · rintro ⟨rfl, rfl⟩
      exact ⟨error, ⟨rfl, rfl⟩, rfl⟩
    · rintro ⟨_, ⟨rfl, rfl⟩, rfl⟩
      exact ⟨rfl, rfl⟩

/-- A sequence goes on where its first task has succeeded. -/
theorem ends_bind_ok {task : Task σ ε α} {next : α → Task σ ε β} {s s' s₁ : σ} {value : α}
    {outcome : Except ε β} (h : task.Ends s (.ok value) s₁) :
    (task >>= next).Ends s outcome s' ↔ (next value).Ends s₁ outcome s' := by
  rw [ends_bind_iff]
  constructor
  · rintro (⟨_, _, ht, hn⟩ | ⟨_, ht, -⟩)
    · obtain ⟨hvalue, rfl⟩ := Prod.mk.inj (h.symm.trans ht)
      exact Except.ok.inj hvalue ▸ hn
    · cases (Prod.mk.inj (h.symm.trans ht)).1
  · exact fun hn => .inl ⟨value, s₁, h, hn⟩

/-- A sequence ends where its first task has failed. -/
theorem ends_bind_error {task : Task σ ε α} {next : α → Task σ ε β} {s s' s₁ : σ} {error : ε}
    {outcome : Except ε β} (h : task.Ends s (.error error) s₁) :
    (task >>= next).Ends s outcome s' ↔ outcome = .error error ∧ s' = s₁ := by
  rw [ends_bind_iff]
  constructor
  · rintro (⟨_, _, ht, -⟩ | ⟨_, ht, ho⟩)
    · cases (Prod.mk.inj (h.symm.trans ht)).1
    · obtain ⟨herror, rfl⟩ := Prod.mk.inj (h.symm.trans ht)
      exact ⟨by rw [ho, Except.error.inj herror], rfl⟩
  · rintro ⟨rfl, rfl⟩
    exact .inr ⟨error, h, rfl⟩

/-- What both tasks of a sequence keep to, the sequence keeps to, however it ends. -/
theorem rel_of_ends_bind (R : σ → σ → Prop) (trans : ∀ {a b c}, R a b → R b c → R a c)
    {task : Task σ ε α} {next : α → Task σ ε β} {s s' : σ} {outcome : Except ε β}
    (h : (task >>= next).Ends s outcome s')
    (first : ∀ {o s₁}, task.Ends s o s₁ → R s s₁)
    (second : ∀ {value o s₁ s₂}, (next value).Ends s₁ o s₂ → R s₁ s₂) : R s s' := by
  rcases ends_bind_iff.1 h with ⟨value, s₁, ht, hn⟩ | ⟨error, ht, -⟩
  · exact trans (first ht) (second hn)
  · exact first ht

/-- A sequence succeeds if both tasks do. -/
theorem ends_bind_ok_iff {task : Task σ ε α} {next : α → Task σ ε β} {s s' : σ} {value' : β} :
    (task >>= next).Ends s (.ok value') s' ↔
      ∃ value s₁, task.Ends s (.ok value) s₁ ∧ (next value).Ends s₁ (.ok value') s' := by
  rw [ends_bind_iff]
  simp only [reduceCtorEq, and_false, exists_false, or_false]

/-- What is read is handed on. -/
theorem ends_look_bind_iff {read : σ → α} {next : α → Task σ ε β} {s s' : σ}
    {outcome : Except ε β} :
    (look read >>= next).Ends s outcome s' ↔ (next (read s)).Ends s outcome s' := Iff.rfl

/-- What is reported is forgotten. -/
theorem ends_report_bind_iff {level : Level} {message : String}
    {details : List (String × Detail)} {next : Unit → Task σ ε β} {s s' : σ}
    {outcome : Except ε β} :
    (report level message details >>= next).Ends s outcome s' ↔ (next ()).Ends s outcome s' :=
  Iff.rfl

end TelemetrySpool.Task
