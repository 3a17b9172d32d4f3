import TelemetrySpool.Proofs.Spool.Untouched

/-!
# Leases

Whoever wants to work under a key for more than one step asks for its slot, waits until nobody else
holds a lease of it, and gives the lease back in the end. A hall is a store with all who have asked;
it changes by moves, which come in any order. What a move can do is told once, by `Turn`, and what
holds in every hall follows from that.

A slot is a thing of its own, which a table finds by what the key leads to: keys whose directories
are written in different ways can lead to one slot. Closing the rotation empties the table, while
those who have found a slot keep it. The numbers of the slots are only there to show that this makes
no difference: all who have asked with keys of one slot have found the same.
-/

namespace TelemetrySpool

/-- How far a request for a lease has come. -/
inductive Standing where
  | waiting
  | holding
  /-- The request was cancelled, or the lease has been given back. -/
  | over
  deriving DecidableEq

/-- A request for a lease that has found its slot. -/
structure Petition where
  /-- What the slot has been asked for with. -/
  key : SlotKey
  /-- The number of the slot. -/
  slot : Nat
  cancelled : Bool
  standing : Standing

/-- What the holder of a lease does with it. -/
inductive Use where
  /-- Asking for the active base path. -/
  | path
  /-- Replacing the active base path. -/
  | rotate
  /-- Removing the files of the signal. -/
  | clear
  deriving DecidableEq

/-- What can happen next. The petitions are counted from the first. -/
inductive Move where
  | ask (key : SlotKey) (cancelled : Bool)
  | cancel (i : Nat)
  | attempt (i : Nat)
  | use (i : Nat) (use : Use)
  | release (i : Nat)
  | shutDown

/-- What a move tells the one who makes it. -/
inductive Notice where
  | done
  | failed (error : SinkError)
  | waits
  /-- There is a lease now, which sees an active base path or none. -/
  | leased (active : Option Path)
  | used (answer : Answer)

/-- A store, the table of its slots, and all who have asked for a lease. -/
structure Hall where
  store : Store
  table : List (SlotId × Nat)
  petitions : List Petition

namespace Store

/-- Removes the files of a signal for the holder of its lease. -/
def wipe (key : SlotKey) : StoreTask Nat := do
  changeRotation fun r => r.activate key none
  sweep key

/-- A clear enters the slot of each signal and wipes it. -/
theorem clearSignal_eq (directory : Path) (signal : Signal) :
    clearSignal directory signal =
      (do enter ⟨directory, signal⟩ false; wipe ⟨directory, signal⟩) := rfl

end Store

open Store

/-- Does something under a key that is leased. -/
def Use.task (key : SlotKey) : Use → StoreTask Answer
  | path => do pure (.path (← activePath key))
  | rotate => do pure (.path (← Store.rotate key))
  | clear => do pure (.count (← wipe key))

namespace Hall

/-- The hall of a new rotation. -/
def opened (files : FileTree) (clock : Clock) : Hall := ⟨{ files, clock }, [], []⟩

/-- Changes a petition. -/
def amend (h : Hall) (i : Nat) (step : Petition → Petition) : Hall :=
  { h with petitions := h.petitions.modify i step }

/-- A petition that has come that far. -/
def petition? (h : Hall) (i : Nat) (standing : Standing) : Option Petition :=
  h.petitions[i]?.filter fun p => p.standing = standing

/-- The number of the slot that a key leads to; a slot that is new has a new number. -/
def slotOf (h : Hall) (key : SlotKey) : Nat := (h.table.lookup key.id).getD h.petitions.length

/-- Lets somebody wait who has found a slot. -/
def enroll (h : Hall) (key : SlotKey) (cancelled : Bool) : Hall :=
  { h with
    table := (key.id, h.slotOf key) :: h.table
    petitions := h.petitions ++ [⟨key, h.slotOf key, cancelled, .waiting⟩] }

/-- Makes a move. A petition that has not come that far, or has come too far, cannot be used. -/
def step (h : Hall) : Move → Notice × Hall
  | .ask key cancelled =>
    match (request key h.store).value with
    | (.error error, store) => (.failed error, { h with store })
    | (.ok (), store) => (.waits, { h with store }.enroll key cancelled)
  | .cancel i => (.done, h.amend i fun p => { p with cancelled := true })
  | .attempt i =>
    match h.petition? i .waiting with
    | none => (.done, h)
    | some p =>
      match (acquire p.key p.cancelled h.store).value with
      | (.error error, store) =>
        (.failed error, { h with store }.amend i fun p => { p with standing := .over })
      | (.ok false, store) => (.waits, { h with store })
      | (.ok true, store) =>
        (.leased (store.rotation.active? p.key),
          { h with store }.amend i fun p => { p with standing := .holding })
  | .use i use =>
    match h.petition? i .holding with
    | none => (.done, h)
    | some p =>
      match (use.task p.key h.store).value with
      | (.error error, store) => (.failed error, { h with store })
      | (.ok answer, store) => (.used answer, { h with store })
  | .release i =>
    match h.petition? i .holding with
    | none => (.done, h)
    | some p =>
      (.done, { h with store := (release p.key h.store).value.2 }.amend i
        fun p => { p with standing := .over })
  | .shutDown => (.done, { h with store := (Store.shutDown h.store).value.2, table := [] })

/-- The hall after some moves. -/
def after (h : Hall) (moves : List Move) : Hall := moves.foldl (fun h move => (h.step move).2) h

/-- Whether a petition holds the lease of a key, or of another one with the same slot. -/
def Holds (h : Hall) (key : SlotKey) (i : Nat) : Prop :=
  ∃ p, h.petitions[i]? = some p ∧ p.key.id = key.id ∧ p.standing = .holding

end Hall

/-! ## What a move can do -/

/-- Work under a key: no slot is leased or given back by it, no other slot gets another active path,
and nothing is closed. -/
structure Rotation.Under (key : SlotKey) (r r' : Rotation) : Prop where
  leased : ∀ key', (r'.slot key').leased = (r.slot key').leased
  active : ∀ key', key'.id ≠ key.id → r'.active? key' = r.active? key'
  closed : r'.closed = r.closed

namespace Rotation

variable {r r' : Rotation} {key : SlotKey}

/-- The slot of a key is that of all keys that lead to it. -/
theorem slot_eq_of_id {key' : SlotKey} (r : Rotation) (h : key.id = key'.id) :
    r.slot key = r.slot key' := by
  rw [slot, slot, h]

protected theorem Under.refl (key : SlotKey) (r : Rotation) : r.Under key r :=
  ⟨fun _ => rfl, fun _ _ => rfl, rfl⟩

/-- Whatever is made active for a key, the other keys keep what they had. -/
theorem Under.activate (h : r.Under key r') (path : Option Path) :
    r.Under key (r'.activate key path) where
  leased key' := by
    rw [Rotation.activate, slot_set]
    split
    · next hk =>
      rw [← r.slot_eq_of_id hk.symm]
      exact h.leased key
    · exact h.leased key'
  active key' hk := by
    rw [active?_activate, if_neg hk]
    exact h.active key' hk
  closed := h.closed

/-- Marking a slot changes no active path. -/
theorem active?_mark (r : Rotation) (key key' : SlotKey) (leased : Bool) :
    (r.mark key leased).active? key' = r.active? key' := by
  rw [active?, mark, slot_set]
  split
  · next hk => exact r.active?_eq_of_id hk.symm
  · rfl

/-- Marking a slot tells the slots of one key from those of the others. -/
theorem leased_mark (r : Rotation) (key key' : SlotKey) (leased : Bool) :
    ((r.mark key leased).slot key').leased =
      if key'.id = key.id then leased else (r.slot key').leased := by
  rw [mark, slot_set]
  split <;> rfl

/-- Opening a slot changes none. -/
theorem slot_of_open? (h : r.open? key = .ok r') (key' : SlotKey) :
    r'.slot key' = r.slot key' := by
  unfold open? at h
  split at h
  · cases h
  · split at h
    · cases h
    · rw [← Except.ok.inj h, slot_set]
      split
      · next hk => exact r.slot_eq_of_id hk.symm
      · rfl

/-- Slots are handed out before the shutdown, which opening one does not undo. -/
theorem closed_of_open? (h : r.open? key = .ok r') :
    r.closed = false ∧ r'.closed = false := by
  unfold open? at h
  split at h
  · cases h
  · split at h
    · cases h
    · next hc =>
      rw [← Except.ok.inj h]
      exact ⟨Bool.eq_false_iff.2 hc, Bool.eq_false_iff.2 hc⟩

end Rotation

namespace Store

variable {s s' : Store} {key : SlotKey} {r : Rotation}

theorem maintains_activate_under (path : Option Path) :
    (changeRotation fun r => r.activate key path).Maintains (fun s => r.Under key s.rotation)
      fun _ => True :=
  Task.maintains_change fun _ h => h.activate path

/-- A clear under a lease touches the slot of its own key only. -/
theorem maintains_wipe :
    (wipe key).Maintains (fun s => r.Under key s.rotation) fun _ => True := by
  refine Task.respects_bind (maintains_activate_under none) fun _ _ => ?_
  refine Task.respects_bind (Task.maintains_read _) fun listed _ => ?_
  refine Task.respects_bind (P := fun _ => True) (Task.respects_ofExcept fun _ _ => trivial)
    fun paths _ => ?_
  refine Task.maintains_iff.2 fun s outcome s' h he => ⟨?_, fun _ _ => trivial⟩
  rw [(Lost.of_removeAll he).1]
  exact h

/-- So does the request for the active path. -/
theorem maintains_activePath_under :
    (activePath key).Maintains (fun s => r.Under key s.rotation) fun _ => True := by
  refine Task.respects_bind (Task.maintains_read _) fun active _ => ?_
  cases active with
  | some base => exact Task.respects_pure trivial
  | none =>
    have hcreate : (createDirectories key.directory).Maintains
        (fun s => r.Under key s.rotation) fun _ => True :=
      Task.maintains_iff.2 fun s outcome s' h he =>
        ⟨(ends_createDirectories_iff.1 he).2 ▸ h, fun _ _ => trivial⟩
    have hread : takeReading.Maintains (fun s => r.Under key s.rotation) fun _ => True :=
      Task.maintains_iff.2 fun s outcome s' h he => ⟨(Prod.mk.inj he).2 ▸ h, fun _ _ => trivial⟩
    refine Task.respects_bind hcreate fun _ _ => ?_
    refine Task.respects_bind hread fun time _ => ?_
    refine Task.respects_bind (Task.respects_report _ _ _) fun _ _ => ?_
    refine Task.respects_bind (maintains_activate_under _) fun _ _ => ?_
    exact Task.respects_pure trivial

/-- Nothing that the holder of a lease does goes beyond its own key. -/
theorem maintains_use (use : Use) :
    (use.task key).Maintains (fun s => r.Under key s.rotation) fun _ => True := by
  cases use with
  | path =>
    exact Task.respects_bind maintains_activePath_under fun _ _ => Task.respects_pure trivial
  | rotate =>
    refine Task.maintains_iff.2 fun s outcome s' h he => ⟨?_, fun _ _ => trivial⟩
    rw [Use.task, Task.ends_bind_iff] at he
    simp only [ends_rotate_iff, Task.ends_pure_iff] at he
    rcases he with ⟨_, _, ⟨_, rfl⟩, _, rfl⟩ | ⟨_, ⟨ho, _⟩, _⟩
    · exact h.activate _
    · cases ho
  | clear => exact Task.respects_bind maintains_wipe fun _ _ => Task.respects_pure trivial

/-- A slot that is wiped has no active path, also if that fails. -/
theorem active?_wipe {outcome : Except SinkError Nat} (h : (wipe key).Ends s outcome s') :
    s'.rotation.active? key = none := by
  rw [wipe, ends_changeRotation_bind_iff, sweep, Task.ends_look_bind_iff, Task.ends_bind_iff] at h
  have hforgotten : (s.rotation.activate key none).active? key = none := by
    rw [Rotation.active?_activate, if_pos rfl]
  rcases h with ⟨paths, _, hl, hr⟩ | ⟨_, hl, -⟩
  · obtain ⟨-, rfl⟩ := Task.ends_ofExcept_iff.1 hl
    rw [(Lost.of_removeAll hr).1]
    exact hforgotten
  · obtain ⟨-, rfl⟩ := Task.ends_ofExcept_iff.1 hl
    exact hforgotten

/-- After a clear nothing is active for its key. -/
theorem active?_use_clear {outcome : Except SinkError Answer}
    (h : (Use.clear.task key).Ends s outcome s') : s'.rotation.active? key = none := by
  rw [Use.task, Task.ends_bind_iff] at h
  rcases h with ⟨_, _, hs, hp⟩ | ⟨_, hs, -⟩
  · rw [(Task.ends_pure_iff.1 hp).2]
    exact active?_wipe hs
  · exact active?_wipe hs

end Store

namespace Hall

variable {h h' : Hall} {key : SlotKey} {i j : Nat} {p : Petition}

/-- What a move comes to. -/
inductive Turn (h : Hall) : Move → Notice → Hall → Prop
  | refused {key : SlotKey} {cancelled : Bool} {error : SinkError} :
      Turn h (.ask key cancelled) (.failed error) h
  | asked {key : SlotKey} {cancelled : Bool} {r : Rotation} :
      h.store.rotation.closed = false → r.closed = false →
      (∀ key', r.slot key' = h.store.rotation.slot key') →
      Turn h (.ask key cancelled) .waits
        ({ h with store := { h.store with rotation := r } }.enroll key cancelled)
  | cancelled {i : Nat} : Turn h (.cancel i) .done (h.amend i fun p => { p with cancelled := true })
  | idle {move : Move} : Turn h move .done h
  | withdrawn {i : Nat} {p : Petition} : h.petitions[i]? = some p → p.standing = .waiting →
      p.cancelled = true →
      Turn h (.attempt i) (.failed .cancelled) (h.amend i fun p => { p with standing := .over })
  | waits {i : Nat} {p : Petition} : h.petitions[i]? = some p → p.standing = .waiting →
      p.cancelled = false → (h.store.rotation.slot p.key).leased = true →
      Turn h (.attempt i) .waits h
  | leased {i : Nat} {p : Petition} : h.petitions[i]? = some p → p.standing = .waiting →
      p.cancelled = false → (h.store.rotation.slot p.key).leased = false →
      Turn h (.attempt i) (.leased (h.store.rotation.active? p.key))
        ({ h with
          store := { h.store with rotation := h.store.rotation.mark p.key true } }.amend i
            fun p => { p with standing := .holding })
  | used {i : Nat} {use : Use} {p : Petition} {notice : Notice} {store : Store} :
      h.petitions[i]? = some p → p.standing = .holding →
      h.store.rotation.Under p.key store.rotation →
      (use = .clear → store.rotation.active? p.key = none) →
      Turn h (.use i use) notice { h with store }
  | released {i : Nat} {p : Petition} : h.petitions[i]? = some p → p.standing = .holding →
      Turn h (.release i) .done
        ({ h with
          store := { h.store with rotation := h.store.rotation.mark p.key false } }.amend i
            fun p => { p with standing := .over })
  | shutDown :
      Turn h .shutDown .done
        { h with store := { h.store with rotation := h.store.rotation.close }, table := [] }

/-- A petition is found by its number and where it stands. -/
theorem petition?_eq_some_iff {standing : Standing} :
    h.petition? i standing = some p ↔ h.petitions[i]? = some p ∧ p.standing = standing := by
  rw [petition?, Option.filter_eq_some_iff, decide_eq_true_iff]

/-- Asking for a slot fails and does nothing, or it finds all slots as they are. -/
theorem request_value (key : SlotKey) (s : Store) :
    (∃ error, s.rotation.open? key = .error error ∧
      (request key s).value = (.error error, s)) ∨
    ∃ r, s.rotation.open? key = .ok r ∧
      (request key s).value = (.ok (), { s with rotation := r }) := by
  cases ho : s.rotation.open? key with
  | error error => exact .inl ⟨error, rfl, by simp only [request, ho]⟩
  | ok r => exact .inr ⟨r, rfl, by simp only [request, ho]⟩

/-- A cancelled request is told so first, whether the lock is free or not. -/
theorem acquire_value (key : SlotKey) (cancelled : Bool) (s : Store) :
    (acquire key cancelled s).value =
      if cancelled then (.error .cancelled, s)
      else if (s.rotation.slot key).leased then (.ok false, s)
      else (.ok true, { s with rotation := s.rotation.mark key true }) := by
  cases cancelled with
  | true => rfl
  | false =>
    have hlook : (acquire key false s).value =
        ((if (s.rotation.slot key).leased then pure false
          else do
            changeRotation fun r => r.mark key true
            pure true : StoreTask Bool) s).value := rfl
    rw [hlook]
    cases (s.rotation.slot key).leased <;> rfl

/-- What becomes of an attempt of a petition that waits. -/
theorem step_attempt (hp : h.petitions[i]? = some p) (hs : p.standing = .waiting) :
    h.step (.attempt i) =
      if p.cancelled then (.failed .cancelled, h.amend i fun p => { p with standing := .over })
      else if (h.store.rotation.slot p.key).leased then (.waits, h)
      else (.leased (h.store.rotation.active? p.key),
        { h with
          store := { h.store with rotation := h.store.rotation.mark p.key true } }.amend i
            fun p => { p with standing := .holding }) := by
  rw [step, petition?_eq_some_iff.2 ⟨hp, hs⟩]
  dsimp only
  rw [acquire_value]
  cases p.cancelled with
  | true => rfl
  | false =>
    cases (h.store.rotation.slot p.key).leased with
    | true => rfl
    | false =>
      rw [← h.store.rotation.active?_mark p.key p.key true]
      rfl

/-- What a step does is one of the turns. -/
theorem turn_step (h : Hall) (move : Move) : h.Turn move (h.step move).1 (h.step move).2 := by
  cases move with
  | ask key cancelled =>
    rcases request_value key h.store with ⟨error, -, hv⟩ | ⟨r, ho, hv⟩
    · rw [step, hv]
      exact .refused
    · rw [step, hv]
      obtain ⟨hbefore, hafter⟩ := Rotation.closed_of_open? ho
      exact .asked hbefore hafter (Rotation.slot_of_open? ho)
  | cancel i => exact .cancelled
  | attempt i =>
    cases hp : h.petition? i .waiting with
    | none =>
      rw [step, hp]
      exact .idle
    | some p =>
      obtain ⟨hget, hwaiting⟩ := petition?_eq_some_iff.1 hp
      rw [step_attempt hget hwaiting]
      cases hc : p.cancelled with
      | true => exact .withdrawn hget hwaiting hc
      | false =>
        cases hl : (h.store.rotation.slot p.key).leased with
        | true => exact .waits hget hwaiting hc hl
        | false => exact .leased hget hwaiting hc hl
  | use i use =>
    cases hp : h.petition? i .holding with
    | none =>
      rw [step, hp]
      exact .idle
    | some p =>
      obtain ⟨hget, hholding⟩ := petition?_eq_some_iff.1 hp
      have hends := Task.ends_self (use.task p.key) h.store
      have hunder := (Task.maintains_iff.1 (maintains_use use) h.store _ _
        (Rotation.Under.refl p.key h.store.rotation) hends).1
      have hclear : use = .clear →
          (use.task p.key h.store).value.2.rotation.active? p.key = none := by
        rintro rfl
        exact active?_use_clear hends
      rw [step, hp]
      dsimp only
      rcases hv : (use.task p.key h.store).value with ⟨outcome, store⟩
      rw [hv] at hunder hclear
      cases outcome with
      | error error => exact .used hget hholding hunder hclear
      | ok answer => exact .used hget hholding hunder hclear
  | release i =>
    cases hp : h.petition? i .holding with
    | none =>
      rw [step, hp]
      exact .idle
    | some p =>
      obtain ⟨hget, hholding⟩ := petition?_eq_some_iff.1 hp
      rw [step, hp]
      exact .released hget hholding
  | shutDown => exact .shutDown

/-! ## What holds in every hall -/

/-- Amending one petition leaves the others. -/
theorem getElem?_amend (h : Hall) (i j : Nat) (step : Petition → Petition) :
    (h.amend i step).petitions[j]? =
      if i = j then (h.petitions[j]?).map step else h.petitions[j]? := by
  rw [amend, List.getElem?_modify]
  split <;> simp

/-- Only the petition whose standing is changed can become a holder, or cease to be one. -/
theorem holds_amend_iff (hp : h.petitions[i]? = some p) (standing : Standing) :
    (h.amend i fun p => { p with standing }).Holds key j ↔
      if i = j then p.key.id = key.id ∧ standing = .holding else h.Holds key j := by
  unfold Holds
  rw [getElem?_amend]
  by_cases hij : i = j
  · subst hij
    simp only [if_true, hp, Option.map_some, Option.some.injEq, exists_eq_left']
  · simp only [hij, if_false]

/-- Whoever holds a lease keeps it when its token is cancelled. -/
theorem holds_cancel_iff :
    (h.amend i fun p => { p with cancelled := true }).Holds key j ↔ h.Holds key j := by
  unfold Holds
  rw [getElem?_amend]
  by_cases hij : i = j
  · subst hij
    cases h.petitions[i]? <;> simp
  · simp only [hij, if_false]

/-- Who stands elsewhere holds nothing. -/
theorem not_holds_of_standing (hp : h.petitions[i]? = some p) (hs : p.standing ≠ .holding) :
    ¬ h.Holds key i := by
  rintro ⟨q, hq, -, hq'⟩
  obtain rfl := Option.some.inj (hp.symm.trans hq)
  exact hs hq'

/-- A petition that gets a lease is one holder more. -/
theorem holds_granted_iff (hp : h.petitions[i]? = some p) (hs : p.standing = .waiting) :
    (h.amend i fun p => { p with standing := .holding }).Holds key j ↔
      (i = j ∧ p.key.id = key.id) ∨ h.Holds key j := by
  rw [holds_amend_iff hp]
  split
  · next hij =>
    subst hij
    have hnot : ¬ h.Holds key i := not_holds_of_standing hp (by rw [hs]; decide)
    simp [hnot]
  · next hij => simp [hij]

/-- A petition that is over holds nothing. -/
theorem holds_over_iff (hp : h.petitions[i]? = some p) :
    (h.amend i fun p => { p with standing := .over }).Holds key j ↔ i ≠ j ∧ h.Holds key j := by
  rw [holds_amend_iff hp]
  split
  · next hij => simp [hij]
  · next hij => simp [hij]

/-- A request that has just found its slot holds nothing. -/
theorem holds_enroll_iff {cancelled : Bool} {key' : SlotKey} :
    (h.enroll key' cancelled).Holds key j ↔ h.Holds key j := by
  unfold Holds enroll
  constructor
  · rintro ⟨p, hp, hk, hs⟩
    rw [List.getElem?_append] at hp
    split at hp
    · exact ⟨p, hp, hk, hs⟩
    · rw [List.getElem?_singleton] at hp
      split at hp
      · rw [← Option.some.inj hp] at hs
        cases hs
      · cases hp
  · rintro ⟨p, hp, hk, hs⟩
    have hj := (List.getElem?_eq_some_iff.1 hp).1
    exact ⟨p, by rw [List.getElem?_append_left hj]; exact hp, hk, hs⟩

/-- A petition is about one slot. -/
theorem Holds.id_unique {key' : SlotKey} (hi : h.Holds key i) (hi' : h.Holds key' i) :
    key.id = key'.id := by
  obtain ⟨p, hp, hk, -⟩ := hi
  obtain ⟨q, hq, hk', -⟩ := hi'
  obtain rfl := Option.some.inj (hp.symm.trans hq)
  exact hk.symm.trans hk'

/-- Whoever holds the lease of a key holds it for all keys of the slot. -/
theorem Holds.of_id {key' : SlotKey} (hi : h.Holds key i) (hk : key.id = key'.id) :
    h.Holds key' i := by
  obtain ⟨p, hp, hid, hs⟩ := hi
  exact ⟨p, hp, hid.trans hk, hs⟩

/-- A slot is leased if it has a holder, and it has one at most. -/
structure Exclusive (h : Hall) : Prop where
  leased : ∀ key, (h.store.rotation.slot key).leased = true ↔ ∃ i, h.Holds key i
  unique : ∀ key i j, h.Holds key i → h.Holds key j → i = j

/-- Halls with the same holders and the same leased slots. -/
theorem Exclusive.congr (he : h.Exclusive) (hh : ∀ key i, h'.Holds key i ↔ h.Holds key i)
    (hl : ∀ key, (h'.store.rotation.slot key).leased = (h.store.rotation.slot key).leased) :
    h'.Exclusive where
  leased key := by
    rw [hl, he.leased]
    simp only [hh]
  unique key i j hi hj := he.unique key i j ((hh key i).1 hi) ((hh key j).1 hj)

/-- A slot that is not leased can be leased to one petition. -/
theorem Exclusive.grant (he : h.Exclusive) (hfree : (h.store.rotation.slot key).leased = false)
    (hh : ∀ key' j, h'.Holds key' j ↔ (i = j ∧ key.id = key'.id) ∨ h.Holds key' j)
    (hl : ∀ key', (h'.store.rotation.slot key').leased =
      if key'.id = key.id then true else (h.store.rotation.slot key').leased) :
    h'.Exclusive := by
  have hnobody : ∀ j, ¬ h.Holds key j := fun j hj => by
    rw [(he.leased key).2 ⟨j, hj⟩] at hfree
    cases hfree
  refine ⟨fun key' => ?_, fun key' j k hj hk => ?_⟩
  · rw [hl]
    simp only [hh]
    split
    · next hkey => exact iff_of_true rfl ⟨i, .inl ⟨rfl, hkey.symm⟩⟩
    · next hkey =>
      rw [he.leased]
      refine exists_congr fun j => ⟨.inr, fun hj => hj.resolve_left ?_⟩
      exact fun hi => hkey hi.2.symm
  · rcases (hh key' j).1 hj with ⟨rfl, hid⟩ | hj
    · rcases (hh key' k).1 hk with ⟨rfl, -⟩ | hk
      · rfl
      · exact absurd (hk.of_id hid.symm) (hnobody k)
    · rcases (hh key' k).1 hk with ⟨rfl, hid⟩ | hk
      · exact absurd (hj.of_id hid.symm) (hnobody j)
      · exact he.unique key' j k hj hk

/-- The holder of a lease can give it back. -/
theorem Exclusive.giveBack (he : h.Exclusive) (hi : h.Holds key i)
    (hh : ∀ key' j, h'.Holds key' j ↔ i ≠ j ∧ h.Holds key' j)
    (hl : ∀ key', (h'.store.rotation.slot key').leased =
      if key'.id = key.id then false else (h.store.rotation.slot key').leased) :
    h'.Exclusive := by
  refine ⟨fun key' => ?_, fun key' j k hj hk => ?_⟩
  · rw [hl]
    simp only [hh]
    split
    · next hkey =>
      refine iff_of_false (by simp) ?_
      rintro ⟨j, hij, hj⟩
      exact hij (he.unique key i j hi (hj.of_id hkey))
    · next hkey =>
      rw [he.leased]
      refine exists_congr fun j => ⟨fun hj => ⟨?_, hj⟩, And.right⟩
      rintro rfl
      exact hkey (hj.id_unique hi)
  · exact he.unique key' j k ((hh key' j).1 hj).2 ((hh key' k).1 hk).2

/-- No turn makes two hold a lease of one key. -/
theorem Exclusive.turn (he : h.Exclusive) {move : Move} {notice : Notice}
    (ht : h.Turn move notice h') : h'.Exclusive := by
  cases ht with
  | refused => exact he
  | asked _ _ hr =>
    exact he.congr (fun _ _ => holds_enroll_iff) fun key => congrArg Slot.leased (hr key)
  | cancelled => exact he.congr (fun _ _ => holds_cancel_iff) fun _ => rfl
  | idle => exact he
  | @withdrawn i p hp hs _ =>
    refine he.congr (fun key j => ?_) fun _ => rfl
    rw [holds_over_iff hp, and_iff_right_iff_imp]
    rintro hj rfl
    exact not_holds_of_standing hp (by rw [hs]; decide) hj
  | waits => exact he
  | leased hp hs _ hfree =>
    exact he.grant hfree (fun _ _ => holds_granted_iff hp hs) fun key =>
      Rotation.leased_mark _ _ key true
  | used _ _ hu _ => exact he.congr (fun _ _ => Iff.rfl) hu.leased
  | released hp hs =>
    exact he.giveBack ⟨_, hp, rfl, hs⟩ (fun _ _ => holds_over_iff hp) fun key =>
      Rotation.leased_mark _ _ key false
  | shutDown => exact he.congr (fun _ _ => Iff.rfl) fun _ => rfl

/-! ### One slot for each key -/

/-- What the petitions have asked for, with the numbers of the slots that they have found. -/
def filed (h : Hall) : List (SlotId × Nat) := h.petitions.map fun p => (p.key.id, p.slot)

/-- An amended petition stays filed under its key and slot. -/
theorem filed_amend (h : Hall) (i : Nat) {step : Petition → Petition}
    (hs : ∀ p, ((step p).key.id, (step p).slot) = (p.key.id, p.slot)) :
    (h.amend i step).filed = h.filed := by
  refine List.ext_getElem? fun j => ?_
  rw [filed, filed, List.getElem?_map, List.getElem?_map, getElem?_amend]
  split
  · rw [Option.map_map]
    exact congrArg (fun f => (h.petitions[j]?).map f) (funext hs)
  · rfl

/-- A new petition is filed last, under the slot of its key. -/
theorem filed_enroll (h : Hall) (key : SlotKey) (cancelled : Bool) :
    (h.enroll key cancelled).filed = h.filed ++ [(key.id, h.slotOf key)] := by
  rw [filed, enroll, List.map_append, filed]
  rfl

/-- Petitions have the same slot if their keys lead to the same, and the table knows these slots as
long as the rotation is open. -/
structure Filed (h : Hall) : Prop where
  one : ∀ id n id' n', (id, n) ∈ h.filed → (id', n') ∈ h.filed → (id = id' ↔ n = n')
  found : h.store.rotation.closed = false →
    ∀ id n, (id, n) ∈ h.filed → h.table.lookup id = some n
  known : ∀ id n, h.table.lookup id = some n → (id, n) ∈ h.filed
  old : ∀ id n, (id, n) ∈ h.filed → n < h.filed.length

/-- Filing depends on the petitions' keys and slots, the table and the closing only. -/
theorem Filed.congr (hf : h.Filed) (hfiled : h'.filed = h.filed) (ht : h'.table = h.table)
    (hc : h'.store.rotation.closed = h.store.rotation.closed) : h'.Filed := by
  constructor
  · rw [hfiled]
    exact hf.one
  · rw [hfiled, ht, hc]
    exact hf.found
  · rw [hfiled, ht]
    exact hf.known
  · rw [hfiled]
    exact hf.old

/-- The slot that a key leads to is the one that all petitions have which it was asked for, and no
others. -/
theorem Filed.slotOf_iff (hf : h.Filed) (hopen : h.store.rotation.closed = false)
    (key : SlotKey) (id : SlotId) (n : Nat) (hm : (id, n) ∈ h.filed) :
    id = key.id ↔ n = h.slotOf key := by
  have hlength : h.filed.length = h.petitions.length := List.length_map _
  cases hl : h.table.lookup key.id with
  | some m =>
    rw [slotOf, hl]
    exact hf.one id n key.id m hm (hf.known key.id m hl)
  | none =>
    -- The slot is a new one, so no petition has it, and none has asked for it.
    rw [slotOf, hl, Option.getD_none]
    refine iff_of_false ?_ ?_
    · rintro rfl
      rw [hf.found hopen key.id n hm] at hl
      cases hl
    · have hold := hf.old id n hm
      omega

/-- Slots are numbered by the petitions that made them, so they come before the next one. -/
theorem Filed.slotOf_lt (hf : h.Filed) (key : SlotKey) : h.slotOf key < h.filed.length + 1 := by
  have hlength : h.filed.length = h.petitions.length := List.length_map _
  cases hl : h.table.lookup key.id with
  | some m =>
    have hold := hf.old key.id m (hf.known key.id m hl)
    rw [slotOf, hl, Option.getD_some]
    omega
  | none =>
    rw [slotOf, hl, Option.getD_none]
    omega

/-- One petition more has the slot that was there, or a new one. -/
theorem Filed.enroll (hf : h.Filed) (hopen : h.store.rotation.closed = false) (key : SlotKey)
    (cancelled : Bool) : (h.enroll key cancelled).Filed := by
  have hmem : ∀ id n, (id, n) ∈ (h.enroll key cancelled).filed ↔
      (id, n) ∈ h.filed ∨ id = key.id ∧ n = h.slotOf key := by
    intro id n
    rw [filed_enroll, List.mem_append, List.mem_singleton, Prod.mk.injEq]
  have hlookup : ∀ id, (h.enroll key cancelled).table.lookup id =
      if id = key.id then some (h.slotOf key) else h.table.lookup id := by
    intro id
    rw [Hall.enroll, List.lookup_cons]
    by_cases hk : id = key.id
    · simp [hk]
    · have hne : (id == key.id) = false := by simpa using hk
      rw [hne, if_neg hk]
  constructor
  · intro a n b m ha hb
    rcases (hmem a n).1 ha with hold | ⟨rfl, rfl⟩
    · rcases (hmem b m).1 hb with hold' | ⟨rfl, rfl⟩
      · exact hf.one a n b m hold hold'
      · exact hf.slotOf_iff hopen key a n hold
    · rcases (hmem b m).1 hb with hold' | ⟨rfl, rfl⟩
      · rw [eq_comm, hf.slotOf_iff hopen key b m hold']
        exact eq_comm
      · exact iff_of_true rfl rfl
  · intro _ a n ha
    rw [hlookup]
    rcases (hmem a n).1 ha with ha | ⟨rfl, rfl⟩
    · split
      · next hk => rw [(hf.slotOf_iff hopen key a n ha).1 hk]
      · exact hf.found hopen a n ha
    · rw [if_pos rfl]
  · intro a n hl
    rw [hlookup] at hl
    rw [hmem]
    split at hl
    · next hk => exact .inr ⟨hk, (Option.some.inj hl).symm⟩
    · exact .inl (hf.known a n hl)
  · intro a n ha
    rw [filed_enroll, List.length_append, List.length_singleton]
    rcases (hmem a n).1 ha with ha | ⟨-, rfl⟩
    · exact Nat.lt_succ_of_lt (hf.old a n ha)
    · exact hf.slotOf_lt key

/-- Every turn files petitions of one key under one slot. -/
theorem Filed.turn (hf : h.Filed) {move : Move} {notice : Notice} (ht : h.Turn move notice h') :
    h'.Filed := by
  cases ht with
  | refused => exact hf
  | @asked key cancelled r hopen hr _ =>
    have hf' : ({ h with store := { h.store with rotation := r } } : Hall).Filed :=
      hf.congr rfl rfl (hr.trans hopen.symm)
    exact hf'.enroll hr key cancelled
  | cancelled => exact hf.congr (filed_amend _ _ fun _ => rfl) rfl rfl
  | idle => exact hf
  | withdrawn => exact hf.congr (filed_amend _ _ fun _ => rfl) rfl rfl
  | waits => exact hf
  | leased => exact hf.congr (filed_amend _ _ fun _ => rfl) rfl rfl
  | used _ _ hu _ => exact hf.congr rfl rfl hu.closed
  | released => exact hf.congr (filed_amend _ _ fun _ => rfl) rfl rfl
  | shutDown =>
    refine ⟨hf.one, fun hc => ?_, fun key n hl => ?_, hf.old⟩
    · cases hc
    · cases hl

/-- The invariants hold in every hall that moves lead to. -/
theorem exclusive_filed_after (he : h.Exclusive) (hf : h.Filed) (moves : List Move) :
    (h.after moves).Exclusive ∧ (h.after moves).Filed := by
  induction moves generalizing h with
  | nil => exact ⟨he, hf⟩
  | cons move moves ih => exact ih (he.turn (h.turn_step move)) (hf.turn (h.turn_step move))

/-- Nobody holds a lease at the start. -/
theorem exclusive_opened (files : FileTree) (clock : Clock) : (opened files clock).Exclusive := by
  have hnobody : ∀ key i, ¬ (opened files clock).Holds key i := by
    rintro key i ⟨p, hp, -⟩
    cases hp
  exact ⟨fun key => iff_of_false Bool.false_ne_true fun ⟨i, hi⟩ => hnobody key i hi,
    fun key i _ hi => absurd hi (hnobody key i)⟩

/-- Nothing is filed at the start. -/
theorem filed_opened (files : FileTree) (clock : Clock) : (opened files clock).Filed := by
  constructor
  · intro _ _ _ _ hm
    cases hm
  · intro _ _ _ hm
    cases hm
  · intro _ _ hl
    cases hl
  · intro _ _ hm
    cases hm

/-! ### Active paths -/

/-- Only the holder of a lease changes the active path of its key. -/
theorem Turn.active?_eq {move : Move} {notice : Notice} (ht : h.Turn move notice h')
    (hm : ∀ i use, move = .use i use → ¬ h.Holds key i) :
    h'.store.rotation.active? key = h.store.rotation.active? key := by
  cases ht with
  | asked _ _ hr => exact congrArg Slot.active (hr key)
  | leased => exact Rotation.active?_mark _ _ key true
  | @used i use p _ _ hp hs hu _ =>
    exact hu.active key fun hk => hm i use rfl ⟨p, hp, hk.symm, hs⟩
  | released => exact Rotation.active?_mark _ _ key false
  | _ => rfl

/-- A new lease sees the active path of its key. -/
theorem Turn.active_eq {active : Option Path} (ht : h.Turn (.attempt i) (.leased active) h') :
    ∃ p, h.petitions[i]? = some p ∧ active = h.store.rotation.active? p.key := by
  cases ht with
  | leased hp _ _ _ => exact ⟨_, hp, rfl⟩

/-- While nobody holds a key its active path stays the same. -/
theorem active?_after {moves : List Move}
    (hm : ∀ before, before <+: moves → ∀ j, ¬ (h.after before).Holds key j) :
    (h.after moves).store.rotation.active? key = h.store.rotation.active? key := by
  induction moves generalizing h with
  | nil => rfl
  | cons move moves ih =>
    have hfirst : ∀ j, ¬ h.Holds key j := hm [] List.nil_prefix
    have hrest : ∀ before, before <+: moves → ∀ j, ¬ ((h.step move).2.after before).Holds key j :=
      fun before hb => hm (move :: before) (List.cons_prefix_cons.2 ⟨rfl, hb⟩)
    exact (ih hrest).trans ((h.turn_step move).active?_eq fun i _ _ => hfirst i)

/-! ### Requests that come to nothing -/

/-- A petition that cannot get a lease any more. -/
def Barred (h : Hall) (i : Nat) : Prop :=
  ∃ p, h.petitions[i]? = some p ∧ (p.standing = .over ∨ p.standing = .waiting ∧ p.cancelled = true)

/-- Who is barred holds nothing. -/
theorem Barred.not_holds (hb : h.Barred i) : ¬ h.Holds key i := by
  obtain ⟨p, hp, hs⟩ := hb
  refine not_holds_of_standing hp ?_
  rcases hs with hs | ⟨hs, -⟩ <;> rw [hs] <;> decide

theorem Barred.amend (hb : h.Barred i) {step : Petition → Petition}
    (hs : ∀ p, i = j → h.petitions[i]? = some p →
      (p.standing = .over ∨ p.standing = .waiting ∧ p.cancelled = true) →
      ((step p).standing = .over ∨ (step p).standing = .waiting ∧ (step p).cancelled = true)) :
    (h.amend j step).Barred i := by
  obtain ⟨p, hp, hbar⟩ := hb
  unfold Barred
  rw [getElem?_amend]
  by_cases hij : j = i
  · rw [if_pos hij, hp]
    exact ⟨_, rfl, hs p hij.symm hp hbar⟩
  · rw [if_neg hij]
    exact ⟨p, hp, hbar⟩

/-- Who is barred stays so. -/
theorem Barred.turn (hb : h.Barred i) {move : Move} {notice : Notice} (ht : h.Turn move notice h') :
    h'.Barred i := by
  cases ht with
  | asked =>
    obtain ⟨p, hp, hbar⟩ := hb
    have hi := (List.getElem?_eq_some_iff.1 hp).1
    exact ⟨p, (List.getElem?_append_left hi).trans hp, hbar⟩
  | cancelled => exact hb.amend fun p _ _ hbar => hbar.imp_right fun hw => ⟨hw.1, rfl⟩
  | withdrawn => exact hb.amend fun _ _ _ _ => .inl rfl
  | @leased j q hq hs hc _ =>
    refine hb.amend fun p hij hp hbar => ?_
    subst hij
    obtain rfl := Option.some.inj (hp.symm.trans hq)
    rw [hs, hc] at hbar
    simp at hbar
  | released => exact hb.amend fun _ _ _ _ => .inl rfl
  | _ => exact hb

/-- Who is barred obtains no lease in any run. -/
theorem Barred.after (hb : h.Barred i) (moves : List Move) : (h.after moves).Barred i := by
  induction moves generalizing h with
  | nil => exact hb
  | cons move moves ih => exact ih (hb.turn (h.turn_step move))

/-- A closed rotation stays closed, and nobody finds a slot any more. -/
theorem Turn.of_closed {move : Move} {notice : Notice} (ht : h.Turn move notice h')
    (hc : h.store.rotation.closed = true) :
    h'.store.rotation.closed = true ∧ h'.petitions.length = h.petitions.length := by
  cases ht with
  | asked hopen =>
    rw [hopen] at hc
    cases hc
  | used _ _ hu _ => exact ⟨hu.closed.trans hc, rfl⟩
  | shutDown => exact ⟨rfl, rfl⟩
  | refused => exact ⟨hc, rfl⟩
  | idle => exact ⟨hc, rfl⟩
  | waits => exact ⟨hc, rfl⟩
  | _ => exact ⟨hc, List.length_modify ..⟩

/-- After the shutdown nobody is enrolled any more. -/
theorem after_of_closed (hc : h.store.rotation.closed = true) (moves : List Move) :
    (h.after moves).store.rotation.closed = true ∧
      (h.after moves).petitions.length = h.petitions.length := by
  induction moves generalizing h with
  | nil => exact ⟨hc, rfl⟩
  | cons move moves ih =>
    obtain ⟨hc', hl⟩ := (h.turn_step move).of_closed hc
    obtain ⟨hclosed, hlength⟩ := ih hc'
    exact ⟨hclosed, hlength.trans hl⟩

/-- Asking after the shutdown is refused. -/
theorem step_ask_of_closed (hc : h.store.rotation.closed = true) (key : SlotKey)
    (cancelled : Bool) :
    h.step (.ask key cancelled) = (.failed (Command.noSlot key.signal), h) := by
  rcases request_value key h.store with ⟨error, ho, hv⟩ | ⟨r, ho, -⟩
  · rw [Command.open?_of_closed hc] at ho
    rw [step, hv, Except.error.inj ho]
  · rw [Command.open?_of_closed hc] at ho
    cases ho

/-! ## Leases -/

/-- An attempt at a free lock is granted, with the path that was left active. -/
theorem Exclusive.step_attempt_free (he : h.Exclusive) (hp : h.petitions[i]? = some p)
    (hs : p.standing = .waiting) (hc : p.cancelled = false) (hfree : ∀ j, ¬ h.Holds p.key j) :
    (h.step (.attempt i)).1 = .leased (h.store.rotation.active? p.key) ∧
      (h.step (.attempt i)).2.Holds p.key i := by
  have hl : (h.store.rotation.slot p.key).leased = false := by
    rw [Bool.eq_false_iff, ne_eq, he.leased]
    exact fun ⟨j, hj⟩ => hfree j hj
  rw [step_attempt hp hs, hc, hl]
  exact ⟨rfl, (holds_granted_iff hp hs).2 (.inl ⟨rfl, rfl⟩)⟩

/-- An attempt at a lock that is held waits and changes nothing. -/
theorem Exclusive.step_attempt_taken (he : h.Exclusive) (hp : h.petitions[i]? = some p)
    (hs : p.standing = .waiting) (hc : p.cancelled = false) (htaken : ∃ j, h.Holds p.key j) :
    h.step (.attempt i) = (.waits, h) := by
  rw [step_attempt hp hs, hc, (he.leased p.key).2 htaken]
  rfl

/-- What a new lease sees is what was left when the last one was given back. -/
theorem active_of_leased {moves : List Move}
    (hm : ∀ before, before <+: moves →
      ∀ j, ¬ ((h.step (.release i)).2.after before).Holds key j) {active : Option Path}
    (hp : ((h.step (.release i)).2.after moves).petitions[j]? = some p) (hk : p.key.id = key.id)
    (hr : (((h.step (.release i)).2.after moves).step (.attempt j)).1 = .leased active) :
    active = h.store.rotation.active? key := by
  have hleft : (h.step (.release i)).2.store.rotation.active? key =
      h.store.rotation.active? key :=
    (h.turn_step (.release i)).active?_eq fun _ _ he => by cases he
  have hturn := turn_step ((h.step (.release i)).2.after moves) (.attempt j)
  rw [hr] at hturn
  obtain ⟨q, hq, rfl⟩ := hturn.active_eq
  obtain rfl := Option.some.inj (hp.symm.trans hq)
  rw [Rotation.active?_eq_of_id _ hk, active?_after hm, hleft]

/-- A clear under a lease forgets the path of its key. -/
theorem active?_step_clear (hi : h.Holds key i) :
    (h.step (.use i .clear)).2.store.rotation.active? key = none := by
  obtain ⟨p, hp, hk, hs⟩ := hi
  have hnone := active?_use_clear (Task.ends_self (Use.clear.task p.key) h.store)
  rw [Rotation.active?_eq_of_id _ hk] at hnone
  rw [step, petition?_eq_some_iff.2 ⟨hp, hs⟩]
  dsimp only
  rcases hv : (Use.clear.task p.key h.store).value with ⟨outcome, store⟩
  rw [hv] at hnone
  cases outcome <;> exact hnone

/-- What the leases of a hall are good for. -/
structure Leases (h : Hall) : Prop where
  /-- There is one lease of a slot at most, with whatever keys it was asked for. -/
  exclusive : ∀ key i j, h.Holds key i → h.Holds key j → i = j
  /-- All who have asked for the same directory and signal have found the same slot, and nobody else
  has. -/
  one_slot : ∀ p ∈ h.petitions, ∀ q ∈ h.petitions, p.key.id = q.key.id ↔ p.slot = q.slot
  /-- A petition that was not cancelled gets the lease if there is none, and waits otherwise. -/
  granted : ∀ i p, h.petitions[i]? = some p → p.standing = .waiting → p.cancelled = false →
    ((∀ j, ¬ h.Holds p.key j) →
      (h.step (.attempt i)).1 = .leased (h.store.rotation.active? p.key) ∧
        (h.step (.attempt i)).2.Holds p.key i) ∧
    ((∃ j, h.Holds p.key j) → h.step (.attempt i) = (.waits, h))
  /-- Nothing but the work of its holder changes the active path of a key. -/
  active : ∀ key move, (∀ i use, move = .use i use → ¬ h.Holds key i) →
    (h.step move).2.store.rotation.active? key = h.store.rotation.active? key
  /-- The next lease sees the active path that its holder has left when the last one was given
  back. -/
  handover : ∀ key i, h.Holds key i → ∀ moves,
    let left := (h.step (.release i)).2
    (∀ before, before <+: moves → ∀ j, ¬ (left.after before).Holds key j) →
    ∀ j p active, (left.after moves).petitions[j]? = some p → p.key.id = key.id →
      ((left.after moves).step (.attempt j)).1 = .leased active →
      active = h.store.rotation.active? key
  /-- A clear leaves no active path. -/
  forgets : ∀ key i, h.Holds key i →
    (h.step (.use i .clear)).2.store.rotation.active? key = none
  /-- A petition that is cancelled while it waits is told so when it tries to get the lease, which
  changes nothing in the store, and it never holds one. -/
  cancelled : ∀ i p, h.petitions[i]? = some p → p.standing = .waiting → p.cancelled = true →
    (h.step (.attempt i)).1 = .failed .cancelled ∧ (h.step (.attempt i)).2.store = h.store ∧
      ∀ moves key, ¬ (h.after moves).Holds key i
  /-- Whoever asks for a slot after the rotation has been shut down is refused, and no petition is
  added to those that wait or hold a lease. -/
  refused : ∀ moves key cancelled,
    let later := h.after (.shutDown :: moves)
    later.step (.ask key cancelled) = (.failed (Command.noSlot key.signal), later) ∧
      later.petitions.length = h.petitions.length

/-- Leases are good in every hall that moves lead to, whatever the order of the moves. -/
theorem leases_after (files : FileTree) (clock : Clock) (moves : List Move) :
    ((opened files clock).after moves).Leases := by
  obtain ⟨he, hf⟩ := exclusive_filed_after (exclusive_opened files clock)
    (filed_opened files clock) moves
  generalize (opened files clock).after moves = h at he hf
  constructor
  · exact he.unique
  · intro p hp q hq
    exact hf.one _ _ _ _ (List.mem_map_of_mem hp) (List.mem_map_of_mem hq)
  · exact fun i p hp hs hc => ⟨he.step_attempt_free hp hs hc, he.step_attempt_taken hp hs hc⟩
  · exact fun key move hm => (h.turn_step move).active?_eq hm
  · exact fun key i _ moves hm j p active hp hk hr => active_of_leased hm hp hk hr
  · exact fun key i hi => active?_step_clear hi
  · intro i p hp hs hc
    have hbarred : h.Barred i := ⟨p, hp, .inr ⟨hs, hc⟩⟩
    rw [step_attempt hp hs, if_pos hc]
    exact ⟨rfl, rfl, fun moves key => (hbarred.after moves).not_holds⟩
  · intro moves key cancelled later
    obtain ⟨hclosed, hlength⟩ := after_of_closed (h := (h.step .shutDown).2) rfl moves
    exact ⟨step_ask_of_closed hclosed key cancelled, hlength⟩

/-- A petition is cancelled although the lease has been given back, and the next one gets it. -/
example :
    let key : SlotKey := ⟨"out", .logs⟩
    (((opened {} (.still .epoch)).after [.ask key false, .ask key false, .attempt 0, .attempt 1,
      .release 0, .cancel 1, .ask key false, .shutDown, .attempt 1, .attempt 2]).petitions.map
        (·.standing)) = [.over, .over, .holding] := by
  decide +kernel

/-- However a directory is written, there is one lease of it at most. -/
example :
    (((opened {} (.still .epoch)).after [.ask ⟨"out", .logs⟩ false, .ask ⟨"out/.", .logs⟩ false,
      .attempt 0, .attempt 1]).petitions.map (·.standing)) = [.holding, .waiting] := by
  decide +kernel

end Hall

end TelemetrySpool
