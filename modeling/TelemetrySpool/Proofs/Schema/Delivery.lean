import TelemetrySpool.Proofs.Schema.Carriage
import TelemetrySpool.Proofs.Schema.Content

/-!
# Messages in binary fields

A message is read back from its binary form if its schema is carried: the formats of its fields and
alternatives are, their numbers do not repeat, and they do not depend on each other. The binary form
has the fields in the order of their numbers, which need not be the order of the schema. So a
message that is being read is followed by the numbers that are left: each field with such a number
is still initial, and all the others are as they were written.
-/

namespace TelemetrySpool

open Json (Affordable depth)
open Wire (wordLimit)

variable {μ : Type} {levels cost : Nat}

/-- Whether numbers can be those of the fields of one message. -/
def Wire.Numbering (numbers : List Nat) : Prop :=
  numbers.Nodup ∧ ∀ n ∈ numbers, 0 < n ∧ n < Wire.numberLimit

instance (numbers : List Nat) : Decidable (Wire.Numbering numbers) :=
  inferInstanceAs (Decidable (_ ∧ _))

/-- The numbers of the fields and of the alternatives. -/
def Schema.numbers (s : Schema μ) : List Nat :=
  s.fields.map (·.number) ++ s.alternatives.map (·.number)

/-- A field that is carried, and has a place of its own. -/
structure Field.Carried (s : Schema μ) (levels cost : Nat) (f : Field μ) : Prop where
  format : ∃ c, f.format.Carried levels c ∧ c ≤ cost + 3
  owns : ∃ i, f.Owns s i

namespace Field.Carried

variable {s : Schema μ} {τ : Type} {key : String} {number : Nat}

/-- A field that holds a scalar. -/
theorem scalar {x : Scalar τ} {get : μ → τ} {set : τ → μ → μ} (i : Nat) (h : x.Carried)
    (hs : Owns s i ⟨key, number, .scalar x, get, set⟩) :
    Field.Carried s levels cost ⟨key, number, .scalar x, get, set⟩ :=
  ⟨⟨0, (Format.scalar_single h).carried, Nat.zero_le _⟩, i, hs⟩

/-- A field that holds scalars packed together. -/
theorem packed {x : Scalar τ} {get : μ → List τ} {set : List τ → μ → μ} (i : Nat) (h : x.Carried)
    (hs : Owns s i ⟨key, number, .packed x, get, set⟩) :
    Field.Carried s levels cost ⟨key, number, .packed x, get, set⟩ :=
  ⟨⟨0, Format.packed_carried h, Nat.zero_le _⟩, i, hs⟩

/-- A field that may be absent. -/
theorem option {f : Format τ} {c : Nat} {get : μ → Option τ} {set : Option τ → μ → μ} (i : Nat)
    (h : f.Single levels c) (hc : c ≤ cost + 3)
    (hs : Owns s i ⟨key, number, f.option, get, set⟩) :
    Field.Carried s levels cost ⟨key, number, f.option, get, set⟩ :=
  ⟨⟨c, Format.option_carried h, hc⟩, i, hs⟩

/-- A field that may occur any number of times. -/
theorem list {f : Format τ} {c : Nat} {get : μ → List τ} {set : List τ → μ → μ} (i : Nat)
    (h : f.Single levels c) (hc : c ≤ cost + 6)
    (hs : Owns s i ⟨key, number, f.list, get, set⟩) :
    Field.Carried s levels cost ⟨key, number, f.list, get, set⟩ :=
  ⟨⟨cost + 3, Format.list_carried h hc, Nat.le_refl _⟩, i, hs⟩

end Field.Carried

/-- An alternative that is carried in one payload, and has a place of its own. -/
structure Alternative.Carried (s : Schema μ) (levels cost : Nat) (a : Alternative μ) : Prop where
  format : ∃ c, a.format.Single levels c ∧ c ≤ cost + 3
  owns : ∃ i, a.Owns s i

/-- An alternative whose values have a format that is carried. -/
theorem Alternative.Carried.of_format {s : Schema μ} {τ : Type} {key : String} {number : Nat}
    {f : Format τ} {c : Nat} {get? : μ → Option τ} {set : τ → μ → μ} (i : Nat)
    (h : f.Single levels c) (hc : c ≤ cost + 3) (hs : Owns s i ⟨key, number, f, get?, set⟩) :
    Alternative.Carried s levels cost ⟨key, number, f, get?, set⟩ :=
  ⟨⟨c, h, hc⟩, i, hs⟩

/-- How messages are carried. -/
structure Schema.Carried (s : Schema μ) (levels cost : Nat) : Prop where
  numbering : Wire.Numbering s.numbers
  placed : s.placement = .nowhere → s.alternatives = []
  copy : ∀ message, s.copy message = message
  fields : ∀ f ∈ s.fields, f.Carried s levels cost
  alternatives : ∀ a ∈ s.alternatives, a.Carried s levels cost

/-- A lawful schema is carried if its fields and alternatives are. -/
theorem Schema.Lawful.carried {s : Schema μ} {levels' slack : Nat} (h : s.Lawful levels' slack)
    (numbering : Wire.Numbering s.numbers)
    (fields : List.Forall (Field.Carried s levels cost) s.fields)
    (alternatives : List.Forall (Alternative.Carried s levels cost) s.alternatives) :
    s.Carried levels cost where
  numbering := numbering
  placed := h.placed
  copy := h.copy
  fields := List.forall_iff_forall_mem.1 fields
  alternatives := List.forall_iff_forall_mem.1 alternatives

namespace Schema

theorem insertPart_perm (part : Nat × Bytes) (parts : List (Nat × Bytes)) :
    (insertPart part parts).Perm (part :: parts) := by
  induction parts with
  | nil => exact .refl _
  | cons other rest ih =>
    rw [insertPart]
    split
    · exact .refl _
    · exact (ih.cons other).trans (.swap part other rest)

/-- Ordering parts drops none and adds none. -/
theorem ordered_perm (parts : List (Nat × Bytes)) : (ordered parts).Perm parts := by
  induction parts with
  | nil => exact .refl _
  | cons part rest ih => exact (insertPart_perm part (ordered rest)).trans (ih.cons part)

/-- Parts whose numbers ascend are ordered already. -/
theorem ordered_of_ascending {parts : List (Nat × Bytes)}
    (h : parts.Pairwise fun a b => a.1 ≤ b.1) : ordered parts = parts := by
  induction parts with
  | nil => rfl
  | cons part rest ih =>
    rw [List.pairwise_cons] at h
    show insertPart part (ordered rest) = part :: rest
    rw [ih h.2]
    cases rest with
    | nil => rfl
    | cons other rest => rw [insertPart, if_pos (h.1 other List.mem_cons_self)]

/-- A message with the fields of another one, but for those with a number that is left. -/
structure Partway (s : Schema μ) (whole : μ) (left : List Nat) (x : μ) : Prop where
  fields : ∀ f ∈ s.fields,
    f.get x = if f.number ∈ left then f.format.initial else f.get whole
  alternatives : ∀ a ∈ s.alternatives,
    a.get? x = if a.number ∈ left then none else a.get? whole

variable {s : Schema μ}

theorem mergeFields?_append (budget : Nat) (x : μ) (first second : List (Nat × Wire.Value)) :
    s.mergeFields? budget x (first ++ second) =
      (s.mergeFields? budget x first).bind fun y => s.mergeFields? budget y second := by
  induction first generalizing x with
  | nil => rfl
  | cons entry rest ih =>
    rw [List.cons_append, mergeFields?, mergeFields?]
    cases s.mergeField? budget x entry.1 entry.2 with
    | none => rfl
    | some y => exact ih y

/-- A part of a message is that of a field, or that of the alternative that is present. -/
theorem part_cases {message : μ} {part : Nat × Bytes} (h : part ∈ s.parts message) :
    (∃ f ∈ s.fields, part = (f.number, f.toWire message)) ∨
      ∃ a ∈ s.alternatives, ∃ value, a.get? message = some value ∧
        part = (a.number, a.format.toWire a.number value) := by
  rcases List.mem_append.1 h with h | h
  · obtain ⟨f, hf, rfl⟩ := List.mem_map.1 h
    exact .inl ⟨f, hf, rfl⟩
  · obtain ⟨a, ha, hpart⟩ := List.exists_of_findSome?_eq_some (Option.mem_toList.1 h)
    obtain ⟨value, hvalue, rfl⟩ := Option.map_eq_some_iff.1 hpart
    exact .inr ⟨a, ha, value, hvalue, rfl⟩

/-- The value of a field costs less than the message. -/
theorem affordable_field {message : μ} {budget : Nat}
    (hm : (s.toJson message).Affordable (levels + 1) cost budget) {f : Field μ} (hf : f ∈ s.fields)
    {c : Nat} (hc : c ≤ cost + 3) :
    (f.format.toJson (f.get message)).Affordable levels c budget :=
  hm.inner (Json.depth_lt_of_member (x := f.member message)
    (List.mem_append_left _ (List.mem_map_of_mem hf))) hc

end Schema

namespace Schema.Carried

variable {s : Schema μ} (h : s.Carried levels cost)

include h

theorem independent : s.Independent where
  fields := fun f hf => (h.fields f hf).owns
  alternatives := fun a ha => (h.alternatives a ha).owns
  copy := h.copy

theorem field_eq {f g : Field μ} (hf : f ∈ s.fields) (hg : g ∈ s.fields)
    (heq : g.number = f.number) : g = f :=
  List.inj_on_of_nodup_map (List.nodup_append.1 h.numbering.1).1 hg hf heq

theorem number_ne {f : Field μ} (hf : f ∈ s.fields) {a : Alternative μ} (ha : a ∈ s.alternatives) :
    f.number ≠ a.number :=
  (List.nodup_append.1 h.numbering.1).2.2 _ (List.mem_map_of_mem hf) _ (List.mem_map_of_mem ha)

theorem mergeField?_field {f : Field μ} (hf : f ∈ s.fields) (budget : Nat) (x : μ)
    (payload : Wire.Value) : s.mergeField? budget x f.number payload =
      (f.format.merge? budget (f.get x) payload).map fun value => f.set value x := by
  rw [mergeField?, find?_key (List.nodup_append.1 h.numbering.1).1 hf]

theorem mergeField?_alternative {a : Alternative μ} (ha : a ∈ s.alternatives) (budget : Nat) {x : μ}
    (hx : a.get? x = none) (payload : Wire.Value) : s.mergeField? budget x a.number payload =
      (a.format.merge? budget a.format.initial payload).map fun value => a.set value x := by
  have hfield : a.number ∉ s.fields.map (·.number) := fun hmem =>
    let ⟨_, hf, heq⟩ := List.mem_map.1 hmem
    h.number_ne hf ha heq
  rw [mergeField?, find?_key_eq_none hfield,
    find?_key (List.nodup_append.1 h.numbering.1).2.1 ha]
  simp only [hx, Option.getD_none]

/-- Payloads of one field are read into it, one after the other. -/
theorem mergeFields?_field {f : Field μ} (hf : f ∈ s.fields) (budget : Nat)
    (payloads : List Wire.Value) (x : μ) :
    s.mergeFields? budget x (payloads.map (f.number, ·)) =
      (payloads.foldlM (f.format.merge? budget) (f.get x)).map fun value => f.set value x := by
  induction payloads generalizing x with
  | nil => exact congrArg some (h.independent.set_get hf x).symm
  | cons p rest ih =>
    rw [List.map_cons, mergeFields?, h.mergeField?_field hf, List.foldlM_cons]
    cases f.format.merge? budget (f.get x) p with
    | none => rfl
    | some value =>
      show s.mergeFields? budget (f.set value x) _ = _
      rw [ih, h.independent.get_set hf]
      simp only [h.independent.set_set hf, Option.bind_eq_bind, Option.bind_some]

/-- Reading a field that is left leaves the others. -/
theorem partway_field {whole x : μ} {left : List Nat} {f : Field μ} (hf : f ∈ s.fields)
    (hx : s.Partway whole (f.number :: left) x) (hleft : f.number ∉ left) :
    s.Partway whole left (f.set (f.get whole) x) where
  fields := by
    intro g hg
    by_cases hgf : g = f
    · rw [hgf, h.independent.get_set hf, if_neg hleft]
    · have hne : g.number ≠ f.number := fun heq => hgf (h.field_eq hf hg heq)
      rw [h.independent.get_set_of_ne hf hg hgf, hx.fields g hg]
      simp only [List.mem_cons, hne, false_or]
  alternatives := by
    intro a ha
    have hne : a.number ≠ f.number := (h.number_ne hf ha).symm
    rw [h.independent.get?_set hf ha, hx.alternatives a ha]
    simp only [List.mem_cons, hne, false_or]

/-- Reading the alternative that is present leaves the others. -/
theorem partway_alternative {whole x : μ} {left : List Nat} {a : Alternative μ}
    (ha : a ∈ s.alternatives) {value : a.τ} (hvalue : a.get? whole = some value)
    (hx : s.Partway whole (a.number :: left) x) (hleft : a.number ∉ left) :
    s.Partway whole left (a.set value x) where
  fields := by
    intro f hf
    rw [h.independent.get_setAlternative ha hf, hx.fields f hf]
    simp only [List.mem_cons, h.number_ne hf ha, false_or]
  alternatives := by
    intro b hb
    by_cases hba : b = a
    · subst hba
      rw [h.independent.get?_setAlternative ha, if_neg hleft, hvalue]
    · rw [h.independent.get?_setAlternative_of_ne ha hb hba,
        h.independent.get?_eq_none_of_ne ha hb hba (by rw [hvalue]; rfl), ite_self]

/-- The value of the alternative that is present costs less than the message. -/
theorem affordable_alternative {message : μ} {budget : Nat}
    (hm : (s.toJson message).Affordable (levels + 1) cost budget) {a : Alternative μ}
    (ha : a ∈ s.alternatives) {value : a.τ} (hvalue : a.get? message = some value) {c : Nat}
    (hc : c ≤ cost + 3) : (a.format.toJson value).Affordable levels c budget := by
  refine hm.inner ?_ hc
  have hchosen := h.independent.chosen?_eq ha hvalue
  have hmember : ∀ x ∈ s.choiceMembers message, depth x.2 < depth (s.toJson message) := fun x hx =>
    Json.depth_lt_of_member (List.mem_append_right _ hx)
  rw [choiceMembers, hchosen] at hmember
  cases hp : s.placement with
  | nowhere =>
    rw [h.placed hp] at ha
    cases ha
  | beside =>
    rw [hp] at hmember
    exact hmember _ List.mem_cons_self
  | under key =>
    rw [hp] at hmember
    exact Nat.lt_trans (Json.depth_lt_of_member (x := (a.key, a.format.toJson value))
      List.mem_cons_self) (hmember _ List.mem_cons_self)

/-- A field is read from its part of the binary form. -/
theorem exists_payloads_field {message : μ} {budget : Nat}
    (hm : (s.toJson message).Affordable (levels + 1) cost budget) {f : Field μ} (hf : f ∈ s.fields)
    (hlength : (f.toWire message).length < wordLimit) :
    ∃ payloads : List Wire.Value, f.toWire message = payloads.flatMap (Wire.field f.number) ∧
      (∀ p ∈ payloads, p.Fits) ∧
      payloads.foldlM (f.format.merge? budget) f.format.initial = some (f.get message) := by
  obtain ⟨⟨c, hformat, hc⟩, -⟩ := h.fields f hf
  rw [Field.toWire] at hlength ⊢
  split at hlength
  · next homits =>
    rw [if_pos homits, hformat.omits _ homits]
    exact ⟨[], rfl, List.forall_mem_nil _, rfl⟩
  · next homits =>
    obtain ⟨payloads, hp⟩ := hformat.delivers (affordable_field hm hf hc) hlength
    rw [if_neg homits]
    exact ⟨payloads, hp.wire, hp.fits, hp.merge⟩

/-- One part of the binary form is read, and the others are left. -/
theorem exists_entries_part {whole x : μ} {budget : Nat} {left : List Nat} {part : Nat × Bytes}
    (hm : (s.toJson whole).Affordable (levels + 1) cost budget) (hpart : part ∈ s.parts whole)
    (hlength : part.2.length < wordLimit) (hx : s.Partway whole (part.1 :: left) x)
    (hleft : part.1 ∉ left) :
    ∃ entries y, part.2 = entries.flatMap (fun e => Wire.field e.1 e.2) ∧
      (∀ e ∈ entries, Wire.Writable e) ∧ s.mergeFields? budget x entries = some y ∧
      s.Partway whole left y := by
  rcases part_cases hpart with ⟨f, hf, rfl⟩ | ⟨a, ha, value, hvalue, rfl⟩
  · obtain ⟨payloads, hwire, hfits, hmerge⟩ := h.exists_payloads_field hm hf hlength
    obtain ⟨hpos, hlt⟩ := h.numbering.2 f.number
      (List.mem_append_left _ (List.mem_map_of_mem hf))
    have hinitial : f.get x = f.format.initial := by
      rw [hx.fields f hf, if_pos List.mem_cons_self]
    refine ⟨payloads.map (f.number, ·), f.set (f.get whole) x, ?_, ?_, ?_,
      h.partway_field hf hx hleft⟩
    · rw [List.flatMap_map]
      exact hwire
    · intro e he
      obtain ⟨p, hp, rfl⟩ := List.mem_map.1 he
      exact ⟨hpos, hlt, hfits p hp⟩
    · rw [h.mergeFields?_field hf, hinitial, hmerge, Option.map_some]
  · obtain ⟨⟨c, hformat, hc⟩, -⟩ := h.alternatives a ha
    obtain ⟨p, hp⟩ := hformat.delivers (h.affordable_alternative hm ha hvalue hc) hlength
    obtain ⟨hpos, hlt⟩ := h.numbering.2 a.number
      (List.mem_append_right _ (List.mem_map_of_mem ha))
    have hnone : a.get? x = none := by rw [hx.alternatives a ha, if_pos List.mem_cons_self]
    refine ⟨[(a.number, p)], a.set value x, ?_, ?_, ?_, h.partway_alternative ha hvalue hx hleft⟩
    · rw [List.flatMap_singleton]
      exact hp.wire.trans (List.flatMap_singleton _ _)
    · exact List.forall_mem_singleton.2 ⟨hpos, hlt, hp.fits p List.mem_cons_self⟩
    · rw [mergeFields?, h.mergeField?_alternative ha budget hnone, hp.merge_singleton]
      rfl

/-- All parts that are left are read, in whatever order they stand. -/
theorem exists_entries {whole x : μ} {budget : Nat} {parts : List (Nat × Bytes)}
    (hm : (s.toJson whole).Affordable (levels + 1) cost budget)
    (hparts : ∀ part ∈ parts, part ∈ s.parts whole) (hnodup : (parts.map (·.1)).Nodup)
    (hlength : (parts.flatMap (·.2)).length < wordLimit)
    (hx : s.Partway whole (parts.map (·.1)) x) :
    ∃ entries y, parts.flatMap (·.2) = entries.flatMap (fun e => Wire.field e.1 e.2) ∧
      (∀ e ∈ entries, Wire.Writable e) ∧ s.mergeFields? budget x entries = some y ∧
      s.Partway whole [] y := by
  induction parts generalizing x with
  | nil => exact ⟨[], x, rfl, List.forall_mem_nil _, rfl, hx⟩
  | cons part rest ih =>
    rw [List.forall_mem_cons] at hparts
    rw [List.map_cons, List.nodup_cons] at hnodup
    rw [List.flatMap_cons, List.length_append] at hlength
    obtain ⟨first, y, hwire, hwritable, hmerge, hy⟩ := h.exists_entries_part hm hparts.1
      (Nat.lt_of_le_of_lt (Nat.le_add_right _ _) hlength) hx hnodup.1
    obtain ⟨entries, z, hwire', hwritable', hmerge', hz⟩ := ih hparts.2 hnodup.2
      (Nat.lt_of_le_of_lt (Nat.le_add_left _ _) hlength) hy
    refine ⟨first ++ entries, z, ?_, List.forall_mem_append.2 ⟨hwritable, hwritable'⟩, ?_, hz⟩
    · rw [List.flatMap_cons, List.flatMap_append, hwire, hwire']
    · rw [mergeFields?_append, hmerge, Option.bind_some, hmerge']

theorem nodup_parts (message : μ) : ((s.parts message).map (·.1)).Nodup := by
  rw [parts, List.map_append, List.map_map]
  refine List.nodup_append.2 ⟨(List.nodup_append.1 h.numbering.1).1, ?_, ?_⟩
  · cases s.chosenPart? message with
    | none => exact List.nodup_nil
    | some part => exact List.nodup_singleton _
  · intro n hn k hk
    obtain ⟨f, hf, rfl⟩ := List.mem_map.1 hn
    obtain ⟨part, hpart, rfl⟩ := List.mem_map.1 hk
    obtain ⟨a, ha, hpart⟩ := List.exists_of_findSome?_eq_some (Option.mem_toList.1 hpart)
    obtain ⟨value, -, rfl⟩ := Option.map_eq_some_iff.1 hpart
    exact h.number_ne hf ha

/-- At the start all parts are left. -/
theorem partway_initial (message : μ) :
    s.Partway message ((s.parts message).map (·.1)) s.initial where
  fields := by
    intro f hf
    have hmem : f.number ∈ (s.parts message).map (·.1) :=
      List.mem_map.2 ⟨_, List.mem_append_left _ (List.mem_map_of_mem hf), rfl⟩
    rw [if_pos hmem, h.independent.get_initial hf]
  alternatives := by
    intro a ha
    rw [h.independent.get?_initial ha]
    cases hvalue : a.get? message with
    | none => rw [ite_self]
    | some value =>
      have hchosen := h.independent.chosenPart?_eq ha hvalue
      have hmem : a.number ∈ (s.parts message).map (·.1) :=
        List.mem_map.2 ⟨_, List.mem_append_right _ (Option.mem_toList.2 hchosen), rfl⟩
      rw [if_pos hmem]

/-- A message is read back from its binary form where its brackets leave levels enough. -/
theorem merge?_toWire {message : μ} {budget : Nat}
    (hm : (s.toJson message).Affordable (levels + 1) cost budget)
    (hlength : (s.toWire message).length < wordLimit) :
    s.merge? budget s.initial (s.toWire message) = some message := by
  have hperm := ordered_perm (s.parts message)
  have hstart : s.Partway message ((ordered (s.parts message)).map (·.1)) s.initial := by
    have hmem (n : Nat) := (hperm.map (·.1)).mem_iff (a := n)
    have hinitial := h.partway_initial message
    exact ⟨fun f hf => by simp only [hmem, hinitial.fields f hf],
      fun a ha => by simp only [hmem, hinitial.alternatives a ha]⟩
  obtain ⟨entries, y, hwire, hwritable, hmerge, hy⟩ := h.exists_entries hm
    (fun part hpart => hperm.mem_iff.1 hpart)
    ((hperm.map (·.1)).nodup_iff.2 (h.nodup_parts message)) hlength hstart
  have hwhole : y = message := h.independent.ext
    (fun f hf => by rw [hy.fields f hf, if_neg List.not_mem_nil])
    (fun a ha => by rw [hy.alternatives a ha, if_neg List.not_mem_nil])
  rw [merge?, toWire, hwire, Wire.readFields_flatMap hwritable, Option.bind_eq_bind,
    Option.bind_some, hmerge, hwhole]

/-- A message in a message takes one level of the reader. -/
theorem merge?_counted {message : μ} {budget : Nat}
    (hm : (s.toJson message).Affordable (levels + 1) (cost + 4) budget)
    (hlength : (s.toWire message).length < wordLimit) :
    s.format.merge? budget s.initial (.counted (s.toWire message)) = some message := by
  obtain ⟨hdepth, hbudget⟩ := hm
  cases budget with
  | zero => omega
  | succ budget => exact h.merge?_toWire ⟨hdepth, by omega⟩ hlength

end Schema.Carried

theorem Schema.format_single {s : Schema μ} (h : s.Carried levels cost) :
    s.format.Single levels (cost + 4) :=
  Format.single_of_counted s.toWire (fun _ => rfl) (fun _ _ => rfl) fun _ _ hm hlength =>
    h.merge?_counted hm.succ hlength

end TelemetrySpool
