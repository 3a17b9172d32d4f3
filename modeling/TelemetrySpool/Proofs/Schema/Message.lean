import Mathlib.Data.List.Basic
import TelemetrySpool.Proofs.Schema.Format
import TelemetrySpool.Schema.Basic

/-!
# Laws of schemas

A schema is lawful if its fields and alternatives are: setting one shows in its own member and
nowhere else, and copying all of them from a message gives the message again. Then messages are read
back from the object they write, and whatever object or array a message is read from, the message
writes one that opens no more brackets, apart from the lists that were missing.
-/

namespace TelemetrySpool

open Json (Every Written HasKind Regular Sound Settled depth)

universe u

variable {μ : Type} {levels slack : Nat}

/-- The first element with a key is the only one if keys do not repeat. -/
theorem find?_key {α : Type u} {κ : Type} [DecidableEq κ] {key : α → κ} {l : List α}
    (h : (l.map key).Nodup) {a : α} (ha : a ∈ l) : l.find? (fun b => key b = key a) = some a := by
  induction l with
  | nil => cases ha
  | cons b rest ih =>
    rw [List.map_cons, List.nodup_cons] at h
    rw [List.find?_cons]
    rcases List.mem_cons.1 ha with rfl | ha
    · simp
    · have hne : key b ≠ key a := fun he => h.1 (he ▸ List.mem_map_of_mem ha)
      rw [decide_eq_false hne]
      exact ih h.2 ha

theorem find?_key_eq_none {α : Type u} {κ : Type} [DecidableEq κ] {key : α → κ} {l : List α}
    {name : κ} (h : name ∉ l.map key) : l.find? (fun b => key b = name) = none := by
  rw [List.find?_eq_none]
  intro b hb he
  exact h (of_decide_eq_true he ▸ List.mem_map_of_mem hb)

/-- What is found by a key is in the list and has the key. -/
theorem mem_of_find?_key {α : Type u} {κ : Type} [DecidableEq κ] {key : α → κ} {l : List α}
    {name : κ} {a : α} (h : l.find? (fun b => key b = name) = some a) : a ∈ l ∧ key a = name := by
  have hkey := List.find?_some h
  exact ⟨List.mem_of_find?_eq_some h, of_decide_eq_true hkey⟩

namespace Schema

/-- What JSON shows of a message: the members of its fields, and the alternative that is present. -/
def shown (s : Schema μ) (message : μ) : List (String × Json) × Option (String × Json) :=
  (s.fields.map (·.member message), s.chosen? message)

/-- The message with the fields of another one. -/
def copyFields (s : Schema μ) (message : μ) : μ :=
  s.fields.foldl (fun copy f => f.set (f.get message) copy) s.initial

/-- The message with the fields and the alternative of another one. -/
def copy (s : Schema μ) (message : μ) : μ :=
  (s.alternatives.findSome? fun a =>
    (a.get? message).map fun value => a.set value (s.copyFields message)).getD
      (s.copyFields message)

end Schema

/-- The key of an object that holds a choice. -/
def Placement.keys : Placement → List String
  | .under key => [key]
  | _ => []

/-- A field that is the `i`-th of a schema, and independent of the others. -/
structure Field.Stands (s : Schema μ) (i : Nat) (f : Field μ) : Prop where
  initial : f.get s.initial = f.format.initial
  get_set : ∀ value message, f.get (f.set value message) = value
  shown_set : ∀ value message, s.shown (f.set value message) =
    ((s.shown message).1.set i (f.key, f.format.toJson value), (s.shown message).2)

/-- How a field belongs to a schema. -/
structure Field.Lawful (s : Schema μ) (levels slack : Nat) (f : Field μ) : Prop where
  format : ∃ c, f.format.Lawful levels c ∧ (c = 0 ∨ c < slack)
  starts : f.format.Starts
  stands : ∃ i, f.Stands s i

namespace Field.Lawful

variable {s : Schema μ} {τ : Type} {key : String} {number : Nat}

/-- A field that holds a scalar. -/
theorem scalar {x : Scalar τ} {get : μ → τ} {set : τ → μ → μ} (i : Nat) (h : x.Lawful)
    (hs : Stands s i ⟨key, number, .scalar x, get, set⟩) :
    Field.Lawful s levels slack ⟨key, number, .scalar x, get, set⟩ :=
  ⟨⟨0, Format.scalar_lawful h, .inl rfl⟩, Format.scalar_starts h, i, hs⟩

/-- A field that holds scalars packed together. -/
theorem packed {x : Scalar τ} {get : μ → List τ} {set : List τ → μ → μ} (i : Nat) (h : x.Lawful)
    (hs : Stands s i ⟨key, number, .packed x, get, set⟩) :
    Field.Lawful s levels slack ⟨key, number, .packed x, get, set⟩ :=
  ⟨⟨0, Format.packed_lawful h, .inl rfl⟩, Format.packed_starts, i, hs⟩

/-- A field that may be absent. -/
theorem option {f : Format τ} {c : Nat} {get : μ → Option τ} {set : Option τ → μ → μ} (i : Nat)
    (h : f.Lawful levels c) (ho : f.optional = false) (hc : c = 0 ∨ c < slack)
    (hs : Stands s i ⟨key, number, f.option, get, set⟩) :
    Field.Lawful s levels slack ⟨key, number, f.option, get, set⟩ :=
  ⟨⟨c, Format.option_lawful ho h, hc⟩, Format.option_starts, i, hs⟩

/-- A field that may occur any number of times. -/
theorem list {f : Format τ} {c : Nat} {get : μ → List τ} {set : List τ → μ → μ} (i : Nat)
    (h : f.Lawful levels c) (hc : c = 0 ∨ c + 1 < slack)
    (hs : Stands s i ⟨key, number, f.list, get, set⟩) :
    Field.Lawful s levels slack ⟨key, number, f.list, get, set⟩ := by
  refine ⟨?_, Format.list_starts, i, hs⟩
  rcases hc with rfl | hc
  · exact ⟨0, Format.list_lawful h (.inl rfl), .inl rfl⟩
  · exact ⟨c + 1, Format.list_lawful h (.inr (Nat.lt_succ_self c)), .inr hc⟩

end Field.Lawful

/-- How an alternative belongs to a schema. -/
structure Alternative.Lawful (s : Schema μ) (levels slack : Nat) (a : Alternative μ) : Prop where
  format : ∃ c, a.format.Lawful levels c ∧ (c = 0 ∨ c + 1 < slack)
  shown_set : ∀ value message,
    s.shown (a.set value message) = ((s.shown message).1, some (a.key, a.format.toJson value))

/-- An alternative of a schema whose values have a lawful format. -/
theorem Alternative.Lawful.of_format {s : Schema μ} {τ : Type} {key : String} {number : Nat}
    {f : Format τ} {c : Nat} {get? : μ → Option τ} {set : τ → μ → μ} (h : f.Lawful levels c)
    (hc : c = 0 ∨ c + 1 < slack)
    (hs : ∀ value message, s.shown (set value message) =
      ((s.shown message).1, some (key, f.toJson value))) :
    Alternative.Lawful s levels slack ⟨key, number, f, get?, set⟩ :=
  ⟨⟨c, h, hc⟩, hs⟩

/-- How messages are written and read. -/
structure Schema.Lawful (s : Schema μ) (levels slack : Nat) : Prop where
  fields_ne : s.fields ≠ []
  keys : (s.fields.map (·.key) ++ s.placement.keys ++ s.alternatives.map (·.key)).Nodup
  defaults : s.strict = true ∨ 2 ≤ slack
  fields : ∀ f ∈ s.fields, f.Lawful s levels slack
  placed : s.placement = .nowhere → s.alternatives = []
  alternatives : ∀ a ∈ s.alternatives, a.Lawful s levels slack
  initial : s.chosen? s.initial = none
  copy : ∀ message, s.copy message = message

/-- A schema with fields and without a choice is lawful if its fields are. -/
theorem Schema.Lawful.of_fields {s : Schema μ} {initial : μ} {strict : Bool} {f : Field μ}
    {rest : List (Field μ)} (hs : s = ⟨initial, strict, f :: rest, .nowhere, []⟩)
    (keys : (s.fields.map (·.key)).Nodup) (defaults : s.strict = true ∨ 2 ≤ slack)
    (copy : ∀ message, s.copyFields message = message)
    (fields : List.Forall (Field.Lawful s levels slack) s.fields) : s.Lawful levels slack where
  fields_ne := hs ▸ List.cons_ne_nil f rest
  keys := by
    subst hs
    simpa [Placement.keys] using keys
  defaults := defaults
  fields := List.forall_iff_forall_mem.1 fields
  placed := fun _ => hs ▸ rfl
  alternatives := hs ▸ nofun
  initial := hs ▸ rfl
  copy := by
    intro message
    have ha : s.alternatives = [] := hs ▸ rfl
    rw [Schema.copy, ha, List.findSome?_nil]
    exact copy message

namespace Schema.Lawful

variable {s : Schema μ} (h : s.Lawful levels slack)

include h

theorem fieldKeys : (s.fields.map (·.key)).Nodup :=
  (List.nodup_append.1 (List.nodup_append.1 h.keys).1).1

theorem fieldByKey?_key {f : Field μ} (hf : f ∈ s.fields) : s.fieldByKey? f.key = some f :=
  find?_key h.fieldKeys hf

theorem alternativeByKey?_key {a : Alternative μ} (ha : a ∈ s.alternatives) :
    s.alternativeByKey? a.key = some a :=
  find?_key (List.nodup_append.1 h.keys).2.1 ha

theorem fieldByKey?_alternative {a : Alternative μ} (ha : a ∈ s.alternatives) :
    s.fieldByKey? a.key = none := by
  refine find?_key_eq_none fun hf => ?_
  exact (List.nodup_append.1 h.keys).2.2 _ (List.mem_append_left _ hf) _
    (List.mem_map_of_mem ha) rfl

theorem key_ne_of_under {key : String} (hp : s.placement = .under key) {f : Field μ}
    (hf : f ∈ s.fields) : f.key ≠ key := by
  have hd := (List.nodup_append.1 (List.nodup_append.1 h.keys).1).2.2
  refine hd _ (List.mem_map_of_mem hf) _ ?_
  rw [hp]
  exact List.mem_singleton_self key

theorem fieldByKey?_under {key : String} (hp : s.placement = .under key) :
    s.fieldByKey? key = none := by
  refine find?_key_eq_none fun hf => ?_
  obtain ⟨f, hf, he⟩ := List.mem_map.1 hf
  exact h.key_ne_of_under hp hf he

end Schema.Lawful

namespace Schema

variable {s : Schema μ}

/-- The alternative that is shown is the one that is copied. -/
theorem shows_choice (s : Schema μ) (message : μ) :
    (s.chosen? message = none ∧ s.copy message = s.copyFields message) ∨
      ∃ a ∈ s.alternatives, ∃ value, s.chosen? message = some (a.key, a.format.toJson value) ∧
        s.copy message = a.set value (s.copyFields message) := by
  rw [chosen?, Schema.copy]
  induction s.alternatives with
  | nil => exact .inl ⟨rfl, rfl⟩
  | cons a rest ih =>
    rw [List.findSome?_cons, List.findSome?_cons, Alternative.member?]
    cases hv : a.get? message with
    | some value => exact .inr ⟨a, List.mem_cons_self, value, rfl, rfl⟩
    | none =>
      rcases ih with hn | ⟨b, hb, hr⟩
      · exact .inl hn
      · exact .inr ⟨b, List.mem_cons_of_mem _ hb, hr⟩

/-- All keys have been seen once all fields were read. -/
theorem complete_of_keys (s : Schema μ) {seen : List String}
    (hseen : ∀ f ∈ s.fields, f.key ∈ seen) : s.complete seen = true := by
  rw [complete, Bool.or_eq_true]
  right
  rw [List.all_eq_true]
  intro f hf
  rw [List.contains_iff_mem.2 (hseen f hf), Bool.or_true]

end Schema

namespace Schema.Lawful

variable {s : Schema μ} (h : s.Lawful levels slack)

include h

/-- Members of fields set these fields, one after the other. -/
theorem readMembers_fields {message : μ} {fs : List (Field μ)} (hfs : ∀ f ∈ fs, f ∈ s.fields)
    (hkeys : (fs.map (·.key)).Nodup) {seen : List String} (hseen : ∀ f ∈ fs, f.key ∉ seen)
    (hread : ∀ f ∈ fs, f.format.ofJson? (f.format.toJson (f.get message)) = some (f.get message))
    (others : List (String × Json)) (copy : μ) (tail : List (String × Json)) :
    s.readMembers seen others copy (fs.map (·.member message) ++ tail) =
      s.readMembers ((fs.map (·.key)).reverse ++ seen) others
        (fs.foldl (fun copy f => f.set (f.get message) copy) copy) tail := by
  induction fs generalizing seen copy with
  | nil => rfl
  | cons f fs ih =>
    rw [List.forall_mem_cons] at hfs hseen hread
    rw [List.map_cons, List.nodup_cons] at hkeys
    have hm : s.readMember? f.key = some f.read? := by rw [readMember?, h.fieldByKey?_key hfs.1]
    have hr : f.read? (f.format.toJson (f.get message)) copy =
        some (f.set (f.get message) copy) := by
      rw [Field.read?, hread.1]
      rfl
    have hnext : ∀ g ∈ fs, g.key ∉ f.key :: seen := by
      intro g hg hmem
      rcases List.mem_cons.1 hmem with he | hmem
      · exact hkeys.1 (he ▸ List.mem_map_of_mem hg)
      · exact hseen.2 g hg hmem
    rw [List.map_cons, List.cons_append, Field.member, readMembers, hm]
    simp only [if_neg hseen.1, hr]
    rw [ih hfs.2 hkeys.2 hnext hread.2]
    simp

/-- A message writes words and nothing unreadable if its values do. -/
theorem written (message : μ) : Every Written (s.toJson message) := by
  have hchosen : ∀ x ∈ s.chosen? message, Every Written x.2 := by
    intro x hx
    rcases s.shows_choice message with ⟨hn, -⟩ | ⟨a, ha, value, hs, -⟩
    · rw [hn] at hx
      cases hx
    · rw [hs] at hx
      cases hx
      obtain ⟨c, hc, -⟩ := (h.alternatives a ha).format
      exact hc.written value
  refine Json.every_object.2 ⟨trivial, fun x hx => ?_⟩
  rcases List.mem_append.1 hx with hx | hx
  · obtain ⟨f, hf, rfl⟩ := List.mem_map.1 hx
    obtain ⟨c, hc, -⟩ := (h.fields f hf).format
    exact hc.written _
  · rw [choiceMembers] at hx
    split at hx
    · cases hx
    · exact hchosen x (Option.mem_toList.1 hx)
    · rw [List.mem_singleton] at hx
      subst hx
      cases hs : s.chosen? message with
      | none => exact Json.every_null.2 trivial
      | some x =>
        refine Json.every_object.2 ⟨trivial, fun y hy => ?_⟩
        rw [List.mem_singleton] at hy
        subst hy
        exact hchosen _ hs

/-- The alternative that is present is read back into the copy of the fields. -/
theorem read?_alternative {message : μ} {a : Alternative μ} (ha : a ∈ s.alternatives) {value : a.τ}
    (hk : Every HasKind (a.format.toJson value)) (hd : depth (a.format.toJson value) ≤ levels)
    (hcopy : s.copy message = a.set value (s.copyFields message)) :
    a.read? (a.format.toJson value) (s.copyFields message) = some message := by
  obtain ⟨c, hc, -⟩ := (h.alternatives a ha).format
  rw [Alternative.read?, hc.readBack value hk hd, Option.map_some, ← hcopy, h.copy]

/-- A choice in an object of its own is read back. -/
theorem readChoice?_chosen {message : μ} {key : String} (hp : s.placement = .under key)
    (hk : ∀ x ∈ s.choiceMembers message, Every HasKind x.2)
    (hd : ∀ x ∈ s.choiceMembers message, depth x.2 ≤ levels) :
    s.readChoice? (((s.chosen? message).map fun member => Json.object [member]).getD .null)
      (s.copyFields message) = some message := by
  simp only [choiceMembers, hp, List.forall_mem_singleton] at hk hd
  rcases s.shows_choice message with ⟨hn, hcopy⟩ | ⟨a, ha, value, hs, hcopy⟩
  · rw [hn]
    show some (s.copyFields message) = some message
    rw [← hcopy, h.copy]
  · rw [hs] at hk hd ⊢
    have hkind := (Json.every_object.1 hk).2 (a.key, a.format.toJson value) List.mem_cons_self
    have hdepth : depth (a.format.toJson value) ≤ levels :=
      Nat.le_trans (Nat.le_of_lt (Json.depth_lt_of_member (x := (a.key, a.format.toJson value))
        List.mem_cons_self)) hd
    rw [Option.map_some, Option.getD_some, readChoice?, h.alternativeByKey?_key ha]
    exact h.read?_alternative ha hkind hdepth hcopy

/-- Without a choice there is nothing to copy but the fields. -/
theorem copyFields_eq_self (hp : s.placement = .nowhere) (message : μ) :
    s.copyFields message = message := by
  rcases s.shows_choice message with ⟨-, hcopy⟩ | ⟨a, ha, -⟩
  · rw [← hcopy, h.copy]
  · rw [h.placed hp] at ha
    cases ha

/-- An alternative beside the fields is kept for later, and is the one that is taken then. -/
theorem readMembers_beside {message : μ} (hp : s.placement = .beside)
    (hk : ∀ x ∈ s.choiceMembers message, Every HasKind x.2)
    (hd : ∀ x ∈ s.choiceMembers message, depth x.2 ≤ levels) (seen : List String) :
    ∃ others, s.readMembers seen [] (s.copyFields message) (s.choiceMembers message) =
        some (seen, others, s.copyFields message) ∧
      others.all (·.2.readable) = true ∧
      s.takeAlternative others (s.copyFields message) = message := by
  simp only [choiceMembers, hp] at hk hd ⊢
  rcases s.shows_choice message with ⟨hn, hcopy⟩ | ⟨a, ha, value, hs, hcopy⟩
  · rw [hn]
    exact ⟨[], rfl, rfl, hcopy.symm.trans (h.copy message)⟩
  · rw [hs, Option.toList_some] at hk hd ⊢
    have hm : s.readMember? a.key = none := by
      rw [readMember?, h.fieldByKey?_alternative ha, hp]
      rfl
    refine ⟨[(a.key, a.format.toJson value)], ?_, ?_, ?_⟩
    · simp only [readMembers, hm, List.reverse_singleton]
    · obtain ⟨c, hf, -⟩ := (h.alternatives a ha).format
      have hr : (a.format.toJson value).readable = true := by
        refine Json.readable_of_every ((hf.written value).mono fun j hj he => ?_)
        rw [he] at hj
        exact hj
      rw [List.all_cons, hr, List.all_nil, Bool.and_self]
    · have hread := h.read?_alternative ha (hk _ List.mem_cons_self) (hd _ List.mem_cons_self) hcopy
      simp only [takeAlternative, List.find?_cons, h.alternativeByKey?_key ha, Option.isSome_some,
        hread, Option.getD_some]

/-- A choice under a key of its own is read where it stands. -/
theorem readMembers_under {message : μ} {key : String} (hp : s.placement = .under key)
    (hk : ∀ x ∈ s.choiceMembers message, Every HasKind x.2)
    (hd : ∀ x ∈ s.choiceMembers message, depth x.2 ≤ levels) {seen : List String}
    (hseen : key ∉ seen) :
    s.readMembers seen [] (s.copyFields message) (s.choiceMembers message) =
      some (key :: seen, [], message) := by
  have hm : s.readMember? key = some s.readChoice? := by
    rw [readMember?, h.fieldByKey?_under hp, hp]
    exact if_pos rfl
  have hchoice := h.readChoice?_chosen hp hk hd
  simp only [choiceMembers, hp, readMembers, hm, if_neg hseen, hchoice, List.reverse_nil]

/-- A message that nests no deeper than its formats allow is read back from its object. -/
theorem ofJson?_toJson (message : μ) (hk : Every HasKind (s.toJson message))
    (hd : depth (s.toJson message) ≤ levels) : s.ofJson? (s.toJson message) = some message := by
  have hkind : ∀ x ∈ s.fields.map (·.member message) ++ s.choiceMembers message,
      Every HasKind x.2 := (Json.every_object.1 hk).2
  have hdepth : ∀ x ∈ s.fields.map (·.member message) ++ s.choiceMembers message,
      depth x.2 ≤ levels := fun x hx =>
    Nat.le_of_lt (Nat.lt_of_lt_of_le (Json.depth_lt_of_member hx) hd)
  rw [List.forall_mem_append] at hkind hdepth
  have hread : ∀ f ∈ s.fields,
      f.format.ofJson? (f.format.toJson (f.get message)) = some (f.get message) := by
    intro f hf
    obtain ⟨c, hc, -⟩ := (h.fields f hf).format
    have hm : f.member message ∈ s.fields.map (·.member message) := List.mem_map_of_mem hf
    exact hc.readBack _ (hkind.1 _ hm) (hdepth.1 _ hm)
  obtain ⟨seen, hkeys, hfields⟩ : ∃ seen, (∀ key, key ∈ seen ↔ key ∈ s.fields.map (·.key)) ∧
      s.readMembers [] [] s.initial
        (s.fields.map (·.member message) ++ s.choiceMembers message) =
          s.readMembers seen [] (s.copyFields message) (s.choiceMembers message) := by
    refine ⟨(s.fields.map (·.key)).reverse ++ [], by simp, ?_⟩
    exact h.readMembers_fields (fun f hf => hf) h.fieldKeys (by simp) hread _ _ _
  have hseen : ∀ f ∈ s.fields, f.key ∈ seen := fun f hf =>
    (hkeys f.key).2 (List.mem_map_of_mem hf)
  rw [toJson, ofJson?, ofMembers?, hfields]
  cases hp : s.placement with
  | nowhere =>
    simp only [choiceMembers, hp, readMembers, Option.bind_eq_bind, Option.bind_some,
      s.complete_of_keys hseen, if_true, reduceCtorEq, if_false, h.copyFields_eq_self hp]
  | beside =>
    obtain ⟨others, hothers, hall, htake⟩ := h.readMembers_beside hp hkind.2 hdepth.2 seen
    simp only [hothers, Option.bind_eq_bind, Option.bind_some, s.complete_of_keys hseen, if_true,
      hall, htake]
  | under key =>
    have hkey : key ∉ seen := by
      intro hmem
      obtain ⟨f, hf, he⟩ := List.mem_map.1 ((hkeys key).1 hmem)
      exact h.key_ne_of_under hp hf he
    have hcomplete := s.complete_of_keys (fun f hf => List.mem_cons_of_mem key (hseen f hf))
    simp only [h.readMembers_under hp hkind.2 hdepth.2 hkey, Option.bind_eq_bind, Option.bind_some,
      hcomplete, if_true, reduceCtorEq, if_false]

end Schema.Lawful

end TelemetrySpool
