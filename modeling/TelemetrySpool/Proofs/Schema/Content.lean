import TelemetrySpool.Proofs.Schema.Message

/-!
# What a message holds

A message is made of the values of its fields and of what is present of its alternatives. In an
independent schema every field and every alternative has a place of its own in this content: setting
a field changes its value only, and setting an alternative takes the place of the one that was
there. Two messages with the same content are the same, so setting a field obeys the laws of a lens.
-/

namespace TelemetrySpool

variable {μ : Type}

namespace Schema

/-- The values of the fields of a message, and what is present of its alternatives. -/
def content (s : Schema μ) (message : μ) : List (Σ τ : Type, τ) × List (Σ τ : Type, τ) :=
  (s.fields.map fun f => ⟨f.τ, f.get message⟩,
    s.alternatives.map fun a => ⟨Option a.τ, a.get? message⟩)

/-- Alternatives of which none is present. -/
def blank (s : Schema μ) : List (Σ τ : Type, τ) :=
  s.alternatives.map fun a => ⟨Option a.τ, none⟩

end Schema

/-- A field that has the `i`-th place among the values of the fields. -/
structure Field.Owns (s : Schema μ) (i : Nat) (f : Field μ) : Prop where
  place : s.fields[i]? = some f
  initial : f.get s.initial = f.format.initial
  content_set : ∀ value message, s.content (f.set value message) =
    ((s.content message).1.set i ⟨f.τ, value⟩, (s.content message).2)

/-- An alternative that has the `i`-th place among them, and leaves no other one present. -/
structure Alternative.Owns (s : Schema μ) (i : Nat) (a : Alternative μ) : Prop where
  place : s.alternatives[i]? = some a
  absent : a.get? s.initial = none
  content_set : ∀ value message, s.content (a.set value message) =
    ((s.content message).1, s.blank.set i ⟨Option a.τ, some value⟩)

/-- A schema whose fields and alternatives do not depend on each other. -/
structure Schema.Independent (s : Schema μ) : Prop where
  fields : ∀ f ∈ s.fields, ∃ i, f.Owns s i
  alternatives : ∀ a ∈ s.alternatives, ∃ i, a.Owns s i
  copy : ∀ message, s.copy message = message

namespace Schema

variable {s : Schema μ}

/-- Messages have the same own contents if they agree on every field. -/
theorem content_fst_eq {x y : μ} :
    (s.content x).1 = (s.content y).1 ↔ ∀ f ∈ s.fields, f.get x = f.get y := by
  rw [content, content, List.map_inj_left]
  exact forall₂_congr fun f _ => by simp

/-- They make the same choices if they agree on every alternative. -/
theorem content_snd_eq {x y : μ} :
    (s.content x).2 = (s.content y).2 ↔ ∀ a ∈ s.alternatives, a.get? x = a.get? y := by
  rw [content, content, List.map_inj_left]
  exact forall₂_congr fun a _ => by simp

/-- The contents stand in the order of the fields. -/
theorem content_fst_getElem? {i : Nat} {f : Field μ} (h : s.fields[i]? = some f) (x : μ) :
    (s.content x).1[i]? = some ⟨f.τ, f.get x⟩ := by
  rw [content, List.getElem?_map, h, Option.map_some]

/-- The choices stand in the order of the alternatives. -/
theorem content_snd_getElem? {i : Nat} {a : Alternative μ} (h : s.alternatives[i]? = some a)
    (x : μ) : (s.content x).2[i]? = some ⟨Option a.τ, a.get? x⟩ := by
  rw [content, List.getElem?_map, h, Option.map_some]

/-- At first no alternative is chosen. -/
theorem blank_getElem? {i : Nat} {a : Alternative μ} (h : s.alternatives[i]? = some a) :
    s.blank[i]? = some ⟨Option a.τ, none⟩ := by
  rw [blank, List.getElem?_map, h, Option.map_some]

/-- Values of one type in the same place are the same. -/
theorem eq_of_sigma {τ : Type} {x y : τ}
    (h : some (⟨τ, x⟩ : Σ τ : Type, τ) = some ⟨τ, y⟩) : x = y := by
  simpa using h

end Schema

namespace Schema.Independent

variable {s : Schema μ} (h : s.Independent)

include h

/-- At first each field has its default. -/
theorem get_initial {f : Field μ} (hf : f ∈ s.fields) : f.get s.initial = f.format.initial :=
  (h.fields f hf).elim fun _ hi => hi.initial

/-- At first no alternative has a value. -/
theorem get?_initial {a : Alternative μ} (ha : a ∈ s.alternatives) : a.get? s.initial = none :=
  (h.alternatives a ha).elim fun _ hi => hi.absent

/-- Messages of the same content are the same. -/
theorem ext {x y : μ} (hf : ∀ f ∈ s.fields, f.get x = f.get y)
    (ha : ∀ a ∈ s.alternatives, a.get? x = a.get? y) : x = y := by
  have hfields : s.copyFields x = s.copyFields y := by
    rw [copyFields, copyFields]
    exact List.foldl_ext _ _ _ fun copy f hmem => by rw [hf f hmem]
  rw [← h.copy x, ← h.copy y, Schema.copy, Schema.copy, hfields]
  congr 1
  generalize s.alternatives = alternatives at ha
  induction alternatives with
  | nil => rfl
  | cons a rest ih =>
    rw [List.forall_mem_cons] at ha
    rw [List.findSome?_cons, List.findSome?_cons, ha.1, ih ha.2]

/-- A field that was set is read back. -/
theorem get_set {f : Field μ} (hf : f ∈ s.fields) (value : f.τ) (x : μ) :
    f.get (f.set value x) = value := by
  obtain ⟨i, hi⟩ := h.fields f hf
  have hlt : i < (s.content x).1.length :=
    (List.getElem?_eq_some_iff.1 (content_fst_getElem? hi.place x)).1
  apply eq_of_sigma
  rw [← content_fst_getElem? hi.place, hi.content_set, List.getElem?_set_self hlt]

/-- Setting one field leaves the others. -/
theorem get_set_of_ne {f g : Field μ} (hf : f ∈ s.fields) (hg : g ∈ s.fields) (hne : g ≠ f)
    (value : f.τ) (x : μ) : g.get (f.set value x) = g.get x := by
  obtain ⟨i, hi⟩ := h.fields f hf
  obtain ⟨j, hj⟩ := h.fields g hg
  have hij : i ≠ j := by
    rintro rfl
    exact hne (Option.some.inj (hj.place.symm.trans hi.place))
  apply eq_of_sigma
  rw [← content_fst_getElem? hj.place, ← content_fst_getElem? hj.place, hi.content_set,
    List.getElem?_set_ne hij]

/-- Setting a field leaves the choices. -/
theorem get?_set {f : Field μ} (hf : f ∈ s.fields) {a : Alternative μ} (ha : a ∈ s.alternatives)
    (value : f.τ) (x : μ) : a.get? (f.set value x) = a.get? x := by
  obtain ⟨i, hi⟩ := h.fields f hf
  refine content_snd_eq.1 ?_ a ha
  rw [hi.content_set]

/-- Choosing leaves the fields. -/
theorem get_setAlternative {a : Alternative μ} (ha : a ∈ s.alternatives) {f : Field μ}
    (hf : f ∈ s.fields) (value : a.τ) (x : μ) : f.get (a.set value x) = f.get x := by
  obtain ⟨i, hi⟩ := h.alternatives a ha
  refine content_fst_eq.1 ?_ f hf
  rw [hi.content_set]

/-- An alternative that was chosen is read back. -/
theorem get?_setAlternative {a : Alternative μ} (ha : a ∈ s.alternatives) (value : a.τ) (x : μ) :
    a.get? (a.set value x) = some value := by
  obtain ⟨i, hi⟩ := h.alternatives a ha
  have hlt : i < s.blank.length := (List.getElem?_eq_some_iff.1 (blank_getElem? hi.place)).1
  apply eq_of_sigma
  rw [← content_snd_getElem? hi.place, hi.content_set, List.getElem?_set_self hlt]

/-- Choosing one alternative drops the others. -/
theorem get?_setAlternative_of_ne {a b : Alternative μ} (ha : a ∈ s.alternatives)
    (hb : b ∈ s.alternatives) (hne : b ≠ a) (value : a.τ) (x : μ) :
    b.get? (a.set value x) = none := by
  obtain ⟨i, hi⟩ := h.alternatives a ha
  obtain ⟨j, hj⟩ := h.alternatives b hb
  have hij : i ≠ j := by
    rintro rfl
    exact hne (Option.some.inj (hj.place.symm.trans hi.place))
  apply eq_of_sigma
  rw [← content_snd_getElem? hj.place, hi.content_set, List.getElem?_set_ne hij,
    blank_getElem? hj.place]

/-- Setting a field to what it is changes nothing. -/
theorem set_get {f : Field μ} (hf : f ∈ s.fields) (x : μ) : f.set (f.get x) x = x := by
  refine h.ext (fun g hg => ?_) fun a ha => h.get?_set hf ha _ x
  by_cases hne : g = f
  · rw [hne, h.get_set hf]
  · exact h.get_set_of_ne hf hg hne _ x

/-- Of two values that a field is set to the second one counts. -/
theorem set_set {f : Field μ} (hf : f ∈ s.fields) (v w : f.τ) (x : μ) :
    f.set w (f.set v x) = f.set w x := by
  refine h.ext (fun g hg => ?_) fun a ha => ?_
  · by_cases hne : g = f
    · rw [hne, h.get_set hf, h.get_set hf]
    · rw [h.get_set_of_ne hf hg hne, h.get_set_of_ne hf hg hne, h.get_set_of_ne hf hg hne]
  · rw [h.get?_set hf ha, h.get?_set hf ha, h.get?_set hf ha]

/-- At most one alternative is present. -/
theorem get?_eq_none_of_ne {a b : Alternative μ} (ha : a ∈ s.alternatives)
    (hb : b ∈ s.alternatives) (hne : b ≠ a) {x : μ} (hx : (a.get? x).isSome) :
    b.get? x = none := by
  rcases s.shows_choice x with ⟨hnone, -⟩ | ⟨c, hc, value, -, hcopy⟩
  · have hmember := List.findSome?_eq_none_iff.1 hnone a ha
    rw [Option.map_eq_none_iff.1 hmember] at hx
    cases hx
  · rw [h.copy] at hcopy
    have hac : a = c := by
      by_contra hac
      rw [hcopy, h.get?_setAlternative_of_ne hc ha hac] at hx
      cases hx
    subst hac
    rw [hcopy]
    exact h.get?_setAlternative_of_ne ha hb hne value _

/-- What is found among alternatives that are present is what the only one gives. -/
theorem findSome?_alternatives {β : Type} {give : Alternative μ → Option β} {x : μ}
    (hgive : ∀ b ∈ s.alternatives, b.get? x = none → give b = none) {a : Alternative μ}
    (ha : a ∈ s.alternatives) (hx : (a.get? x).isSome) :
    s.alternatives.findSome? give = give a := by
  have hother : ∀ b ∈ s.alternatives, b ≠ a → give b = none := fun b hb hne =>
    hgive b hb (h.get?_eq_none_of_ne ha hb hne hx)
  clear hgive
  generalize s.alternatives = alternatives at ha hother
  induction alternatives with
  | nil => cases ha
  | cons b rest ih =>
    rw [List.forall_mem_cons] at hother
    rw [List.findSome?_cons]
    by_cases hb : b = a
    · subst hb
      cases hgive : give b with
      | some y => rfl
      | none =>
        refine List.findSome?_eq_none_iff.2 fun c hc => ?_
        by_cases hcb : c = b
        · rw [hcb, hgive]
        · exact hother.2 c hc hcb
    · rw [hother.1 hb]
      exact ih (List.mem_of_ne_of_mem (Ne.symm hb) ha) hother.2

/-- The member of the alternative that is present. -/
theorem chosen?_eq {a : Alternative μ} (ha : a ∈ s.alternatives) {x : μ} {value : a.τ}
    (hx : a.get? x = some value) : s.chosen? x = some (a.key, a.format.toJson value) := by
  rw [chosen?, h.findSome?_alternatives (fun b _ hb => by rw [Alternative.member?, hb]; rfl) ha
    (by rw [hx]; rfl), Alternative.member?, hx]
  rfl

/-- The binary field of the alternative that is present. -/
theorem chosenPart?_eq {a : Alternative μ} (ha : a ∈ s.alternatives) {x : μ} {value : a.τ}
    (hx : a.get? x = some value) :
    s.chosenPart? x = some (a.number, a.format.toWire a.number value) := by
  rw [chosenPart?, h.findSome?_alternatives (fun b _ hb => by rw [Alternative.part?, hb]; rfl) ha
    (by rw [hx]; rfl), Alternative.part?, hx]
  rfl

end Schema.Independent

end TelemetrySpool
