import TelemetrySpool.Proofs.Schema.Content

/-!
# What a message has from JSON

Every field of a message that was read from JSON is what the value under its key was read as, or the
initial one if there is no such key. A choice beside the fields is different: it is what the first
member that names an alternative was read as, and if its value does not fit, nothing is present and
the message is read all the same. Lists of messages have one message for each item.
-/

namespace TelemetrySpool

variable {μ τ : Type} {levels slack : Nat}

namespace Schema

/-- The members that a JSON value gives: the items of an array stand for the fields in order. -/
def given (s : Schema μ) : Json → List (String × Json)
  | .object members => members
  | .array items => (s.fields.map (·.key)).zip items
  | _ => []

/-- The first member that names an alternative. -/
def named? (s : Schema μ) (j : Json) : Option (String × Json) :=
  (s.given j).find? fun member => (s.alternativeByKey? member.1).isSome

/-- The items of the array under a key. -/
def itemsAt (s : Schema μ) (key : String) (j : Json) : List Json :=
  match (s.given j).lookup key with
  | some (.array items) => items
  | _ => []

end Schema

/-- A field is what its value in a list of members was read as, or as it was before. -/
structure Field.ReadFrom (f : Field μ) (members : List (String × Json)) (before after : μ) :
    Prop where
  absent : members.lookup f.key = none → f.get after = f.get before
  given : ∀ j, members.lookup f.key = some j → f.format.ofJson? j = some (f.get after)

theorem lookup_cons_of_ne {key name : String} (h : key ≠ name) (j : Json)
    (members : List (String × Json)) : ((key, j) :: members).lookup name = members.lookup name := by
  rw [List.lookup_cons, beq_false_of_ne h.symm]

namespace Field.ReadFrom

variable {f : Field μ} {members : List (String × Json)} {key : String} {j : Json} {x y z : μ}

theorem nil (h : f.get y = f.get x) : f.ReadFrom [] x y :=
  ⟨fun _ => h, fun _ hj => by cases hj⟩

/-- The first member with the key of a field is the one that counts. -/
theorem cons (h : f.format.ofJson? j = some (f.get y)) :
    f.ReadFrom ((f.key, j) :: members) x y := by
  have hlookup : ((f.key, j) :: members).lookup f.key = some j := by
    rw [List.lookup_cons, beq_self_eq_true]
  refine ⟨fun hnone => ?_, fun k hk => ?_⟩
  · rw [hlookup] at hnone
    cases hnone
  · rw [hlookup] at hk
    cases hk
    exact h

/-- A member with another key does not matter. -/
theorem cons_of_ne (h : f.ReadFrom members x y) (hne : key ≠ f.key) (j : Json) :
    f.ReadFrom ((key, j) :: members) x y := by
  have hlookup := lookup_cons_of_ne hne j members
  exact ⟨hlookup ▸ h.absent, hlookup ▸ h.given⟩

/-- What came before matters for the field only. -/
theorem of_eq (h : f.ReadFrom members y z) (hsame : f.get y = f.get x) : f.ReadFrom members x z :=
  ⟨fun hnone => (h.absent hnone).trans hsame, h.given⟩

/-- What comes after matters for the field only. -/
theorem trans_eq (h : f.ReadFrom members x y) (hsame : f.get z = f.get y) :
    f.ReadFrom members x z :=
  ⟨fun hnone => hsame.trans (h.absent hnone),
    fun j hj => (h.given j hj).trans (congrArg some hsame.symm)⟩

end Field.ReadFrom

/-- What a message has from the JSON value that it was read from. -/
structure Schema.ReadFrom (s : Schema μ) (j : Json) (message : μ) : Prop where
  fields : ∀ f ∈ s.fields, f.ReadFrom (s.given j) s.initial message
  choice : s.placement = .beside → ∀ a ∈ s.alternatives, a.get? message =
    ((s.named? j).filter (·.1 = a.key)).bind fun member => a.format.ofJson? member.2

namespace Schema

/-- The first member that names an alternative has the key of one. -/
theorem exists_of_find?_alternative {s : Schema μ} {members : List (String × Json)} {key : String}
    {j : Json} (h : members.find? (fun member => (s.alternativeByKey? member.1).isSome) =
      some (key, j)) : ∃ a ∈ s.alternatives, a.key = key ∧ s.alternativeByKey? a.key = some a := by
  have hsome := List.find?_some h
  obtain ⟨a, ha⟩ := Option.isSome_iff_exists.1 hsome
  obtain ⟨hmem, rfl⟩ := mem_of_find?_key ha
  exact ⟨a, hmem, rfl, ha⟩

/-- No member that names an alternative is that of a field. -/
theorem Lawful.find?_unknown {s : Schema μ} (h : s.Lawful levels slack)
    (members : List (String × Json)) :
    (members.filter fun member => (s.fieldByKey? member.1).isNone).find?
        (fun member => (s.alternativeByKey? member.1).isSome) =
      members.find? fun member => (s.alternativeByKey? member.1).isSome := by
  rw [List.find?_filter]
  refine congrArg (fun p => members.find? p) (funext fun member => ?_)
  cases ha : s.alternativeByKey? member.1 with
  | none => simp
  | some a =>
    obtain ⟨hmem, hkey⟩ := mem_of_find?_key ha
    rw [← hkey, h.fieldByKey?_alternative hmem]
    rfl

/-- Only fields are read where the choice stands beside them. -/
theorem readMember?_of_beside {s : Schema μ} (h : s.placement = .beside) (key : String) :
    s.readMember? key = (s.fieldByKey? key).map Field.read? := by
  rw [readMember?, h]
  cases s.fieldByKey? key with
  | none => rfl
  | some f => rfl

/-- Readers that leave a field leave it when they are taken by position. -/
theorem get_readPositions {f : Field μ} {readers : List (Json → μ → Option μ)}
    (hreaders : ∀ read ∈ readers, ∀ j x y, read j x = some y → f.get y = f.get x)
    {items : List Json} {missing : Nat} {x y : μ}
    (hr : readPositions x readers items = some (missing, y)) : f.get y = f.get x := by
  induction readers generalizing items x with
  | nil =>
    cases items with
    | nil =>
      cases hr
      rfl
    | cons => cases hr
  | cons read rest ih =>
    rw [List.forall_mem_cons] at hreaders
    cases items with
    | nil =>
      cases hr
      rfl
    | cons item items =>
      rw [readPositions] at hr
      split at hr
      · next z hz => exact (ih hreaders.2 hr).trans (hreaders.1 item x z hz)
      · cases hr

end Schema

namespace Schema.Independent

variable {s : Schema μ} (h : s.Independent)

include h

/-- Reading an alternative leaves the fields. -/
theorem get_readAlternative {a : Alternative μ} (ha : a ∈ s.alternatives) {f : Field μ}
    (hf : f ∈ s.fields) {j : Json} {x y : μ} (hr : a.read? j x = some y) : f.get y = f.get x := by
  obtain ⟨value, -, rfl⟩ := Option.map_eq_some_iff.1 hr
  exact h.get_setAlternative ha hf value x

/-- Reading the object of a choice leaves the fields. -/
theorem get_readChoice {f : Field μ} (hf : f ∈ s.fields) {j : Json} {x y : μ}
    (hr : s.readChoice? j x = some y) : f.get y = f.get x := by
  rw [readChoice?.eq_def] at hr
  split at hr
  · cases hr
    rfl
  · split at hr
    · next a hfind => exact h.get_readAlternative (List.mem_of_find?_eq_some hfind) hf hr
    · cases hr
  · cases hr

/-- What reading a member does to a field: it is that of the field, or it leaves the field. -/
theorem get_readMember {f : Field μ} (hf : f ∈ s.fields) (hkeys : (s.fields.map (·.key)).Nodup)
    {key : String} {read : Json → μ → Option μ} (hread : s.readMember? key = some read) {j : Json}
    {x y : μ} (hr : read j x = some y) :
    (key = f.key ∧ f.format.ofJson? j = some (f.get y)) ∨ (key ≠ f.key ∧ f.get y = f.get x) := by
  rw [readMember?] at hread
  split at hread
  · next g hfind =>
    cases hread
    obtain ⟨hg, hkey⟩ := mem_of_find?_key hfind
    obtain ⟨value, hvalue, rfl⟩ := Option.map_eq_some_iff.1 hr
    by_cases hgf : g = f
    · subst hgf
      exact .inl ⟨hkey.symm, by rw [h.get_set hg, hvalue]⟩
    · have hne : g.key ≠ f.key := fun he => hgf (List.inj_on_of_nodup_map hkeys hg hf he)
      exact .inr ⟨hkey ▸ hne, h.get_set_of_ne hg hf (Ne.symm hgf) value x⟩
  · next hnone =>
    split at hread
    · cases hread
      have hne : key ≠ f.key := by
        rintro rfl
        rw [fieldByKey?, find?_key hkeys hf] at hnone
        cases hnone
      exact .inr ⟨hne, h.get_readChoice hf hr⟩
    · cases hread

/-- Members that are read one after the other give every field its value. -/
theorem readFrom_readMembers {f : Field μ} (hf : f ∈ s.fields)
    (hkeys : (s.fields.map (·.key)).Nodup) {members : List (String × Json)}
    {seen seen' : List String} {others others' : List (String × Json)} {x y : μ}
    (hr : s.readMembers seen others x members = some (seen', others', y)) :
    f.ReadFrom members x y ∧ (f.key ∈ seen → members.lookup f.key = none) := by
  induction members generalizing seen others x with
  | nil =>
    cases hr
    exact ⟨.nil rfl, fun _ => rfl⟩
  | cons member rest ih =>
    obtain ⟨key, j⟩ := member
    rw [readMembers] at hr
    split at hr
    · next hunknown =>
      have hne : key ≠ f.key := by
        rintro rfl
        rw [readMember?, fieldByKey?, find?_key hkeys hf] at hunknown
        cases hunknown
      obtain ⟨hrest, hseen⟩ := ih hr
      exact ⟨hrest.cons_of_ne hne j, fun hmem => (lookup_cons_of_ne hne j rest).trans (hseen hmem)⟩
    · next read hread =>
      split at hr
      · cases hr
      · next hnew =>
        split at hr
        · next z hz =>
          obtain ⟨hrest, hseen⟩ := ih hr
          rcases h.get_readMember hf hkeys hread hz with ⟨rfl, hvalue⟩ | ⟨hne, hsame⟩
          · -- The key does not come again, so the field keeps the value that it was given.
            have hafter := hrest.absent (hseen List.mem_cons_self)
            exact ⟨.cons (hvalue.trans (congrArg some hafter.symm)), fun hmem => absurd hmem hnew⟩
          · exact ⟨(hrest.of_eq hsame).cons_of_ne hne j, fun hmem =>
              (lookup_cons_of_ne hne j rest).trans (hseen (List.mem_cons_of_mem _ hmem))⟩
        · cases hr

/-- Members that are read leave a choice beside the fields alone, and keep what is no field. -/
theorem others_readMembers (hplace : s.placement = .beside) {a : Alternative μ}
    (ha : a ∈ s.alternatives) {members : List (String × Json)} {seen seen' : List String}
    {others others' : List (String × Json)} {x y : μ}
    (hr : s.readMembers seen others x members = some (seen', others', y)) :
    a.get? y = a.get? x ∧
      others' = others.reverse ++ members.filter fun member => (s.fieldByKey? member.1).isNone := by
  induction members generalizing seen others x with
  | nil =>
    cases hr
    exact ⟨rfl, (List.append_nil _).symm⟩
  | cons member rest ih =>
    obtain ⟨key, j⟩ := member
    rw [readMembers, readMember?_of_beside hplace] at hr
    rw [List.filter_cons]
    cases hfind : s.fieldByKey? key with
    | none =>
      rw [hfind] at hr
      obtain ⟨hsame, hothers⟩ := ih hr
      exact ⟨hsame, by simp [hothers]⟩
    | some f =>
      rw [hfind] at hr
      simp only [Option.map_some] at hr
      split at hr
      · cases hr
      · split at hr
        · next z hz =>
          obtain ⟨hsame, hothers⟩ := ih hr
          obtain ⟨value, -, rfl⟩ := Option.map_eq_some_iff.1 hz
          have hf : f ∈ s.fields := List.mem_of_find?_eq_some hfind
          exact ⟨hsame.trans (h.get?_set hf ha value x), hothers⟩
        · cases hr

/-- A choice beside the fields is the first member that names an alternative, if its value fits. -/
theorem get?_takeAlternative (hkeys : (s.alternatives.map (·.key)).Nodup)
    {others : List (String × Json)} {x : μ} (hx : ∀ a ∈ s.alternatives, a.get? x = none)
    {a : Alternative μ} (ha : a ∈ s.alternatives) :
    a.get? (s.takeAlternative others x) =
      ((others.find? fun member => (s.alternativeByKey? member.1).isSome).filter
        (·.1 = a.key)).bind fun member => a.format.ofJson? member.2 := by
  rw [takeAlternative]
  cases hfind : others.find? fun member => (s.alternativeByKey? member.1).isSome with
  | none => exact hx a ha
  | some member =>
    obtain ⟨key, j⟩ := member
    obtain ⟨b, hmem, rfl, hb⟩ := exists_of_find?_alternative hfind
    simp only [hb]
    by_cases hba : b = a
    · subst hba
      simp only [Option.filter_some, decide_true, if_true, Option.bind_some, Alternative.read?]
      cases b.format.ofJson? j with
      | none => exact hx b ha
      | some value => exact h.get?_setAlternative ha value x
    · have hne : b.key ≠ a.key := fun he => hba (List.inj_on_of_nodup_map hkeys hmem ha he)
      simp only [Option.filter_some, hne, decide_false, Bool.false_eq_true, if_false,
        Option.bind_none, Alternative.read?]
      cases b.format.ofJson? j with
      | none => exact hx a ha
      | some value => exact h.get?_setAlternative_of_ne hmem ha (Ne.symm hba) value x

/-- Items that are read by position give every field its value; `last` are readers of no field. -/
theorem readFrom_readPositions {f : Field μ} (hf : f ∈ s.fields)
    (hkeys : (s.fields.map (·.key)).Nodup) {left : List (Field μ)} (hleft : left.Sublist s.fields)
    {last : List (Json → μ → Option μ)}
    (hlast : ∀ read ∈ last, ∀ j x y, read j x = some y → f.get y = f.get x) {items : List Json}
    {missing : Nat} {x y : μ}
    (hr : readPositions x (left.map Field.read? ++ last) items = some (missing, y)) :
    f.ReadFrom ((left.map (·.key)).zip items) x y := by
  induction left generalizing items x with
  | nil => exact .nil (get_readPositions hlast hr)
  | cons g left ih =>
    cases items with
    | nil =>
      cases hr
      exact .nil rfl
    | cons item rest =>
      have hg : g ∈ s.fields := hleft.subset List.mem_cons_self
      have hnodup := hkeys.sublist (hleft.map (·.key))
      rw [List.map_cons, List.nodup_cons] at hnodup
      rw [List.map_cons, List.cons_append, readPositions] at hr
      split at hr
      · next z hz =>
        obtain ⟨value, hvalue, rfl⟩ := Option.map_eq_some_iff.1 hz
        have hrest := ih ((List.sublist_cons_self g left).trans hleft) hr
        rw [List.map_cons, List.zip_cons_cons]
        by_cases hgf : g = f
        · subst hgf
          have hnone : ((left.map (·.key)).zip rest).lookup g.key = none := by
            refine List.lookup_eq_none_iff.2 fun pair hpair => ?_
            have hne : g.key ≠ pair.1 := fun he => hnodup.1 (he ▸ (List.of_mem_zip hpair).1)
            simpa using hne
          have hafter : g.get y = value := (hrest.absent hnone).trans (h.get_set hg value x)
          exact .cons (hvalue.trans (congrArg some hafter.symm))
        · have hne : g.key ≠ f.key := fun he => hgf (List.inj_on_of_nodup_map hkeys hg hf he)
          exact (hrest.of_eq (h.get_set_of_ne hg hf (Ne.symm hgf) value x)).cons_of_ne hne item
      · cases hr

/-- Taking an alternative leaves the fields. -/
theorem get_takeAlternative {f : Field μ} (hf : f ∈ s.fields) (others : List (String × Json))
    (x : μ) : f.get (s.takeAlternative others x) = f.get x := by
  rw [takeAlternative]
  split
  · next key j hfind =>
    split
    · next a halternative =>
      have ha : a ∈ s.alternatives := List.mem_of_find?_eq_some halternative
      cases hr : a.read? j x with
      | none => rfl
      | some y => exact h.get_readAlternative ha hf hr
    · rfl
  · rfl

theorem readFrom_of_ofMembers? (hl : s.Lawful levels slack) {members : List (String × Json)}
    {message : μ} (hr : s.ofMembers? members = some message) :
    s.ReadFrom (.object members) message := by
  obtain ⟨⟨seen, others, x⟩, hread, hr⟩ := Option.bind_eq_some_iff.1 hr
  have hfields : ∀ f ∈ s.fields, f.ReadFrom members s.initial x := fun f hf =>
    (h.readFrom_readMembers hf hl.fieldKeys hread).1
  simp only at hr
  split at hr
  · split at hr
    · next hplace =>
      split at hr
      · cases hr
        constructor
        · exact fun f hf => (hfields f hf).trans_eq (h.get_takeAlternative hf others x)
        · intro _ a ha
          have hnone : ∀ b ∈ s.alternatives, b.get? x = none := fun b hb =>
            (h.others_readMembers hplace hb hread).1.trans (h.get?_initial hb)
          obtain ⟨-, rfl⟩ := h.others_readMembers hplace ha hread
          rw [h.get?_takeAlternative (List.nodup_append.1 hl.keys).2.1 hnone ha, List.reverse_nil,
            List.nil_append, hl.find?_unknown]
          rfl
      · cases hr
    · next hplace =>
      cases hr
      exact ⟨hfields, fun hbeside => absurd hbeside hplace⟩
  · cases hr

/-- A message has its fields, and a choice beside them, from what it was read from. -/
theorem readFrom_of_ofJson? (hl : s.Lawful levels slack) {j : Json} {message : μ}
    (hr : s.ofJson? j = some message) : s.ReadFrom j message := by
  cases j with
  | object members => exact h.readFrom_of_ofMembers? hl hr
  | array items =>
    rw [ofJson?] at hr
    split at hr
    · cases hr
    · next hplace =>
      obtain ⟨⟨missing, x⟩, hread, hr⟩ := Option.bind_eq_some_iff.1 hr
      refine ⟨fun f hf => ?_, fun hbeside => absurd hbeside hplace⟩
      simp only at hr
      split at hr
      · cases hr
      · cases hr
        refine h.readFrom_readPositions hf hl.fieldKeys (List.Sublist.refl _) ?_ hread
        intro read hmem j x y hy
        split at hmem
        · obtain rfl := List.mem_singleton.1 hmem
          exact h.get_readChoice hf hy
        · cases hmem
  | _ => cases hr

end Schema.Independent

namespace Schema.ReadFrom

variable {s : Schema μ} {j : Json} {message : μ}

/-- A list has one value for each item of the array under its key. -/
theorem forall₂_itemsAt {key : String} {number : Nat} {f : Format τ} {get : μ → List τ}
    {set : List τ → μ → μ} (h : s.ReadFrom j message)
    (hf : ⟨key, number, f.list, get, set⟩ ∈ s.fields) (hinitial : get s.initial = []) :
    List.Forall₂ (fun item value => f.ofJson? item = some value) (s.itemsAt key j)
      (get message) := by
  have hread := h.fields _ hf
  rw [itemsAt]
  cases hlookup : (s.given j).lookup key with
  | none =>
    have hempty : get message = [] := (hread.absent hlookup).trans hinitial
    rw [hempty]
    exact .nil
  | some value =>
    have hvalue : Format.items? f.ofJson? value = some (get message) := hread.given value hlookup
    obtain ⟨items, rfl, hitems⟩ := Format.forall₂_of_items? hvalue
    exact hitems

end Schema.ReadFrom

end TelemetrySpool
