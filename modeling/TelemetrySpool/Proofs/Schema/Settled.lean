import TelemetrySpool.Proofs.Schema.Message

/-!
# What reading makes of any message

Whatever object or array a message is read from, in whatever order its members stand, its fields end
up with values that were read from parts of it, or are missing and keep their initial values. So
what the message writes is sound, and opens no more brackets than it was read with, unless an
initial value does.
-/

namespace TelemetrySpool

open Json (Every Written HasKind Regular Sound Settled depth)

variable {μ : Type} {levels slack : Nat}

/-- A sound value that leaves room for a bracket around it. -/
def Json.Inside (bound : Nat) (j : Json) : Prop := Every Sound j ∧ depth j < bound

open Json (Inside)

/-- How far the reading of a message has come: fields with a key that was seen hold values that
leave room, and the others may still have their initial values. -/
structure Schema.Progress (s : Schema μ) (bound : Nat) (seen : List String) (message : μ) :
    Prop where
  fields : ∀ f ∈ s.fields, Inside bound (f.member message).2 ∨
    f.key ∉ seen ∧ f.member message = f.member s.initial
  choice : ∀ x ∈ s.choiceMembers message, Inside bound x.2

/-- A value that is read from a part of a message leaves room for a bracket. -/
theorem Format.Lawful.inside {τ : Type} {f : Format τ} {c bound : Nat} (hf : f.Lawful levels c)
    (hc : c = 0 ∨ c < slack) (hs : slack ≤ bound) {j : Json} (hj : Every Regular j)
    (hd : depth j < bound) {value : τ} (hv : f.ofJson? j = some value) :
    Inside bound (f.toJson value) := by
  have hset := hf.settled hj hv
  refine ⟨hset.1, Nat.lt_of_le_of_lt hset.2 ?_⟩
  omega

namespace Schema

theorem choiceMembers_congr {s : Schema μ} {m m' : μ} (h : s.chosen? m = s.chosen? m') :
    s.choiceMembers m = s.choiceMembers m' := by
  rw [choiceMembers, choiceMembers, h]

end Schema

namespace Schema.Lawful

variable {s : Schema μ} (h : s.Lawful levels slack)

include h

theorem progress_initial {bound : Nat} (hb : 0 < bound) : s.Progress bound [] s.initial where
  fields := fun f _ => .inr ⟨List.not_mem_nil, rfl⟩
  choice := by
    intro x hx
    rw [choiceMembers, h.initial] at hx
    split at hx
    · cases hx
    · cases hx
    · rw [List.mem_singleton] at hx
      subst hx
      exact ⟨Json.every_null.2 ⟨trivial, trivial⟩, hb⟩

/-- Fields with the same key are the same. -/
theorem field_eq {f g : Field μ} (hf : f ∈ s.fields) (hg : g ∈ s.fields) (hk : f.key = g.key) :
    f = g := by
  have he := h.fieldByKey?_key hf
  rw [hk, h.fieldByKey?_key hg] at he
  exact (Option.some.inj he).symm

/-- Reading a field leaves the others as they are. -/
theorem progress_field {bound : Nat} (hs : slack ≤ bound) {seen : List String} {m m' : μ}
    (hp : s.Progress bound seen m) {f : Field μ} (hf : f ∈ s.fields) {j : Json}
    (hj : Every Regular j) (hd : depth j < bound) (hr : f.read? j m = some m') :
    s.Progress bound (f.key :: seen) m' := by
  obtain ⟨value, hv, rfl⟩ := Option.map_eq_some_iff.1 hr
  obtain ⟨c, hc, hcs⟩ := (h.fields f hf).format
  obtain ⟨i, hi⟩ := (h.fields f hf).stands
  have hshown := hi.shown_set value m
  have hmembers := congrArg Prod.fst hshown
  have hchosen := congrArg Prod.snd hshown
  refine ⟨fun g hg => ?_, ?_⟩
  · by_cases hkey : g.key = f.key
    · left
      rw [h.field_eq hg hf hkey, Field.member, hi.get_set]
      exact hc.inside hcs hs hj hd hv
    · have hmem : g.member (f.set value m) ∈ s.fields.map (·.member (f.set value m)) :=
        List.mem_map_of_mem hg
      rw [show s.fields.map (·.member (f.set value m)) = _ from hmembers] at hmem
      rcases List.mem_or_eq_of_mem_set hmem with hmem | he
      · obtain ⟨g', hg', he⟩ := List.mem_map.1 hmem
        have hgg : g' = g := h.field_eq hg' hg (congrArg Prod.fst he)
        rw [hgg] at he
        rw [← he]
        rcases hp.fields g hg with hin | ⟨hns, hinit⟩
        · exact .inl hin
        · refine .inr ⟨fun hmem => ?_, hinit⟩
          rcases List.mem_cons.1 hmem with hk | hk
          · exact hkey hk
          · exact hns hk
      · exact absurd (congrArg Prod.fst he) hkey
  · rw [choiceMembers_congr (show s.chosen? (f.set value m) = s.chosen? m from hchosen)]
    exact hp.choice

/-- Reading an alternative leaves the fields as they are. -/
theorem fields_of_alternative {bound : Nat} {seen : List String} {m m' : μ}
    (hp : s.Progress bound seen m) {a : Alternative μ} (ha : a ∈ s.alternatives) {j : Json}
    (hr : a.read? j m = some m') : ∃ value, a.format.ofJson? j = some value ∧
      s.chosen? m' = some (a.key, a.format.toJson value) ∧
      ∀ f ∈ s.fields, Inside bound (f.member m').2 ∨
        f.key ∉ seen ∧ f.member m' = f.member s.initial := by
  obtain ⟨value, hv, rfl⟩ := Option.map_eq_some_iff.1 hr
  have hshown := (h.alternatives a ha).shown_set value m
  have hmembers := congrArg Prod.fst hshown
  refine ⟨value, hv, congrArg Prod.snd hshown, fun g hg => ?_⟩
  have hmem : g.member (a.set value m) ∈ s.fields.map (·.member (a.set value m)) :=
    List.mem_map_of_mem hg
  rw [show s.fields.map (·.member (a.set value m)) = s.fields.map (·.member m) from hmembers]
    at hmem
  obtain ⟨g', hg', he⟩ := List.mem_map.1 hmem
  have hgg : g' = g := h.field_eq hg' hg (congrArg Prod.fst he)
  rw [hgg] at he
  rw [← he]
  exact hp.fields g hg

/-- Reading an alternative beside the fields. -/
theorem progress_alternative {bound : Nat} (hs : slack ≤ bound) (hpl : s.placement = .beside)
    {seen : List String} {m m' : μ} (hp : s.Progress bound seen m) {a : Alternative μ}
    (ha : a ∈ s.alternatives) {j : Json} (hj : Every Regular j) (hd : depth j < bound)
    (hr : a.read? j m = some m') : s.Progress bound seen m' := by
  obtain ⟨value, hv, hchosen, hfields⟩ := h.fields_of_alternative hp ha hr
  obtain ⟨c, hc, hcs⟩ := (h.alternatives a ha).format
  refine ⟨hfields, ?_⟩
  simp only [choiceMembers, hpl, hchosen, Option.toList_some, List.forall_mem_singleton]
  exact hc.inside (by omega) hs hj hd hv

/-- Reading a choice from an object of its own. -/
theorem progress_choice {bound : Nat} (hs : slack ≤ bound) {key : String}
    (hpl : s.placement = .under key) {seen : List String} {m m' : μ}
    (hp : s.Progress bound seen m) {j : Json} (hj : Every Regular j) (hd : depth j < bound)
    (hr : s.readChoice? j m = some m') : s.Progress bound (key :: seen) m' := by
  have hseen {m : μ} (hf : ∀ f ∈ s.fields, Inside bound (f.member m).2 ∨
      f.key ∉ seen ∧ f.member m = f.member s.initial) : ∀ f ∈ s.fields,
      Inside bound (f.member m).2 ∨ f.key ∉ key :: seen ∧ f.member m = f.member s.initial := by
    intro f hfm
    rcases hf f hfm with hin | ⟨hns, hinit⟩
    · exact .inl hin
    · refine .inr ⟨fun hmem => ?_, hinit⟩
      rcases List.mem_cons.1 hmem with hk | hk
      · exact h.key_ne_of_under hpl hfm hk
      · exact hns hk
  rw [readChoice?.eq_def] at hr
  split at hr
  · cases hr
    exact ⟨hseen hp.fields, hp.choice⟩
  · next name j =>
    split at hr
    · next a hfind =>
      have ha : a ∈ s.alternatives := List.mem_of_find?_eq_some hfind
      obtain ⟨value, hv, hchosen, hfields⟩ := h.fields_of_alternative hp ha hr
      obtain ⟨c, hc, hcs⟩ := (h.alternatives a ha).format
      have hregular := (Json.every_object.1 hj).2 (name, j) List.mem_cons_self
      have hlt := Json.depth_lt_of_member (x := (name, j)) (List.mem_singleton_self _)
      have hset := hc.settled hregular hv
      refine ⟨hseen hfields, ?_⟩
      simp only [choiceMembers, hpl, hchosen, Option.map_some, Option.getD_some,
        List.forall_mem_singleton]
      refine ⟨Json.every_object.2 ⟨⟨by simp [HasKind], trivial⟩, ?_⟩, ?_⟩
      · simpa using hset.1
      · have hle : depth (.object [(a.key, a.format.toJson value)]) ≤
            depth (a.format.toJson value) + 1 := Json.depth_object_le.2 (by simp)
        have hdv := hset.2
        omega
    · cases hr
  · cases hr

/-- Members in any order leave the message in progress, and those that are not known are kept. -/
theorem progress_readMembers {bound : Nat} (hs : slack ≤ bound) {members : List (String × Json)}
    (hmembers : ∀ x ∈ members, Every Regular x.2 ∧ depth x.2 < bound) {seen seen' : List String}
    {others others' : List (String × Json)} {m m' : μ} (hp : s.Progress bound seen m)
    (hothers : ∀ x ∈ others, Every Regular x.2 ∧ depth x.2 < bound)
    (hr : s.readMembers seen others m members = some (seen', others', m')) :
    s.Progress bound seen' m' ∧ ∀ x ∈ others', Every Regular x.2 ∧ depth x.2 < bound := by
  induction members generalizing seen others m with
  | nil =>
    cases hr
    exact ⟨hp, fun x hx => hothers x (List.mem_reverse.1 hx)⟩
  | cons member rest ih =>
    obtain ⟨key, j⟩ := member
    rw [List.forall_mem_cons] at hmembers
    obtain ⟨⟨hj, hd⟩, hrest⟩ := hmembers
    rw [readMembers] at hr
    split at hr
    · exact ih hrest hp (List.forall_mem_cons.2 ⟨⟨hj, hd⟩, hothers⟩) hr
    · next read hread =>
      split at hr
      · cases hr
      · split at hr
        · next next hnext =>
          refine ih hrest ?_ hothers hr
          rw [readMember?] at hread
          split at hread
          · next f hfind =>
            cases hread
            have hf : f ∈ s.fields := List.mem_of_find?_eq_some hfind
            have hkey : f.key = key := by
              rw [fieldByKey?] at hfind
              have hk := List.find?_some hfind
              exact of_decide_eq_true hk
            rw [← hkey]
            exact h.progress_field hs hp hf hj hd hnext
          · split at hread
            · next hpl =>
              cases hread
              exact h.progress_choice hs hpl hp hj hd hnext
            · cases hread
        · cases hr

theorem progress_takeAlternative {bound : Nat} (hs : slack ≤ bound) (hpl : s.placement = .beside)
    {seen : List String} {others : List (String × Json)} {m : μ} (hp : s.Progress bound seen m)
    (hothers : ∀ x ∈ others, Every Regular x.2 ∧ depth x.2 < bound) :
    s.Progress bound seen (s.takeAlternative others m) := by
  rw [takeAlternative]
  split
  · next key j hfind =>
    obtain ⟨hj, hd⟩ := hothers _ (List.mem_of_find?_eq_some hfind)
    split
    · next a halt =>
      cases hr : a.read? j m with
      | none => exact hp
      | some m' =>
        exact h.progress_alternative hs hpl hp (List.mem_of_find?_eq_some halt) hj hd hr
    · exact hp
  · exact hp

/-- After the fields there is a position for the choice at most. -/
theorem progress_lastPosition {bound : Nat} (hs : slack ≤ bound) {item : Json} {rest : List Json}
    (hj : Every Regular item) (hd : depth item < bound) {seen : List String}
    (hseen : ∀ f ∈ s.fields, f.key ∈ seen) {m m' : μ} {missing : Nat} (hp : s.Progress bound seen m)
    (hr : readPositions m (match s.placement with
      | .under _ => [s.readChoice?]
      | _ => []) (item :: rest) = some (missing, m')) :
    ∃ seen', s.Progress bound seen' m' ∧ ∀ f ∈ s.fields, f.key ∈ seen' := by
  split at hr
  · next key hpl =>
    rw [readPositions] at hr
    split at hr
    · next next hnext =>
      cases rest with
      | nil =>
        cases hr
        exact ⟨key :: seen, h.progress_choice hs hpl hp hj hd hnext,
          fun f hf => List.mem_cons_of_mem _ (hseen f hf)⟩
      | cons => cases hr
    · cases hr
  · cases hr

/-- Items by position leave the message in progress, and if none is missing all fields are seen. -/
theorem progress_readPositions {bound : Nat} (hs : slack ≤ bound) {items : List Json}
    (hitems : ∀ x ∈ items, Every Regular x ∧ depth x < bound) {left : List (Field μ)}
    (hleft : ∀ f ∈ left, f ∈ s.fields) {seen : List String}
    (hseen : ∀ f ∈ s.fields, f ∈ left ∨ f.key ∈ seen) {m m' : μ} {missing : Nat}
    (hp : s.Progress bound seen m)
    (hr : readPositions m (left.map Field.read? ++
      match s.placement with
      | .under _ => [s.readChoice?]
      | _ => []) items = some (missing, m')) :
    ∃ seen', s.Progress bound seen' m' ∧ (missing = 0 → ∀ f ∈ s.fields, f.key ∈ seen') := by
  induction items generalizing left seen m with
  | nil =>
    rw [readPositions] at hr
    cases hr
    refine ⟨seen, hp, fun hz f hf => ?_⟩
    rcases hseen f hf with hl | hk
    · rw [List.length_append, List.length_map] at hz
      exact absurd (List.length_eq_zero_iff.1 (Nat.eq_zero_of_add_eq_zero_right hz) ▸ hl)
        List.not_mem_nil
    · exact hk
  | cons item rest ih =>
    rw [List.forall_mem_cons] at hitems
    obtain ⟨⟨hj, hd⟩, hrest⟩ := hitems
    cases left with
    | cons f left =>
      rw [List.map_cons, List.cons_append, readPositions] at hr
      split at hr
      · next next hnext =>
        have hf := hleft f List.mem_cons_self
        refine ih hrest (fun g hg => hleft g (List.mem_cons_of_mem _ hg)) (fun g hg => ?_)
          (h.progress_field hs hp hf hj hd hnext) hr
        rcases hseen g hg with hl | hk
        · rcases List.mem_cons.1 hl with rfl | hl
          · exact .inr List.mem_cons_self
          · exact .inl hl
        · exact .inr (List.mem_cons_of_mem _ hk)
      · cases hr
    | nil =>
      rw [List.map_nil, List.nil_append] at hr
      obtain ⟨seen', hp', hall⟩ := h.progress_lastPosition hs hj hd
        (fun f hf => (hseen f hf).resolve_left List.not_mem_nil) hp hr
      exact ⟨seen', hp', fun _ => hall⟩

/-- A message that was read to the end writes a sound value within the bound. -/
theorem settled_of_progress {bound : Nat} (hb : 0 < bound) (hs : slack ≤ bound)
    {seen : List String} {m : μ} (hp : s.Progress bound seen m)
    (hseen : s.strict = true → ∀ f ∈ s.fields, f.format.optional = false → f.key ∈ seen) :
    Settled bound (s.toJson m) := by
  have hfield : ∀ f ∈ s.fields, Inside bound (f.member m).2 := by
    intro f hf
    rcases hp.fields f hf with hin | ⟨hns, hinit⟩
    · exact hin
    · have hstarts := (h.fields f hf).starts
      obtain ⟨i, hi⟩ := (h.fields f hf).stands
      rw [hinit, Field.member, hi.initial]
      refine ⟨hstarts.sound, ?_⟩
      rcases h.defaults with hstrict | hslack
      · cases ho : f.format.optional with
        | false => exact absurd (hseen hstrict f hf ho) hns
        | true => exact Nat.lt_of_le_of_lt (Nat.le_of_eq (hstarts.depth_eq ho)) hb
      · exact Nat.lt_of_le_of_lt hstarts.depth_le (by omega)
  have hmember : ∀ x ∈ s.fields.map (·.member m) ++ s.choiceMembers m, Inside bound x.2 := by
    rw [List.forall_mem_append]
    refine ⟨fun x hx => ?_, hp.choice⟩
    obtain ⟨f, hf, rfl⟩ := List.mem_map.1 hx
    exact hfield f hf
  have hne : s.fields.map (·.member m) ++ s.choiceMembers m ≠ [] := by
    intro hnil
    exact h.fields_ne (List.map_eq_nil_iff.1 (List.append_eq_nil_iff.1 hnil).1)
  refine ⟨Json.every_object.2 ⟨⟨hne, trivial⟩, fun x hx => (hmember x hx).1⟩, ?_⟩
  obtain ⟨n, rfl⟩ := Nat.exists_eq_add_of_le' hb
  exact Json.depth_object_le.2 fun x hx => Nat.le_of_lt_succ (hmember x hx).2

theorem settled_of_ofMembers? {bound : Nat} (hb : 0 < bound) (hs : slack ≤ bound)
    {members : List (String × Json)}
    (hmembers : ∀ x ∈ members, Every Regular x.2 ∧ depth x.2 < bound) {m : μ}
    (hr : s.ofMembers? members = some m) : Settled bound (s.toJson m) := by
  obtain ⟨⟨seen, others, m'⟩, hread, hr⟩ := Option.bind_eq_some_iff.1 hr
  obtain ⟨hp, hothers⟩ := h.progress_readMembers hs hmembers (h.progress_initial hb) (by simp) hread
  simp only at hr
  split at hr
  · next hcomplete =>
    have hseen : s.strict = true → ∀ f ∈ s.fields, f.format.optional = false → f.key ∈ seen := by
      intro hstrict f hf ho
      rw [complete, hstrict, Bool.not_true, Bool.false_or, List.all_eq_true] at hcomplete
      have hf := hcomplete f hf
      rw [ho, Bool.false_or] at hf
      exact List.contains_iff_mem.1 hf
    split at hr
    · next hpl =>
      split at hr
      · cases hr
        exact h.settled_of_progress hb hs (h.progress_takeAlternative hs hpl hp hothers) hseen
      · cases hr
    · cases hr
      exact h.settled_of_progress hb hs hp hseen
  · cases hr

theorem settled_of_ofItems? {bound : Nat} (hb : 0 < bound) (hs : slack ≤ bound)
    {items : List Json} (hitems : ∀ x ∈ items, Every Regular x ∧ depth x < bound) {m : μ}
    (hr : s.ofItems? items = some m) : Settled bound (s.toJson m) := by
  obtain ⟨⟨missing, m'⟩, hread, hr⟩ := Option.bind_eq_some_iff.1 hr
  obtain ⟨seen, hp, hseen⟩ := h.progress_readPositions hs hitems (fun f hf => hf)
    (fun f hf => .inl hf) (h.progress_initial hb) hread
  simp only at hr
  split at hr
  · cases hr
  · next hmissing =>
    cases hr
    refine h.settled_of_progress hb hs hp fun hstrict f hf _ => ?_
    exact hseen (by_contra fun hne => hmissing ⟨hstrict, hne⟩) f hf

/-- Whatever a message was read from, it writes a sound value that opens no more brackets. -/
theorem settled {j : Json} {m : μ} (hj : Every Regular j) (hr : s.ofJson? j = some m) :
    Settled (max (depth j) slack) (s.toJson m) := by
  have hs : slack ≤ max (depth j) slack := Nat.le_max_right _ _
  cases j with
  | object members =>
    refine h.settled_of_ofMembers? (Nat.lt_of_lt_of_le (Nat.succ_pos _) (Nat.le_max_left _ _)) hs
      (fun x hx => ⟨(Json.every_object.1 hj).2 x hx, ?_⟩) hr
    exact Nat.lt_of_lt_of_le (Json.depth_lt_of_member hx) (Nat.le_max_left _ _)
  | array items =>
    rw [ofJson?] at hr
    split at hr
    · cases hr
    · refine h.settled_of_ofItems? (Nat.lt_of_lt_of_le (Nat.succ_pos _) (Nat.le_max_left _ _)) hs
        (fun x hx => ⟨(Json.every_array.1 hj).2 x hx, ?_⟩) hr
      exact Nat.lt_of_lt_of_le (Json.depth_lt_of_item hx) (Nat.le_max_left _ _)
  | _ => cases hr

end Schema.Lawful

/-- Messages are lawful as fields of other messages. -/
theorem Schema.format_lawful {s : Schema μ} (h : s.Lawful levels slack) :
    s.format.Lawful levels slack where
  written := h.written
  ne_null := nofun
  readBack := h.ofJson?_toJson
  settled := h.settled

end TelemetrySpool
