import TelemetrySpool.Proofs.Schema.Scalar
import TelemetrySpool.Proofs.Schema.Settled
import TelemetrySpool.Telemetry.AnyValue

/-!
# Attribute values read back

Attribute values nest, and the format of one level is made from the format of the level below. A
format of `n` levels reads back the values that open `n` brackets at most, and no value it reads
opens more brackets than the JSON value it was read from, so nesting does not add up. A value of no
kind is written as an empty object, and it is the only one that is not read back.
-/

namespace TelemetrySpool

open Json (Every Written HasKind Regular Sound Settled depth)

variable {levels : Nat} {value : Format AnyValue}

namespace AnyValue

/-- Lists of values are lawful if the values are. -/
theorem listSchema_lawful (h : value.Lawful levels 0) : (listSchema value).Lawful levels 0 :=
  .of_fields rfl (show ["values"].Nodup by decide) (.inl rfl) (fun _ => rfl)
    (.list 0 h (.inl rfl) ⟨rfl, fun _ _ => rfl, fun _ _ => rfl⟩)

/-- So are pairs of a key and a value. -/
theorem keyValueSchema_lawful (h : value.Lawful levels 0) (ho : value.optional = false) :
    (keyValueSchema value).Lawful levels 0 :=
  .of_fields rfl (show ["key", "value"].Nodup by decide) (.inl rfl) (fun ⟨_, _⟩ => rfl)
    ⟨.scalar 0 Scalar.text_lawful ⟨rfl, fun _ _ => rfl, fun _ _ => rfl⟩,
      .option 1 h ho (.inl rfl) ⟨rfl, fun _ _ => rfl, fun _ _ => rfl⟩⟩

/-- And lists of such pairs. -/
theorem keyedSchema_lawful (h : value.Lawful levels 0) (ho : value.optional = false) :
    (keyedSchema value).Lawful levels 0 :=
  .of_fields rfl (show ["values"].Nodup by decide) (.inl rfl) (fun _ => rfl)
    (.list 0 (Schema.format_lawful (keyValueSchema_lawful h ho)) (.inl rfl)
      ⟨rfl, fun _ _ => rfl, fun _ _ => rfl⟩)

/-- The formats of the kinds are lawful if that of the values inside is. -/
theorem kinds_lawful (h : value.Lawful levels 0) (ho : value.optional = false) :
    ∀ a ∈ kinds value, a.format.Lawful levels 0 :=
  List.forall_iff_forall_mem.1 ⟨Format.scalar_lawful Scalar.text_lawful,
    Format.scalar_lawful Scalar.bool_lawful, Format.scalar_lawful Scalar.int64Text_lawful,
    Format.scalar_lawful Scalar.double_lawful, Schema.format_lawful (listSchema_lawful h),
    Schema.format_lawful (keyedSchema_lawful h ho), Format.scalar_lawful Scalar.base64_lawful⟩

/-- Each kind of value has its own key. -/
theorem kinds_keys (value : Format AnyValue) : ((kinds value).map (·.key)).Nodup :=
  show ["stringValue", "boolValue", "intValue", "doubleValue", "arrayValue", "kvlistValue",
    "bytesValue"].Nodup by decide

/-- A list is written value by value. -/
theorem listToJson_eq (values : List AnyValue) : listToJson values = values.map toJson := by
  induction values with
  | nil => rfl
  | cons v rest ih => rw [listToJson, ih, List.map_cons]

/-- Pairs are written one by one. -/
theorem keyedToJson_eq (pairs : List KeyValue) : keyedToJson pairs = pairs.map keyValueToJson := by
  induction pairs with
  | nil => rfl
  | cons pair rest ih => rw [keyedToJson, ih, List.map_cons]

/-- The schema of keyed values writes them as they are written inside of values. -/
theorem keyValueSchema_toJson (hj : value.toJson = toJson) (pair : KeyValue) :
    (keyValueSchema value).toJson pair = keyValueToJson pair := by
  obtain ⟨key, v⟩ := pair
  cases v with
  | none => rfl
  | some v =>
    show Json.object [("key", .string key), ("value", value.toJson v)] = _
    rw [hj]
    rfl

/-- A value is an object whose only member is that of its kind. -/
theorem toJson_set (hj : value.toJson = toJson) : ∀ a ∈ kinds value, ∀ x v,
    toJson (a.set x v) = .object [(a.key, a.format.toJson x)] := by
  refine List.forall_iff_forall_mem.1 ⟨fun _ _ => rfl, fun _ _ => rfl, fun _ _ => rfl,
    fun _ _ => rfl, fun values _ => ?_, fun pairs _ => ?_, fun _ _ => rfl⟩
  · show toJson (list values) = .object [("arrayValue", .object [("values",
      .array (values.map value.toJson))])]
    rw [toJson, listToJson_eq, hj]
  · have hp : (keyValueSchema value).toJson = keyValueToJson :=
      funext (keyValueSchema_toJson hj)
    show toJson (keyed pairs) = .object [("kvlistValue", .object [("values",
      .array (pairs.map (keyValueSchema value).toJson))])]
    rw [toJson, keyedToJson_eq, hp]

/-- Every value but the empty one has a kind. -/
theorem exists_kind (value : Format AnyValue) {v : AnyValue} (h : v ≠ empty) :
    ∃ a ∈ kinds value, ∃ x, a.set x empty = v := by
  cases v with
  | empty => exact absurd rfl h
  | text x => exact ⟨_, .head _, x, rfl⟩
  | bool x => exact ⟨_, .tail _ (.head _), x, rfl⟩
  | int x => exact ⟨_, .tail _ (.tail _ (.head _)), x, rfl⟩
  | double x => exact ⟨_, .tail _ (.tail _ (.tail _ (.head _))), x, rfl⟩
  | list x => exact ⟨_, .tail _ (.tail _ (.tail _ (.tail _ (.head _)))), x, rfl⟩
  | keyed x => exact ⟨_, .tail _ (.tail _ (.tail _ (.tail _ (.tail _ (.head _))))), x, rfl⟩
  | octets x =>
    exact ⟨_, .tail _ (.tail _ (.tail _ (.tail _ (.tail _ (.tail _ (.head _)))))), x, rfl⟩

mutual

/-- Attribute values write words and nothing unreadable. -/
theorem written_toJson : ∀ v : AnyValue, Every Written v.toJson
  | empty => Json.every_object.2 ⟨trivial, nofun⟩
  | text _ =>
    Json.every_object.2 ⟨trivial, List.forall_mem_singleton.2 (Scalar.text_lawful.written _)⟩
  | bool _ =>
    Json.every_object.2 ⟨trivial, List.forall_mem_singleton.2 (Scalar.bool_lawful.written _)⟩
  | int _ =>
    Json.every_object.2 ⟨trivial, List.forall_mem_singleton.2 (Scalar.int64Text_lawful.written _)⟩
  | double _ =>
    Json.every_object.2 ⟨trivial, List.forall_mem_singleton.2 (Scalar.double_lawful.written _)⟩
  | list values => by
    have h := written_listToJson values
    simp only [toJson, Json.every_object, List.forall_mem_singleton, Json.every_array]
    exact ⟨trivial, trivial, trivial, h⟩
  | keyed pairs => by
    have h := written_keyedToJson pairs
    simp only [toJson, Json.every_object, List.forall_mem_singleton, Json.every_array]
    exact ⟨trivial, trivial, trivial, h⟩
  | octets _ =>
    Json.every_object.2 ⟨trivial, List.forall_mem_singleton.2 (Scalar.base64_lawful.written _)⟩

theorem written_listToJson : ∀ values : List AnyValue, ∀ x ∈ listToJson values, Every Written x
  | [] => nofun
  | v :: rest => List.forall_mem_cons.2 ⟨written_toJson v, written_listToJson rest⟩

theorem written_keyedToJson : ∀ pairs : List KeyValue, ∀ x ∈ keyedToJson pairs, Every Written x
  | [] => nofun
  | pair :: rest => List.forall_mem_cons.2 ⟨written_keyValueToJson pair, written_keyedToJson rest⟩

theorem written_keyValueToJson : ∀ pair : KeyValue, Every Written (keyValueToJson pair)
  | .mk key none => by
    simp only [keyValueToJson, optionToJson, Json.every_object, List.forall_mem_cons]
    exact ⟨trivial, Json.every_string.2 trivial, Json.every_null.2 trivial, nofun⟩
  | .mk key (some v) => by
    have h := written_toJson v
    simp only [keyValueToJson, optionToJson, Json.every_object, List.forall_mem_cons]
    exact ⟨trivial, Json.every_string.2 trivial, h, nofun⟩

end

/-- How deep a value may be read does not matter to writing it. -/
theorem formatWithin_toJson (n : Nat) : (formatWithin n).toJson = toJson := by
  cases n with
  | zero => rfl
  | succ n => rfl

theorem formatWithin_optional (n : Nat) : (formatWithin n).optional = false := by
  cases n with
  | zero => rfl
  | succ n => rfl

/-- A value is an object. -/
theorem exists_toJson (v : AnyValue) : ∃ members, toJson v = .object members := by
  cases v <;> exact ⟨_, rfl⟩

/-- A value whose kind fits is read back. -/
theorem ofJson?_toJson (h : value.Lawful levels 0) (ho : value.optional = false)
    (hj : value.toJson = toJson) {v : AnyValue} (hk : Every HasKind v.toJson)
    (hd : depth v.toJson ≤ levels + 1) : ofJson? value v.toJson = some v := by
  have hne : v ≠ empty := by
    rintro rfl
    exact hk.self rfl
  obtain ⟨a, ha, x, rfl⟩ := exists_kind value hne
  have hobj := toJson_set hj a ha x empty
  have hread : a.read? (a.format.toJson x) empty = some (a.set x empty) := by
    rw [hobj] at hk hd
    have hkind := (Json.every_object.1 hk).2 (a.key, a.format.toJson x) List.mem_cons_self
    have hdepth := Json.depth_object_le.1 hd (a.key, a.format.toJson x) List.mem_cons_self
    rw [Alternative.read?, (kinds_lawful h ho a ha).readBack x hkind hdepth]
    rfl
  have hr : (a.format.toJson x).readable = true := by
    refine Json.readable_of_every (((kinds_lawful h ho a ha).written x).mono fun j hj he => ?_)
    rw [he] at hj
    exact hj
  have hfind : (kinds value).find? (·.key = a.key) = some a := find?_key (kinds_keys value) ha
  rw [hobj, ofJson?, List.all_cons, hr, List.all_nil, Bool.and_self, if_pos rfl, readMembers]
  simp only [hfind, hread, readMembers]

/-- Members that name kinds give values that open no more brackets than they do. -/
theorem settled_readMembers (h : value.Lawful levels 0) (ho : value.optional = false)
    (hj : value.toJson = toJson) {bound : Nat} {members : List (String × Json)}
    (hmembers : ∀ x ∈ members, Every Regular x.2 ∧ depth x.2 < bound) {found : Option AnyValue}
    (hfound : ∀ v ∈ found, Settled bound (toJson v)) {v : AnyValue}
    (hr : readMembers value found members = some v) : Settled bound (toJson v) := by
  induction members generalizing found with
  | nil => exact hfound v hr
  | cons member rest ih =>
    obtain ⟨key, j⟩ := member
    rw [List.forall_mem_cons] at hmembers
    obtain ⟨⟨hregular, hd⟩, hrest⟩ := hmembers
    rw [readMembers] at hr
    split at hr
    · exact ih hrest hfound hr
    · next a hfind =>
      split at hr
      · next w hw =>
        refine ih hrest (fun u hu => ?_) hr
        cases hu
        have ha : a ∈ kinds value := List.mem_of_find?_eq_some hfind
        obtain ⟨x, hx, rfl⟩ := Option.map_eq_some_iff.1 hw
        have hset := (kinds_lawful h ho a ha).settled hregular hx
        rw [toJson_set hj a ha]
        obtain ⟨n, rfl⟩ := Nat.exists_eq_add_of_le' (Nat.lt_of_le_of_lt (Nat.zero_le _) hd)
        refine ⟨Json.every_object.2 ⟨⟨by simp [HasKind], trivial⟩,
          List.forall_mem_singleton.2 hset.1⟩, ?_⟩
        refine Json.depth_object_le.2 (List.forall_mem_singleton.2 ?_)
        have hle := hset.2
        show depth (a.format.toJson x) ≤ n
        omega
      · cases hr

/-- The format of some levels reads back the values that open as many brackets. -/
theorem formatWithin_lawful (n : Nat) : (formatWithin n).Lawful n 0 := by
  induction n with
  | zero =>
    refine ⟨written_toJson, fun _ v hv => ?_, fun v _ hd => ?_, fun _ hv => by cases hv⟩
    · obtain ⟨members, hm⟩ := exists_toJson v
      exact absurd (hm.symm.trans hv) nofun
    · obtain ⟨members, hm⟩ := exists_toJson v
      rw [formatWithin_toJson, hm] at hd
      cases hd
  | succ n ih =>
    refine ⟨written_toJson, fun _ v hv => ?_, fun v hk hd => ?_, fun {j v} hj hv => ?_⟩
    · obtain ⟨members, hm⟩ := exists_toJson v
      exact absurd (hm.symm.trans hv) nofun
    · exact ofJson?_toJson ih (formatWithin_optional n) (formatWithin_toJson n) hk hd
    · change ofJson? (formatWithin n) j = some v at hv
      rw [ofJson?.eq_def] at hv
      split at hv
      · next members =>
        split at hv
        · refine Settled.mono (settled_readMembers ih (formatWithin_optional n)
            (formatWithin_toJson n) (fun x hx => ⟨(Json.every_object.1 hj).2 x hx,
              Json.depth_lt_of_member hx⟩) (by simp) hv) (Nat.le_max_left _ _)
        · cases hv
      · cases hv

/-- Attribute values are read back whatever they are, as far as the brackets of a document go. -/
theorem format_lawful : format.Lawful maxLevels 0 := formatWithin_lawful maxLevels

end AnyValue

/-- A pair is lawful for values of all the levels that are read. -/
theorem KeyValue.schema_lawful : KeyValue.schema.Lawful AnyValue.maxLevels 0 :=
  AnyValue.keyValueSchema_lawful AnyValue.format_lawful (AnyValue.formatWithin_optional _)

end TelemetrySpool
