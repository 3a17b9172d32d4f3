import TelemetrySpool.Proofs.Schema.Delivery
import TelemetrySpool.Proofs.Telemetry.AnyValue

/-!
# Attribute values in binary fields

Attribute values have a binary form of their own, without a schema, so that it can be defined along
the values themselves. It is the binary form of their schema, whose format of one level is made from
the format of the level below. So values are carried by induction on the levels that they nest.
-/

namespace TelemetrySpool

open Json (Affordable depth)

variable {levels : Nat} {value : Format AnyValue}

/-- Fields whose numbers ascend stand in the order of the schema. -/
theorem Schema.toWire_of_ascending {μ : Type} {s : Schema μ} (hs : s.alternatives = [])
    (h : (s.fields.map (·.number)).Pairwise (· ≤ ·)) (message : μ) :
    s.toWire message = s.fields.flatMap (·.toWire message) := by
  have hparts : s.parts message = s.fields.map fun f => (f.number, f.toWire message) := by
    rw [parts, chosenPart?, hs]
    exact List.append_nil _
  have hpairwise : (s.parts message).Pairwise fun a b => a.1 ≤ b.1 := by
    rw [hparts]
    exact List.pairwise_map.2 (List.pairwise_map.1 h)
  rw [toWire, ordered_of_ascending hpairwise, hparts, List.flatMap_map]

namespace AnyValue

/-- Whether a format writes values as messages inside of messages. -/
def Writes (value : Format AnyValue) : Prop :=
  value.toWire = fun number v => Wire.field number (.counted (toWire v))

theorem listToWire_eq (values : List AnyValue) :
    listToWire values = values.flatMap fun v => Wire.field 1 (.counted (toWire v)) := by
  induction values with
  | nil => rfl
  | cons v rest ih => rw [listToWire, ih, List.flatMap_cons]

theorem keyedToWire_eq (pairs : List KeyValue) :
    keyedToWire pairs =
      pairs.flatMap fun pair => Wire.field 1 (.counted (keyValueToWire pair)) := by
  induction pairs with
  | nil => rfl
  | cons pair rest ih => rw [keyedToWire, ih, List.flatMap_cons]

theorem listSchema_toWire (h : Writes value) (values : List AnyValue) :
    (listSchema value).toWire values = listToWire values := by
  rw [Schema.toWire_of_ascending rfl (List.pairwise_singleton _ _), listToWire_eq]
  cases values with
  | nil => rfl
  | cons v rest =>
    show (v :: rest).flatMap (value.toWire 1) ++ [] = _
    rw [h, List.append_nil]

theorem keyValueSchema_toWire (h : Writes value) (pair : KeyValue) :
    (keyValueSchema value).toWire pair = keyValueToWire pair := by
  obtain ⟨key, v⟩ := pair
  have hvalue : (if v.isNone then [] else value.option.toWire 2 v) = optionToWire v := by
    cases v with
    | none => rfl
    | some v =>
      show value.toWire 2 v = _
      rw [h]
      rfl
  rw [Schema.toWire_of_ascending (s := keyValueSchema value) rfl
    (show [1, 2].Pairwise (· ≤ ·) by decide), keyValueToWire, ← hvalue]
  show (if decide (key = "") = true then [] else _) ++ (_ ++ []) = _
  simp only [List.append_nil, decide_eq_true_eq]
  rfl

theorem keyedSchema_toWire (h : Writes value) (pairs : List KeyValue) :
    (keyedSchema value).toWire pairs = keyedToWire pairs := by
  rw [Schema.toWire_of_ascending rfl (List.pairwise_singleton _ _), keyedToWire_eq]
  cases pairs with
  | nil => rfl
  | cons pair rest =>
    show (pair :: rest).flatMap (fun pair =>
      Wire.field 1 (.counted ((keyValueSchema value).toWire pair))) ++ [] = _
    simp only [keyValueSchema_toWire h, List.append_nil]

/-- The binary form of a value is that of its kind. -/
theorem toWire_set (h : Writes value) : ∀ a ∈ kinds value, ∀ x v,
    toWire (a.set x v) = a.format.toWire a.number x := by
  refine List.forall_iff_forall_mem.1 ⟨fun _ _ => rfl, fun _ _ => rfl, fun _ _ => rfl,
    fun _ _ => rfl, fun values _ => ?_, fun pairs _ => ?_, fun _ _ => rfl⟩
  · show Wire.field 5 (.counted (listToWire values)) =
      Wire.field 5 (.counted ((listSchema value).toWire values))
    rw [listSchema_toWire h]
  · show Wire.field 6 (.counted (keyedToWire pairs)) =
      Wire.field 6 (.counted ((keyedSchema value).toWire pairs))
    rw [keyedSchema_toWire h]

theorem listSchema_carried (h : value.Single levels 6) : (listSchema value).Carried levels 0 where
  numbering := show Wire.Numbering [1] by decide
  placed := fun _ => rfl
  copy := fun _ => rfl
  fields := List.forall_mem_singleton.2 (.list 0 h (by decide) ⟨rfl, rfl, fun _ _ => rfl⟩)
  alternatives := List.forall_mem_nil _

theorem keyValueSchema_carried (h : value.Single levels 6) :
    (keyValueSchema value).Carried levels 3 where
  numbering := show Wire.Numbering [1, 2] by decide
  placed := fun _ => rfl
  copy := fun ⟨_, _⟩ => rfl
  fields := List.forall_iff_forall_mem.1
    ⟨.scalar 0 Scalar.text_carried ⟨rfl, rfl, fun _ _ => rfl⟩,
      .option 1 h (by decide) ⟨rfl, rfl, fun _ _ => rfl⟩⟩
  alternatives := List.forall_mem_nil _

theorem keyedSchema_carried (h : value.Single levels 6) :
    (keyedSchema value).Carried levels 1 where
  numbering := show Wire.Numbering [1] by decide
  placed := fun _ => rfl
  copy := fun _ => rfl
  fields := List.forall_mem_singleton.2
    (.list 0 (Schema.format_single (keyValueSchema_carried h)) (by decide)
      ⟨rfl, rfl, fun _ _ => rfl⟩)
  alternatives := List.forall_mem_nil _

/-- The schema of values is carried if the format of the values inside is. -/
theorem schema_carried (h : value.Single levels 6) : (schema value).Carried levels 2 where
  numbering := show Wire.Numbering [1, 2, 3, 4, 5, 6, 7] by decide
  placed := fun hp => by cases hp
  copy := fun v => by cases v <;> rfl
  fields := List.forall_mem_nil _
  alternatives := by
    refine List.forall_iff_forall_mem.1
      ⟨.of_format 0 (Format.scalar_single Scalar.text_carried) (Nat.zero_le _) ?_,
        .of_format 1 (Format.scalar_single Scalar.bool_carried) (Nat.zero_le _) ?_,
        .of_format 2 (Format.scalar_single Scalar.int64Text_carried) (Nat.zero_le _) ?_,
        .of_format 3 (Format.scalar_single Scalar.double_carried) (Nat.zero_le _) ?_,
        .of_format 4 (Schema.format_single (listSchema_carried h)) (by decide) ?_,
        .of_format 5 (Schema.format_single (keyedSchema_carried h)) (by decide) ?_,
        .of_format 6 (Format.scalar_single Scalar.base64_carried) (Nat.zero_le _) ?_⟩
    all_goals exact ⟨rfl, rfl, fun _ _ => rfl⟩

/-- The schema of values writes them as they are written, in both forms. -/
theorem schema_writes (h : value.Single levels 6) (hj : value.toJson = toJson)
    (hw : Writes value) (v : AnyValue) :
    (schema value).toJson v = toJson v ∧ (schema value).toWire v = toWire v := by
  by_cases hv : v = empty
  · subst hv
    exact ⟨rfl, rfl⟩
  · obtain ⟨a, ha, x, rfl⟩ := exists_kind value hv
    have hindependent := (schema_carried h).independent
    have hget : a.get? (a.set x empty) = some x := hindependent.get?_setAlternative ha x empty
    constructor
    · rw [toJson_set hj a ha]
      show Json.object ((schema value).chosen? _).toList = _
      rw [hindependent.chosen?_eq ha hget]
      rfl
    · rw [toWire_set hw a ha]
      show (Schema.ordered ((schema value).chosenPart? _).toList).flatMap _ = _
      rw [hindependent.chosenPart?_eq ha hget]
      exact List.append_nil _

theorem formatWithin_writes (n : Nat) : Writes (formatWithin n) := by
  cases n with
  | zero => rfl
  | succ n => rfl

/-- The values that nest within some levels are carried by the format of these levels. -/
theorem formatWithin_single (n : Nat) : (formatWithin n).Single n 6 := by
  induction n with
  | zero =>
    refine Format.single_of_counted toWire (fun _ => rfl) (fun _ _ => rfl) ?_
    intro v budget hj _
    obtain ⟨members, hm⟩ := exists_toJson v
    have hdepth := hj.1
    rw [formatWithin_toJson, hm] at hdepth
    cases hdepth
  | succ n ih =>
    refine Format.single_of_counted toWire (fun _ => rfl) (fun _ _ => rfl) ?_
    intro v budget hj hlength
    obtain ⟨hjson, hwire⟩ := schema_writes ih (formatWithin_toJson n) (formatWithin_writes n) v
    rw [formatWithin_toJson, ← hjson] at hj
    rw [← hwire] at hlength ⊢
    exact (schema_carried ih).merge?_counted hj hlength

/-- Attribute values are carried, as far as the brackets of a document go. -/
theorem format_single : format.Single maxLevels 6 := formatWithin_single maxLevels

end AnyValue

theorem KeyValue.schema_carried : KeyValue.schema.Carried AnyValue.maxLevels 3 :=
  AnyValue.keyValueSchema_carried AnyValue.format_single

end TelemetrySpool
