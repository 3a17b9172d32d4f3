import TelemetrySpool.Proofs.Json.Literal
import TelemetrySpool.Proofs.Json.Numeral
import TelemetrySpool.Proofs.Json.Parts

/-!
# Brackets read back

Texts that are read as values stay so between brackets, with commas between them and blanks
wherever the writer puts some. Each opening of brackets uses up fuel and room: twice the length of
the text is enough of the one, and the depth of the value of the other.
-/

namespace TelemetrySpool.Json

open Utf8 (octets)

/-- Octets that the writer puts between values. -/
def Blank (gap : Bytes) : Prop := ∀ b ∈ gap, b = 0x20 ∨ b = 0x0a

/-- A blank gap is skipped. -/
theorem skipSpace_blank {gap : Bytes} (h : Blank gap) (rest : Bytes) :
    skipSpace (gap ++ rest) = skipSpace rest := by
  induction gap with
  | nil => rfl
  | cons b gap ih =>
    rw [Blank, List.forall_mem_cons] at h
    have hb : b = 0x20 ∨ b = 0x0a ∨ b = 0x0d ∨ b = 0x09 := by
      rcases h.1 with h | h
      · exact .inl h
      · exact .inr (.inl h)
    rw [List.cons_append, skipSpace, if_pos hb, ih h.2]

/-- Nothing is left to skip after skipping. -/
theorem skipSpace_skipSpace (bytes : Bytes) : skipSpace (skipSpace bytes) = skipSpace bytes := by
  induction bytes with
  | nil => rfl
  | cons b rest ih =>
    rw [skipSpace]
    split
    · exact ih
    · next h => rw [skipSpace, if_neg h]

/-- A gap may stand behind a numeral. -/
theorem ends_blank {gap rest : Bytes} (h : Blank gap) (hr : Ends rest) : Ends (gap ++ rest) := by
  cases gap with
  | nil => exact hr
  | cons b gap =>
    intro c hc
    cases hc
    rcases h b List.mem_cons_self with h | h
    · exact .inl h
    · exact .inr (.inl h)

/-- A value is read behind a gap. -/
theorem value_skipSpace (fuel room : Nat) (bytes : Bytes) :
    value fuel room (skipSpace bytes) = value fuel room bytes := by
  cases fuel with
  | zero => rfl
  | succ fuel => rw [value, value, skipSpace_skipSpace]

/-- Whether the reader takes a text for a value, whatever follows in the document. -/
def Reads (text : Bytes) (j : Json) : Prop :=
  ∀ fuel room rest, 2 * text.length + 1 ≤ fuel → depth j ≤ room → Ends rest →
    value fuel room (text ++ rest) = some (j, rest)

/-- Blanks in front make no difference. -/
theorem Reads.blank {gap text : Bytes} {j : Json} (hg : Blank gap) (h : Reads text j) :
    Reads (gap ++ text) j := by
  intro fuel room rest hf hd hr
  rw [List.length_append] at hf
  rw [List.append_assoc, ← value_skipSpace, skipSpace_blank hg, value_skipSpace]
  exact h fuel room rest (by omega) hd hr

/-- A closing bracket is no value. -/
theorem value_of_skipSpace_eq {fuel room : Nat} {bytes rest : Bytes}
    (h : skipSpace bytes = 0x5d :: rest) : value fuel room bytes = none := by
  cases fuel with
  | zero => rfl
  | succ fuel =>
    rw [value, h]
    rfl

/-- Texts with commas between them. -/
def commas : List Bytes → Bytes
  | [] => []
  | [text] => text
  | text :: rest => text ++ 0x2c :: commas rest

/-- Texts are joined by commas. -/
theorem commas_cons {text : Bytes} {texts : List Bytes} (h : texts ≠ []) :
    commas (text :: texts) = text ++ 0x2c :: commas texts := by
  cases texts with
  | nil => exact absurd rfl h
  | cons => rfl

theorem skipSpace_comma (rest : Bytes) : skipSpace (0x2c :: rest) = 0x2c :: rest := rfl

theorem ends_comma (rest : Bytes) : Ends (0x2c :: rest) := by
  intro b hb
  cases hb
  decide

theorem ends_bracket (rest : Bytes) : Ends (0x5d :: rest) := by
  intro b hb
  cases hb
  decide

theorem ends_brace (rest : Bytes) : Ends (0x7d :: rest) := by
  intro b hb
  cases hb
  decide

/-- Items are read one after the other up to the closing bracket. -/
theorem itemsFrom_commas {text : Json → Bytes} {items : List Json} {gap : Bytes}
    (hne : items ≠ []) (hread : ∀ x ∈ items, Reads (text x) x) (hg : Blank gap)
    {fuel room : Nat} (read : List Json) (rest : Bytes)
    (hf : 2 * (commas (items.map text)).length + 2 ≤ fuel) (hd : ∀ x ∈ items, depth x ≤ room) :
    itemsFrom fuel room read (commas (items.map text) ++ (gap ++ 0x5d :: rest)) =
      some (items.reverse ++ read, rest) := by
  induction items generalizing fuel read with
  | nil => exact absurd rfl hne
  | cons item items ih =>
    rw [List.forall_mem_cons] at hread hd
    obtain ⟨fuel, rfl⟩ := Nat.exists_eq_add_of_le' (Nat.le_trans (Nat.le_add_left 1 _) hf)
    by_cases hn : items = []
    · subst hn
      rw [List.map_cons, List.map_nil, commas] at hf ⊢
      have hv := hread.1 fuel room _ (by omega) hd.1 (ends_blank hg (ends_bracket rest))
      have hs : skipSpace (gap ++ 0x5d :: rest) = 0x5d :: rest := skipSpace_blank hg _
      simp only [itemsFrom, hv, hs]
      rfl
    · have hc : commas (text item :: items.map text) =
          text item ++ 0x2c :: commas (items.map text) :=
        commas_cons (by simpa using hn)
      rw [List.map_cons, hc] at hf ⊢
      rw [List.length_append, List.length_cons] at hf
      rw [List.append_assoc, List.cons_append]
      have hv := hread.1 fuel room _ (by omega) hd.1
        (ends_comma (commas (items.map text) ++ (gap ++ 0x5d :: rest)))
      simp only [itemsFrom, hv, skipSpace_comma]
      rw [ih hn hread.2 (item :: read) (by omega) hd.2]
      simp

/-- Items are read behind a gap. -/
theorem itemsFrom_skipSpace (fuel room : Nat) (read : List Json) (bytes : Bytes) :
    itemsFrom fuel room read (skipSpace bytes) = itemsFrom fuel room read bytes := by
  cases fuel with
  | zero => rfl
  | succ fuel => rw [itemsFrom, itemsFrom, value_skipSpace]

/-- An opening bracket before items makes an array of them. -/
theorem value_bracket {fuel room : Nat} {body rest : Bytes} {items : List Json}
    (h : itemsFrom fuel room [] body = some (items, rest)) :
    value (fuel + 1) (room + 1) (0x5b :: body) = some (array items.reverse, rest) := by
  have hs : skipSpace (0x5b :: body) = 0x5b :: body := rfl
  have hclose : ∀ r, skipSpace body ≠ 0x5d :: r := by
    intro r hr
    cases fuel with
    | zero => cases h
    | succ fuel =>
      rw [itemsFrom, value_of_skipSpace_eq hr] at h
      cases h
  rw [value, hs]
  simp only [if_neg (show ¬(0x5b : UInt8) = 0x22 by decide), if_true]
  rw [Nat.add_sub_cancel, itemsFrom_skipSpace, h]
  rfl

/-- Items in brackets, with commas between them and a blank at the end, are read as an array. -/
theorem reads_array {text : Json → Bytes} {items : List Json} {gap : Bytes} (hne : items ≠ [])
    (hread : ∀ x ∈ items, Reads (text x) x) (hg : Blank gap) :
    Reads (0x5b :: (commas (items.map text) ++ (gap ++ [0x5d]))) (array items) := by
  intro fuel room rest hf hd hr
  simp only [List.length_cons, List.length_append] at hf
  obtain ⟨fuel, rfl⟩ := Nat.exists_eq_add_of_le' (Nat.le_trans (Nat.le_add_left 1 _) hf)
  obtain ⟨room, rfl⟩ := Nat.exists_eq_add_of_le' (Nat.le_trans (Nat.le_add_left 1 _) hd)
  have hi : itemsFrom fuel room [] (commas (items.map text) ++ (gap ++ 0x5d :: rest)) =
      some (items.reverse ++ [], rest) :=
    itemsFrom_commas hne hread hg [] rest (by omega) (depth_array_le.1 hd)
  have htext : 0x5b :: (commas (items.map text) ++ (gap ++ [0x5d])) ++ rest =
      0x5b :: (commas (items.map text) ++ (gap ++ 0x5d :: rest)) := by simp
  rw [htext, value_bracket hi, List.append_nil, List.reverse_reverse]

/-- Whether the reader takes a text for a member. -/
def ReadsMember (text : Bytes) (member : String × Json) : Prop :=
  ∃ gap body, text = gap ++ (octets (stringText member.1) ++ 0x3a :: body) ∧ Blank gap ∧
    Reads body member.2

/-- A key is read together with its colon. -/
theorem key_stringText {gap : Bytes} (hg : Blank gap) (name : String) (rest : Bytes) :
    key (gap ++ (octets (stringText name) ++ 0x3a :: rest)) = some (some name, rest) := by
  obtain ⟨body, pieces, hb, hs, hl⟩ := exists_literal_stringText name
  have hc : skipSpace (0x3a :: rest) = 0x3a :: rest := rfl
  have hq : skipSpace (0x22 :: (body ++ 0x3a :: rest)) = 0x22 :: (body ++ 0x3a :: rest) := rfl
  rw [key, skipSpace_blank hg, hb, List.cons_append, hq]
  simp only [hl, Option.bind_eq_bind, Option.bind_some, hc, hs]

/-- A member is read as its key and its value. -/
theorem ReadsMember.key_value {text : Bytes} {member : String × Json} (h : ReadsMember text member)
    {fuel room : Nat} {rest : Bytes} (hf : 2 * text.length + 1 ≤ fuel) (hd : depth member.2 ≤ room)
    (hr : Ends rest) : ∃ after, key (text ++ rest) = some (some member.1, after) ∧
      value fuel room after = some (member.2, rest) := by
  obtain ⟨gap, body, rfl, hg, hv⟩ := h
  rw [List.length_append, List.length_append, List.length_cons] at hf
  rw [List.append_assoc, List.append_assoc, List.cons_append]
  exact ⟨body ++ rest, key_stringText hg member.1 _, hv fuel room rest (by omega) hd hr⟩

/-- Members are read one after the other up to the closing brace. -/
theorem membersFrom_commas {text : String × Json → Bytes} {members : List (String × Json)}
    {gap : Bytes} (hne : members ≠ []) (hread : ∀ x ∈ members, ReadsMember (text x) x)
    (hg : Blank gap) {fuel room : Nat} (read : List (String × Json)) (rest : Bytes)
    (hf : 2 * (commas (members.map text)).length + 2 ≤ fuel)
    (hd : ∀ x ∈ members, depth x.2 ≤ room) :
    membersFrom fuel room (some read) (commas (members.map text) ++ (gap ++ 0x7d :: rest)) =
      some (some (members.reverse ++ read), rest) := by
  induction members generalizing fuel read with
  | nil => exact absurd rfl hne
  | cons member members ih =>
    rw [List.forall_mem_cons] at hread hd
    obtain ⟨fuel, rfl⟩ := Nat.exists_eq_add_of_le' (Nat.le_trans (Nat.le_add_left 1 _) hf)
    by_cases hn : members = []
    · subst hn
      rw [List.map_cons, List.map_nil, commas] at hf ⊢
      have hfuel : 2 * (text member).length + 1 ≤ fuel := by omega
      obtain ⟨after, hk, hv⟩ := hread.1.key_value hfuel hd.1 (ends_blank hg (ends_brace rest))
      have hs : skipSpace (gap ++ 0x7d :: rest) = 0x7d :: rest := skipSpace_blank hg _
      simp only [membersFrom, hk, hv, hs]
      rfl
    · have hc : commas (text member :: members.map text) =
          text member ++ 0x2c :: commas (members.map text) :=
        commas_cons (by simpa using hn)
      rw [List.map_cons, hc] at hf ⊢
      rw [List.length_append, List.length_cons] at hf
      rw [List.append_assoc, List.cons_append]
      have hfuel : 2 * (text member).length + 1 ≤ fuel := by omega
      obtain ⟨after, hk, hv⟩ := hread.1.key_value hfuel hd.1
        (ends_comma (commas (members.map text) ++ (gap ++ 0x7d :: rest)))
      simp only [membersFrom, hk, hv, skipSpace_comma]
      rw [ih hn hread.2 (member :: read) (by omega) hd.2]
      simp

/-- So are members. -/
theorem membersFrom_skipSpace (fuel room : Nat) (read : Option (List (String × Json)))
    (bytes : Bytes) :
    membersFrom fuel room read (skipSpace bytes) = membersFrom fuel room read bytes := by
  cases fuel with
  | zero => rfl
  | succ fuel => rw [membersFrom, membersFrom, key, key, skipSpace_skipSpace]

/-- An opening brace before members makes an object of them. -/
theorem value_brace {fuel room : Nat} {body rest : Bytes} {members : List (String × Json)}
    (h : membersFrom fuel room (some []) body = some (some members, rest)) :
    value (fuel + 1) (room + 1) (0x7b :: body) = some (object members.reverse, rest) := by
  have hs : skipSpace (0x7b :: body) = 0x7b :: body := rfl
  have hclose : ∀ r, skipSpace body ≠ 0x7d :: r := by
    intro r hr
    cases fuel with
    | zero => cases h
    | succ fuel =>
      rw [membersFrom, key, hr] at h
      cases h
  rw [value, hs]
  simp only [if_neg (show ¬(0x7b : UInt8) = 0x22 by decide), if_true,
    if_neg (show ¬(0x7b : UInt8) = 0x5b by decide)]
  rw [Nat.add_sub_cancel, membersFrom_skipSpace, h]
  rfl

/-- Members in braces, with commas between them and a blank at the end, are read as an object. -/
theorem reads_object {text : String × Json → Bytes} {members : List (String × Json)} {gap : Bytes}
    (hne : members ≠ []) (hread : ∀ x ∈ members, ReadsMember (text x) x) (hg : Blank gap) :
    Reads (0x7b :: (commas (members.map text) ++ (gap ++ [0x7d]))) (object members) := by
  intro fuel room rest hf hd hr
  simp only [List.length_cons, List.length_append] at hf
  obtain ⟨fuel, rfl⟩ := Nat.exists_eq_add_of_le' (Nat.le_trans (Nat.le_add_left 1 _) hf)
  obtain ⟨room, rfl⟩ := Nat.exists_eq_add_of_le' (Nat.le_trans (Nat.le_add_left 1 _) hd)
  have hm : membersFrom fuel room (some []) (commas (members.map text) ++ (gap ++ 0x7d :: rest)) =
      some (some (members.reverse ++ []), rest) :=
    membersFrom_commas hne hread hg [] rest (by omega) (depth_object_le.1 hd)
  have htext : 0x7b :: (commas (members.map text) ++ (gap ++ [0x7d])) ++ rest =
      0x7b :: (commas (members.map text) ++ (gap ++ 0x7d :: rest)) := by simp
  rw [htext, value_brace hm, List.append_nil, List.reverse_reverse]

/-- Empty brackets are read as an empty array. -/
theorem reads_emptyArray : Reads [0x5b, 0x5d] (array []) := by
  intro fuel room rest hf hd hr
  obtain ⟨fuel, rfl⟩ := Nat.exists_eq_add_of_le' (Nat.le_trans (Nat.le_add_left 1 _) hf)
  obtain ⟨room, rfl⟩ := Nat.exists_eq_add_of_le' (Nat.le_trans (Nat.le_add_left 1 _) hd)
  rfl

/-- Empty braces are read as an empty object. -/
theorem reads_emptyObject : Reads [0x7b, 0x7d] (object []) := by
  intro fuel room rest hf hd hr
  obtain ⟨fuel, rfl⟩ := Nat.exists_eq_add_of_le' (Nat.le_trans (Nat.le_add_left 1 _) hf)
  obtain ⟨room, rfl⟩ := Nat.exists_eq_add_of_le' (Nat.le_trans (Nat.le_add_left 1 _) hd)
  rfl

end TelemetrySpool.Json
