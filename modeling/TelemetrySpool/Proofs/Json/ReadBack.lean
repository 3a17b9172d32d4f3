import TelemetrySpool.Proofs.Json.Brackets

/-!
# Written values read back

The reader takes what either layout writes for the value it was written from, as long as there is
room for its brackets. Both layouts put the texts of items and members between commas; they differ
in the blanks alone, which the reader skips.
-/

namespace TelemetrySpool.Json

open Utf8 (octets)

/-- A word is read by its first octet. -/
theorem reads_word {b : UInt8} (word : Bytes) {j : Json}
    (h : ∀ fuel room rest, value (fuel + 1) room (b :: (word ++ rest)) = some (j, rest)) :
    Reads (b :: word) j := by
  intro fuel room rest hf hd hr
  obtain ⟨fuel, rfl⟩ := Nat.exists_eq_add_of_le' (Nat.le_trans (Nat.le_add_left 1 _) hf)
  exact h fuel room rest

theorem reads_null : Reads (octets "null".toList) null :=
  reads_word [0x75, 0x6c, 0x6c] fun _ _ _ => rfl

theorem reads_bool (b : Bool) : Reads (octets (leafText (bool b))) (bool b) := by
  cases b with
  | true => exact reads_word [0x72, 0x75, 0x65] fun _ _ _ => rfl
  | false => exact reads_word [0x61, 0x6c, 0x73, 0x65] fun _ _ _ => rfl

/-- A string is read back, escapes included. -/
theorem reads_string (text : String) : Reads (octets (stringText text)) (string text) := by
  obtain ⟨body, pieces, hb, hs, hl⟩ := exists_literal_stringText text
  rw [hb]
  refine reads_word body fun fuel room rest => ?_
  have hq : skipSpace (0x22 :: (body ++ rest)) = 0x22 :: (body ++ rest) := rfl
  rw [value, hq]
  simp only [if_true, hl, Option.bind_eq_bind, Option.bind_some, hs]
  rfl

/-- The characters of numerals are no blanks. -/
theorem skipSpace_of_isNumeric {b : UInt8} (h : IsNumeric b.toNat) (bytes : Bytes) :
    skipSpace (b :: bytes) = b :: bytes := by
  have hne : ∀ c : UInt8, ¬ IsNumeric c.toNat → b ≠ c := by
    rintro c hc rfl
    exact hc h
  rw [skipSpace, if_neg]
  rintro (hb | hb | hb | hb)
  · exact hne _ (by decide) hb
  · exact hne _ (by decide) hb
  · exact hne _ (by decide) hb
  · exact hne _ (by decide) hb

/-- What starts like a numeral is read as one. -/
theorem value_of_isNumeric {b : UInt8} (h : IsNumeric b.toNat) (fuel room : Nat) (bytes : Bytes) :
    value (fuel + 1) room (b :: bytes) =
      if b = 0x2d then (numeral true bytes).map fun (n, rest) => (n.toJson, rest)
      else (numeral false (b :: bytes)).map fun (n, rest) => (n.toJson, rest) := by
  have hne : ∀ c : UInt8, ¬ IsNumeric c.toNat → b ≠ c := by
    rintro c hc rfl
    exact hc h
  have h22 := hne 0x22 (by decide)
  have h5b := hne 0x5b (by decide)
  have h7b := hne 0x7b (by decide)
  have h74 := hne 0x74 (by decide)
  have h66 := hne 0x66 (by decide)
  have h6e := hne 0x6e (by decide)
  rw [value, skipSpace_of_isNumeric h]
  simp only [if_neg h22, if_neg h5b, if_neg h7b, if_neg h74, if_neg h66, if_neg h6e]

/-- What is left after a numeral is an end of the text. -/
theorem value_suffix {text r : Bytes} {j : Json} {fuel room : Nat}
    (hn : ∀ b ∈ text, IsNumeric b.toNat) (h : value fuel room text = some (j, r)) :
    r <:+ text := by
  cases fuel with
  | zero => cases h
  | succ fuel =>
    cases text with
    | nil => cases h
    | cons b text =>
      rw [value_of_isNumeric (hn b List.mem_cons_self)] at h
      split at h
      · obtain ⟨⟨n, r'⟩, hnum, he⟩ := Option.map_eq_some_iff.1 h
        cases he
        exact (numeral_suffix hnum).trans (List.suffix_cons b text)
      · obtain ⟨⟨n, r'⟩, hnum, he⟩ := Option.map_eq_some_iff.1 h
        cases he
        exact numeral_suffix hnum

/-- A text in numeric characters that is read as a value of its own is read so in documents. -/
theorem reads_of_value {text : Bytes} {j : Json} {fuel room : Nat}
    (hn : ∀ b ∈ text, IsNumeric b.toNat) (h : value fuel room text = some (j, [])) :
    Reads text j := by
  intro fuel' room' rest hf hd hr
  obtain ⟨fuel', rfl⟩ := Nat.exists_eq_add_of_le' (Nat.le_trans (Nat.le_add_left 1 _) hf)
  cases fuel with
  | zero => cases h
  | succ fuel =>
    cases text with
    | nil => cases h
    | cons b text =>
      have hb := hn b List.mem_cons_self
      rw [value_of_isNumeric hb] at h
      rw [List.cons_append, value_of_isNumeric hb]
      split at h
      · next hm =>
        rw [if_pos hm]
        obtain ⟨⟨n, r⟩, hnum, he⟩ := Option.map_eq_some_iff.1 h
        cases he
        rw [numeral_append hr hnum]
        rfl
      · next hm =>
        rw [if_neg hm]
        obtain ⟨⟨n, r⟩, hnum, he⟩ := Option.map_eq_some_iff.1 h
        cases he
        rw [← List.cons_append, numeral_append hr hnum]
        rfl

/-- A numeral without a sign is read as its value. -/
theorem value_of_numeral {text : Bytes} {n : Numeral} (hn : ∀ b ∈ text, IsNumeric b.toNat)
    (h : numeral false text = some (n, [])) (fuel room : Nat) :
    value (fuel + 1) room text = some (n.toJson, []) := by
  cases text with
  | nil => cases h
  | cons b text =>
    have hb : b ≠ 0x2d := by
      rintro rfl
      cases h
    rw [value_of_isNumeric (hn b List.mem_cons_self), if_neg hb, h]
    rfl

/-- Whole numbers of sixty-four bits are read back. -/
theorem reads_integer {n : Int} (h : IsWord n) : Reads (octets (Digits.ofInt n)) (integer n) := by
  have hdig : ∀ b ∈ octets (Digits.ofNat n.natAbs), IsNumeric b.toNat :=
    isNumeric_of_mem_octets fun c hc => isNumeric_of_mem_ofNat hc
  obtain ⟨hlow, hhigh⟩ := h
  rw [Digits.ofInt]
  split
  · next hn =>
    have hj := toJson_negative (n := n.natAbs) (by unfold Numeral.limit UInt64.size; omega)
    have hn' : -(n.natAbs : Int) = n := by omega
    rw [hn'] at hj
    have hminus : UInt8.ofNat '-'.toNat = 0x2d := rfl
    rw [Utf8.octets_cons_of_lt (by decide), hminus]
    have hv : value 1 0 (0x2d :: octets (Digits.ofNat n.natAbs)) = some (integer n, []) := by
      rw [value_of_isNumeric (.inl (by decide)), if_pos rfl, numeral_ofNat, Option.map_some, ← hj]
    exact reads_of_value (List.forall_mem_cons.2 ⟨.inl (by decide), hdig⟩) hv
  · next hp =>
    have hj := toJson_natural (n := n.natAbs) (by unfold Numeral.limit UInt64.size; omega)
    have hn' : (n.natAbs : Int) = n := by omega
    rw [hn'] at hj
    have hv := value_of_numeral hdig (numeral_ofNat false n.natAbs) 0 0
    rw [hj] at hv
    exact reads_of_value hdig hv

/-- A double that is read back from its own text is read back in documents. -/
theorem reads_double {x : Double}
    (h : parse? (octets (doubleText x)) = some (double x)) :
    Reads (octets (doubleText x)) (double x) := by
  have hn : ∀ b ∈ octets (doubleText x), IsNumeric b.toNat :=
    isNumeric_of_mem_octets fun c hc => isNumeric_of_mem_doubleText hc
  rw [parse?] at h
  split at h
  · next j r hv =>
    split at h
    · next hr =>
      cases h
      have hsub := value_suffix hn hv
      have hrn : ∀ b ∈ r, IsNumeric b.toNat := fun b hb => hn b (hsub.subset hb)
      have hnil : r = [] := by
        cases r with
        | nil => rfl
        | cons b r =>
          rw [skipSpace_of_isNumeric (hrn b List.mem_cons_self)] at hr
          cases hr
      rw [hnil] at hv
      exact reads_of_value hn hv
    · cases h
  · cases h

/-- What a value without brackets needs for its text to be read back. -/
def Faithful : Json → Prop
  | integer n => IsWord n
  | double x => x.isFinite ∧ parse? (octets (doubleText x)) = some (double x)
  | unreadable => False
  | _ => True

/-- What is neither an array nor an object is read back. -/
theorem reads_leaf {j : Json} (ha : ∀ items, j ≠ array items) (ho : ∀ members, j ≠ object members)
    (h : Faithful j) : Reads (octets (leafText j)) j := by
  cases j with
  | null => exact reads_null
  | bool b => exact reads_bool b
  | integer n => exact reads_integer h
  | double x =>
    rw [leafText, if_pos h.1]
    exact reads_double h.2
  | string text => exact reads_string text
  | array items => exact absurd rfl (ha items)
  | object members => exact absurd rfl (ho members)
  | unreadable => exact h.elim

/-- The text of a member without white space. -/
def compactMember (member : String × Json) : Bytes :=
  octets (stringText member.1) ++ 0x3a :: octets (compact member.2)

/-- Items stand between commas. -/
theorem octets_compactItems (items : List Json) :
    octets (compactItems items) = commas (items.map fun x => octets (compact x)) := by
  induction items with
  | nil => rfl
  | cons item rest ih =>
    cases rest with
    | nil => rfl
    | cons next rest =>
      rw [compactItems, Utf8.octets_append, Utf8.octets_cons_of_lt (by decide), ih]
      · rfl
      · nofun

/-- So do members. -/
theorem octets_compactMembers (members : List (String × Json)) :
    octets (compactMembers members) = commas (members.map compactMember) := by
  induction members with
  | nil => rfl
  | cons member rest ih =>
    cases rest with
    | nil =>
      rw [compactMembers, Utf8.octets_append, Utf8.octets_cons_of_lt (by decide)]
      rfl
    | cons next rest =>
      rw [compactMembers, Utf8.octets_append, Utf8.octets_cons_of_lt (by decide),
        Utf8.octets_append, Utf8.octets_cons_of_lt (by decide), ih]
      · show _ = octets (stringText member.1) ++ 0x3a :: octets (compact member.2) ++ _
        rw [List.append_assoc, List.cons_append]
        rfl
      · nofun

/-- The compact text of a value is read back. -/
theorem reads_compact {j : Json} (h : Every Faithful j) : Reads (octets (compact j)) j := by
  induction j using induct with
  | array items ih =>
    rw [every_array] at h
    rw [compact, List.cons_append, Utf8.octets_cons_of_lt (by decide), Utf8.octets_append,
      octets_compactItems]
    by_cases hne : items = []
    · subst hne
      exact reads_emptyArray
    · exact reads_array hne (fun x hx => ih x hx (h.2 x hx)) (show Blank [] from nofun)
  | object members ih =>
    rw [every_object] at h
    rw [compact, List.cons_append, Utf8.octets_cons_of_lt (by decide), Utf8.octets_append,
      octets_compactMembers]
    by_cases hne : members = []
    · subst hne
      exact reads_emptyObject
    · refine reads_object hne (fun x hx => ?_) (show Blank [] from nofun)
      exact ⟨[], _, rfl, nofun, ih x hx (h.2 x hx)⟩
  | leaf j ha ho =>
    rw [compact]
    · exact reads_leaf ha ho h.self
    · exact ha
    · exact ho

/-- The text of an item on a line of its own. -/
def prettyItem (level : Nat) (item : Json) : Bytes :=
  octets (newLine level) ++ octets (prettyAt level item)

/-- The text of a member on a line of its own. -/
def prettyMember (level : Nat) (member : String × Json) : Bytes :=
  octets (newLine level) ++ (octets (stringText member.1) ++
    0x3a :: ([0x20] ++ octets (prettyAt level member.2)))

/-- Indented items stand between commas. -/
theorem octets_prettyItems (level : Nat) (items : List Json) :
    octets (prettyItems level items) = commas (items.map (prettyItem level)) := by
  induction items with
  | nil => rfl
  | cons item rest ih =>
    cases rest with
    | nil =>
      rw [prettyItems, Utf8.octets_append]
      rfl
    | cons next rest =>
      rw [prettyItems, Utf8.octets_append, Utf8.octets_append, Utf8.octets_cons_of_lt (by decide),
        ih]
      · rfl
      · nofun

/-- So do indented members. -/
theorem octets_prettyMembers (level : Nat) (members : List (String × Json)) :
    octets (prettyMembers level members) = commas (members.map (prettyMember level)) := by
  have hspace (t : List Char) : octets (':' :: ' ' :: t) = 0x3a :: ([0x20] ++ octets t) := by
    rw [Utf8.octets_cons_of_lt (by decide), Utf8.octets_cons_of_lt (by decide)]
    rfl
  induction members with
  | nil => rfl
  | cons member rest ih =>
    cases rest with
    | nil =>
      rw [prettyMembers, Utf8.octets_append, Utf8.octets_append, hspace, List.append_assoc]
      rfl
    | cons next rest =>
      rw [prettyMembers, Utf8.octets_append, Utf8.octets_append, hspace, Utf8.octets_append,
        Utf8.octets_cons_of_lt (by decide), ih]
      · show _ =
          prettyMember level member ++ 0x2c :: commas ((next :: rest).map (prettyMember level))
        simp only [prettyMember, List.append_assoc, List.cons_append]
        rfl
      · nofun

/-- A line end with its indentation is a gap. -/
theorem blank_newLine (level : Nat) : Blank (octets (newLine level)) := by
  have hlt : ∀ c ∈ newLine level, c = '\n' ∨ c = ' ' := by
    intro c hc
    rcases List.mem_cons.1 hc with rfl | hc
    · exact .inl rfl
    · exact .inr (List.mem_replicate.1 hc).2
  intro b hb
  rw [Utf8.octets_of_lt fun c hc => by rcases hlt c hc with rfl | rfl <;> decide] at hb
  obtain ⟨c, hc, rfl⟩ := List.mem_map.1 hb
  rcases hlt c hc with rfl | rfl
  · exact .inr rfl
  · exact .inl rfl

/-- The text of a value on lines of its own is read back. -/
theorem reads_prettyAt {j : Json} (h : Every Faithful j) (level : Nat) :
    Reads (octets (prettyAt level j)) j := by
  induction j using induct generalizing level with
  | array items ih =>
    rw [every_array] at h
    by_cases hne : items = []
    · subst hne
      exact reads_emptyArray
    · rw [prettyAt, List.cons_append, List.cons_append, Utf8.octets_cons_of_lt (by decide),
        Utf8.octets_append, Utf8.octets_append, octets_prettyItems, List.append_assoc]
      · exact reads_array hne
          (fun x hx => (ih x hx (h.2 x hx) (level + 1)).blank (blank_newLine _)) (blank_newLine _)
      · exact hne
  | object members ih =>
    rw [every_object] at h
    by_cases hne : members = []
    · subst hne
      exact reads_emptyObject
    · rw [prettyAt, List.cons_append, List.cons_append, Utf8.octets_cons_of_lt (by decide),
        Utf8.octets_append, Utf8.octets_append, octets_prettyMembers, List.append_assoc]
      · refine reads_object hne (fun x hx => ?_) (blank_newLine _)
        refine ⟨_, _, rfl, blank_newLine _, ?_⟩
        refine (ih x hx (h.2 x hx) (level + 1)).blank ?_
        intro b hb
        exact .inl (List.mem_singleton.1 hb)
      · exact hne
  | leaf j ha ho =>
    rw [prettyAt]
    · exact reads_leaf ha ho h.self
    · exact ha []
    · exact ha
    · exact ho []
    · exact ho

/-- A document is read back, in either layout, unless it opens too many brackets. -/
theorem parse?_render {j : Json} (h : Every Faithful j) (hd : depth j ≤ maxDepth)
    (isPretty : Bool) : parse? (Bytes.ofText (j.render isPretty)) = some j := by
  have hread : Reads (Bytes.ofText (j.render isPretty)) j := by
    rw [render, Utf8.ofText_ofList]
    cases isPretty with
    | false => exact reads_compact h
    | true => exact reads_prettyAt h 0
  have hv := hread (2 * (Bytes.ofText (j.render isPretty)).length + 2) maxDepth [] (by omega) hd
    ends_nil
  rw [List.append_nil] at hv
  rw [parse?, hv]
  rfl

end TelemetrySpool.Json
