/-!
# Looking up by key

In a list of keys with values the first entry of a key counts. Taking the entries of one key away,
or putting a value in their place, changes what is found for that key and for no other.
-/

namespace TelemetrySpool.Lookup

variable {κ ν : Type} [BEq κ] [LawfulBEq κ] [DecidableEq κ]

/-- Puts a value in the place of every entry of a key. -/
def replace (entries : List (κ × ν)) (key : κ) (value : ν) : List (κ × ν) :=
  entries.map fun entry => if entry.1 = key then (key, value) else entry

/-- Taking the entries of one key away changes nothing for another. -/
theorem lookup_filter_ne {entries : List (κ × ν)} {key key' : κ} (h : key' ≠ key) :
    (entries.filter (·.1 ≠ key)).lookup key' = entries.lookup key' := by
  induction entries with
  | nil => rfl
  | cons head rest ih =>
    obtain ⟨k, v⟩ := head
    by_cases hk : k = key
    · subst hk
      have hb : (key' == k) = false := by simpa using h
      simp only [List.lookup_cons, hb]
      simpa [List.filter_cons] using ih
    · simp only [List.filter_cons, hk, ne_eq, not_false_eq_true, decide_true, if_true,
        List.lookup_cons, ih]

/-- Nothing is found for a key whose entries have been taken away. -/
theorem lookup_filter_self {entries : List (κ × ν)} {key : κ} :
    (entries.filter (·.1 ≠ key)).lookup key = none := by
  induction entries with
  | nil => rfl
  | cons head rest ih =>
    obtain ⟨k, v⟩ := head
    by_cases hk : k = key
    · subst hk
      simpa [List.filter_cons] using ih
    · have hb : (key == k) = false := by simpa using Ne.symm hk
      simp only [List.filter_cons, hk, ne_eq, not_false_eq_true, decide_true, if_true,
        List.lookup_cons, hb, ih]

/-- A key that has an entry is found with the value put in its place. -/
theorem lookup_replace_self {entries : List (κ × ν)} {key : κ} {value : ν}
    (h : entries.any (·.1 = key)) : (replace entries key value).lookup key = some value := by
  induction entries with
  | nil => simp at h
  | cons head rest ih =>
    obtain ⟨k, v⟩ := head
    by_cases hk : k = key
    · simp [replace, hk]
    · have hb : (key == k) = false := by simpa using Ne.symm hk
      simp only [List.any_cons, hk, decide_false, Bool.false_or] at h
      simpa only [replace, List.map_cons, hk, if_false, List.lookup_cons, hb] using ih h

/-- Putting a value in the place of one key's entries changes nothing for another. -/
theorem lookup_replace_ne {entries : List (κ × ν)} {key key' : κ} {value : ν} (h : key' ≠ key) :
    (replace entries key value).lookup key' = entries.lookup key' := by
  have hb : (key' == key) = false := by simpa using h
  induction entries with
  | nil => rfl
  | cons head rest ih =>
    obtain ⟨k, v⟩ := head
    by_cases hk : k = key
    · subst hk
      simpa only [replace, List.map_cons, if_true, List.lookup_cons, hb] using ih
    · simp only [replace, List.map_cons, hk, if_false, List.lookup_cons]
      rw [← ih, replace]

/-- Nothing is found for a key without an entry. -/
theorem lookup_eq_none {entries : List (κ × ν)} {key : κ} (h : ¬ entries.any (·.1 = key)) :
    entries.lookup key = none := by
  induction entries with
  | nil => rfl
  | cons head rest ih =>
    obtain ⟨k, v⟩ := head
    simp only [List.any_cons, Bool.or_eq_true, decide_eq_true_eq, not_or] at h
    have hb : (key == k) = false := by simpa using Ne.symm h.1
    simp only [List.lookup_cons, hb]
    exact ih (by simpa using h.2)

/-- An entry at the end is found unless its key has one before. -/
theorem lookup_concat (entries : List (κ × ν)) (key key' : κ) (value : ν) :
    (entries ++ [(key, value)]).lookup key' =
      (entries.lookup key').or (if key' = key then some value else none) := by
  induction entries with
  | nil =>
    by_cases h : key' = key
    · simp [h]
    · have hb : (key' == key) = false := by simpa using h
      simp [List.lookup_cons, h, hb]
  | cons head rest ih =>
    obtain ⟨k, v⟩ := head
    cases hk : key' == k <;> simp [List.lookup_cons, hk, ih]

end TelemetrySpool.Lookup
