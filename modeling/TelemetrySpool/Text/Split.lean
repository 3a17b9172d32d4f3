/-!
# Cutting lists of characters

Small total functions that cut text, as a list of characters, at a separator, at a leading part or
at a trailing part.
-/

namespace TelemetrySpool.Text

/-- The pieces between separators; there is always one piece more than separators. -/
def pieces (separator : Char) : List Char → List (List Char)
  | [] => [[]]
  | c :: rest =>
    if c = separator then [] :: pieces separator rest
    else
      match pieces separator rest with
      | [] => [[c]]
      | first :: others => (c :: first) :: others

/-- What follows a leading part, if the text starts with it. -/
def after? (lead text : List Char) : Option (List Char) :=
  if lead.isPrefixOf text then some (text.drop lead.length) else none

/-- What precedes a trailing part, if the text ends with it. -/
def before? (trail text : List Char) : Option (List Char) :=
  if trail.isSuffixOf text then some (text.take (text.length - trail.length)) else none

/-- The text without the trailing characters that satisfy a test. -/
def trimEnd (drop : Char → Bool) (text : List Char) : List Char :=
  (text.reverse.dropWhile drop).reverse

/-- A text without the separator is one piece. -/
theorem pieces_of_notMem {separator : Char} {text : List Char} (h : separator ∉ text) :
    pieces separator text = [text] := by
  induction text with
  | nil => rfl
  | cons c rest ih =>
    have hc : c ≠ separator := fun e => h (e ▸ List.mem_cons_self)
    have hr : separator ∉ rest := fun m => h (List.mem_cons_of_mem _ m)
    simp only [pieces, hc, if_false, ih hr]

/-- What precedes the first separator is the first piece. -/
theorem pieces_append_cons {separator : Char} {text : List Char} (h : separator ∉ text)
    (rest : List Char) :
    pieces separator (text ++ separator :: rest) = text :: pieces separator rest := by
  induction text with
  | nil => simp [pieces]
  | cons c text ih =>
    have hc : c ≠ separator := fun e => h (e ▸ List.mem_cons_self)
    have ht : separator ∉ text := fun m => h (List.mem_cons_of_mem _ m)
    simp only [List.cons_append, pieces, hc, if_false, ih ht]

/-- A last character that satisfies the test is dropped. -/
theorem trimEnd_concat {drop : Char → Bool} (text : List Char) {c : Char} (h : drop c) :
    trimEnd drop (text ++ [c]) = trimEnd drop text := by
  simp [trimEnd, h]

/-- A last character that does not satisfy the test keeps everything before it. -/
theorem trimEnd_concat_of_not {drop : Char → Bool} (text : List Char) {c : Char} (h : ¬ drop c) :
    trimEnd drop (text ++ [c]) = text ++ [c] := by
  simp [trimEnd, h]

/-- Text after a leading part is that part followed by what is found. -/
theorem after?_eq_some {lead text rest : List Char} (h : after? lead text = some rest) :
    text = lead ++ rest := by
  unfold after? at h
  split at h
  · next hp =>
    obtain ⟨tail, rfl⟩ := List.isPrefixOf_iff_prefix.1 hp
    simpa using h
  · simp at h

/-- A leading part is found in front of any text. -/
theorem after?_append (lead rest : List Char) : after? lead (lead ++ rest) = some rest := by
  simp [after?, List.isPrefixOf_iff_prefix]

/-- Text before a trailing part is what is found followed by that part. -/
theorem before?_eq_some {trail text rest : List Char} (h : before? trail text = some rest) :
    text = rest ++ trail := by
  unfold before? at h
  split at h
  · next hs =>
    obtain ⟨head, rfl⟩ := List.isSuffixOf_iff_suffix.1 hs
    simpa using h
  · simp at h

/-- A trailing part is found behind any text. -/
theorem before?_append (rest trail : List Char) : before? trail (rest ++ trail) = some rest := by
  simp [before?, List.isSuffixOf_iff_suffix]

end TelemetrySpool.Text
