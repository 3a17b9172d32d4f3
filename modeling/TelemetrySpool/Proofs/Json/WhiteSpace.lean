import TelemetrySpool.Proofs.Json.Numeral
import TelemetrySpool.Proofs.Json.Parts

/-!
# White space outside string literals

A text is scanned from its start, and a quotation mark begins or ends a string literal unless it is
escaped. Squeezing a text takes away the spaces and line feeds outside its literals. What the writer
puts on lines of its own is squeezed to what it writes without white space: the two forms differ in
nothing but the layout, and the compact form has none of it.
-/

namespace TelemetrySpool.Json

/-- Where a character of a JSON text stands. -/
inductive Zone where
  /-- Outside string literals; their quotation marks count as such. -/
  | outside
  /-- Inside a string literal. -/
  | inside
  /-- Inside a string literal, right after the reverse solidus of an escape. -/
  | escaped
  deriving DecidableEq, Repr

/-- Where the next character stands. -/
def Zone.next : Zone → Char → Zone
  | outside, c => if c = '"' then inside else outside
  | inside, c => if c = '"' then outside else if c = '\\' then escaped else inside
  | escaped, _ => inside

/-- The white space that the pretty form uses. -/
def isLayout (c : Char) : Bool := c = ' ' || c = '\n'

/-- Whether a character is neither layout nor a quotation mark. -/
def isPlain (c : Char) : Bool := !isLayout c && !decide (c = '"')

/-- The rest of a text, from a zone on, without the layout outside string literals. -/
def squeezeFrom : Zone → List Char → List Char
  | _, [] => []
  | zone, c :: rest =>
    if zone = .outside ∧ isLayout c then squeezeFrom zone rest
    else c :: squeezeFrom (zone.next c) rest

/-- A text without the layout outside its string literals. -/
def squeeze (text : List Char) : List Char := squeezeFrom .outside text

@[simp] theorem squeeze_nil : squeeze [] = [] := rfl

theorem squeezeFrom_of_keeps {zone : Zone} {c : Char} (h : ¬(zone = .outside ∧ isLayout c))
    (rest : List Char) : squeezeFrom zone (c :: rest) = c :: squeezeFrom (zone.next c) rest := by
  rw [squeezeFrom, if_neg h]

/-- Layout does not begin a literal, so taking it away changes nothing for what follows. -/
theorem squeezeFrom_squeezeFrom (zone : Zone) (text : List Char) :
    squeezeFrom zone (squeezeFrom zone text) = squeezeFrom zone text := by
  induction text generalizing zone with
  | nil => rfl
  | cons c rest ih =>
    by_cases h : zone = .outside ∧ isLayout c
    · rw [squeezeFrom, if_pos h, ih]
    · rw [squeezeFrom_of_keeps h, squeezeFrom_of_keeps h, ih]

/-- What has been squeezed once is squeezed. -/
theorem squeeze_squeeze (text : List Char) : squeeze (squeeze text) = squeeze text :=
  squeezeFrom_squeezeFrom .outside text

/-- Whether a text is squeezed to another one, whatever follows it: the scan that begins with the
text outside string literals is outside them again at its end. -/
def Squeezes (text kept : List Char) : Prop :=
  ∀ rest, squeeze (text ++ rest) = kept ++ squeeze rest

namespace Squeezes

variable {text text' kept kept' : List Char} {c : Char}

protected theorem squeeze_eq (h : Squeezes text kept) : squeeze text = kept := by
  have hend := h []
  rwa [List.append_nil, squeeze_nil, List.append_nil] at hend

theorem nil : Squeezes [] [] := fun _ => rfl

/-- Texts one after the other are squeezed one after the other. -/
theorem append (h : Squeezes text kept) (h' : Squeezes text' kept') :
    Squeezes (text ++ text') (kept ++ kept') := by
  intro rest
  rw [List.append_assoc, h, h', List.append_assoc]

/-- A character that is neither layout nor a quotation mark is kept. -/
theorem cons (hc : isPlain c) (h : Squeezes text kept) : Squeezes (c :: text) (c :: kept) := by
  intro rest
  simp only [isPlain, Bool.and_eq_true, Bool.not_eq_true', decide_eq_false_iff_not] at hc
  have hkeeps : ¬(Zone.outside = .outside ∧ isLayout c) := by simp [hc.1]
  have hnext : Zone.next .outside c = .outside := if_neg hc.2
  rw [List.cons_append, squeeze, squeezeFrom_of_keeps hkeeps, hnext]
  exact congrArg (c :: ·) (h rest)

/-- Layout is taken away. -/
theorem layout (hc : isLayout c) (h : Squeezes text kept) : Squeezes (c :: text) kept := by
  intro rest
  rw [List.cons_append, squeeze, squeezeFrom, if_pos ⟨rfl, hc⟩]
  exact h rest

/-- A text without layout and quotation marks is kept. -/
theorem of_all (h : text.all isPlain) : Squeezes text text := by
  induction text with
  | nil => exact nil
  | cons c rest ih =>
    rw [List.all_cons, Bool.and_eq_true] at h
    exact cons h.1 (ih h.2)

/-- The characters of numerals are kept. -/
theorem of_isNumeric (h : ∀ c ∈ text, IsNumeric c.toNat) : Squeezes text text := by
  refine of_all (List.all_eq_true.2 fun c hc => ?_)
  have hne : ∀ d : Char, ¬IsNumeric d.toNat → c ≠ d := by
    rintro d hd rfl
    exact hd (h c hc)
  simp only [isPlain, isLayout, hne ' ' (by decide), hne '\n' (by decide), hne '"' (by decide),
    decide_false, Bool.or_self, Bool.not_false, Bool.and_self]

/-- A new line with its indentation is taken away. -/
theorem newLine_append (level : Nat) (h : Squeezes text kept) :
    Squeezes (newLine level ++ text) kept := by
  apply layout (by decide)
  induction 2 * level with
  | zero => exact h
  | succ n ih => exact layout (by decide) ih

/-- Brackets are kept, and the line between the last text and the closing one is taken away. -/
theorem enclose {first last : Char} (level : Nat) (hf : isPlain first) (hl : isPlain last)
    (h : Squeezes text kept) :
    Squeezes (first :: text ++ newLine level ++ [last]) (first :: kept ++ [last]) := by
  rw [List.append_assoc]
  exact (cons hf h).append ((cons hl nil).newLine_append level)

end Squeezes

/-- A character inside a literal that neither ends it nor starts an escape. -/
theorem squeezeFrom_inside {c : Char} (hq : c ≠ '"') (hs : c ≠ '\\') (rest : List Char) :
    squeezeFrom .inside (c :: rest) = c :: squeezeFrom .inside rest := by
  have hnext : Zone.next .inside c = .inside := by rw [Zone.next, if_neg hq, if_neg hs]
  have hkeeps : ¬(Zone.inside = .outside ∧ isLayout c) := by simp
  rw [squeezeFrom_of_keeps hkeeps, hnext]

theorem digitChar_ne {n : Nat} (h : n < 16) : n.digitChar ≠ '"' ∧ n.digitChar ≠ '\\' := by
  have all : ∀ m ∈ List.range 16, m.digitChar ≠ '"' ∧ m.digitChar ≠ '\\' := by decide
  exact all n (List.mem_range.2 h)

/-- An escape, or a character that needs none, stands inside its literal and does not end it. -/
theorem squeezeFrom_escapeChar (c : Char) (rest : List Char) :
    squeezeFrom .inside (escapeChar c ++ rest) = escapeChar c ++ squeezeFrom .inside rest := by
  -- Whatever follows a reverse solidus, even a quotation mark, is passed over.
  have hescape : ∀ d rest, squeezeFrom .inside ('\\' :: d :: rest) =
      '\\' :: d :: squeezeFrom .inside rest := fun _ _ => rfl
  unfold escapeChar
  iterate 7
    split
    · exact hescape _ rest
  split
  · next hc =>
    have hhi := digitChar_ne (n := c.toNat / 16) (by omega)
    have hlo := digitChar_ne (n := c.toNat % 16) (by omega)
    simp only [List.cons_append, List.nil_append]
    rw [hescape, squeezeFrom_inside (by decide) (by decide),
      squeezeFrom_inside (by decide) (by decide), squeezeFrom_inside hhi.1 hhi.2,
      squeezeFrom_inside hlo.1 hlo.2]
  · next hq hs _ _ _ _ _ _ => exact squeezeFrom_inside hq hs rest

/-- A string literal is kept as it is, with the layout inside it. -/
theorem squeezes_stringText (text : String) : Squeezes (stringText text) (stringText text) := by
  intro rest
  have hbody : ∀ body : List Char, squeezeFrom .inside (body.flatMap escapeChar ++ '"' :: rest) =
      body.flatMap escapeChar ++ '"' :: squeeze rest := by
    intro body
    induction body with
    | nil => rfl
    | cons c body ih =>
      rw [List.flatMap_cons, List.append_assoc, squeezeFrom_escapeChar, ih, List.append_assoc]
  rw [stringText, List.append_assoc, List.append_assoc, List.cons_append, List.cons_append]
  exact congrArg ('"' :: ·) (hbody text.toList)

/-- A value without brackets has no layout but that of a string. -/
theorem squeezes_leafText (j : Json) : Squeezes (leafText j) (leafText j) := by
  have hnull : Squeezes "null".toList "null".toList := Squeezes.of_all (by decide)
  cases j with
  | bool b => cases b <;> exact Squeezes.of_all (by decide)
  | integer n =>
    apply Squeezes.of_isNumeric
    intro c hc
    rw [leafText, Digits.ofInt] at hc
    split at hc
    · rcases List.mem_cons.1 hc with rfl | hc
      · exact .inl (by decide)
      · exact isNumeric_of_mem_ofNat hc
    · exact isNumeric_of_mem_ofNat hc
  | double x =>
    rw [leafText]
    split
    · exact Squeezes.of_isNumeric fun _ => isNumeric_of_mem_doubleText
    · exact hnull
  | string text => exact squeezes_stringText text
  | _ => exact hnull

/-- Items on lines of their own are squeezed to items with commas between them. -/
theorem squeezes_prettyItems {level : Nat} {items : List Json}
    (h : ∀ x ∈ items, Squeezes (prettyAt level x) (compact x)) :
    Squeezes (prettyItems level items) (compactItems items) := by
  induction items with
  | nil => exact Squeezes.nil
  | cons item rest ih =>
    rw [List.forall_mem_cons] at h
    cases rest with
    | nil => exact h.1.newLine_append level
    | cons next rest =>
      rw [prettyItems, compactItems, List.append_assoc]
      · exact (h.1.append (.cons (by decide) (ih h.2))).newLine_append level
      · exact List.cons_ne_nil _ _
      · exact List.cons_ne_nil _ _

/-- Members on lines of their own are squeezed to members with commas between them. -/
theorem squeezes_prettyMembers {level : Nat} {members : List (String × Json)}
    (h : ∀ x ∈ members, Squeezes (prettyAt level x.2) (compact x.2)) :
    Squeezes (prettyMembers level members) (compactMembers members) := by
  -- A key comes with its colon, and in the pretty form with a space behind it.
  have hkey : ∀ key {text kept : List Char}, Squeezes text kept →
      Squeezes (newLine level ++ (stringText key ++ ':' :: ' ' :: text))
        (stringText key ++ ':' :: kept) := fun key _ _ hv =>
    ((squeezes_stringText key).append
      (.cons (by decide) (.layout (by decide) hv))).newLine_append level
  induction members with
  | nil => exact Squeezes.nil
  | cons member rest ih =>
    obtain ⟨key, value⟩ := member
    rw [List.forall_mem_cons] at h
    cases rest with
    | nil =>
      rw [prettyMembers, compactMembers, List.append_assoc]
      exact hkey key h.1
    | cons next rest =>
      rw [prettyMembers, compactMembers, List.append_assoc]
      · exact hkey key (h.1.append (.cons (by decide) (ih h.2)))
      · exact List.cons_ne_nil _ _
      · exact List.cons_ne_nil _ _

/-- A value on lines of its own is squeezed to the value without white space. -/
theorem squeezes_prettyAt (level : Nat) (j : Json) : Squeezes (prettyAt level j) (compact j) := by
  induction j using induct generalizing level with
  | array items ih =>
    by_cases hne : items = []
    · have hempty : Squeezes ['[', ']'] ['[', ']'] := Squeezes.of_all (by decide)
      rw [hne]
      exact hempty
    · rw [prettyAt, compact]
      · have hitems := squeezes_prettyItems fun x hx => ih x hx (level + 1)
        exact hitems.enclose level (by decide) (by decide)
      · exact hne
  | object members ih =>
    by_cases hne : members = []
    · have hempty : Squeezes ['{', '}'] ['{', '}'] := Squeezes.of_all (by decide)
      rw [hne]
      exact hempty
    · rw [prettyAt, compact]
      · have hmembers := squeezes_prettyMembers fun x hx => ih x hx (level + 1)
        exact hmembers.enclose level (by decide) (by decide)
      · exact hne
  | leaf j ha ho =>
    rw [prettyAt, compact]
    · exact squeezes_leafText j
    · exact ha
    · exact ho
    · exact ha []
    · exact ha
    · exact ho []
    · exact ho

/-- An escaped quotation mark ends no literal, so the space behind it stays. -/
example : squeeze "[\n  \"a\\\" b\",\n  1\n]".toList = "[\"a\\\" b\",1]".toList := by decide

end TelemetrySpool.Json
