import TelemetrySpool.Net.IpAddress

/-!
# Addresses inside socket addresses

A reader stops at a character if that character, and whatever follows it, comes back as it was. The
readers of octets stop at the colon in front of a port, and those of groups at a closing bracket, so
an address reads the same inside a socket address as alone. Groups without brackets are another
matter: they start like no socket address at all.
-/

namespace TelemetrySpool

namespace IpAddress

/-- A reader never reads a character, nor what follows it, and does not need them either. -/
def Stops {α : Type} (read : Reader α) (c : Char) : Prop :=
  ∀ text more, read (text ++ c :: more) =
    (read text).map fun found => (found.1, found.2 ++ c :: more)

theorem takeDigits_append {value? : Char → Option Nat} {c : Char} (hc : value? c = none)
    (text more : List Char) :
    takeDigits value? (text ++ c :: more) =
      ((takeDigits value? text).1, (takeDigits value? text).2 ++ c :: more) := by
  induction text with
  | nil => simp [takeDigits, hc]
  | cons d rest ih =>
    cases hd : value? d with
    | none => simp [takeDigits, hd]
    | some n => simp [takeDigits, hd, ih]

namespace Stops

variable {α : Type} {c : Char}

/-- Octets stop at a character that is no digit. -/
theorem octet (hc : Digits.value? c = none) : Stops octet c := by
  intro text more
  rw [IpAddress.octet, IpAddress.octet, takeDigits_append hc]
  rcases takeDigits Digits.value? text with ⟨_ | ⟨_ | d, _ | ⟨e, digits⟩⟩, rest⟩
  · rfl
  · rfl
  · rfl
  · change (if _ then _ else _) = Option.map _ (if _ then _ else _)
    split <;> rfl
  · change (if _ then _ else _) = Option.map _ (if _ then _ else _)
    split <;> rfl

/-- Groups stop at a character that is no hexadecimal digit. -/
theorem group (hc : Hex.value? c = none) : Stops group c := by
  intro text more
  rw [IpAddress.group, IpAddress.group, takeDigits_append hc]
  rcases takeDigits Hex.value? text with ⟨_ | ⟨d, digits⟩, rest⟩
  · rfl
  · change (if _ then _ else _) = Option.map _ (if _ then _ else _)
    split <;> rfl

theorem given {d : Char} (hc : d ≠ c) : Stops (given d) c := by
  intro text more
  cases text with
  | nil => simp [IpAddress.given, hc]
  | cons e rest =>
    simp only [List.cons_append, IpAddress.given]
    split <;> rfl

/-- A separator in front of what is read has to differ from the character. -/
theorem separated {separator : Char} (hc : separator ≠ c) (isFirst : Bool) {item : Reader α}
    (h : Stops item c) : Stops (separated separator isFirst item) c := by
  intro text more
  unfold IpAddress.separated
  split
  · exact h text more
  · rw [given hc text more]
    cases IpAddress.given separator text with
    | none => rfl
    | some found => exact h found.2 more

/-- Four octets stop at a character that is neither a digit nor a point. -/
theorem octets (hc : Digits.value? c = none) (hp : '.' ≠ c) : Stops octets c := by
  intro text more
  have hnext := (octet hc).separated hp false
  simp only [IpAddress.octets, Option.bind_eq_bind]
  rw [octet hc text more]
  cases IpAddress.octet text with
  | none => rfl
  | some a =>
    simp only [Option.map_some, Option.bind_some]
    rw [hnext a.2 more]
    cases IpAddress.separated '.' false IpAddress.octet a.2 with
    | none => rfl
    | some b =>
      simp only [Option.map_some, Option.bind_some]
      rw [hnext b.2 more]
      cases IpAddress.separated '.' false IpAddress.octet b.2 with
      | none => rfl
      | some d =>
        simp only [Option.map_some, Option.bind_some]
        rw [hnext d.2 more]
        cases IpAddress.separated '.' false IpAddress.octet d.2 <;> rfl

end Stops

/-- Characters at which all the readers of an address stop. -/
structure Fence (c : Char) : Prop where
  digit : Digits.value? c = none
  hex : Hex.value? c = none
  point : '.' ≠ c
  colon : ':' ≠ c

namespace Fence

variable {c : Char}

theorem bracket : Fence ']' := ⟨by decide, by decide, by decide, by decide⟩

theorem groups (hc : Fence c) (room : Nat) (isFirst : Bool) (text more : List Char) :
    groups room isFirst (text ++ c :: more) =
      ((groups room isFirst text).1, (groups room isFirst text).2.1,
        (groups room isFirst text).2.2 ++ c :: more) := by
  induction room generalizing isFirst text with
  | zero => rfl
  | succ room ih =>
    have hgroup := (Stops.group hc.hex).separated hc.colon isFirst text more
    have hoctets : (if 0 < room then
          separated ':' isFirst octets (text ++ c :: more) else none) =
        (if 0 < room then separated ':' isFirst octets text else none).map
          fun found => (found.1, found.2 ++ c :: more) := by
      split
      · exact (Stops.octets hc.digit hc.point).separated hc.colon isFirst text more
      · rfl
    simp only [IpAddress.groups, hoctets, hgroup]
    cases (if 0 < room then separated ':' isFirst octets text else none) with
    | some found => rfl
    | none =>
      cases separated ':' isFirst group text with
      | none => rfl
      | some found => simp only [Option.map_some, Option.map_none, ih]

/-- Two colons that stand in front of a fence stand there without it, too. -/
theorem cons_cons_iff (hc : Fence c) {rest back more : List Char} :
    rest ++ c :: more = ':' :: ':' :: back ↔
      ∃ back', rest = ':' :: ':' :: back' ∧ back = back' ++ c :: more := by
  have hcolon := hc.colon
  rcases rest with _ | ⟨a, _ | ⟨b, rest⟩⟩
  · simp [hcolon.symm]
  · simp [hcolon.symm]
  · simp [and_assoc, eq_comm]

/-- Eight groups stop at a fence. -/
theorem v6Groups (hc : Fence c) : Stops v6Groups c := by
  intro text more
  simp only [IpAddress.v6Groups, hc.groups]
  rcases IpAddress.groups 8 true text with ⟨front, embedded, rest⟩
  dsimp only
  split
  · rfl
  · split
    · rfl
    · split
      · next back h =>
        obtain ⟨back', rfl, rfl⟩ := hc.cons_cons_iff.1 h
        simp only [hc.groups, Option.map_some]
      · next h =>
        split
        · next back => exact absurd rfl (h (back ++ c :: more))
        · rfl

end Fence

/-- The number that decimal digits spell. -/
theorem number_map_digits (digits : List Char) :
    number 10 (digits.map fun c => c.toNat - '0'.toNat) = Nat.ofDigitChars 10 digits 0 := by
  rw [number, List.foldl_map]
  rfl

/-- Digits to the end of a text are taken. -/
theorem takeDigits_of_isDigit {text : List Char} (h : ∀ c ∈ text, c.isDigit) :
    takeDigits Digits.value? text = (text.map fun c => c.toNat - '0'.toNat, []) := by
  induction text with
  | nil => rfl
  | cons c rest ih =>
    have hc := Digits.value?_of_isDigit (h c List.mem_cons_self)
    have hrest := ih fun d hd => h d (List.mem_cons_of_mem _ hd)
    simp only [takeDigits, hc, hrest, List.map_cons]

theorem parse?_eq_some_iff {text : String} {address : IpAddress} :
    parse? text = some address ↔ read text.toList = some (address, []) := by
  unfold parse?
  split
  · next h => simp [h]
  · next h =>
    simp only [reduceCtorEq, false_iff]
    exact fun hread => h _ hread

/-- An address of four octets is read as such, and as nothing else. -/
theorem parse?_eq_v4_iff {text : String} {found : List Nat} :
    parse? text = some (.v4 found) ↔ octets text.toList = some (found, []) := by
  rw [parse?_eq_some_iff, read]
  cases octets text.toList with
  | some _ => simp [Prod.ext_iff]
  | none => simp

/-- An address of eight groups does not start with four octets. -/
theorem parse?_eq_v6_iff {text : String} {found : List Nat} :
    parse? text = some (.v6 found) ↔
      octets text.toList = none ∧ v6Groups text.toList = some (found, []) := by
  rw [parse?_eq_some_iff, read]
  cases octets text.toList with
  | some _ => simp
  | none => simp

/-- An opening bracket starts no groups. -/
theorem v6Groups_bracket (rest : List Char) : v6Groups ('[' :: rest) = none := rfl

end IpAddress

namespace SocketAddress

open IpAddress

variable {address : String} {found : List Nat}

/-- A port is read to the end of a text. -/
theorem portNumber_ofNat {port : Nat} (hport : port < 65536) :
    portNumber (Digits.ofNat port) = some (port, []) := by
  have htake : takeDigits Digits.value? (Digits.ofNat port) = _ :=
    takeDigits_of_isDigit fun _ => Digits.isDigit_of_mem_ofNat
  have hnumber : number 10 ((Digits.ofNat port).map fun c => c.toNat - '0'.toNat) = port := by
    rw [number_map_digits]
    exact Nat.ofDigitChars_ten_toDigits ..
  cases hdigits : Digits.ofNat port with
  | nil => exact absurd hdigits Nat.toDigits_ne_nil
  | cons c rest =>
    rw [hdigits] at htake hnumber
    rw [portNumber, htake]
    simp only [List.map_cons] at hnumber ⊢
    rw [hnumber, if_pos hport]

/-- The characters of an address with a port behind a colon. -/
theorem toList_joined (address : String) (port : Nat) :
    (address ++ ":" ++ Digits.text port).toList = address.toList ++ ':' :: Digits.ofNat port := by
  simp [Digits.text]

/-- Octets are read up to the colon in front of a port. -/
theorem octets_joined (address : String) (port : Nat) :
    octets (address.toList ++ ':' :: Digits.ofNat port) =
      (octets address.toList).map fun found => (found.1, found.2 ++ ':' :: Digits.ofNat port) :=
  Stops.octets (by decide) (by decide) address.toList (Digits.ofNat port)

/-- Four octets with a port are a socket address. -/
theorem parse?_of_v4 (h : IpAddress.parse? address = some (.v4 found)) {port : Nat}
    (hport : port < 65536) :
    parse? (address ++ ":" ++ Digits.text port) = some ⟨.v4 found, port⟩ := by
  have hoctets := octets_joined address port
  rw [parse?_eq_v4_iff.1 h] at hoctets
  have hv4 : v4 (address.toList ++ ':' :: Digits.ofNat port) = some (⟨.v4 found, port⟩, []) := by
    simp [v4, hoctets, given, portNumber_ofNat hport]
  rw [parse?, toList_joined, hv4, Option.some_or]

/-- Groups in front of the colon and a port are no socket address. -/
theorem parse?_of_v6 (h : IpAddress.parse? address = some (.v6 found)) (port : Nat) :
    parse? (address ++ ":" ++ Digits.text port) = none := by
  obtain ⟨hnone, hgroups⟩ := parse?_eq_v6_iff.1 h
  have hoctets := octets_joined address port
  rw [hnone] at hoctets
  have hv4 : v4 (address.toList ++ ':' :: Digits.ofNat port) = none := by
    simp [v4, hoctets]
  -- The reader of groups wants a bracket first, with which no address starts.
  have hv6 : v6 (address.toList ++ ':' :: Digits.ofNat port) = none := by
    cases hlist : address.toList with
    | nil => rfl
    | cons c rest =>
      have hc : '[' ≠ c := by
        rintro rfl
        rw [hlist, v6Groups_bracket] at hgroups
        cases hgroups
      simp [v6, given, hc]
  rw [parse?, toList_joined, hv4, hv6]
  rfl

/-- Groups in brackets are read up to the closing one. -/
theorem parse?_of_v6_in_brackets (h : IpAddress.parse? address = some (.v6 found)) {port : Nat}
    (hport : port < 65536) :
    parse? ("[" ++ address ++ "]:" ++ Digits.text port) = some ⟨.v6 found, port⟩ := by
  have htext : ("[" ++ address ++ "]:" ++ Digits.text port).toList =
      '[' :: (address.toList ++ ']' :: ':' :: Digits.ofNat port) := by
    simp [Digits.text]
  have hgroups := Fence.bracket.v6Groups address.toList (':' :: Digits.ofNat port)
  rw [(parse?_eq_v6_iff.1 h).2] at hgroups
  have hv4 : v4 ('[' :: (address.toList ++ ']' :: ':' :: Digits.ofNat port)) = none := rfl
  have hv6 : v6 ('[' :: (address.toList ++ ']' :: ':' :: Digits.ofNat port)) =
      some (⟨.v6 found, port⟩, []) := by
    simp [v6, hgroups, given, zone, portNumber_ofNat hport]
  rw [parse?, htext, hv4, hv6, Option.none_or]

end SocketAddress

end TelemetrySpool
