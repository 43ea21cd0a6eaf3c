import EdoyumIM.JsonStrings

/-!
The tokens of the JSON library other than strings: numbers, words and single
characters. An integer that is written in full is read back as itself, under the
type the reader chooses for it.
-/

namespace EdoyumIM.JsonNumbers

open MachineWords JsonValue JsonReader JsonWriter JsonStrings

/-- What follows a number may not go on with it. -/
def Stops (tail : Bytes) : Prop :=
  tail.head? ≠ some 0x2E ∧ tail.head? ≠ some 0x65 ∧ tail.head? ≠ some 0x45 ∧
    ∀ c, tail.head? = some c → isDigit c = false

/-! Tokens of a fixed text. -/
section Fixed

theorem readToken_scan (c : UInt8) (unit tail : Bytes) (type_ : TokenType)
    (solid : isSpace c = false) (scanned : scan c (unit ++ tail) = (type_, true, tail)) :
    readToken (c :: unit ++ tail) = (⟨type_, c :: unit⟩, tail) := by
  have text := between_append (c :: unit) tail
  rw [List.cons_append] at text ⊢
  rw [readToken_cons c _ solid, scanned]
  simp only [text, ↓reduceIte]

/-- A token of one character, behind spaces. -/
theorem readToken_single (c : UInt8) (type_ : TokenType) (blank tail : Bytes)
    (spaces : blank.all isSpace = true) (solid : isSpace c = false)
    (scanned : scan c tail = (type_, true, tail)) :
    readToken (blank ++ c :: tail) = (⟨type_, [c]⟩, tail) := by
  rw [readToken_blank blank _ spaces]
  exact readToken_scan c [] tail type_ solid scanned

theorem matchPattern_append (pattern tail : Bytes) :
    matchPattern pattern (pattern ++ tail) = (true, tail) := by
  have front : pattern.isPrefixOf (pattern ++ tail) = true :=
    List.isPrefixOf_iff_prefix.mpr (List.prefix_append pattern tail)
  rw [matchPattern, if_pos front, List.drop_left]

theorem skip_token {current tail : Bytes} {token : Token} (read : readToken current = (token, tail))
    (solid : token.type_ ≠ .tokenComment) : skipCommentTokens current = (token, tail) := by
  have same : (readToken current).1 = token := congrArg Prod.fst read
  rw [skipCommentTokens, dif_neg (same ▸ solid), read]

theorem stops_blank (blank tail : Bytes) (spaces : blank.all isSpace = true) (c : UInt8)
    (apart : c ≠ 0x2E ∧ c ≠ 0x65 ∧ c ≠ 0x45 ∧ isDigit c = false) :
    Stops (blank ++ c :: tail) := by
  have space : ∀ c, isSpace c = true → c ≠ 0x2E ∧ c ≠ 0x65 ∧ c ≠ 0x45 ∧ isDigit c = false := by
    decide +kernel
  have head : ∀ c, c ≠ 0x2E ∧ c ≠ 0x65 ∧ c ≠ 0x45 ∧ isDigit c = false →
      ∀ tail, Stops (c :: tail) := by
    rintro c ⟨point, small, great, plain⟩ tail
    exact ⟨by simpa using point, by simpa using small, by simpa using great, by simpa using plain⟩
  cases blank with
  | nil => exact head c apart tail
  | cons first rest => exact head first (space first (List.all_eq_true.mp spaces first (by simp))) _

end Fixed

/-! Integers. -/
section Integers

/-- The digits of a number, behind those already taken. -/
def digitsValue : Bytes → Nat → Nat
  | [], value => value
  | c :: rest, value => digitsValue rest (value * 10 + (c.toNat - 0x30))

theorem le_digitsValue (digits : Bytes) (value : Nat) : value ≤ digitsValue digits value := by
  induction digits generalizing value with
  | nil => exact Nat.le_refl _
  | cons c rest ih => exact Nat.le_trans (by omega) (ih (value * 10 + (c.toNat - 0x30)))

/-- The overflow test of the loop refuses no number that fits. -/
theorem decodeDigits_fits (maxIntegerValue : Nat) (wide : 10 ≤ maxIntegerValue) (digits : Bytes)
    (plain : digits.all isDigit = true) (value : Nat)
    (fits : digitsValue digits value ≤ maxIntegerValue) :
    decodeDigits maxIntegerValue digits value = some (digitsValue digits value) := by
  induction digits generalizing value with
  | nil => rfl
  | cons c rest ih =>
      obtain ⟨digit, later⟩ : isDigit c = true ∧ rest.all isDigit = true := by simpa using plain
      have within := Nat.le_trans (le_digitsValue rest (value * 10 + (c.toNat - 0x30))) fits
      have below : ¬ (value ≥ maxIntegerValue / 10 ∧ (value > maxIntegerValue / 10 ∨ rest ≠ [] ∨
          c.toNat - 0x30 > maxIntegerValue % 10)) := by
        rintro ⟨reached, beyond | more | greater⟩
        · omega
        · cases rest with
          | nil => exact more rfl
          | cons next rest =>
              have longer := Nat.le_trans (le_digitsValue rest
                ((value * 10 + (c.toNat - 0x30)) * 10 + (next.toNat - 0x30))) fits
              omega
        · omega
      rw [decodeDigits, if_pos digit]
      simp only [if_neg below]
      exact ih later _ fits

theorem uintToString_digits (value : Nat) : (uintToString value).all isDigit = true := by
  rw [List.all_eq_true]
  intro c member
  obtain ⟨letter, inside, rfl⟩ := List.mem_map.mp member
  have digit := Nat.isDigit_of_mem_toDigits (by decide) (by decide) inside
  rw [Char.isDigit_iff_toNat] at digit
  have bounds : 48 ≤ letter.toNat ∧ letter.toNat ≤ 57 := digit
  have small : (UInt8.ofNat letter.toNat).toNat = letter.toNat := by
    rw [UInt8.toNat_ofNat', Nat.mod_eq_of_lt (by omega)]
  simp only [isDigit, Bool.and_eq_true, decide_eq_true_eq, UInt8.le_iff_toNat_le, small]
  exact bounds

theorem digitsValue_mapped (letters : List Char) (small : ∀ letter ∈ letters, letter.toNat < 256)
    (value : Nat) :
    digitsValue (letters.map fun letter => UInt8.ofNat letter.toNat) value =
      Nat.ofDigitChars 10 letters value := by
  induction letters generalizing value with
  | nil => rfl
  | cons letter rest ih =>
      have here : (UInt8.ofNat letter.toNat).toNat = letter.toNat := by
        rw [UInt8.toNat_ofNat', Nat.mod_eq_of_lt (small letter (by simp))]
      rw [List.map_cons, digitsValue, here, ih fun other member => small other (by simp [member])]
      rw [Nat.ofDigitChars_cons, Nat.mul_comm]
      rfl

theorem digitsValue_uintToString (value : Nat) : digitsValue (uintToString value) 0 = value := by
  have small : ∀ letter ∈ Nat.toDigits 10 value, letter.toNat < 256 := by
    intro letter member
    have digit := Nat.isDigit_of_mem_toDigits (by decide) (by decide) member
    rw [Char.isDigit_iff_toNat] at digit
    exact Nat.lt_of_le_of_lt digit.2 (by decide)
  rw [uintToString, digitsValue_mapped _ small, Nat.ofDigitChars_ten_toDigits]

theorem uintToString_cons (value : Nat) :
    ∃ c rest, uintToString value = c :: rest ∧ isDigit c = true ∧ rest.all isDigit = true := by
  have digits := uintToString_digits value
  cases text : uintToString value with
  | nil => simp [uintToString] at text
  | cons c rest =>
      rw [text] at digits
      simp only [List.all_cons, Bool.and_eq_true] at digits
      exact ⟨c, rest, rfl, digits⟩

theorem skipDigits_stops (digits tail : Bytes) (plain : digits.all isDigit = true)
    (stops : Stops tail) : skipDigits (digits ++ tail) = tail := by
  rw [skipDigits, List.dropWhile_append_of_pos (List.all_eq_true.mp plain)]
  cases tail with
  | nil => rfl
  | cons c rest => simp [stops.2.2.2 c rfl]

theorem readNumber_stops (digits tail : Bytes) (plain : digits.all isDigit = true)
    (stops : Stops tail) : readNumber (digits ++ tail) = tail := by
  rw [readNumber, skipDigits_stops digits tail plain stops, readFraction, if_neg stops.1,
    readExponent, if_neg]
  exact fun exponent => exponent.elim stops.2.1 stops.2.2.1

theorem scan_digit (c : UInt8) (digit : isDigit c = true) (current : Bytes) :
    scan c current = (.tokenNumber, true, readNumber current) := by
  have digits : ∀ c : UInt8, isDigit c = true →
      c ∈ [0x30, 0x31, 0x32, 0x33, 0x34, 0x35, 0x36, 0x37, 0x38, 0x39] := by decide +kernel
  have one := digits c digit
  simp only [List.mem_cons, List.not_mem_nil, or_false] at one
  rcases one with rfl | rfl | rfl | rfl | rfl | rfl | rfl | rfl | rfl | rfl <;> rfl

theorem readToken_uint (value : Nat) (tail : Bytes) (stops : Stops tail) :
    readToken (uintToString value ++ tail) = (⟨.tokenNumber, uintToString value⟩, tail) := by
  obtain ⟨c, rest, text, digit, plain⟩ := uintToString_cons value
  have solid : ∀ c, isDigit c = true → isSpace c = false := by decide +kernel
  rw [text]
  exact readToken_scan c rest tail _ (solid c digit)
    (by rw [scan_digit c digit, readNumber_stops rest tail plain stops])

theorem readToken_int (value : Int) (tail : Bytes) (stops : Stops tail) :
    readToken (valueToString value ++ tail) = (⟨.tokenNumber, valueToString value⟩, tail) := by
  rw [valueToString]
  split_ifs
  · refine readToken_scan 0x2D (uintToString value.natAbs) tail _ (by decide) ?_
    change (TokenType.tokenNumber, true, readNumber (uintToString value.natAbs ++ tail)) = _
    rw [readNumber_stops _ tail (uintToString_digits _) stops]
  · exact readToken_uint value.natAbs tail stops

/-- The type that the reader gives an integer. -/
def number (value : Int) : Json := if value ≤ maxInt then .int value else .uint value.toNat

theorem decodeNumber_uint (decodeDouble : Bytes → Option ℚ) (value : Nat)
    (fits : value ≤ maxLargestUInt) :
    decodeNumber decodeDouble (uintToString value) = some (number value) := by
  obtain ⟨c, rest, text, digit, -⟩ := uintToString_cons value
  have unsigned : ∀ c, isDigit c = true → c ≠ 0x2D := by decide +kernel
  have positive : ¬ (uintToString value).head? = some 0x2D := by
    rw [text]
    exact fun same => unsigned c digit (Option.some.inj same)
  have decoded := decodeDigits_fits maxLargestUInt (by decide) _ (uintToString_digits value) 0
    (by rwa [digitsValue_uintToString])
  rw [digitsValue_uintToString] at decoded
  simp only [decodeNumber, positive, decide_false, Bool.false_eq_true, ↓reduceIte, decoded, number,
    Int.ofNat_le, Int.toNat_natCast]

theorem decodeNumber_int (decodeDouble : Bytes → Option ℚ) (value : Int)
    (least : -2 ^ 63 ≤ value) (greatest : value ≤ maxLargestUInt) :
    decodeNumber decodeDouble (valueToString value) = some (number value) := by
  rw [valueToString]
  split_ifs with negative
  · have decoded := decodeDigits_fits (maxLargestInt + 1) (by decide) _
      (uintToString_digits value.natAbs) 0
      (by rw [digitsValue_uintToString, maxLargestInt]; omega)
    rw [digitsValue_uintToString] at decoded
    simp only [decodeNumber, List.head?_cons, List.tail_cons, decide_true, ↓reduceIte, decoded,
      number, if_pos (show value ≤ maxInt by rw [maxInt]; omega)]
    exact congrArg (some ∘ Json.int) (by omega)
  · have same : (value.natAbs : Int) = value := by omega
    rw [decodeNumber_uint decodeDouble value.natAbs (by omega), same]

end Integers

end EdoyumIM.JsonNumbers
