import EdoyumIM.JsonWriter

/-!
Quoted strings of the JSON library, written and read. A string of any bytes is
written as one token, which reads back respelled: bytes that are no UTF-8 come
back as the code points the writer took them for. A text in UTF-8 comes back as
it was.
-/

namespace EdoyumIM.JsonStrings

open MachineWords JsonValue JsonReader JsonWriter

/-! The bit operations of the library as arithmetic. -/
section Bits

theorem mask3 (x : Nat) : x &&& 0x07 = x % 8 := Nat.and_two_pow_sub_one_eq_mod x 3

theorem mask4 (x : Nat) : x &&& 0x0F = x % 16 := Nat.and_two_pow_sub_one_eq_mod x 4

theorem mask5 (x : Nat) : x &&& 0x1F = x % 32 := Nat.and_two_pow_sub_one_eq_mod x 5

theorem mask6 (x : Nat) : x &&& 0x3F = x % 64 := Nat.and_two_pow_sub_one_eq_mod x 6

theorem mask8 (x : Nat) : x &&& 0xFF = x % 256 := Nat.and_two_pow_sub_one_eq_mod x 8

theorem mask10 (x : Nat) : x &&& 0x3FF = x % 1024 := Nat.and_two_pow_sub_one_eq_mod x 10

theorem shift_or (width high low : Nat) (below : low < 2 ^ width) :
    (high <<< width) ||| low = high * 2 ^ width + low := by
  rw [← Nat.shiftLeft_add_eq_or_of_lt below, Nat.shiftLeft_eq]

theorem two_bytes (first second : Nat) :
    ((first &&& 0x1F) <<< 6) ||| (second &&& 0x3F) = first % 32 * 64 + second % 64 := by
  rw [mask5, mask6, shift_or 6 _ (second % 64) (by omega)]
  rfl

theorem three_bytes (first second third : Nat) :
    ((first &&& 0x0F) <<< 12) ||| ((second &&& 0x3F) <<< 6) ||| (third &&& 0x3F) =
      first % 16 * 4096 + second % 64 * 64 + third % 64 := by
  have small : second % 64 < 64 := Nat.mod_lt _ (by decide)
  have upper : ((first % 16) <<< 12) ||| ((second % 64) <<< 6) =
      (first % 16 * 64 + second % 64) <<< 6 := by
    rw [shift_or 12 _ _ (by rw [Nat.shiftLeft_eq]; omega), Nat.shiftLeft_eq, Nat.shiftLeft_eq]
    omega
  rw [mask4, mask6, mask6, upper, shift_or 6 _ (third % 64) (by omega)]
  omega

theorem four_bytes (first second third fourth : Nat) :
    ((first &&& 0x07) <<< 18) ||| ((second &&& 0x3F) <<< 12) ||| ((third &&& 0x3F) <<< 6) |||
      (fourth &&& 0x3F) =
      first % 8 * 262144 + second % 64 * 4096 + third % 64 * 64 + fourth % 64 := by
  have small : second % 64 < 64 := Nat.mod_lt _ (by decide)
  have middle : third % 64 < 64 := Nat.mod_lt _ (by decide)
  have upper : ((first % 8) <<< 18) ||| ((second % 64) <<< 12) ||| ((third % 64) <<< 6) =
      (first % 8 * 4096 + second % 64 * 64 + third % 64) <<< 6 := by
    have top : ((first % 8) <<< 18) ||| ((second % 64) <<< 12) =
        (first % 8 * 64 + second % 64) <<< 12 := by
      rw [shift_or 18 _ _ (by rw [Nat.shiftLeft_eq]; omega), Nat.shiftLeft_eq, Nat.shiftLeft_eq]
      omega
    rw [top, shift_or 12 _ _ (by rw [Nat.shiftLeft_eq]; omega), Nat.shiftLeft_eq, Nat.shiftLeft_eq]
    omega
  rw [mask3, mask6, mask6, mask6, upper, shift_or 6 _ (fourth % 64) (by omega)]
  omega

end Bits

/-! What stands between the quotes. -/
section Spelling

/-- The text `unit` is read as `value`, whatever comes behind. -/
def Spells (unit value : Bytes) : Prop :=
  ∀ tail, decodeCharacters (unit ++ tail) = (decodeCharacters tail).map (value ++ ·) ∧
    readString (unit ++ tail) = readString tail

theorem spells_nil : Spells [] [] := by
  intro tail
  simp

theorem Spells.append {unit value behind next : Bytes} (first : Spells unit value)
    (second : Spells behind next) : Spells (unit ++ behind) (value ++ next) := by
  intro tail
  rw [List.append_assoc]
  refine ⟨?_, (first _).2.trans (second tail).2⟩
  rw [(first _).1, (second tail).1, Option.map_map]
  simp [Function.comp_def]

theorem spells_plain (c : UInt8) (quote : c ≠ 0x22) (slash : c ≠ 0x5C) : Spells [c] [c] := by
  intro tail
  constructor
  · rw [List.singleton_append, decodeCharacters.eq_def]
    simp only [if_neg quote, if_neg slash]
    rfl
  · rw [List.singleton_append, readString.eq_def]
    simp only [if_neg slash, if_neg quote]

theorem escaped_read (escape : UInt8) (tail : Bytes) :
    readString (0x5C :: escape :: tail) = readString tail := by
  rw [readString, if_pos rfl]

theorem spells_escape (escape value : UInt8) (stands : simpleEscape escape = some value) :
    Spells [0x5C, escape] [value] := by
  intro tail
  refine ⟨?_, escaped_read escape tail⟩
  change decodeCharacters (0x5C :: escape :: tail) = _
  rw [decodeCharacters, if_neg (by decide), if_pos rfl, stands]
  rfl

theorem simpleEscape_short (c escape : UInt8) (short : shortEscape c = some escape) :
    simpleEscape escape = some c := by
  revert c escape
  decide +kernel

theorem hexDigit_letter (digit : Nat) (small : digit < 16) :
    hexDigit (hexLetter digit) = some digit := by
  revert digit
  decide

theorem hexLetter_plain (digit : Nat) (small : digit < 16) :
    hexLetter digit ≠ 0x22 ∧ hexLetter digit ≠ 0x5C := by
  revert digit
  decide

theorem hex_read (x : Nat) (small : x < 0x10000) (tail : Bytes) :
    decodeUnicodeEscapeSequence (toHex16Bit x ++ tail) = some x := by
  have hi : (x >>> 8) &&& 0xFF = x / 256 := by
    rw [mask8, Nat.shiftRight_eq_div_pow]
    omega
  have lo : x &&& 0xFF = x % 256 := mask8 x
  simp only [decodeUnicodeEscapeSequence, toHex16Bit, hi, lo, List.cons_append, List.nil_append,
    hexDigits, hexDigit_letter (x / 256 / 16) (by omega), hexDigit_letter (x / 256 % 16) (by omega),
    hexDigit_letter (x % 256 / 16) (by omega), hexDigit_letter (x % 256 % 16) (by omega),
    Option.bind_some]
  exact congrArg some (by omega)

/-- A string goes on behind an escape of four digits. -/
theorem hex_passed (x : Nat) (tail : Bytes) :
    readString (appendHex x ++ tail) = readString tail := by
  have digits : ∀ value : Nat, (value &&& 0xFF) / 16 < 16 ∧ (value &&& 0xFF) % 16 < 16 := by
    intro value
    rw [mask8]
    omega
  have letter : ∀ digit < 16, ∀ behind,
      readString (hexLetter digit :: behind) = readString behind :=
    fun digit small behind => by
      have plain := hexLetter_plain digit small
      exact (spells_plain _ plain.1 plain.2 behind).2
  simp only [appendHex, toHex16Bit, List.cons_append, List.nil_append, escaped_read]
  rw [letter _ (digits _).1, letter _ (digits _).2, letter _ (digits _).1, letter _ (digits _).2]

theorem unicode_escape (tail behind : Bytes) (unicode moved : Nat)
    (read : decodeUnicodeCodePoint tail = some (unicode, moved)) (rest : tail.drop moved = behind) :
    decodeCharacters (0x5C :: 0x75 :: tail) =
      (decodeCharacters behind).map (codePointToUTF8 unicode ++ ·) := by
  have none : simpleEscape 0x75 = none := by decide
  rw [decodeCharacters, if_neg (by decide), if_pos rfl, none]
  simp only [if_pos, read, rest]

theorem spells_hex (x : Nat) (small : x < 0x10000) (single : ¬ (0xD800 ≤ x ∧ x ≤ 0xDBFF)) :
    Spells (appendHex x) (codePointToUTF8 x) := by
  intro tail
  refine ⟨?_, hex_passed x tail⟩
  refine unicode_escape (toHex16Bit x ++ tail) tail x 4 ?_ (by simp [toHex16Bit])
  simp only [decodeUnicodeCodePoint, hex_read x small tail, Option.bind_eq_bind, Option.bind_some,
    if_neg single]

/-- A pair of surrogates stands for one code point. -/
theorem spells_pair (y : Nat) :
    Spells (appendHex (0xD800 + ((y >>> 10) &&& 0x3FF)) ++ appendHex (0xDC00 + (y &&& 0x3FF)))
      (codePointToUTF8 (0x10000 + y % 0x100000)) := by
  have upper : (y >>> 10) &&& 0x3FF = y / 1024 % 1024 := by
    rw [mask10, Nat.shiftRight_eq_div_pow]
  have lower : y &&& 0x3FF = y % 1024 := mask10 y
  have high : (0xD800 + y / 1024 % 1024) &&& 0x3FF = y / 1024 % 1024 := by
    rw [mask10]
    omega
  have low : (0xDC00 + y % 1024) &&& 0x3FF = y % 1024 := by
    rw [mask10]
    omega
  intro tail
  rw [upper, lower, List.append_assoc]
  refine ⟨?_, by rw [hex_passed, hex_passed]⟩
  refine unicode_escape (toHex16Bit (0xD800 + y / 1024 % 1024) ++
    (appendHex (0xDC00 + y % 1024) ++ tail)) tail _ 10 ?_ (by simp [toHex16Bit, appendHex])
  have dropped : (toHex16Bit (0xD800 + y / 1024 % 1024) ++
      (appendHex (0xDC00 + y % 1024) ++ tail)).drop 4 =
      0x5C :: 0x75 :: (toHex16Bit (0xDC00 + y % 1024) ++ tail) := rfl
  have surrogate : 0xD800 ≤ 0xD800 + y / 1024 % 1024 ∧ 0xD800 + y / 1024 % 1024 ≤ 0xDBFF := by
    omega
  simp only [decodeUnicodeCodePoint, hex_read _ (by omega : 0xD800 + y / 1024 % 1024 < 0x10000),
    Option.bind_eq_bind, Option.bind_some, if_pos surrogate, dropped,
    hex_read _ (by omega : 0xDC00 + y % 1024 < 0x10000), high, low, Nat.shiftLeft_eq]
  exact congrArg some (Prod.ext (by simp only; omega) rfl)

end Spelling

/-! Strings of any bytes. -/
section Respelling

/-- The code point that the text of a code point is read as: a pair of
surrogates has room for twenty bits. -/
def respelled (codepoint : Nat) : Nat :=
  if codepoint < 0x10000 then codepoint else 0x10000 + (codepoint - 0x10000) % 0x100000

/-- What is read where a string was written. -/
def respell (value : Bytes) : Bytes :=
  match value with
  | [] => []
  | c :: behind =>
      codePointToUTF8 (respelled (utf8ToCodepoint (c :: behind)).1) ++
        respell (behind.drop (utf8ToCodepoint (c :: behind)).2)
termination_by value.length

/-- A byte below 0x80 stands for itself; no other is taken for a surrogate or
for a code point below 0x80. -/
theorem utf8ToCodepoint_cases (c : UInt8) (behind : Bytes) :
    (c.toNat < 0x80 ∧ utf8ToCodepoint (c :: behind) = (c.toNat, 0)) ∨
    (0x80 ≤ c.toNat ∧ 0x80 ≤ (utf8ToCodepoint (c :: behind)).1 ∧
      ¬ (0xD800 ≤ (utf8ToCodepoint (c :: behind)).1 ∧
        (utf8ToCodepoint (c :: behind)).1 ≤ 0xDFFF)) := by
  by_cases one : c.toNat < 0x80
  · exact Or.inl ⟨one, by rw [utf8ToCodepoint.eq_def]; simp only [if_pos one]⟩
  refine Or.inr ⟨Nat.le_of_not_lt one, ?_⟩
  simp only [utf8ToCodepoint, if_neg one, two_bytes, three_bytes, four_bytes]
  by_cases two : c.toNat < 0xE0
  · rw [if_pos two]
    cases behind with
    | nil => simp [REPLACEMENT_CHARACTER]
    | cons second rest =>
        simp only [REPLACEMENT_CHARACTER]
        split_ifs <;> omega
  by_cases three : c.toNat < 0xF0
  · rw [if_neg two, if_pos three]
    rcases behind with _ | ⟨second, _ | ⟨third, rest⟩⟩
    · simp [REPLACEMENT_CHARACTER]
    · simp [REPLACEMENT_CHARACTER]
    · simp only [REPLACEMENT_CHARACTER]
      split_ifs <;> omega
  by_cases four : c.toNat < 0xF8
  · rw [if_neg two, if_neg three, if_pos four]
    rcases behind with _ | ⟨second, _ | ⟨third, _ | ⟨fourth, rest⟩⟩⟩
    · simp [REPLACEMENT_CHARACTER]
    · simp [REPLACEMENT_CHARACTER]
    · simp [REPLACEMENT_CHARACTER]
    · simp only [REPLACEMENT_CHARACTER]
      split_ifs <;> omega
  · rw [if_neg two, if_neg three, if_neg four]
    simp [REPLACEMENT_CHARACTER]

theorem shortEscape_below (c : UInt8) (above : 0x80 ≤ c.toNat) : shortEscape c = none := by
  revert c
  decide +kernel

theorem codePointToUTF8_below (c : UInt8) (below : c.toNat < 0x80) :
    codePointToUTF8 (respelled c.toNat) = [c] := by
  rw [respelled, if_pos (by omega), codePointToUTF8, if_pos (by omega), UInt8.ofNat_toNat]

/-- A code point below 0x80 without an escape of its own. -/
theorem spells_below (c : UInt8) (below : c.toNat < 0x80) (long : shortEscape c = none) :
    Spells (codepointText c.toNat) [c] := by
  by_cases control : c.toNat < 0x20
  · have hex := spells_hex c.toNat (by omega) (by omega)
    have same := codePointToUTF8_below c below
    rw [respelled, if_pos (by omega)] at same
    rwa [codepointText, if_pos control, ← same]
  · have apart : ∀ c : UInt8, shortEscape c = none → c ≠ 0x22 ∧ c ≠ 0x5C := by decide +kernel
    rw [codepointText, if_neg control, if_pos below, UInt8.ofNat_toNat]
    exact spells_plain c (apart c long).1 (apart c long).2

theorem spells_above (codepoint : Nat) (above : 0x80 ≤ codepoint)
    (single : ¬ (0xD800 ≤ codepoint ∧ codepoint ≤ 0xDFFF)) :
    Spells (codepointText codepoint) (codePointToUTF8 (respelled codepoint)) := by
  rw [codepointText, if_neg (by omega), if_neg (by omega), respelled]
  split_ifs with small
  · exact spells_hex codepoint small (by omega)
  · exact spells_pair (codepoint - 0x10000)

theorem escape_spells (value : Bytes) : Spells (escapeCharacters value) (respell value) := by
  fun_induction escapeCharacters value with
  | case1 =>
      rw [respell]
      exact spells_nil
  | case2 c behind escape short ih =>
      have below : c.toNat < 0x80 := by
        by_contra above
        rw [shortEscape_below c (Nat.le_of_not_lt above)] at short
        cases short
      rcases utf8ToCodepoint_cases c behind with ⟨-, point⟩ | ⟨above, -⟩
      · rw [respell, point, codePointToUTF8_below c below]
        exact (spells_escape escape c (simpleEscape_short c escape short)).append ih
      · omega
  | case3 c behind long ih =>
      rw [respell]
      refine Spells.append ?_ ih
      rcases utf8ToCodepoint_cases c behind with ⟨below, point⟩ | ⟨-, above, single⟩
      · rw [point, codePointToUTF8_below c below]
        exact spells_below c below long
      · exact spells_above _ above single

end Respelling

/-! The token of a string. -/
section Quoted

theorem escape_plain (value : Bytes) (plain : doesAnyCharRequireEscaping value = false) :
    escapeCharacters value = value := by
  induction value with
  | nil => rw [escapeCharacters]
  | cons c rest ih =>
      obtain ⟨here, later⟩ : (c ≠ 0x5C ∧ c ≠ 0x22 ∧ ¬ c < 0x20 ∧ ¬ 0x7F < c) ∧
          doesAnyCharRequireEscaping rest = false := by
        simpa [doesAnyCharRequireEscaping, and_assoc] using plain
      have long : ∀ c : UInt8, c ≠ 0x5C ∧ c ≠ 0x22 ∧ ¬ c < 0x20 ∧ ¬ 0x7F < c →
          shortEscape c = none ∧ c.toNat < 0x80 ∧ codepointText c.toNat = [c] := by decide +kernel
      obtain ⟨long, below, raw⟩ := long c here
      have point : utf8ToCodepoint (c :: rest) = (c.toNat, 0) := by
        rcases utf8ToCodepoint_cases c rest with ⟨-, point⟩ | ⟨above, -⟩
        · exact point
        · omega
      rw [escapeCharacters.eq_def]
      simp only [long, point, raw, List.drop_zero, ih later, List.singleton_append]

theorem quoted_eq (value : Bytes) :
    valueToQuotedStringN value = 0x22 :: (escapeCharacters value ++ [0x22]) := by
  rw [valueToQuotedStringN]
  split_ifs with escaped
  · rfl
  · rw [escape_plain value (by simpa using escaped)]
    rfl

/-- Whatever the bytes of a string are, the reader takes its text for one token. -/
theorem readToken_quoted (value tail : Bytes) :
    readToken (valueToQuotedStringN value ++ tail) =
      (⟨.tokenString, valueToQuotedStringN value⟩, tail) := by
  have ended : readString (escapeCharacters value ++ ([0x22] ++ tail)) = (true, tail) := by
    rw [(escape_spells value _).2, List.singleton_append, readString.eq_def]
    simp
  have scanned : scan 0x22 (escapeCharacters value ++ ([0x22] ++ tail)) =
      (.tokenString, true, tail) := congrArg (Prod.mk TokenType.tokenString) ended
  have text := between_append (valueToQuotedStringN value) tail
  rw [quoted_eq, List.cons_append, List.append_assoc] at text ⊢
  rw [readToken_cons 0x22 _ (by decide), scanned]
  simp only [text, ↓reduceIte]

theorem decodeString_quoted (value : Bytes) :
    decodeString (valueToQuotedStringN value) = some (respell value) := by
  have decoded := (escape_spells value []).1
  rw [quoted_eq, decodeString, List.tail_cons, List.dropLast_concat]
  rw [List.append_nil] at decoded
  rw [decoded, decodeCharacters]
  simp

end Quoted

/-! Texts in UTF-8. -/
section Utf8

theorem lead_two : ∀ low < 32, 0xC0 ||| low = low + 192 := by decide

theorem lead_three : ∀ low < 16, 0xE0 ||| low = low + 224 := by decide

theorem lead_four : ∀ low < 8, 0xF0 ||| low = low + 240 := by decide

theorem follow : ∀ low < 64, 0x80 ||| low = low + 128 := by decide

theorem codePointToUTF8_char (char : Char) :
    codePointToUTF8 char.toNat = String.utf8EncodeChar char := by
  have inside : char.toNat ≤ 0x10FFFF := by
    rcases char.valid with low | ⟨-, high⟩
    · exact Nat.le_of_lt (Nat.lt_trans low (by decide))
    · exact Nat.le_of_lt_succ high
  have low : ∀ x, x % 64 < 64 := fun x => Nat.mod_lt x (by decide)
  simp only [codePointToUTF8, String.utf8EncodeChar, Char.toNat_val, if_pos inside,
    Nat.and_comm 0x1F, Nat.and_comm 0x3F, Nat.and_comm 0xF, Nat.and_comm 0x7, mask3, mask4, mask5,
    mask6, Nat.shiftRight_eq_div_pow, follow _ (low _), lead_two _ (Nat.mod_lt _ (by decide)),
    lead_three _ (Nat.mod_lt _ (by decide)), lead_four _ (Nat.mod_lt _ (by decide))]

section Codepoints

variable (v : Nat) (rest : Bytes)

theorem point_two (above : 0x7F < v) (below : v ≤ 0x7FF) :
    utf8ToCodepoint (UInt8.ofNat (v / 64 % 32 + 192) :: UInt8.ofNat (v % 64 + 128) :: rest) =
      (v, 1) := by
  simp only [utf8ToCodepoint, two_bytes, UInt8.toNat_ofNat']
  rw [if_neg (by omega), if_pos (by omega), if_neg (by omega)]
  exact Prod.ext (by simp only; omega) rfl

theorem point_three (above : 0x7FF < v) (below : v ≤ 0xFFFF)
    (single : ¬ (0xD800 ≤ v ∧ v ≤ 0xDFFF)) :
    utf8ToCodepoint (UInt8.ofNat (v / 4096 % 16 + 224) :: UInt8.ofNat (v / 64 % 64 + 128) ::
      UInt8.ofNat (v % 64 + 128) :: rest) = (v, 2) := by
  have value : (v / 4096 % 16 + 224) % 256 % 16 * 4096 + (v / 64 % 64 + 128) % 256 % 64 * 64 +
      (v % 64 + 128) % 256 % 64 = v := by omega
  simp only [utf8ToCodepoint, three_bytes, UInt8.toNat_ofNat', Nat.reducePow, value]
  rw [if_neg (by omega), if_neg (by omega), if_pos (by omega), if_neg single, if_neg (by omega)]

theorem point_four (above : 0xFFFF < v) (below : v ≤ 0x10FFFF) :
    utf8ToCodepoint (UInt8.ofNat (v / 262144 % 8 + 240) :: UInt8.ofNat (v / 4096 % 64 + 128) ::
      UInt8.ofNat (v / 64 % 64 + 128) :: UInt8.ofNat (v % 64 + 128) :: rest) = (v, 3) := by
  have value : (v / 262144 % 8 + 240) % 256 % 8 * 262144 +
      (v / 4096 % 64 + 128) % 256 % 64 * 4096 + (v / 64 % 64 + 128) % 256 % 64 * 64 +
      (v % 64 + 128) % 256 % 64 = v := by omega
  simp only [utf8ToCodepoint, four_bytes, UInt8.toNat_ofNat', Nat.reducePow, value]
  rw [if_neg (by omega), if_neg (by omega), if_neg (by omega), if_pos (by omega),
    if_neg (by omega)]

end Codepoints

/-- The text of a character reads back as that character. -/
theorem respell_char (char : Char) (rest : Bytes) :
    respell (String.utf8EncodeChar char ++ rest) = String.utf8EncodeChar char ++ respell rest := by
  have single : ¬ (0xD800 ≤ char.toNat ∧ char.toNat ≤ 0xDFFF) := by
    rcases char.valid with low | ⟨high, -⟩
    · exact fun inside => Nat.not_lt.mpr inside.1 low
    · exact fun inside => Nat.not_lt.mpr inside.2 high
  have inside : char.toNat ≤ 0x10FFFF := by
    rcases char.valid with low | ⟨-, high⟩
    · exact Nat.le_of_lt (Nat.lt_trans low (by decide))
    · exact Nat.le_of_lt_succ high
  have same : codePointToUTF8 (respelled char.toNat) = String.utf8EncodeChar char := by
    rw [← codePointToUTF8_char char, respelled]
    split_ifs with small
    · rfl
    · exact congrArg codePointToUTF8 (by omega)
  obtain ⟨first, behind, text, point⟩ : ∃ first behind,
      String.utf8EncodeChar char = first :: behind ∧
        utf8ToCodepoint (first :: (behind ++ rest)) = (char.toNat, behind.length) := by
    rw [String.utf8EncodeChar, Char.toNat_val]
    by_cases one : char.toNat ≤ 0x7F
    · refine ⟨_, [], if_pos one, ?_⟩
      have small : (UInt8.ofNat char.toNat).toNat = char.toNat := by
        rw [UInt8.toNat_ofNat', Nat.mod_eq_of_lt (by omega)]
      rcases utf8ToCodepoint_cases (UInt8.ofNat char.toNat) rest with ⟨-, point⟩ | ⟨above, -⟩
      · simpa [small] using point
      · omega
    by_cases two : char.toNat ≤ 0x7FF
    · refine ⟨UInt8.ofNat (char.toNat / 64 % 32 + 192), [UInt8.ofNat (char.toNat % 64 + 128)],
        by rw [if_neg one, if_pos two], point_two _ rest (by omega) two⟩
    by_cases three : char.toNat ≤ 0xFFFF
    · exact ⟨UInt8.ofNat (char.toNat / 4096 % 16 + 224), [UInt8.ofNat (char.toNat / 64 % 64 + 128),
        UInt8.ofNat (char.toNat % 64 + 128)], by rw [if_neg one, if_neg two, if_pos three],
        point_three _ rest (by omega) three single⟩
    · exact ⟨UInt8.ofNat (char.toNat / 262144 % 8 + 240),
        [UInt8.ofNat (char.toNat / 4096 % 64 + 128), UInt8.ofNat (char.toNat / 64 % 64 + 128),
        UInt8.ofNat (char.toNat % 64 + 128)], by rw [if_neg one, if_neg two, if_neg three],
        point_four _ rest (by omega) inside⟩
  rw [text, List.cons_append, respell, point, same, text, List.drop_left]

theorem respell_utf8 (chars : List Char) :
    respell (chars.flatMap String.utf8EncodeChar) = chars.flatMap String.utf8EncodeChar := by
  induction chars with
  | nil => rw [List.flatMap_nil, respell]
  | cons char rest ih => rw [List.flatMap_cons, respell_char, ih]

end Utf8

end EdoyumIM.JsonStrings
