import EdoyumIM.OrderedStore
import EdoyumIM.JsonValue

/-!
`Reader::parse` of the vendored JSON library under the features a `Reader` has
by default: comments are allowed, any value may be the root, and neither dropped
values nor numeric keys are. A position in the document is the bytes from there
to its end. Once an error is noted every call returns false up to the root, so
what `recoverFromError` skips and the texts of the errors are left out, and so
are the comments and offsets kept beside a value. Strings and keys are taken to
be shorter than the 2^30 bytes their length fields hold.
-/

namespace EdoyumIM.JsonReader

open MachineWords FieldCodec JsonValue OrderedStore

def letter (byte : UInt8) : Char := Char.ofNat byte.toNat

inductive TokenType where
  | tokenEndOfStream
  | tokenObjectBegin
  | tokenObjectEnd
  | tokenArrayBegin
  | tokenArrayEnd
  | tokenString
  | tokenNumber
  | tokenTrue
  | tokenFalse
  | tokenNull
  | tokenArraySeparator
  | tokenMemberSeparator
  | tokenComment
  | tokenError
  deriving DecidableEq, Repr

/-- `text` are the bytes from `start_` to `end_`. A token that was not read in
full is `tokenError`, which is what `readToken` returns false for. -/
structure Token where
  type_ : TokenType
  text : Bytes
  deriving DecidableEq, Repr

/-! The tokens. At the end of the document `getNextChar` gives a NUL, which is
no other character that a function here looks for. -/
section Tokens

def isSpace (c : UInt8) : Bool := c = 0x20 || c = 0x09 || c = 0x0D || c = 0x0A

def skipSpaces (current : Bytes) : Bytes := current.dropWhile isSpace

def matchPattern (pattern current : Bytes) : Bool × Bytes :=
  if pattern.isPrefixOf current then (true, current.drop pattern.length) else (false, current)

def readCStyleComment : Bytes → Bool × Bytes
  | [] => (false, [])
  | [c] => (c = 0x2F, [])
  | c :: next :: current =>
      if c = 0x2A ∧ next = 0x2F then (true, current) else readCStyleComment (next :: current)

def readCppStyleComment : Bytes → Bytes
  | [] => []
  | c :: current =>
      if c = 0x0A then current
      -- a carriage return ends the comment together with a line feed behind it
      else if c = 0x0D then if current.head? = some 0x0A then current.tail else current
      else readCppStyleComment current

def readComment : Bytes → Bool × Bytes
  | [] => (false, [])
  | c :: current =>
      if c = 0x2A then readCStyleComment current
      else if c = 0x2F then (true, readCppStyleComment current)
      else (false, current)

def isDigit (c : UInt8) : Bool := 0x30 ≤ c && c ≤ 0x39

/-- The character that ends a loop is looked at but not taken. -/
def skipDigits (current : Bytes) : Bytes := current.dropWhile isDigit

def readFraction (current : Bytes) : Bytes :=
  if current.head? = some 0x2E then skipDigits current.tail else current

def readSign (current : Bytes) : Bytes :=
  if current.head? = some 0x2B ∨ current.head? = some 0x2D then current.tail else current

def readExponent (current : Bytes) : Bytes :=
  if current.head? = some 0x65 ∨ current.head? = some 0x45 then
    skipDigits (readSign current.tail)
  else current

def readNumber (current : Bytes) : Bytes := readExponent (readFraction (skipDigits current))

def readString : Bytes → Bool × Bytes
  | [] => (false, [])
  | c :: current =>
      if c = 0x5C then
        match current with
        | [] => (false, [])
        | _ :: current => readString current
      else if c = 0x22 then (true, current)
      else readString current

/-- The switch of `readToken` on the character at `start_`. -/
def scan (c : UInt8) (current : Bytes) : TokenType × Bool × Bytes :=
  match letter c with
  | '\x7b' => (.tokenObjectBegin, true, current)
  | '\x7d' => (.tokenObjectEnd, true, current)
  | '[' => (.tokenArrayBegin, true, current)
  | ']' => (.tokenArrayEnd, true, current)
  | '\x22' => (.tokenString, readString current)
  | '/' => (.tokenComment, readComment current)
  | '0' | '1' | '2' | '3' | '4' | '5' | '6' | '7' | '8' | '9' | '-' =>
      (.tokenNumber, true, readNumber current)
  | 't' => (.tokenTrue, matchPattern (text "rue") current)
  | 'f' => (.tokenFalse, matchPattern (text "alse") current)
  | 'n' => (.tokenNull, matchPattern (text "ull") current)
  | ',' => (.tokenArraySeparator, true, current)
  | ':' => (.tokenMemberSeparator, true, current)
  | '\x00' => (.tokenEndOfStream, true, current)
  | _ => (.tokenError, false, current)

def between (start rest : Bytes) : Bytes := start.take (start.length - rest.length)

def readToken (current : Bytes) : Token × Bytes :=
  match skipSpaces current with
  | [] => (⟨.tokenEndOfStream, []⟩, [])
  | c :: start =>
      let scanned := scan c start
      (⟨if scanned.2.1 then scanned.1 else .tokenError, between (c :: start) scanned.2.2⟩,
        scanned.2.2)

end Tokens

/-! What is left behind a token is the end of what was there before it. -/
section Progress

theorem readCStyleComment_suffix (current : Bytes) : (readCStyleComment current).2 <:+ current := by
  induction current with
  | nil => exact List.suffix_rfl
  | cons c rest ih =>
      cases rest with
      | nil => exact List.suffix_cons c []
      | cons next rest =>
          rw [readCStyleComment]
          split_ifs
          · exact (List.suffix_cons next rest).trans (List.suffix_cons c _)
          · exact ih.trans (List.suffix_cons c _)

theorem readCppStyleComment_suffix (current : Bytes) : readCppStyleComment current <:+ current := by
  induction current with
  | nil => exact List.suffix_rfl
  | cons c rest ih =>
      rw [readCppStyleComment]
      split_ifs
      · exact List.suffix_cons c rest
      · exact (List.tail_suffix rest).trans (List.suffix_cons c rest)
      · exact List.suffix_cons c rest
      · exact ih.trans (List.suffix_cons c rest)

theorem readComment_suffix (current : Bytes) : (readComment current).2 <:+ current := by
  cases current with
  | nil => exact List.suffix_rfl
  | cons c rest =>
      rw [readComment]
      split_ifs
      · exact (readCStyleComment_suffix rest).trans (List.suffix_cons c rest)
      · exact (readCppStyleComment_suffix rest).trans (List.suffix_cons c rest)
      · exact List.suffix_cons c rest

theorem skipDigits_suffix (current : Bytes) : skipDigits current <:+ current :=
  List.dropWhile_suffix isDigit

theorem readFraction_suffix (current : Bytes) : readFraction current <:+ current := by
  rw [readFraction]
  split_ifs
  · exact (skipDigits_suffix _).trans (List.tail_suffix current)
  · exact List.suffix_rfl

theorem readSign_suffix (current : Bytes) : readSign current <:+ current := by
  rw [readSign]
  split_ifs
  · exact List.tail_suffix current
  · exact List.suffix_rfl

theorem readExponent_suffix (current : Bytes) : readExponent current <:+ current := by
  rw [readExponent]
  split_ifs
  · exact (skipDigits_suffix _).trans ((readSign_suffix _).trans (List.tail_suffix current))
  · exact List.suffix_rfl

theorem readNumber_suffix (current : Bytes) : readNumber current <:+ current :=
  (readExponent_suffix _).trans ((readFraction_suffix _).trans (skipDigits_suffix current))

theorem readString_suffix (current : Bytes) : (readString current).2 <:+ current := by
  fun_induction readString current with
  | case1 => exact List.suffix_rfl
  | case2 => exact List.nil_suffix
  | case3 escaped rest ih =>
      exact ih.trans ((List.suffix_cons escaped rest).trans (List.suffix_cons _ _))
  | case4 rest plain => exact List.suffix_cons _ rest
  | case5 c rest plain other ih => exact ih.trans (List.suffix_cons c rest)

theorem matchPattern_suffix (pattern current : Bytes) :
    (matchPattern pattern current).2 <:+ current := by
  rw [matchPattern]
  split_ifs
  · exact List.drop_suffix _ current
  · exact List.suffix_rfl

theorem scan_suffix (c : UInt8) (current : Bytes) : (scan c current).2.2 <:+ current := by
  rw [scan]
  split <;> first
    | exact List.suffix_rfl
    | exact readString_suffix current
    | exact readComment_suffix current
    | exact readNumber_suffix current
    | exact matchPattern_suffix _ current

/-- A token starts with a character behind the spaces, or there is none. -/
theorem readToken_cases (current : Bytes) :
    readToken current = (⟨.tokenEndOfStream, []⟩, []) ∨
    ∃ c start, c :: start <:+ current ∧
      (readToken current).1.type_ =
        (if (scan c start).2.1 then (scan c start).1 else .tokenError) ∧
      (readToken current).2 = (scan c start).2.2 := by
  have spaces : skipSpaces current <:+ current := List.dropWhile_suffix isSpace
  rw [readToken]
  cases found : skipSpaces current with
  | nil => exact Or.inl rfl
  | cons c start => exact Or.inr ⟨c, start, found ▸ spaces, rfl, rfl⟩

theorem readToken_suffix (current : Bytes) : (readToken current).2 <:+ current := by
  rcases readToken_cases current with ended | ⟨c, start, inside, -, rest⟩
  · rw [ended]
    exact List.nil_suffix
  · rw [rest]
    exact (scan_suffix c start).trans ((List.suffix_cons c start).trans inside)

/-- Only at the end is a token read from nothing. -/
theorem readToken_lt (current : Bytes)
    (inside : (readToken current).1.type_ ≠ .tokenEndOfStream) :
    (readToken current).2.length < current.length := by
  rcases readToken_cases current with ended | ⟨c, start, part, -, rest⟩
  · rw [ended] at inside
    exact absurd rfl inside
  · rw [rest]
    exact Nat.lt_of_le_of_lt (scan_suffix c start).length_le part.length_le

/-- A token begins behind the spaces. -/
theorem readToken_blank (blank current : Bytes) (spaces : blank.all isSpace = true) :
    readToken (blank ++ current) = readToken current := by
  have skipped : skipSpaces (blank ++ current) = skipSpaces current :=
    List.dropWhile_append_of_pos (List.all_eq_true.mp spaces)
  rw [readToken, skipped]
  rfl

theorem readToken_cons (c : UInt8) (start : Bytes) (solid : isSpace c = false) :
    readToken (c :: start) =
      (⟨if (scan c start).2.1 then (scan c start).1 else .tokenError,
        between (c :: start) (scan c start).2.2⟩, (scan c start).2.2) := by
  simp [readToken, skipSpaces, solid]

theorem between_append (front rest : Bytes) : between (front ++ rest) rest = front := by
  simp [between]

theorem comment_lt (current : Bytes) (comment : (readToken current).1.type_ = .tokenComment) :
    (readToken current).2.length < current.length :=
  readToken_lt current (by simp [comment])

end Progress

def skipCommentTokens (current : Bytes) : Token × Bytes :=
  if _comment : (readToken current).1.type_ = .tokenComment then
    skipCommentTokens (readToken current).2
  else readToken current
termination_by current.length
decreasing_by exact comment_lt current _comment

/-! The values of tokens. -/
section Decoding

/-- The digit loop of `decodeNumber`; none is the way to `decodeDouble`. -/
def decodeDigits (maxIntegerValue : Nat) : Bytes → Nat → Option Nat
  | [], value => some value
  | c :: current, value =>
      if isDigit c then
        let digit := c.toNat - 0x30
        if value ≥ maxIntegerValue / 10 ∧
            (value > maxIntegerValue / 10 ∨ current ≠ [] ∨ digit > maxIntegerValue % 10) then none
        else decodeDigits maxIntegerValue current (value * 10 + digit)
      else none

def maxLargestInt : Nat := 2 ^ 63 - 1

def maxLargestUInt : Nat := 2 ^ 64 - 1

def maxInt : Nat := 2 ^ 31 - 1

/-- `decodeDouble` is the library's stream extraction of a double. -/
def decodeNumber (decodeDouble : Bytes → Option ℚ) (token : Bytes) : Option Json :=
  let isNegative : Bool := token.head? = some 0x2D
  let current := if isNegative then token.tail else token
  let maxIntegerValue := if isNegative then maxLargestInt + 1 else maxLargestUInt
  match decodeDigits maxIntegerValue current 0 with
  | none => (decodeDouble token).map Json.real
  | some value =>
      some (if isNegative then .int (-value)
        else if value ≤ maxInt then .int value
        else .uint value)

def codePointToUTF8 (cp : Nat) : Bytes :=
  if cp ≤ 0x7F then [UInt8.ofNat cp]
  else if cp ≤ 0x7FF then
    [UInt8.ofNat (0xC0 ||| (0x1F &&& (cp >>> 6))), UInt8.ofNat (0x80 ||| (0x3F &&& cp))]
  else if cp ≤ 0xFFFF then
    [UInt8.ofNat (0xE0 ||| (0xF &&& (cp >>> 12))), UInt8.ofNat (0x80 ||| (0x3F &&& (cp >>> 6))),
      UInt8.ofNat (0x80 ||| (0x3F &&& cp))]
  else if cp ≤ 0x10FFFF then
    [UInt8.ofNat (0xF0 ||| (0x7 &&& (cp >>> 18))), UInt8.ofNat (0x80 ||| (0x3F &&& (cp >>> 12))),
      UInt8.ofNat (0x80 ||| (0x3F &&& (cp >>> 6))), UInt8.ofNat (0x80 ||| (0x3F &&& cp))]
  else []

def hexDigit (c : UInt8) : Option Nat :=
  if 0x30 ≤ c ∧ c ≤ 0x39 then some (c.toNat - 0x30)
  else if 0x61 ≤ c ∧ c ≤ 0x66 then some (c.toNat - 0x61 + 10)
  else if 0x41 ≤ c ∧ c ≤ 0x46 then some (c.toNat - 0x41 + 10)
  else none

/-- The loop over the four digits, with what was read before them. -/
def hexDigits : Nat → Bytes → Nat → Option Nat
  | 0, _, unicode => some unicode
  | _ + 1, [], _ => none
  | count + 1, c :: current, unicode =>
      (hexDigit c).bind fun digit => hexDigits count current (unicode * 16 + digit)

def decodeUnicodeEscapeSequence (current : Bytes) : Option Nat := hexDigits 4 current 0

/-- The code point, and how far `current` moves. -/
def decodeUnicodeCodePoint (current : Bytes) : Option (Nat × Nat) := do
  let unicode ← decodeUnicodeEscapeSequence current
  if 0xD800 ≤ unicode ∧ unicode ≤ 0xDBFF then
    match current.drop 4 with
    | 0x5C :: 0x75 :: behind =>
        let surrogatePair ← decodeUnicodeEscapeSequence behind
        some (0x10000 + ((unicode &&& 0x3FF) <<< 10) + (surrogatePair &&& 0x3FF), 10)
    | _ => none
  else some (unicode, 4)

/-- The escapes that stand for one character. -/
def simpleEscape (escape : UInt8) : Option UInt8 :=
  match letter escape with
  | '\x22' => some 0x22
  | '/' => some 0x2F
  | '\x5c' => some 0x5C
  | 'b' => some 0x08
  | 'f' => some 0x0C
  | 'n' => some 0x0A
  | 'r' => some 0x0D
  | 't' => some 0x09
  | _ => none

/-- The loop of `decodeString`, from `current` to the closing quote. -/
def decodeCharacters (current : Bytes) : Option Bytes :=
  match current with
  | [] => some []
  | c :: rest =>
      if c = 0x22 then some []
      else if c = 0x5C then
        match rest with
        | [] => none
        | escape :: behind =>
            match simpleEscape escape with
            | some decoded => (decodeCharacters behind).map (decoded :: ·)
            | none =>
                if escape = 0x75 then
                  match decodeUnicodeCodePoint behind with
                  | none => none
                  | some (unicode, moved) =>
                      (decodeCharacters (behind.drop moved)).map (codePointToUTF8 unicode ++ ·)
                else none
      else (decodeCharacters rest).map (c :: ·)
termination_by current.length

def decodeString (token : Bytes) : Option Bytes := decodeCharacters token.tail.dropLast

end Decoding

/-! The values. -/
section Values

/-- `failed` is a call that returns false with an error noted, `exceeded` the
exception of `readValue`. No reading is `starved`: every round of a loop takes a
byte, and there are more rounds than bytes. -/
inductive Stop where
  | failed
  | exceeded
  | starved
  deriving DecidableEq, Repr

def decoded {α : Type} (value : Option α) (current : Bytes) : Except Stop (α × Bytes) :=
  match value with
  | none => .error .failed
  | some value => .ok (value, current)

variable (readValue : Bytes → Except Stop (Json × Bytes))

/-- The loop of `readArray`. -/
def readElements : Nat → Bytes → Except Stop (List Json × Bytes)
  | 0, _ => .error .starved
  | rounds + 1, current => do
      let (value, current) ← readValue current
      let (token, current) := skipCommentTokens current
      match token.type_ with
      | .tokenArrayEnd => .ok ([value], current)
      | .tokenArraySeparator => do
          let (values, current) ← readElements rounds current
          .ok (value :: values, current)
      | _ => .error .failed

def readArray (current : Bytes) : Except Stop (Json × Bytes) :=
  if (skipSpaces current).head? = some 0x5D then .ok (.array [], (readToken current).2)
  else do
    let (values, current) ← readElements readValue (current.length + 1) current
    .ok (.array values, current)

/-- What follows a member: true is the end of the object. Behind a comment any
token is skipped as if it were a comma. -/
def memberEnd (current : Bytes) : Except Stop (Bool × Bytes) :=
  match readToken current with
  | (comma, current) =>
      match comma.type_ with
      | .tokenObjectEnd => .ok (true, current)
      | .tokenArraySeparator => .ok (false, current)
      | .tokenComment =>
          match skipCommentTokens current with
          | (comma, current) => .ok (comma.type_ = .tokenObjectEnd, current)
      | _ => .error .failed

/-- The loop of `readObject`, with the last name read. -/
def readMembers : Nat → Bytes → OrderedMap Bytes Json → Bytes →
    Except Stop (OrderedMap Bytes Json × Bytes)
  | 0, _, _, _ => .error .starved
  | rounds + 1, name, members, current => do
      let (tokenName, current) := skipCommentTokens current
      match tokenName.type_ with
      | .tokenObjectEnd => if name = [] then .ok (members, current) else .error .failed
      | .tokenString => do
          let (name, current) ← decoded (decodeString tokenName.text) current
          let (colon, current) := readToken current
          if colon.type_ = .tokenMemberSeparator then do
            let (value, current) ← readValue current
            let (ended, current) ← memberEnd current
            if ended then .ok (members.set name value, current)
            else readMembers rounds name (members.set name value) current
          else .error .failed
      | _ => .error .failed

def readObject (current : Bytes) : Except Stop (Json × Bytes) := do
  let (members, current) ← readMembers readValue (current.length + 1) [] OrderedMap.empty current
  .ok (.object members.entries, current)

end Values

section Parsing

variable (decodeDouble : Bytes → Option ℚ)

def stackLimit_g : Nat := 1000

/-- `free` is how much of the stack limit `nodes_` leaves. -/
def readValue : Nat → Bytes → Except Stop (Json × Bytes)
  | 0, _ => .error .exceeded
  | free + 1, current =>
      match skipCommentTokens current with
      | (token, current) =>
          match token.type_ with
          | .tokenObjectBegin => readObject (readValue free) current
          | .tokenArrayBegin => readArray (readValue free) current
          | .tokenNumber => decoded (decodeNumber decodeDouble token.text) current
          | .tokenString => decoded ((decodeString token.text).map Json.string) current
          | .tokenTrue => .ok (.bool true, current)
          | .tokenFalse => .ok (.bool false, current)
          | .tokenNull => .ok (.null, current)
          | _ => .error .failed

/-- What follows the root value is not looked at. -/
def parse (document : Bytes) : Except Fault (Option Json) :=
  match readValue decodeDouble stackLimit_g document with
  | .ok (root, _) => .ok (some root)
  | .error .exceeded => .error .jsonRuntimeError
  | .error _ => .ok none

end Parsing

end EdoyumIM.JsonReader
