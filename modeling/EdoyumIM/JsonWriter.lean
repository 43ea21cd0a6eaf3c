import EdoyumIM.JsonReader

/-!
`Value::toStyledString` of the vendored JSON library: a
`BuiltStyledStreamWriter` under the settings a `StreamWriterBuilder` has by
default. With its comment style every array is written on several lines, so
`isMultilineArray` is not asked and `childValues_` stays empty. No value a
handler writes has comments. What the C library prints for a double is taken as
it is.
-/

namespace EdoyumIM.JsonWriter

open MachineWords JsonValue OrderedStore JsonReader

/-! Texts of values. -/
section Texts

def uintToString (value : Nat) : Bytes :=
  (Nat.toDigits 10 value).map fun digit => UInt8.ofNat digit.toNat

def valueToString (value : Int) : Bytes :=
  if value < 0 then 0x2D :: uintToString value.natAbs else uintToString value.natAbs

def REPLACEMENT_CHARACTER : Nat := 0xFFFD

/-- The code point at the front, and how far `s` moves before the loop steps on. -/
def utf8ToCodepoint : Bytes → Nat × Nat
  | [] => (0, 0)
  | first :: behind =>
      let firstByte := first.toNat
      if firstByte < 0x80 then (firstByte, 0)
      else if firstByte < 0xE0 then
        match behind with
        | second :: _ =>
            let calculated := ((firstByte &&& 0x1F) <<< 6) ||| (second.toNat &&& 0x3F)
            (if calculated < 0x80 then REPLACEMENT_CHARACTER else calculated, 1)
        | _ => (REPLACEMENT_CHARACTER, 0)
      else if firstByte < 0xF0 then
        match behind with
        | second :: third :: _ =>
            let calculated := ((firstByte &&& 0x0F) <<< 12) |||
              ((second.toNat &&& 0x3F) <<< 6) ||| (third.toNat &&& 0x3F)
            (if 0xD800 ≤ calculated ∧ calculated ≤ 0xDFFF then REPLACEMENT_CHARACTER
              else if calculated < 0x800 then REPLACEMENT_CHARACTER
              else calculated, 2)
        | _ => (REPLACEMENT_CHARACTER, 0)
      else if firstByte < 0xF8 then
        match behind with
        | second :: third :: fourth :: _ =>
            let calculated := ((firstByte &&& 0x07) <<< 18) |||
              ((second.toNat &&& 0x3F) <<< 12) ||| ((third.toNat &&& 0x3F) <<< 6) |||
              (fourth.toNat &&& 0x3F)
            (if calculated < 0x10000 then REPLACEMENT_CHARACTER else calculated, 3)
        | _ => (REPLACEMENT_CHARACTER, 0)
      else (REPLACEMENT_CHARACTER, 0)

def hexLetter (digit : Nat) : UInt8 := (text "0123456789abcdef").getD digit 0

def toHex16Bit (x : Nat) : Bytes :=
  let hi := (x >>> 8) &&& 0xFF
  let lo := x &&& 0xFF
  [hexLetter (hi / 16), hexLetter (hi % 16), hexLetter (lo / 16), hexLetter (lo % 16)]

def appendHex (ch : Nat) : Bytes := 0x5C :: 0x75 :: toHex16Bit ch

/-- What the writer puts for a code point. -/
def codepointText (codepoint : Nat) : Bytes :=
  if codepoint < 0x20 then appendHex codepoint
  else if codepoint < 0x80 then [UInt8.ofNat codepoint]
  else if codepoint < 0x10000 then appendHex codepoint
  else
    appendHex (0xD800 + (((codepoint - 0x10000) >>> 10) &&& 0x3FF)) ++
      appendHex (0xDC00 + ((codepoint - 0x10000) &&& 0x3FF))

/-- The characters with an escape of their own. -/
def shortEscape (c : UInt8) : Option UInt8 :=
  match letter c with
  | '\x22' => some 0x22
  | '\x5c' => some 0x5C
  | '\x08' => some 0x62
  | '\x0c' => some 0x66
  | '\n' => some 0x6E
  | '\r' => some 0x72
  | '\t' => some 0x74
  | _ => none

def doesAnyCharRequireEscaping (value : Bytes) : Bool :=
  value.any fun c => c = 0x5C || c = 0x22 || c < 0x20 || 0x7F < c

/-- The loop of `valueToQuotedStringN`. -/
def escapeCharacters (value : Bytes) : Bytes :=
  match value with
  | [] => []
  | c :: behind =>
      match shortEscape c with
      | some escape => 0x5C :: escape :: escapeCharacters behind
      | none =>
          codepointText (utf8ToCodepoint (c :: behind)).1 ++
            escapeCharacters (behind.drop (utf8ToCodepoint (c :: behind)).2)
termination_by value.length

def valueToQuotedStringN (value : Bytes) : Bytes :=
  if doesAnyCharRequireEscaping value then 0x22 :: escapeCharacters value ++ [0x22]
  else 0x22 :: value ++ [0x22]

end Texts

structure BuiltStyledStreamWriter where
  sout_ : Bytes := []
  indentString_ : Bytes := []
  indented_ : Bool := true
  deriving DecidableEq, Repr

namespace BuiltStyledStreamWriter

variable (writer : BuiltStyledStreamWriter)

def pushValue (value : Bytes) : BuiltStyledStreamWriter :=
  { writer with sout_ := writer.sout_ ++ value }

def writeIndent : BuiltStyledStreamWriter := writer.pushValue (0x0A :: writer.indentString_)

def setIndented (indented_ : Bool) : BuiltStyledStreamWriter :=
  { writer with indented_ := indented_ }

/-- Start a line unless one is started. -/
def lineStart : BuiltStyledStreamWriter :=
  if writer.indented_ then writer else writer.writeIndent

def writeWithIndent (value : Bytes) : BuiltStyledStreamWriter :=
  (writer.lineStart.pushValue value).setIndented false

def indent : BuiltStyledStreamWriter :=
  { writer with indentString_ := writer.indentString_ ++ [0x09] }

def unindent : BuiltStyledStreamWriter :=
  { writer with indentString_ := writer.indentString_.dropLast }

end BuiltStyledStreamWriter

section Values

open BuiltStyledStreamWriter

variable (realText : ℚ → Bytes)

mutual

def writeValue : Json → BuiltStyledStreamWriter → BuiltStyledStreamWriter
  | .null, writer => writer.pushValue (text "null")
  | .int value, writer => writer.pushValue (valueToString value)
  | .uint value, writer => writer.pushValue (uintToString value)
  | .real value, writer => writer.pushValue (realText value)
  | .string value, writer => writer.pushValue (valueToQuotedStringN value)
  | .bool value, writer => writer.pushValue (text (if value then "true" else "false"))
  | .array [], writer => writer.pushValue (text "[]")
  | .array (child :: items), writer =>
      (writeItems (child :: items)
        (writer.writeWithIndent (text "[")).indent).unindent.writeWithIndent (text "]")
  | .object [], writer => writer.pushValue (text "\x7b\x7d")
  | .object (first :: members), writer =>
      (writeMembers (first :: members)
        (writer.writeWithIndent (text "\x7b")).indent).unindent.writeWithIndent (text "\x7d")

/-- The loop of `writeArrayValue`. -/
def writeItems : List Json → BuiltStyledStreamWriter → BuiltStyledStreamWriter
  | [], writer => writer
  | [childValue], writer =>
      (writeValue childValue (writer.lineStart.setIndented true)).setIndented false
  | childValue :: next :: items, writer =>
      writeItems (next :: items)
        (((writeValue childValue (writer.lineStart.setIndented true)).setIndented false).pushValue
          (text ","))

/-- The loop over the members of an object. -/
def writeMembers : List (Bytes × Json) → BuiltStyledStreamWriter → BuiltStyledStreamWriter
  | [], writer => writer
  | [(name, childValue)], writer =>
      writeValue childValue
        ((writer.writeWithIndent (valueToQuotedStringN name)).pushValue (text " : "))
  | (name, childValue) :: next :: members, writer =>
      writeMembers (next :: members)
        ((writeValue childValue
          ((writer.writeWithIndent (valueToQuotedStringN name)).pushValue (text " : "))).pushValue
            (text ","))

end

mutual

/-- The value as the library holds it: members in the order of their keys, and
one for each key. -/
def held : Json → Json
  | .array items => .array (heldItems items)
  | .object members => .object (heldMembers members).entries
  | other => other

def heldItems : List Json → List Json
  | [] => []
  | item :: items => held item :: heldItems items

def heldMembers : List (Bytes × Json) → OrderedMap Bytes Json
  | [] => OrderedMap.empty
  | (name, value) :: members => (heldMembers members).set name (held value)

end

def toStyledString (value : Json) : Bytes :=
  (writeValue realText (held value) {}).sout_ ++ [0x0A]

end Values

/-- The library behind the handlers. -/
def jsoncpp (decodeDouble : Bytes → Option ℚ) (realText : ℚ → Bytes) (emptyData : Bool) : Env where
  parse := parse decodeDouble
  toStyledString := toStyledString realText
  emptyData := emptyData

end EdoyumIM.JsonWriter
