import EdoyumIM.FieldCodec

/-!
The part of the vendored JSON library (newJson) that the handlers use on a
parsed document. A double is kept as the rational it denotes; an infinite one
behaves like any other value out of range. Object members are looked up by
key, so their order does not matter here. The text side, `Reader::parse` and
`toStyledString`, is taken as it is and enters through `Env`.
-/

namespace EdoyumIM.JsonValue

open MachineWords FieldCodec

/-- Bytes of a literal of the source; all of them are ASCII. -/
def text (literal : String) : Bytes := literal.toList.map fun letter => UInt8.ofNat letter.toNat

/-- What `%d` prints. -/
def decimal (value : Int32) : Bytes :=
  let digits := (Nat.toDigits 10 value.toInt.natAbs).map fun letter => UInt8.ofNat letter.toNat
  if value.toInt < 0 then text "-" ++ digits else digits

inductive Json where
  | null
  | int (value : Int)
  | uint (value : Nat)
  | real (value : ℚ)
  | bool (value : Bool)
  | string (data : Bytes)
  | array (items : List Json)
  | object (members : List (Bytes × Json))

namespace Json

/-- The non-const `operator[]`: null turns into an empty object, a missing
member into null, and any other value than an object throws. -/
def member (key : String) : Json → Except Fault Json
  | .null => .ok .null
  | .object members => .ok ((members.lookup (text key)).getD .null)
  | _ => .error .jsonLogicError

def isInt : Json → Bool
  | .int value => -2 ^ 31 ≤ value ∧ value ≤ 2 ^ 31 - 1
  | .uint value => value ≤ 2 ^ 31 - 1
  | .real value => -2 ^ 31 ≤ value ∧ value ≤ 2 ^ 31 - 1 ∧ value.den = 1
  | _ => false

def asInt : Json → Except Fault Int32
  | .int value => if (Json.int value).isInt then .ok (Int32.ofInt value) else .error .jsonLogicError
  | .uint value => if (Json.uint value).isInt then .ok (Int32.ofNat value) else .error .jsonLogicError
  | .real value =>
      if -2 ^ 31 ≤ value ∧ value ≤ 2 ^ 31 - 1 then .ok (Int32.ofInt (value.num.tdiv value.den))
      else .error .jsonLogicError
  | .null => .ok 0
  | .bool value => .ok (if value then 1 else 0)
  | _ => .error .jsonLogicError

/-- `asString` behind a check of `isString`. -/
def string? : Json → Option Bytes
  | .string data => some data
  | _ => none

/-- `asInt` behind a check of `isInt`. -/
def int? (json : Json) : Option Int32 := if json.isInt then json.asInt.toOption else none

/-- The items of a value for which `isArray` holds. -/
def array? : Json → Option (List Json)
  | .array items => some items
  | _ => none

def stringAt (root : Json) (key : String) : Except Fault (Option Bytes) :=
  (root.member key).map string?

def intAt (root : Json) (key : String) : Except Fault (Option Int32) := (root.member key).map int?

/-- Values the handlers assign to the members of a response. -/
def ofInt32 (value : Int32) : Json := .int value.toInt

def ofMembers (members : List (String × Json)) : Json :=
  .object (members.map fun entry => (text entry.1, entry.2))

end Json

/-- What the model takes from outside: the text side of the JSON library, and
whether `data()` of a cleared vector is non-null on this platform. -/
structure Env where
  parse : Bytes → Except Fault (Option Json)
  toStyledString : Json → Bytes
  emptyData : Bool

end EdoyumIM.JsonValue
