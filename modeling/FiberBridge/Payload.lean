import FiberBridge.Json.Reader
import FiberBridge.Number.Duration

namespace FiberBridge

-- An opaque value of the native side, borrowed for one callback.
structure Word where
  value : UInt64
deriving DecidableEq, Repr, Inhabited

def Word.text (w : Word) : String := "NativeValue(0x" ++ Text.hex w.value.toNat ++ ")"

inductive CodecFault where
  | unsupported (value : String)
  | unreadable (why : Json.Misread)
deriving DecidableEq, Repr

def CodecFault.message : CodecFault → String
  | unsupported value => "unsupported native value: " ++ value
  | unreadable why => why.message

abbrev Decoding := Except CodecFault Json

inductive Shape where
  | text
  | number
  | count
  | flag
  | any
deriving DecidableEq, Repr

def Shape.expected : Shape → String
  | text => "a string"
  | number => "f64"
  | count => "u32"
  | flag => "a boolean"
  | any => "any value"

inductive ShapeFault where
  | mistyped (found : Json) (expected : Shape)
  | outOfRange (found : Int) (expected : Shape)

def Json.described : Json → String
  | .null => "null"
  | .bool b => "boolean `" ++ (if b then "true" else "false") ++ "`"
  | .num (.int n) => "integer `" ++ toString n ++ "`"
  | .num (.float x) => "floating point `" ++ Layout.document.write x ++ "`"
  | .str s => "string " ++ Text.quoted s
  | .arr _ => "sequence"
  | .obj _ => "map"

def ShapeFault.message : ShapeFault → String
  | mistyped found expected =>
    "invalid type: " ++ found.described ++ ", expected " ++ expected.expected
  | outOfRange found expected =>
    "invalid value: integer `" ++ toString found ++ "`, expected " ++ expected.expected

namespace Json

def asText : Json → Except ShapeFault String
  | .str s => .ok s
  | v => .error (.mistyped v .text)

def asNumber : Json → Except ShapeFault Double
  | .num (.int n) => .ok (Double.ofInt n)
  | .num (.float x) => .ok x
  | v => .error (.mistyped v .number)

-- A float is no count, not even a whole one.
def asCount : Json → Except ShapeFault UInt32
  | .num (.int n) =>
    if 0 ≤ n ∧ n < Nat.pow 2 32 then .ok (UInt32.ofNat n.toNat) else .error (.outOfRange n .count)
  | v => .error (.mistyped v .count)

def asFlag : Json → Except ShapeFault Bool
  | .bool b => .ok b
  | v => .error (.mistyped v .flag)

end Json

inductive Shaped where
  | text (s : String)
  | number (x : Double)
  | count (n : UInt32)
  | flag (b : Bool)
  | any (v : Json)

def Shape.of (shape : Shape) (v : Json) : Except ShapeFault Shaped :=
  match shape with
  | text => v.asText.map .text
  | number => v.asNumber.map .number
  | count => v.asCount.map .count
  | flag => v.asFlag.map .flag
  | any => .ok (.any v)

end FiberBridge
