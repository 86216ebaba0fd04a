import FiberBridge.Number.Shortest
import FiberBridge.Text.Quoted

namespace FiberBridge

inductive Json.Number where
  | int (n : Int)
  | float (x : Double)
deriving DecidableEq, Repr

inductive Json where
  | null
  | bool (b : Bool)
  | num (n : Json.Number)
  | str (s : String)
  | arr (items : List Json)
  | obj (fields : List (String × Json))
deriving Repr, Inhabited

namespace Json

def insertField (key : String) (v : Json) : List (String × Json) → List (String × Json)
  | [] => [(key, v)]
  | (k, old) :: rest =>
    if key = k then (key, v) :: rest
    else if key < k then (key, v) :: (k, old) :: rest
    else (k, old) :: insertField key v rest

def object (fields : List (String × Json)) : Json :=
  .obj (fields.foldl (fun kept (k, v) => insertField k v kept) [])

def field? (key : String) : Json → Option Json
  | obj fields => fields.lookup key
  | _ => none

def ofNat (n : Nat) : Json := .num (.int n)
def ofInt (n : Int) : Json := .num (.int n)

-- A whole number has a point, so that it stays a float when read again.
def Number.text : Number → String
  | int n => toString n
  | float x => Layout.document.write x

def escapedChar (c : Char) : String :=
  if c = '"' then "\\\""
  else if c = '\\' then "\\\\"
  else if c = '\n' then "\\n"
  else if c = '\r' then "\\r"
  else if c = '\t' then "\\t"
  else if c.toNat = 8 then "\\b"
  else if c.toNat = 12 then "\\f"
  else if c.toNat < 0x20 then "\\u" ++ Text.hexPadded 4 c.toNat
  else c.toString

def escaped (s : String) : String := "\"" ++ String.join (s.toList.map escapedChar) ++ "\""

mutual

def compact : Json → String
  | null => "null"
  | bool b => if b then "true" else "false"
  | num n => n.text
  | str s => escaped s
  | arr items => "[" ++ compactItems items ++ "]"
  | obj fields => "\x7b" ++ compactFields fields ++ "\x7d"

def compactItems : List Json → String
  | [] => ""
  | [item] => compact item
  | item :: rest => compact item ++ "," ++ compactItems rest

def compactFields : List (String × Json) → String
  | [] => ""
  | [(k, v)] => escaped k ++ ":" ++ compact v
  | (k, v) :: rest => escaped k ++ ":" ++ compact v ++ "," ++ compactFields rest

end

end Json

end FiberBridge
