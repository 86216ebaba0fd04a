import FiberBridge.Json.Basic

namespace FiberBridge.Json

inductive Fault where
  | endInValue
  | endInList
  | endInObject
  | endInString
  | expectedValue
  | expectedIdent
  | expectedColon
  | expectedListEnd
  | expectedObjectEnd
  | keyNotString
  | trailingComma
  | trailingCharacters
  | invalidNumber
  | numberOutOfRange
  | invalidEscape
  | unpairedSurrogate
  | unfinishedSurrogate
  | controlCharacter
  | tooDeep
deriving DecidableEq, Repr

def Fault.message : Fault → String
  | endInValue => "EOF while parsing a value"
  | endInList => "EOF while parsing a list"
  | endInObject => "EOF while parsing an object"
  | endInString => "EOF while parsing a string"
  | expectedValue => "expected value"
  | expectedIdent => "expected ident"
  | expectedColon => "expected `:`"
  | expectedListEnd => "expected `,` or `]`"
  | expectedObjectEnd => "expected `,` or `\x7d`"
  | keyNotString => "key must be a string"
  | trailingComma => "trailing comma"
  | trailingCharacters => "trailing characters"
  | invalidNumber => "invalid number"
  | numberOutOfRange => "number out of range"
  | invalidEscape => "invalid escape"
  | unpairedSurrogate => "lone leading surrogate in hex escape"
  | unfinishedSurrogate => "unexpected end of hex escape"
  | controlCharacter => "control character (\\u0000-\\u001F) found while parsing a string"
  | tooDeep => "recursion limit exceeded"

def bytesOf (cs : List Char) : Nat := cs.foldr (·.utf8Size + ·) 0

structure Stop where
  fault : Fault
  left : Nat
deriving DecidableEq, Repr

def stop {α : Type} (fault : Fault) (rest : List Char) : Except Stop (α × List Char) := .error ⟨fault, bytesOf rest⟩

def stopAt {α : Type} (fault : Fault) (rest : List Char) : Except Stop (α × List Char) :=
  .error ⟨fault, bytesOf rest - 1⟩

def isBlank (c : Char) : Bool := c = ' ' || c = '\n' || c = '\t' || c = '\r'

def skipBlanks (cs : List Char) : List Char := cs.dropWhile isBlank

def expect {α : Type} (a : α) : List Char → List Char → Except Stop (α × List Char)
  | [], cs => .ok (a, cs)
  | _ :: _, [] => stop .endInValue []
  | w :: ws, c :: cs => if c = w then expect a ws cs else stopAt .expectedIdent (c :: cs)

def digit? (c : Char) : Option Nat := if c.isDigit then some (c.toNat - 48) else none

def digits : Nat → Nat → List Char → Nat × Nat × List Char
  | acc, count, [] => (acc, count, [])
  | acc, count, c :: cs =>
    match digit? c with
    | some d => digits (acc * 10 + d) (count + 1) cs
    | none => (acc, count, c :: cs)

def float (negative : Bool) (significand : Nat) (exponent : Int) (rest : List Char) : Except Stop (Number × List Char) :=
  match Double.ofDecimal? negative significand exponent with
  | some x => .ok (.float x, rest)
  | none => stop .numberOutOfRange rest

-- Exponents are read up to 32 bits; past them the number is zero or out of range.
def exponentLimit : Nat := Nat.pow 2 31 - 1

def exponentDigits (negative down : Bool) (significand : Nat) (scale : Int) :
    Nat → List Char → Except Stop (Number × List Char)
  | e, [] => float negative significand (if down then scale - e else scale + e) []
  | e, c :: cs =>
    match digit? c with
    | none => float negative significand (if down then scale - e else scale + e) (c :: cs)
    | some d =>
      if exponentLimit < e * 10 + d then
        if significand ≠ 0 ∧ ¬ down then stop .numberOutOfRange cs
        else .ok (.float (Double.zero negative), cs.dropWhile Char.isDigit)
      else exponentDigits negative down significand scale (e * 10 + d) cs

def exponent (negative : Bool) (significand : Nat) (scale : Int) (cs : List Char) : Except Stop (Number × List Char) :=
  let down := cs.head? = some '-'
  let cs := if down ∨ cs.head? = some '+' then cs.drop 1 else cs
  match cs with
  | [] => stop .endInValue []
  | c :: cs =>
    match digit? c with
    | none => stopAt .invalidNumber (c :: cs)
    | some d => exponentDigits negative down significand scale d cs

-- An integer stays one if 64 bits hold it; the negative zero does not.
def integer (negative : Bool) (n : Nat) (rest : List Char) : Except Stop (Number × List Char) :=
  if negative then
    if n ≠ 0 ∧ n ≤ Nat.pow 2 63 then .ok (.int (-(n : Int)), rest) else float true n 0 rest
  else if n < Nat.pow 2 64 then .ok (.int n, rest) else float false n 0 rest

def fraction (negative : Bool) (n : Nat) : List Char → Except Stop (Number × List Char)
  | '.' :: cs =>
    let (n, count, rest) := digits n 0 cs
    if count = 0 then
      if rest.isEmpty then stopAt .endInValue rest else stopAt .invalidNumber rest
    else
      match rest with
      | 'e' :: rest => exponent negative n (-(count : Int)) rest
      | 'E' :: rest => exponent negative n (-(count : Int)) rest
      | rest => float negative n (-(count : Int)) rest
  | 'e' :: cs => exponent negative n 0 cs
  | 'E' :: cs => exponent negative n 0 cs
  | cs => integer negative n cs

def number (negative : Bool) : List Char → Except Stop (Number × List Char)
  | [] => stop .endInValue []
  | c :: cs =>
    match digit? c with
    | none => stopAt .invalidNumber (c :: cs)
    | some 0 =>
      if (cs.head?.bind digit?).isSome then stopAt .invalidNumber cs else fraction negative 0 cs
    | some d =>
      let (n, _, rest) := digits d 0 cs
      fraction negative n rest

def hexDigit? (c : Char) : Option Nat :=
  if c.isDigit then some (c.toNat - 48)
  else if 'a' ≤ c && c ≤ 'f' then some (c.toNat - 87)
  else if 'A' ≤ c && c ≤ 'F' then some (c.toNat - 55)
  else none

def hexFour (cs : List Char) : Except Stop (Nat × List Char) :=
  if bytesOf cs < 4 then .error ⟨.endInString, 0⟩
  else
    match cs with
    | a :: b :: c :: d :: rest =>
      match hexDigit? a, hexDigit? b, hexDigit? c, hexDigit? d with
      | some a, some b, some c, some d => .ok (((a * 16 + b) * 16 + c) * 16 + d, rest)
      | _, _, _, _ => .error ⟨.invalidEscape, bytesOf cs - 4⟩
    | _ => .error ⟨.invalidEscape, bytesOf cs - 4⟩

def pairMark (mark : Char) : List Char → Except Stop (Unit × List Char)
  | [] => stop .endInString []
  | c :: cs => if c = mark then .ok ((), cs) else stopAt .unfinishedSurrogate (c :: cs)

def unicodeEscape (cs : List Char) : Except Stop (Char × List Char) := do
  let (high, cs) ← hexFour cs
  if 0xDC00 ≤ high ∧ high ≤ 0xDFFF then stop .unpairedSurrogate cs
  else if high < 0xD800 ∨ 0xDBFF < high then .ok (Char.ofNat high, cs)
  else
    let (_, cs) ← pairMark '\\' cs
    let (_, cs) ← pairMark 'u' cs
    let (low, cs) ← hexFour cs
    if low < 0xDC00 ∨ 0xDFFF < low then stop .unpairedSurrogate cs
    else .ok (Char.ofNat ((high - 0xD800) * 1024 + (low - 0xDC00) + 0x10000), cs)

def escape : List Char → Except Stop (Char × List Char)
  | [] => stop .endInString []
  | c :: cs =>
    match c with
    | '"' => .ok ('"', cs)
    | '\\' => .ok ('\\', cs)
    | '/' => .ok ('/', cs)
    | 'b' => .ok ('\x08', cs)
    | 'f' => .ok ('\x0c', cs)
    | 'n' => .ok ('\n', cs)
    | 'r' => .ok ('\r', cs)
    | 't' => .ok ('\t', cs)
    | 'u' => unicodeEscape cs
    | _ => stopAt .invalidEscape (c :: cs)

def string : Nat → List Char → List Char → Except Stop (String × List Char)
  | 0, _, cs => stop .endInString cs
  | fuel + 1, done, cs =>
    match cs with
    | [] => stop .endInString []
    | '"' :: rest => .ok (String.ofList done.reverse, rest)
    | '\\' :: rest => do
      let (c, rest) ← escape rest
      string fuel (c :: done) rest
    | c :: rest => if c.toNat < 0x20 then stop .controlCharacter rest else string fuel (c :: done) rest

def depthLimit : Nat := 127

mutual

-- A value. The fuel bounds the number of calls, the depth the nesting that is still allowed.
def value : Nat → Nat → List Char → Except Stop (Json × List Char)
  | 0, _, cs => stop .tooDeep cs
  | fuel + 1, depth, cs =>
    match skipBlanks cs with
    | [] => stop .endInValue []
    | c :: rest =>
      match c with
      | 'n' => expect .null ['u', 'l', 'l'] rest
      | 't' => expect (.bool true) ['r', 'u', 'e'] rest
      | 'f' => expect (.bool false) ['a', 'l', 's', 'e'] rest
      | '"' => do
        let (s, rest) ← string (rest.length + 1) [] rest
        .ok (.str s, rest)
      | '[' =>
        match depth with
        | 0 => stopAt .tooDeep (c :: rest)
        | depth + 1 => items fuel depth true [] rest
      | '\x7b' =>
        match depth with
        | 0 => stopAt .tooDeep (c :: rest)
        | depth + 1 => members fuel depth true [] rest
      | '-' => do
        let (n, rest) ← number true rest
        .ok (.num n, rest)
      | c =>
        if c.isDigit then do
          let (n, rest) ← number false (c :: rest)
          .ok (.num n, rest)
        else stopAt .expectedValue (c :: rest)

def items : Nat → Nat → Bool → List Json → List Char → Except Stop (Json × List Char)
  | 0, _, _, _, cs => stop .tooDeep cs
  | fuel + 1, depth, isFirst, done, cs =>
    match skipBlanks cs with
    | [] => stop .endInList []
    | ']' :: rest => .ok (.arr done.reverse, rest)
    | c :: rest =>
      if isFirst then do
        let (v, rest) ← value fuel depth (c :: rest)
        items fuel depth false (v :: done) rest
      else if c = ',' then
        match skipBlanks rest with
        | [] => stop .endInValue []
        | ']' :: rest => stopAt .trailingComma (']' :: rest)
        | rest => do
          let (v, rest) ← value fuel depth rest
          items fuel depth false (v :: done) rest
      else stopAt .expectedListEnd (c :: rest)

def members : Nat → Nat → Bool → List (String × Json) → List Char → Except Stop (Json × List Char)
  | 0, _, _, _, cs => stop .tooDeep cs
  | fuel + 1, depth, isFirst, done, cs =>
    match skipBlanks cs with
    | [] => stop .endInObject []
    | '\x7d' :: rest => .ok (.obj done, rest)
    | c :: rest =>
      if isFirst then
        if c = '"' then member fuel depth done rest else stopAt .keyNotString (c :: rest)
      else if c = ',' then
        match skipBlanks rest with
        | [] => stop .endInValue []
        | '"' :: rest => member fuel depth done rest
        | '\x7d' :: rest => stopAt .trailingComma ('\x7d' :: rest)
        | rest => stopAt .keyNotString rest
      else stopAt .expectedObjectEnd (c :: rest)

def member : Nat → Nat → List (String × Json) → List Char → Except Stop (Json × List Char)
  | 0, _, _, cs => stop .tooDeep cs
  | fuel + 1, depth, done, cs => do
    let (key, cs) ← string (cs.length + 1) [] cs
    match skipBlanks cs with
    | [] => stop .endInObject []
    | ':' :: rest => do
      let (v, rest) ← value fuel depth rest
      members fuel depth false (insertField key v done) rest
    | rest => stopAt .expectedColon rest

end

structure Misread where
  fault : Fault
  line : Nat
  column : Nat
deriving DecidableEq, Repr

def Misread.message (m : Misread) : String :=
  m.fault.message ++ " at line " ++ toString m.line ++ " column " ++ toString m.column

def Misread.place (fault : Fault) (text : String) (index : Nat) : Misread :=
  let before := text.toUTF8.toList.take index
  ⟨fault, 1 + before.count 10, (before.reverse.takeWhile (· ≠ 10)).length⟩

def read (text : String) : Except Misread Json :=
  let cs := text.toList
  let result : Except Stop (Json × List Char) := do
    let (v, rest) ← value (4 * cs.length + 4) depthLimit cs
    match skipBlanks rest with
    | [] => .ok (v, [])
    | rest => stopAt .trailingCharacters rest
  match result with
  | .ok (v, _) => .ok v
  | .error stop => .error (.place stop.fault text (text.utf8ByteSize - stop.left))

end FiberBridge.Json
