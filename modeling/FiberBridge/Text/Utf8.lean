namespace FiberBridge.Utf8

inductive Piece where
  | char (c : Char) (size : Nat)
  | broken (size : Nat)
  | cut (size : Nat)
deriving DecidableEq, Repr

def Piece.size : Piece → Nat
  | char _ n => n
  | broken n => n
  | cut n => n

def isTail (b : UInt8) : Bool := 0x80 ≤ b && b ≤ 0xBF

def shift (acc : Nat) (b : UInt8) : Nat := acc * 64 + (b.toNat - 0x80)

-- The bytes that may follow the first byte of a character of `k` tails, and what the first byte
-- adds to the code point.
def lead (b : UInt8) : Option (Nat × Nat × UInt8 × UInt8) :=
  if b < 0x80 then some (0, b.toNat, 0, 0)
  else if 0xC2 ≤ b && b ≤ 0xDF then some (1, b.toNat - 0xC0, 0x80, 0xBF)
  else if b = 0xE0 then some (2, 0, 0xA0, 0xBF)
  else if b = 0xED then some (2, 0xD, 0x80, 0x9F)
  else if 0xE1 ≤ b && b ≤ 0xEF then some (2, b.toNat - 0xE0, 0x80, 0xBF)
  else if b = 0xF0 then some (3, 0, 0x90, 0xBF)
  else if 0xF1 ≤ b && b ≤ 0xF3 then some (3, b.toNat - 0xF0, 0x80, 0xBF)
  else if b = 0xF4 then some (3, 4, 0x80, 0x8F)
  else none

def tails : Nat → Nat → Nat → List UInt8 → Piece
  | 0, acc, seen, _ => .char (Char.ofNat acc) seen
  | _ + 1, _, seen, [] => .cut seen
  | owed + 1, acc, seen, b :: rest =>
    if isTail b then tails owed (shift acc b) (seen + 1) rest else .broken seen

def piece (b : UInt8) (rest : List UInt8) : Piece :=
  match lead b with
  | none => .broken 1
  | some (0, acc, _, _) => .char (Char.ofNat acc) 1
  | some (owed + 1, acc, low, high) =>
    match rest with
    | [] => .cut 1
    | second :: rest =>
      if low ≤ second && second ≤ high then tails owed (shift acc second) 2 rest else .broken 1

def pieces : List UInt8 → List Piece
  | [] => []
  | b :: rest =>
    let p := piece b rest
    p :: pieces (rest.drop (p.size - 1))
termination_by bytes => bytes.length
decreasing_by
  simp only [List.length_drop, List.length_cons]
  omega

-- The replacement character stands for each faulty part.
def lossy (bytes : ByteArray) : String :=
  String.ofList ((pieces bytes.toList).map fun
    | .char c _ => c
    | _ => Char.ofNat 0xFFFD)

structure Fault where
  index : Nat
  length : Option Nat
deriving DecidableEq, Repr

def Fault.message (f : Fault) : String :=
  match f.length with
  | some k => "invalid utf-8 sequence of " ++ toString k ++ " bytes from index " ++ toString f.index
  | none => "incomplete utf-8 byte sequence from index " ++ toString f.index

def firstFault (index : Nat) : List Piece → Fault
  | [] => ⟨index, none⟩
  | .char _ n :: rest => firstFault (index + n) rest
  | .broken n :: _ => ⟨index, some n⟩
  | .cut _ :: _ => ⟨index, none⟩

def read (bytes : ByteArray) : Except Fault String :=
  match String.fromUTF8? bytes with
  | some s => .ok s
  | none => .error (firstFault 0 (pieces bytes.toList))

theorem toUTF8_of_read {bytes : ByteArray} {s : String} (h : read bytes = .ok s) :
    s.toUTF8 = bytes := by
  unfold read at h
  split at h
  · rename_i t found
    cases h
    unfold String.fromUTF8? at found
    split at found
    · cases found; rfl
    · cases found
  · cases h

theorem read_toUTF8 (s : String) : read s.toUTF8 = .ok s := by
  have valid : s.toUTF8.IsValidUTF8 := s.isValidUTF8
  unfold read String.fromUTF8?
  rw [dif_pos valid]
  rfl

theorem read_ok_iff {bytes : ByteArray} {s : String} : read bytes = .ok s ↔ s.toUTF8 = bytes := by
  constructor
  · exact toUTF8_of_read
  · rintro rfl
    exact read_toUTF8 s

end FiberBridge.Utf8
