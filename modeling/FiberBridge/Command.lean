import FiberBridge.Text.Utf8

namespace FiberBridge

structure Config where
  systemNamespace : Option String := none
  resumeAfterForward : Bool := true
deriving DecidableEq, Repr, Inhabited

inductive SystemCommand where
  | log
  | waitSecs
  | waitFrames
deriving DecidableEq, Repr

def SystemCommand.base : SystemCommand → String
  | log => "log"
  | waitSecs => "wait_secs"
  | waitFrames => "wait_frames"

theorem SystemCommand.base_injective {k k' : SystemCommand} (same : k.base = k'.base) : k = k' := by
  cases k <;> cases k' <;> first | rfl | exact absurd same (by decide)

namespace Config

def reservedName (config : Config) (command : SystemCommand) : String :=
  match config.systemNamespace with
  | some ns => if ns.isEmpty then command.base else ns ++ ":" ++ command.base
  | none => command.base

def reserved? (config : Config) (name : ByteArray) : Option SystemCommand :=
  if name.data = (config.reservedName .log).toUTF8.data then some .log
  else if name.data = (config.reservedName .waitSecs).toUTF8.data then some .waitSecs
  else if name.data = (config.reservedName .waitFrames).toUTF8.data then some .waitFrames
  else none

variable {config : Config}

theorem reservedName_injective {k k' : SystemCommand}
    (same : config.reservedName k = config.reservedName k') : k = k' := by
  unfold reservedName at same
  split at same
  · split at same
    · exact SystemCommand.base_injective same
    · exact SystemCommand.base_injective ((String.append_right_inj _).mp same)
  · exact SystemCommand.base_injective same

theorem reservedBytes_injective {k k' : SystemCommand}
    (same : (config.reservedName k).toUTF8.data = (config.reservedName k').toUTF8.data) : k = k' :=
  reservedName_injective (String.toByteArray_inj.mp (ByteArray.ext same))

-- A name stands for a system command exactly when it is the command's reserved name, byte for byte.
theorem reserved?_iff {name : ByteArray} {k : SystemCommand} :
    config.reserved? name = some k ↔ name = (config.reservedName k).toUTF8 := by
  constructor
  · intro found
    unfold reserved? at found
    split at found
    · rename_i same
      cases found
      exact ByteArray.ext same
    · split at found
      · rename_i same
        cases found
        exact ByteArray.ext same
      · split at found
        · rename_i same
          cases found
          exact ByteArray.ext same
        · cases found
  · rintro rfl
    have other {k' : SystemCommand} (different : k ≠ k') :
        (config.reservedName k).toUTF8.data ≠ (config.reservedName k').toUTF8.data :=
      fun same => different (reservedBytes_injective same)
    unfold reserved?
    cases k with
    | log => rw [if_pos rfl]
    | waitSecs => rw [if_neg (other (by decide)), if_pos rfl]
    | waitFrames => rw [if_neg (other (by decide)), if_neg (other (by decide)), if_pos rfl]

end Config

end FiberBridge
