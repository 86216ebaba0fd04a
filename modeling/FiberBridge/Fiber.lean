namespace FiberBridge

structure ScriptId where
  value : Int32
deriving DecidableEq, Repr, Inhabited

namespace ScriptId

def text (id : ScriptId) : String := toString id.value.toInt

def debug (id : ScriptId) : String := "ScriptId(" ++ id.text ++ ")"

def le (a b : ScriptId) : Bool := a.value.toInt ≤ b.value.toInt

end ScriptId

-- Lifecycle state of a script. `disposed` is known to the bridge alone.
inductive Status where
  | created
  | running
  | resumed
  | suspended
  | transferred
  | terminated
  | disposed
deriving DecidableEq, Repr, Inhabited

namespace Status

def all : List Status := [created, running, resumed, suspended, transferred, terminated, disposed]

def text : Status → String
  | created => "created"
  | running => "running"
  | resumed => "resumed"
  | suspended => "suspended"
  | transferred => "transferred"
  | terminated => "terminated"
  | disposed => "disposed"

def debug : Status → String
  | created => "Created"
  | running => "Running"
  | resumed => "Resumed"
  | suspended => "Suspended"
  | transferred => "Transferred"
  | terminated => "Terminated"
  | disposed => "Disposed"

-- Only a script that never ran or has ended may start.
def startable : Status → Bool
  | created => true
  | terminated => true
  | _ => false

def documented? (ordinal : Int32) : Option Status :=
  match ordinal.toInt with
  | 0 => some created
  | 1 => some running
  | 2 => some resumed
  | 3 => some suspended
  | 4 => some transferred
  | 5 => some terminated
  | _ => none

-- A state nobody documented counts as the end.
def ofOrdinal (ordinal : Int32) : Status := (documented? ordinal).getD terminated

end Status

inductive CallResult where
  | error
  | yielded
  | done
deriving DecidableEq, Repr, Inhabited

namespace CallResult

def debug : CallResult → String
  | error => "Error"
  | yielded => "Continue"
  | done => "Done"

def documented? (code : Int32) : Option CallResult :=
  match code.toInt with
  | 0 => some error
  | 1 => some yielded
  | 2 => some done
  | _ => none

def ofCode (code : Int32) : CallResult := (documented? code).getD error

theorem ofCode_eq_yielded_iff {code : Int32} : ofCode code = yielded ↔ code = 1 := by
  rw [← Int32.toInt_inj]
  unfold ofCode documented?
  split <;> simp_all

theorem ofCode_eq_done_iff {code : Int32} : ofCode code = done ↔ code = 2 := by
  rw [← Int32.toInt_inj]
  unfold ofCode documented?
  split <;> simp_all

theorem ofCode_eq_error_iff {code : Int32} : ofCode code = error ↔ code ≠ 1 ∧ code ≠ 2 := by
  rw [ne_eq, ne_eq, ← ofCode_eq_yielded_iff, ← ofCode_eq_done_iff]
  cases ofCode code <;> simp

end CallResult

end FiberBridge
