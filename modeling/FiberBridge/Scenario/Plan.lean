import FiberBridge.Machine.Describe
import FiberBridge.Machine.Frames
import FiberBridge.Machine.Step

namespace FiberBridge.Scenario

structure StepPlan (α : Type) where
  code : Int32 := 1
  acts : List α := []
  state : Option Int32 := none

instance {α : Type} : Inhabited (StepPlan α) := ⟨{}⟩

structure FiberPlan (α : Type) where
  id : ScriptId := default
  steps : List (StepPlan α) := []
  state : Int32 := 0
  onDispose : List α := []
  label : Option String := none

instance {α : Type} : Inhabited (FiberPlan α) := ⟨{}⟩

structure HandlerPlan (α : Type) where
  tag : Option String := none
  acts : List α := []

instance {α : Type} : Inhabited (HandlerPlan α) := ⟨{}⟩

inductive HandlerChoice (α : Type) where
  | builtIn
  | plan (p : HandlerPlan α)

instance {α : Type} : Inhabited (HandlerChoice α) := ⟨.builtIn⟩

inductive Stage (α : Type) where
  | act (a : α)
  | gate (name : String)

instance {α : Type} : Inhabited (Stage α) := ⟨.gate ""⟩

structure Rule (α : Type) where
  decode : Option Shape := none
  keepRef : Option String := none
  sync : List α := []
  stages : List (Stage α) := []
  causes : Option (List String) := none

instance {α : Type} : Inhabited (Rule α) := ⟨{}⟩

inductive PayloadPlan (α : Type) where
  | word (w : Word)
  | slot (onDecode : List α) (text : Option String) (document : Json)

instance {α : Type} : Inhabited (PayloadPlan α) := ⟨.word ⟨0⟩⟩

inductive FramesChoice where
  | manual
  | clock (name : String)

structure BridgePlan (α : Type) where
  config : Config := {}
  codec : Bool := true
  router : Option (List (String × Rule α)) := none
  timers : Option Timers := none
  frames : Option FramesChoice := none
  runtime : Bool := false
  log : HandlerChoice α := .builtIn
  error : HandlerChoice α := .builtIn

instance {α : Type} : Inhabited (BridgePlan α) := ⟨{}⟩

inductive Target where
  | handle (name : String)
  | ref (name : String)

-- One act of the host. Strings name what earlier acts made. Plans hold further acts, so acts nest
-- to any depth.
inductive Act where
  | ordinal (n : Int32)
  | code (n : Int32)
  | statusName (s : Status)
  | errorInfo (e other : BridgeError)
  | nativeValue (w : Word)
  | scriptIds (ids : List ScriptId)
  | bridge (b : String) (plan : BridgePlan Act)
  | dropBridge (b : String)
  | bridgeInfo (b : String)
  | command (b : String) (id : ScriptId) (name : ByteArray) (payload : PayloadPlan Act)
  | error (b : String) (id : ScriptId) (description : String)
  | report (b : String) (e : BridgeError)
  | setLog (b : String) (handler : HandlerChoice Act)
  | setError (b : String) (handler : HandlerChoice Act)
  | lookup (b : String) (id : ScriptId) (ref : Option String)
  | contains (b : String) (id : ScriptId)
  | register (b h : String) (plan : FiberPlan Act)
  | start (h : String) (token : Option String) (run : String)
  | cancel (token : String)
  | resume (target : Target)
  | status (target : Target)
  | fail (target : Target) (e : BridgeError)
  | inspect (target : Target)
  | dispose (h : String)
  | drop (h : String)
  | makeRef (target : Target) (as : String)
  | dropRef (ref : String)
  | dropRun (run : String)
  | setState (h : String) (state : Int32)
  | decode (target : Target) (shape : Shape) (command : String) (payload : PayloadPlan Act)
  | fire (n : Nat)
  | forget (n : Nat)
  | openGate (gate : String)
  | breakGate (gate : String)
  | clock (c : String)
  | tick (c : String)
  | frames (c : String) (n : Nat)
  | frame (c : String)
  | dropClock (c : String)
  | wait (c w : String) (n : UInt32)
  | poll (w : String)
  | settle
  | advance (millis : Nat)
  | context (c : String) (available : Bool)
  | dropContext (c : String)
  | compile (c s : String) (length : Nat) (plan : Option (FiberPlan Act))
  | dropScript (s : String)
  | registerScript (b s h : String)
  | install (b : String)
  | uninstall
  | vmCommand (id : ScriptId) (name : Option ByteArray) (length : Int32) (payload : PayloadPlan Act)
  | vmError (id : ScriptId) (description : Option ByteArray)
  | note (message : Json)
  | panic (p : Panic)
  | thread (acts : List Act)
  | unknown (name : Option String)

instance : Inhabited Act := ⟨.settle⟩

def Act.name : Act → Option String
  | ordinal _ => "ordinal"
  | code _ => "code"
  | statusName _ => "status_name"
  | errorInfo .. => "error_info"
  | nativeValue _ => "native_value"
  | scriptIds _ => "script_ids"
  | bridge .. => "bridge"
  | dropBridge _ => "drop_bridge"
  | bridgeInfo _ => "bridge_info"
  | command .. => "command"
  | error .. => "error"
  | report .. => "report"
  | setLog .. => "set_log"
  | setError .. => "set_error"
  | lookup .. => "lookup"
  | contains .. => "contains"
  | register .. => "register"
  | start .. => "start"
  | cancel _ => "cancel"
  | resume _ => "resume"
  | status _ => "status"
  | fail .. => "fail"
  | inspect _ => "inspect"
  | dispose _ => "dispose"
  | drop _ => "drop"
  | makeRef .. => "make_ref"
  | dropRef _ => "drop_ref"
  | dropRun _ => "drop_run"
  | setState .. => "set_state"
  | decode .. => "decode"
  | fire _ => "fire"
  | forget _ => "forget"
  | openGate _ => "open"
  | breakGate _ => "break"
  | clock _ => "clock"
  | tick _ => "tick"
  | frames .. => "frames"
  | frame _ => "frame"
  | dropClock _ => "drop_clock"
  | wait .. => "wait"
  | poll _ => "poll"
  | settle => "settle"
  | advance _ => "advance"
  | context .. => "context"
  | dropContext _ => "drop_context"
  | compile .. => "compile"
  | dropScript _ => "drop_script"
  | registerScript .. => "register_script"
  | install _ => "install"
  | uninstall => "uninstall"
  | vmCommand .. => "vm_command"
  | vmError .. => "vm_error"
  | note _ => "note"
  | panic _ => "panic"
  | thread _ => "thread"
  | unknown name => name

inductive Answer where
  | done
  | id (id : ScriptId)
  | status (s : Status)
  | shaped (v : Shaped)
  | failed (e : BridgeError)
  | panicked (p : Panic)
  | missing (sort name : String)
  | unknown (name : String)
  | flag (b : Bool)
  | text (s : String)
  | joined (b : Bool)
  | document (v : Json)
  | ordinal (s : Status)
  | statusName (s : Status)
  | error (e other : BridgeError)
  | word (w : Word)
  | ids (ids : List ScriptId)
  | bridge (config : Config) (scripts : Nat) (description : String)
  | script (id : ScriptId) (disposed : Bool) (description : String)

inductive Happening where
  | fiber (label call : String)
  | act (name : Option String) (answer : Answer)
  | log (tag : Option String) (message : String)
  | error (tag : Option String) (e : BridgeError)
  | decode (w : Word) (id : ScriptId)
  | route (name : String) (id : ScriptId) (w : Word)
  | decoded (answer : Answer)
  | timer (n : Nat) (d : Duration)
  | frames (n : Nat) (count : UInt32)
  | native (c : NativeCall)
  | told (d : Diagnostic) (scope : Option Scope)

end FiberBridge.Scenario
