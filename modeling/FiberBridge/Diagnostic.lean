import FiberBridge.Command
import FiberBridge.Error
import FiberBridge.Text.Quoted

namespace FiberBridge

inductive Level where
  | error
  | warn
  | info
  | debug
  | trace
deriving DecidableEq, Repr

namespace Level

def text : Level → String
  | error => "ERROR"
  | warn => "WARN"
  | info => "INFO"
  | debug => "DEBUG"
  | trace => "TRACE"

def rank : Level → Nat
  | error => 0
  | warn => 1
  | info => 2
  | debug => 3
  | trace => 4

def within (level limit : Level) : Bool := level.rank ≤ limit.rank

end Level

inductive UpcallKind where
  | command
  | error
deriving DecidableEq, Repr

inductive Diagnostic where
  | statusUnknown (ordinal : Int32)
  | resultUnknown (code : Int32)
  | outcomeDropped (id : ScriptId) (error : BridgeError)
  | superseded (id : ScriptId)
  | starting (id : ScriptId) (status : Status)
  | canceledAtResume (id : ScriptId)
  | resuming (id : ScriptId)
  | scriptFailed (id : ScriptId)
  | scriptSuspended (id : ScriptId)
  | scriptCompleted (id : ScriptId)
  | failingRun (id : ScriptId) (error : BridgeError)
  | noRunToFail (id : ScriptId) (error : BridgeError)
  | scriptDisposed (id : ScriptId)
  | scriptRegistered (id : ScriptId)
  | bridgeBuilt (systemNamespace : Option String) (router timers frames : Bool)
  | scriptRaised (id : ScriptId) (description : String)
  | reporting (error : BridgeError)
  | forwarding (id : ScriptId) (command : String)
  | systemCommand (id : ScriptId) (command : String)
  | waitElapsed
  | forwardCompleted
  | forwardFailed (message : String)
  -- A script's own message, when the host set no handler for messages.
  | scriptMessage (message : String)
  | unhandled (error : BridgeError)
  | scriptCompiled (id : ScriptId)
  | upcallsInstalled
  | upcallsUninstalled
  | noBridge (kind : UpcallKind) (id : ScriptId)
  | upcallPanicked (kind : UpcallKind) (id : ScriptId)
deriving DecidableEq, Repr

inductive FieldValue where
  | text (s : String)
  | int (n : Int)
  | flag (b : Bool)
deriving DecidableEq, Repr

namespace Diagnostic

def level : Diagnostic → Level
  | statusUnknown _ => .warn
  | resultUnknown _ => .warn
  | forwardFailed _ => .warn
  | noBridge .. => .warn
  | unhandled _ => .error
  | upcallPanicked .. => .error
  | scriptMessage _ => .info
  | resuming _ => .trace
  | scriptSuspended _ => .trace
  | reporting _ => .trace
  | forwarding .. => .trace
  | systemCommand .. => .trace
  | waitElapsed => .trace
  | _ => .debug

def source : Diagnostic → String
  | statusUnknown _ => "fiberlink::status"
  | resultUnknown _ => "fiberlink::fiber"
  | outcomeDropped .. => "fiberlink::completion"
  | superseded _ | starting .. | canceledAtResume _ | resuming _ | scriptFailed _
  | scriptSuspended _ | scriptCompleted _ | failingRun .. | noRunToFail ..
  | scriptDisposed _ => "fiberlink::handle"
  | scriptRegistered _ => "fiberlink::registry"
  | bridgeBuilt .. | scriptRaised .. | reporting _ | forwarding .. | waitElapsed =>
    "fiberlink::bridge"
  | systemCommand .. => "fiberlink::system"
  | forwardCompleted | forwardFailed _ => "fiberlink::router"
  | scriptMessage _ => "fiberlink::script"
  | unhandled _ => "fiberlink"
  | scriptCompiled _ | upcallsInstalled | upcallsUninstalled | noBridge .. | upcallPanicked .. =>
    "fiberlink::native"

def message : Diagnostic → String
  | statusUnknown _ => "Unknown native fiber state, treating as terminated"
  | resultUnknown _ => "Unknown native result code"
  | outcomeDropped .. => "Run outcome dropped, nobody awaits the script"
  | superseded _ => "Previous run superseded by restart"
  | starting .. => "Starting script"
  | canceledAtResume _ => "Run canceled at resume"
  | resuming _ => "Resuming script"
  | scriptFailed _ => "Script failed"
  | scriptSuspended _ => "Script suspended"
  | scriptCompleted _ => "Script completed"
  | failingRun .. => "Failing script run"
  | noRunToFail .. => "No pending run to fail"
  | scriptDisposed _ => "Script disposed"
  | scriptRegistered _ => "Script registered"
  | bridgeBuilt .. => "Bridge built"
  | scriptRaised .. => "Script raised an error"
  | reporting _ => "Reporting bridge error"
  | forwarding .. => "Forwarding command"
  | systemCommand .. => "System command"
  | waitElapsed => "Wait elapsed"
  | forwardCompleted => "Forwarded command completed"
  | forwardFailed _ => "Forwarded command failed"
  | scriptMessage message => message
  | unhandled error => error.message
  | scriptCompiled _ => "Script compiled"
  | upcallsInstalled => "Upcalls installed"
  | upcallsUninstalled => "Upcalls uninstalled"
  | noBridge .command _ => "Command upcall with no bridge installed"
  | noBridge .error _ => "Error upcall with no bridge installed"
  | upcallPanicked .command _ => "Panic in command upcall"
  | upcallPanicked .error _ => "Panic in error upcall"

def scriptField (id : ScriptId) : String × FieldValue := ("script_id", .text id.text)

def errorField (error : BridgeError) : String × FieldValue := ("error", .text error.message)

def optionText : Option String → String
  | some s => "Some(" ++ Text.quoted s ++ ")"
  | none => "None"

def fields : Diagnostic → List (String × FieldValue)
  | statusUnknown ordinal => [("ordinal", .int ordinal.toInt)]
  | resultUnknown code => [("code", .int code.toInt)]
  | outcomeDropped id error => [scriptField id, errorField error]
  | starting id status => [scriptField id, ("status", .text status.text)]
  | failingRun id error => [scriptField id, errorField error]
  | noRunToFail id error => [scriptField id, errorField error]
  | superseded id | canceledAtResume id | resuming id | scriptFailed id | scriptSuspended id
  | scriptCompleted id | scriptDisposed id | scriptRegistered id | scriptCompiled id =>
    [scriptField id]
  | bridgeBuilt ns router timers frames =>
    [("namespace", .text (optionText ns)), ("router", .flag router), ("timers", .flag timers),
      ("frames", .flag frames)]
  | scriptRaised id description => [scriptField id, ("error", .text description)]
  | reporting error => [("kind", .text error.kind)]
  | forwarding id command => [scriptField id, ("command", .text command)]
  | systemCommand id command => [scriptField id, ("command", .text command)]
  | forwardFailed message => [("error", .text message)]
  | unhandled error =>
    ("kind", .text error.kind) ::
      (match error.scriptId? with
        | some id => [scriptField id]
        | none => [])
  | noBridge _ id => [("script_id", .int id.value.toInt)]
  | upcallPanicked _ id => [("script_id", .int id.value.toInt)]
  | waitElapsed | forwardCompleted | scriptMessage _ | upcallsInstalled | upcallsUninstalled => []

end Diagnostic

inductive WorkKind where
  | wait
  | forward
deriving DecidableEq, Repr

def WorkKind.text : WorkKind → String
  | wait => "wait"
  | forward => "forward"

structure Scope where
  kind : WorkKind
  id : ScriptId
  command : String
deriving DecidableEq, Repr

end FiberBridge
