import FiberBridge.Fiber

namespace FiberBridge

inductive BridgeError where
  | invalidState (id : ScriptId) (status : Status)
  | useAfterDispose (id : ScriptId)
  | scriptExecution (message : String)
  | unrouteable (id : ScriptId) (detail : String)
  | notSupported (command reason : String)
  | forwardedHandler (command message : String)
  | canceled
  | duplicateScript (id : ScriptId)
  | codec (command message : String)
  | config (message : String)
deriving DecidableEq, Repr, Inhabited

namespace BridgeError

def kind : BridgeError → String
  | invalidState .. => "InvalidState"
  | useAfterDispose _ => "UseAfterDispose"
  | scriptExecution _ => "ScriptExecution"
  | unrouteable .. => "Unrouteable"
  | notSupported .. => "NotSupported"
  | forwardedHandler .. => "ForwardedHandler"
  | canceled => "Canceled"
  | duplicateScript _ => "DuplicateScript"
  | codec .. => "Codec"
  | config _ => "Config"

def message : BridgeError → String
  | invalidState id status => "Script " ++ id.text ++ " cannot start while " ++ status.text
  | useAfterDispose id => "Script " ++ id.text ++ " is already disposed"
  | scriptExecution message => "Script error: " ++ message
  | unrouteable id detail => "Unrouteable upcall for script " ++ id.text ++ ": " ++ detail
  | notSupported command reason => command ++ " is not supported: " ++ reason
  | forwardedHandler command message => "Command `" ++ command ++ "` failed: " ++ message
  | canceled => "Script run was canceled"
  | duplicateScript id => "Script " ++ id.text ++ " is already registered"
  | codec command message => "Codec error in `" ++ command ++ "`: " ++ message
  | config message => "Configuration error: " ++ message

def scriptId? : BridgeError → Option ScriptId
  | invalidState id _ => some id
  | useAfterDispose id => some id
  | unrouteable id _ => some id
  | duplicateScript id => some id
  | _ => none

def isCanceled : BridgeError → Bool
  | canceled => true
  | _ => false

end BridgeError

end FiberBridge
