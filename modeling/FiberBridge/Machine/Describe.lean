import FiberBridge.Machine.Basic

namespace FiberBridge

def recordText (kind : String) (fields : List (String × String)) : String :=
  kind ++ " \x7b " ++
    String.intercalate ", " (fields.map fun (name, value) => name ++ ": " ++ value) ++ " \x7d"

def flagText (b : Bool) : String := if b then "true" else "false"

def Config.describe (config : Config) : String :=
  recordText "BridgeConfig"
    [("system_namespace", Diagnostic.optionText config.systemNamespace),
      ("resume_after_forward", flagText config.resumeAfterForward)]

def Bridge.describe (bridge : Bridge) (scripts : Nat) : String :=
  recordText "Bridge"
    [("scripts", toString scripts), ("router", flagText bridge.router),
      ("timers", flagText bridge.timers.isSome), ("frames", flagText bridge.frames.isSome),
      ("config", bridge.config.describe)]

def Script.describe (byHandle : Bool) (id : ScriptId) (status : Status) : String :=
  recordText (if byHandle then "ScriptHandle" else "ScriptRef")
    [("id", id.debug), ("status", status.debug)]

end FiberBridge
