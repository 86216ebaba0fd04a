import FiberBridge.Machine.Step

namespace FiberBridge

def Bridge.refusal? (bridge : Bridge) (name : ByteArray) (ambient : Bool) : Option BridgeError :=
  match bridge.config.reserved? name with
  | some _ => none
  | none =>
    match Utf8.read name with
    | .error fault =>
      some (.codec (Utf8.lossy name) ("command name is not UTF-8: " ++ fault.message))
    | .ok name =>
      if !bridge.router then some (.notSupported name Machine.noRouter)
      else if bridge.runtime || ambient then none
      else some (.notSupported name Machine.noRuntime)

namespace Machine

def startFate (m : Machine) (s : ScriptKey) (token : Option TokenKey) :
    List (ScriptKey × Milestone) :=
  let script := m.scripts.get s
  if !script.disposed && (Status.ofOrdinal (m.fibers.get script.fiber).ordinal).startable then
    [(s, .armed m.runs.size (m.isCanceled token))]
  else []

def resumeFate (m : Machine) (s : ScriptKey) : List (ScriptKey × Milestone) :=
  if (m.scripts.get s).disposed then [] else [(s, .entered (m.tokenCanceled s))]

def commandFate (m : Machine) (b : BridgeKey) (id : ScriptId) (name : ByteArray) (ambient : Bool) :
    List (ScriptKey × Milestone) :=
  match m.find? b id, (m.bridges.get b).refusal? name ambient with
  | some s, some e => [(s, .failed e)]
  | _, _ => []

def raiseFate (m : Machine) (b : BridgeKey) (id : ScriptId) (description : String) :
    List (ScriptKey × Milestone) :=
  match m.find? b id with
  | some s => [(s, .failed (.scriptExecution description))]
  | none => []

def waitFate (m : Machine) (t : TaskKey) : List (ScriptKey × Milestone) :=
  let task := m.tasks.get t
  match task.finished, task.work with
  | false, .wait n => if m.hasCome (m.begun n) then m.resumeFate task.script else []
  | _, _ => []

def opFate (m : Machine) : Op → List (ScriptKey × Milestone)
  | .start s token => m.startFate s token
  | .resume s _ => m.resumeFate s
  | .fail s e => [(s, .failed e)]
  | .command b id name _ ambient => m.commandFate b id name ambient
  | .error b id description => m.raiseFate b id description
  | .commandUpcall id name length _ ambient =>
    match m.target.filter m.bridgeAlive with
    | some b => m.commandFate b id (nativeName name length) ambient
    | none => []
  | .errorUpcall id description =>
    match m.target.filter m.bridgeAlive with
    | some b => m.raiseFate b id (nativeText description)
    | none => []
  | .pollTask t => m.waitFate t
  | _ => []

def replyFate (m : Machine) : Frame → Reply → List (ScriptKey × Milestone)
  | .starting s _, .code code =>
    [(s, .returned true (CallResult.ofCode code) (m.tokenCanceled s))]
  | .resuming s _, .code code =>
    [(s, .returned false (CallResult.ofCode code) (m.tokenCanceled s))]
  | .disposing s _, .done => [(s, .torn)]
  | .decoding c .log, .decoded d =>
    match shapeOf c.name d Json.asText, (m.bridges.get c.bridge).log with
    | .ok _, .builtIn => m.resumeFate c.script
    | _, _ => []
  | .logging c, .done => m.resumeFate c.script
  | .polling t, .polled .succeeded =>
    let task := m.tasks.get t
    if (m.bridges.get task.bridge).config.resumeAfterForward then m.resumeFate task.script else []
  | .polling t, .polled (.failed causes) =>
    let task := m.tasks.get t
    [(task.script, .failed (.forwardedHandler task.command (String.intercalate ": " causes)))]
  | _, _ => []

def unwindFate (m : Machine) (p : Panic) : Frame → List (ScriptKey × Milestone)
  | .routing c => [(c.script, .failed (.forwardedHandler c.name p.message))]
  | .polling t =>
    let task := m.tasks.get t
    [(task.script, .failed (.forwardedHandler task.command p.message))]
  | _ => []

-- What a move decides about scripts, in order.
def fate (m : Machine) : Move → List (ScriptKey × Milestone)
  | .invoke op => m.opFate op
  | .answer reply =>
    match m.stack with
    | [] => []
    | frame :: _ => m.replyFate frame reply
  | .unwind p =>
    match m.stack with
    | [] => []
    | frame :: _ => m.unwindFate p frame

end Machine

end FiberBridge
