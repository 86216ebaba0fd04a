import FiberBridge.Machine.Basic

namespace FiberBridge.Machine

-- How a run looks to the one who awaits it; none while it is pending. The settling end goes away
-- unsettled only with a script that was disposed.
def outcome? (m : Machine) (r : RunKey) : Option Outcome :=
  let run := m.runs.get r
  match run.outcome with
  | some o => some o
  | none => if run.abandoned then some (.error (.useAfterDispose run.id)) else none

def isSettled (m : Machine) (r : RunKey) : Bool := (m.runs.get r).outcome.isSome

def settle (m : Machine) (r : RunKey) (o : Outcome) : Machine :=
  if m.isSettled r then m
  else
    let run := m.runs.get r
    let m := m.setRun r fun run => { run with outcome := some o }
    match o with
    | .error e => if run.awaited then m else m.tell (.outcomeDropped run.id e)
    | .ok () => m

def settleTelling (m : Machine) (r : RunKey) (o : Outcome) (d : Diagnostic) : Machine :=
  if m.isSettled r then m else (m.settle r o).tell d

def settleCurrent (m : Machine) (s : ScriptKey) (o : Outcome) (d : Diagnostic) : Machine :=
  match (m.scripts.get s).run with
  | some r => m.settleTelling r o d
  | none => m

def tokenCanceled (m : Machine) (s : ScriptKey) : Bool := m.isCanceled (m.scripts.get s).token

-- Makes a new run the current one of `s`. It is canceled at once if its token is; the run before it
-- is canceled if it is still pending.
def arm (m : Machine) (s : ScriptKey) (token : Option TokenKey) : Machine × RunKey :=
  let m := m.lock (.run s)
  let r := m.runs.size
  let canceled := m.isCanceled token
  let id := m.idOf s
  let m := { m with runs := m.runs.add { script := s, id } }
  let m := m.mark s (.armed r canceled)
  let m := if canceled then m.settle r (.error .canceled) else m
  let m := m.settleCurrent s (.error .canceled) (.superseded id)
  let m := m.setScript s fun script => { script with run := some r, token }
  (m.unlock (.run s), r)

def enter (m : Machine) (s : ScriptKey) : Machine :=
  let m := m.lock (.run s)
  let canceled := m.tokenCanceled s
  let m := m.mark s (.entered canceled)
  let m := if canceled then m.settleCurrent s (.error .canceled) (.canceledAtResume (m.idOf s)) else m
  m.unlock (.run s)

-- A native call on `s` came back. The current run is settled by it, canceled first if its token was
-- canceled.
def settleAfter (m : Machine) (s : ScriptKey) (wasStart : Bool) (result : CallResult) : Machine :=
  let m := m.lock (.run s)
  let canceled := m.tokenCanceled s
  let id := m.idOf s
  let m := m.mark s (.returned wasStart result canceled)
  let m :=
    match (m.scripts.get s).run with
    | none => m
    | some r =>
      let m := if canceled then m.settle r (.error .canceled) else m
      match result with
      | .error =>
        let message := if wasStart then "failed to start script" else "unknown error"
        m.settleTelling r (.error (.scriptExecution message)) (.scriptFailed id)
      | .yielded => m.tell (.scriptSuspended id)
      | .done => m.settleTelling r (.ok ()) (.scriptCompleted id)
  m.unlock (.run s)

def fail (m : Machine) (s : ScriptKey) (e : BridgeError) : Machine :=
  let m := m.lock (.run s)
  let id := m.idOf s
  let m := m.mark s (.failed e)
  let m :=
    match (m.scripts.get s).run with
    | some r =>
      if m.isSettled r then m.tell (.noRunToFail id e)
      else (m.tell (.failingRun id e)).settle r (.error e)
    | none => m.tell (.noRunToFail id e)
  m.unlock (.run s)

def tear (m : Machine) (s : ScriptKey) : Machine :=
  let m := m.lock (.run s)
  let m := m.mark s .torn
  let m :=
    match (m.scripts.get s).run with
    | some r => m.settle r (.error (.useAfterDispose (m.idOf s)))
    | none => m
  m.unlock (.run s)

end FiberBridge.Machine
