import FiberBridge.Machine.Holders
import FiberBridge.Machine.Runs

namespace FiberBridge.Machine

def finishTask (m : Machine) (t : TaskKey) : Machine × Reaction :=
  (m.setTask t fun task => { task with finished := true }).leaveTask.giveBack (.polled true)

def complete (m : Machine) (origin : Origin) : Machine × Reaction :=
  match origin with
  | .host => m.giveBack .done
  | .upcall .. => m.giveBack .done
  | .task t => m.finishTask t

-- Host code unwinds out of a command or report. A callback of the native side and a task end there;
-- what only the callback held has gone away when its end is told.
def abort (m : Machine) (origin : Origin) (p : Panic) : Machine × Reaction :=
  match origin with
  | .host => (m, .panicked p)
  | .upcall kind id => (m.sweep.tell (.upcallPanicked kind id)).giveBack .done
  | .task t => m.finishTask t

def errorHandler (m : Machine) (b : BridgeKey) : Machine × Handler :=
  let m := m.lock (.errorHandler b)
  (m.unlock (.errorHandler b), (m.bridges.get b).error)

def logHandler (m : Machine) (b : BridgeKey) : Machine × Handler :=
  let m := m.lock (.logHandler b)
  (m.unlock (.logHandler b), (m.bridges.get b).log)

def setErrorHandler (m : Machine) (b : BridgeKey) (h : Handler) : Machine :=
  let m := m.lock (.errorHandler b)
  (m.setBridge b fun bridge => { bridge with error := h }).unlock (.errorHandler b)

def setLogHandler (m : Machine) (b : BridgeKey) (h : Handler) : Machine :=
  let m := m.lock (.logHandler b)
  (m.setBridge b fun bridge => { bridge with log := h }).unlock (.logHandler b)

-- Gives an error to the error handler of `b`. The script `s` and `kept` live until it is done.
def deliver (m : Machine) (b : BridgeKey) (s : Option ScriptKey) (e : BridgeError) (origin : Origin)
    (kept : Option Notification) : Machine × Reaction :=
  let (m, handler) := m.errorHandler b
  match handler with
  | .builtIn => (m.tell (.unhandled e)).complete origin
  | .host h => m.ask (.error h e) (.reporting b s origin kept)

def report (m : Machine) (b : BridgeKey) (s : Option ScriptKey) (e : BridgeError) (origin : Origin)
    (kept : Option Notification) : Machine × Reaction :=
  (m.tell (.reporting e)).deliver b s e origin kept

def failAndReport (m : Machine) (c : Service) (e : BridgeError) : Machine × Reaction :=
  (m.fail c.script e).report c.bridge (some c.script) e c.origin none

def refuseCommand (m : Machine) (c : Service) (e : BridgeError) : Machine × Reaction :=
  m.report c.bridge (some c.script) e c.origin none

end FiberBridge.Machine
