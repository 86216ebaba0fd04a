import FiberBridge.Machine.Commands

namespace FiberBridge.Machine

inductive Polled where
  | pending
  | succeeded
  | failed (causes : List String)
deriving DecidableEq, Repr

def hasCome (m : Machine) : Notification → Bool
  | .signal k => m.signals.contains k
  | .frames clock target => (m.clocks.get clock).shows target
  | .sleep _ => false
  | .deadline millis => millis ≤ m.now

-- A sleep begins when it is first looked at, and ends on a whole millisecond.
def begun (m : Machine) : Notification → Notification
  | .sleep d => .deadline (m.now + d.clocked.millisCeil)
  | n => n

def forwardFailed (m : Machine) (t : TaskKey) (message : String) : Machine × Reaction :=
  let task := m.tasks.get t
  let e := BridgeError.forwardedHandler task.command message
  ((m.tell (.forwardFailed message)).fail task.script e).deliver task.bridge (some task.script) e
    (.task t) none

def polled (m : Machine) (t : TaskKey) (p : Polled) : Machine × Reaction :=
  let task := m.tasks.get t
  match p with
  | .pending => m.leaveTask.giveBack (.polled false)
  | .succeeded =>
    let m := m.tell .forwardCompleted
    if (m.bridges.get task.bridge).config.resumeAfterForward then m.resume task.script (.task t)
    else m.finishTask t
  | .failed causes => m.forwardFailed t (String.intercalate ": " causes)

def pollTask (m : Machine) (t : TaskKey) : Machine × Reaction :=
  let task := m.tasks.get t
  if task.finished then m.giveBack (.polled true)
  else
    let m := m.enterTask t
    match task.work with
    | .forward future => m.ask (.poll t future) (.polling t)
    | .wait n =>
      let n := m.begun n
      let m := m.setTask t fun task => { task with work := .wait n }
      if m.hasCome n then (m.tell .waitElapsed).resume task.script (.task t)
      else m.leaveTask.giveBack (.polled false)

end FiberBridge.Machine
