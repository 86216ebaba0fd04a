import FiberBridge.Machine.Basic

namespace FiberBridge

def Frame.holdsScript (s : ScriptKey) : Frame → Bool
  | .starting s' _ => s' = s
  | .resuming s' _ => s' = s
  | .disposing s' _ => s' = s
  | .refusing _ s' => s' = s
  | .releasing _ => false
  | .decoding c _ => c.script = s
  | .shaping s' _ _ => s' = s
  | .logging c => c.script = s
  | .reporting _ s' _ _ => s' = some s
  | .scheduling c => c.script = s
  | .routing c => c.script = s
  | .polling _ => false

-- Is the handle of `s` in use by this frame? Its owner cannot let go of it meanwhile.
def Frame.borrowsHandle (s : ScriptKey) : Frame → Bool
  | .starting s' _ => s' = s
  | .resuming s' (.host true) => s' = s
  | .disposing s' false => s' = s
  | _ => false

def Origin.task? : Origin → Option TaskKey
  | .task t => some t
  | .host => none
  | .upcall _ _ => none

def Resumer.task? : Resumer → Option TaskKey
  | .host _ => none
  | .command c => c.origin.task?
  | .task t => some t

def Frame.task? : Frame → Option TaskKey
  | .resuming _ who => who.task?
  | .decoding c _ => c.origin.task?
  | .logging c => c.origin.task?
  | .reporting _ _ origin _ => origin.task?
  | .scheduling c => c.origin.task?
  | .routing c => c.origin.task?
  | .polling t => some t
  | _ => none

def Frame.holdsSignal (k : SignalKey) : Frame → Bool
  | .reporting _ _ _ (some (.signal k')) => k' = k
  | _ => false

def Task.holdsSignal (k : SignalKey) (t : Task) : Bool :=
  !t.finished && t.work = .wait (.signal k)

namespace Machine

def scriptHeld (m : Machine) (s : ScriptKey) : Bool :=
  let script := m.scripts.get s
  script.owned || 0 < script.refs || m.stack.any (Frame.holdsScript s) ||
    m.tasks.any fun t => !t.finished && t.script = s

-- Task `t` is being run: it is polled, or what it began is under way.
def running (m : Machine) (t : TaskKey) : Bool := m.stack.any fun frame => frame.task? = some t

def signalHeld (m : Machine) (k : SignalKey) : Bool :=
  m.stack.any (Frame.holdsSignal k) || m.tasks.any (Task.holdsSignal k)

def contextHeld (m : Machine) (c : ContextKey) : Bool :=
  (m.contexts.get c).held || m.fibers.any fun f => f.context = some c && !f.gone

-- The last holder of a script is gone: nothing settles its run any more, and its fiber goes.
def freeScript (m : Machine) (s : ScriptKey) : Machine :=
  let script := m.scripts.get s
  let m := m.setScript s fun script => { script with freed := true }
  let m := m.setFiber script.fiber fun fiber => { fiber with gone := true }
  match script.run with
  | some r => m.setRun r fun run => { run with abandoned := true }
  | none => m

def sweepScript (m : Machine) (s : ScriptKey) : Machine :=
  if (m.scripts.get s).freed || m.scriptHeld s then m else m.freeScript s

def sweepContext (m : Machine) (c : ContextKey) : Machine :=
  if (m.contexts.get c).disposed || m.contextHeld c then m
  else
    { m with contexts := m.contexts.update c fun context => { context with disposed := true } }.log
      (.native (.contextDispose c))

def sweep (m : Machine) : Machine :=
  let m := m.scripts.keys.foldl sweepScript m
  m.contexts.keys.foldl sweepContext m

end Machine

end FiberBridge
