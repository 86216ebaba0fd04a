import FiberBridge.Machine.Upcalls

namespace FiberBridge

structure Setup where
  config : Config := {}
  codec : Bool := true
  router : Bool := false
  timers : Option Timers := none
  frames : Option FrameSource := none
  runtime : Bool := false
  log : Handler := .builtIn
  error : Handler := .builtIn

inductive Op where
  | build (setup : Setup)
  | cloneBridge (b : BridgeKey)
  | dropBridge (b : BridgeKey)
  | setLog (b : BridgeKey) (h : Handler)
  | setError (b : BridgeKey) (h : Handler)
  | report (b : BridgeKey) (e : BridgeError)
  | lookup (b : BridgeKey) (id : ScriptId)
  | count (b : BridgeKey)
  | command (b : BridgeKey) (id : ScriptId) (name : ByteArray) (word : Word) (ambient : Bool)
  | error (b : BridgeKey) (id : ScriptId) (description : String)
  | makeFiber (id : ScriptId) (ordinal : Int32)
  | setOrdinal (f : FiberKey) (ordinal : Int32)
  | register (b : BridgeKey) (f : FiberKey)
  | start (s : ScriptKey) (token : Option TokenKey)
  | resume (s : ScriptKey) (byHandle : Bool)
  | status (s : ScriptKey)
  | describe (s : ScriptKey)
  | fail (s : ScriptKey) (e : BridgeError)
  | dispose (s : ScriptKey)
  | dropHandle (s : ScriptKey)
  | makeRef (s : ScriptKey)
  | dropRef (s : ScriptKey)
  | dropRun (r : RunKey)
  | cancel (t : TokenKey)
  | decode (s : ScriptKey) (command : String) (word : Word) (shape : Shape)
  | makeClock
  | advanceClock (c : ClockKey) (frames : Nat)
  | dropClock (c : ClockKey)
  | complete (k : SignalKey)
  | elapse (millis : Nat)
  | pollTask (t : TaskKey)
  | newContext (available : Bool)
  | dropContext (c : ContextKey)
  | compile (c : ContextKey) (length : Nat) (made : Option (ScriptId × Int32))
  | dropFiber (f : FiberKey)
  | install (b : BridgeKey)
  | uninstall
  | commandUpcall (id : ScriptId) (name : Option ByteArray) (length : Int32) (word : Word)
      (ambient : Bool)
  | errorUpcall (id : ScriptId) (description : Option ByteArray)

inductive Reply where
  | done
  | code (code : Int32)
  | decoded (d : Decoding)
  | notification (n : Notification)
  | future (f : FutureKey)
  | polled (p : Machine.Polled)

namespace Machine

def initial : Machine := {}

def build (m : Machine) (setup : Setup) : Machine × Reaction :=
  if setup.codec then
    let m := m.tell
      (.bridgeBuilt setup.config.systemNamespace setup.router setup.timers.isSome
        setup.frames.isSome)
    let bridge : Bridge :=
      { config := setup.config, router := setup.router, timers := setup.timers,
        frames := setup.frames, runtime := setup.runtime, log := setup.log, error := setup.error,
        clones := 1 }
    { m with bridges := m.bridges.add bridge }.giveBack (.keyed (.ok m.bridges.size))
  else m.giveBack (.keyed (.error (.config "a value codec is required")))

def launch (m : Machine) : Op → Machine × Reaction
  | .build setup => m.build setup
  | .cloneBridge b =>
    (m.setBridge b fun bridge => { bridge with clones := bridge.clones + 1 }).giveBack .done
  | .dropBridge b =>
    (m.setBridge b fun bridge => { bridge with clones := bridge.clones - 1 }).giveBack .done
  | .setLog b h => (m.setLogHandler b h).giveBack .done
  | .setError b h => (m.setErrorHandler b h).giveBack .done
  | .report b e => m.report b none e .host none
  | .lookup b id =>
    let (m, found) := m.lookup b id
    match found with
    | some s => m.giveBack (.keyed (.ok s))
    | none => m.giveBack (.keyed (.error (.unrouteable id "script is not registered")))
  | .count b =>
    let m := m.lock (.registry b)
    (m.unlock (.registry b)).giveBack (.counted (m.bridges.get b).registry.size)
  | .command b id name word ambient => m.command b id name word ambient .host
  | .error b id description => m.raise b id description .host
  | .makeFiber id ordinal =>
    { m with fibers := m.fibers.add { id, ordinal, held := true } }.giveBack (.made m.fibers.size)
  | .setOrdinal f ordinal => (m.setFiber f fun fiber => { fiber with ordinal }).giveBack .done
  | .register b f => m.register b f
  | .start s token => m.start s token
  | .resume s byHandle => m.resume s (.host byHandle)
  | .status s =>
    let (m, status) := m.status s
    m.giveBack (.status status)
  | .describe s =>
    let (m, status) := m.status s
    m.giveBack (.described (match status with
      | .ok status => status
      | .error _ => .disposed))
  | .fail s e => (m.fail s e).giveBack .done
  | .dispose s => m.dispose s false
  | .dropHandle s => m.dropHandle s
  | .makeRef s =>
    (m.setScript s fun script => { script with refs := script.refs + 1 }).giveBack .done
  | .dropRef s =>
    (m.setScript s fun script => { script with refs := script.refs - 1 }).giveBack .done
  | .dropRun r => (m.setRun r fun run => { run with awaited := false }).giveBack .done
  | .cancel t => { m with canceled := t :: m.canceled }.giveBack .done
  | .decode s command word shape => m.ask (.decode word s) (.shaping s command shape)
  | .makeClock => { m with clocks := m.clocks.add { held := true } }.giveBack (.made m.clocks.size)
  | .advanceClock c frames =>
    let clocks := m.clocks.update c (FrameClock.advance · frames)
    { m with clocks }.giveBack (.counted (clocks.get c).shown)
  | .dropClock c => { m with clocks := m.clocks.update c FrameClock.letGo }.giveBack .done
  | .complete k => { m with signals := k :: m.signals }.giveBack .done
  | .elapse millis => { m with now := m.now + millis }.giveBack .done
  | .pollTask t => m.pollTask t
  | .newContext available => m.newContext available
  | .dropContext c =>
    { m with contexts := m.contexts.update c fun context => { context with held := false } }.giveBack
      .done
  | .compile c length made => m.compile c length made
  | .dropFiber f => m.dropFiber f
  | .install b => (m.install b).giveBack .done
  | .uninstall => m.uninstall.giveBack .done
  | .commandUpcall id name length word ambient => m.commandUpcall id name length word ambient
  | .errorUpcall id description => m.errorUpcall id description

-- The rest of an operation, after its frame is taken off the stack. None if the answer is not one
-- to the call that was made.
def continue? (m : Machine) : Frame → Reply → Option (Machine × Reaction)
  | .starting s r, .code code => some (m.started s r code)
  | .resuming s who, .code code => some (m.resumed s who code)
  | .disposing s _, .done => some (m.disposed s)
  | .refusing _ s, .done => some (m.refused s)
  | .releasing f, .done => some ((m.releasedFiber f).giveBack .done)
  | .decoding c k, .decoded d => some (m.decoded c k d)
  | .shaping _ command shape, .decoded d =>
    some (m.giveBack (.shaped (shapeOf command d shape.of)))
  | .logging c, .done => some (m.resume c.script (.command c))
  | .reporting _ _ origin _, .done => some (m.complete origin)
  | .scheduling c, .notification n => some (m.resumeWhen c n)
  | .routing c, .future f => some (m.routed c f)
  | .polling t, .polled p => some (m.polled t p)
  | _, _ => none

def recover (m : Machine) (p : Panic) : Frame → Machine × Reaction
  | .starting _ r => (m.setRun r fun run => { run with awaited := false }, .panicked p)
  | .resuming _ who =>
    match who with
    | .host _ => (m, .panicked p)
    | .command c => m.abort c.origin p
    | .task t => m.finishTask t
  | .disposing _ _ => (m, .panicked p)
  | .refusing _ _ => (m, .panicked p)
  | .releasing f => (m.releasedFiber f, .panicked p)
  | .decoding c _ => m.abort c.origin p
  | .shaping _ _ _ => (m, .panicked p)
  | .logging c => m.abort c.origin p
  | .reporting _ _ origin _ => m.abort origin p
  | .scheduling c => m.abort c.origin p
  | .routing c => m.routePanicked c p
  | .polling t => m.forwardFailed t p.message

def swept (r : Machine × Reaction) : Machine × Reaction := (r.1.sweep, r.2)

def invoke (m : Machine) (op : Op) : Machine × Reaction := swept (m.launch op)

def answer? (m : Machine) (reply : Reply) : Option (Machine × Reaction) :=
  match m.stack with
  | [] => none
  | frame :: rest => ({ m with stack := rest }.continue? frame reply).map swept

def unwind? (m : Machine) (p : Panic) : Option (Machine × Reaction) :=
  match m.stack with
  | [] => none
  | frame :: rest => some (swept ({ m with stack := rest }.recover p frame))

-- What the host may begin, by what it holds. A runtime may poll a task at any time, also from inside
-- a callback, but for the tasks it is running already.
def Admits (m : Machine) : Op → Prop
  | .cloneBridge b | .dropBridge b | .setLog b _ | .setError b _ | .report b _ | .lookup b _
  | .count b | .command b .. | .error b .. | .install b => m.bridgeAlive b
  | .register b f =>
    m.bridgeAlive b ∧ (m.fibers.get f).held ∧ f < m.fibers.size
  | .start s _ | .dispose s | .resume s true => (m.scripts.get s).owned
  | .resume s false => 0 < (m.scripts.get s).refs
  | .status s | .describe s | .fail s _ | .makeRef s | .decode s .. => m.scriptHeld s
  | .dropHandle s => (m.scripts.get s).owned ∧ ¬ m.stack.any (Frame.borrowsHandle s)
  | .dropRef s => 0 < (m.scripts.get s).refs
  | .dropRun r => (m.runs.get r).awaited ∧ r < m.runs.size
  | .advanceClock c _ | .dropClock c => (m.clocks.get c).held
  | .pollTask t => ¬ m.running t ∧ t < m.tasks.size
  | .dropContext c | .compile c .. => (m.contexts.get c).held
  | .dropFiber f => (m.fibers.get f).held
  | .commandUpcall .. | .errorUpcall .. => m.callbacks
  | _ => True

inductive Move where
  | invoke (op : Op)
  | answer (reply : Reply)
  | unwind (p : Panic)

inductive Step : Machine → Move → Machine → Reaction → Prop where
  | invoke {m next : Machine} {op : Op} {r : Reaction} (admitted : m.Admits op)
      (ran : m.invoke op = (next, r)) : Step m (.invoke op) next r
  | answer {m next : Machine} {reply : Reply} {r : Reaction}
      (ran : m.answer? reply = some (next, r)) : Step m (.answer reply) next r
  | unwind {m next : Machine} {p : Panic} {r : Reaction}
      (ran : m.unwind? p = some (next, r)) : Step m (.unwind p) next r

inductive Reachable : Machine → Prop where
  | initial : Reachable initial
  | step {m next : Machine} {move : Move} {r : Reaction} :
      Reachable m → Step m move next r → Reachable next

end Machine

end FiberBridge
