import FiberBridge.Proofs.Moves

namespace FiberBridge

inductive Act where
  | deed (d : Deed)
  -- An error, or a script's message, for which the host set no handler.
  | unhandled (e : BridgeError)
  | message (text : String)
deriving DecidableEq

def Diagnostic.act? : Diagnostic → Option Act
  | .unhandled e => some (.unhandled e)
  | .scriptMessage text => some (.message text)
  | _ => none

def Event.act? : Event → Option Act
  | .told d _ => d.act?
  | .called q _ => some (.deed (.called q))
  | .read f ordinal => some (.deed (.read f ordinal))
  | .script s x => some (.deed (.marked s x))
  | .native _ => none

inductive Edit where
  | left (task : Task)
  | begun (t : TaskKey) (n : Notification)
  | closed (t : TaskKey)

def Edit.apply (tasks : Slots Task) : Edit → Slots Task
  | left task => tasks.add task
  | begun t n => tasks.update t fun task => { task with work := .wait n }
  | closed t => tasks.update t fun task => { task with finished := true }

-- The task that an edit is about; none for one that is new.
def Edit.task? : Edit → Option TaskKey
  | left _ => none
  | begun t _ => some t
  | closed t => some t

def close? (t : Option TaskKey) : List Edit := (t.map Edit.closed).toList

structure Turn where
  -- What is done before control goes back, newest first.
  before : List Act := []
  -- The call to the host, and the operation that waits for it. None if control goes back by itself.
  asks : Option (HostCall × Frame) := none
  -- Oldest first.
  edits : List Edit := []

namespace Turn

def acts (turn : Turn) : List Act :=
  (turn.asks.map fun call => Act.deed (.called call.1)).toList ++ turn.before

def following (turn : Turn) (earlier : List Act) : Turn :=
  { turn with before := turn.before ++ earlier }

end Turn

namespace Machine

def acts (m : Machine) : List Act := m.events.filterMap Event.act?

def delivery (m : Machine) (b : BridgeKey) (e : BridgeError) : Act :=
  match (m.bridges.get b).error with
  | .builtIn => .unhandled e
  | .host h => .deed (.called (.error h e))

def deliverTurn (m : Machine) (b : BridgeKey) (told : Option ScriptKey) (e : BridgeError)
    (origin : Origin) (kept : Option Notification) : Turn :=
  match (m.bridges.get b).error with
  | .builtIn => { before := [.unhandled e], edits := close? origin.task? }
  | .host h => { asks := some (.error h e, .reporting b told origin kept) }

def refuseTurn (m : Machine) (c : Service) (e : BridgeError) : Turn :=
  m.deliverTurn c.bridge (some c.script) e c.origin none

-- A command of `s` fails for good: its run first, then the error handler of `b`.
def failureTurn (m : Machine) (b : BridgeKey) (s : ScriptKey) (e : BridgeError) (origin : Origin) :
    Turn :=
  (m.deliverTurn b (some s) e origin none).following [.deed (.marked s (.failed e))]

def failTurn (m : Machine) (c : Service) (e : BridgeError) : Turn :=
  m.failureTurn c.bridge c.script e c.origin

def registerTurn (m : Machine) (b : BridgeKey) (f : FiberKey) : Turn :=
  match m.rival? b f with
  | some _ => { asks := some (.dispose f, .refusing b m.scripts.size) }
  | none => {}

def statusTurn (m : Machine) (s : ScriptKey) : Turn :=
  let script := m.scripts.get s
  if script.disposed then {}
  else { before := [.deed (.read script.fiber (m.fibers.get script.fiber).ordinal)] }

def startTurn (m : Machine) (s : ScriptKey) (token : Option TokenKey) : Turn :=
  let script := m.scripts.get s
  let ordinal := (m.fibers.get script.fiber).ordinal
  if !script.disposed && (Status.ofOrdinal ordinal).startable then
    { before := [.deed (.marked s (.armed m.runs.size (m.isCanceled token))),
        .deed (.read script.fiber ordinal)]
      asks := some (.start script.fiber, .starting s m.runs.size) }
  else m.statusTurn s

def resumeTurn (m : Machine) (s : ScriptKey) (who : Resumer) : Turn :=
  let script := m.scripts.get s
  if script.disposed then
    match who with
    | .host _ => {}
    | .command c => m.refuseTurn c (.useAfterDispose script.id)
    | .task t =>
      m.deliverTurn (m.tasks.get t).bridge (some s) (.useAfterDispose script.id) (.task t) none
  else
    { before := [.deed (.marked s (.entered (m.tokenCanceled s)))]
      asks := some (.resume script.fiber, .resuming s who) }

def disposeTurn (m : Machine) (s : ScriptKey) (dropped : Bool) : Turn :=
  let script := m.scripts.get s
  if script.disposed then {}
  else { asks := some (.dispose script.fiber, .disposing s dropped) }

def leaveTurn (c : Service) (work : Work) : Turn :=
  let task : Task :=
    { bridge := c.bridge, script := c.script, command := c.name, work, finished := false }
  { edits := .left task :: close? c.origin.task? }

def waitTurn (m : Machine) (c : Service) (n : Notification) : Turn :=
  if m.runtimeFor c then leaveTurn c (.wait n)
  else m.deliverTurn c.bridge (some c.script) (.notSupported c.name noRuntime) c.origin (some n)

def serveTurn (m : Machine) (c : Service) (k : SystemCommand) : Turn :=
  match m.lacking? c k with
  | some reason => m.refuseTurn c (.notSupported c.name reason)
  | none => { asks := some (.decode c.word c.script, .decoding c k) }

def logTurn (m : Machine) (c : Service) (message : String) : Turn :=
  match (m.bridges.get c.bridge).log with
  | .builtIn => (m.resumeTurn c.script (.command c)).following [.message message]
  | .host h => { asks := some (.log h message, .logging c) }

def secondsTurn (m : Machine) (c : Service) (seconds : Double) : Turn :=
  match Duration.ofSeconds seconds with
  | .error fault =>
    m.refuseTurn c (.codec c.name
      ("invalid duration " ++ Layout.plain.write seconds ++ ": " ++ fault.message))
  | .ok d =>
    match (m.bridges.get c.bridge).timers with
    | some .runtime => m.waitTurn c (.sleep d)
    | _ => { asks := some (.after c.bridge d, .scheduling c) }

def framesTurn (m : Machine) (c : Service) (count : UInt32) : Turn :=
  match (m.bridges.get c.bridge).frames with
  | some (.clock clock) => m.waitTurn c (.frames clock ((m.clocks.get clock).target count))
  | _ => { asks := some (.afterFrames c.bridge count, .scheduling c) }

def decodedTurn (m : Machine) (c : Service) (k : SystemCommand) (d : Decoding) : Turn :=
  match k with
  | .log =>
    match shapeOf c.name d Json.asText with
    | .error e => m.refuseTurn c e
    | .ok message => m.logTurn c message
  | .waitSecs =>
    match shapeOf c.name d Json.asNumber with
    | .error e => m.refuseTurn c e
    | .ok seconds => m.secondsTurn c seconds
  | .waitFrames =>
    match shapeOf c.name d Json.asCount with
    | .error e => m.refuseTurn c e
    | .ok count => m.framesTurn c count

def forwardTurn (m : Machine) (b : BridgeKey) (s : ScriptKey) (name : ByteArray) (word : Word)
    (ambient : Bool) (origin : Origin) : Turn :=
  match Utf8.read name with
  | .error fault =>
    m.failTurn ⟨b, s, Utf8.lossy name, word, ambient, origin⟩
      (.codec (Utf8.lossy name) ("command name is not UTF-8: " ++ fault.message))
  | .ok text =>
    let c : Service := ⟨b, s, text, word, ambient, origin⟩
    if !(m.bridges.get b).router then m.failTurn c (.notSupported text noRouter)
    else if m.runtimeFor c then { asks := some (.route b s text word, .routing c) }
    else m.failTurn c (.notSupported text noRuntime)

def commandTurn (m : Machine) (b : BridgeKey) (id : ScriptId) (name : ByteArray) (word : Word)
    (ambient : Bool) (origin : Origin) : Turn :=
  match m.find? b id with
  | none =>
    m.deliverTurn b none (.unrouteable id ("command `" ++ Utf8.lossy name ++ "`")) origin none
  | some s =>
    let config := (m.bridges.get b).config
    match config.reserved? name with
    | some k => m.serveTurn ⟨b, s, config.reservedName k, word, ambient, origin⟩ k
    | none => m.forwardTurn b s name word ambient origin

def raiseTurn (m : Machine) (b : BridgeKey) (id : ScriptId) (description : String)
    (origin : Origin) : Turn :=
  match m.find? b id with
  | some s =>
    { before := [.deed (.marked s (.failed (.scriptExecution description)))]
      edits := close? origin.task? }
  | none => m.deliverTurn b none (.unrouteable id description) origin none

def failedTurn (m : Machine) (t : TaskKey) (message : String) : Turn :=
  let task := m.tasks.get t
  m.failureTurn task.bridge task.script (.forwardedHandler task.command message) (.task t)

def polledTurn (m : Machine) (t : TaskKey) (p : Polled) : Turn :=
  let task := m.tasks.get t
  match p with
  | .pending => {}
  | .succeeded =>
    if (m.bridges.get task.bridge).config.resumeAfterForward then m.resumeTurn task.script (.task t)
    else { edits := [.closed t] }
  | .failed causes => m.failedTurn t (String.intercalate ": " causes)

def pollTurn (m : Machine) (t : TaskKey) : Turn :=
  let task := m.tasks.get t
  if task.finished then {}
  else
    match task.work with
    | .forward future => { asks := some (.poll t future, .polling t) }
    | .wait n =>
      let turn : Turn :=
        if m.hasCome (m.begun n) then m.resumeTurn task.script (.task t) else {}
      { turn with edits := .begun t (m.begun n) :: turn.edits }

def opTurn (m : Machine) : Op → Turn
  | .report b e => m.deliverTurn b none e .host none
  | .command b id name word ambient => m.commandTurn b id name word ambient .host
  | .error b id description => m.raiseTurn b id description .host
  | .register b f => m.registerTurn b f
  | .start s token => m.startTurn s token
  | .resume s byHandle => m.resumeTurn s (.host byHandle)
  | .status s => m.statusTurn s
  | .describe s => m.statusTurn s
  | .fail s e => { before := [.deed (.marked s (.failed e))] }
  | .dispose s => m.disposeTurn s false
  | .dropHandle s => m.disposeTurn s true
  | .decode s command word shape => { asks := some (.decode word s, .shaping s command shape) }
  | .pollTask t => m.pollTurn t
  | .dropFiber f => { asks := some (.dispose f, .releasing f) }
  | .commandUpcall id name length word ambient =>
    match m.target.filter m.bridgeAlive with
    | some b => m.commandTurn b id (nativeName name length) word ambient (.upcall .command id)
    | none => {}
  | .errorUpcall id description =>
    match m.target.filter m.bridgeAlive with
    | some b => m.raiseTurn b id (nativeText description) (.upcall .error id)
    | none => {}
  | _ => {}

-- `frame` is what waited for the reply, and is off the stack.
def replyTurn (m : Machine) : Frame → Reply → Turn
  | .starting s _, .code code =>
    { before := [.deed (.marked s (.returned true (CallResult.ofCode code) (m.tokenCanceled s)))] }
  | .resuming s who, .code code =>
    { before := [.deed (.marked s (.returned false (CallResult.ofCode code) (m.tokenCanceled s)))]
      edits := close? who.task? }
  | .disposing s _, .done => { before := [.deed (.marked s .torn)] }
  | .decoding c k, .decoded d => m.decodedTurn c k d
  | .logging c, .done => m.resumeTurn c.script (.command c)
  | .reporting _ _ origin _, .done => { edits := close? origin.task? }
  | .scheduling c, .notification n => m.waitTurn c n
  | .routing c, .future f => leaveTurn c (.forward f)
  | .polling t, .polled p => m.polledTurn t p
  | _, _ => {}

-- A suspended operation that unwinds ends where it came from, but for one that fails a command.
def unwindTurn (m : Machine) (p : Panic) : Frame → Turn
  | .routing c => m.failTurn c (.forwardedHandler c.name p.message)
  | .polling t => m.failedTurn t p.message
  | frame => { edits := close? frame.task? }

def turn (m : Machine) : Move → Turn
  | .invoke op => m.opTurn op
  | .answer reply =>
    match m.stack with
    | [] => {}
    | frame :: _ => m.replyTurn frame reply
  | .unwind p =>
    match m.stack with
    | [] => {}
    | frame :: _ => m.unwindTurn p frame

def below (m : Machine) : Move → List Frame
  | .invoke _ => m.stack
  | .answer _ => m.stack.tail
  | .unwind _ => m.stack.tail

variable {m : Machine}

theorem deliverTurn_acts {b : BridgeKey} {told : Option ScriptKey} {e : BridgeError}
    {origin : Origin} {kept : Option Notification} :
    (m.deliverTurn b told e origin kept).acts = [m.delivery b e] := by
  unfold deliverTurn delivery
  cases (m.bridges.get b).error <;> rfl

theorem failureTurn_acts {b : BridgeKey} {s : ScriptKey} {e : BridgeError} {origin : Origin} :
    (m.failureTurn b s e origin).acts = [m.delivery b e, .deed (.marked s (.failed e))] := by
  have delivered : (m.deliverTurn b (some s) e origin none).acts = [m.delivery b e] :=
    deliverTurn_acts
  unfold failureTurn Turn.following
  unfold Turn.acts at delivered ⊢
  dsimp only
  rw [← List.append_assoc, delivered]
  rfl

end Machine

end FiberBridge
