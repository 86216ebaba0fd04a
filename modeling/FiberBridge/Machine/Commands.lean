import FiberBridge.Machine.Lifecycle

namespace FiberBridge.Machine

def noRuntime : String := "no tokio runtime available"
def noRouter : String := "no command router configured"
def noTimers : String := "no timer scheduler configured"
def noFrames : String := "no frame scheduler configured"

def runtimeFor (m : Machine) (c : Service) : Bool := (m.bridges.get c.bridge).runtime || c.ambient

def spawn (m : Machine) (c : Service) (work : Work) : Machine :=
  let task : Task :=
    { bridge := c.bridge, script := c.script, command := c.name, work, finished := false }
  { m with tasks := m.tasks.add task }

-- Leaves a task that resumes the script when `n` comes.
def resumeWhen (m : Machine) (c : Service) (n : Notification) : Machine × Reaction :=
  if m.runtimeFor c then (m.spawn c (.wait n)).complete c.origin
  else m.report c.bridge (some c.script) (.notSupported c.name noRuntime) c.origin (some n)

def lacking? (m : Machine) (c : Service) (k : SystemCommand) : Option String :=
  let bridge := m.bridges.get c.bridge
  match k with
  | .log => none
  | .waitSecs => if bridge.timers.isSome then none else some noTimers
  | .waitFrames => if bridge.frames.isSome then none else some noFrames

-- Begins a system command: a missing scheduler is found before the payload is looked at.
def serve (m : Machine) (c : Service) (k : SystemCommand) : Machine × Reaction :=
  let m := m.tell (.systemCommand (m.idOf c.script) c.name)
  match m.lacking? c k with
  | some reason => m.refuseCommand c (.notSupported c.name reason)
  | none => m.ask (.decode c.word c.script) (.decoding c k)

def logMessage (m : Machine) (c : Service) (message : String) : Machine × Reaction :=
  let (m, handler) := m.logHandler c.bridge
  match handler with
  | .builtIn => (m.tell (.scriptMessage message)).resume c.script (.command c)
  | .host h => m.ask (.log h message) (.logging c)

def waitSeconds (m : Machine) (c : Service) (seconds : Double) : Machine × Reaction :=
  match Duration.ofSeconds seconds with
  | .error fault =>
    m.refuseCommand c (.codec c.name
      ("invalid duration " ++ Layout.plain.write seconds ++ ": " ++ fault.message))
  | .ok d =>
    match (m.bridges.get c.bridge).timers with
    | some .runtime => m.resumeWhen c (.sleep d)
    | _ => m.ask (.after c.bridge d) (.scheduling c)

def waitFrames (m : Machine) (c : Service) (count : UInt32) : Machine × Reaction :=
  match (m.bridges.get c.bridge).frames with
  | some (.clock clock) => m.resumeWhen c (.frames clock ((m.clocks.get clock).target count))
  | _ => m.ask (.afterFrames c.bridge count) (.scheduling c)

def shapeOf {α : Type} (command : String) (d : Decoding) (ask : Json → Except ShapeFault α) :
    Except BridgeError α :=
  match d with
  | .error fault => .error (.codec command fault.message)
  | .ok v => (ask v).mapError fun fault => .codec command fault.message

def decoded (m : Machine) (c : Service) (k : SystemCommand) (d : Decoding) : Machine × Reaction :=
  match k with
  | .log =>
    match shapeOf c.name d Json.asText with
    | .error e => m.refuseCommand c e
    | .ok message => m.logMessage c message
  | .waitSecs =>
    match shapeOf c.name d Json.asNumber with
    | .error e => m.refuseCommand c e
    | .ok seconds => m.waitSeconds c seconds
  | .waitFrames =>
    match shapeOf c.name d Json.asCount with
    | .error e => m.refuseCommand c e
    | .ok count => m.waitFrames c count

def forward (m : Machine) (c : Service) : Machine × Reaction :=
  let m := m.tell (.forwarding (m.idOf c.script) c.name)
  if m.runtimeFor c then m.ask (.route c.bridge c.script c.name c.word) (.routing c)
  else m.failAndReport c (.notSupported c.name noRuntime)

def routed (m : Machine) (c : Service) (future : FutureKey) : Machine × Reaction :=
  (m.spawn c (.forward future)).complete c.origin

def routePanicked (m : Machine) (c : Service) (p : Panic) : Machine × Reaction :=
  m.failAndReport c (.forwardedHandler c.name p.message)

def command (m : Machine) (b : BridgeKey) (id : ScriptId) (name : ByteArray) (word : Word)
    (ambient : Bool) (origin : Origin) : Machine × Reaction :=
  let (m, found) := m.lookup b id
  match found with
  | none =>
    m.report b none (.unrouteable id ("command `" ++ Utf8.lossy name ++ "`")) origin none
  | some s =>
    let bridge := m.bridges.get b
    let service (name : String) : Service := ⟨b, s, name, word, ambient, origin⟩
    match bridge.config.reserved? name with
    | some k => m.serve (service (bridge.config.reservedName k)) k
    | none =>
      match Utf8.read name with
      | .error fault =>
        let shown := Utf8.lossy name
        m.failAndReport (service shown)
          (.codec shown ("command name is not UTF-8: " ++ fault.message))
      | .ok name =>
        if bridge.router then m.forward (service name)
        else m.failAndReport (service name) (.notSupported name noRouter)

def raise (m : Machine) (b : BridgeKey) (id : ScriptId) (description : String) (origin : Origin) :
    Machine × Reaction :=
  let (m, found) := m.lookup b id
  match found with
  | some s =>
    ((m.tell (.scriptRaised id description)).fail s (.scriptExecution description)).complete origin
  | none => m.report b none (.unrouteable id description) origin none

end FiberBridge.Machine
