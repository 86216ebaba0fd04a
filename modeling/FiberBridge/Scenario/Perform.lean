import FiberBridge.Scenario.Serve

namespace FiberBridge.Scenario.Session

def missing (s : Session) (sort name : String) : Session := s.answered (.missing sort name)

def withName {α : Type} (s : Session) (sort : String) (names : Names α) (name : String)
    (f : α → Session) : Session :=
  match names.find? name with
  | some a => f a
  | none => s.missing sort name

def withBridge (s : Session) (b : String) (f : BridgeKey → Session) : Session :=
  s.withName "b" s.bridges b f

def withHandle (s : Session) (h : String) (f : ScriptKey → Session) : Session :=
  s.withName "h" s.handles h f

def withTarget (s : Session) (target : Target) (f : ScriptKey → Bool → Session) : Session :=
  match target with
  | .handle h => s.withHandle h (f · true)
  | .ref r => s.withName "ref" s.refs r (f · false)

def ask (s : Session) (op : Op) (f : Session → Returned → Answer) : Session :=
  let (s, r) := s.quick op
  s.answered (f s r)

def addHandler (s : Session) (choice : HandlerChoice Act) : Session × Handler :=
  match choice with
  | .builtIn => (s, .builtIn)
  | .plan p => ({ s with handlers := s.handlers.add p }, .host s.handlers.size)

def clockOf (s : Session) (c : String) : Session × ClockKey :=
  match s.clocks.find? c with
  | some k => (s, k)
  | none =>
    match s.quick .makeClock with
    | (s, .made k) => ({ s with clocks := s.clocks.put c k }, k)
    | (s, _) => (s, 0)

def tokenOf (s : Session) (t : String) : Session × TokenKey :=
  match s.tokens.find? t with
  | some k => (s, k)
  | none =>
    let k := s.tokens.length
    ({ s with tokens := s.tokens.put t k }, k)

def beginBridge (s : Session) (b : String) (plan : BridgePlan Act) : Session :=
  let (s, frames) : Session × Option FrameSource := match plan.frames with
    | some .manual => (s, some .host)
    | some (.clock c) =>
      let (s, k) := s.clockOf c
      (s, some (.clock k))
    | none => (s, none)
  let (s, log) := s.addHandler plan.log
  let (s, error) := s.addHandler plan.error
  let setup : Setup :=
    { config := plan.config, codec := plan.codec, router := plan.router.isSome,
      timers := plan.timers, frames, runtime := plan.runtime, log, error }
  match s.quick (.build setup) with
  | (s, .keyed (.ok k)) =>
    let old := s.bridges.find? b
    let s :=
      { s with
        bridges := s.bridges.put b k
        routers := s.routers.set k (plan.router.getD []) }
    let s := match old with
      | some old => s.quiet (.dropBridge old)
      | none => s
    s.answered .done
  | (s, .keyed (.error e)) => s.answered (.failed e)
  | (s, _) => s.answered .done

def bridgeInfo (s : Session) (k : BridgeKey) : Session :=
  let bridge := s.machine.bridges.get k
  s.ask (.count k) fun _ r =>
    let scripts := match r with
      | .counted n => n
      | _ => 0
    .bridge bridge.config scripts (bridge.describe scripts)

def beginLookup (s : Session) (k : BridgeKey) (id : ScriptId) (ref : Option String) : Session :=
  match s.quick (.lookup k id) with
  | (s, .keyed (.ok script)) =>
    let s := match ref with
      | some name => s.putRef name script
      | none => s
    s.answered (.id (s.machine.idOf script))
  | (s, .keyed (.error e)) => s.answered (.failed e)
  | (s, _) => s.answered .done

def beginRegister (s : Session) (b h : String) (plan : FiberPlan Act) : Session :=
  s.withBridge b fun k =>
    match s.quick (.makeFiber plan.id plan.state) with
    | (s, .made f) =>
      let fiber : PlannedFiber :=
        { label := plan.label.getD h, steps := plan.steps, onDispose := plan.onDispose }
      let s := { s with fibers := s.fibers.set f fiber }
      s.call (.register k f) (.register h f) none
    | (s, _) => s.answered .done

def beginStart (s : Session) (h : String) (token : Option String) (run : String) : Session :=
  s.withHandle h fun k =>
    match token with
    | none => s.call (.start k none) (.start run) (some k)
    | some t =>
      let (s, t) := s.tokenOf t
      s.call (.start k (some t)) (.start run) (some k)

def beginResume (s : Session) (target : Target) : Session :=
  s.withTarget target fun k byHandle =>
    s.call (.resume k byHandle) .resume (if byHandle then some k else none)

def beginStatus (s : Session) (target : Target) : Session :=
  s.withTarget target fun k _ =>
    s.ask (.status k) fun _ r => match r with
      | .status (.ok status) => .status status
      | .status (.error e) => .failed e
      | _ => .done

def beginInspect (s : Session) (target : Target) : Session :=
  s.withTarget target fun k byHandle =>
    s.ask (.describe k) fun s r => match r with
      | .described status =>
        let id := s.machine.idOf k
        .script id (s.machine.scripts.get k).disposed (Script.describe byHandle id status)
      | _ => .done

def beginDrop (s : Session) (h : String) : Session :=
  s.withHandle h fun k =>
    let s := { s with handles := s.handles.erase h }
    if s.handleInUse k then s.answered .done else s.call (.dropHandle k) .done none

def beginDecode (s : Session) (target : Target) (shape : Shape) (command : String)
    (payload : PayloadPlan Act) : Session :=
  let (s, w) := s.store payload
  s.withTarget target fun k _ => s.call (.decode k command w shape) .decode none

def beginFire (s : Session) (n : SignalKey) : Session :=
  if s.signals.get n then
    let waited := s.machine.signalHeld n
    let s := { s with signals := s.signals.set n false }
    ((s.quiet (.complete n)).wakeSignal n).answered (.flag waited)
  else s.answered (.flag false)

def beginForget (s : Session) (n : SignalKey) : Session :=
  let mayFire := s.signals.get n
  { s with signals := s.signals.set n false }.answered (.flag mayFire)

def settleGate (s : Session) (g : String) (opened : Bool) : Session :=
  let gate := (s.gates.find? g).getD {}
  if gate.settled then s.answered (.flag false)
  else
    let s := { s with gates := s.gates.put g { gate with settled := true, opened } }
    (s.wakeGate g).answered (.flag true)

def beginFrames (s : Session) (c : String) (n : Nat) : Session :=
  s.withName "clock" s.clocks c fun k =>
    match s.quick (.advanceClock k n) with
    | (s, .counted shown) => (s.wakeClock k).answered (.text (toString shown))
    | (s, _) => s.answered .done

def beginPoll (s : Session) (w : String) : Session :=
  s.withName "wait" s.waits w fun wait =>
    match s.machine.pollFrames wait with
    | none => { s with waits := s.waits.erase w }.answered (.text "ready")
    | some left => { s with waits := s.waits.put w left }.answered (.text "pending")

def beginContext (s : Session) (c : String) (available : Bool) : Session :=
  match s.quick (.newContext available) with
  | (s, .keyed (.ok k)) =>
    let old := s.contexts.find? c
    let s := { s with contexts := s.contexts.put c k }
    let s := match old with
      | some old => s.quiet (.dropContext old)
      | none => s
    s.answered .done
  | (s, .keyed (.error e)) => s.answered (.failed e)
  | (s, _) => s.answered .done

def compiledLabel : String := "native"

-- An act is over when what it leaves has gone away.
def leave (s : Session) (a : Answer) (rest : List Leftover) : Session :=
  { s with places := .leaving a rest :: s.places, control := .idle }

def beginCompile (s : Session) (c name : String) (length : Nat) (plan : Option (FiberPlan Act)) :
    Session :=
  s.withName "c" s.contexts c fun k =>
    match s.quick (.compile k length (plan.map fun p => (p.id, p.state))) with
    | (s, .keyed (.ok f)) =>
      let plan := plan.getD {}
      let fiber : PlannedFiber :=
        { label := plan.label.getD compiledLabel, steps := plan.steps, onDispose := plan.onDispose }
      let old := s.compiled.find? name
      let s := { s with
        fibers := s.fibers.set f fiber
        compiled := s.compiled.put name f }
      s.leave (.id plan.id) (old.toList.map .compiled)
    | (s, .keyed (.error e)) => s.answered (.failed e)
    | (s, _) => s.answered .done

def beginRegisterScript (s : Session) (b name h : String) : Session :=
  s.withBridge b fun k =>
    s.withName "s" s.compiled name fun f =>
      let s := { s with compiled := s.compiled.erase name }
      s.call (.register k f) (.register h f) none

def noCallback : String := "no callback"

def beginVmCommand (s : Session) (id : ScriptId) (name : Option ByteArray) (length : Int32)
    (payload : PayloadPlan Act) : Session :=
  if s.machine.callbacks then
    let (s, w) := s.store payload
    s.call (.commandUpcall id name length w s.ambient) .done none
  else s.answered (.text noCallback)

def beginVmError (s : Session) (id : ScriptId) (description : Option ByteArray) : Session :=
  if s.machine.callbacks then s.call (.errorUpcall id description) .done none
  else s.answered (.text noCallback)

-- The runtime runs between acts only, never inside one.
def beginSettle (s : Session) (name : String) (advance : Option Nat) : Session :=
  if s.places.isEmpty then { s.push (.settling advance) with control := .idle }
  else s.answered (.unknown name)

def start (s : Session) (act : Act) : Session :=
  match act with
  | .ordinal n =>
    let s := if (Status.documented? n).isSome then s
      else s.absorb (s.machine.tell (.statusUnknown n))
    s.answered (.ordinal (.ofOrdinal n))
  | .code n =>
    let (m, result) := s.machine.readResult n
    (s.absorb m).answered (.text result.debug)
  | .statusName status => s.answered (.statusName status)
  | .errorInfo e other => s.answered (.error e other)
  | .nativeValue w => s.answered (.word w)
  | .scriptIds ids => s.answered (.ids (ids.mergeSort ScriptId.le))
  | .bridge b plan => s.beginBridge b plan
  | .dropBridge b =>
    match s.bridges.find? b with
    | some k => ({ s with bridges := s.bridges.erase b }.quiet (.dropBridge k)).answered .done
    | none => s.answered .done
  | .bridgeInfo b => s.withBridge b s.bridgeInfo
  | .command b id name payload =>
    let (s, w) := s.store payload
    s.withBridge b fun k => s.call (.command k id name w s.ambient) .done none
  | .error b id description => s.withBridge b fun k => s.call (.error k id description) .done none
  | .report b e => s.withBridge b fun k => s.call (.report k e) .done none
  | .setLog b choice =>
    s.withBridge b fun k =>
      let (s, h) := s.addHandler choice
      (s.quiet (.setLog k h)).answered .done
  | .setError b choice =>
    s.withBridge b fun k =>
      let (s, h) := s.addHandler choice
      (s.quiet (.setError k h)).answered .done
  | .lookup b id ref => s.withBridge b fun k => s.beginLookup k id ref
  | .contains b id =>
    s.withBridge b fun k => s.ask (.lookup k id) fun _ r => match r with
      | .keyed (.ok _) => .flag true
      | _ => .flag false
  | .register b h plan => s.beginRegister b h plan
  | .start h token run => s.beginStart h token run
  | .cancel token =>
    let (s, t) := s.tokenOf token
    (s.quiet (.cancel t)).answered .done
  | .resume target => s.beginResume target
  | .status target => s.beginStatus target
  | .fail target e => s.withTarget target fun k _ => (s.quiet (.fail k e)).answered .done
  | .inspect target => s.beginInspect target
  | .dispose h => s.withHandle h fun k => s.call (.dispose k) .done (some k)
  | .drop h => s.beginDrop h
  | .makeRef target as => s.withTarget target fun k _ => (s.putRef as k).answered .done
  | .dropRef ref =>
    s.withName "ref" s.refs ref fun k =>
      ({ s with refs := s.refs.erase ref }.quiet (.dropRef k)).answered .done
  | .dropRun run =>
    match s.runs.find? run with
    | some r => ({ s with runs := s.runs.erase run }.quiet (.dropRun r)).answered (.flag true)
    | none => s.answered (.flag false)
  | .setState h state =>
    s.withName "h" s.named h fun f => (s.quiet (.setOrdinal f state)).answered .done
  | .decode target shape command payload => s.beginDecode target shape command payload
  | .fire n => s.beginFire n
  | .forget n => s.beginForget n
  | .openGate g => s.settleGate g true
  | .breakGate g => s.settleGate g false
  | .clock c => (s.clockOf c).1.answered .done
  | .tick c => s.beginFrames c 1
  | .frames c n => s.beginFrames c n
  | .frame c =>
    s.withName "clock" s.clocks c fun k => s.answered (.text (toString (s.machine.clocks.get k).shown))
  | .dropClock c =>
    match s.clocks.find? c with
    | some k =>
      ({ s with clocks := s.clocks.erase c }.quiet (.dropClock k)).answered (.flag true)
    | none => s.answered (.flag false)
  | .wait c w n =>
    s.withName "clock" s.clocks c fun k =>
      { s with waits := s.waits.put w (s.machine.awaitFrames k n) }.answered .done
  | .poll w => s.beginPoll w
  | .settle => s.beginSettle "settle" none
  | .advance millis => s.beginSettle "advance" (some millis)
  | .context c available => s.beginContext c available
  | .dropContext c =>
    match s.contexts.find? c with
    | some k =>
      ({ s with contexts := s.contexts.erase c }.quiet (.dropContext k)).answered (.flag true)
    | none => s.answered (.flag false)
  | .compile c name length plan => s.beginCompile c name length plan
  | .dropScript name =>
    match s.compiled.find? name with
    | some f =>
      { s with compiled := s.compiled.erase name }.call (.dropFiber f) .dropped none
    | none => s.answered (.flag false)
  | .registerScript b name h => s.beginRegisterScript b name h
  | .install b => s.withBridge b fun k => (s.quiet (.install k)).answered .done
  | .uninstall => (s.quiet .uninstall).answered .done
  | .vmCommand id name length payload => s.beginVmCommand id name length payload
  | .vmError id description => s.beginVmError id description
  | .note message => s.answered (.document message)
  | .panic p => { s with control := .panicking p }
  | .thread acts => { s.push (.thread acts) with control := .idle }
  | .unknown name => s.answered (.unknown (name.getD ""))

end FiberBridge.Scenario.Session
