import FiberBridge.Diagnostic
import FiberBridge.Payload
import FiberBridge.Registry
import FiberBridge.Slots

namespace FiberBridge

abbrev FiberKey := Nat
abbrev ScriptKey := Nat
abbrev RunKey := Nat
abbrev TokenKey := Nat
abbrev BridgeKey := Nat
abbrev HandlerKey := Nat
abbrev ClockKey := Nat
abbrev SignalKey := Nat
abbrev FutureKey := Nat
abbrev TaskKey := Nat
abbrev ContextKey := Nat

abbrev Outcome := Except BridgeError Unit

inductive Panic where
  | text (s : String)
  | other
deriving DecidableEq, Repr

def Panic.message : Panic → String
  | text s => "handler panicked: " ++ s
  | other => "handler panicked"

-- A native fiber. `ordinal` is the raw state it would tell now. The host holds it until it is
-- registered, and it is gone when nothing holds it any more; one of the host's own has no context.
structure Fiber where
  id : ScriptId := default
  ordinal : Int32 := 0
  context : Option ContextKey := none
  held : Bool := false
  released : Bool := false
  gone : Bool := false
deriving Inhabited

-- A script, registered or refused. A settling event would settle `run`, whose token is `token`.
-- Only the owning handle starts or disposes it, and it is freed when nothing holds it any more.
structure Script where
  id : ScriptId := default
  fiber : FiberKey := 0
  bridge : BridgeKey := 0
  accepted : Bool := false
  disposed : Bool := true
  run : Option RunKey := none
  token : Option TokenKey := none
  owned : Bool := false
  refs : Nat := 0
  freed : Bool := false
deriving Inhabited

structure Run where
  script : ScriptKey := 0
  id : ScriptId := default
  outcome : Option Outcome := none
  awaited : Bool := true
  abandoned : Bool := false
deriving Inhabited

inductive Handler where
  | builtIn
  | host (key : HandlerKey)
deriving DecidableEq, Repr, Inhabited

inductive Timers where
  | host
  | runtime
deriving DecidableEq, Repr

inductive FrameSource where
  | host
  | clock (key : ClockKey)
deriving DecidableEq, Repr

structure Bridge where
  config : Config := {}
  router : Bool := false
  timers : Option Timers := none
  frames : Option FrameSource := none
  runtime : Bool := false
  log : Handler := .builtIn
  error : Handler := .builtIn
  registry : Registry := default
  clones : Nat := 0
deriving Inhabited

structure FrameClock where
  shown : Nat := 0
  held : Bool := false
deriving Inhabited

namespace FrameClock

def advance (clock : FrameClock) (frames : Nat) : FrameClock :=
  { clock with shown := clock.shown + frames }

def target (clock : FrameClock) (count : UInt32) : Nat := clock.shown + count.toNat

def shows (clock : FrameClock) (target : Nat) : Bool := target ≤ clock.shown

def letGo (clock : FrameClock) : FrameClock := { clock with held := false }

theorem shown_add (clocks : Slots FrameClock) (held : Bool) (c : ClockKey) :
    ((clocks.add { held }).get c).shown = (clocks.get c).shown := by
  have blank : (FrameClock.mk 0 held).shown = (default : FrameClock).shown := rfl
  exact Slots.field_add shown blank clocks c

theorem shown_letGo (clocks : Slots FrameClock) (k c : ClockKey) :
    ((clocks.update k letGo).get c).shown = (clocks.get c).shown := by
  have same (clock : FrameClock) : clock.letGo.shown = clock.shown := rfl
  exact Slots.field_update shown same clocks k c

theorem shown_advance (clocks : Slots FrameClock) (k c : ClockKey) (frames : Nat) :
    ((clocks.update k (advance · frames)).get c).shown =
      (clocks.get c).shown + if k = c then frames else 0 := by
  rw [Slots.get_update]
  split <;> rfl

end FrameClock

-- What a detached wait waits for; a sleep begins with the first look at it. To look whether it has
-- come, and to poll a notification of the host's, is taken to call nothing back.
inductive Notification where
  | signal (key : SignalKey)
  | frames (clock : ClockKey) (target : Nat)
  | sleep (d : Duration)
  | deadline (millis : Nat)
deriving DecidableEq, Repr

inductive Work where
  | wait (what : Notification)
  | forward (future : FutureKey)
deriving DecidableEq, Repr

-- Work that goes on after its command has returned. It keeps the script and the bridge's handlers,
-- not the bridge.
structure Task where
  bridge : BridgeKey := 0
  script : ScriptKey := 0
  command : String := ""
  work : Work := .forward 0
  finished : Bool := true
deriving Inhabited

structure Context where
  held : Bool := false
  disposed : Bool := true
deriving Inhabited

inductive HostCall where
  | start (f : FiberKey)
  | resume (f : FiberKey)
  | dispose (f : FiberKey)
  | decode (w : Word) (s : ScriptKey)
  | log (h : HandlerKey) (message : String)
  | error (h : HandlerKey) (e : BridgeError)
  | after (b : BridgeKey) (d : Duration)
  | afterFrames (b : BridgeKey) (count : UInt32)
  | route (b : BridgeKey) (s : ScriptKey) (name : String) (w : Word)
  | poll (t : TaskKey) (future : FutureKey)
deriving DecidableEq, Repr

-- Where control goes once a command or a report is done: to the host, which called; to the native
-- side, which called back, and past which nothing unwinds; to the runtime, which ran a task.
inductive Origin where
  | host
  | upcall (kind : UpcallKind) (id : ScriptId)
  | task (t : TaskKey)
deriving DecidableEq, Repr

structure Service where
  bridge : BridgeKey
  script : ScriptKey
  name : String
  word : Word
  ambient : Bool
  origin : Origin
deriving DecidableEq, Repr

inductive Resumer where
  | host (byHandle : Bool)
  | command (c : Service)
  | task (t : TaskKey)
deriving DecidableEq, Repr

-- A suspended operation: the call it waits for, and what it needs afterwards. While the host
-- serves the call it may begin further operations, whose frames go on top; nothing here says what
-- it does, and any answer is possible.
inductive Frame where
  | starting (s : ScriptKey) (r : RunKey)
  | resuming (s : ScriptKey) (who : Resumer)
  | disposing (s : ScriptKey) (dropped : Bool)
  | refusing (b : BridgeKey) (s : ScriptKey)
  | releasing (f : FiberKey)
  | decoding (c : Service) (k : SystemCommand)
  | shaping (s : ScriptKey) (command : String) (shape : Shape)
  | logging (c : Service)
  | reporting (b : BridgeKey) (s : Option ScriptKey) (origin : Origin) (kept : Option Notification)
  | scheduling (c : Service)
  | routing (c : Service)
  | polling (t : TaskKey)
deriving DecidableEq, Repr

inductive Lock where
  | registry (b : BridgeKey)
  | run (s : ScriptKey)
  | logHandler (b : BridgeKey)
  | errorHandler (b : BridgeKey)
  | upcallTarget
deriving DecidableEq, Repr

inductive NativeCall where
  | contextNew
  | contextDispose (c : ContextKey)
  | compile (length : Nat)
  | setCallbacks (command error : Bool)
deriving DecidableEq, Repr

-- What decides the fate of a script's runs, and whether the token was canceled when it happened.
inductive Milestone where
  | armed (r : RunKey) (canceled : Bool)
  | entered (canceled : Bool)
  | returned (wasStart : Bool) (result : CallResult) (canceled : Bool)
  | failed (e : BridgeError)
  | torn
deriving DecidableEq, Repr

inductive Event where
  | called (q : HostCall) (held : List Lock)
  | read (f : FiberKey) (ordinal : Int32)
  | native (c : NativeCall)
  | told (d : Diagnostic) (scope : Option Scope)
  | script (s : ScriptKey) (m : Milestone)
deriving DecidableEq, Repr

-- Everything between a host and its native scripts. The stack and the events have the newest
-- first, and `active` the task polled last; callbacks go to `target`, which may be dead.
structure Machine where
  fibers : Slots Fiber := ∅
  scripts : Slots Script := ∅
  runs : Slots Run := ∅
  bridges : Slots Bridge := ∅
  tasks : Slots Task := ∅
  clocks : Slots FrameClock := ∅
  contexts : Slots Context := ∅
  canceled : List TokenKey := []
  signals : List SignalKey := []
  now : Nat := 0
  callbacks : Bool := false
  target : Option BridgeKey := none
  active : List TaskKey := []
  stack : List Frame := []
  held : List Lock := []
  deadlocked : Bool := false
  events : List Event := []
deriving Inhabited

inductive Returned where
  | done
  | made (key : Nat)
  | keyed (r : Except BridgeError Nat)
  | resumed (r : Except BridgeError Unit)
  | status (r : Except BridgeError Status)
  | described (s : Status)
  | shaped (r : Except BridgeError Shaped)
  | polled (finished : Bool)
  | counted (n : Nat)

inductive Reaction where
  | call (q : HostCall)
  | returned (r : Returned)
  | panicked (p : Panic)

namespace Machine

def log (m : Machine) (e : Event) : Machine := { m with events := e :: m.events }

def scope (m : Machine) : Option Scope :=
  m.active.head?.map fun t =>
    let task := m.tasks.get t
    let kind : WorkKind := match task.work with
      | .wait _ => .wait
      | .forward _ => .forward
    ⟨kind, (m.scripts.get task.script).id, task.command⟩

def tell (m : Machine) (d : Diagnostic) : Machine := m.log (.told d m.scope)

def mark (m : Machine) (s : ScriptKey) (e : Milestone) : Machine := m.log (.script s e)

def lock (m : Machine) (l : Lock) : Machine :=
  { m with held := l :: m.held, deadlocked := m.deadlocked || m.held.contains l }

def unlock (m : Machine) (l : Lock) : Machine := { m with held := m.held.erase l }

def setScript (m : Machine) (s : ScriptKey) (f : Script → Script) : Machine :=
  { m with scripts := m.scripts.update s f }

def setFiber (m : Machine) (k : FiberKey) (f : Fiber → Fiber) : Machine :=
  { m with fibers := m.fibers.update k f }

def setRun (m : Machine) (r : RunKey) (f : Run → Run) : Machine :=
  { m with runs := m.runs.update r f }

def setBridge (m : Machine) (b : BridgeKey) (f : Bridge → Bridge) : Machine :=
  { m with bridges := m.bridges.update b f }

def setTask (m : Machine) (t : TaskKey) (f : Task → Task) : Machine :=
  { m with tasks := m.tasks.update t f }

def enterTask (m : Machine) (t : TaskKey) : Machine := { m with active := t :: m.active }

def leaveTask (m : Machine) : Machine := { m with active := m.active.tail }

def ask (m : Machine) (q : HostCall) (f : Frame) : Machine × Reaction :=
  ({ m.log (.called q m.held) with stack := f :: m.stack }, .call q)

def giveBack (m : Machine) (r : Returned) : Machine × Reaction := (m, .returned r)

def idOf (m : Machine) (s : ScriptKey) : ScriptId := (m.scripts.get s).id

def isCanceled (m : Machine) (token : Option TokenKey) : Bool :=
  match token with
  | some t => m.canceled.contains t
  | none => false

def find? (m : Machine) (b : BridgeKey) (id : ScriptId) : Option ScriptKey :=
  ((m.bridges.get b).registry.get? id).filter fun s => !(m.scripts.get s).disposed

def lookup (m : Machine) (b : BridgeKey) (id : ScriptId) : Machine × Option ScriptKey :=
  let m := m.lock (.registry b)
  (m.unlock (.registry b), m.find? b id)

def contains (m : Machine) (b : BridgeKey) (id : ScriptId) : Bool := (m.lookup b id).2.isSome

end Machine

end FiberBridge
