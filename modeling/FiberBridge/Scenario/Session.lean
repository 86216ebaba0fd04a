import FiberBridge.Scenario.Plan

namespace FiberBridge.Scenario

abbrev Names (α : Type) := List (String × α)

namespace Names

variable {α : Type}

def find? (names : Names α) (name : String) : Option α := names.lookup name

def erase (names : Names α) (name : String) : Names α := names.filter (·.1 ≠ name)

def put (names : Names α) (name : String) (a : α) : Names α := (name, a) :: names.erase name

end Names

structure PlannedFiber where
  label : String := ""
  steps : List (StepPlan Act) := []
  onDispose : List Act := []
  ticket : Nat := 0
deriving Inhabited

structure Future where
  stages : List (Stage Act) := []
  causes : Option (List String) := none
  waiting : Option String := none
deriving Inhabited

-- A gate is opened or broken once, and the first future to reach it waits for that.
structure Gate where
  settled : Bool := false
  opened : Bool := false
  taken : Bool := false

inductive Goal where
  | code (f : FiberKey) (ticket : Nat) (step : StepPlan Act)
  | done
  | decoded (d : Decoding)
  | notification (k : SignalKey)
  | routed (f : FutureKey)

inductive Leftover where
  | handle (s : ScriptKey)
  | compiled (f : FiberKey)

inductive Pending where
  | done
  | register (h : String) (f : FiberKey)
  | start (run : String)
  | resume
  | decode
  | route (rule : Rule Act) (s : ScriptKey)
  | dropped
  | leftover
  | poll

-- The host's own control is a stack of places in step with the frames of the machine: one for each
-- call that it serves, and one for each operation that it waits for.
inductive Place where
  | serving (acts : List Act) (goal : Goal)
  | driving (f : FutureKey)
  | calling (what : Pending) (handle : Option ScriptKey)
  | leaving (answer : Answer) (rest : List Leftover)
  | rethrowing (p : Panic)
  | recording (name : Option String)
  | thread (acts : List Act)
  | settling (advance : Option Nat)

inductive Control where
  | idle
  | answered (a : Answer)
  | panicking (p : Panic)
  | reacted (r : Reaction)

structure Session where
  machine : Machine := .initial
  level : Option Level := none
  context : Bool := true
  payloads : Array (PayloadPlan Act) := #[]
  fibers : Slots PlannedFiber := ∅
  handlers : Slots (HandlerPlan Act) := ∅
  routers : Slots (List (String × Rule Act)) := ∅
  futures : Slots Future := ∅
  gates : Names Gate := []
  signals : Slots Bool := ∅
  bridges : Names BridgeKey := []
  handles : Names ScriptKey := []
  named : Names FiberKey := []
  refs : Names ScriptKey := []
  runs : Names RunKey := []
  tokens : Names TokenKey := []
  clocks : Names ClockKey := []
  waits : Names FrameWait := []
  contexts : Names ContextKey := []
  compiled : Names FiberKey := []
  ready : List TaskKey := []
  places : List Place := []
  control : Control := .idle
  seen : Nat := 0
  happened : List Happening := []

namespace Session

def record (s : Session) (h : Happening) : Session := { s with happened := h :: s.happened }

def answered (s : Session) (a : Answer) : Session := { s with control := .answered a }

def push (s : Session) (p : Place) : Session := { s with places := p :: s.places }

def scopeShown (s : Session) (scope : Option Scope) : Option Scope :=
  match s.level with
  | some limit => if Level.debug.within limit then scope else none
  | none => none

-- What an event of the machine looks like from outside, if it can be seen at all.
def seenAs? (s : Session) : Event → Option Happening
  | .called q _ =>
    match q with
    | .start f => some (.fiber (s.fibers.get f).label "start")
    | .resume f => some (.fiber (s.fibers.get f).label "resume")
    | .dispose f => some (.fiber (s.fibers.get f).label "dispose")
    | .decode w script => some (.decode w (s.machine.idOf script))
    | .log h message => some (.log (s.handlers.get h).tag message)
    | .error h e => some (.error (s.handlers.get h).tag e)
    | .after _ d => some (.timer s.signals.size d)
    | .afterFrames _ count => some (.frames s.signals.size count)
    | .route _ script name w => some (.route name (s.machine.idOf script) w)
    | .poll .. => none
  | .read .. => none
  | .native c => some (.native c)
  | .told d scope =>
    match s.level with
    | some limit => if d.level.within limit then some (.told d (s.scopeShown scope)) else none
    | none => none
  | .script .. => none

def look (s : Session) : Session :=
  let count := s.machine.events.length
  let fresh := (s.machine.events.take (count - s.seen)).reverse
  let s := { s with seen := count }
  fresh.foldl (fun s e => match s.seenAs? e with
    | some h => s.record h
    | none => s) s

def absorb (s : Session) (m : Machine) : Session :=
  let spawned := (List.range m.tasks.size).drop s.machine.tasks.size
  { s with machine := m, ready := s.ready ++ spawned }.look

def quick (s : Session) (op : Op) : Session × Returned :=
  let (m, reaction) := s.machine.invoke op
  (s.absorb m, match reaction with
    | .returned r => r
    | _ => .done)

def quiet (s : Session) (op : Op) : Session := (s.quick op).1

def putRef (s : Session) (name : String) (k : ScriptKey) : Session :=
  let old := s.refs.find? name
  let s := { s.quiet (.makeRef k) with refs := s.refs.put name k }
  match old with
  | some old => s.quiet (.dropRef old)
  | none => s

def call (s : Session) (op : Op) (what : Pending) (handle : Option ScriptKey) : Session :=
  let (m, reaction) := s.machine.invoke op
  let s := s.absorb m
  { s with places := .calling what handle :: s.places, control := .reacted reaction }

def reply (s : Session) (r : Reply) : Session :=
  match s.machine.answer? r with
  | some (m, reaction) => { s.absorb m with control := .reacted reaction }
  | none => s.answered .done

def unwind (s : Session) (p : Panic) : Session :=
  match s.machine.unwind? p with
  | some (m, reaction) => { s.absorb m with control := .reacted reaction }
  | none => { s with control := .panicking p }

def wake (s : Session) (tasks : List TaskKey) : Session :=
  { s with ready := s.ready ++ tasks.filter fun t => !s.ready.contains t }

def tasksWith (s : Session) (p : Work → Bool) : List TaskKey :=
  s.machine.tasks.keys.filter fun t =>
    let task := s.machine.tasks.get t
    !task.finished && p task.work

def wakeSignal (s : Session) (k : SignalKey) : Session :=
  s.wake (s.tasksWith fun w => w = .wait (.signal k))

def wakeClock (s : Session) (c : ClockKey) : Session :=
  s.wake (s.tasksWith fun
    | .wait (.frames c' _) => c' = c
    | _ => false)

-- Sleeps that are over end in the order of their deadlines.
def wakeSleepers (s : Session) : Session :=
  let deadline (t : TaskKey) : Nat := match (s.machine.tasks.get t).work with
    | .wait (.deadline millis) => millis
    | _ => 0
  let ended := s.tasksWith fun
    | .wait (.deadline millis) => millis ≤ s.machine.now
    | _ => false
  s.wake (ended.mergeSort fun a b => deadline a ≤ deadline b)

def wakeGate (s : Session) (g : String) : Session :=
  s.wake (s.tasksWith fun
    | .forward f => (s.futures.get f).waiting = some g
    | _ => false)

def ambient (s : Session) : Bool :=
  let decides : Place → Option Bool
    | .thread _ => some false
    | .settling _ => some true
    | _ => none
  (s.places.findSome? decides).getD s.context

def handleInUse (s : Session) (k : ScriptKey) : Bool :=
  s.places.any fun
    | .calling _ (some k') => k' = k
    | _ => false

def handleKept (s : Session) (k : ScriptKey) : Bool :=
  s.handleInUse k || s.handles.any fun (_, k') => k' = k

-- Puts a payload where the codec finds it, and gives the word for it. Slots count from one.
def store (s : Session) (payload : PayloadPlan Act) : Session × Word :=
  match payload with
  | .word w => (s, w)
  | .slot .. => ({ s with payloads := s.payloads.push payload }, ⟨.ofNat (s.payloads.size + 1)⟩)

def slot? (s : Session) (w : Word) : Option (PayloadPlan Act) :=
  if w.value = 0 then none else s.payloads[w.value.toNat - 1]?

end Session

end FiberBridge.Scenario
