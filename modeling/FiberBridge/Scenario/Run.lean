import FiberBridge.Scenario.Perform

namespace FiberBridge.Scenario

namespace Session

def nest (s : Session) (act : Act) : Session :=
  { s with places := .recording act.name :: s.places, control := .idle }.start act

def conclude (s : Session) (what : Pending) (r : Returned) : Session × Option (Answer × List Leftover) :=
  match what, r with
  | .register h f, .keyed (.ok k) =>
    let old := s.handles.find? h
    let s :=
      { s with
        handles := s.handles.put h k
        named := if (s.machine.fibers.get f).context.isSome then s.named else s.named.put h f }
    (s, some (.id (s.machine.idOf k), old.toList.map .handle))
  | .start run, .keyed (.ok k) =>
    let old := s.runs.find? run
    let s := { s with runs := s.runs.put run k }
    let s := match old with
      | some old => s.quiet (.dropRun old)
      | none => s
    (s, some (.id (s.machine.runs.get k).id, []))
  | .register _ _, .keyed (.error e) => (s, some (.failed e, []))
  | .start _, .keyed (.error e) => (s, some (.failed e, []))
  | .resume, .resumed (.error e) => (s, some (.failed e, []))
  | .decode, .shaped (.ok v) => (s, some (.shaped v, []))
  | .decode, .shaped (.error e) => (s, some (.failed e, []))
  | .dropped, _ => (s, some (.flag true, []))
  | .route rule script, .shaped (.ok v) =>
    ((s.record (.decoded (.shaped v))).followRule rule script, none)
  | .route _ _, .shaped (.error e) =>
    let (s, f) := (s.record (.decoded (.failed e))).addFuture { causes := some [e.message] }
    (s.push (.serving [] (.routed f)), none)
  | .poll, _ => (s, none)
  | .leftover, _ => (s, none)
  | _, _ => (s, some (.done, []))

-- The machine has reacted: it calls, or an operation of the host is over. A payload is decoded inside
-- the router, so a panic there unwinds out of the router.
def react (s : Session) (r : Reaction) : Session :=
  match r with
  | .call q => s.serve q
  | .returned r =>
    match s.places with
    | .calling what handle :: places =>
      let (s, result) := { s with places, control := .idle }.conclude what r
      match result with
      | none => s
      | some (a, leftovers) => s.leave a (handle.toList.map .handle ++ leftovers)
    | _ => s.answered .done
  | .panicked p =>
    match s.places with
    | .calling (.route _ _) _ :: places => { s with places }.unwind p
    | .calling _ handle :: places =>
      let s := { s with places }
      match handle with
      | some k =>
        if s.handleKept k then { s with control := .panicking p }
        else (s.push (.rethrowing p)).call (.dropHandle k) .leftover none
      | none => { s with control := .panicking p }
    | _ => { s with control := .panicking p }

def goOnLeaving (s : Session) (a : Answer) (rest : List Leftover) : Session :=
  match rest with
  | [] => s.answered a
  | .handle k :: rest =>
    let s := s.push (.leaving a rest)
    if s.handleKept k then s else s.call (.dropHandle k) .leftover none
  | .compiled f :: rest => (s.push (.leaving a rest)).call (.dropFiber f) .leftover none

-- The runtime runs the next task. When none can go on its clock may move, once.
def goOnSettling (s : Session) (advance : Option Nat) : Session :=
  match s.ready, advance with
  | t :: ready, _ =>
    { s with ready, places := .settling advance :: s.places }.call (.pollTask t) .poll none
  | [], some millis => ((s.quiet (.elapse millis)).wakeSleepers).push (.settling none)
  | [], none => s.answered .done

def goOnDriving (s : Session) (f : FutureKey) : Session :=
  let future := s.futures.get f
  match future.stages with
  | [] => s.finishDriving future.causes
  | .act a :: rest =>
    let s := { s with futures := s.futures.set f { future with stages := rest } }
    (s.push (.driving f)).nest a
  | .gate g :: rest => s.passGate f g rest

def goOn (s : Session) : Session :=
  match s.places with
  | [] => s
  | place :: places =>
    let s := { s with places }
    match place with
    | .serving (a :: acts) goal => (s.push (.serving acts goal)).nest a
    | .serving [] goal => s.finishServing goal
    | .driving f => s.goOnDriving f
    | .leaving a rest => s.goOnLeaving a rest
    | .rethrowing p => { s with control := .panicking p }
    | .thread (a :: acts) => (s.push (.thread acts)).nest a
    | .thread [] => s.answered (.joined true)
    | .settling advance => s.goOnSettling advance
    | .calling .. => s.answered .done
    | .recording _ => s.answered .done

def takeAnswer (s : Session) (a : Answer) : Session :=
  match s.places with
  | .recording name :: places =>
    { s with places, control := .idle }.record (.act name a)
  | _ => { s with control := .idle }

def takePanic (s : Session) (p : Panic) : Session :=
  match s.places with
  | [] => s
  | place :: places =>
    let s := { s with places }
    match place with
    | .serving .. => s.unwind p
    | .driving _ => s.unwind p
    | .thread _ => s.answered (.joined false)
    | _ => s

def finished? (s : Session) : Option Answer :=
  match s.places, s.control with
  | [], .answered a => some a
  | [], .panicking p => some (.panicked p)
  | [], .idle => some .done
  | _, _ => none

def step (s : Session) : Session :=
  match s.control with
  | .idle => s.goOn
  | .answered a => s.takeAnswer a
  | .panicking p => s.takePanic p
  | .reacted r => s.react r

def run : Nat → Session → Answer × Session
  | 0, s => (.done, s)
  | fuel + 1, s =>
    match s.finished? with
    | some a => (a, { s with control := .idle })
    | none => run fuel s.step

end Session

def Session.statusOf (s : Session) (k : ScriptKey) : Status :=
  let script := s.machine.scripts.get k
  if script.disposed then .disposed else .ofOrdinal (s.machine.fibers.get script.fiber).ordinal

structure Picture where
  handles : List (String × Status)
  runs : List (String × Option Outcome)
  scripts : List (String × Nat)

def Session.picture (s : Session) : Picture where
  handles := s.handles.map fun (name, k) => (name, s.statusOf k)
  runs := s.runs.map fun (name, r) => (name, s.machine.outcome? r)
  scripts := s.bridges.map fun (name, b) => (name, (s.machine.bridges.get b).registry.size)

structure Report where
  answer : Answer
  happened : List Happening
  picture : Picture

def Session.perform (fuel : Nat) (s : Session) (act : Act) : Report × Session :=
  let s := { s with places := [], happened := [], control := .idle }
  let (answer, s) := (s.start act).run fuel
  (⟨answer, s.happened.reverse, s.picture⟩, s)

def perform (fuel : Nat) (level : Option Level) (context : Bool) (acts : List Act) : List Report :=
  let first : Session := { level, context }
  (acts.foldl (fun (reports, s) act =>
    let (report, s) := s.perform fuel act
    (report :: reports, s)) ([], first)).1.reverse

end FiberBridge.Scenario
