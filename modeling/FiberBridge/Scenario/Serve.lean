import FiberBridge.Scenario.Session

namespace FiberBridge.Scenario.Session

def serveFiber (s : Session) (f : FiberKey) : Session :=
  let fiber := s.fibers.get f
  let step := fiber.steps.headD {}
  let ticket := fiber.ticket + 1
  let s := { s with fibers := s.fibers.set f { fiber with steps := fiber.steps.tail, ticket } }
  (s.quiet (.setOrdinal f 1)).push (.serving step.acts (.code f ticket step))

def serveDecode (s : Session) (w : Word) : Session :=
  match s.slot? w with
  | some (.slot onDecode text document) =>
    let d : Decoding := match text with
      | some text => (Json.read text).mapError .unreadable
      | none => .ok document
    s.push (.serving onDecode (.decoded d))
  | _ => s.push (.serving [] (.decoded (.error (.unsupported w.text))))

def serveSchedule (s : Session) : Session :=
  let k := s.signals.size
  { s with signals := s.signals.add true }.push (.serving [] (.notification k))

def addFuture (s : Session) (f : Future) : Session × FutureKey :=
  ({ s with futures := s.futures.add f }, s.futures.size)

def followRule (s : Session) (rule : Rule Act) (script : ScriptKey) : Session :=
  let s := match rule.keepRef with
    | some name => s.putRef name script
    | none => s
  let (s, f) := s.addFuture { stages := rule.stages, causes := rule.causes }
  s.push (.serving rule.sync (.routed f))

def serveRoute (s : Session) (b : BridgeKey) (script : ScriptKey) (name : String) (w : Word) :
    Session :=
  let rules := s.routers.get b
  let rule := ((rules.lookup name).orElse fun _ => rules.lookup "*").getD {}
  match rule.decode with
  | some shape => s.call (.decode script name w shape) (.route rule script) none
  | none => s.followRule rule script

def serve (s : Session) (q : HostCall) : Session :=
  let s := { s with control := .idle }
  match q with
  | .start f => s.serveFiber f
  | .resume f => s.serveFiber f
  | .dispose f => s.push (.serving (s.fibers.get f).onDispose .done)
  | .decode w _ => s.serveDecode w
  | .log h _ => s.push (.serving (s.handlers.get h).acts .done)
  | .error h _ => s.push (.serving (s.handlers.get h).acts .done)
  | .after .. => s.serveSchedule
  | .afterFrames .. => s.serveSchedule
  | .route b script name w => s.serveRoute b script name w
  | .poll _ future => s.push (.driving future)

-- All acts of a served call are done. A fiber that was started or resumed meanwhile keeps the state
-- that this left it in.
def finishServing (s : Session) (goal : Goal) : Session :=
  match goal with
  | .done => s.reply .done
  | .decoded d => s.reply (.decoded d)
  | .notification k => s.reply (.notification (.signal k))
  | .routed f => s.reply (.future f)
  | .code f ticket step =>
    let s :=
      if (s.fibers.get f).ticket = ticket then
        s.quiet (.setOrdinal f (step.state.getD (if step.code = 1 then 3 else 5)))
      else s
    s.reply (.code step.code)

def finishDriving (s : Session) (causes : Option (List String)) : Session :=
  match causes with
  | some causes => s.reply (.polled (.failed causes))
  | none => s.reply (.polled .succeeded)

def gateBroken : List String := ["channel closed"]

def passGate (s : Session) (f : FutureKey) (name : String) (rest : List (Stage Act)) : Session :=
  let future := s.futures.get f
  let gate := (s.gates.find? name).getD {}
  let stay : Session :=
    { s with
      gates := s.gates.put name { gate with taken := true }
      futures := s.futures.set f { future with stages := .gate name :: rest, waiting := some name } }
  let go : Session :=
    { s with
      gates := s.gates.put name { gate with taken := true }
      futures := s.futures.set f { future with stages := rest, waiting := none } }
  if gate.taken ∧ future.waiting ≠ some name then go.push (.driving f)
  else if gate.settled then
    if gate.opened then go.push (.driving f) else go.finishDriving (some gateBroken)
  else stay.reply (.polled .pending)

end FiberBridge.Scenario.Session
