import FiberBridge.Machine.Reports

namespace FiberBridge.Machine

-- A look at a fiber's state or id is taken to call nothing back. A state nobody documented is
-- told.
def readStatus (m : Machine) (f : FiberKey) : Machine × Status :=
  let ordinal := (m.fibers.get f).ordinal
  let m := m.log (.read f ordinal)
  let m := if (Status.documented? ordinal).isSome then m else m.tell (.statusUnknown ordinal)
  (m, Status.ofOrdinal ordinal)

def status (m : Machine) (s : ScriptKey) : Machine × Except BridgeError Status :=
  let script := m.scripts.get s
  if script.disposed then (m, .error (.useAfterDispose script.id))
  else
    let (m, status) := m.readStatus script.fiber
    (m, .ok status)

def readResult (m : Machine) (code : Int32) : Machine × CallResult :=
  let m := if (CallResult.documented? code).isSome then m else m.tell (.resultUnknown code)
  (m, CallResult.ofCode code)

-- Puts a fiber under its id. While a live script holds the id the fiber is released instead.
def register (m : Machine) (b : BridgeKey) (f : FiberKey) : Machine × Reaction :=
  let id := (m.fibers.get f).id
  let s := m.scripts.size
  let m := m.setFiber f fun fiber => { fiber with held := false }
  let m := { m with scripts := m.scripts.add { id, fiber := f, bridge := b, disposed := false } }
  let m := m.lock (.registry b)
  match m.find? b id with
  | some _ =>
    let m := m.unlock (.registry b)
    let m := m.setScript s fun script => { script with disposed := true }
    let m := m.setFiber f fun fiber => { fiber with released := true }
    m.ask (.dispose f) (.refusing b s)
  | none =>
    let m := m.setBridge b fun bridge => { bridge with registry := bridge.registry.insert id s }
    let m := m.unlock (.registry b)
    let m := m.setScript s fun script => { script with accepted := true, owned := true }
    (m.tell (.scriptRegistered id)).giveBack (.keyed (.ok s))

def refused (m : Machine) (s : ScriptKey) : Machine × Reaction :=
  m.giveBack (.keyed (.error (.duplicateScript (m.idOf s))))

-- Each operation is split at its one call into the fiber: this part leaves a frame, and `started`
-- runs when the fiber has answered.
def start (m : Machine) (s : ScriptKey) (token : Option TokenKey) : Machine × Reaction :=
  let (m, status) := m.status s
  match status with
  | .error e => m.giveBack (.keyed (.error e))
  | .ok status =>
    if status.startable then
      let (m, r) := m.arm s token
      (m.tell (.starting (m.idOf s) status)).ask (.start (m.scripts.get s).fiber) (.starting s r)
    else m.giveBack (.keyed (.error (.invalidState (m.idOf s) status)))

def started (m : Machine) (s : ScriptKey) (r : RunKey) (code : Int32) : Machine × Reaction :=
  let (m, result) := m.readResult code
  (m.settleAfter s true result).giveBack (.keyed (.ok r))

def refuseResume (m : Machine) (s : ScriptKey) (who : Resumer) : Machine × Reaction :=
  let e := BridgeError.useAfterDispose (m.idOf s)
  match who with
  | .host _ => m.giveBack (.resumed (.error e))
  | .command c => m.refuseCommand c e
  | .task t => m.deliver (m.tasks.get t).bridge (some s) e (.task t) none

def resume (m : Machine) (s : ScriptKey) (who : Resumer) : Machine × Reaction :=
  let script := m.scripts.get s
  if script.disposed then m.refuseResume s who
  else ((m.enter s).tell (.resuming script.id)).ask (.resume script.fiber) (.resuming s who)

def resumeDone (m : Machine) (who : Resumer) : Machine × Reaction :=
  match who with
  | .host _ => m.giveBack (.resumed (.ok ()))
  | .command c => m.complete c.origin
  | .task t => m.finishTask t

def resumed (m : Machine) (s : ScriptKey) (who : Resumer) (code : Int32) : Machine × Reaction :=
  let (m, result) := m.readResult code
  (m.settleAfter s false result).resumeDone who

-- After the fiber is released the id is free and a pending run ends.
def disposed (m : Machine) (s : ScriptKey) : Machine × Reaction :=
  let script := m.scripts.get s
  let m := m.lock (.registry script.bridge)
  let m := m.setBridge script.bridge fun bridge =>
    { bridge with registry := bridge.registry.remove script.id s }
  let m := m.unlock (.registry script.bridge)
  ((m.tear s).tell (.scriptDisposed script.id)).giveBack .done

def dispose (m : Machine) (s : ScriptKey) (dropped : Bool) : Machine × Reaction :=
  let script := m.scripts.get s
  if script.disposed then m.giveBack .done
  else
    let m := m.setScript s fun script => { script with disposed := true }
    let m := m.setFiber script.fiber fun fiber => { fiber with released := true }
    m.ask (.dispose script.fiber) (.disposing s dropped)

def dropHandle (m : Machine) (s : ScriptKey) : Machine × Reaction :=
  (m.setScript s fun script => { script with owned := false }).dispose s true

def dropFiber (m : Machine) (f : FiberKey) : Machine × Reaction :=
  (m.setFiber f fun fiber => { fiber with held := false, released := true }).ask (.dispose f)
    (.releasing f)

def releasedFiber (m : Machine) (f : FiberKey) : Machine :=
  m.setFiber f fun fiber => { fiber with gone := true }

end FiberBridge.Machine
