import FiberBridge.Machine.Tasks

namespace FiberBridge

-- Does this frame keep bridge `b` alive? An installation does not, and tasks keep a bridge's
-- handlers only.
def Frame.keepsBridge (b : BridgeKey) : Frame → Bool
  | .refusing b' _ => b' = b
  | .decoding c _ => c.bridge = b
  | .logging c => c.bridge = b
  | .scheduling c => c.bridge = b
  | .routing c => c.bridge = b
  | .resuming _ (.command c) => c.bridge = b
  | .reporting b' _ origin _ =>
    match origin with
    | .task _ => false
    | _ => b' = b
  | _ => false

namespace Machine

def bridgeAlive (m : Machine) (b : BridgeKey) : Bool :=
  0 < (m.bridges.get b).clones || m.stack.any (Frame.keepsBridge b)

def liveTarget (m : Machine) : Machine × Option BridgeKey :=
  let m := m.lock .upcallTarget
  (m.unlock .upcallTarget, m.target.filter m.bridgeAlive)

def setTarget (m : Machine) (b : Option BridgeKey) : Machine :=
  { m.lock .upcallTarget with target := b }.unlock .upcallTarget

def install (m : Machine) (b : BridgeKey) : Machine :=
  let m := m.setTarget (some b)
  ({ m with callbacks := true }.log (.native (.setCallbacks true true))).tell .upcallsInstalled

def uninstall (m : Machine) : Machine :=
  let m := { m with callbacks := false }.log (.native (.setCallbacks false false))
  (m.setTarget none).tell .upcallsUninstalled

def nativeName (bytes : Option ByteArray) (length : Int32) : ByteArray :=
  match bytes with
  | none => ByteArray.empty
  | some bytes => bytes.extract 0 length.toInt.toNat

def nativeText (bytes : Option ByteArray) : String :=
  match bytes with
  | none => "unknown error"
  | some bytes => Utf8.lossy ⟨(bytes.toList.takeWhile (· ≠ 0)).toArray⟩

def commandUpcall (m : Machine) (id : ScriptId) (name : Option ByteArray) (length : Int32)
    (word : Word) (ambient : Bool) : Machine × Reaction :=
  let (m, target) := m.liveTarget
  match target with
  | none => (m.tell (.noBridge .command id)).giveBack .done
  | some b => m.command b id (nativeName name length) word ambient (.upcall .command id)

def errorUpcall (m : Machine) (id : ScriptId) (description : Option ByteArray) :
    Machine × Reaction :=
  let (m, target) := m.liveTarget
  match target with
  | none => (m.tell (.noBridge .error id)).giveBack .done
  | some b => m.raise b id (nativeText description) (.upcall .error id)

def newContext (m : Machine) (available : Bool) : Machine × Reaction :=
  let m := m.log (.native .contextNew)
  if available then
    { m with contexts := m.contexts.add { held := true, disposed := false } }.giveBack
      (.keyed (.ok m.contexts.size))
  else m.giveBack (.keyed (.error (.scriptExecution "fl_context_new returned null")))

-- Compiles a text of a length in a context. `made` is the script that the native side makes of it,
-- by its id and its first state.
def compile (m : Machine) (c : ContextKey) (length : Nat) (made : Option (ScriptId × Int32)) :
    Machine × Reaction :=
  let m := m.log (.native (.compile length))
  match made with
  | none => m.giveBack (.keyed (.error (.scriptExecution "failed to compile script")))
  | some (id, ordinal) =>
    let f := m.fibers.size
    let m := { m with fibers := m.fibers.add { id, ordinal, context := some c, held := true } }
    (m.tell (.scriptCompiled id)).giveBack (.keyed (.ok f))

end Machine

end FiberBridge
