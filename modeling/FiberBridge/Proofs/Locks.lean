import FiberBridge.Proofs.Account
import FiberBridge.Proofs.Runs

namespace FiberBridge

-- Everything that a thread can hold. The native lock of a script serializes the calls of its fiber.
inductive Mutex where
  | plain (l : Lock)
  | native (s : ScriptKey)
deriving DecidableEq

def Mutex.reentrant : Mutex → Bool
  | .plain _ => false
  | .native _ => true

-- The script whose native lock is kept until the suspended operation goes on. A refused fiber and one
-- that was never registered are released without it.
def Frame.guards? : Frame → Option ScriptKey
  | .starting s _ => some s
  | .resuming s _ => some s
  | .disposing s _ => some s
  | _ => none

namespace Machine

variable {m : Machine}

def mutexes (m : Machine) : List Mutex :=
  m.held.map .plain ++ (m.stack.filterMap Frame.guards?).map .native

-- To take `x` now is an error: this thread has it, and it cannot be taken twice.
def Blocks (m : Machine) (x : Mutex) : Prop := x ∈ m.mutexes ∧ x.reentrant = false

theorem Reachable.unlocked (reached : Reachable m) :
    m.held = [] ∧ m.deadlocked = false ∧ ∀ q locks, .called q locks ∈ m.events → locks = [] := by
  induction reached with
  | initial => exact ⟨rfl, rfl, fun _ _ bad => nomatch bad⟩
  | step prior step ih =>
    obtain ⟨held, deadlocked, calls⟩ := ih
    exact (step_sections step).free held deadlocked calls

theorem Reachable.mutexes_eq (reached : Reachable m) :
    m.mutexes = (m.stack.filterMap Frame.guards?).map .native := by
  unfold mutexes
  rw [reached.unlocked.1]
  rfl

-- No lock is ever taken by the thread that has it, and none is held when the host or a fiber is
-- called or looked at. So no callback can block on what it takes, whatever it re-enters: all that the
-- thread holds meanwhile are native locks, which it may take again.
theorem never_deadlocked (reached : Reachable m) :
    m.deadlocked = false ∧ m.held = [] ∧
    (∀ q locks, .called q locks ∈ m.events → locks = []) ∧
    (∀ move next reaction, Step m move next reaction → m.Sections next) ∧
    (∀ x, x ∈ m.mutexes ↔ ∃ s frame, x = .native s ∧ frame ∈ m.stack ∧ frame.guards? = some s) ∧
    ∀ x, ¬ m.Blocks x := by
  obtain ⟨held, deadlocked, calls⟩ := reached.unlocked
  have natives (x : Mutex) : x ∈ m.mutexes ↔
      ∃ s frame, x = .native s ∧ frame ∈ m.stack ∧ frame.guards? = some s := by
    rw [reached.mutexes_eq, List.mem_map]
    constructor
    · rintro ⟨s, present, rfl⟩
      obtain ⟨frame, there, guards⟩ := List.mem_filterMap.mp present
      exact ⟨s, frame, rfl, there, guards⟩
    · rintro ⟨s, frame, rfl, there, guards⟩
      exact ⟨s, List.mem_filterMap.mpr ⟨frame, there, guards⟩, rfl⟩
  refine ⟨deadlocked, held, calls, fun _ _ _ step => step_sections step, natives, ?_⟩
  rintro x ⟨present, plain⟩
  obtain ⟨s, _, rfl, _⟩ := (natives x).mp present
  cases plain

-- A start calls a script, which logs; the log handler is replaced from inside itself, the script is
-- resumed and fails to be forwarded, and its error handler registers another script and disposes of it.
def reentered : List Move :=
  [.invoke (.build { log := .host 1, error := .host 2 }), .invoke (.makeFiber ⟨1⟩ 0),
    .invoke (.makeFiber ⟨2⟩ 0), .invoke (.register 0 0), .invoke (.install 0),
    .invoke (.start 0 none), .invoke (.commandUpcall ⟨1⟩ (some "log".toUTF8) 3 ⟨7⟩ false),
    .answer (.decoded (.ok (.str "hi"))), .invoke (.setLog 0 (.host 3)), .answer .done,
    .invoke (.commandUpcall ⟨1⟩ (some "go".toUTF8) 2 ⟨7⟩ false), .invoke (.register 0 1),
    .invoke (.count 0), .invoke (.dispose 1)]

set_option maxRecDepth 10000 in
theorem never_deadlocked_reentered :
    (after reentered).deadlocked = false ∧ (after reentered).held = [] ∧
      (after reentered).mutexes = [.native 1, .native 0, .native 0] ∧
      (∀ x, ¬ (after reentered).Blocks x) := by
  have reached : Reachable (after reentered) :=
    (runs_after (by decide +kernel)).reachable .initial
  obtain ⟨deadlocked, held, _, _, _, open_⟩ := never_deadlocked reached
  exact ⟨deadlocked, held, by decide +kernel, open_⟩

end Machine

end FiberBridge
