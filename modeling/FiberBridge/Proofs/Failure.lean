import FiberBridge.Proofs.Dispatch
import FiberBridge.Proofs.Spent

namespace FiberBridge

namespace Machine

variable {m next : Machine} {move : Move} {reaction : Reaction} {b : BridgeKey} {s : ScriptKey}
  {e : BridgeError}

-- The move makes a command of `s` fail with `e`, to be reported to the error handler of `b`.
inductive Fails (m : Machine) : Move → BridgeKey → ScriptKey → BridgeError → Prop where
  | unreadable {op : Op} {c : Received} {s : ScriptKey} {fault : Utf8.Fault}
      (received : m.received? op = some c) (live : Registered m c.bridge c.id s)
      (unreserved : m.Unreserved c) (read : Utf8.read c.name = .error fault) :
      m.Fails (.invoke op) c.bridge s
        (.codec (Utf8.lossy c.name) ("command name is not UTF-8: " ++ fault.message))
  | unrouted {op : Op} {c : Received} {s : ScriptKey} {text : String}
      (received : m.received? op = some c) (live : Registered m c.bridge c.id s)
      (unreserved : m.Unreserved c) (read : Utf8.read c.name = .ok text)
      (lacking : (m.bridges.get c.bridge).router = false) :
      m.Fails (.invoke op) c.bridge s (.notSupported text noRouter)
  | undriven {op : Op} {c : Received} {s : ScriptKey} {text : String}
      (received : m.received? op = some c) (live : Registered m c.bridge c.id s)
      (unreserved : m.Unreserved c) (read : Utf8.read c.name = .ok text)
      (router : (m.bridges.get c.bridge).router = true)
      (lacking : ((m.bridges.get c.bridge).runtime || c.ambient) = false) :
      m.Fails (.invoke op) c.bridge s (.notSupported text noRuntime)
  | routerUnwinds {c : Service} {rest : List Frame} {p : Panic}
      (top : m.stack = .routing c :: rest) :
      m.Fails (.unwind p) c.bridge c.script (.forwardedHandler c.name p.message)
  | workFails {t : TaskKey} {rest : List Frame} {causes : List String}
      (top : m.stack = .polling t :: rest) :
      m.Fails (.answer (.polled (.failed causes))) (m.tasks.get t).bridge (m.tasks.get t).script
        (.forwardedHandler (m.tasks.get t).command (String.intercalate ": " causes))
  | workUnwinds {t : TaskKey} {rest : List Frame} {p : Panic} (top : m.stack = .polling t :: rest) :
      m.Fails (.unwind p) (m.tasks.get t).bridge (m.tasks.get t).script
        (.forwardedHandler (m.tasks.get t).command p.message)

theorem refused_turn {op : Op} {c : Received} (reached : Reachable m)
    (received : m.received? op = some c) (live : Registered m c.bridge c.id s)
    (refused : (m.bridges.get c.bridge).refusal? c.name c.ambient = some e) :
    m.turn (.invoke op) = m.failureTurn c.bridge s e c.origin ∧
      m.fate (.invoke op) = [(s, .failed e)] := by
  have found := (find?_iff_registered reached).mpr live
  constructor
  · obtain ⟨text, turn⟩ := commandTurn_refused (m := m) found refused
    exact (opTurn_received received).trans turn
  · have fate : m.fate (.invoke op) = m.opFate op := rfl
    rw [fate, opFate_received received]
    simp only [commandFate, found, refused]

theorem fails_turn (reached : Reachable m) (fails : m.Fails move b s e) :
    ∃ origin, origin.task? = m.worker? move ∧ m.turn move = m.failureTurn b s e origin ∧
      m.fate move = [(s, .failed e)] := by
  have incoming {op : Op} {c : Received} (received : m.received? op = some c) :
      c.origin.task? = m.worker? (.invoke op) :=
    (received_grounded received).trans (received_worker received).symm
  cases fails with
  | @unreadable op c s fault received live unreserved read =>
    refine ⟨c.origin, incoming received, refused_turn reached received live ?_⟩
    simp only [Bridge.refusal?, unreserved_iff.mp unreserved, read]
  | @unrouted op c s text received live unreserved read lacking =>
    refine ⟨c.origin, incoming received, refused_turn reached received live ?_⟩
    simp only [Bridge.refusal?, unreserved_iff.mp unreserved, read, lacking, Bool.not_false, if_true]
  | @undriven op c s text received live unreserved read router lacking =>
    refine ⟨c.origin, incoming received, refused_turn reached received live ?_⟩
    simp only [Bridge.refusal?, unreserved_iff.mp unreserved, read, router, lacking, Bool.not_true,
      Bool.false_eq_true, if_false]
  | @routerUnwinds c rest p top =>
    refine ⟨c.origin, ?_, ?_, ?_⟩
    · simp only [worker?, top]
      rfl
    · simp only [turn, top]
      rfl
    · simp only [fate, top]
      rfl
  | @workFails t rest causes top =>
    refine ⟨.task t, ?_, ?_, ?_⟩
    · simp only [worker?, top]
      rfl
    · simp only [turn, top]
      rfl
    · simp only [fate, top]
      rfl
  | @workUnwinds t rest p top =>
    refine ⟨.task t, ?_, ?_, ?_⟩
    · simp only [worker?, top]
      rfl
    · simp only [turn, top]
      rfl
    · simp only [fate, top]
      rfl

theorem fails_concludes {t : TaskKey} (reached : Reachable m) (fails : m.Fails move b s e)
    (works : m.worker? move = some t) : t < m.tasks.size ∧ m.concludes t move = true := by
  have incoming {op : Op} {c : Received} (received : m.received? op = some c)
      (works : m.worker? (.invoke op) = some t) : False := by
    rw [received_worker received] at works
    cases works
  cases fails with
  | @unreadable op c s fault received live unreserved read => exact (incoming received works).elim
  | @unrouted op c s text received live unreserved read lacking =>
    exact (incoming received works).elim
  | @undriven op c s text received live unreserved read router lacking =>
    exact (incoming received works).elim
  | @routerUnwinds c rest p top =>
    have free : c.origin.task? = none := reached.grounded (.routing c) (by simp [top]) c rfl
    simp only [worker?, top, List.head?_cons, Option.bind_some] at works
    exact absurd (free.symm.trans works) (by simp)
  | @workFails t' rest causes top =>
    simp only [worker?, top, List.head?_cons, Option.bind_some] at works
    cases works
    exact ⟨(reached.polling (by simp [top])).1, by simp [concludes, top]⟩
  | @workUnwinds t' rest p top =>
    simp only [worker?, top, List.head?_cons, Option.bind_some] at works
    cases works
    exact ⟨(reached.polling (by simp [top])).1, by simp [concludes, top]⟩

def telling (m : Machine) (b : BridgeKey) (s : ScriptKey) (origin : Origin) : List Frame :=
  match (m.bridges.get b).error with
  | .builtIn => []
  | .host _ => [.reporting b (some s) origin none]

-- A command failed with `e`: its run is settled first, then the error handler of `b` is given the
-- same error, once. When the handler is done nothing more is decided or called.
structure Failed (m : Machine) (move : Move) (b : BridgeKey) (s : ScriptKey) (e : BridgeError)
    (next : Machine) (reaction : Reaction) : Prop where
  acts : next.acts = m.delivery b e :: .deed (.marked s (.failed e)) :: m.acts
  call : reaction.call? = match (m.bridges.get b).error with
    | .builtIn => none
    | .host h => some (.error h e)
  size : next.runs.size = m.runs.size
  settled : ∀ r, r < m.runs.size → (next.runs.get r).outcome =
    if (m.scripts.get s).run = some r then (m.runs.get r).outcome.or (some (.error e))
    else (m.runs.get r).outcome
  stack : ∃ origin, next.stack = m.telling b s origin ++ m.below move
  done : ∀ later move' last reaction' origin rest, Reachable later →
    later.stack = .reporting b (some s) origin none :: rest → (∀ op, move' ≠ .invoke op) →
    Step later move' last reaction' →
    last.acts = later.acts ∧ reaction'.call? = none ∧ last.stack = rest ∧ later.SameOutcomes last
  immediate : m.worker? move = none → next.tasks = m.tasks
  detached : ∀ t moves last, m.worker? move = some t → Runs next moves last →
    next.spent t = true ∧ next.conclusions t moves = 0

theorem failure_agrees (reached : Reachable m) (fails : m.Fails move b s e)
    (step : Step m move next reaction) : m.Failed move b s e next reaction := by
  obtain ⟨origin, works, turn, fate⟩ := fails_turn reached fails
  have takes := step_takes step
  rw [turn] at takes
  refine ⟨?_, ?_, ?_, ?_, ⟨origin, ?_⟩, ?_, ?_, ?_⟩
  · have acts : next.acts = (m.failureTurn b s e origin).acts ++ m.acts := takes.acts
    rw [acts]
    exact congrArg (· ++ m.acts) failureTurn_acts
  · have call : reaction.call? = (m.failureTurn b s e origin).asks.map Prod.fst := takes.call
    rw [call]
    unfold failureTurn Turn.following deliverTurn
    cases (m.bridges.get b).error <;> rfl
  · refine step_runs_size reached step fun event present => ?_
    rw [fate] at present
    cases List.mem_singleton.mp present
    rfl
  · intro r made
    exact step_judges reached step fate made
  · have stack : next.stack = ((m.failureTurn b s e origin).asks.map Prod.snd).toList ++
        m.below move := takes.stack
    rw [stack]
    unfold failureTurn Turn.following deliverTurn telling
    cases (m.bridges.get b).error <;> rfl
  · intro later move' last reaction' origin rest reached' top ends ended
    exact report_over reached' top ends ended
  · intro idle
    have tasks : next.tasks = (m.failureTurn b s e origin).edits.foldl Edit.apply m.tasks :=
      takes.tasks
    have none_left : (m.failureTurn b s e origin).edits = [] := deliverTurn_edits (works.trans idle)
    rw [tasks, none_left]
    rfl
  · intro t moves last own runs
    obtain ⟨made, said⟩ := fails_concludes reached fails own
    have spent : next.spent t = true := by
      rw [(step_spent reached made step).1, said]
      exact Bool.or_true _
    refine ⟨spent, ?_⟩
    have counted := runs.conclusions (reached.step step)
      (Nat.lt_of_lt_of_le made (size_tasks_step step))
    rw [spent] at counted
    have most := Bool.toNat_le (last.spent t)
    simp only [Bool.toNat_true] at counted
    omega

def workedOn : List Move :=
  [.invoke (.build { router := true, runtime := true, error := .host 0 }),
    .invoke (.makeFiber ⟨1⟩ 0), .invoke (.register 0 0), .invoke (.start 0 none), .answer (.code 1),
    .invoke (.command 0 ⟨1⟩ "hi".toUTF8 ⟨7⟩ false), .answer (.future 0), .invoke (.pollTask 0)]

set_option maxRecDepth 10000 in
theorem failure_agrees_workedOn :
    ((after (workedOn ++ [.answer (.polled (.failed ["a", "b"]))])).runs.get 0).outcome =
      some (.error (.forwardedHandler "hi" "a: b")) := by
  have reached : Reachable (after workedOn) :=
    (runs_after (by decide +kernel)).reachable .initial
  have top : (after workedOn).stack = [.polling 0] := by decide +kernel
  have advanced : (after workedOn).advance? (.answer (.polled (.failed ["a", "b"]))) =
      some (after (workedOn ++ [.answer (.polled (.failed ["a", "b"]))])) := rfl
  obtain ⟨reaction, step⟩ := advance?_exact.mp advanced
  have fails : (after workedOn).Fails (.answer (.polled (.failed ["a", "b"]))) _ _ _ := .workFails top
  have failed := failure_agrees reached fails step
  have made : 0 < (after workedOn).runs.size := by decide +kernel
  have current : ((after workedOn).scripts.get ((after workedOn).tasks.get 0).script).run = some 0 := by
    decide +kernel
  rw [failed.settled 0 made, if_pos current]
  rfl

end Machine

end FiberBridge
