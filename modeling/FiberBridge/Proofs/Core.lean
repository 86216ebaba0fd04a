import FiberBridge.Machine.Step

namespace FiberBridge

def Milestone.verdict (id : ScriptId) : Milestone → Option Outcome
  | .armed _ _ => some (.error .canceled)
  | .entered canceled => if canceled then some (.error .canceled) else none
  | .returned wasStart result canceled =>
    if canceled then some (.error .canceled)
    else match result with
      | .error =>
        some (.error (.scriptExecution
          (if wasStart then "failed to start script" else "unknown error")))
      | .yielded => none
      | .done => some (.ok ())
  | .failed e => some (.error e)
  | .torn => some (.error (.useAfterDispose id))

inductive Deed where
  | called (q : HostCall)
  | read (f : FiberKey) (ordinal : Int32)
  | marked (s : ScriptKey) (x : Milestone)
deriving DecidableEq

def Event.deed? : Event → Option Deed
  | .called q _ => some (.called q)
  | .read f ordinal => some (.read f ordinal)
  | .script s x => some (.marked s x)
  | .native _ => none
  | .told _ _ => none

@[ext]
structure Core where
  fibers : Slots Fiber
  scripts : Slots Script
  runs : Slots Run
  tasks : Slots Task
  registry : BridgeKey → Registry
  stack : List Frame
  deeds : List Deed

namespace Core

def note (c : Core) (d : Deed) : Core := { c with deeds := d :: c.deeds }

def ask (c : Core) (q : HostCall) (frame : Frame) : Core :=
  { c with deeds := .called q :: c.deeds, stack := frame :: c.stack }

def setScript (c : Core) (s : ScriptKey) (f : Script → Script) : Core :=
  { c with scripts := c.scripts.update s f }

def setFiber (c : Core) (k : FiberKey) (f : Fiber → Fiber) : Core :=
  { c with fibers := c.fibers.update k f }

def setRun (c : Core) (r : RunKey) (f : Run → Run) : Core :=
  { c with runs := c.runs.update r f }

def setTask (c : Core) (t : TaskKey) (f : Task → Task) : Core :=
  { c with tasks := c.tasks.update t f }

def setRegistry (c : Core) (b : BridgeKey) (f : Registry → Registry) : Core :=
  { c with registry := fun b' => if b = b' then f (c.registry b') else c.registry b' }

end Core

def Slots.settle (runs : Slots Run) (r : RunKey) (o : Outcome) : Slots Run :=
  if (runs.get r).outcome.isSome then runs
  else runs.update r fun run => { run with outcome := some o }

def Slots.settleCurrent (runs : Slots Run) (current : Option RunKey) (o : Option Outcome) :
    Slots Run :=
  match current, o with
  | some r, some o => runs.settle r o
  | _, _ => runs

theorem Slots.settle_settle (runs : Slots Run) (r : RunKey) (o o' : Outcome) :
    (runs.settle r o).settle r o' = runs.settle r o := by
  unfold Slots.settle
  by_cases settled : (runs.get r).outcome.isSome
  · simp [settled]
  · simp [settled, Slots.get_update]

theorem Slots.get_settle (runs : Slots Run) (r r' : RunKey) (o : Outcome) :
    (runs.settle r o).get r' =
      if r = r' then { runs.get r' with outcome := (runs.get r').outcome.or (some o) }
      else runs.get r' := by
  unfold Slots.settle
  by_cases settled : (runs.get r).outcome.isSome
  · rw [if_pos settled]
    split
    · rename_i same
      subst same
      rw [Option.or_of_isSome settled]
    · rfl
  · rw [if_neg settled, Slots.get_update]
    split
    · rename_i same
      subst same
      have pending : (runs.get r).outcome = none := by simpa using settled
      rw [pending, Option.none_or]
    · rfl

theorem Slots.size_le_settle (runs : Slots Run) (r : RunKey) (o : Outcome) :
    runs.size ≤ (runs.settle r o).size := by
  unfold Slots.settle
  split
  · exact Nat.le_refl _
  · exact Slots.size_le_update ..

theorem Slots.size_settle {runs : Slots Run} {r : RunKey} (made : r < runs.size) (o : Outcome) :
    (runs.settle r o).size = runs.size := by
  unfold Slots.settle
  split
  · rfl
  · exact Slots.size_update made _

theorem Slots.get_settleCurrent (runs : Slots Run) (current : Option RunKey) (o : Option Outcome)
    (r : RunKey) :
    (runs.settleCurrent current o).get r =
      if current = some r then { runs.get r with outcome := (runs.get r).outcome.or o }
      else runs.get r := by
  cases current with
  | none => rfl
  | some r' =>
    cases o with
    | none =>
      rw [Option.or_none]
      split <;> rfl
    | some o =>
      unfold Slots.settleCurrent
      rw [Slots.get_settle]
      simp only [Option.some.injEq]

theorem Slots.size_settleCurrent {runs : Slots Run} {current : Option RunKey}
    (made : ∀ r, current = some r → r < runs.size) (o : Option Outcome) :
    (runs.settleCurrent current o).size = runs.size := by
  cases current with
  | none => rfl
  | some r =>
    cases o with
    | none => rfl
    | some o => exact Slots.size_settle (made r rfl) o

theorem Slots.size_le_settleCurrent (runs : Slots Run) (current : Option RunKey)
    (o : Option Outcome) : runs.size ≤ (runs.settleCurrent current o).size := by
  cases current with
  | none => exact Nat.le_refl _
  | some r =>
    cases o with
    | none => exact Nat.le_refl _
    | some o => exact Slots.size_le_settle runs r o

namespace Core

-- An event in the life of `s`: its current run gets the verdict, unless it has an outcome.
def judge (c : Core) (s : ScriptKey) (x : Milestone) : Core :=
  let script := c.scripts.get s
  { c with
    runs := c.runs.settleCurrent script.run (x.verdict script.id)
    deeds := .marked s x :: c.deeds }

-- A new run of `s` becomes the current one; the one before it is judged by that.
def arm (c : Core) (s : ScriptKey) (token : Option TokenKey) (canceled : Bool) : Core :=
  let r := c.runs.size
  let script := c.scripts.get s
  let runs := c.runs.add { script := s, id := script.id }
  let runs := if canceled then runs.settle r (.error .canceled) else runs
  { c with
    runs := runs.settleCurrent script.run (some (.error .canceled))
    scripts := c.scripts.update s fun script => { script with run := some r, token }
    deeds := .marked s (.armed r canceled) :: c.deeds }

theorem judge_get (c : Core) (s : ScriptKey) (x : Milestone) (r : RunKey) :
    (c.judge s x).runs.get r =
      if (c.scripts.get s).run = some r then
        { c.runs.get r with
          outcome := (c.runs.get r).outcome.or (x.verdict (c.scripts.get s).id) }
      else c.runs.get r := Slots.get_settleCurrent ..

theorem arm_get_old {c : Core} {s : ScriptKey} (token : Option TokenKey) (canceled : Bool)
    {r : RunKey} (old : r ≠ c.runs.size) :
    (c.arm s token canceled).runs.get r =
      if (c.scripts.get s).run = some r then
        { c.runs.get r with outcome := (c.runs.get r).outcome.or (some (.error .canceled)) }
      else c.runs.get r := by
  have kept : (if canceled then
      (c.runs.add { script := s, id := (c.scripts.get s).id }).settle c.runs.size
        (.error .canceled)
      else c.runs.add { script := s, id := (c.scripts.get s).id }).get r = c.runs.get r := by
    cases canceled with
    | false => simp [Slots.get_add, Ne.symm old]
    | true => simp [Slots.get_settle, Slots.get_add, Ne.symm old]
  unfold arm
  dsimp only
  rw [Slots.get_settleCurrent, kept]

theorem arm_get_new {c : Core} {s : ScriptKey} (token : Option TokenKey) (canceled : Bool)
    (made : ∀ r, (c.scripts.get s).run = some r → r < c.runs.size) :
    (c.arm s token canceled).runs.get c.runs.size =
      { script := s, id := (c.scripts.get s).id,
        outcome := if canceled then some (.error .canceled) else none } := by
  have other : (c.scripts.get s).run ≠ some c.runs.size := by
    intro same
    exact Nat.lt_irrefl _ (made _ same)
  unfold arm
  dsimp only
  rw [Slots.get_settleCurrent, if_neg other]
  cases canceled with
  | false => simp [Slots.get_add]
  | true => simp [Slots.get_settle, Slots.get_add]

theorem arm_size {c : Core} {s : ScriptKey} (token : Option TokenKey) (canceled : Bool)
    (made : ∀ r, (c.scripts.get s).run = some r → r < c.runs.size) :
    (c.arm s token canceled).runs.size = c.runs.size + 1 := by
  have sizes : (if canceled then
      (c.runs.add { script := s, id := (c.scripts.get s).id }).settle c.runs.size (.error .canceled)
      else c.runs.add { script := s, id := (c.scripts.get s).id }).size = c.runs.size + 1 := by
    cases canceled with
    | false => exact Slots.size_add ..
    | true =>
      have room : c.runs.size < (c.runs.add { script := s, id := (c.scripts.get s).id }).size := by
        rw [Slots.size_add]
        exact Nat.lt_succ_self _
      exact (Slots.size_settle room _).trans (Slots.size_add ..)
  unfold arm
  dsimp only
  rw [Slots.size_settleCurrent, sizes]
  intro r current
  rw [sizes]
  exact Nat.lt_succ_of_lt (made r current)

theorem judge_script (c : Core) (s : ScriptKey) (x : Milestone) (r : RunKey) :
    ((c.judge s x).runs.get r).script = (c.runs.get r).script := by
  rw [judge_get]
  split <;> rfl

theorem size_lt_arm (c : Core) (s : ScriptKey) (token : Option TokenKey) (canceled : Bool) :
    c.runs.size < (c.arm s token canceled).runs.size := by
  refine Nat.lt_of_lt_of_le ?_ (Slots.size_le_settleCurrent ..)
  have added := Slots.size_add c.runs { script := s, id := (c.scripts.get s).id }
  cases canceled with
  | false => exact Nat.lt_of_lt_of_eq (Nat.lt_succ_self _) added.symm
  | true =>
    exact Nat.lt_of_lt_of_le (Nat.lt_of_lt_of_eq (Nat.lt_succ_self _) added.symm)
      (Slots.size_le_settle ..)

theorem arm_script (c : Core) (s : ScriptKey) (token : Option TokenKey) (canceled : Bool)
    (r : RunKey) :
    ((c.arm s token canceled).runs.get r).script =
      if c.runs.size = r then s else (c.runs.get r).script := by
  have settled (runs : Slots Run) (current : Option RunKey) (o : Option Outcome) :
      ((runs.settleCurrent current o).get r).script = (runs.get r).script := by
    rw [Slots.get_settleCurrent]
    split <;> rfl
  unfold arm
  rw [settled]
  cases canceled with
  | false =>
    simp only [Bool.false_eq_true, if_false, Slots.get_add]
    split <;> rfl
  | true =>
    simp only [if_true, Slots.get_settle, Slots.get_add]
    split <;> rfl

def held (c : Core) (s : ScriptKey) : Bool :=
  let script := c.scripts.get s
  script.owned || 0 < script.refs || c.stack.any (Frame.holdsScript s) ||
    c.tasks.any fun t => !t.finished && t.script = s

end Core

namespace Machine

def core (m : Machine) : Core where
  fibers := m.fibers
  scripts := m.scripts
  runs := m.runs
  tasks := m.tasks
  registry := fun b => (m.bridges.get b).registry
  stack := m.stack
  deeds := m.events.filterMap Event.deed?

variable (m : Machine)

@[simp] theorem core_scripts : m.core.scripts = m.scripts := rfl
@[simp] theorem core_runs : m.core.runs = m.runs := rfl
@[simp] theorem core_stack : m.core.stack = m.stack := rfl

@[simp] theorem tell_core (d : Diagnostic) : (m.tell d).core = m.core := rfl
@[simp] theorem lock_core (l : Lock) : (m.lock l).core = m.core := rfl
@[simp] theorem unlock_core (l : Lock) : (m.unlock l).core = m.core := rfl
@[simp] theorem ask_core (q : HostCall) (f : Frame) : (m.ask q f).1.core = m.core.ask q f := rfl
@[simp] theorem giveBack_core (r : Returned) : (m.giveBack r).1.core = m.core := rfl
@[simp] theorem setScript_core (s : ScriptKey) (f : Script → Script) :
    (m.setScript s f).core = m.core.setScript s f := rfl

theorem setBridge_core {b : BridgeKey} {f : Bridge → Bridge} {g : Registry → Registry}
    (same : ∀ bridge, (f bridge).registry = g bridge.registry) :
    (m.setBridge b f).core = m.core.setRegistry b g := by
  simp only [core, setBridge, Core.setRegistry, Core.mk.injEq, true_and, and_true]
  funext b'
  rw [Slots.get_update]
  split
  · exact same _
  · rfl

theorem setBridge_core_same {b : BridgeKey} {f : Bridge → Bridge}
    (same : ∀ bridge, (f bridge).registry = bridge.registry) : (m.setBridge b f).core = m.core := by
  rw [setBridge_core m (g := id) same]
  simp only [Core.setRegistry, id, ite_self]

@[simp] theorem settle_core (r : RunKey) (o : Outcome) :
    (m.settle r o).core = { m.core with runs := m.runs.settle r o } := by
  unfold settle Slots.settle isSettled
  by_cases settled : (m.runs.get r).outcome.isSome
  · simp only [settled, if_true]; rfl
  · cases o with
    | ok => simp only [settled]; rfl
    | error e =>
      simp only [settled]
      by_cases awaited : (m.runs.get r).awaited
      · simp only [awaited, if_true]; rfl
      · simp only [awaited]; rfl

@[simp] theorem settle_runs (r : RunKey) (o : Outcome) : (m.settle r o).runs = m.runs.settle r o :=
  congrArg Core.runs (m.settle_core r o)

@[simp] theorem settle_scripts (r : RunKey) (o : Outcome) : (m.settle r o).scripts = m.scripts :=
  congrArg Core.scripts (m.settle_core r o)

@[simp] theorem settleTelling_core (r : RunKey) (o : Outcome) (d : Diagnostic) :
    (m.settleTelling r o d).core = { m.core with runs := m.runs.settle r o } := by
  unfold settleTelling
  by_cases settled : m.isSettled r
  · have kept : (m.runs.get r).outcome.isSome := settled
    simp only [settled, Slots.settle, kept, if_true]; rfl
  · simp [settled]

@[simp] theorem settleCurrent_core (s : ScriptKey) (o : Outcome) (d : Diagnostic) :
    (m.settleCurrent s o d).core =
      { m.core with runs := m.runs.settleCurrent (m.scripts.get s).run (some o) } := by
  unfold settleCurrent
  cases (m.scripts.get s).run with
  | none => rfl
  | some r => exact settleTelling_core m r o d

theorem arm_core (s : ScriptKey) (token : Option TokenKey) :
    (m.arm s token).1.core = m.core.arm s token (m.isCanceled token) := by
  have kept : (m.lock (.run s)).isCanceled token = m.isCanceled token := rfl
  unfold arm Core.arm
  simp only [kept, unlock_core, setScript_core, settleCurrent_core]
  cases m.isCanceled token
  · rfl
  · simp only [if_true, settle_core, settle_runs, settle_scripts]; rfl

theorem enter_core (s : ScriptKey) :
    (m.enter s).core = m.core.judge s (.entered (m.tokenCanceled s)) := by
  have kept : (m.lock (.run s)).tokenCanceled s = m.tokenCanceled s := rfl
  unfold enter Core.judge
  simp only [kept, unlock_core, Milestone.verdict]
  cases m.tokenCanceled s
  · cases current : (m.scripts.get s).run <;> simp [current, Slots.settleCurrent] <;> rfl
  · simp only [if_true, settleCurrent_core]; rfl

theorem settleAfter_core (s : ScriptKey) (wasStart : Bool) (result : CallResult) :
    (m.settleAfter s wasStart result).core =
      m.core.judge s (.returned wasStart result (m.tokenCanceled s)) := by
  have kept : (m.lock (.run s)).tokenCanceled s = m.tokenCanceled s := rfl
  have same (x : Milestone) :
      (((m.lock (.run s)).mark s x).scripts.get s).run = (m.scripts.get s).run := rfl
  unfold settleAfter Core.judge
  simp only [kept, unlock_core, same, core_scripts, core_runs]
  cases (m.scripts.get s).run with
  | none => rfl
  | some r =>
    cases m.tokenCanceled s with
    | false =>
      cases result with
      | error => simp only [Bool.false_eq_true, if_false, settleTelling_core]; rfl
      | yielded => rfl
      | done => simp only [Bool.false_eq_true, if_false, settleTelling_core]; rfl
    | true =>
      -- The run is canceled first, and then the result comes too late.
      cases result with
      | error =>
        simp only [if_true, settleTelling_core, settle_core, settle_runs, Slots.settle_settle]; rfl
      | yielded => simp only [if_true, tell_core, settle_core]; rfl
      | done =>
        simp only [if_true, settleTelling_core, settle_core, settle_runs, Slots.settle_settle]; rfl

theorem fail_core (s : ScriptKey) (e : BridgeError) :
    (m.fail s e).core = m.core.judge s (.failed e) := by
  have same (x : Milestone) :
      (((m.lock (.run s)).mark s x).scripts.get s).run = (m.scripts.get s).run := rfl
  have settled (r : RunKey) (x : Milestone) :
      ((m.lock (.run s)).mark s x).isSettled r = (m.runs.get r).outcome.isSome := rfl
  unfold fail Core.judge
  simp only [unlock_core, same, settled, Milestone.verdict, core_scripts, core_runs]
  cases (m.scripts.get s).run with
  | none => rfl
  | some r =>
    by_cases ended : (m.runs.get r).outcome.isSome
    · simp only [ended, if_true, Slots.settleCurrent, Slots.settle]; rfl
    · simp only [ended, Bool.false_eq_true, if_false, settle_core]; rfl

theorem tear_core (s : ScriptKey) : (m.tear s).core = m.core.judge s .torn := by
  have same (x : Milestone) :
      (((m.lock (.run s)).mark s x).scripts.get s).run = (m.scripts.get s).run := rfl
  unfold tear Core.judge
  simp only [unlock_core, same, Milestone.verdict, core_scripts]
  cases (m.scripts.get s).run with
  | none => rfl
  | some r => simp only [settle_core]; rfl

end Machine

end FiberBridge
