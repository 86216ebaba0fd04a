import FiberBridge.Proofs.Current
import FiberBridge.Proofs.Turn

namespace FiberBridge

def Run.bare (run : Run) : Run := { run with outcome := none }

def Event.outward : Event → Bool
  | .called _ _ => true
  | .read _ _ => true
  | .native _ => true
  | .told d _ => d.act?.isSome
  | .script _ _ => false

def Event.letsGo? : Event → Option ContextKey
  | .native (.contextDispose c) => some c
  | _ => none

namespace Machine

variable {m n k l m' n' : Machine} {s : ScriptKey} {r : RunKey}

structure Calm (m n : Machine) : Prop where
  tokens : n.canceled = m.canceled
  contexts : n.contexts = m.contexts
  events : ∃ news, n.events = news ++ m.events ∧ ∀ e ∈ news, e.letsGo? = none

namespace Calm

theorem silent (tokens : n.canceled = m.canceled) (contexts : n.contexts = m.contexts)
    (events : n.events = m.events) : m.Calm n := ⟨tokens, contexts, [], events, List.forall_mem_nil _⟩

theorem refl : m.Calm m := silent rfl rfl rfl

theorem trans (left : m.Calm k) (right : k.Calm l) : m.Calm l := by
  obtain ⟨news, earlier, plain⟩ := left.events
  obtain ⟨news', later, plain'⟩ := right.events
  refine ⟨right.tokens.trans left.tokens, right.contexts.trans left.contexts, news' ++ news, ?_, ?_⟩
  · rw [later, earlier, List.append_assoc]
  · intro e present
    exact (List.mem_append.mp present).elim (plain' e) (plain e)

theorem log (calm : m.Calm n) {e : Event} (kept : e.letsGo? = none) : m.Calm (n.log e) :=
  calm.trans ⟨rfl, rfl, [e], rfl, fun _ present => List.mem_singleton.mp present ▸ kept⟩

end Calm

def Bounded (m : Machine) : Prop := ∀ s r, (m.scripts.get s).run = some r → r < m.runs.size

theorem Reachable.bounded (reached : Reachable m) : m.Bounded :=
  fun s r current => (reached.linked.current s r current).1

-- The second machine is the first but for tokens, outcomes and diagnostics.
inductive Twin (m : Machine) : Machine → Prop where
  | veiled {canceled : List TokenKey} {runs : Slots Run} {events : List Event} (bounded : m.Bounded)
      (size : runs.size = m.runs.size) (bare : ∀ r, (runs.get r).bare = (m.runs.get r).bare)
      (outward : events.filter Event.outward = m.events.filter Event.outward) :
      Twin m { m with canceled, runs, events }

namespace Twin

theorem refl (bounded : m.Bounded) : m.Twin m := .veiled bounded rfl (fun _ => rfl) rfl

theorem symm (twin : m.Twin n) : n.Twin m := by
  cases twin with
  | veiled bounded size bare outward =>
    exact .veiled (fun s r current => size ▸ bounded s r current) size.symm
      (fun r => (bare r).symm) outward.symm

theorem trans (left : m.Twin n) (right : n.Twin k) : m.Twin k := by
  cases left with
  | veiled bounded size bare outward =>
    cases right with
    | veiled bounded' size' bare' outward' =>
      exact .veiled bounded (size'.trans size) (fun r => (bare' r).trans (bare r))
        (outward'.trans outward)

theorem bounded (twin : m.Twin n) : m.Bounded := by
  cases twin with
  | veiled bounded size bare outward => exact bounded

theorem size (twin : m.Twin n) : n.runs.size = m.runs.size := by
  cases twin with
  | veiled bounded size bare outward => exact size

theorem bare (twin : m.Twin n) (r : RunKey) : (n.runs.get r).bare = (m.runs.get r).bare := by
  cases twin with
  | veiled bounded size bare outward => exact bare r

theorem outward (twin : m.Twin n) :
    n.events.filter Event.outward = m.events.filter Event.outward := by
  cases twin with
  | veiled bounded size bare outward => exact outward

theorem reads {α : Type} (twin : m.Twin n) (f : Machine → α)
    (blind : ∀ canceled runs events, f { m with canceled, runs, events } = f m) : f n = f m := by
  cases twin with
  | veiled => exact blind ..

theorem stack (twin : m.Twin n) : n.stack = m.stack := twin.reads (·.stack) fun _ _ _ => rfl

theorem script (twin : m.Twin n) (s : ScriptKey) : n.scripts.get s = m.scripts.get s :=
  twin.reads (·.scripts.get s) fun _ _ _ => rfl

theorem task (twin : m.Twin n) (t : TaskKey) : n.tasks.get t = m.tasks.get t :=
  twin.reads (·.tasks.get t) fun _ _ _ => rfl

theorem log (twin : m.Twin n) (e : Event) : (m.log e).Twin (n.log e) := by
  cases twin with
  | veiled bounded size bare outward =>
    refine .veiled bounded size bare ?_
    change (e :: _).filter Event.outward = (e :: m.events).filter Event.outward
    rw [List.filter_cons, List.filter_cons, outward]

-- What is done to the rest of the state is the same.
theorem map (twin : m.Twin n) (g : Machine → Machine)
    (blind : ∀ canceled runs events,
      g { m with canceled, runs, events } = { g m with canceled, runs, events })
    (runs : (g m).runs = m.runs) (events : (g m).events = m.events)
    (current : ∀ s, ((g m).scripts.get s).run = (m.scripts.get s).run) : (g m).Twin (g n) := by
  cases twin with
  | @veiled canceled runs' events' bounded size bare outward =>
    rw [blind canceled runs' events']
    refine .veiled ?_ (by rw [runs]; exact size) (fun r => by rw [runs]; exact bare r)
      (by rw [events]; exact outward)
    intro s r found
    rw [current] at found
    rw [runs]
    exact bounded s r found

theorem setRun (twin : m.Twin n) (r : RunKey) {f : Run → Run}
    (blind : ∀ run run', run'.bare = run.bare → (f run').bare = (f run).bare) :
    (m.setRun r f).Twin (n.setRun r f) := by
  cases twin with
  | @veiled canceled runs events bounded size bare outward =>
    have sizes : (runs.update r f).size = (m.runs.update r f).size := by
      unfold Slots.update
      rw [Slots.size_set, Slots.size_set, size]
    refine .veiled ?_ sizes ?_ outward
    · intro s r' current
      exact Nat.lt_of_lt_of_le (bounded s r' current) (Slots.size_le_update ..)
    · intro r'
      change ((runs.update r f).get r').bare = ((m.runs.update r f).get r').bare
      rw [Slots.get_update, Slots.get_update]
      split
      · exact blind _ _ (bare r')
      · exact bare r'

theorem outcome (twin : m.Twin n) (made : r < m.runs.size) {f : Run → Run}
    (hidden : ∀ run, (f run).bare = run.bare) : m.Twin (n.setRun r f) := by
  cases twin with
  | @veiled canceled runs events bounded size bare outward =>
    refine .veiled bounded ((Slots.size_update (size ▸ made) f).trans size) ?_ outward
    intro r'
    rw [Slots.get_update]
    split
    · exact (hidden _).trans (bare r')
    · exact bare r'

end Twin

structure Unseen (m n : Machine) : Prop where
  twin : m.Twin n
  calm : m.Calm n

namespace Unseen

theorem refl (bounded : m.Bounded) : m.Unseen m := ⟨.refl bounded, .refl⟩

theorem mark (unseen : m.Unseen n) {x : Milestone} : m.Unseen (n.mark s x) := by
  obtain ⟨twin, calm⟩ := unseen
  cases twin with
  | veiled bounded size bare outward => exact ⟨.veiled bounded size bare outward, calm.log rfl⟩

theorem tell (unseen : m.Unseen n) {d : Diagnostic} (plain : d.act? = none) :
    m.Unseen (n.tell d) := by
  obtain ⟨twin, calm⟩ := unseen
  cases twin with
  | @veiled canceled runs events bounded size bare outward =>
    refine ⟨.veiled bounded size bare ?_, calm.log rfl⟩
    rw [List.filter_cons_of_neg]
    · exact outward
    · simp [Event.outward, plain]

theorem settle (unseen : m.Unseen n) (made : r < m.runs.size) {o : Outcome} :
    m.Unseen (n.settle r o) := by
  have recorded : m.Unseen (n.setRun r fun run => { run with outcome := some o }) :=
    ⟨unseen.twin.outcome made fun _ => rfl, unseen.calm.trans (.silent rfl rfl rfl)⟩
  unfold Machine.settle
  split
  · exact unseen
  · cases o with
    | ok => exact recorded
    | error e =>
      dsimp only
      split
      · exact recorded
      · exact recorded.tell rfl

theorem settleTelling (unseen : m.Unseen n) (made : r < m.runs.size) {o : Outcome} {d : Diagnostic}
    (plain : d.act? = none) : m.Unseen (n.settleTelling r o d) := by
  unfold Machine.settleTelling
  split
  · exact unseen
  · exact (unseen.settle made).tell plain

theorem scripts (unseen : m.Unseen n) : n.scripts = m.scripts := by
  obtain ⟨twin, _⟩ := unseen
  cases twin with
  | veiled => rfl

theorem settleCurrent (unseen : m.Unseen n) {o : Outcome} {d : Diagnostic} (plain : d.act? = none) :
    m.Unseen (n.settleCurrent s o d) := by
  unfold Machine.settleCurrent
  split
  · rename_i r current
    rw [unseen.scripts] at current
    exact unseen.settleTelling (unseen.twin.bounded s r current) plain
  · exact unseen

theorem settleIf (unseen : m.Unseen n) (made : r < m.runs.size) {o : Outcome} {canceled : Bool} :
    m.Unseen (if canceled then n.settle r o else n) := by
  split
  · exact unseen.settle made
  · exact unseen

end Unseen

-- What is decided about a run under its script's lock is not seen.
def Guarded (m : Machine) (s : ScriptKey) (n : Machine) : Prop :=
  ∃ k, (m.lock (.run s)).Unseen k ∧ n = k.unlock (.run s)

theorem guarded_enter (bounded : m.Bounded) : m.Guarded s (m.enter s) := by
  have start : (m.lock (.run s)).Unseen (m.lock (.run s)) := .refl bounded
  refine ⟨_, ?_, rfl⟩
  split
  · exact start.mark.settleCurrent rfl
  · exact start.mark

theorem guarded_settleAfter (bounded : m.Bounded) {wasStart : Bool} {result : CallResult} :
    m.Guarded s (m.settleAfter s wasStart result) := by
  have start : (m.lock (.run s)).Unseen (m.lock (.run s)) := .refl bounded
  refine ⟨_, ?_, rfl⟩
  split
  · exact start.mark
  · rename_i r current
    have made : r < m.runs.size := bounded s r current
    cases result with
    | error => exact (start.mark.settleIf made).settleTelling made rfl
    | yielded => exact (start.mark.settleIf made).tell rfl
    | done => exact (start.mark.settleIf made).settleTelling made rfl

theorem guarded_fail (bounded : m.Bounded) {e : BridgeError} : m.Guarded s (m.fail s e) := by
  have start : (m.lock (.run s)).Unseen (m.lock (.run s)) := .refl bounded
  refine ⟨_, ?_, rfl⟩
  split
  · rename_i r current
    have made : r < m.runs.size := bounded s r current
    split
    · exact start.mark.tell rfl
    · exact (start.mark.tell rfl).settle made
  · exact start.mark.tell rfl

theorem guarded_tear (bounded : m.Bounded) : m.Guarded s (m.tear s) := by
  have start : (m.lock (.run s)).Unseen (m.lock (.run s)) := .refl bounded
  refine ⟨_, ?_, rfl⟩
  split
  · rename_i r current
    exact start.mark.settle (bounded s r current)
  · exact start.mark

-- `k` came from `m` calmly, and `l` is its twin.
structure Alike (m k l : Machine) : Prop where
  twin : k.Twin l
  calm : m.Calm k

structure Along {α : Type} (m : Machine) (x y : Machine × α) : Prop where
  alike : m.Alike x.1 y.1
  same : y.2 = x.2

namespace Alike

theorem refl (twin : m.Twin n) : m.Alike m n := ⟨twin, .refl⟩

theorem log (alike : m.Alike k l) {e : Event} (kept : e.letsGo? = none) :
    m.Alike (k.log e) (l.log e) := ⟨alike.twin.log e, alike.calm.log kept⟩

theorem tell (alike : m.Alike k l) (d : Diagnostic) : m.Alike (k.tell d) (l.tell d) := by
  have scope : l.scope = k.scope := by
    cases alike.twin with
    | veiled => rfl
  unfold Machine.tell
  rw [scope]
  exact alike.log rfl

theorem map (alike : m.Alike k l) (g : Machine → Machine)
    (blind : ∀ canceled runs events,
      g { k with canceled, runs, events } = { g k with canceled, runs, events })
    (runs : (g k).runs = k.runs) (events : (g k).events = k.events)
    (canceled : (g k).canceled = k.canceled) (contexts : (g k).contexts = k.contexts)
    (current : ∀ s, ((g k).scripts.get s).run = (k.scripts.get s).run) :
    m.Alike (g k) (g l) :=
  ⟨alike.twin.map g blind runs events current,
    alike.calm.trans (.silent canceled contexts events)⟩

theorem lock (alike : m.Alike k l) (x : Lock) : m.Alike (k.lock x) (l.lock x) :=
  alike.map (·.lock x) (fun _ _ _ => rfl) rfl rfl rfl rfl fun _ => rfl

theorem unlock (alike : m.Alike k l) (x : Lock) : m.Alike (k.unlock x) (l.unlock x) :=
  alike.map (·.unlock x) (fun _ _ _ => rfl) rfl rfl rfl rfl fun _ => rfl

theorem setFiber (alike : m.Alike k l) (f : FiberKey) (g : Fiber → Fiber) :
    m.Alike (k.setFiber f g) (l.setFiber f g) :=
  alike.map (·.setFiber f g) (fun _ _ _ => rfl) rfl rfl rfl rfl fun _ => rfl

theorem setBridge (alike : m.Alike k l) (b : BridgeKey) (g : Bridge → Bridge) :
    m.Alike (k.setBridge b g) (l.setBridge b g) :=
  alike.map (·.setBridge b g) (fun _ _ _ => rfl) rfl rfl rfl rfl fun _ => rfl

theorem setTask (alike : m.Alike k l) (t : TaskKey) (g : Task → Task) :
    m.Alike (k.setTask t g) (l.setTask t g) :=
  alike.map (·.setTask t g) (fun _ _ _ => rfl) rfl rfl rfl rfl fun _ => rfl

theorem enterTask (alike : m.Alike k l) (t : TaskKey) : m.Alike (k.enterTask t) (l.enterTask t) :=
  alike.map (·.enterTask t) (fun _ _ _ => rfl) rfl rfl rfl rfl fun _ => rfl

theorem leaveTask (alike : m.Alike k l) : m.Alike k.leaveTask l.leaveTask :=
  alike.map (·.leaveTask) (fun _ _ _ => rfl) rfl rfl rfl rfl fun _ => rfl

theorem spawn (alike : m.Alike k l) (c : Service) (work : Work) :
    m.Alike (k.spawn c work) (l.spawn c work) :=
  alike.map (·.spawn c work) (fun _ _ _ => rfl) rfl rfl rfl rfl fun _ => rfl

theorem setTarget (alike : m.Alike k l) (b : Option BridgeKey) :
    m.Alike (k.setTarget b) (l.setTarget b) :=
  alike.map (·.setTarget b) (fun _ _ _ => rfl) rfl rfl rfl rfl fun _ => rfl

theorem setScript (alike : m.Alike k l) (s : ScriptKey) {f : Script → Script}
    (current : ∀ script, (f script).run = script.run) :
    m.Alike (k.setScript s f) (l.setScript s f) :=
  alike.map (·.setScript s f) (fun _ _ _ => rfl) rfl rfl rfl rfl fun _ =>
    Slots.field_update Script.run current ..

theorem addScript (alike : m.Alike k l) (script : Script) (first : script.run = none) :
    m.Alike { k with scripts := k.scripts.add script } { l with scripts := l.scripts.add script } :=
  alike.map (fun m => { m with scripts := m.scripts.add script }) (fun _ _ _ => rfl) rfl rfl rfl rfl
    fun _ => Slots.field_add Script.run first ..

theorem setRun (alike : m.Alike k l) (r : RunKey) {f : Run → Run}
    (blind : ∀ run run', run'.bare = run.bare → (f run').bare = (f run).bare) :
    m.Alike (k.setRun r f) (l.setRun r f) :=
  ⟨alike.twin.setRun r blind, alike.calm.trans (.silent rfl rfl rfl)⟩

theorem ask (alike : m.Alike k l) (q : HostCall) (frame : Frame) :
    m.Along (k.ask q frame) (l.ask q frame) := by
  have held : l.held = k.held := by
    cases alike.twin with
    | veiled => rfl
  refine ⟨?_, rfl⟩
  unfold Machine.ask
  rw [held]
  exact (alike.log (e := .called q k.held) rfl).map (fun m => { m with stack := frame :: m.stack })
    (fun _ _ _ => rfl) rfl rfl rfl rfl fun _ => rfl

theorem giveBack (alike : m.Alike k l) (r : Returned) : m.Along (k.giveBack r) (l.giveBack r) :=
  ⟨alike, rfl⟩

theorem guarded (alike : m.Alike k l) (left : k.Guarded s m') (right : l.Guarded s n') :
    m.Alike m' n' := by
  obtain ⟨k', unseen, rfl⟩ := left
  obtain ⟨l', unseen', rfl⟩ := right
  have locked := alike.lock (.run s)
  have both : m.Alike k' l' :=
    ⟨unseen.twin.symm.trans (locked.twin.trans unseen'.twin), locked.calm.trans unseen.calm⟩
  exact both.unlock _

theorem enter (alike : m.Alike k l) (s : ScriptKey) : m.Alike (k.enter s) (l.enter s) :=
  alike.guarded (guarded_enter alike.twin.bounded) (guarded_enter alike.twin.symm.bounded)

theorem settleAfter (alike : m.Alike k l) (s : ScriptKey) (wasStart : Bool) (result : CallResult) :
    m.Alike (k.settleAfter s wasStart result) (l.settleAfter s wasStart result) :=
  alike.guarded (guarded_settleAfter alike.twin.bounded)
    (guarded_settleAfter alike.twin.symm.bounded)

theorem fail (alike : m.Alike k l) (s : ScriptKey) (e : BridgeError) :
    m.Alike (k.fail s e) (l.fail s e) :=
  alike.guarded (guarded_fail alike.twin.bounded) (guarded_fail alike.twin.symm.bounded)

theorem tear (alike : m.Alike k l) (s : ScriptKey) : m.Alike (k.tear s) (l.tear s) :=
  alike.guarded (guarded_tear alike.twin.bounded) (guarded_tear alike.twin.symm.bounded)

end Alike

def addRun (m : Machine) (s : ScriptKey) : Machine :=
  let m := m.lock (.run s)
  { m with runs := m.runs.add { script := s, id := m.idOf s } }

theorem size_addRun : (m.addRun s).runs.size = m.runs.size + 1 := Slots.size_add ..

theorem arm_unseen (bounded : m.Bounded) (token : Option TokenKey) :
    ∃ k, (m.addRun s).Unseen k ∧
      m.arm s token =
        ((k.setScript s fun script => { script with run := some m.runs.size, token }).unlock (.run s),
          m.runs.size) := by
  have bounded' : (m.addRun s).Bounded := fun s r current =>
    size_addRun ▸ Nat.lt_succ_of_lt (bounded s r current)
  have start : (m.addRun s).Unseen (m.addRun s) := .refl bounded'
  refine ⟨_, ?_, rfl⟩
  exact (start.mark.settleIf (size_addRun ▸ Nat.lt_succ_self _)).settleCurrent rfl

theorem addRun_twin (twin : m.Twin n) : (m.addRun s).Twin (n.addRun s) := by
  cases twin with
  | @veiled canceled runs events bounded size bare outward =>
    refine .veiled ?_ ?_ ?_ outward
    · intro s' r current
      rw [size_addRun]
      exact Nat.lt_succ_of_lt (bounded s' r current)
    · rw [size_addRun, ← size]
      exact Slots.size_add ..
    · intro r
      change ((runs.add _).get r).bare = ((m.runs.add _).get r).bare
      rw [Slots.get_add, Slots.get_add, size]
      split
      · rfl
      · exact bare r

theorem Twin.setCurrent (twin : k.Twin l) (made : r < k.runs.size) (token : Option TokenKey) :
    (k.setScript s fun script => { script with run := some r, token }).Twin
      (l.setScript s fun script => { script with run := some r, token }) := by
  cases twin with
  | veiled bounded size bare outward =>
    refine .veiled ?_ size bare outward
    intro s' r' current
    change ((k.scripts.update s _).get s').run = some r' at current
    rw [Slots.get_update] at current
    split at current
    · cases current
      exact made
    · exact bounded s' r' current

theorem arm_along (alike : m.Alike k l) (token : Option TokenKey) :
    m.Along (k.arm s token) (l.arm s token) := by
  obtain ⟨k', unseen, armed⟩ := arm_unseen (s := s) alike.twin.bounded token
  obtain ⟨l', unseen', armed'⟩ := arm_unseen (s := s) alike.twin.symm.bounded token
  have both : k'.Twin l' :=
    unseen.twin.symm.trans ((addRun_twin alike.twin).trans unseen'.twin)
  have room : k.runs.size < k'.runs.size := by
    rw [unseen.twin.size, size_addRun]
    exact Nat.lt_succ_self _
  have added : k.Calm (k.addRun s) := .silent rfl rfl rfl
  rw [armed, armed', alike.twin.size]
  have current : m.Alike
      (k'.setScript s fun script => { script with run := some k.runs.size, token })
      (l'.setScript s fun script => { script with run := some k.runs.size, token }) :=
    ⟨both.setCurrent room token,
      ((alike.calm.trans added).trans unseen.calm).trans (.silent rfl rfl rfl)⟩
  exact ⟨current.unlock _, rfl⟩

end Machine

end FiberBridge
