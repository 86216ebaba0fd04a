import FiberBridge.Proofs.Current
import FiberBridge.Proofs.Protocol
import FiberBridge.Proofs.Swept

namespace FiberBridge

namespace Core

variable {x : Part} {c d e : Core}

def HasRun (x : Part) (c : Core) (r : RunKey) : Prop := r < c.runs.size ∧ x.script (c.runs.get r).script

def HasTask (x : Part) (c : Core) (t : TaskKey) : Prop :=
  t < c.tasks.size ∧ x.script (c.tasks.get t).script

def OffRun (x : Part) (c : Core) (r : RunKey) : Prop := r < c.runs.size ∧ ¬ x.script (c.runs.get r).script

-- Script `s` shares nothing with the part.
structure Off (x : Part) (c : Core) (s : ScriptKey) : Prop where
  made : s < c.scripts.size
  script : ¬ x.script s
  fiber : ¬ x.fiber (c.scripts.get s).fiber
  id : ¬ x.id (c.scripts.get s).id
  run : ∀ r, (c.scripts.get s).run = some r → c.OffRun x r

structure Proper (x : Part) (scripts : Slots Script) (fibers : Slots Fiber) : Prop where
  made : ∀ s, x.script s → s < scripts.size
  found : ∀ f, x.fiber f → f < fibers.size
  others : ∀ s, s < scripts.size → ¬ x.script s →
    ¬ x.fiber (scripts.get s).fiber ∧ ¬ x.id (scripts.get s).id

-- From `c` to `d` nothing was done to the part, and nothing new belongs to it.
structure Spares (x : Part) (c d : Core) : Prop where
  scripts : ∀ s, x.script s → d.scripts.get s = c.scripts.get s
  fibers : ∀ f, x.fiber f → d.fibers.get f = c.fibers.get f
  runs : ∀ r, c.HasRun x r ∨ d.HasRun x r → r < c.runs.size ∧ d.runs.get r = c.runs.get r
  tasks : ∀ t, c.HasTask x t ∨ d.HasTask x t → t < c.tasks.size ∧ d.tasks.get t = c.tasks.get t
  moreRuns : c.runs.size ≤ d.runs.size
  moreTasks : c.tasks.size ≤ d.tasks.size
  moreScripts : c.scripts.size ≤ d.scripts.size
  moreFibers : c.fibers.size ≤ d.fibers.size
  names : ∀ b id s, x.script s → ((d.registry b).get? id = some s ↔ (c.registry b).get? id = some s)
  entries : ∀ b id, x.id id → (d.registry b).get? id = (c.registry b).get? id
  deeds : ∀ f, x.fiber f → d.deeds.filter (Deed.touches f) = c.deeds.filter (Deed.touches f)
  stack : ∃ gone top below, c.stack = gone ++ below ∧ d.stack = top ++ below ∧
    (∀ frame ∈ gone, Apart x c.tasks frame) ∧ ∀ frame ∈ top, Apart x d.tasks frame
  proper : Proper x c.scripts c.fibers → Proper x d.scripts d.fibers

theorem Apart.of_kept {tasks : Slots Task} {frame : Frame}
    (script : ∀ s, frame.holdsScript s → ¬ x.script s) (kept : frame.leaves = false)
    (task : ∀ t, frame.task? = some t → ¬ x.script (tasks.get t).script) : Apart x tasks frame := by
  refine ⟨script, ?_, fun t same _ => task t same⟩
  rintro f rfl
  cases kept

namespace Spares

theorem apart_iff (spares : c.Spares x d) {frame : Frame} :
    Apart x d.tasks frame ↔ Apart x c.tasks frame := by
  constructor
  · intro apart
    refine ⟨apart.script, apart.fiber, ?_⟩
    intro t same made mine
    have still := (spares.tasks t (.inl ⟨made, mine⟩)).2
    exact apart.task t same (Nat.lt_of_lt_of_le made spares.moreTasks) (still.symm ▸ mine)
  · intro apart
    refine ⟨apart.script, apart.fiber, ?_⟩
    intro t same made mine
    obtain ⟨before, still⟩ := spares.tasks t (.inr ⟨made, mine⟩)
    exact apart.task t same before (still ▸ mine)

theorem refl : c.Spares x c :=
  ⟨fun _ _ => rfl, fun _ _ => rfl, fun _ has => ⟨has.elim (·.1) (·.1), rfl⟩,
    fun _ has => ⟨has.elim (·.1) (·.1), rfl⟩, Nat.le_refl _, Nat.le_refl _, Nat.le_refl _,
    Nat.le_refl _, fun _ _ _ _ => Iff.rfl,
    fun _ _ _ => rfl, fun _ _ => rfl,
    ⟨[], [], c.stack, rfl, rfl, List.forall_mem_nil _, List.forall_mem_nil _⟩, id⟩

theorem trans (left : c.Spares x d) (right : d.Spares x e) : c.Spares x e := by
  refine ⟨?_, ?_, ?_, ?_, Nat.le_trans left.moreRuns right.moreRuns,
    Nat.le_trans left.moreTasks right.moreTasks, Nat.le_trans left.moreScripts right.moreScripts,
    Nat.le_trans left.moreFibers right.moreFibers, ?_, ?_, ?_, ?_,
    fun proper => right.proper (left.proper proper)⟩
  · intro s mine
    exact (right.scripts s mine).trans (left.scripts s mine)
  · intro f mine
    exact (right.fibers f mine).trans (left.fibers f mine)
  · intro r has
    have middle : d.HasRun x r := by
      rcases has with ⟨old, mine⟩ | new
      · obtain ⟨_, same⟩ := left.runs r (.inl ⟨old, mine⟩)
        exact ⟨Nat.lt_of_lt_of_le old left.moreRuns, same ▸ mine⟩
      · obtain ⟨old, same⟩ := right.runs r (.inr new)
        exact ⟨old, same ▸ new.2⟩
    obtain ⟨old, same⟩ := left.runs r (.inr middle)
    exact ⟨old, (right.runs r (.inl middle)).2.trans same⟩
  · intro t has
    have middle : d.HasTask x t := by
      rcases has with ⟨old, mine⟩ | new
      · obtain ⟨_, same⟩ := left.tasks t (.inl ⟨old, mine⟩)
        exact ⟨Nat.lt_of_lt_of_le old left.moreTasks, same ▸ mine⟩
      · obtain ⟨old, same⟩ := right.tasks t (.inr new)
        exact ⟨old, same ▸ new.2⟩
    obtain ⟨old, same⟩ := left.tasks t (.inr middle)
    exact ⟨old, (right.tasks t (.inl middle)).2.trans same⟩
  · intro b id s mine
    exact (right.names b id s mine).trans (left.names b id s mine)
  · intro b id mine
    exact (right.entries b id mine).trans (left.entries b id mine)
  · intro f mine
    exact (right.deeds f mine).trans (left.deeds f mine)
  · obtain ⟨gone, top, below, before, middle, out, apart⟩ := left.stack
    obtain ⟨gone', top', below', middle', after, out', apart'⟩ := right.stack
    -- Either more goes than what came before, or some of that is left.
    rcases List.append_eq_append_iff.mp (middle.symm.trans middle') with
      ⟨more, rfl, rfl⟩ | ⟨more, rfl, rfl⟩
    · refine ⟨gone ++ more, top', below', by rw [before, List.append_assoc], after, ?_, apart'⟩
      intro frame present
      rcases List.mem_append.mp present with old | new
      · exact out frame old
      · exact left.apart_iff.mp (out' frame (List.mem_append_right _ new))
    · refine ⟨gone, top' ++ more, below, before, by rw [after, List.append_assoc], out, ?_⟩
      intro frame present
      rcases List.mem_append.mp present with new | old
      · exact apart' frame new
      · exact right.apart_iff.mpr (apart frame (List.mem_append_right _ old))

theorem note (spares : c.Spares x d) {deed : Deed} (off : ∀ f, x.fiber f → deed.touches f = false) :
    c.Spares x (d.note deed) := by
  refine spares.trans { (refl : d.Spares x d) with deeds := ?_ }
  intro f mine
  exact List.filter_cons_of_neg (by rw [off f mine]; exact Bool.false_ne_true)

theorem push (spares : c.Spares x d) {frame : Frame} (apart : Apart x d.tasks frame) :
    c.Spares x { d with stack := frame :: d.stack } :=
  spares.trans { (refl : d.Spares x d) with
    stack := ⟨[], [frame], d.stack, rfl, rfl, List.forall_mem_nil _, by simpa using apart⟩ }

theorem pop (spares : c.Spares x d) {frame : Frame} {rest : List Frame}
    (top : d.stack = frame :: rest) (apart : Apart x d.tasks frame) : c.Spares x { d with stack := rest } :=
  spares.trans { (refl : d.Spares x d) with
    stack := ⟨[frame], [], rest, top, rfl, by simpa using apart, List.forall_mem_nil _⟩ }

theorem ask (spares : c.Spares x d) {q : HostCall} {frame : Frame}
    (off : ∀ f, x.fiber f → (Deed.called q).touches f = false) (apart : Apart x d.tasks frame) :
    c.Spares x (d.ask q frame) := (spares.note off).push apart

theorem setScript (spares : c.Spares x d) {s : ScriptKey} {f : Script → Script} (off : ¬ x.script s)
    (made : s < d.scripts.size) (fiber : ∀ script, (f script).fiber = script.fiber)
    (id : ∀ script, (f script).id = script.id) : c.Spares x (d.setScript s f) := by
  have size : (d.setScript s f).scripts.size = d.scripts.size := Slots.size_update made f
  refine spares.trans { (refl : d.Spares x d) with
    scripts := ?_
    moreScripts := Nat.le_of_eq size.symm
    proper := ?_ }
  · intro s' mine
    refine (Slots.get_update ..).trans (if_neg ?_)
    rintro rfl
    exact off mine
  · intro proper
    refine ⟨size.symm ▸ proper.made, proper.found, ?_⟩
    intro s' there other
    rw [size] at there
    simp only [Core.setScript, Slots.field_update Script.fiber fiber, Slots.field_update Script.id id]
    exact proper.others s' there other

theorem setFiber (spares : c.Spares x d) {k : FiberKey} {f : Fiber → Fiber} (off : ¬ x.fiber k) :
    c.Spares x (d.setFiber k f) := by
  refine spares.trans { (refl : d.Spares x d) with
    fibers := ?_
    moreFibers := Slots.size_le_update ..
    proper := ?_ }
  · intro k' mine
    refine (Slots.get_update ..).trans (if_neg ?_)
    rintro rfl
    exact off mine
  · intro proper
    refine ⟨proper.made, ?_, proper.others⟩
    intro k' mine
    exact Nat.lt_of_lt_of_le (proper.found k' mine) (Slots.size_le_update ..)

theorem alterRuns (spares : c.Spares x d) {runs : Slots Run} (more : d.runs.size ≤ runs.size)
    (same : ∀ r, d.HasRun x r ∨ r < runs.size ∧ x.script (runs.get r).script →
      r < d.runs.size ∧ runs.get r = d.runs.get r) : c.Spares x { d with runs } :=
  spares.trans { (refl : d.Spares x d) with runs := same, moreRuns := more }

theorem updateRun (spares : c.Spares x d) {r : RunKey} {f : Run → Run} (off : d.OffRun x r)
    (stays : ∀ run, (f run).script = run.script) : c.Spares x (d.setRun r f) := by
  have size : (d.runs.update r f).size = d.runs.size := Slots.size_update off.1 f
  refine spares.alterRuns (Nat.le_of_eq size.symm) ?_
  intro r' has
  have mine : d.HasRun x r' := by
    rcases has with old | ⟨inside, mine⟩
    · exact old
    · rw [size] at inside
      rw [Slots.field_update Run.script stays] at mine
      exact ⟨inside, mine⟩
  refine ⟨mine.1, (Slots.get_update ..).trans (if_neg ?_)⟩
  rintro rfl
  exact off.2 mine.2

theorem updateTask (spares : c.Spares x d) {t : TaskKey} {f : Task → Task} (free : d.Free (some t))
    (off : d.OffTask x (some t)) (stays : ∀ task, (f task).script = task.script) :
    c.Spares x (d.setTask t f) := by
  have made : t < d.tasks.size := made_of_unfinished (free t rfl).2
  have size : (d.tasks.update t f).size = d.tasks.size := Slots.size_update made f
  refine spares.trans
    { (refl : d.Spares x d) with
      tasks := ?_
      moreTasks := Nat.le_of_eq size.symm
      stack := ⟨[], [], d.stack, rfl, rfl, List.forall_mem_nil _, List.forall_mem_nil _⟩ }
  intro t' has
  have mine : d.HasTask x t' := by
    rcases has with old | ⟨inside, mine⟩
    · exact old
    · refine ⟨Nat.lt_of_lt_of_eq inside size, ?_⟩
      rwa [show (d.setTask t f).tasks = d.tasks.update t f from rfl,
        Slots.field_update Task.script stays] at mine
  refine ⟨mine.1, (Slots.get_update ..).trans (if_neg ?_)⟩
  rintro rfl
  exact off _ rfl mine.2

theorem addTask (spares : c.Spares x d) {task : Task} (off : ¬ x.script task.script) :
    c.Spares x { d with tasks := d.tasks.add task } := by
  refine spares.trans
    { (refl : d.Spares x d) with
      tasks := ?_
      moreTasks := Slots.size_le_add ..
      stack := ⟨[], [], d.stack, rfl, rfl, List.forall_mem_nil _, List.forall_mem_nil _⟩ }
  intro t has
  have mine : d.HasTask x t := by
    rcases has with old | ⟨inside, mine⟩
    · exact old
    · simp only [Slots.get_add] at mine
      split at mine
      · exact absurd mine off
      · rename_i other
        exact ⟨(Slots.lt_size_add.mp inside).resolve_left (Ne.symm other), mine⟩
  exact ⟨mine.1, Slots.get_add_old mine.1 _⟩

theorem setRegistry (spares : c.Spares x d) {b : BridgeKey} {f : Registry → Registry}
    (names : ∀ id s, x.script s → ((f (d.registry b)).get? id = some s ↔
      (d.registry b).get? id = some s))
    (entries : ∀ id, x.id id → (f (d.registry b)).get? id = (d.registry b).get? id) :
    c.Spares x (d.setRegistry b f) := by
  have at_ (b' : BridgeKey) : (d.setRegistry b f).registry b' =
      if b = b' then f (d.registry b') else d.registry b' := rfl
  refine spares.trans { (refl : d.Spares x d) with names := ?_, entries := ?_ }
  · intro b' id s mine
    rw [at_]
    split
    · rename_i same
      exact same ▸ names id s mine
    · exact Iff.rfl
  · intro b' id mine
    rw [at_]
    split
    · rename_i same
      exact same ▸ entries id mine
    · rfl

theorem judge (spares : c.Spares x d) {s : ScriptKey} {y : Milestone}
    (off : ∀ r, (d.scripts.get s).run = some r → d.OffRun x r) : c.Spares x (d.judge s y) := by
  refine (alterRuns (d := d.note (.marked s y)) (spares.note fun _ _ => rfl)
    (Slots.size_le_settleCurrent ..) ?_)
  have size : (d.runs.settleCurrent (d.scripts.get s).run (y.verdict (d.scripts.get s).id)).size =
      d.runs.size := Slots.size_settleCurrent (fun r current => (off r current).1) _
  intro r has
  have mine : d.HasRun x r := by
    rcases has with old | ⟨inside, mine⟩
    · exact old
    · exact ⟨Nat.lt_of_lt_of_eq inside size, (d.judge_script s y r) ▸ mine⟩
  refine ⟨mine.1, (d.judge_get s y r).trans (if_neg ?_)⟩
  intro current
  exact (off r current).2 mine.2

theorem arm (spares : c.Spares x d) {s : ScriptKey} {token : Option TokenKey} {canceled : Bool}
    (off : d.Off x s) : c.Spares x (d.arm s token canceled) := by
  have noted : c.Spares x (d.note (.marked s (.armed d.runs.size canceled))) :=
    spares.note fun _ _ => rfl
  have written : c.Spares x ((d.note (.marked s (.armed d.runs.size canceled))).setScript s
      fun script => { script with run := some d.runs.size, token }) :=
    noted.setScript off.script off.made (fun _ => rfl) fun _ => rfl
  refine written.alterRuns (Nat.le_of_lt (d.size_lt_arm s token canceled)) ?_
  have size : (d.arm s token canceled).runs.size = d.runs.size + 1 :=
    Core.arm_size token canceled fun r current => (off.run r current).1
  intro r has
  have mine : d.HasRun x r := by
    rcases has with old | ⟨inside, mine⟩
    · exact old
    · have mine : x.script ((d.arm s token canceled).runs.get r).script := mine
      rw [Core.arm_script] at mine
      split at mine
      · exact absurd mine off.script
      · rename_i other
        have inside : r < (d.arm s token canceled).runs.size := inside
        rw [size] at inside
        exact ⟨Nat.lt_of_le_of_ne (Nat.le_of_lt_succ inside) (Ne.symm other), mine⟩
  refine ⟨mine.1, (Core.arm_get_old token canceled (Nat.ne_of_lt mine.1)).trans (if_neg ?_)⟩
  intro current
  exact (off.run r current).2 mine.2

theorem free (spares : c.Spares x d) {s : ScriptKey} (off : d.Off x s) : c.Spares x (d.free s) := by
  have freed : c.Spares x (d.setScript s fun script => { script with freed := true }) :=
    spares.setScript off.script off.made (fun _ => rfl) fun _ => rfl
  have gone := freed.setFiber (f := fun fiber => { fiber with gone := true }) off.fiber
  unfold Core.free
  dsimp only
  cases current : (d.scripts.get s).run with
  | none => exact gone
  | some r => exact gone.updateRun (off.run r current) fun _ => rfl

theorem addScript (spares : c.Spares x d) {script : Script}
    (fits : ∀ s, x.script s → s < d.scripts.size) (fiber : ¬ x.fiber script.fiber)
    (id : ¬ x.id script.id) : c.Spares x { d with scripts := d.scripts.add script } := by
  refine spares.trans { (refl : d.Spares x d) with
    scripts := fun _ mine => Slots.get_add_old (fits _ mine) _
    moreScripts := Slots.size_le_add ..
    stack := ⟨[], [], d.stack, rfl, rfl, List.forall_mem_nil _, List.forall_mem_nil _⟩
    proper := ?_ }
  intro proper
  refine ⟨?_, proper.found, ?_⟩
  · intro s mine
    exact Slots.lt_size_add.mpr (.inr (fits s mine))
  · intro s there other
    rw [Slots.get_add]
    split
    · exact ⟨fiber, id⟩
    · rename_i old
      exact proper.others s ((Slots.lt_size_add.mp there).resolve_left (Ne.symm old)) other

theorem addFiber (spares : c.Spares x d) {fiber : Fiber} (fits : ∀ f, x.fiber f → f < d.fibers.size) :
    c.Spares x { d with fibers := d.fibers.add fiber } :=
  spares.trans { (refl : d.Spares x d) with
    fibers := fun _ mine => Slots.get_add_old (fits _ mine) _
    moreFibers := Slots.size_le_add ..
    stack := ⟨[], [], d.stack, rfl, rfl, List.forall_mem_nil _, List.forall_mem_nil _⟩
    proper := fun proper => ⟨proper.made, fun f mine => Slots.lt_size_add.mpr (.inr (fits f mine)),
      proper.others⟩ }

theorem beginDispose (spares : c.Spares x d) {s : ScriptKey} {dropped : Bool} (off : d.Off x s) :
    c.Spares x (d.beginDispose s dropped) := by
  have marked : c.Spares x (d.setScript s fun script => { script with disposed := true }) :=
    spares.setScript off.script off.made (fun _ => rfl) fun _ => rfl
  refine (marked.setFiber off.fiber).ask ?_ (.of_kept ?_ rfl (by rintro _ ⟨⟩))
  · rintro f mine
    refine decide_eq_false ?_
    rintro rfl
    exact off.fiber mine
  · intro s' holds
    have same : s = s' := by simpa [Frame.holdsScript] using holds
    exact same ▸ off.script

theorem endDispose (spares : c.Spares x d) {s : ScriptKey} (off : d.Off x s) :
    c.Spares x (d.endDispose s) := by
  refine judge (d := d.setRegistry _ _) (spares.setRegistry ?_ ?_) off.run
  · intro id s' mine
    rw [Registry.get?_remove]
    split
    · rename_i named
      obtain ⟨rfl, entry⟩ := named
      rw [entry]
      refine ⟨nofun, ?_⟩
      rintro ⟨⟩
      exact absurd mine off.script
    · exact Iff.rfl
  · intro id mine
    rw [Registry.get?_remove, if_neg]
    rintro ⟨rfl, _⟩
    exact off.id mine

theorem accept (spares : c.Spares x d) {b : BridgeKey} {f : FiberKey} (foreign : d.Foreign x b f)
    (fits : ∀ s, x.script s → s < d.scripts.size) : c.Spares x (d.accept b f) := by
  have handed : c.Spares x (d.setFiber f fun fiber => { fiber with held := false }) :=
    spares.setFiber foreign.fiber
  unfold Core.accept
  refine (handed.addScript fits foreign.fiber foreign.id).setRegistry ?_ ?_
  · intro id s mine
    rw [Registry.get?_insert]
    split
    · rename_i same
      subst same
      constructor
      · intro new
        exact absurd (fits s mine) (Nat.not_lt_of_le (Nat.le_of_eq (Option.some.inj new)))
      · intro old
        exact absurd mine (foreign.entry s old)
    · exact Iff.rfl
  · intro id mine
    rw [Registry.get?_insert, if_neg]
    rintro rfl
    exact foreign.id mine

theorem refuse (spares : c.Spares x d) {b : BridgeKey} {f : FiberKey} (foreign : d.Foreign x b f)
    (fits : ∀ s, x.script s → s < d.scripts.size) : c.Spares x (d.refuse b f) := by
  have handed : c.Spares x (d.setFiber f fun fiber => { fiber with held := false, released := true }) :=
    spares.setFiber foreign.fiber
  unfold Core.refuse
  refine (handed.addScript fits foreign.fiber foreign.id).ask ?_ (.of_kept ?_ rfl (by rintro _ ⟨⟩))
  · intro f' mine
    refine decide_eq_false ?_
    rintro rfl
    exact foreign.fiber mine
  · intro s holds mine
    have same : d.scripts.size = s := by simpa [Frame.holdsScript] using holds
    exact Nat.lt_irrefl _ (same ▸ fits s mine)

end Spares

def Kept (x : Part) (c : Core) : Prop := ∀ s, x.script s → (c.scripts.get s).freed ∨ c.held s

theorem Spares.kept (spares : c.Spares x d) (kept : c.Kept x) : d.Kept x := by
  intro s mine
  rw [spares.scripts s mine]
  rcases kept s mine with gone | held
  · exact .inl gone
  · refine .inr (held_iff.mpr ?_)
    obtain ⟨gone, top, below, before, after, out, _⟩ := spares.stack
    cases held_iff.mp held with
    | handle owned => exact .handle (by rwa [spares.scripts s mine])
    | reference some => exact .reference (by rwa [spares.scripts s mine])
    | @frame frame present holds =>
      rw [before] at present
      rcases List.mem_append.mp present with left | stays
      · exact absurd mine ((out frame left).script s holds)
      · exact .frame (after ▸ List.mem_append_right _ stays) holds
    | @task t unfinished own =>
      have same := (spares.tasks t (.inl ⟨made_of_unfinished unfinished, own.symm ▸ mine⟩)).2
      exact .task (by rwa [same]) (by rwa [same])

-- The part shares nothing with others, and nothing of it is about to go.
structure Closed (x : Part) (c : Core) : Prop where
  proper : Proper x c.scripts c.fibers
  linked : Linked c
  kept : c.Kept x

theorem Closed.off (closed : c.Closed x) {s : ScriptKey} (known : c.Open s) (other : ¬ x.script s) :
    c.Off x s := by
  obtain ⟨fiber, id⟩ := closed.proper.others s known.made other
  refine ⟨known.made, other, fiber, id, ?_⟩
  intro r current
  obtain ⟨armed, own⟩ := closed.linked.current s r current
  exact ⟨armed, own.symm ▸ other⟩

variable {power : Power} {l : List (ScriptKey × Milestone)}

-- A change that is for others spares the part, whatever it does.
theorem Closed.change (closed : c.Closed power.spares) (change : Change power c l d) :
    c.Spares power.spares d := by
  have foreign {s : ScriptKey} (known : c.Open s) (off : ¬ power.spares.script s) {f : FiberKey}
      (mine : power.spares.fiber f) : decide ((c.scripts.get s).fiber = f) = false := by
    refine decide_eq_false ?_
    rintro rfl
    exact (closed.off known off).fiber mine
  cases change with
  | accepted held made vacant foreign => exact Spares.refl.accept foreign closed.proper.made
  | refused held made foreign => exact Spares.refl.refuse foreign closed.proper.made
  | read known live off => exact Spares.refl.note fun _ => foreign known off
  | armed known live meant off => exact Spares.refl.arm (closed.off known off)
  | judged known later lasting off => exact Spares.refl.judge (closed.off known off).run
  | @starting s r known live ready current armed own off =>
    refine Spares.refl.ask (fun _ => foreign known off) (.of_kept ?_ rfl (by rintro _ ⟨⟩))
    intro s' holds
    have same : s = s' := by simpa [Frame.holdsScript] using holds
    exact same ▸ off
  | @resuming s who known live free off offTask =>
    refine Spares.refl.ask (fun _ => foreign known off) (.of_kept ?_ rfl offTask)
    intro s' holds
    have same : s = s' := by simpa [Frame.holdsScript] using holds
    exact same ▸ off
  | @asked q frame foreign plain held free off offTask =>
    have stays : frame.leaves = false := by
      cases frame <;> first | rfl | cases plain
    refine Spares.refl.ask ?_ (.of_kept off stays offTask)
    intro f _
    cases q <;> first | rfl | cases foreign
  | disposing known meant live off => exact Spares.refl.beginDispose (closed.off known off)
  | @disposed s dropped rest top known off =>
    have apart : Apart power.spares c.tasks (.disposing s dropped) := by
      refine .of_kept ?_ rfl (by rintro _ ⟨⟩)
      intro s' holds
      have same : s = s' := by simpa [Frame.holdsScript] using holds
      exact same ▸ off
    obtain ⟨made, script, fiber, id, run⟩ := closed.off known off
    exact (Spares.refl.pop top apart).endDispose ⟨made, script, fiber, id, run⟩
  | popped top plain kept apart => exact Spares.refl.pop top apart
  | @released f rest top apart => exact (Spares.refl.pop top apart).setFiber (apart.fiber f rfl)
  | unwound top allowed apart => exact Spares.refl.pop top apart
  | disowned known ended off =>
    exact Spares.refl.setScript off known.made (fun _ => rfl) fun _ => rfl
  | referred refs known off =>
    exact Spares.refl.setScript off known.made (fun _ => rfl) fun _ => rfl
  | unawaited made off => exact Spares.refl.updateRun ⟨made, off⟩ fun _ => rfl
  | spawned known unfinished off => exact Spares.refl.addTask off
  | finished free offTask => exact Spares.refl.updateTask free offTask fun _ => rfl
  | begun free offTask => exact Spares.refl.updateTask free offTask fun _ => rfl
  | made fresh meant => exact Spares.refl.addFiber closed.proper.found
  | seen off => exact Spares.refl.setFiber off
  | @letGo f held off =>
    refine (Spares.refl.setFiber off).ask ?_ ⟨?_, ?_, ?_⟩
    · intro f' mine
      refine decide_eq_false ?_
      rintro rfl
      exact off mine
    · rintro s ⟨⟩
    · rintro f' ⟨⟩
      exact off
    · rintro t ⟨⟩
  | @freed s made kept unheld =>
    have off : ¬ power.spares.script s := by
      intro mine
      rcases closed.kept s mine with gone | held
      · rw [kept] at gone
        cases gone
      · rw [unheld] at held
        cases held
    exact Spares.refl.free (closed.off ⟨made, kept⟩ off)

theorem Closed.path (closed : c.Closed power.spares) (path : Path power c l d) :
    c.Spares power.spares d ∧ d.Closed power.spares := by
  induction path with
  | nil => exact ⟨.refl, closed⟩
  | step prior change ih =>
    obtain ⟨spares, still⟩ := ih
    have one := still.change change
    exact ⟨spares.trans one, one.proper still.proper, still.linked.change change, one.kept still.kept⟩

end Core

namespace Machine

variable {x : Part} {m next : Machine} {move : Move} {reaction : Reaction}

-- In a reachable state nothing of a part is about to go, since nothing ever is.
theorem Skips.spares (skips : m.Skips x move) (reached : Reachable m)
    (proper : Core.Proper x m.scripts m.fibers) (step : Step m move next reaction) :
    m.core.Spares x next.core := by
  have path := step_path_sparing reached.steady skips step
  have kept : m.core.Kept x := fun s mine => reached.swept s (proper.made s mine)
  exact (Core.Closed.path ⟨proper, reached.linked, kept⟩ path).1

end Machine

end FiberBridge
