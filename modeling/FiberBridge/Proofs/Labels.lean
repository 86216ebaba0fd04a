import FiberBridge.Proofs.Runs

namespace FiberBridge

structure Labeled (c : Core) : Prop where
  fiber : ∀ s, s < c.scripts.size → (c.scripts.get s).fiber < c.fibers.size ∧
    (c.fibers.get (c.scripts.get s).fiber).id = (c.scripts.get s).id
  -- Numbers of tasks that were never given out read as the first script's.
  task : ∀ t, (c.tasks.get t).script < c.scripts.size ∨ (c.tasks.get t).script = 0

namespace Labeled

variable {power : Power} {c d : Core} {l : List (ScriptKey × Milestone)}

theorem transfer (labeled : Labeled c) (made : d.scripts.size = c.scripts.size)
    (scripts : ∀ s, (d.scripts.get s).fiber = (c.scripts.get s).fiber ∧
      (d.scripts.get s).id = (c.scripts.get s).id)
    (more : c.fibers.size ≤ d.fibers.size)
    (fibers : ∀ f, f < c.fibers.size → (d.fibers.get f).id = (c.fibers.get f).id)
    (tasks : ∀ t, (d.tasks.get t).script = (c.tasks.get t).script) : Labeled d := by
  refine ⟨?_, ?_⟩
  · intro s there
    obtain ⟨inside, named⟩ := labeled.fiber s (made ▸ there)
    obtain ⟨fiber, id⟩ := scripts s
    rw [fiber, id, fibers _ inside]
    exact ⟨Nat.lt_of_lt_of_le inside more, named⟩
  · intro t
    rw [tasks, made]
    exact labeled.task t

theorem alike (labeled : Labeled c) (scripts : d.scripts = c.scripts) (fibers : d.fibers = c.fibers)
    (tasks : d.tasks = c.tasks) : Labeled d := by
  refine ⟨?_, ?_⟩
  · rw [scripts, fibers]
    exact labeled.fiber
  · rw [scripts, tasks]
    exact labeled.task

theorem setScript (labeled : Labeled c) {s : ScriptKey} (made : s < c.scripts.size)
    {f : Script → Script} (same : ∀ script, (f script).fiber = script.fiber ∧ (f script).id = script.id) :
    Labeled (c.setScript s f) :=
  labeled.transfer (Slots.size_update made f)
    (fun _ => ⟨Slots.field_update Script.fiber (fun script => (same script).1) ..,
      Slots.field_update Script.id (fun script => (same script).2) ..⟩)
    (Nat.le_refl _) (fun _ _ => rfl) fun _ => rfl

theorem setFiber (labeled : Labeled c) {k : FiberKey} {f : Fiber → Fiber}
    (same : ∀ fiber, (f fiber).id = fiber.id) : Labeled (c.setFiber k f) :=
  labeled.transfer rfl (fun _ => ⟨rfl, rfl⟩) (Slots.size_le_update ..)
    (fun _ _ => Slots.field_update Fiber.id same ..) fun _ => rfl

theorem setTask (labeled : Labeled c) {t : TaskKey} {f : Task → Task}
    (same : ∀ task, (f task).script = task.script) : Labeled (c.setTask t f) :=
  labeled.transfer rfl (fun _ => ⟨rfl, rfl⟩) (Nat.le_refl _) (fun _ _ => rfl)
    fun _ => Slots.field_update Task.script same ..

theorem addScript (labeled : Labeled c) {script : Script} (made : script.fiber < c.fibers.size)
    (named : (c.fibers.get script.fiber).id = script.id) :
    Labeled { c with scripts := c.scripts.add script } := by
  refine ⟨?_, ?_⟩
  · intro s there
    simp only [Slots.get_add]
    split
    · exact ⟨made, named⟩
    · rename_i old
      exact labeled.fiber s ((Slots.lt_size_add.mp there).resolve_left (Ne.symm old))
  · intro t
    exact (labeled.task t).imp_left fun inside => Nat.lt_of_lt_of_le inside (Slots.size_le_add ..)

theorem addTask (labeled : Labeled c) {task : Task} (made : task.script < c.scripts.size) :
    Labeled { c with tasks := c.tasks.add task } := by
  refine ⟨labeled.fiber, ?_⟩
  intro t
  simp only [Slots.get_add]
  split
  · exact .inl made
  · exact labeled.task t

theorem register (labeled : Labeled c) {f : FiberKey} {g : Fiber → Fiber} (made : f < c.fibers.size)
    (same : ∀ fiber, (g fiber).id = fiber.id) {script : Script} (own : script.fiber = f)
    (named : script.id = (c.fibers.get f).id) :
    Labeled { c.setFiber f g with scripts := c.scripts.add script } := by
  subst own
  have handed : Labeled (c.setFiber script.fiber g) := labeled.setFiber same
  refine handed.addScript (Nat.lt_of_lt_of_le made (Slots.size_le_update ..)) ?_
  rw [named]
  exact Slots.field_update Fiber.id same ..

theorem change (labeled : Labeled c) (change : Change power c l d) : Labeled d := by
  cases change with
  | @accepted b f held made vacant =>
    exact (labeled.register (g := fun fiber => { fiber with held := false }) made (fun _ => rfl) rfl
      rfl).alike rfl rfl rfl
  | @refused b f held made =>
    exact (labeled.register (g := fun fiber => { fiber with held := false, released := true }) made
      (fun _ => rfl) rfl rfl).alike rfl rfl rfl
  | @armed s token canceled known live meant =>
    exact (labeled.setScript (f := fun script => { script with run := some c.runs.size, token })
      known.made fun _ => ⟨rfl, rfl⟩).alike rfl rfl rfl
  | @disposing s dropped known meant live =>
    exact ((labeled.setScript (f := fun script => { script with disposed := true }) known.made
      fun _ => ⟨rfl, rfl⟩).setFiber (k := (c.scripts.get s).fiber)
        (f := fun fiber => { fiber with released := true }) fun _ => rfl).alike rfl rfl rfl
  | @released f rest top =>
    exact (labeled.setFiber (k := f) (f := fun fiber => { fiber with gone := true }) fun _ => rfl).alike
      rfl rfl rfl
  | disowned known ended => exact labeled.setScript known.made fun _ => ⟨rfl, rfl⟩
  | referred refs known => exact labeled.setScript known.made fun _ => ⟨rfl, rfl⟩
  | spawned known unfinished => exact labeled.addTask known.made
  | finished idle => exact labeled.setTask fun _ => rfl
  | begun => exact labeled.setTask fun _ => rfl
  | made fresh meant =>
    exact labeled.transfer rfl (fun _ => ⟨rfl, rfl⟩) (Slots.size_le_add ..)
      (fun f inside => congrArg Fiber.id (Slots.get_add_old inside _)) fun _ => rfl
  | seen => exact labeled.setFiber fun _ => rfl
  | @letGo f held =>
    exact (labeled.setFiber (k := f) (f := fun fiber => { fiber with held := false, released := true })
      fun _ => rfl).alike rfl rfl rfl
  | @freed s made kept unheld =>
    exact ((labeled.setScript (f := fun script => { script with freed := true }) made
      fun _ => ⟨rfl, rfl⟩).setFiber (k := (c.scripts.get s).fiber)
        (f := fun fiber => { fiber with gone := true }) fun _ => rfl).alike rfl rfl rfl
  | _ => exact labeled.alike rfl rfl rfl

end Labeled

theorem Machine.Reachable.labeled {m : Machine} (reached : Reachable m) : Labeled m.core := by
  refine reached.preserves Labeled ⟨?_, ?_⟩ fun _ labeled change => labeled.change change
  · intro s bad
    exact absurd bad (Nat.not_lt_zero _)
  · intro t
    exact .inr (congrArg Task.script (Slots.get_empty t))

end FiberBridge
