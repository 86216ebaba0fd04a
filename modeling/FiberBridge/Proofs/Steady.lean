import FiberBridge.Proofs.Change

namespace FiberBridge

theorem Slots.any_iff {α : Type} [Inhabited α] {t : Slots α} {p : α → Bool}
    (none : p default = false) : t.any p = true ↔ ∃ i, p (t.get i) = true := by
  unfold Slots.any
  rw [Array.any_eq_true]
  constructor
  · intro found
    obtain ⟨i, inside, holds⟩ := found
    refine ⟨i, ?_⟩
    simpa [Slots.get, inside] using holds
  · intro found
    obtain ⟨i, holds⟩ := found
    have inside : i < t.cells.size := by
      rcases Nat.lt_or_ge i t.cells.size with inside | outside
      · exact inside
      · rw [Slots.get_of_size_le outside, none] at holds
        cases holds
    refine ⟨i, inside, ?_⟩
    simpa [Slots.get, inside] using holds

namespace Core

-- The handle, a reference, a suspended operation, or an unfinished task.
inductive Holds (c : Core) (s : ScriptKey) : Prop where
  | handle (owned : (c.scripts.get s).owned)
  | reference (some : 0 < (c.scripts.get s).refs)
  | frame {frame : Frame} (present : frame ∈ c.stack) (holds : frame.holdsScript s)
  | task {t : TaskKey} (unfinished : (c.tasks.get t).finished = false)
      (same : (c.tasks.get t).script = s)

theorem held_iff {c : Core} {s : ScriptKey} : c.held s = true ↔ c.Holds s := by
  have tasks := Slots.any_iff (t := c.tasks) (p := fun t => !t.finished && t.script = s) rfl
  unfold held
  simp only [Bool.or_eq_true, decide_eq_true_eq, List.any_eq_true, tasks]
  constructor
  · intro held
    rcases held with ((owned | some) | ⟨frame, present, holds⟩) | ⟨t, both⟩
    · exact .handle owned
    · exact .reference some
    · exact .frame present holds
    · have both : (c.tasks.get t).finished = false ∧ (c.tasks.get t).script = s := by
        simpa using both
      exact .task both.1 both.2
  · intro holds
    cases holds with
    | handle owned => exact .inl (.inl (.inl owned))
    | reference some => exact .inl (.inl (.inr some))
    | frame present holds => exact .inl (.inr ⟨_, present, holds⟩)
    | @task t unfinished same =>
      refine .inr ⟨t, ?_⟩
      simp [unfinished, same]

-- A script with the same handle and references is held no more than before, if no frame and no task
-- came to it.
theorem Holds.before {c d : Core} {s : ScriptKey} (holds : d.Holds s)
    (owned : (d.scripts.get s).owned = (c.scripts.get s).owned)
    (refs : (d.scripts.get s).refs = (c.scripts.get s).refs)
    (frames : ∀ frame ∈ d.stack, frame ∈ c.stack)
    (tasks : ∀ t, (d.tasks.get t).finished = (c.tasks.get t).finished ∧
      (d.tasks.get t).script = (c.tasks.get t).script) : c.Holds s := by
  cases holds with
  | handle held =>
    rw [owned] at held
    exact .handle held
  | reference some =>
    rw [refs] at some
    exact .reference some
  | frame present held => exact .frame (frames _ present) held
  | @task t unfinished same =>
    rw [(tasks t).1] at unfinished
    rw [(tasks t).2] at same
    exact .task unfinished same

end Core

structure Steady (c : Core) : Prop where
  held : ∀ s, c.Holds s → s < c.scripts.size ∧ (c.scripts.get s).freed = false
  owned : ∀ s, (c.scripts.get s).disposed = false → (c.scripts.get s).owned
  tasks : ∀ frame rest, frame :: rest <:+ c.stack → ∀ t, frame.task? = some t →
    (∀ below ∈ rest, below.task? ≠ some t) ∧ (c.tasks.get t).finished = false
  starts : ∀ s r, .starting s r ∈ c.stack → r < c.runs.size ∧ (c.runs.get r).script = s

def Core.RunsLast (c d : Core) : Prop :=
  ∀ r, r < c.runs.size → r < d.runs.size ∧ (d.runs.get r).script = (c.runs.get r).script ∧
    ((c.runs.get r).outcome.isSome → (d.runs.get r).outcome.isSome)

theorem Core.judge_last (c : Core) {s : ScriptKey} {x : Milestone} : c.RunsLast (c.judge s x) := by
  intro r made
  refine ⟨Nat.lt_of_lt_of_le made (Slots.size_le_settleCurrent ..), ?_⟩
  rw [Core.judge_get]
  split
  · refine ⟨rfl, ?_⟩
    intro settled
    exact Option.isSome_or.trans (Bool.or_eq_true_iff.mpr (.inl settled))
  · exact ⟨rfl, id⟩

theorem Change.runs_last {power : Power} {c d : Core} {l : List (ScriptKey × Milestone)}
    (change : Change power c l d) : c.RunsLast d := by
  have same (runs : d.runs = c.runs) : c.RunsLast d := by
    intro r made
    rw [runs]
    exact ⟨made, rfl, id⟩
  cases change with
  | @armed s token canceled known live meant =>
    intro r made
    refine ⟨Nat.lt_trans made (c.size_lt_arm s token canceled), ?_⟩
    rw [Core.arm_get_old token canceled (Nat.ne_of_lt made)]
    split
    · refine ⟨rfl, ?_⟩
      intro settled
      exact Option.isSome_or.trans (Bool.or_eq_true_iff.mpr (.inl settled))
    · exact ⟨rfl, id⟩
  | judged known later lasting => exact c.judge_last
  | disposed top known => exact Core.judge_last _
  | @unawaited r' there =>
    intro r made
    refine ⟨Nat.lt_of_lt_of_le made (Slots.size_le_update ..), ?_⟩
    simp only [Core.setRun, Slots.get_update]
    split <;> exact ⟨rfl, id⟩
  | @freed s there kept unheld =>
    intro r made
    refine ⟨Nat.lt_of_lt_of_le made (c.size_le_free s), ?_⟩
    rw [Core.free_get]
    split <;> exact ⟨rfl, id⟩
  | _ => exact same rfl

namespace Steady

variable {power : Power} {c d : Core}

theorem transfer (steady : Steady c) (sizes : c.scripts.size ≤ d.scripts.size)
    (scripts : ∀ s, (d.scripts.get s).owned = (c.scripts.get s).owned ∧
      (d.scripts.get s).refs = (c.scripts.get s).refs ∧
      (d.scripts.get s).freed = (c.scripts.get s).freed ∧
      ((d.scripts.get s).disposed = false → (c.scripts.get s).disposed = false))
    (stack : d.stack <:+ c.stack)
    (tasks : ∀ t, (d.tasks.get t).finished = (c.tasks.get t).finished ∧
      (d.tasks.get t).script = (c.tasks.get t).script)
    (runs : c.RunsLast d) : Steady d := by
  refine ⟨?_, ?_, ?_, ?_⟩
  · intro s holds
    have before : c.Holds s :=
      holds.before (scripts s).1 (scripts s).2.1 (fun _ present => stack.subset present) tasks
    obtain ⟨made, kept⟩ := steady.held s before
    exact ⟨Nat.lt_of_lt_of_le made sizes, (scripts s).2.2.1.trans kept⟩
  · intro s live
    exact (scripts s).1 ▸ steady.owned s ((scripts s).2.2.2 live)
  · intro frame rest suffix t same
    obtain ⟨last, unfinished⟩ := steady.tasks frame rest (suffix.trans stack) t same
    exact ⟨last, (tasks t).1.trans unfinished⟩
  · intro s r present
    obtain ⟨armed, own⟩ := steady.starts s r (stack.subset present)
    obtain ⟨still, same, _⟩ := runs r armed
    exact ⟨still, same.trans own⟩

theorem alike (steady : Steady c) (scripts : d.scripts = c.scripts) (tasks : d.tasks = c.tasks)
    (stack : d.stack = c.stack) (runs : c.RunsLast d) : Steady d := by
  refine steady.transfer ?_ ?_ ?_ ?_ runs
  · exact Nat.le_of_eq (congrArg Slots.size scripts.symm)
  · intro s
    rw [scripts]
    exact ⟨rfl, rfl, rfl, id⟩
  · exact stack ▸ List.suffix_refl _
  · intro t
    rw [tasks]
    exact ⟨rfl, rfl⟩

theorem ask (steady : Steady c) (q : HostCall) (frame : Frame)
    (holds : ∀ s, frame.holdsScript s → s < c.scripts.size ∧ (c.scripts.get s).freed = false)
    (free : c.Free frame.task?)
    (starts : ∀ s r, frame = .starting s r → r < c.runs.size ∧ (c.runs.get r).script = s) :
    Steady (c.ask q frame) := by
  refine ⟨?_, steady.owned, ?_, ?_⟩
  · intro s held
    cases held with
    | handle owned => exact steady.held s (.handle owned)
    | reference some => exact steady.held s (.reference some)
    | frame present there =>
      rcases List.mem_cons.mp present with rfl | older
      · exact holds s there
      · exact steady.held s (.frame older there)
    | task unfinished same => exact steady.held s (.task unfinished same)
  · intro top rest suffix t same
    rcases List.suffix_cons_iff.mp suffix with whole | older
    · obtain ⟨rfl, rfl⟩ := List.cons.inj whole
      exact free t same
    · exact steady.tasks top rest older t same
  · intro s r present
    rcases List.mem_cons.mp present with top | older
    · exact starts s r top.symm
    · exact steady.starts s r older

theorem setScript (steady : Steady c) {s : ScriptKey} {f : Script → Script}
    (made : s < c.scripts.size)
    (freed : (f (c.scripts.get s)).freed = (c.scripts.get s).freed)
    (owned : (f (c.scripts.get s)).disposed = false → (f (c.scripts.get s)).owned)
    (known : (c.scripts.get s).freed = false) : Steady (c.setScript s f) := by
  have at_ (s' : ScriptKey) : (c.setScript s f).scripts.get s' =
      if s = s' then f (c.scripts.get s') else c.scripts.get s' := Slots.get_update ..
  have size : (c.setScript s f).scripts.size = c.scripts.size := Slots.size_update made f
  refine ⟨?_, ?_, steady.tasks, steady.starts⟩
  · intro s' holds
    rw [size, at_]
    by_cases same : s = s'
    · subst same
      simp only [if_true]
      exact ⟨made, freed.trans known⟩
    · rw [if_neg same]
      have script := (at_ s').trans (if_neg same)
      refine steady.held s' (holds.before ?_ ?_ (fun _ => id) fun _ => ⟨rfl, rfl⟩)
      · rw [script]
      · rw [script]
  · intro s' live
    rw [at_] at live ⊢
    by_cases same : s = s'
    · subst same
      simp only [if_true] at live ⊢
      exact owned live
    · rw [if_neg same] at live ⊢
      exact steady.owned s' live

theorem addScript (steady : Steady c) {script : Script} (kept : script.freed = false)
    (owned : script.disposed = false → script.owned) :
    Steady { c with scripts := c.scripts.add script } := by
  refine ⟨?_, ?_, steady.tasks, steady.starts⟩
  · intro s holds
    simp only [Slots.size_add, Slots.get_add] at holds ⊢
    by_cases new : c.scripts.size = s
    · rw [if_pos new]
      exact ⟨Nat.lt_succ_of_le (Nat.le_of_eq new.symm), kept⟩
    · rw [if_neg new]
      have before : c.Holds s := by
        refine holds.before ?_ ?_ (fun _ => id) fun _ => ⟨rfl, rfl⟩
        · simp only [Slots.get_add, if_neg new]
        · simp only [Slots.get_add, if_neg new]
      obtain ⟨made, still⟩ := steady.held s before
      exact ⟨Nat.lt_succ_of_lt made, still⟩
  · intro s live
    simp only [Slots.get_add] at live ⊢
    split at live
    · rename_i new
      rw [if_pos new]
      exact owned live
    · rename_i old
      rw [if_neg old]
      exact steady.owned s live

theorem addTask (steady : Steady c) {task : Task} (unfinished : task.finished = false)
    (known : task.script < c.scripts.size ∧ (c.scripts.get task.script).freed = false) :
    Steady { c with tasks := c.tasks.add task } := by
  refine ⟨?_, steady.owned, ?_, steady.starts⟩
  · intro s held
    cases held with
    | handle owned => exact steady.held s (.handle owned)
    | reference some => exact steady.held s (.reference some)
    | frame present there => exact steady.held s (.frame present there)
    | task running this =>
      simp only [Slots.get_add] at running this
      split at running
      · rename_i new
        rw [if_pos new] at this
        exact this ▸ known
      · rename_i old
        rw [if_neg old] at this
        exact steady.held s (.task running this)
  · intro frame rest suffix t same
    obtain ⟨last, running⟩ := steady.tasks frame rest suffix t same
    refine ⟨last, ?_⟩
    simp only [Slots.get_add]
    split
    · exact unfinished
    · exact running

theorem finish (steady : Steady c) {t : TaskKey} (idle : c.Idle t) :
    Steady (c.setTask t fun task => { task with finished := true }) := by
  refine ⟨?_, steady.owned, ?_, steady.starts⟩
  · intro s held
    cases held with
    | handle owned => exact steady.held s (.handle owned)
    | reference some => exact steady.held s (.reference some)
    | frame present there => exact steady.held s (.frame present there)
    | @task k running this =>
      simp only [Core.setTask, Slots.get_update] at running this
      by_cases same : t = k
      · simp [same] at running
      · rw [if_neg same] at running this
        exact steady.held s (.task running this)
  · intro frame rest suffix k works
    have other : t ≠ k := by
      rintro rfl
      exact idle frame (suffix.subset List.mem_cons_self) works
    obtain ⟨last, unfinished⟩ := steady.tasks frame rest suffix k works
    refine ⟨last, ?_⟩
    rw [Core.setTask, Slots.get_update, if_neg other]
    exact unfinished

theorem free (steady : Steady c) {s : ScriptKey} (unheld : c.held s = false)
    (runs : c.RunsLast (c.free s)) : Steady (c.free s) := by
  have others (s' : ScriptKey) : (c.free s).scripts.get s' =
      if s = s' then { c.scripts.get s' with freed := true } else c.scripts.get s' :=
    Slots.get_update ..
  refine ⟨?_, ?_, steady.tasks, ?_⟩
  · intro s' holds
    have held : c.Holds s' := by
      refine holds.before ?_ ?_ (fun _ => id) fun _ => ⟨rfl, rfl⟩
      · rw [others]
        split <;> rfl
      · rw [others]
        split <;> rfl
    have other : s ≠ s' := by
      intro same
      subst same
      rw [Core.held_iff.mpr held] at unheld
      cases unheld
    obtain ⟨made, kept⟩ := steady.held s' held
    rw [others, if_neg other]
    exact ⟨Nat.lt_of_lt_of_le made (Slots.size_le_update ..), kept⟩
  · intro s' live
    rw [others] at live ⊢
    by_cases same : s = s'
    · rw [if_pos same] at live ⊢
      exact steady.owned s' live
    · rw [if_neg same] at live ⊢
      exact steady.owned s' live
  · intro s' r present
    obtain ⟨armed, own⟩ := steady.starts s' r present
    obtain ⟨still, same, _⟩ := runs r armed
    exact ⟨still, same.trans own⟩

theorem change (steady : Steady c) {l : List (ScriptKey × Milestone)}
    (change : Change power c l d) : Steady d := by
  have here {s : ScriptKey} (known : c.Open s) {frame : Frame}
      (only : ∀ s', frame.holdsScript s' → s = s') (s' : ScriptKey) (held : frame.holdsScript s') :
      s' < c.scripts.size ∧ (c.scripts.get s').freed = false := by
    rw [← only s' held]
    exact ⟨known.made, known.kept⟩
  have runs := change.runs_last
  cases change with
  | @accepted b f held made vacant =>
    let script : Script :=
      { id := (c.fibers.get f).id, fiber := f, bridge := b, disposed := false, accepted := true,
        owned := true }
    have added : Steady { c with scripts := c.scripts.add script } :=
      steady.addScript rfl fun _ => rfl
    exact added.alike rfl rfl rfl runs
  | @refused b f held made =>
    let script : Script := { id := (c.fibers.get f).id, fiber := f, bridge := b }
    have added : Steady { c with scripts := c.scripts.add script } := by
      refine steady.addScript rfl ?_
      intro live
      cases live
    refine (added.ask (.dispose f) (.refusing b c.scripts.size) ?_ Core.free_none
      (by rintro _ _ ⟨⟩)).alike rfl rfl rfl runs
    intro s holds
    have new : c.scripts.size = s := by simpa [Frame.holdsScript] using holds
    subst new
    simp only [Slots.size_add, Slots.get_add, if_true]
    exact ⟨Nat.lt_succ_self _, rfl⟩
  | read known live => exact steady.alike rfl rfl rfl runs
  | @armed s token canceled known live meant =>
    refine steady.transfer (Slots.size_le_update ..) ?_ (List.suffix_refl _) (fun _ => ⟨rfl, rfl⟩) runs
    intro s'
    simp only [Core.arm, Slots.get_update]
    split <;> exact ⟨rfl, rfl, rfl, id⟩
  | judged known later lasting => exact steady.alike rfl rfl rfl runs
  | @starting s r known live ready current armed own =>
    refine steady.ask _ (.starting s r) (here known ?_) Core.free_none ?_
    · intro s' holds
      simpa [Frame.holdsScript, eq_comm] using holds
    · intro s' r' same
      cases same
      exact ⟨armed, own⟩
  | @resuming s who known live free =>
    refine steady.ask _ (.resuming s who) (here known ?_) free (by rintro _ _ ⟨⟩)
    intro s' holds
    simpa [Frame.holdsScript, eq_comm] using holds
  | asked foreign plain held free =>
    refine steady.ask _ _ ?_ free ?_
    · intro s holds
      exact ⟨(held s holds).made, (held s holds).kept⟩
    · intro s r same
      subst same
      cases plain
  | @disposing s dropped known meant live =>
    have owned := steady.owned s live
    refine ((steady.setScript (s := s) (f := fun script => { script with disposed := true })
      known.made rfl ?_ known.kept).ask (.dispose (c.scripts.get s).fiber)
      (.disposing s dropped) ?_ Core.free_none (by rintro _ _ ⟨⟩)).alike rfl rfl rfl runs
    · intro live
      cases live
    · intro s' holds
      have same : s = s' := by simpa [Frame.holdsScript] using holds
      subst same
      refine ⟨Nat.lt_of_lt_of_le known.made (Slots.size_le_update ..), ?_⟩
      simp only [Core.setScript, Slots.get_update, if_true]
      exact known.kept
  | @disposed s dropped rest top known =>
    exact steady.transfer (Nat.le_refl _) (fun _ => ⟨rfl, rfl, rfl, id⟩)
      (top ▸ List.suffix_cons ..) (fun _ => ⟨rfl, rfl⟩) runs
  | popped top plain =>
    exact steady.transfer (Nat.le_refl _) (fun _ => ⟨rfl, rfl, rfl, id⟩)
      (top ▸ List.suffix_cons ..) (fun _ => ⟨rfl, rfl⟩) runs
  | released top =>
    exact steady.transfer (Nat.le_refl _) (fun _ => ⟨rfl, rfl, rfl, id⟩)
      (top ▸ List.suffix_cons ..) (fun _ => ⟨rfl, rfl⟩) runs
  | unwound top allowed =>
    exact steady.transfer (Nat.le_refl _) (fun _ => ⟨rfl, rfl, rfl, id⟩)
      (top ▸ List.suffix_cons ..) (fun _ => ⟨rfl, rfl⟩) runs
  | @disowned s known ended =>
    refine steady.setScript known.made rfl ?_ known.kept
    intro live
    have ended' : (c.scripts.get s).disposed = false := live
    rw [ended] at ended'
    cases ended'
  | @referred s refs known =>
    exact steady.setScript known.made rfl (steady.owned s) known.kept
  | unawaited made => exact steady.alike rfl rfl rfl runs
  | spawned known unfinished => exact steady.addTask unfinished ⟨known.made, known.kept⟩
  | finished free => exact steady.finish (free _ rfl).1
  | @begun t work =>
    refine steady.transfer (Nat.le_refl _) (fun _ => ⟨rfl, rfl, rfl, id⟩) (List.suffix_refl _) ?_ runs
    intro t'
    simp only [Core.setTask, Slots.get_update]
    split <;> exact ⟨rfl, rfl⟩
  | made fresh => exact steady.alike rfl rfl rfl runs
  | seen => exact steady.alike rfl rfl rfl runs
  | @letGo f held =>
    refine (steady.ask (.dispose f) (.releasing f) ?_ Core.free_none
      (by rintro _ _ ⟨⟩)).alike rfl rfl rfl runs
    intro s holds
    cases holds
  | freed made kept unheld => exact steady.free unheld runs

theorem works (steady : Steady c) {frame : Frame} {t : TaskKey} (present : frame ∈ c.stack)
    (works : frame.task? = some t) : t < c.tasks.size ∧ (c.tasks.get t).finished = false := by
  obtain ⟨above, rest, split⟩ := List.append_of_mem present
  have unfinished := (steady.tasks frame rest ⟨above, split.symm⟩ t works).2
  exact ⟨Core.made_of_unfinished unfinished, unfinished⟩

theorem path (steady : Steady c) {l : List (ScriptKey × Milestone)} (path : Path power c l d) :
    Steady d :=
  path.preserves Steady (fun steady step => steady.change step) steady

end Steady

theorem Machine.initial_steady : Steady Machine.initial.core := by
  have no_script (s : ScriptKey) : Machine.initial.core.scripts.get s = default := Slots.get_empty s
  have no_task (t : TaskKey) : Machine.initial.core.tasks.get t = default := Slots.get_empty t
  refine ⟨?_, ?_, ?_, ?_⟩
  · intro s holds
    cases holds with
    | handle owned =>
      rw [no_script] at owned
      cases owned
    | reference some =>
      rw [no_script] at some
      cases some
    | frame present held => cases present
    | task unfinished same =>
      rw [no_task] at unfinished
      cases unfinished
  · intro s live
    rw [no_script] at live
    cases live
  · intro frame rest suffix
    cases List.suffix_nil.mp suffix
  · intro s r present
    cases present

end FiberBridge
