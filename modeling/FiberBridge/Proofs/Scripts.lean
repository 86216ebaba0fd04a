import FiberBridge.Proofs.Runs

namespace FiberBridge

structure Core.Lasts (c d : Core) (power : Power) (s : ScriptKey) : Prop where
  made : s < d.scripts.size
  id : (d.scripts.get s).id = (c.scripts.get s).id
  fiber : (d.scripts.get s).fiber = (c.scripts.get s).fiber
  bridge : (d.scripts.get s).bridge = (c.scripts.get s).bridge
  accepted : (d.scripts.get s).accepted = (c.scripts.get s).accepted
  disposed : (c.scripts.get s).disposed → (d.scripts.get s).disposed
  live : ¬ power.ends s → (d.scripts.get s).disposed = (c.scripts.get s).disposed

namespace Core.Lasts

variable {power : Power} {c d e : Core} {l : List (ScriptKey × Milestone)} {s : ScriptKey}

theorem same (made : s < c.scripts.size) (scripts : d.scripts = c.scripts) : c.Lasts d power s := by
  refine ⟨?_, ?_, ?_, ?_, ?_, ?_, ?_⟩ <;> simp [scripts, made]

theorem added (made : s < c.scripts.size) {script : Script}
    (scripts : d.scripts = c.scripts.add script) : c.Lasts d power s := by
  have old : d.scripts.get s = c.scripts.get s := by
    rw [scripts, Slots.get_add_old made]
  refine ⟨?_, ?_, ?_, ?_, ?_, ?_, ?_⟩
  · rw [scripts, Slots.size_add]
    exact Nat.lt_succ_of_lt made
  all_goals simp [old]

theorem updated (made : s < c.scripts.size) {s' : ScriptKey} {f : Script → Script}
    (scripts : d.scripts = c.scripts.update s' f)
    (kept : ∀ script, (f script).id = script.id ∧ (f script).fiber = script.fiber ∧
      (f script).bridge = script.bridge ∧ (f script).accepted = script.accepted ∧
      (script.disposed → (f script).disposed))
    (live : s' = s → ¬ power.ends s → ∀ script, (f script).disposed = script.disposed) :
    c.Lasts d power s := by
  have now : d.scripts.get s = if s' = s then f (c.scripts.get s) else c.scripts.get s := by
    rw [scripts, Slots.get_update]
  have size : s < d.scripts.size := by
    rw [scripts]
    exact Nat.lt_of_lt_of_le made (Slots.size_le_update ..)
  by_cases this : s' = s
  · rw [if_pos this] at now
    obtain ⟨id, fiber, bridge, accepted, disposed⟩ := kept (c.scripts.get s)
    refine ⟨size, ?_, ?_, ?_, ?_, ?_, ?_⟩
    · rw [now, id]
    · rw [now, fiber]
    · rw [now, bridge]
    · rw [now, accepted]
    · rw [now]
      exact disposed
    · intro spared
      rw [now, live this spared]
  · rw [if_neg this] at now
    refine ⟨size, ?_, ?_, ?_, ?_, ?_, ?_⟩ <;> simp [now]

theorem kept (made : s < c.scripts.size) {s' : ScriptKey} {f : Script → Script}
    (scripts : d.scripts = c.scripts.update s' f)
    (same : ∀ script, (f script).id = script.id ∧ (f script).fiber = script.fiber ∧
      (f script).bridge = script.bridge ∧ (f script).accepted = script.accepted ∧
      (f script).disposed = script.disposed) : c.Lasts d power s := by
  refine updated made scripts ?_ ?_
  · intro script
    obtain ⟨id, fiber, bridge, accepted, disposed⟩ := same script
    exact ⟨id, fiber, bridge, accepted, fun ended => disposed.trans ended⟩
  · intro _ _ script
    exact (same script).2.2.2.2

theorem trans (left : c.Lasts d power s) (right : d.Lasts e power s) : c.Lasts e power s := by
  refine ⟨right.made, right.id.trans left.id, right.fiber.trans left.fiber,
    right.bridge.trans left.bridge, right.accepted.trans left.accepted, ?_, ?_⟩
  · intro ended
    exact right.disposed (left.disposed ended)
  · intro spared
    exact (right.live spared).trans (left.live spared)

theorem change (made : s < c.scripts.size) (change : Change power c l d) : c.Lasts d power s := by
  cases change with
  | accepted held there vacant => exact added made rfl
  | refused held there => exact added made rfl
  | @armed s' token canceled known live meant =>
    refine kept made (f := fun script => { script with run := some c.runs.size, token }) rfl ?_
    intro script
    exact ⟨rfl, rfl, rfl, rfl, rfl⟩
  | disposing known meant live =>
    refine updated made (f := fun script => { script with disposed := true }) rfl ?_ ?_
    · intro script
      exact ⟨rfl, rfl, rfl, rfl, fun _ => rfl⟩
    · rintro rfl spared
      exact absurd meant spared
  | disowned known ended =>
    refine kept made (f := fun script => { script with owned := false }) rfl ?_
    intro script
    exact ⟨rfl, rfl, rfl, rfl, rfl⟩
  | referred refs known =>
    refine kept made (f := fun script => { script with refs := refs script }) rfl ?_
    intro script
    exact ⟨rfl, rfl, rfl, rfl, rfl⟩
  | freed there intact unheld =>
    refine kept made (f := fun script => { script with freed := true }) rfl ?_
    intro script
    exact ⟨rfl, rfl, rfl, rfl, rfl⟩
  | _ => exact same made rfl

theorem path (made : s < c.scripts.size) (path : Path power c l d) : c.Lasts d power s := by
  refine path.preserves (fun d => c.Lasts d power s) ?_ (same made rfl)
  intro d e l before step
  exact before.trans (change before.made step)

end Core.Lasts

def Core.Releasing (c : Core) : Prop :=
  ∀ s dropped, .disposing s dropped ∈ c.stack → s < c.scripts.size ∧ (c.scripts.get s).disposed

namespace Core.Releasing

variable {power : Power} {c d : Core} {l : List (ScriptKey × Milestone)}

theorem change (releasing : c.Releasing) (change : Change power c l d) : d.Releasing := by
  -- An older frame waits for a script that was disposed before.
  have older {s : ScriptKey} {dropped : Bool} (present : .disposing s dropped ∈ c.stack) :
      s < d.scripts.size ∧ (d.scripts.get s).disposed := by
    obtain ⟨made, ended⟩ := releasing s dropped present
    have lasts := Core.Lasts.change made change
    exact ⟨lasts.made, lasts.disposed ended⟩
  have pushed {frame : Frame} (stack : d.stack = frame :: c.stack)
      (plain : ∀ s, frame.disposes s = false) : d.Releasing := by
    intro s dropped present
    rw [stack] at present
    exact older (Frame.mem_below plain present)
  have shrunk (stack : ∀ frame, frame ∈ d.stack → frame ∈ c.stack) : d.Releasing := by
    intro s dropped present
    exact older (stack _ present)
  cases change with
  | refused held made => exact pushed rfl fun _ => rfl
  | starting known live ready current armed own => exact pushed rfl fun _ => rfl
  | resuming known live free => exact pushed rfl fun _ => rfl
  | @asked q frame foreign plain held free =>
    refine pushed rfl ?_
    intro s
    cases frame with
    | disposing s' dropped => cases plain
    | _ => rfl
  | @disposing s dropped known meant live =>
    intro s' dropped' present
    rcases List.mem_cons.mp present with same | present
    · cases same
      refine ⟨Nat.lt_of_lt_of_le known.made (Slots.size_le_update ..), ?_⟩
      simp [Core.beginDispose, Core.ask, Core.setFiber, Core.setScript, Slots.get_update]
    · exact older present
  | disposed top known => exact shrunk fun _ present => top ▸ List.mem_cons_of_mem _ present
  | popped top plain => exact shrunk fun _ present => top ▸ List.mem_cons_of_mem _ present
  | released top => exact shrunk fun _ present => top ▸ List.mem_cons_of_mem _ present
  | unwound top allowed => exact shrunk fun _ present => top ▸ List.mem_cons_of_mem _ present
  | letGo held => exact pushed rfl fun _ => rfl
  | _ => exact shrunk fun _ present => present

end Core.Releasing

namespace Machine

variable {m n : Machine}

theorem Reachable.releasing (reached : Reachable m) : m.core.Releasing := by
  refine reached.preserves Core.Releasing ?_ fun _ releasing change => releasing.change change
  intro s dropped present
  cases present

theorem sweep_lasts {s : ScriptKey} (made : s < m.scripts.size) :
    m.core.Lasts m.sweep.core .none s :=
  Core.Lasts.path made sweep_path

theorem launch_register (m : Machine) (b : BridgeKey) (f : FiberKey) :
    m.launch (.register b f) = m.register b f := rfl

theorem accepted_script {b : BridgeKey} {f : FiberKey} (accepted : n.core = m.core.accept b f) :
    m.scripts.size < n.scripts.size ∧ n.scripts.get m.scripts.size =
      { id := (m.fibers.get f).id, fiber := f, bridge := b, disposed := false, accepted := true,
        owned := true } := by
  have scripts : n.scripts = (m.core.accept b f).scripts := congrArg Core.scripts accepted
  rw [scripts]
  refine ⟨?_, (m.core.accept_script b f _).trans (if_pos rfl)⟩
  exact Nat.lt_of_lt_of_eq (Nat.lt_succ_self _) (m.core.size_accept b f).symm

theorem refused_script {b : BridgeKey} {f : FiberKey} (refused : n.core = m.core.refuse b f) :
    m.scripts.size < n.scripts.size ∧ n.scripts.get m.scripts.size =
      { id := (m.fibers.get f).id, fiber := f, bridge := b } := by
  have scripts : n.scripts = (m.core.refuse b f).scripts := congrArg Core.scripts refused
  rw [scripts]
  refine ⟨?_, (m.core.refuse_script b f _).trans (if_pos rfl)⟩
  exact Nat.lt_of_lt_of_eq (Nat.lt_succ_self _) (m.core.size_refuse b f).symm

theorem dispose_marks {s : ScriptKey} {dropped : Bool} (made : s < m.scripts.size) :
    s < (m.dispose s dropped).1.scripts.size ∧
      ((m.dispose s dropped).1.scripts.get s).disposed := by
  unfold dispose
  dsimp only
  split
  · rename_i ended
    exact ⟨made, ended⟩
  · refine ⟨Nat.lt_of_lt_of_le made (Slots.size_le_update ..), ?_⟩
    simp [setScript, setFiber, ask, log, Slots.get_update]

theorem ended_disposed {s : ScriptKey} {move : Move} {reaction : Reaction} {next : Machine}
    (reached : Reachable m) (step : Step m move next reaction)
    (ends : move = .invoke (.dispose s) ∨ move = .invoke (.dropHandle s)) :
    s < next.scripts.size ∧ (next.scripts.get s).disposed := by
  have swept {n : Machine} (marked : s < n.scripts.size ∧ (n.scripts.get s).disposed) :
      s < n.sweep.scripts.size ∧ (n.sweep.scripts.get s).disposed := by
    have lasts := sweep_lasts marked.1
    exact ⟨lasts.made, lasts.disposed marked.2⟩
  rcases ends with rfl | rfl
  · obtain ⟨admitted, rfl, _⟩ := step.invoked
    exact swept (dispose_marks (reached.steady.owned_open admitted).made)
  · obtain ⟨admitted, rfl, _⟩ := step.invoked
    refine swept (dispose_marks ?_)
    exact Nat.lt_of_lt_of_le (reached.steady.owned_open admitted.1).made (Slots.size_le_update ..)

end Machine

end FiberBridge
