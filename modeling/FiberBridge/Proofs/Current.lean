import FiberBridge.Proofs.Runs

namespace FiberBridge

structure Linked (c : Core) : Prop where
  current : ∀ s r, (c.scripts.get s).run = some r → r < c.runs.size ∧ (c.runs.get r).script = s
  named : ∀ r, r < c.runs.size → (c.runs.get r).script < c.scripts.size ∧
    (c.runs.get r).id = (c.scripts.get (c.runs.get r).script).id
  pending : ∀ r, r < c.runs.size → (c.runs.get r).outcome = none →
    (c.scripts.get (c.runs.get r).script).run = some r
  abandoned : ∀ r, r < c.runs.size → (c.runs.get r).outcome = none →
    (c.runs.get r).abandoned = (c.scripts.get (c.runs.get r).script).freed

namespace Linked

variable {power : Power} {c d : Core}

theorem transfer (linked : Linked c) (sizes : c.scripts.size ≤ d.scripts.size)
    (scripts : ∀ s, (d.scripts.get s).run = (c.scripts.get s).run ∧
      (s < c.scripts.size → (d.scripts.get s).id = (c.scripts.get s).id ∧
        (d.scripts.get s).freed = (c.scripts.get s).freed))
    (made : d.runs.size = c.runs.size)
    (runs : ∀ r, (d.runs.get r).script = (c.runs.get r).script ∧
      (d.runs.get r).id = (c.runs.get r).id ∧ (d.runs.get r).abandoned = (c.runs.get r).abandoned ∧
      ((d.runs.get r).outcome = none → (c.runs.get r).outcome = none)) : Linked d := by
  refine ⟨?_, ?_, ?_, ?_⟩
  · intro s r current
    rw [made, (runs r).1]
    exact linked.current s r ((scripts s).1.symm.trans current)
  · intro r old
    rw [made] at old
    obtain ⟨known, same⟩ := linked.named r old
    rw [(runs r).1, (runs r).2.1, ((scripts _).2 known).1]
    exact ⟨Nat.lt_of_lt_of_le known sizes, same⟩
  · intro r old pending
    rw [made] at old
    rw [(runs r).1, (scripts _).1]
    exact linked.pending r old ((runs r).2.2.2 pending)
  · intro r old pending
    rw [made] at old
    rw [(runs r).1, (runs r).2.2.1, ((scripts _).2 (linked.named r old).1).2]
    exact linked.abandoned r old ((runs r).2.2.2 pending)

theorem alike (linked : Linked c) (scripts : d.scripts = c.scripts) (runs : d.runs = c.runs) :
    Linked d := by
  refine linked.transfer (Nat.le_of_eq (by rw [scripts])) ?_ (by rw [runs]) ?_
  · intro s
    rw [scripts]
    exact ⟨rfl, fun _ => ⟨rfl, rfl⟩⟩
  · intro r
    rw [runs]
    exact ⟨rfl, rfl, rfl, id⟩

theorem addScript (linked : Linked c) {script : Script} (first : script.run = none) :
    Linked { c with scripts := c.scripts.add script } := by
  refine linked.transfer ?_ ?_ rfl fun _ => ⟨rfl, rfl, rfl, id⟩
  · rw [Slots.size_add]
    exact Nat.le_succ _
  · intro s
    rw [Slots.get_add]
    by_cases new : c.scripts.size = s
    · subst new
      rw [if_pos rfl, first, Slots.get_of_size_le (Nat.le_refl _)]
      exact ⟨rfl, fun bad => absurd bad (Nat.lt_irrefl _)⟩
    · rw [if_neg new]
      exact ⟨rfl, fun _ => ⟨rfl, rfl⟩⟩

theorem setScript (linked : Linked c) {s : ScriptKey} {f : Script → Script}
    (same : ∀ script, (f script).run = script.run ∧ (f script).id = script.id ∧
      (f script).freed = script.freed) : Linked (c.setScript s f) := by
  refine linked.transfer (Slots.size_le_update ..) ?_ rfl fun _ => ⟨rfl, rfl, rfl, id⟩
  intro s'
  simp only [Core.setScript, Slots.get_update]
  split
  · exact ⟨(same _).1, fun _ => (same _).2⟩
  · exact ⟨rfl, fun _ => ⟨rfl, rfl⟩⟩

theorem judge (linked : Linked c) (s : ScriptKey) (x : Milestone) : Linked (c.judge s x) := by
  refine linked.transfer (Nat.le_refl _) (fun _ => ⟨rfl, fun _ => ⟨rfl, rfl⟩⟩) ?_ ?_
  · exact Slots.size_settleCurrent (fun r current => (linked.current s r current).1) _
  · intro r
    rw [Core.judge_get]
    split
    · refine ⟨rfl, rfl, rfl, ?_⟩
      intro none
      exact (Option.or_eq_none_iff.mp none).1
    · exact ⟨rfl, rfl, rfl, id⟩

theorem arm (linked : Linked c) {s : ScriptKey} {token : Option TokenKey} {canceled : Bool}
    (known : c.Open s) : Linked (c.arm s token canceled) := by
  have old (r : RunKey) (current : (c.scripts.get s).run = some r) := (linked.current s r current).1
  have size := Core.arm_size token canceled old
  have new := Core.arm_get_new token canceled old
  have sizes : c.scripts.size ≤ (c.arm s token canceled).scripts.size := Slots.size_le_update ..
  have script (s' : ScriptKey) : (c.arm s token canceled).scripts.get s' =
      if s = s' then { c.scripts.get s' with run := some c.runs.size, token } else c.scripts.get s' :=
    Slots.get_update ..
  have same (s' : ScriptKey) : ((c.arm s token canceled).scripts.get s').id = (c.scripts.get s').id ∧
      ((c.arm s token canceled).scripts.get s').freed = (c.scripts.get s').freed := by
    rw [script]
    split <;> exact ⟨rfl, rfl⟩
  have older (r : RunKey) (other : r ≠ c.runs.size) :
      ((c.arm s token canceled).runs.get r).script = (c.runs.get r).script ∧
        ((c.arm s token canceled).runs.get r).id = (c.runs.get r).id ∧
        ((c.arm s token canceled).runs.get r).abandoned = (c.runs.get r).abandoned ∧
        (((c.arm s token canceled).runs.get r).outcome = none →
          (c.runs.get r).outcome = none ∧ (c.scripts.get s).run ≠ some r) := by
    rw [Core.arm_get_old token canceled other]
    split
    · refine ⟨rfl, rfl, rfl, ?_⟩
      intro none
      cases (Option.or_eq_none_iff.mp none).2
    · rename_i free
      exact ⟨rfl, rfl, rfl, fun none => ⟨none, free⟩⟩
  have own (r : RunKey) (made : r < (c.arm s token canceled).runs.size) :
      r = c.runs.size ∨ r < c.runs.size := by
    rw [size] at made
    exact Nat.eq_or_lt_of_le (Nat.le_of_lt_succ made)
  refine ⟨?_, ?_, ?_, ?_⟩
  · intro s' r current
    rw [size]
    rw [script] at current
    by_cases this : s = s'
    · subst this
      rw [if_pos rfl] at current
      cases current
      rw [new]
      exact ⟨Nat.lt_succ_self _, rfl⟩
    · rw [if_neg this] at current
      obtain ⟨made, own⟩ := linked.current s' r current
      rw [(older r (Nat.ne_of_lt made)).1]
      exact ⟨Nat.lt_succ_of_lt made, own⟩
  · intro r made
    rcases own r made with rfl | made
    · rw [new, (same s).1]
      exact ⟨Nat.lt_of_lt_of_le known.made sizes, rfl⟩
    · obtain ⟨own, id, _⟩ := older r (Nat.ne_of_lt made)
      obtain ⟨there, named⟩ := linked.named r made
      rw [own, id, (same _).1]
      exact ⟨Nat.lt_of_lt_of_le there sizes, named⟩
  · intro r made none
    rcases own r made with rfl | made
    · rw [new, script, if_pos rfl]
    · obtain ⟨own, _, _, pending⟩ := older r (Nat.ne_of_lt made)
      obtain ⟨before, free⟩ := pending none
      have current := linked.pending r made before
      have other : s ≠ (c.runs.get r).script := by
        intro this
        rw [← this] at current
        exact free current
      rw [own, script, if_neg other]
      exact current
  · intro r made none
    rcases own r made with rfl | made
    · rw [new, (same s).2]
      exact known.kept.symm
    · obtain ⟨own, _, gone, pending⟩ := older r (Nat.ne_of_lt made)
      rw [own, gone, (same _).2]
      exact linked.abandoned r made (pending none).1

theorem free (linked : Linked c) {s : ScriptKey} : Linked (c.free s) := by
  have size := Core.size_free (c := c) (s := s) fun r current => (linked.current s r current).1
  have script (s' : ScriptKey) : (c.free s).scripts.get s' =
      if s = s' then { c.scripts.get s' with freed := true } else c.scripts.get s' :=
    Slots.get_update ..
  have same (s' : ScriptKey) : ((c.free s).scripts.get s').run = (c.scripts.get s').run ∧
      ((c.free s).scripts.get s').id = (c.scripts.get s').id := by
    rw [script]
    split <;> exact ⟨rfl, rfl⟩
  have run (r : RunKey) : ((c.free s).runs.get r).script = (c.runs.get r).script ∧
      ((c.free s).runs.get r).id = (c.runs.get r).id ∧
      ((c.free s).runs.get r).outcome = (c.runs.get r).outcome := by
    rw [Core.free_get]
    split <;> exact ⟨rfl, rfl, rfl⟩
  refine ⟨?_, ?_, ?_, ?_⟩
  · intro s' r current
    rw [size, (run r).1]
    exact linked.current s' r ((same s').1.symm.trans current)
  · intro r made
    rw [size] at made
    rw [(run r).1, (run r).2.1, (same _).2]
    obtain ⟨there, named⟩ := linked.named r made
    exact ⟨Nat.lt_of_lt_of_le there (Slots.size_le_update ..), named⟩
  · intro r made pending
    rw [size] at made
    rw [(run r).1, (same _).1]
    exact linked.pending r made ((run r).2.2.symm.trans pending)
  · intro r made pending
    rw [size] at made
    have before := (run r).2.2.symm.trans pending
    have current := linked.pending r made before
    have gone := linked.abandoned r made before
    rw [(run r).1, script, Core.free_get]
    -- A pending run loses its settling end exactly when its script goes.
    by_cases this : s = (c.runs.get r).script
    · rw [if_pos this, if_pos (this ▸ current)]
    · have other : (c.scripts.get s).run ≠ some r := by
        intro bad
        exact this (linked.current s r bad).2.symm
      rw [if_neg this, if_neg other]
      exact gone

theorem change (linked : Linked c) {l : List (ScriptKey × Milestone)}
    (change : Change power c l d) : Linked d := by
  cases change with
  | @accepted b f held made vacant =>
    let script : Script :=
      { id := (c.fibers.get f).id, fiber := f, bridge := b, disposed := false, accepted := true,
        owned := true }
    have added : Linked { c with scripts := c.scripts.add script } := linked.addScript rfl
    exact added.alike rfl rfl
  | @refused b f held made =>
    let script : Script := { id := (c.fibers.get f).id, fiber := f, bridge := b }
    have added : Linked { c with scripts := c.scripts.add script } := linked.addScript rfl
    exact added.alike rfl rfl
  | read known live => exact linked.alike rfl rfl
  | armed known live meant => exact linked.arm known
  | judged known later lasting => exact linked.judge _ _
  | starting known live ready current armed own => exact linked.alike rfl rfl
  | resuming known live free => exact linked.alike rfl rfl
  | asked foreign plain held free => exact linked.alike rfl rfl
  | @disposing s dropped known meant live =>
    have ended := linked.setScript (s := s) (f := fun script => { script with disposed := true })
      fun _ => ⟨rfl, rfl, rfl⟩
    exact ended.alike rfl rfl
  | @disposed s dropped rest top known =>
    exact (linked.judge s .torn).alike rfl rfl
  | popped top plain => exact linked.alike rfl rfl
  | released top => exact linked.alike rfl rfl
  | unwound top allowed => exact linked.alike rfl rfl
  | disowned known ended => exact linked.setScript fun _ => ⟨rfl, rfl, rfl⟩
  | referred refs known => exact linked.setScript fun _ => ⟨rfl, rfl, rfl⟩
  | @unawaited r made =>
    refine linked.transfer (Nat.le_refl _) (fun _ => ⟨rfl, fun _ => ⟨rfl, rfl⟩⟩) ?_ ?_
    · exact Slots.size_update made _
    · intro r'
      simp only [Core.setRun, Slots.get_update]
      split <;> exact ⟨rfl, rfl, rfl, id⟩
  | spawned known unfinished => exact linked.alike rfl rfl
  | finished idle => exact linked.alike rfl rfl
  | begun => exact linked.alike rfl rfl
  | made fresh => exact linked.alike rfl rfl
  | seen => exact linked.alike rfl rfl
  | letGo held => exact linked.alike rfl rfl
  | freed made kept unheld => exact linked.free

end Linked

namespace Machine

theorem initial_linked : Linked initial.core := by
  refine ⟨?_, ?_, ?_, ?_⟩
  · intro s r current
    have no_script : initial.core.scripts.get s = default := Slots.get_empty s
    rw [no_script] at current
    cases current
  · intro r made
    cases made
  · intro r made
    cases made
  · intro r made
    cases made

theorem Reachable.linked {m : Machine} (reached : Reachable m) : Linked m.core :=
  reached.preserves Linked initial_linked fun _ linked change => linked.change change

end Machine

end FiberBridge
