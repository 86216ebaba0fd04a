import FiberBridge.Proofs.Runs

namespace FiberBridge

namespace Machine

variable {m n : Machine}

def Swept (m : Machine) : Prop :=
  ∀ s, s < m.scripts.size → (m.scripts.get s).freed ∨ m.scriptHeld s

structure Frees (m n : Machine) : Prop where
  size : n.scripts.size = m.scripts.size
  freed : ∀ s, (m.scripts.get s).freed → (n.scripts.get s).freed
  held : ∀ s, n.scriptHeld s = m.scriptHeld s

theorem Frees.trans {k : Machine} (left : m.Frees n) (right : n.Frees k) : m.Frees k :=
  ⟨right.size.trans left.size, fun s gone => right.freed s (left.freed s gone),
    fun s => (right.held s).trans (left.held s)⟩

theorem freeScript_frees {s : ScriptKey} (made : s < m.scripts.size) : m.Frees (m.freeScript s) := by
  have scripts : (m.freeScript s).scripts = m.scripts.update s fun script =>
      { script with freed := true } := congrArg Core.scripts (m.freeScript_core s)
  have stack : (m.freeScript s).stack = m.stack := congrArg Core.stack (m.freeScript_core s)
  have tasks : (m.freeScript s).tasks = m.tasks := congrArg Core.tasks (m.freeScript_core s)
  refine ⟨?_, ?_, ?_⟩
  · rw [scripts]
    exact Slots.size_update made _
  · intro s' gone
    rw [scripts, Slots.get_update]
    split
    · rfl
    · exact gone
  · intro s'
    unfold scriptHeld
    rw [scripts, stack, tasks, Slots.get_update]
    split <;> rfl

theorem sweepScript_frees {s : ScriptKey} (made : s < m.scripts.size) :
    m.Frees (m.sweepScript s) ∧
      (((m.sweepScript s).scripts.get s).freed ∨ (m.sweepScript s).scriptHeld s) := by
  unfold sweepScript
  split
  · rename_i kept
    exact ⟨⟨rfl, fun _ gone => gone, fun _ => rfl⟩, by simpa using kept⟩
  · refine ⟨freeScript_frees made, .inl ?_⟩
    have scripts : (m.freeScript s).scripts = m.scripts.update s fun script =>
        { script with freed := true } := congrArg Core.scripts (m.freeScript_core s)
    rw [scripts, Slots.get_update, if_pos rfl]

theorem sweepScripts_frees (keys : List ScriptKey) (made : ∀ s ∈ keys, s < m.scripts.size) :
    m.Frees (keys.foldl sweepScript m) ∧
      ∀ s ∈ keys, ((keys.foldl sweepScript m).scripts.get s).freed ∨
        (keys.foldl sweepScript m).scriptHeld s := by
  induction keys generalizing m with
  | nil => exact ⟨⟨rfl, fun _ gone => gone, fun _ => rfl⟩, fun _ bad => nomatch bad⟩
  | cons s rest ih =>
    obtain ⟨one, done⟩ := sweepScript_frees (made s List.mem_cons_self)
    obtain ⟨others, left⟩ := ih (m := m.sweepScript s) fun s' present =>
      one.size.symm ▸ made s' (List.mem_cons_of_mem _ present)
    refine ⟨one.trans others, ?_⟩
    intro s' present
    rcases List.mem_cons.mp present with rfl | present
    · rcases done with gone | held
      · exact .inl (others.freed _ gone)
      · exact .inr ((others.held _).trans held)
    · exact left s' present

theorem swept_sweep : m.sweep.Swept := by
  intro s made
  have core : m.sweep.core = (m.scripts.keys.foldl sweepScript m).core := sweepContexts_core ..
  have scripts : m.sweep.scripts = (m.scripts.keys.foldl sweepScript m).scripts :=
    congrArg Core.scripts core
  have held : m.sweep.scriptHeld s = (m.scripts.keys.foldl sweepScript m).scriptHeld s :=
    congrArg (fun c => c.held s) core
  obtain ⟨frees, all⟩ := sweepScripts_frees (m := m) m.scripts.keys fun _ present =>
    Slots.mem_keys.mp present
  rw [scripts, frees.size] at made
  rw [scripts, held]
  exact all s (Slots.mem_keys.mpr made)

theorem Reachable.of_sweep {holds : Machine → Prop} (reached : Reachable m) (start : holds Machine.initial)
    (sweep : ∀ n : Machine, holds n.sweep) : holds m := by
  cases reached with
  | initial => exact start
  | step prior step =>
    cases step with
    | invoke admitted ran =>
      obtain ⟨rfl, _⟩ := Prod.mk.inj ran
      exact sweep _
    | answer ran =>
      obtain ⟨frame, rest, after, _, _, rfl, _⟩ := (Step.answer ran).answered
      exact sweep _
    | unwind ran =>
      obtain ⟨frame, rest, _, rfl, _⟩ := (Step.unwind ran).unwound
      exact sweep _

theorem Reachable.swept (reached : Reachable m) : m.Swept :=
  reached.of_sweep (fun _ bad => absurd bad (Nat.not_lt_zero _)) fun _ => swept_sweep

theorem Swept.scripts_still (swept : m.Swept) {keys : List ScriptKey}
    (made : ∀ s ∈ keys, s < m.scripts.size) : keys.foldl sweepScript m = m := by
  induction keys with
  | nil => rfl
  | cons s rest ih =>
    have kept : m.sweepScript s = m := by
      unfold sweepScript
      refine if_pos ?_
      simpa using swept s (made s List.mem_cons_self)
    rw [List.foldl_cons, kept]
    exact ih fun s' present => made s' (List.mem_cons_of_mem _ present)

-- Where nothing was left to let go of, letting go of it changes nothing.
theorem Swept.core (swept : m.Swept) : m.sweep.core = m.core := by
  unfold sweep
  dsimp only
  rw [sweepContexts_core, swept.scripts_still fun _ present => Slots.mem_keys.mp present]

theorem Swept.grown (swept : m.Swept) (scripts : n.scripts = m.scripts) (tasks : n.tasks = m.tasks)
    (stack : ∀ frame ∈ m.stack, ∀ s, frame.holdsScript s → ∃ frame ∈ n.stack, frame.holdsScript s) :
    n.Swept := by
  intro s made
  rw [scripts] at made
  rcases swept s made with gone | held
  · rw [scripts]
    exact .inl gone
  · refine .inr ?_
    unfold scriptHeld at held ⊢
    rw [scripts, tasks]
    simp only [Bool.or_eq_true, List.any_eq_true] at held ⊢
    rcases held with (owner | ⟨frame, present, held⟩) | task
    · exact .inl (.inl owner)
    · exact .inl (.inr (stack frame present s held))
    · exact .inr task

structure Releases (m n : Machine) : Prop where
  core : n.core = m.core
  size : n.contexts.size = m.contexts.size
  disposed : ∀ c, (m.contexts.get c).disposed → (n.contexts.get c).disposed
  held : ∀ c, n.contextHeld c = m.contextHeld c

theorem Releases.trans {k : Machine} (left : m.Releases k) (right : k.Releases n) : m.Releases n :=
  ⟨right.core.trans left.core, right.size.trans left.size,
    fun c gone => right.disposed c (left.disposed c gone),
    fun c => (right.held c).trans (left.held c)⟩

theorem sweepContext_releases {c : ContextKey} (made : c < m.contexts.size) :
    m.Releases (m.sweepContext c) ∧
      (((m.sweepContext c).contexts.get c).disposed ∨ (m.sweepContext c).contextHeld c) := by
  unfold sweepContext
  split
  · rename_i kept
    exact ⟨⟨rfl, rfl, fun _ gone => gone, fun _ => rfl⟩, by simpa using kept⟩
  · refine ⟨⟨rfl, Slots.size_update made _, ?_, ?_⟩, .inl ?_⟩
    · intro c' gone
      change ((m.contexts.update c _).get c').disposed
      rw [Slots.get_update]
      split
      · rfl
      · exact gone
    · intro c'
      change (((m.contexts.update c _).get c').held || _) = _
      rw [Slots.get_update]
      split <;> rfl
    · change ((m.contexts.update c _).get c).disposed
      rw [Slots.get_update, if_pos rfl]

theorem sweepContexts_releases (keys : List ContextKey) (made : ∀ c ∈ keys, c < m.contexts.size) :
    m.Releases (keys.foldl sweepContext m) ∧
      ∀ c ∈ keys, ((keys.foldl sweepContext m).contexts.get c).disposed ∨
        (keys.foldl sweepContext m).contextHeld c := by
  induction keys generalizing m with
  | nil => exact ⟨⟨rfl, rfl, fun _ gone => gone, fun _ => rfl⟩, fun _ bad => nomatch bad⟩
  | cons c rest ih =>
    obtain ⟨one, done⟩ := sweepContext_releases (made c List.mem_cons_self)
    obtain ⟨others, left⟩ := ih (m := m.sweepContext c) fun c' present =>
      one.size.symm ▸ made c' (List.mem_cons_of_mem _ present)
    refine ⟨one.trans others, ?_⟩
    intro c' present
    rcases List.mem_cons.mp present with rfl | present
    · rcases done with gone | held
      · exact .inl (others.disposed _ gone)
      · exact .inr ((others.held _).trans held)
    · exact left c' present

def Relieved (m : Machine) : Prop :=
  ∀ c, c < m.contexts.size → (m.contexts.get c).disposed ∨ m.contextHeld c

theorem relieved_sweep : m.sweep.Relieved := by
  let n := m.scripts.keys.foldl sweepScript m
  obtain ⟨releases, all⟩ := sweepContexts_releases (m := n) n.contexts.keys fun _ present =>
    Slots.mem_keys.mp present
  intro c made
  have sizes : m.sweep.contexts.size = n.contexts.size := releases.size
  rw [sizes] at made
  exact all c (Slots.mem_keys.mpr made)

theorem Reachable.relieved (reached : Reachable m) : m.Relieved :=
  reached.of_sweep (fun _ bad => absurd bad (Nat.not_lt_zero _)) fun _ => relieved_sweep

-- Where nobody and nothing is left to let go of, letting go changes nothing at all.
theorem Swept.still (swept : m.Swept) (relieved : m.Relieved) : m.sweep = m := by
  have scripts : m.scripts.keys.foldl sweepScript m = m :=
    swept.scripts_still fun _ present => Slots.mem_keys.mp present
  have contexts (keys : List ContextKey) (made : ∀ c ∈ keys, c < m.contexts.size) :
      keys.foldl sweepContext m = m := by
    induction keys with
    | nil => rfl
    | cons c rest ih =>
      have kept : m.sweepContext c = m := by
        unfold sweepContext
        refine if_pos ?_
        simpa using relieved c (made c List.mem_cons_self)
      rw [List.foldl_cons, kept]
      exact ih fun c' present => made c' (List.mem_cons_of_mem _ present)
  unfold sweep
  dsimp only
  rw [scripts]
  exact contexts _ fun _ present => Slots.mem_keys.mp present

theorem Reachable.still (reached : Reachable m) : m.sweep = m :=
  reached.swept.still reached.relieved

def SweptBut (m : Machine) (k : ScriptKey) : Prop :=
  ∀ s, s ≠ k → s < m.scripts.size → (m.scripts.get s).freed ∨ m.scriptHeld s

structure Parts (k : ScriptKey) (m n : Machine) : Prop where
  scripts : ∀ s, s ≠ k → n.scripts.get s = m.scripts.get s
  script : ∀ s, n.scripts.get s = { m.scripts.get s with freed := (n.scripts.get s).freed }
  runs : ∀ r, (m.scripts.get k).run ≠ some r → n.runs.get r = m.runs.get r
  bridges : n.bridges = m.bridges
  tasks : n.tasks = m.tasks
  canceled : n.canceled = m.canceled
  deeds : n.core.deeds = m.core.deeds
  stack : n.stack = m.stack

namespace Parts

variable {k : ScriptKey}

theorem refl : Parts k m m := ⟨fun _ _ => rfl, fun _ => rfl, fun _ _ => rfl, rfl, rfl, rfl, rfl, rfl⟩

theorem freeScript : Parts k m (m.freeScript k) := by
  have core := m.freeScript_core k
  have scripts : (m.freeScript k).scripts = m.scripts.update k fun script =>
      { script with freed := true } := congrArg Core.scripts core
  have deeds : (m.freeScript k).core.deeds = (m.core.free k).deeds := congrArg Core.deeds core
  refine ⟨?_, ?_, ?_, ?_, congrArg Core.tasks core, ?_, deeds, congrArg Core.stack core⟩
  · intro s other
    rw [scripts, Slots.get_update, if_neg (Ne.symm other)]
  · intro s
    rw [scripts, Slots.get_update]
    split <;> rfl
  · intro r other
    have runs : (m.freeScript k).runs = (m.core.free k).runs := congrArg Core.runs core
    rw [runs, Core.free_get]
    exact if_neg other
  all_goals
    unfold Machine.freeScript
    dsimp only
    split <;> rfl

theorem sweepContexts (parts : Parts k m n) (keys : List ContextKey) :
    Parts k m (keys.foldl sweepContext n) := by
  induction keys generalizing n with
  | nil => exact parts
  | cons c rest ih =>
    refine ih ?_
    unfold sweepContext
    split
    · exact parts
    · exact ⟨parts.scripts, parts.script, parts.runs, parts.bridges, parts.tasks, parts.canceled,
        parts.deeds, parts.stack⟩

end Parts

theorem SweptBut.scripts {k : ScriptKey} (swept : m.SweptBut k) {keys : List ScriptKey}
    (made : ∀ s ∈ keys, s < m.scripts.size) (inside : k < m.scripts.size) :
    keys.foldl sweepScript m = m ∨ keys.foldl sweepScript m = m.freeScript k := by
  -- What has been let go of so far is nothing, or `k`; either way only `k` can still go.
  have onward {n : Machine} (now : n = m ∨ n = m.freeScript k) {s : ScriptKey}
      (made : s < m.scripts.size) : n.sweepScript s = m ∨ n.sweepScript s = m.freeScript k := by
    have frees : m.Frees n := by
      rcases now with rfl | rfl
      · exact ⟨rfl, fun _ gone => gone, fun _ => rfl⟩
      · exact freeScript_frees inside
    unfold sweepScript
    split
    · exact now
    · rename_i lost
      by_cases this : s = k
      · subst this
        rcases now with rfl | rfl
        · exact .inr rfl
        · have gone : ((m.freeScript s).scripts.get s).freed = true := by
            have scripts : (m.freeScript s).scripts = m.scripts.update s fun script =>
                { script with freed := true } := congrArg Core.scripts (m.freeScript_core s)
            rw [scripts, Slots.get_update, if_pos rfl]
          simp [gone] at lost
      · rcases swept s this made with gone | held
        · simp [frees.freed s gone] at lost
        · simp [frees.held s, held] at lost
  have all (keys : List ScriptKey) (made : ∀ s ∈ keys, s < m.scripts.size) (n : Machine)
      (now : n = m ∨ n = m.freeScript k) :
      keys.foldl sweepScript n = m ∨ keys.foldl sweepScript n = m.freeScript k := by
    induction keys generalizing n with
    | nil => exact now
    | cons s rest ih =>
      exact ih (fun s' present => made s' (List.mem_cons_of_mem _ present)) _
        (onward now (made s List.mem_cons_self))
  exact all keys made m (.inl rfl)

theorem SweptBut.parts {k : ScriptKey} (swept : m.SweptBut k) (inside : k < m.scripts.size) :
    Parts k m m.sweep := by
  unfold sweep
  dsimp only
  refine Parts.sweepContexts ?_ _
  rcases swept.scripts (fun _ present => Slots.mem_keys.mp present) inside with same | freed
  · rw [same]
    exact .refl
  · rw [freed]
    exact .freeScript

end Machine

end FiberBridge
