import FiberBridge.Proofs.Current
import FiberBridge.Proofs.Scripts

namespace FiberBridge

def Core.Torn (c : Core) : Prop :=
  ∀ s r, (c.scripts.get s).disposed → (∀ dropped, .disposing s dropped ∉ c.stack) →
    (c.scripts.get s).run = some r → (c.runs.get r).outcome.isSome

structure Core.Over (c : Core) (s : ScriptKey) : Prop where
  made : s < c.scripts.size
  disposed : (c.scripts.get s).disposed
  settled : ∀ r, r < c.runs.size → (c.runs.get r).script = s → (c.runs.get r).outcome.isSome

section

variable {power : Power} {c d : Core} {l : List (ScriptKey × Milestone)}

theorem Core.Torn.transfer (torn : c.Torn)
    (scripts : ∀ s, (d.scripts.get s).run = (c.scripts.get s).run ∧
      ((d.scripts.get s).disposed → (c.scripts.get s).disposed))
    (stack : ∀ s dropped, .disposing s dropped ∈ c.stack → .disposing s dropped ∈ d.stack)
    (runs : ∀ s r, (c.scripts.get s).run = some r → (c.runs.get r).outcome.isSome →
      (d.runs.get r).outcome.isSome) : d.Torn := by
  intro s r ended idle current
  have before := (scripts s).1.symm.trans current
  refine runs s r before (torn s r ((scripts s).2 ended) ?_ before)
  intro dropped present
  exact idle dropped (stack s dropped present)

theorem Core.Torn.arm (torn : c.Torn) {s : ScriptKey} {token : Option TokenKey} {canceled : Bool}
    (live : (c.scripts.get s).disposed = false)
    (runs : c.RunsLast (c.arm s token canceled)) (linked : Linked c) :
    (c.arm s token canceled).Torn := by
  intro s' r ended idle current
  simp only [Core.arm, Slots.get_update] at ended current
  by_cases this : s = s'
  · subst this
    rw [if_pos rfl] at ended
    cases live.symm.trans ended
  · rw [if_neg this] at ended current
    exact (runs r (linked.current s' r current).1).2.2 (torn s' r ended idle current)

-- While a release is under way its script need not have settled.
theorem Core.Torn.beginDispose (torn : c.Torn) (s : ScriptKey) (dropped : Bool) :
    (c.beginDispose s dropped).Torn := by
  intro s' r ended idle current
  have other : s ≠ s' := by
    intro same
    subst same
    exact idle dropped List.mem_cons_self
  have script : (c.beginDispose s dropped).scripts.get s' = c.scripts.get s' :=
    (Slots.get_update ..).trans (if_neg other)
  rw [script] at ended current
  refine torn s' r ended ?_ current
  intro dropped' present
  exact idle dropped' (List.mem_cons_of_mem _ present)

theorem Core.Torn.endDispose (torn : c.Torn) {s : ScriptKey} {dropped : Bool} {rest : List Frame}
    (top : c.stack = .disposing s dropped :: rest) :
    ({ c with stack := rest }.endDispose s).Torn := by
  intro s' r ended idle current
  have now : ({ c with stack := rest }.endDispose s).runs = (c.judge s .torn).runs := rfl
  have current : (c.scripts.get s').run = some r := current
  by_cases this : s = s'
  · subst this
    rw [now, Core.judge_get, if_pos current]
    exact Option.isSome_or.trans (Bool.or_eq_true_iff.mpr (.inr rfl))
  · have settled : (c.runs.get r).outcome.isSome := by
      refine torn s' r ended ?_ current
      intro dropped' present
      rw [top] at present
      rcases List.mem_cons.mp present with same | present
      · cases same
        exact this rfl
      · exact idle dropped' present
    rw [now, Core.judge_get]
    split
    · exact Option.isSome_or.trans (Bool.or_eq_true_iff.mpr (.inl settled))
    · exact settled

-- Only an unwound release leaves a script disposed with a pending run.
theorem Core.Torn.change (torn : c.Torn) (linked : Linked c) (whole : ∀ s, ¬ power.loses s)
    (change : Change power c l d) : d.Torn := by
  have last := change.runs_last
  have runs (s : ScriptKey) (r : RunKey) (current : (c.scripts.get s).run = some r) :=
    (last r (linked.current s r current).1).2.2
  have same (scripts : d.scripts = c.scripts) (s : ScriptKey) :
      (d.scripts.get s).run = (c.scripts.get s).run ∧
        ((d.scripts.get s).disposed → (c.scripts.get s).disposed) := by
    rw [scripts]
    exact ⟨rfl, id⟩
  have updated {s' : ScriptKey} {f : Script → Script} (scripts : d.scripts = c.scripts.update s' f)
      (run : ∀ script, (f script).run = script.run)
      (disposed : ∀ script, (f script).disposed = script.disposed) (s : ScriptKey) :
      (d.scripts.get s).run = (c.scripts.get s).run ∧
        ((d.scripts.get s).disposed → (c.scripts.get s).disposed) := by
    rw [scripts, Slots.field_update Script.run run, Slots.field_update Script.disposed disposed]
    exact ⟨rfl, id⟩
  have added {script : Script} (scripts : d.scripts = c.scripts.add script)
      (first : script.run = none) (s : ScriptKey) :
      (d.scripts.get s).run = (c.scripts.get s).run ∧
        ((d.scripts.get s).disposed → (c.scripts.get s).disposed) := by
    rw [scripts]
    refine ⟨Slots.field_add Script.run first .., ?_⟩
    rw [Slots.get_add]
    split
    · rename_i new
      rw [Slots.get_of_size_le (Nat.le_of_eq new)]
      exact fun _ => rfl
    · exact id
  cases change with
  | accepted held made vacant => exact torn.transfer (added rfl rfl) (fun _ _ => id) runs
  | refused held made =>
    exact torn.transfer (added rfl rfl) (fun _ _ => List.mem_cons_of_mem _) runs
  | armed known live meant => exact torn.arm live last linked
  | disposing known meant live => exact torn.beginDispose _ _
  | disposed top known => exact torn.endDispose top
  | popped top plain =>
    refine torn.transfer (same rfl) ?_ runs
    intro s dropped present
    exact Frame.mem_below plain (top ▸ present)
  | released top =>
    refine torn.transfer (same rfl) ?_ runs
    intro s dropped present
    exact Frame.mem_below (fun _ => rfl) (top ▸ present)
  | unwound top allowed => exact absurd allowed (whole _)
  | disowned known ended =>
    exact torn.transfer (updated (f := fun script => { script with owned := false }) rfl
      (fun _ => rfl) fun _ => rfl) (fun _ _ => id) runs
  | referred refs known =>
    exact torn.transfer (updated (f := fun script => { script with refs := refs script }) rfl
      (fun _ => rfl) fun _ => rfl) (fun _ _ => id) runs
  | freed made kept unheld =>
    exact torn.transfer (updated (f := fun script => { script with freed := true }) rfl
      (fun _ => rfl) fun _ => rfl) (fun _ _ => id) runs
  | starting known live ready current armed own =>
    exact torn.transfer (same rfl) (fun _ _ => List.mem_cons_of_mem _) runs
  | resuming known live free =>
    exact torn.transfer (same rfl) (fun _ _ => List.mem_cons_of_mem _) runs
  | asked foreign plain held free =>
    exact torn.transfer (same rfl) (fun _ _ => List.mem_cons_of_mem _) runs
  | letGo held => exact torn.transfer (same rfl) (fun _ _ => List.mem_cons_of_mem _) runs
  | _ => exact torn.transfer (same rfl) (fun _ _ => id) runs

theorem Core.Over.change {s : ScriptKey} (ended : c.Over s) (linked : Linked c)
    (change : Change power c l d) : d.Over s := by
  have lasts := Core.Lasts.change ended.made change
  have runs := change.runs_last
  refine ⟨lasts.made, lasts.disposed ended.disposed, ?_⟩
  have kept (sizes : d.runs.size = c.runs.size) (r : RunKey) (made : r < d.runs.size)
      (own : (d.runs.get r).script = s) : (d.runs.get r).outcome.isSome := by
    rw [sizes] at made
    obtain ⟨_, script, settled⟩ := runs r made
    exact settled (ended.settled r made (script.symm.trans own))
  have old {s' : ScriptKey} (r : RunKey) (current : (c.scripts.get s').run = some r) :=
    (linked.current s' r current).1
  cases change with
  | @armed s' token canceled known live meant =>
    intro r made own
    by_cases new : r = c.runs.size
    · subst new
      rw [Core.arm_script, if_pos rfl] at own
      subst own
      cases live.symm.trans ended.disposed
    · rw [Core.arm_size token canceled old] at made
      have made := Nat.lt_of_le_of_ne (Nat.le_of_lt_succ made) new
      obtain ⟨_, script, settled⟩ := runs r made
      exact settled (ended.settled r made (script.symm.trans own))
  | judged known later lasting => exact kept (Slots.size_settleCurrent old _)
  | disposed top known => exact kept (Slots.size_settleCurrent old _)
  | unawaited there => exact kept (Slots.size_update there _)
  | freed there intact unheld => exact kept (Core.size_free old)
  | _ => exact kept rfl

theorem Core.over_endDispose {s : ScriptKey} {rest : List Frame} (linked : Linked c)
    (made : s < c.scripts.size) (disposed : (c.scripts.get s).disposed) :
    ({ c with stack := rest }.endDispose s).Over s := by
  have now : ({ c with stack := rest }.endDispose s).runs = (c.judge s .torn).runs := rfl
  have size : (c.judge s .torn).runs.size = c.runs.size :=
    Slots.size_settleCurrent (fun r current => (linked.current s r current).1) _
  refine ⟨made, disposed, ?_⟩
  intro r there own
  rw [now, size] at there
  rw [now, Core.judge_script] at own
  rw [now, Core.judge_get]
  split
  · exact Option.isSome_or.trans (Bool.or_eq_true_iff.mpr (.inr rfl))
  · rename_i superseded
    cases outcome : (c.runs.get r).outcome with
    | some o => rfl
    | none =>
      have current := linked.pending r there outcome
      rw [own] at current
      exact absurd current superseded

theorem Linked.settled_arm {s : ScriptKey} {token : Option TokenKey} {canceled : Bool} {r : RunKey}
    (linked : Linked c) (made : r < c.runs.size) (own : (c.runs.get r).script = s) :
    ((c.arm s token canceled).runs.get r).outcome.isSome := by
  rw [Core.arm_get_old token canceled (Nat.ne_of_lt made)]
  split
  · exact Option.isSome_or.trans (Bool.or_eq_true_iff.mpr (.inr rfl))
  · rename_i superseded
    cases outcome : (c.runs.get r).outcome with
    | some o => rfl
    | none =>
      have current := linked.pending r made outcome
      rw [own] at current
      exact absurd current superseded

theorem Path.settles {s : ScriptKey} {r r' : RunKey} {canceled : Bool} (path : Path power c l d)
    (linked : Linked c) (armed : (s, .armed r' canceled) ∈ l) (made : r < c.runs.size)
    (own : (c.runs.get r).script = s) : (d.runs.get r).outcome.isSome := by
  induction path with
  | nil => cases armed
  | @step d e before after prior change ih =>
    have both := prior.preserves (fun d => Linked d ∧ r < d.runs.size ∧ (d.runs.get r).script = s)
      (by
        rintro d e l ⟨linked, made, own⟩ change
        obtain ⟨still, script, _⟩ := change.runs_last r made
        exact ⟨linked.change change, still, script.trans own⟩) ⟨linked, made, own⟩
    rcases List.mem_append.mp armed with earlier | now
    · exact (change.runs_last r both.2.1).2.2 (ih earlier)
    · cases change with
      | armed known live meant =>
        cases List.mem_singleton.mp now
        exact both.1.settled_arm both.2.1 both.2.2
      | judged known later lasting =>
        cases List.mem_singleton.mp now
        exact absurd rfl (later r' canceled)
      | disposed top known => cases List.mem_singleton.mp now
      | _ => cases now

end

namespace Machine

variable {m next : Machine}

theorem startFate_of_call {s : ScriptKey} {token : Option TokenKey} {q : HostCall}
    (called : (m.start s token).2 = .call q) :
    m.startFate s token = [(s, .armed m.runs.size (m.isCanceled token))] := by
  unfold start at called
  unfold startFate
  cases live : (m.scripts.get s).disposed with
  | true =>
    rw [status_disposed live] at called
    cases called
  | false =>
    obtain ⟨n, looked, noted, tokens⟩ := status_live live
    rw [looked] at called
    cases startable : (Status.ofOrdinal
      (m.fibers.get (m.scripts.get s).fiber).ordinal).startable with
    | false =>
      simp only [startable] at called
      cases called
    | true => simp [live, startable]

theorem Orderly.torn (orderly : Orderly m) : m.core.Torn := by
  induction orderly with
  | initial =>
    intro s r ended idle current
    have no_script : Machine.initial.core.scripts.get s = default := Slots.get_empty s
    rw [no_script] at current
    cases current
  | @step m next move r prior step whole ih =>
    have both := (step_path prior.reachable.steady step).preserves (fun c => Linked c ∧ c.Torn)
      (fun before change => ⟨before.1.change change, before.2.change before.1 whole change⟩)
      ⟨prior.reachable.linked, ih⟩
    exact both.2

theorem Runs.stays_over {s : ScriptKey} {moves : List Move} (reached : Reachable m)
    (ended : m.core.Over s) (runs : Runs m moves next) : next.core.Over s := by
  induction runs with
  | nil => exact ended
  | cons step rest ih =>
    have both := (step_path reached.steady step).preserves (fun c => Linked c ∧ c.Over s)
      (fun before change => ⟨before.1.change change, before.2.change before.1 change⟩)
      ⟨reached.linked, ended⟩
    exact ih (reached.step step) both.2

theorem disposed_over {s : ScriptKey} {dropped : Bool} {rest : List Frame} {r : Reaction}
    (reached : Reachable m) (top : m.stack = .disposing s dropped :: rest)
    (step : Step m (.answer .done) next r) : next.core.Over s := by
  obtain ⟨after, continued, rfl, _⟩ := step.answered_at top
  obtain rfl := Option.some.inj continued
  have present : Frame.disposing s dropped ∈ m.core.stack := by
    rw [core_stack, top]
    exact List.mem_cons_self
  obtain ⟨made, disposed⟩ := reached.releasing s dropped present
  have change : Change (m.power (.answer .done)) m.core [(s, .torn)]
      ({ m.core with stack := rest }.endDispose s) :=
    .disposed top (top_open reached.steady top (by simp [Frame.holdsScript])) id
  have swept : Path (m.power (.answer .done)) ({ m with stack := rest }.disposed s).1.core []
      ({ m with stack := rest }.disposed s).1.sweep.core := sweep_path
  rw [disposed_core] at swept
  have both := swept.preserves (fun c => Linked c ∧ c.Over s)
    (fun before change => ⟨before.1.change change, before.2.change before.1 change⟩)
    ⟨reached.linked.change change, Core.over_endDispose reached.linked made disposed⟩
  exact both.2

theorem pending_or_settled {r : RunKey} (orderly : Orderly m) (made : r < m.runs.size) :
    m.isSettled r ∨
      (m.scripts.get (m.runs.get r).script).run = some r ∧
        ((m.scripts.get (m.runs.get r).script).disposed = false ∨
          ∃ dropped, .disposing (m.runs.get r).script dropped ∈ m.stack) := by
  cases outcome : (m.runs.get r).outcome with
  | some o =>
    left
    unfold isSettled
    rw [outcome]
    rfl
  | none =>
    have current := orderly.reachable.linked.pending r made outcome
    refine .inr ⟨current, ?_⟩
    cases ended : (m.scripts.get (m.runs.get r).script).disposed with
    | false => exact .inl rfl
    | true =>
      right
      rcases Classical.em (∃ dropped, Frame.disposing (m.runs.get r).script dropped ∈ m.stack) with
        under_way | idle
      · exact under_way
      · have settled := orderly.torn _ r ended (fun dropped there => idle ⟨dropped, there⟩) current
        have bad : (m.runs.get r).outcome.isSome := settled
        rw [outcome] at bad
        cases bad

theorem runs_disposed_settled {s : ScriptKey} {dropped : Bool} {rest : List Frame}
    {reaction : Reaction} {moves : List Move} {last : Machine} {r : RunKey} (reached : Reachable m)
    (top : m.stack = .disposing s dropped :: rest) (step : Step m (.answer .done) next reaction)
    (runs : Runs next moves last) (made : r < last.runs.size) (own : (last.runs.get r).script = s) :
    last.isSettled r :=
  (runs.stays_over (reached.step step) (disposed_over reached top step)).settled r made own

theorem restart_settled {s : ScriptKey} {token : Option TokenKey} {q : HostCall} {r : RunKey}
    (reached : Reachable m) (step : Step m (.invoke (.start s token)) next (.call q))
    (made : r < m.runs.size) (own : (m.runs.get r).script = s) : next.isSettled r := by
  have path := step_path reached.steady step
  have called : (m.start s token).2 = .call q := step.invoked.2.2
  have armed : (s, Milestone.armed m.runs.size (m.isCanceled token)) ∈
      m.fate (.invoke (.start s token)) := by
    show _ ∈ m.startFate s token
    rw [startFate_of_call called]
    exact List.mem_singleton.mpr rfl
  exact path.settles reached.linked armed made own

-- Every state in which no release has unwound, whatever is under way there. Once a release has come
-- back, even later unwinding leaves nothing of its script pending.
theorem no_run_orphaned (orderly : Orderly m) :
    (∀ s r, .starting s r ∈ m.stack → r < m.runs.size ∧ (m.runs.get r).script = s) ∧
    (∀ r, r < m.runs.size →
      m.isSettled r ∨
        (m.scripts.get (m.runs.get r).script).run = some r ∧
          ((m.scripts.get (m.runs.get r).script).disposed = false ∨
            ∃ dropped, .disposing (m.runs.get r).script dropped ∈ m.stack)) ∧
    (∀ r r', r < m.runs.size → r' < m.runs.size → (m.runs.get r).script = (m.runs.get r').script →
      ¬ m.isSettled r → ¬ m.isSettled r' → r = r') ∧
    (∀ s token next q r, Step m (.invoke (.start s token)) next (.call q) → r < m.runs.size →
      (m.runs.get r).script = s → next.isSettled r) ∧
    (∀ s dropped rest next reaction moves last r, m.stack = .disposing s dropped :: rest →
      Step m (.answer .done) next reaction → Runs next moves last → r < last.runs.size →
      (last.runs.get r).script = s → last.isSettled r) := by
  have reached := orderly.reachable
  refine ⟨reached.steady.starts, fun r made => pending_or_settled orderly made, ?_, ?_, ?_⟩
  · intro r r' made made' same pending pending'
    rcases pending_or_settled orderly made with settled | ⟨current, _⟩
    · exact absurd settled pending
    · rcases pending_or_settled orderly made' with settled | ⟨current', _⟩
      · exact absurd settled pending'
      · rw [same] at current
        exact Option.some.inj (current.symm.trans current')
  · intro s token next q r step made own
    exact restart_settled reached step made own
  · intro s dropped rest next reaction moves last r top step runs made own
    exact runs_disposed_settled reached top step runs made own

-- The first native start leaves a wait, whose task is run inside that start and resumes the script.
-- From inside the resume the script is started again and released; the release is still under way.
def releasedInside : List Move :=
  [.invoke (.build { frames := some .host, runtime := true }), .invoke (.makeFiber ⟨7⟩ 0),
    .invoke (.register 0 0), .invoke (.start 0 none),
    .invoke (.command 0 ⟨7⟩ "wait_frames".toUTF8 ⟨7⟩ false), .answer (.decoded (.ok (.num (.int 1)))),
    .answer (.notification (.signal 0)), .invoke (.complete 0), .invoke (.pollTask 0),
    .invoke (.setOrdinal 0 5), .invoke (.start 0 none), .answer (.code 1), .invoke (.dispose 0)]

set_option maxRecDepth 10000 in
theorem no_run_orphaned_releasedInside :
    (after releasedInside).isSettled 0 ∧ ¬ (after releasedInside).isSettled 1 ∧
      ((after releasedInside).scripts.get 0).run = some 1 ∧
      (after releasedInside).stack =
        [.disposing 0 false, .resuming 0 (.task 0), .starting 0 0] := by
  have orderly : Orderly (after releasedInside) :=
    (runs_after (by decide +kernel)).orderly .initial (by simp [releasedInside])
  obtain ⟨_, current, unique, _⟩ := no_run_orphaned orderly
  have pending : ¬ (after releasedInside).isSettled 1 := by decide +kernel
  refine ⟨?_, pending, ?_, by decide +kernel⟩
  · rcases Bool.eq_false_or_eq_true ((after releasedInside).isSettled 0) with settled | unsettled
    · exact settled
    · have same := unique 0 1 (by decide +kernel) (by decide +kernel) (by decide +kernel)
        (by simp [unsettled]) pending
      cases same
  · rcases current 1 (by decide +kernel) with settled | ⟨run, _⟩
    · exact absurd settled pending
    · have own : ((after releasedInside).runs.get 1).script = 0 := by decide +kernel
      rwa [own] at run

end Machine

end FiberBridge
