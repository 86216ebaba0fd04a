import FiberBridge.Proofs.Detached

namespace FiberBridge

namespace Machine

variable {m next last : Machine} {move : Move} {reaction : Reaction} {t : TaskKey}

-- What a move may do that works for script `s` and does not start it.
structure Bound (m : Machine) (s : ScriptKey) (next : Machine) (reaction : Reaction) : Prop where
  size : next.runs.size = m.runs.size
  spared : ∀ r, r < m.runs.size → (m.scripts.get s).run ≠ some r →
    (next.runs.get r).outcome = (m.runs.get r).outcome
  settled : ∀ r o, (m.runs.get r).outcome = some o → (next.runs.get r).outcome = some o
  current : (next.scripts.get s).run = (m.scripts.get s).run
  native : ∀ q, reaction.call? = some q → q.native = true →
    q = .resume (m.scripts.get s).fiber ∧ (m.scripts.get s).disposed = false

theorem deliverTurn_foreign {b : BridgeKey} {told : Option ScriptKey} {e : BridgeError}
    {origin : Origin} {kept : Option Notification} {q : HostCall} {frame : Frame}
    (asks : (m.deliverTurn b told e origin kept).asks = some (q, frame)) :
    q.native = false ∧ frame.native = false := by
  unfold deliverTurn at asks
  split at asks
  · cases asks
  · cases asks
    exact ⟨rfl, rfl⟩

theorem taskResume_asks {s : ScriptKey} {q : HostCall} {frame : Frame}
    (asks : (m.resumeTurn s (.task t)).asks = some (q, frame)) :
    (q.native = false ∧ frame.native = false) ∨
      (q = .resume (m.scripts.get s).fiber ∧ frame = .resuming s (.task t) ∧
        (m.scripts.get s).disposed = false) := by
  unfold resumeTurn at asks
  dsimp only at asks
  split at asks
  · exact .inl (deliverTurn_foreign asks)
  · rename_i live
    cases asks
    exact .inr ⟨rfl, rfl, by simpa using live⟩

theorem task_asks {q : HostCall} {frame : Frame} (reached : Reachable m)
    (own : m.worker? move = some t) (step : Step m move next reaction)
    (asks : (m.turn move).asks = some (q, frame)) :
    (q.native = false ∧ frame.native = false) ∨
      (q = .resume (m.scripts.get (m.tasks.get t).script).fiber ∧
        frame = .resuming (m.tasks.get t).script (.task t) ∧
        (m.scripts.get (m.tasks.get t).script).disposed = false) := by
  cases task_move reached own step with
  | looks idle =>
    have turn : (m.pollTurn t).asks = some (q, frame) := asks
    unfold pollTurn at turn
    dsimp only at turn
    split at turn
    · cases turn
    · split at turn
      · cases turn
        exact .inl ⟨rfl, rfl⟩
      · dsimp only at turn
        split at turn
        · exact taskResume_asks turn
        · cases turn
  | polled p top only unfinished =>
    simp only [turn, top, replyTurn, polledTurn] at asks
    cases p with
    | pending => cases asks
    | succeeded =>
      dsimp only at asks
      split at asks
      · exact taskResume_asks asks
      · cases asks
    | failed causes => exact .inl (deliverTurn_foreign asks)
  | unwound p top only unfinished =>
    simp only [turn, top, unwindTurn] at asks
    exact .inl (deliverTurn_foreign asks)
  | ends top closes unfinished goesOn unsaid turn marks =>
    rw [turn] at asks
    cases asks

theorem made_of_unfinished (unfinished : (m.tasks.get t).finished = false) : t < m.tasks.size := by
  refine Nat.lt_of_not_le fun new => ?_
  rw [Slots.get_of_size_le new] at unfinished
  cases unfinished

theorem worker_made (reached : Reachable m) (own : m.worker? move = some t)
    (step : Step m move next reaction) : t < m.tasks.size := by
  cases task_move reached own step with
  | looks idle => exact step.invoked.1.2
  | polled p top only unfinished => exact made_of_unfinished unfinished
  | unwound p top only unfinished => exact made_of_unfinished unfinished
  | ends top closes unfinished goesOn unsaid turn marks => exact made_of_unfinished unfinished

theorem Reachable.attempting {s : ScriptKey} (reached : Reachable m)
    (present : .resuming s (.task t) ∈ m.stack) :
    t < m.tasks.size ∧ (m.tasks.get t).script = s := by
  induction reached with
  | initial => cases present
  | @step m next move reaction prior step ih =>
    rcases step_stack step present with ⟨q, asks⟩ | below
    · have own : m.worker? move = some t := by
        refine Decidable.byContradiction fun other => ?_
        have speaks := (turn_elsewhere prior other).1
        simp [Turn.speaks, asks, Frame.closes, Frame.task?, Resumer.task?, Frame.polls] at speaks
      have made := worker_made prior own step
      refine ⟨Nat.lt_of_lt_of_le made (size_tasks_step step), ?_⟩
      rw [(step_task made step).2.1]
      rcases task_asks prior own step asks with ⟨_, bad⟩ | ⟨_, same, _⟩
      · cases bad
      · cases same
        rfl
    · obtain ⟨made, named⟩ := ih (mem_of_below below)
      exact ⟨Nat.lt_of_lt_of_le made (size_tasks_step step), (step_task made step).2.1.trans named⟩

def Confined (s : ScriptKey) (fate : List (ScriptKey × Milestone)) : Prop :=
  ∀ event ∈ fate, event.1 = s ∧ event.2.arms = false

theorem confined_nil {s : ScriptKey} : Confined s [] := fun _ bad => nomatch bad

theorem confined_one {s : ScriptKey} {x : Milestone} (quiet : x.arms = false) :
    Confined s [(s, x)] := by
  intro event present
  cases List.mem_singleton.mp present
  exact ⟨rfl, quiet⟩

theorem resumeFate_confined {s : ScriptKey} : Confined s (m.resumeFate s) := by
  unfold resumeFate
  split
  · exact confined_nil
  · exact confined_one rfl

theorem closing_fate {frame : Frame} {rest : List Frame} (reached : Reachable m)
    (top : m.stack = frame :: rest) (closes : frame.closes t = true)
    (ends : ∀ op, move ≠ .invoke op) : Confined (m.tasks.get t).script (m.fate move) := by
  unfold Frame.closes at closes
  simp only [Bool.and_eq_true, decide_eq_true_eq, Bool.not_eq_true'] at closes
  have shape := task_frame (reached.grounded frame (by simp [top])) closes.1
  cases move with
  | invoke op => exact absurd rfl (ends op)
  | answer reply =>
    simp only [fate, top]
    rcases shape with rfl | ⟨s, rfl⟩ | ⟨b, s, kept, rfl⟩
    · cases closes.2
    · rw [(reached.attempting (s := s) (t := t) (by simp [top])).2]
      cases reply with
      | code code => exact confined_one rfl
      | _ => exact confined_nil
    · cases reply <;> exact confined_nil
  | unwind p =>
    simp only [fate, top]
    rcases shape with rfl | ⟨s, rfl⟩ | ⟨b, s, kept, rfl⟩
    · cases closes.2
    · exact confined_nil
    · exact confined_nil

theorem task_fate (reached : Reachable m) (own : m.worker? move = some t)
    (step : Step m move next reaction) : Confined (m.tasks.get t).script (m.fate move) := by
  cases task_move reached own step with
  | looks idle =>
    have fate : m.fate (.invoke (.pollTask t)) = m.waitFate t := rfl
    rw [fate]
    unfold waitFate
    dsimp only
    split
    · split
      · exact resumeFate_confined
      · exact confined_nil
    · exact confined_nil
  | polled p top only unfinished =>
    simp only [fate, top]
    cases p with
    | pending => exact confined_nil
    | succeeded =>
      simp only [replyFate]
      split
      · exact resumeFate_confined
      · exact confined_nil
    | failed causes => exact confined_one rfl
  | unwound p top only unfinished =>
    simp only [fate, top]
    exact confined_one rfl
  | ends top closes unfinished goesOn unsaid turn marks => exact closing_fate reached top closes goesOn

theorem befalls_elsewhere {s : ScriptKey} {x : Milestone} {r : RunKey} (reached : Reachable m)
    (made : r < m.runs.size) (other : (m.scripts.get s).run ≠ some r)
    (pending : (m.runs.get r).outcome = none) :
    befalls (m.runs.get r).script (m.idOf (m.runs.get r).script) (s, x) = none := by
  have current := reached.linked.pending r made pending
  unfold befalls
  refine if_neg ?_
  rintro rfl
  exact other current

theorem task_bound (reached : Reachable m) (own : m.worker? move = some t)
    (step : Step m move next reaction) : m.Bound (m.tasks.get t).script next reaction := by
  have decides := task_fate reached own step
  have size := step_runs_size reached step fun event present => (decides event present).2
  have keeps : ∀ r o, (m.runs.get r).outcome = some o → (next.runs.get r).outcome = some o := by
    intro r o settled
    have made : r < m.runs.size := by
      refine Nat.lt_of_not_le fun new => ?_
      rw [Slots.get_of_size_le new] at settled
      cases settled
    rw [step_outcome reached step made, settled, Option.some_or]
  refine ⟨size, fun r made other => ?_, keeps, ?_, fun q call native => ?_⟩
  · cases outcome : (m.runs.get r).outcome with
    | some o => exact keeps r o outcome
    | none =>
      rw [step_outcome reached step made, outcome, Option.none_or]
      refine List.findSome?_eq_none_iff.mpr fun event present => ?_
      obtain ⟨s, x⟩ := event
      have named : s = (m.tasks.get t).script := (decides _ present).1
      rw [named]
      exact befalls_elsewhere reached made other outcome
  · refine step_same_current reached step fun r canceled present => ?_
    cases (decides _ present).2
  · have called : reaction.call? = (m.turn move).asks.map Prod.fst := (step_takes step).call
    rw [called] at call
    obtain ⟨⟨q', frame⟩, asks, rfl⟩ := Option.map_eq_some_iff.mp call
    rcases task_asks reached own step asks with ⟨foreign, _⟩ | ⟨same, _, live⟩
    · rw [foreign] at native
      cases native
    · exact ⟨same, live⟩

-- Whatever is done for a wait or a forwarded command, at whatever time, concerns the script that it was
-- left for: its current run, and its fiber while it lives. That run is the one under which the work was
-- left, as long as the script was not started again.
theorem detached_bound_to_script {c : Service} {work : Work} (reached : Reachable m)
    (left : m.stage? move = some (c, .leaves work)) (step : Step m move next reaction) :
    ∀ moves later move' last reaction', Runs next moves later → Step later move' last reaction' →
      later.worker? move' = some m.tasks.size →
      later.Bound c.script last reaction' ∧
        ((∀ r canceled, (c.script, .armed r canceled) ∉ next.fates moves) →
          (later.scripts.get c.script).run = (m.scripts.get c.script).run) := by
  intro moves later move' last reaction' runs step' own
  have reached' := reached.step step
  obtain ⟨⟨_, _, _, tasks⟩, _⟩ := stage_staged reached left step
  have made : m.tasks.size < next.tasks.size := by
    rw [tasks, Slots.size_add]
    exact Nat.lt_succ_self _
  have named : (later.tasks.get m.tasks.size).script = c.script := by
    rw [(runs.lasts reached' made).2.1, tasks, Slots.get_add_self]
  have bound := task_bound (runs.reachable reached') own step'
  rw [named] at bound
  refine ⟨bound, fun quiet => ?_⟩
  have kept : (next.scripts.get c.script).run = (m.scripts.get c.script).run := by
    have alone : Runs m [move] next := .cons step .nil
    refine alone.same_current reached fun r canceled present => ?_
    have advanced := advance?_exact.mpr ⟨reaction, step⟩
    have fates : m.fates [move] = m.fate move := by
      simp only [Machine.fates, advanced, List.append_nil]
    rw [fates, (stage_turn reached left).2.2.1] at present
    cases present
  exact (runs.same_current reached' quiet).trans kept

def commanding : List Move :=
  [.invoke (.build { router := true, runtime := true }), .invoke (.makeFiber ⟨1⟩ 0),
    .invoke (.register 0 0), .invoke (.start 0 none), .answer (.code 1),
    .invoke (.command 0 ⟨1⟩ "hi".toUTF8 ⟨7⟩ false)]

def restarting : List Move :=
  [.invoke (.error 0 ⟨1⟩ "boom"), .invoke (.setOrdinal 0 5), .invoke (.start 0 none),
    .answer (.code 1), .invoke (.pollTask 0)]

def restarted : List Move := commanding ++ [.answer (.future 0)] ++ restarting

set_option maxRecDepth 10000 in
-- The command was left under run 0. When it fails late it fails run 1, which was armed after run 0 had
-- failed; when it succeeds it resumes the script under run 1.
theorem late_failure_settles_later_run :
    ((after commanding).scripts.get 0).run = some 0 ∧ (after commanding).runs.size = 1 ∧
      (after restarted).outcome? 0 = some (.error (.scriptExecution "boom")) ∧
      (after restarted).outcome? 1 = none ∧
      (after (restarted ++ [.answer (.polled (.failed ["late"]))])).outcome? 1 =
        some (.error (.forwardedHandler "hi" "late")) ∧
      (after (restarted ++ [.answer (.polled .succeeded)])).stack = [.resuming 0 (.task 0)] := by
  refine ⟨?_, ?_, ?_, ?_, ?_, ?_⟩ <;> decide +kernel

set_option maxRecDepth 10000 in
theorem detached_bound_to_script_restarted :
    ((after (restarted ++ [.answer (.polled (.failed ["late"]))])).runs.get 0).outcome =
      some (.error (.scriptExecution "boom")) := by
  have reached : Reachable (after commanding) :=
    (runs_after (by decide +kernel)).reachable .initial
  have left : (after commanding).stage? (.answer (.future 0)) =
      some (⟨0, 0, "hi", ⟨7⟩, false, .host⟩, .leaves (.forward 0)) := rfl
  have taken : Runs (after commanding) [.answer (.future 0)]
      (after (commanding ++ [.answer (.future 0)])) := runs_onward (by decide +kernel)
  obtain ⟨_, step⟩ := taken.single
  have runs : Runs (after (commanding ++ [.answer (.future 0)])) restarting (after restarted) := by
    unfold restarted
    exact runs_onward (by decide +kernel)
  have late : Runs (after restarted) [.answer (.polled (.failed ["late"]))]
      (after (restarted ++ [.answer (.polled (.failed ["late"]))])) :=
    runs_onward (by decide +kernel)
  obtain ⟨_, fails⟩ := late.single
  obtain ⟨bound, _⟩ :=
    detached_bound_to_script reached left step _ _ _ _ _ runs fails (by decide +kernel)
  exact bound.settled 0 _ (by decide +kernel)

end Machine

end FiberBridge
