import FiberBridge.Proofs.Moves
import FiberBridge.Proofs.Steady

namespace FiberBridge

namespace Machine

-- What only this move may do. Only an unwound release leaves its script disposed and not torn.
def power (m : Machine) (move : Move) : Power where
  ends s := move = .invoke (.dispose s) ∨ move = .invoke (.dropHandle s)
  loses s := ∃ p dropped rest, move = .unwind p ∧ m.stack = .disposing s dropped :: rest
  starts s token := move = .invoke (.start s token)
  compiles k := ∃ length made, move = .invoke (.compile k length made)

-- The operation is about nothing of the part.
def Misses (x : Part) (m : Machine) : Op → Prop
  | .start s _ | .resume s _ | .status s | .describe s | .fail s _ | .dispose s | .dropHandle s
  | .makeRef s | .dropRef s | .decode s .. => ¬ x.script s
  | .command b id .. | .error b id _ => ∀ s, m.find? b id = some s → ¬ x.script s
  | .commandUpcall id .. | .errorUpcall id _ =>
    ∀ b s, m.target = some b → m.find? b id = some s → ¬ x.script s
  | .register b f => m.core.Foreign x b f
  | .setOrdinal f _ | .dropFiber f => ¬ x.fiber f
  | .dropRun r => ¬ x.script (m.runs.get r).script
  | .pollTask t => ¬ x.script (m.tasks.get t).script
  | _ => True

-- What the move begins, or goes on with, is about nothing of the part.
def Skips (x : Part) (m : Machine) : Move → Prop
  | .invoke op => m.Misses x op
  | .answer _ => ∀ frame ∈ m.stack.head?, Core.Apart x m.tasks frame
  | .unwind _ => ∀ frame ∈ m.stack.head?, Core.Apart x m.tasks frame

end Machine

theorem Core.apart_none (tasks : Slots Task) (frame : Frame) : Core.Apart .none tasks frame :=
  ⟨fun _ _ => id, fun _ _ => id, fun _ _ _ => id⟩

namespace Steady

variable {m : Machine} {s : ScriptKey}

theorem holds_open {c : Core} (steady : Steady c) (holds : c.Holds s) : c.Open s :=
  ⟨(steady.held s holds).1, (steady.held s holds).2⟩

theorem owned_open (steady : Steady m.core) (owned : (m.scripts.get s).owned) : m.core.Open s :=
  steady.holds_open (.handle owned)

theorem held_open (steady : Steady m.core) (held : m.scriptHeld s) : m.core.Open s :=
  steady.holds_open (Core.held_iff.mp held)

theorem refs_open (steady : Steady m.core) (some : 0 < (m.scripts.get s).refs) : m.core.Open s :=
  steady.holds_open (.reference some)

theorem find?_open (steady : Steady m.core) {b : BridgeKey} {id : ScriptId}
    (found : m.find? b id = some s) : m.core.Open s := by
  obtain ⟨_, live⟩ := Option.filter_eq_some_iff.mp found
  refine steady.owned_open (steady.owned s ?_)
  simpa using live

end Steady

namespace Machine

variable {m : Machine} {power : Power}

theorem misses_none (op : Op) : m.Misses .none op := by
  cases op with
  | register b f => exact ⟨id, id, fun _ _ => id⟩
  | _ => simp [Misses, Part.none]

theorem skips_none (move : Move) : m.Skips .none move := by
  cases move with
  | invoke op => exact misses_none op
  | answer reply => exact fun _ _ => Core.apart_none ..
  | unwind p => exact fun _ _ => Core.apart_none ..

theorem launch_path {op : Op} {x : Part} (steady : Steady m.core) (admitted : m.Admits op)
    (misses : m.Misses x op) :
    Path { m.power (.invoke op) with spares := x } m.core (m.opFate op) (m.launch op).1.core := by
  have works {c : Core} : Power.Works { m.power (.invoke op) with spares := x } c none :=
    Power.works_none
  have found (b : BridgeKey) (id : ScriptId) (off : ∀ s, m.find? b id = some s → ¬ x.script s)
      (s : ScriptKey) (found : m.find? b id = some s) :
      Power.Reaches { m.power (.invoke op) with spares := x } m.core s :=
    ⟨steady.find?_open found, off s found⟩
  cases op with
  | build setup => exact .same (build_core m setup)
  | cloneBridge b => exact .same (setBridge_core_same m fun _ => rfl)
  | dropBridge b => exact .same (setBridge_core_same m fun _ => rfl)
  | setLog b h => exact .same (setBridge_core_same (m.lock _) fun _ => rfl)
  | setError b h => exact .same (setBridge_core_same (m.lock _) fun _ => rfl)
  | report b e => exact report_path (by rintro _ ⟨⟩) works
  | lookup b id =>
    refine .same ?_
    unfold launch
    dsimp only
    cases (m.lookup b id).2 with
    | none => rfl
    | some s => rfl
  | count b => exact .nil
  | command b id name word ambient => exact command_path (found b id misses) works
  | error b id description => exact raise_path (found b id misses) works
  | makeFiber id ordinal => exact .one (.made (c := m.core) ⟨rfl, rfl⟩ (by rintro _ ⟨⟩))
  | setOrdinal f ordinal => exact .one (.seen (c := m.core) misses)
  | register b f => exact register_path admitted.2.1 admitted.2.2 misses
  | start s token => exact start_path ⟨steady.owned_open admitted, misses⟩ rfl
  | resume s byHandle =>
    refine resume_path ⟨?_, misses⟩ works (by rintro _ ⟨⟩)
    cases byHandle with
    | true => exact steady.owned_open admitted
    | false => exact steady.refs_open admitted
  | status s => exact status_path ⟨steady.held_open admitted, misses⟩
  | describe s => exact status_path ⟨steady.held_open admitted, misses⟩
  | fail s e => exact fail_path ⟨steady.held_open admitted, misses⟩
  | dispose s => exact dispose_path ⟨steady.owned_open admitted, misses⟩ (.inl rfl)
  | dropHandle s => exact dropHandle_path ⟨steady.owned_open admitted.1, misses⟩ (.inr rfl)
  | makeRef s =>
    exact .one (.referred (fun script => script.refs + 1) (steady.held_open admitted) misses)
  | dropRef s =>
    exact .one (.referred (fun script => script.refs - 1) (steady.refs_open admitted) misses)
  | dropRun r => exact .one (.unawaited (c := m.core) admitted.2 misses)
  | cancel t => exact .nil
  | decode s command word shape =>
    have here {x : ScriptKey} (holds : Frame.holdsScript x (.shaping s command shape)) : s = x := by
      simpa [Frame.holdsScript] using holds
    exact .one (.asked (c := m.core) rfl rfl (fun _ holds => here holds ▸ steady.held_open admitted)
      Core.free_none (fun _ holds => here holds ▸ misses) (by rintro _ ⟨⟩))
  | makeClock => exact .nil
  | advanceClock c frames => exact .nil
  | dropClock c => exact .nil
  | complete k => exact .nil
  | elapse millis => exact .nil
  | pollTask t =>
    refine pollTask_path (idle_iff.mpr admitted.1) misses ?_
    intro unfinished
    exact steady.holds_open (.task unfinished rfl)
  | newContext available => exact .same (newContext_core m available)
  | dropContext c => exact .nil
  | compile c length made => exact compile_path ⟨length, made, rfl⟩
  | dropFiber f => exact dropFiber_path admitted misses
  | install b => exact .nil
  | uninstall => exact .nil
  | commandUpcall id name length word ambient =>
    exact commandUpcall_path fun b s installed found =>
      ⟨steady.find?_open found, misses b s installed found⟩
  | errorUpcall id description =>
    exact errorUpcall_path fun b s installed found =>
      ⟨steady.find?_open found, misses b s installed found⟩

theorem top_open {frame : Frame} {rest : List Frame} {s : ScriptKey} (steady : Steady m.core)
    (top : m.stack = frame :: rest) (held : frame.holdsScript s) : m.core.Open s := by
  have present : frame ∈ m.core.stack := by
    rw [core_stack, top]
    exact List.mem_cons_self
  exact steady.holds_open (.frame present held)

theorem top_free {frame : Frame} {rest : List Frame} (steady : Steady m.core)
    (top : m.stack = frame :: rest) : { m.core with stack := rest }.Free frame.task? := by
  have whole : frame :: rest <:+ m.core.stack := ⟨[], top.symm⟩
  intro t same
  exact steady.tasks frame rest whole t same

-- A suspended operation for others goes on for others.
theorem top_reaches {frame : Frame} {rest : List Frame} {s : ScriptKey} (steady : Steady m.core)
    (top : m.stack = frame :: rest) (apart : Core.Apart power.spares m.tasks frame)
    (held : frame.holdsScript s) : power.Reaches { m.core with stack := rest } s :=
  ⟨(top_open steady top held).transfer (Nat.le_refl _) rfl, apart.script s held⟩

theorem top_tasks {frame : Frame} {rest : List Frame} (steady : Steady m.core)
    (top : m.stack = frame :: rest) (apart : Core.Apart power.spares m.tasks frame) :
    power.Works { m.core with stack := rest } frame.task? := by
  have free := top_free steady top
  refine ⟨free, ?_⟩
  intro t same
  have unfinished : (m.core.tasks.get t).finished = false := (free t same).2
  exact apart.task t same (Core.made_of_unfinished unfinished)

theorem task_reaches {t : TaskKey} {rest : List Frame} (steady : Steady m.core)
    (works : power.Works { m.core with stack := rest } (some t)) :
    power.Reaches { m.core with stack := rest } (m.tasks.get t).script := by
  have unfinished : (m.core.tasks.get t).finished = false := (works.1 t rfl).2
  exact ⟨(steady.holds_open (.task unfinished rfl)).transfer (Nat.le_refl _) rfl, works.2 t rfl⟩

theorem continue?_path {frame : Frame} {rest : List Frame} {reply : Reply}
    {after : Machine × Reaction} (steady : Steady m.core) (top : m.stack = frame :: rest)
    (apart : Core.Apart power.spares m.tasks frame)
    (ran : { m with stack := rest }.continue? frame reply = some after) :
    Path power m.core (m.replyFate frame reply) after.1.core := by
  have free := top_tasks steady top apart
  have known (s : ScriptKey) (held : frame.holdsScript s) := top_reaches steady top apart held
  have popped (plain : ∀ s, frame.disposes s = false) (kept : frame.leaves = false) :
      Path power m.core [] { m with stack := rest }.core := .one (.popped top plain kept apart)
  cases frame with
  | starting s r =>
    cases reply with
    | code code =>
      obtain rfl := Option.some.inj ran
      exact (popped (fun _ => rfl) rfl).trans
        (settleAfter_path (m := { m with stack := rest }) (known s (by simp [Frame.holdsScript])))
    | _ => cases ran
  | resuming s who =>
    cases reply with
    | code code =>
      obtain rfl := Option.some.inj ran
      exact (popped (fun _ => rfl) rfl).trans
        (resumed_path (m := { m with stack := rest }) (known s (by simp [Frame.holdsScript])) free)
    | _ => cases ran
  | disposing s dropped =>
    cases reply with
    | done =>
      obtain rfl := Option.some.inj ran
      rw [disposed_core]
      exact .one (.disposed top (top_open steady top (by simp [Frame.holdsScript]))
        (apart.script s (by simp [Frame.holdsScript])))
    | _ => cases ran
  | refusing b s =>
    cases reply with
    | done =>
      obtain rfl := Option.some.inj ran
      exact popped (fun _ => rfl) rfl
    | _ => cases ran
  | releasing f =>
    cases reply with
    | done =>
      obtain rfl := Option.some.inj ran
      exact releasedFiber_path top apart
    | _ => cases ran
  | decoding c k =>
    cases reply with
    | decoded d =>
      obtain rfl := Option.some.inj ran
      exact (popped (fun _ => rfl) rfl).trans
        (decoded_path (m := { m with stack := rest })
          (known c.script (by simp [Frame.holdsScript])) free)
    | _ => cases ran
  | shaping s command shape =>
    cases reply with
    | decoded d =>
      obtain rfl := Option.some.inj ran
      exact popped (fun _ => rfl) rfl
    | _ => cases ran
  | logging c =>
    cases reply with
    | done =>
      obtain rfl := Option.some.inj ran
      refine (popped (fun _ => rfl) rfl).trans
        (resume_path (m := { m with stack := rest })
          (known c.script (by simp [Frame.holdsScript])) free ?_)
      intro c' same
      cases same
      rfl
    | _ => cases ran
  | reporting b s origin kept =>
    cases reply with
    | done =>
      obtain rfl := Option.some.inj ran
      exact (popped (fun _ => rfl) rfl).trans (complete_path (m := { m with stack := rest }) free)
    | _ => cases ran
  | scheduling c =>
    cases reply with
    | notification n =>
      obtain rfl := Option.some.inj ran
      exact (popped (fun _ => rfl) rfl).trans
        (resumeWhen_path (m := { m with stack := rest })
          (known c.script (by simp [Frame.holdsScript])) free)
    | _ => cases ran
  | routing c =>
    cases reply with
    | future f =>
      obtain rfl := Option.some.inj ran
      exact (popped (fun _ => rfl) rfl).trans
        (spawn_path (m := { m with stack := rest })
          (known c.script (by simp [Frame.holdsScript])) free)
    | _ => cases ran
  | polling t =>
    cases reply with
    | polled p =>
      obtain rfl := Option.some.inj ran
      exact (popped (fun _ => rfl) rfl).trans
        (polled_path (m := { m with stack := rest }) (task_reaches steady free) free)
    | _ => cases ran

theorem recover_path {frame : Frame} {rest : List Frame} {p : Panic} (steady : Steady m.core)
    (top : m.stack = frame :: rest)
    (apart : Core.Apart power.spares m.tasks frame)
    (allowed : ∀ s dropped, frame = .disposing s dropped → power.loses s) :
    Path power m.core (m.unwindFate p frame)
      ({ m with stack := rest }.recover p frame).1.core := by
  have free := top_tasks steady top apart
  have known (s : ScriptKey) (held : frame.holdsScript s) := top_reaches steady top apart held
  have popped (plain : ∀ s, frame.disposes s = false) (kept : frame.leaves = false) :
      Path power m.core [] { m with stack := rest }.core := .one (.popped top plain kept apart)
  -- A command that was suspended ends where it came from.
  have aborted (plain : ∀ s, frame.disposes s = false) (kept : frame.leaves = false)
      {origin : Origin} (same : frame.task? = origin.task?) :
      Path power m.core [] ({ m with stack := rest }.abort origin p).1.core :=
    (popped plain kept).trans (abort_path (m := { m with stack := rest }) (same ▸ free))
  cases frame with
  | starting s r =>
    obtain ⟨armed, own⟩ := steady.starts s r (by simp [top])
    have off : ¬ power.spares.script (m.runs.get r).script := by
      have own : (m.runs.get r).script = s := own
      rw [own]
      exact apart.script s (by simp [Frame.holdsScript])
    exact (popped (fun _ => rfl) rfl).quiet (.unawaited armed off)
  | resuming s who =>
    cases who with
    | host byHandle => exact popped (fun _ => rfl) rfl
    | command c => exact aborted (fun _ => rfl) rfl rfl
    | task t =>
      exact (popped (fun _ => rfl) rfl).trans (finishTask_path (m := { m with stack := rest }) free)
  | disposing s dropped => exact .one (.unwound top (allowed s dropped rfl) apart)
  | refusing b s => exact popped (fun _ => rfl) rfl
  | releasing f => exact releasedFiber_path top apart
  | decoding c k => exact aborted (fun _ => rfl) rfl rfl
  | shaping s command shape => exact popped (fun _ => rfl) rfl
  | logging c => exact aborted (fun _ => rfl) rfl rfl
  | reporting b s origin kept => exact aborted (fun _ => rfl) rfl rfl
  | scheduling c => exact aborted (fun _ => rfl) rfl rfl
  | routing c =>
    exact (popped (fun _ => rfl) rfl).trans
      (routePanicked_path (m := { m with stack := rest })
        (known c.script (by simp [Frame.holdsScript])) free)
  | polling t =>
    exact (popped (fun _ => rfl) rfl).trans
      (forwardFailed_path (m := { m with stack := rest }) (task_reaches steady free) free)

theorem Step.invoked {next : Machine} {op : Op} {reaction : Reaction}
    (step : Step m (.invoke op) next reaction) :
    m.Admits op ∧ (m.launch op).1.sweep = next ∧ (m.launch op).2 = reaction := by
  cases step with
  | invoke admitted ran => exact ⟨admitted, congrArg Prod.fst ran, congrArg Prod.snd ran⟩

theorem Step.answered {next : Machine} {reply : Reply} {reaction : Reaction}
    (step : Step m (.answer reply) next reaction) :
    ∃ frame rest after, m.stack = frame :: rest ∧
      { m with stack := rest }.continue? frame reply = some after ∧ after.1.sweep = next ∧
      after.2 = reaction := by
  cases step with
  | answer ran =>
    unfold answer? at ran
    split at ran
    · cases ran
    · rename_i frame rest top
      obtain ⟨after, continued, swept⟩ := Option.map_eq_some_iff.mp ran
      exact ⟨frame, rest, after, top, continued, congrArg Prod.fst swept, congrArg Prod.snd swept⟩

theorem Step.unwound {next : Machine} {p : Panic} {reaction : Reaction}
    (step : Step m (.unwind p) next reaction) :
    ∃ frame rest, m.stack = frame :: rest ∧
      ({ m with stack := rest }.recover p frame).1.sweep = next ∧
      ({ m with stack := rest }.recover p frame).2 = reaction := by
  cases step with
  | unwind ran =>
    unfold unwind? at ran
    split at ran
    · cases ran
    · rename_i frame rest top
      have same := Option.some.inj ran
      exact ⟨frame, rest, top, congrArg Prod.fst same, congrArg Prod.snd same⟩

theorem Step.answered_at {next : Machine} {frame : Frame} {rest : List Frame} {reply : Reply}
    {reaction : Reaction} (step : Step m (.answer reply) next reaction)
    (top : m.stack = frame :: rest) :
    ∃ after, { m with stack := rest }.continue? frame reply = some after ∧
      after.1.sweep = next ∧ after.2 = reaction := by
  obtain ⟨first, below, after, top', continued, swept, same⟩ := step.answered
  obtain ⟨rfl, rfl⟩ := List.cons.inj (top.symm.trans top')
  exact ⟨after, continued, swept, same⟩

theorem Step.unwound_at {next : Machine} {frame : Frame} {rest : List Frame} {p : Panic}
    {reaction : Reaction} (step : Step m (.unwind p) next reaction) (top : m.stack = frame :: rest) :
    ({ m with stack := rest }.recover p frame).1.sweep = next ∧
      ({ m with stack := rest }.recover p frame).2 = reaction := by
  obtain ⟨first, below, top', swept, same⟩ := step.unwound
  obtain ⟨rfl, rfl⟩ := List.cons.inj (top.symm.trans top')
  exact ⟨swept, same⟩

theorem step_path_sparing {next : Machine} {move : Move} {r : Reaction} {x : Part}
    (steady : Steady m.core) (skips : m.Skips x move) (step : Step m move next r) :
    Path { m.power move with spares := x } m.core (m.fate move) next.core := by
  cases move with
  | invoke op =>
    obtain ⟨admitted, rfl, _⟩ := step.invoked
    exact (launch_path steady admitted skips).thenQuiet sweep_path
  | answer reply =>
    obtain ⟨frame, rest, after, top, continued, rfl, _⟩ := step.answered
    have fate : m.fate (.answer reply) = m.replyFate frame reply := by
      simp only [fate, top]
    rw [fate]
    exact (continue?_path steady top (skips frame (by simp [top])) continued).thenQuiet sweep_path
  | unwind p =>
    obtain ⟨frame, rest, top, rfl, _⟩ := step.unwound
    have fate : m.fate (.unwind p) = m.unwindFate p frame := by
      simp only [fate, top]
    rw [fate]
    refine (recover_path steady top (skips frame (by simp [top])) ?_).thenQuiet sweep_path
    rintro s dropped rfl
    exact ⟨p, dropped, rest, rfl, top⟩

theorem step_path {next : Machine} {move : Move} {r : Reaction} (steady : Steady m.core)
    (step : Step m move next r) : Path (m.power move) m.core (m.fate move) next.core :=
  step_path_sparing steady (skips_none move) step

end Machine

end FiberBridge
