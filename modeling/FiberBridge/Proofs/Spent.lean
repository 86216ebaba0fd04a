import FiberBridge.Proofs.Asking

namespace FiberBridge

def Frame.closes (t : TaskKey) (frame : Frame) : Bool := frame.task? = some t && !frame.polls

def Edit.ends (t : TaskKey) : Edit → Bool
  | .closed t' => t' = t
  | _ => false

def Turn.speaks (t : TaskKey) (turn : Turn) : Bool :=
  turn.asks.any (fun call => call.2.closes t) || turn.edits.any (Edit.ends t)

section

variable {t : TaskKey} {tasks : Slots Task}

theorem Edit.size_le_apply (tasks : Slots Task) (edit : Edit) : tasks.size ≤ (edit.apply tasks).size := by
  cases edit with
  | left task =>
    unfold apply
    rw [Slots.size_add]
    exact Nat.le_succ _
  | begun t n => exact Slots.size_le_update ..
  | closed t => exact Slots.size_le_update ..

theorem Edit.apply_get (made : t < tasks.size) (edit : Edit) :
    (edit.apply tasks).get t = match edit with
      | .left _ => tasks.get t
      | .begun t' n =>
        if t' = t then { tasks.get t with work := .wait n } else tasks.get t
      | .closed t' => if t' = t then { tasks.get t with finished := true } else tasks.get t := by
  cases edit with
  | left task => exact Slots.get_add_old made task
  | begun t' n => exact Slots.get_update ..
  | closed t' => exact Slots.get_update ..

theorem size_le_edits (edits : List Edit) (tasks : Slots Task) :
    tasks.size ≤ (edits.foldl Edit.apply tasks).size := by
  induction edits generalizing tasks with
  | nil => exact Nat.le_refl _
  | cons edit rest ih => exact Nat.le_trans (edit.size_le_apply tasks) (ih _)

theorem finished_edits (made : t < tasks.size) (edits : List Edit) :
    ((edits.foldl Edit.apply tasks).get t).finished =
      ((tasks.get t).finished || edits.any (Edit.ends t)) := by
  induction edits generalizing tasks with
  | nil => exact (Bool.or_false _).symm
  | cons edit rest ih =>
    rw [List.foldl_cons, ih (Nat.lt_of_lt_of_le made (edit.size_le_apply tasks)), edit.apply_get made,
      List.any_cons, ← Bool.or_assoc]
    cases edit with
    | left task => simp [Edit.ends]
    | begun t' n =>
      dsimp only [Edit.ends]
      split <;> simp
    | closed t' =>
      dsimp only [Edit.ends]
      split <;> simp_all

theorem edits_elsewhere (made : t < tasks.size) {edits : List Edit}
    (other : ∀ edit ∈ edits, edit.task? ≠ some t) :
    (edits.foldl Edit.apply tasks).get t = tasks.get t := by
  induction edits generalizing tasks with
  | nil => rfl
  | cons edit rest ih =>
    have here := other edit List.mem_cons_self
    rw [List.foldl_cons, ih (Nat.lt_of_lt_of_le made (edit.size_le_apply tasks))
      fun later present => other later (List.mem_cons_of_mem _ present), edit.apply_get made]
    cases edit with
    | left task => rfl
    | begun t' n => exact if_neg fun same => here (congrArg some same)
    | closed t' => exact if_neg fun same => here (congrArg some same)

theorem edits_keep (made : t < tasks.size) (edits : List Edit) :
    ((edits.foldl Edit.apply tasks).get t).bridge = (tasks.get t).bridge ∧
    ((edits.foldl Edit.apply tasks).get t).script = (tasks.get t).script ∧
    ((edits.foldl Edit.apply tasks).get t).command = (tasks.get t).command := by
  induction edits generalizing tasks with
  | nil => exact ⟨rfl, rfl, rfl⟩
  | cons edit rest ih =>
    obtain ⟨bridge, script, command⟩ := ih (Nat.lt_of_lt_of_le made (edit.size_le_apply tasks))
    rw [List.foldl_cons, bridge, script, command, edit.apply_get made]
    cases edit with
    | left task => exact ⟨rfl, rfl, rfl⟩
    | begun t' n =>
      dsimp only
      split <;> exact ⟨rfl, rfl, rfl⟩
    | closed t' =>
      dsimp only
      split <;> exact ⟨rfl, rfl, rfl⟩

end

namespace Machine

variable {m next last : Machine} {t : TaskKey} {move : Move} {reaction : Reaction}

def ready (m : Machine) (t : TaskKey) : Bool :=
  let task := m.tasks.get t
  match task.finished, task.work with
  | false, .wait n => m.hasCome (m.begun n)
  | _, _ => false

def spent (m : Machine) (t : TaskKey) : Bool :=
  (m.tasks.get t).finished || m.stack.any (Frame.closes t)

-- The move in which task `t` has its say: the look that finds the wait over, or the end of the host's
-- work, whichever way it ends.
def concludes (m : Machine) (t : TaskKey) : Move → Bool
  | .invoke (.pollTask t') => t' = t && m.ready t
  | .invoke _ => false
  | .answer (.polled .pending) => false
  | .answer _ => m.stack.head? = some (.polling t)
  | .unwind _ => m.stack.head? = some (.polling t)

theorem speaks_of_ordinary {turn : Turn} {who : Option TaskKey} (ordinary : turn.Ordinary who)
    (other : who ≠ some t) : turn.speaks t = false ∧ ∀ edit ∈ turn.edits, edit.task? ≠ some t := by
  have apart : ∀ edit ∈ turn.edits, edit.task? ≠ some t :=
    fun edit present same => other (ordinary.edits edit present t same)
  refine ⟨?_, apart⟩
  unfold Turn.speaks
  rw [Bool.or_eq_false_iff]
  constructor
  · cases asks : turn.asks with
    | none => rfl
    | some call =>
      obtain ⟨q, frame⟩ := call
      have strange : ¬ frame.task? = some t :=
        fun same => other ((ordinary.asks q frame asks).2.2.2 t same)
      simp [Frame.closes, strange]
  · refine List.any_eq_false.mpr fun edit present ends => apart edit present ?_
    cases edit with
    | closed t' => simpa [Edit.ends, Edit.task?] using ends
    | left task => cases ends
    | begun t' n => cases ends

theorem turn_elsewhere (reached : Reachable m) (other : m.worker? move ≠ some t) :
    (m.turn move).speaks t = false ∧ ∀ edit ∈ (m.turn move).edits, edit.task? ≠ some t := by
  have asked : (m.turn move).Ordinary (m.worker? move) ∨ _ := turn_asks reached.grounded
  rcases asked with
    ordinary | ⟨op, c, s, text, _, received, _, _, _, _, _, same⟩ | ⟨t', future, _, _, _, same⟩
  · exact speaks_of_ordinary ordinary other
  · rw [same]
    refine ⟨?_, fun _ bad => nomatch bad⟩
    have free := received_grounded received
    simp [Turn.speaks, Frame.closes, Frame.task?, free]
  · rw [same]
    exact ⟨by simp [Turn.speaks, Frame.closes, Frame.polls], fun _ bad => nomatch bad⟩

theorem deliverTurn_speaks {b : BridgeKey} {told : Option ScriptKey} {e : BridgeError}
    {kept : Option Notification} : (m.deliverTurn b told e (.task t) kept).speaks t = true := by
  unfold deliverTurn
  split <;> simp [Turn.speaks, close?, Origin.task?, Edit.ends, Frame.closes, Frame.task?, Frame.polls]

theorem resumeTurn_speaks {s : ScriptKey} : (m.resumeTurn s (.task t)).speaks t = true := by
  unfold resumeTurn
  dsimp only
  split
  · exact deliverTurn_speaks
  · simp [Turn.speaks, Frame.closes, Frame.task?, Resumer.task?, Frame.polls]

theorem failedTurn_speaks {message : String} : (m.failedTurn t message).speaks t = true := by
  unfold failedTurn failureTurn Turn.following
  exact deliverTurn_speaks

theorem polledTurn_speaks {p : Polled} (ready : p ≠ .pending) : (m.polledTurn t p).speaks t = true := by
  unfold polledTurn
  cases p with
  | pending => exact absurd rfl ready
  | failed causes => exact failedTurn_speaks
  | succeeded =>
    dsimp only
    split
    · exact resumeTurn_speaks
    · simp [Turn.speaks, Edit.ends]

theorem pollTurn_speaks : (m.pollTurn t).speaks t = m.ready t := by
  unfold pollTurn ready
  dsimp only
  cases (m.tasks.get t).finished with
  | true => rfl
  | false =>
    cases (m.tasks.get t).work with
    | forward future => simp [Turn.speaks, Frame.closes, Frame.polls]
    | wait n =>
      dsimp only
      cases m.hasCome (m.begun n) with
      | true =>
        have speaks := resumeTurn_speaks (m := m) (t := t) (s := (m.tasks.get t).script)
        unfold Turn.speaks at speaks ⊢
        simpa [Edit.ends] using speaks
      | false => simp [Turn.speaks, Edit.ends]

theorem task_frame {frame : Frame} (grounded : frame.Grounded) (works : frame.task? = some t) :
    frame = .polling t ∨ (∃ s, frame = .resuming s (.task t)) ∨
      ∃ b s kept, frame = .reporting b s (.task t) kept := by
  have served {c : Service} (service : frame.service? = some c) (same : c.origin.task? = some t) :
      False := by
    rw [grounded c service] at same
    cases same
  cases frame with
  | polling t' =>
    cases works
    exact .inl rfl
  | resuming s who =>
    cases who with
    | host byHandle => cases works
    | command c => exact (served rfl works).elim
    | task t' =>
      cases works
      exact .inr (.inl ⟨s, rfl⟩)
  | reporting b s origin kept =>
    cases origin with
    | host => cases works
    | upcall kind id => cases works
    | task t' =>
      cases works
      exact .inr (.inr ⟨b, s, kept, rfl⟩)
  | decoding c k => exact (served rfl works).elim
  | logging c => exact (served rfl works).elim
  | scheduling c => exact (served rfl works).elim
  | routing c => exact (served rfl works).elim
  | _ => cases works

theorem spent_after (step : Step m move next reaction) (made : t < m.tasks.size) :
    next.spent t = ((m.tasks.get t).finished || (m.below move).any (Frame.closes t) ||
      (m.turn move).speaks t) := by
  have takes := step_takes step
  have stack : next.stack = ((m.turn move).asks.map Prod.snd).toList ++ m.below move := takes.stack
  have tasks : next.tasks = (m.turn move).edits.foldl Edit.apply m.tasks := takes.tasks
  unfold spent Turn.speaks
  rw [stack, tasks, finished_edits made, List.any_append]
  cases (m.turn move).asks with
  | none => simp [Bool.or_comm, Bool.or_left_comm]
  | some call => simp [Bool.or_assoc, Bool.or_comm, Bool.or_left_comm]

theorem top_works {frame : Frame} {rest : List Frame} (reached : Reachable m)
    (top : m.stack = frame :: rest) (works : frame.task? = some t) :
    (∀ below ∈ rest, below.task? ≠ some t) ∧ (m.tasks.get t).finished = false ∧
      (frame = .polling t ∨ (∃ s, frame = .resuming s (.task t)) ∨
        ∃ b s kept, frame = .reporting b s (.task t) kept) := by
  have whole : frame :: rest <:+ m.core.stack := ⟨[], top.symm⟩
  obtain ⟨only, unfinished⟩ := reached.steady.tasks frame rest whole t works
  exact ⟨only, unfinished, task_frame (reached.grounded frame (by simp [top])) works⟩

theorem worker_below (reached : Reachable m) (own : m.worker? move = some t)
    (step : Step m move next reaction) : (m.below move).any (Frame.closes t) = false := by
  have none_closes {stack : List Frame} (only : ∀ frame ∈ stack, frame.task? ≠ some t) :
      stack.any (Frame.closes t) = false := by
    refine List.any_eq_false.mpr fun frame present closes => only frame present ?_
    unfold Frame.closes at closes
    simp only [Bool.and_eq_true, decide_eq_true_eq] at closes
    exact closes.1
  have above {frame : Frame} {rest : List Frame} (top : m.stack = frame :: rest)
      (works : m.stack.head?.bind Frame.task? = some t) : m.stack.tail.any (Frame.closes t) = false := by
    rw [top] at works ⊢
    exact none_closes (top_works reached top works).1
  cases move with
  | invoke op =>
    cases op with
    | pollTask t' =>
      cases own
      obtain ⟨⟨idle, _⟩, _⟩ := step.invoked
      exact none_closes (idle_iff.mpr idle)
    | _ => cases own
  | answer reply =>
    obtain ⟨frame, rest, _, top, _⟩ := step.answered
    exact above top own
  | unwind p =>
    obtain ⟨frame, rest, top, _⟩ := step.unwound
    exact above top own

-- A move that works for task `t`: a look at it, the end of the host's work on it, or the end of what it
-- began, which only marks a script and closes the task.
inductive TaskMove (m : Machine) (t : TaskKey) : Move → Prop where
  | looks (idle : m.running t = false) : m.TaskMove t (.invoke (.pollTask t))
  | polled (p : Polled) {rest : List Frame} (top : m.stack = .polling t :: rest)
      (only : rest.any (Frame.closes t) = false) (unfinished : (m.tasks.get t).finished = false) :
      m.TaskMove t (.answer (.polled p))
  | unwound (p : Panic) {rest : List Frame} (top : m.stack = .polling t :: rest)
      (only : rest.any (Frame.closes t) = false) (unfinished : (m.tasks.get t).finished = false) :
      m.TaskMove t (.unwind p)
  | ends {move : Move} {frame : Frame} {rest : List Frame} {before : List Act}
      (top : m.stack = frame :: rest) (closes : frame.closes t = true)
      (unfinished : (m.tasks.get t).finished = false) (goesOn : ∀ op, move ≠ .invoke op)
      (unsaid : m.concludes t move = false) (turn : m.turn move = { before, edits := [.closed t] })
      (marks : ∀ a ∈ before, ∃ s x, a = .deed (.marked s x)) : m.TaskMove t move

theorem task_move (reached : Reachable m) (own : m.worker? move = some t)
    (step : Step m move next reaction) : m.TaskMove t move := by
  have bare : ∀ a ∈ ([] : List Act), ∃ s x, a = .deed (.marked s x) := by simp
  have only := worker_below reached own step
  cases move with
  | invoke op =>
    cases op with
    | pollTask t' =>
      cases own
      obtain ⟨⟨idle, _⟩, _⟩ := step.invoked
      exact .looks (eq_false_of_ne_true idle)
    | _ => cases own
  | answer reply =>
    obtain ⟨frame, rest, after, top, continued, _, _⟩ := step.answered
    have works : frame.task? = some t := by simpa [worker?, top] using own
    simp only [below, top, List.tail_cons] at only
    obtain ⟨_, unfinished, shape⟩ := top_works reached top works
    have goesOn : ∀ op, Move.answer reply ≠ .invoke op := by rintro op ⟨⟩
    rcases shape with rfl | ⟨s, rfl⟩ | ⟨b, s, kept, rfl⟩
    · cases reply with
      | polled p => exact .polled p top only unfinished
      | _ => cases continued
    · cases reply with
      | code code =>
        have turn : m.turn (.answer (.code code)) =
            { before := [.deed (.marked s
                (.returned false (CallResult.ofCode code) (m.tokenCanceled s)))]
              edits := [.closed t] } := by
          simp only [turn, top]
          rfl
        refine .ends top ?_ unfinished goesOn ?_ turn ?_
        · simp [Frame.closes, Frame.task?, Resumer.task?, Frame.polls]
        · simp [concludes, top]
        · exact fun a present => ⟨s, _, List.mem_singleton.mp present⟩
      | _ => cases continued
    · cases reply with
      | done =>
        refine .ends top ?_ unfinished goesOn ?_ ?_ bare
        · simp [Frame.closes, Frame.task?, Origin.task?, Frame.polls]
        · simp [concludes, top]
        · simp only [turn, top]
          rfl
      | _ => cases continued
  | unwind p =>
    obtain ⟨frame, rest, top, _⟩ := step.unwound
    have works : frame.task? = some t := by simpa [worker?, top] using own
    simp only [below, top, List.tail_cons] at only
    obtain ⟨_, unfinished, shape⟩ := top_works reached top works
    have goesOn : ∀ op, Move.unwind p ≠ .invoke op := by rintro op ⟨⟩
    rcases shape with rfl | ⟨s, rfl⟩ | ⟨b, s, kept, rfl⟩
    · exact .unwound p top only unfinished
    · refine .ends top ?_ unfinished goesOn ?_ ?_ bare
      · simp [Frame.closes, Frame.task?, Resumer.task?, Frame.polls]
      · simp [concludes, top]
      · simp only [turn, top]
        rfl
    · refine .ends top ?_ unfinished goesOn ?_ ?_ bare
      · simp [Frame.closes, Frame.task?, Origin.task?, Frame.polls]
      · simp [concludes, top]
      · simp only [turn, top]
        rfl

theorem polling_unspent {rest : List Frame} (top : m.stack = .polling t :: rest)
    (only : rest.any (Frame.closes t) = false) (unfinished : (m.tasks.get t).finished = false) :
    m.spent t = false := by
  simp [spent, top, only, unfinished, Frame.closes, Frame.polls]

theorem concludes_elsewhere (other : m.worker? move ≠ some t) : m.concludes t move = false := by
  have absent (missing : m.stack.head?.bind Frame.task? ≠ some t) :
      ¬ m.stack.head? = some (.polling t) := by
    intro top
    rw [top] at missing
    exact missing rfl
  cases move with
  | invoke op =>
    cases op with
    | pollTask t' =>
      have apart : ¬ t' = t := fun same => other (congrArg some same)
      simp [concludes, apart]
    | _ => rfl
  | answer reply =>
    cases reply with
    | polled p => cases p <;> simp [concludes, absent other]
    | _ => simp [concludes, absent other]
  | unwind p => simp [concludes, absent other]

theorem ready_unfinished (found : m.ready t = true) : (m.tasks.get t).finished = false := by
  unfold ready at found
  dsimp only at found
  split at found
  · rename_i unfinished _
    exact unfinished
  · cases found

-- `m` may let task `t` have its say once more at most, and the move takes that chance or leaves it.
def Once (m : Machine) (t : TaskKey) (move : Move) (next : Machine) : Prop :=
  next.spent t = (m.spent t || m.concludes t move) ∧
    (m.spent t = true → m.concludes t move = false)

theorem own_once (reached : Reachable m) (made : t < m.tasks.size) (own : m.worker? move = some t)
    (step : Step m move next reaction) : m.Once t move next := by
  unfold Once
  have below := worker_below reached own step
  rw [spent_after step made, below, Bool.or_false]
  cases task_move reached own step with
  | looks idle =>
    have speaks : (m.turn (.invoke (.pollTask t))).speaks t = m.ready t := pollTurn_speaks
    have unasked : m.stack.any (Frame.closes t) = false := below
    rw [speaks]
    simp only [spent, concludes, unasked, Bool.or_false, decide_true, Bool.true_and, true_and]
    intro finished
    cases found : m.ready t with
    | false => rfl
    | true =>
      rw [ready_unfinished found] at finished
      cases finished
  | polled p top only unfinished =>
    have turn : m.turn (.answer (.polled p)) = m.polledTurn t p := by
      simp only [turn, top]
      rfl
    rw [polling_unspent top only unfinished, turn, unfinished]
    simp only [Bool.false_or, Bool.false_eq_true, false_implies, and_true]
    cases p with
    | pending => rfl
    | succeeded =>
      rw [polledTurn_speaks (by simp)]
      simp [concludes, top]
    | failed causes =>
      rw [polledTurn_speaks (by simp)]
      simp [concludes, top]
  | unwound p top only unfinished =>
    have turn : m.turn (.unwind p) = m.failedTurn t p.message := by
      simp only [turn, top]
      rfl
    rw [polling_unspent top only unfinished, turn, failedTurn_speaks]
    simp [concludes, top]
  | ends top closes unfinished goesOn unsaid turn marks =>
    have said : m.spent t = true := by simp [spent, top, closes]
    rw [said, unsaid, turn]
    simp [Turn.speaks, Edit.ends]

theorem elsewhere_once (reached : Reachable m) (made : t < m.tasks.size)
    (other : m.worker? move ≠ some t) (step : Step m move next reaction) : m.Once t move next := by
  have kept (missing : m.stack.head?.bind Frame.task? ≠ some t) :
      m.stack.tail.any (Frame.closes t) = m.stack.any (Frame.closes t) := by
    cases top : m.stack with
    | nil => rfl
    | cons frame rest =>
      rw [top] at missing
      have apart : ¬ frame.task? = some t := missing
      simp [Frame.closes, apart]
  have left : (m.below move).any (Frame.closes t) = m.stack.any (Frame.closes t) := by
    cases move with
    | invoke op => rfl
    | answer reply => exact kept other
    | unwind p => exact kept other
  unfold Once
  rw [spent_after step made, (turn_elsewhere reached other).1, left, concludes_elsewhere other]
  exact ⟨rfl, fun _ => rfl⟩

theorem step_spent (reached : Reachable m) (made : t < m.tasks.size)
    (step : Step m move next reaction) : m.Once t move next := by
  by_cases own : m.worker? move = some t
  · exact own_once reached made own step
  · exact elsewhere_once reached made own step

def conclusions (t : TaskKey) : Machine → List Move → Nat
  | _, [] => 0
  | m, move :: moves =>
    (m.concludes t move).toNat + match m.advance? move with
      | some next => next.conclusions t moves
      | none => 0

theorem size_tasks_step (step : Step m move next reaction) : m.tasks.size ≤ next.tasks.size := by
  have tasks : next.tasks = (m.turn move).edits.foldl Edit.apply m.tasks := (step_takes step).tasks
  rw [tasks]
  exact size_le_edits ..

theorem Runs.size_tasks {moves : List Move} (runs : Runs m moves last) :
    m.tasks.size ≤ last.tasks.size := by
  induction runs with
  | nil => exact Nat.le_refl _
  | cons step rest ih => exact Nat.le_trans (size_tasks_step step) ih

theorem Runs.conclusions {moves : List Move} (reached : Reachable m) (made : t < m.tasks.size)
    (runs : Runs m moves last) :
    m.conclusions t moves + (m.spent t).toNat = (last.spent t).toNat := by
  induction runs with
  | nil => exact Nat.zero_add _
  | @cons m middle last move moves r step rest ih =>
    have advanced := advance?_exact.mpr ⟨r, step⟩
    have later := ih (reached.step step) (Nat.lt_of_lt_of_le made (size_tasks_step step))
    obtain ⟨spent, once⟩ := step_spent reached made step
    simp only [Machine.conclusions, advanced]
    rw [← later, spent]
    cases said : m.spent t with
    | false => simp [Nat.add_comm]
    | true => simp [once said]

theorem step_task (made : t < m.tasks.size)
    (step : Step m move next reaction) :
    (next.tasks.get t).bridge = (m.tasks.get t).bridge ∧
    (next.tasks.get t).script = (m.tasks.get t).script ∧
    (next.tasks.get t).command = (m.tasks.get t).command := by
  have tasks : next.tasks = (m.turn move).edits.foldl Edit.apply m.tasks := (step_takes step).tasks
  rw [tasks]
  exact edits_keep made _

theorem deliverTurn_ends {b : BridgeKey} {told : Option ScriptKey} {e : BridgeError}
    {kept : Option Notification} :
    ∀ edit ∈ (m.deliverTurn b told e (.task t) kept).edits, edit = .closed t := by
  unfold deliverTurn
  split
  · exact fun edit present => List.mem_singleton.mp present
  · exact fun _ bad => nomatch bad

theorem resumeTurn_ends {s : ScriptKey} :
    ∀ edit ∈ (m.resumeTurn s (.task t)).edits, edit = .closed t := by
  unfold resumeTurn
  dsimp only
  split
  · exact deliverTurn_ends
  · exact fun _ bad => nomatch bad

theorem polledTurn_ends {p : Polled} : ∀ edit ∈ (m.polledTurn t p).edits, edit = .closed t := by
  unfold polledTurn
  cases p with
  | pending => exact fun _ bad => nomatch bad
  | failed causes => exact deliverTurn_ends
  | succeeded =>
    dsimp only
    split
    · exact resumeTurn_ends
    · exact fun edit present => List.mem_singleton.mp present

theorem work_edits {tasks : Slots Task} (made : t < tasks.size) {edits : List Edit}
    (ends : ∀ edit ∈ edits, edit = .closed t) :
    ((edits.foldl Edit.apply tasks).get t).work = (tasks.get t).work := by
  induction edits generalizing tasks with
  | nil => rfl
  | cons edit rest ih =>
    rw [List.foldl_cons, ih (Nat.lt_of_lt_of_le made (edit.size_le_apply tasks))
      fun later present => ends later (List.mem_cons_of_mem _ present),
      ends edit List.mem_cons_self, Edit.apply_get made]
    simp

theorem step_work (reached : Reachable m) (made : t < m.tasks.size)
    (step : Step m move next reaction) (other : move ≠ .invoke (.pollTask t)) :
    (next.tasks.get t).work = (m.tasks.get t).work := by
  have tasks : next.tasks = (m.turn move).edits.foldl Edit.apply m.tasks := (step_takes step).tasks
  by_cases own : m.worker? move = some t
  · rw [tasks]
    refine work_edits made ?_
    cases task_move reached own step with
    | looks idle => exact absurd rfl other
    | polled p top _ _ =>
      simp only [turn, top]
      exact polledTurn_ends
    | unwound p top _ _ =>
      simp only [turn, top]
      exact deliverTurn_ends
    | ends _ _ _ _ _ turn _ =>
      rw [turn]
      exact fun edit present => List.mem_singleton.mp present
  · rw [tasks, edits_elsewhere made (turn_elsewhere reached own).2]

theorem poll_work (made : t < m.tasks.size)
    (step : Step m (.invoke (.pollTask t)) next reaction) :
    (next.tasks.get t).work = (m.tasks.get t).work ∨
      ∃ n, (m.tasks.get t).work = .wait n ∧ (next.tasks.get t).work = .wait (m.begun n) := by
  have tasks : next.tasks = (m.pollTurn t).edits.foldl Edit.apply m.tasks := (step_takes step).tasks
  rw [tasks]
  unfold pollTurn
  dsimp only
  split
  · exact .inl rfl
  · cases work : (m.tasks.get t).work with
    | forward future => exact .inl work
    | wait n =>
      refine .inr ⟨n, rfl, ?_⟩
      have looked : ((Edit.begun t (m.begun n)).apply m.tasks).get t =
          { m.tasks.get t with work := .wait (m.begun n) } := by
        rw [Edit.apply_get made]
        exact if_pos rfl
      have room := Nat.lt_of_lt_of_le made ((Edit.begun t (m.begun n)).size_le_apply m.tasks)
      dsimp only
      rw [List.foldl_cons, work_edits room, looked]
      split
      · exact resumeTurn_ends
      · exact fun _ bad => nomatch bad

theorem Reachable.polling (reached : Reachable m) (present : .polling t ∈ m.stack) :
    t < m.tasks.size ∧ ∃ future, (m.tasks.get t).work = .forward future := by
  induction reached with
  | initial => cases present
  | @step m next move reaction prior step ih =>
    rcases step_stack step present with ⟨q, asks⟩ | below
    · have asked : (m.turn move).Ordinary (m.worker? move) ∨ _ := turn_asks prior.grounded
      rcases asked with
        ordinary | ⟨op, c, s, text, _, _, _, _, _, _, _, same⟩ | ⟨t', future, rfl, _, work, same⟩
      · cases (ordinary.asks q _ asks).2.1
      · rw [same] at asks
        cases asks
      · rw [same] at asks
        cases asks
        obtain ⟨⟨_, made⟩, _⟩ := step.invoked
        refine ⟨Nat.lt_of_lt_of_le made (size_tasks_step step), future, ?_⟩
        rcases poll_work made step with kept | ⟨n, waits, _⟩
        · rw [kept, work]
        · rw [work] at waits
          cases waits
    · have there := mem_of_below below
      obtain ⟨made, future, work⟩ := ih there
      refine ⟨Nat.lt_of_lt_of_le made (size_tasks_step step), future, ?_⟩
      rw [step_work prior made step, work]
      rintro rfl
      obtain ⟨⟨idle, _⟩, _⟩ := step.invoked
      exact idle_iff.mpr idle _ there rfl

theorem ready_stays (reached : Reachable m) (made : t < m.tasks.size) (found : m.ready t = true)
    (unsaid : m.spent t = false) (quiet : m.concludes t move = false)
    (step : Step m move next reaction) : next.ready t = true ∧ next.spent t = false := by
  have left : next.spent t = false := by
    rw [(step_spent reached made step).1, unsaid, quiet]
    rfl
  refine ⟨?_, left⟩
  have other : move ≠ .invoke (.pollTask t) := by
    rintro rfl
    simp [concludes, found] at quiet
  have work := step_work reached made step other
  have unfinished : (next.tasks.get t).finished = false := (Bool.or_eq_false_iff.mp left).1
  have come := (step_takes step).come
  unfold ready at found ⊢
  dsimp only at found ⊢
  rw [work, unfinished]
  rw [ready_unfinished found] at found
  cases waits : (m.tasks.get t).work with
  | forward future =>
    rw [waits] at found
    cases found
  | wait n =>
    rw [waits] at found
    dsimp only at found ⊢
    cases n with
    | sleep d =>
      -- Whether a sleep that no one has looked at is over does not depend on the clock.
      simp only [begun, hasCome, decide_eq_true_eq] at found ⊢
      omega
    | signal k => exact come _ found
    | frames clock target => exact come _ found
    | deadline millis => exact come _ found

theorem Runs.concludes_once {moves : List Move} (reached : Reachable m) (made : t < m.tasks.size)
    (found : m.ready t = true) (unsaid : m.spent t = false) (runs : Runs m moves last)
    (looked : .invoke (.pollTask t) ∈ moves) :
    last.spent t = true ∧ m.conclusions t moves = 1 := by
  have counted := runs.conclusions reached made
  rw [unsaid] at counted
  suffices said : last.spent t = true by
    rw [said] at counted
    exact ⟨said, counted⟩
  clear counted
  induction runs with
  | nil => cases looked
  | @cons m middle last move moves r step rest ih =>
    have grown := Nat.lt_of_lt_of_le made (size_tasks_step step)
    cases now : m.concludes t move with
    | true =>
      have spent := (step_spent reached made step).1
      rw [unsaid, now] at spent
      have after := rest.conclusions (reached.step step) grown
      rw [spent] at after
      cases said : last.spent t with
      | true => rfl
      | false =>
        rw [said] at after
        simp at after
    | false =>
      obtain ⟨found', unsaid'⟩ := ready_stays reached made found unsaid now step
      refine ih (reached.step step) grown found' unsaid' ?_
      rcases List.mem_cons.mp looked with rfl | later
      · simp [concludes, found] at now
      · exact later

end Machine

end FiberBridge
