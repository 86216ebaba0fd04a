import FiberBridge.Proofs.Attribution
import FiberBridge.Proofs.Spent

namespace FiberBridge

def Act.loud : Act → Bool
  | .deed (.called (.error ..)) => true
  | .deed (.called q) => q.native
  | .unhandled _ => true
  | _ => false

inductive Stage where
  | asks (q : HostCall) (frame : Frame)
  | leaves (work : Work)

def Stage.quiet : Stage → Bool
  | .asks q _ => !(Act.deed (.called q)).loud
  | .leaves _ => true

def Stage.turn (c : Service) : Stage → Turn
  | .asks q frame => { asks := some (q, frame) }
  | .leaves work => Machine.leaveTurn c work

namespace Machine

variable {m next last : Machine} {move : Move} {reaction : Reaction} {t : TaskKey}

-- A live script's wait, for which there is a scheduler; or its command that the router can take.
def commandStage? (m : Machine) (c : Received) : Option (Service × Stage) :=
  match m.find? c.bridge c.id with
  | none => none
  | some s =>
    let bridge := m.bridges.get c.bridge
    match bridge.config.reserved? c.name with
    | some .log => none
    | some k =>
      let service := c.service s (bridge.config.reservedName k)
      match m.lacking? service k with
      | none => some (service, .asks (.decode c.word s) (.decoding service k))
      | some _ => none
    | none =>
      match Utf8.read c.name, bridge.router && (bridge.runtime || c.ambient) with
      | .ok text, true =>
        let service := c.service s text
        some (service, .asks (.route c.bridge s text c.word) (.routing service))
      | _, _ => none

def secondsStage? (m : Machine) (c : Service) (seconds : Double) : Option Stage :=
  match Duration.ofSeconds seconds, (m.bridges.get c.bridge).timers, m.runtimeFor c with
  | .ok d, some .runtime, true => some (.leaves (.wait (.sleep d)))
  | .ok d, some .host, _ => some (.asks (.after c.bridge d) (.scheduling c))
  | _, _, _ => none

def framesStage? (m : Machine) (c : Service) (count : UInt32) : Option Stage :=
  match (m.bridges.get c.bridge).frames, m.runtimeFor c with
  | some (.clock clock), true =>
    some (.leaves (.wait (.frames clock ((m.clocks.get clock).target count))))
  | some .host, _ => some (.asks (.afterFrames c.bridge count) (.scheduling c))
  | _, _ => none

def replyStage? (m : Machine) : Frame → Reply → Option (Service × Stage)
  | .decoding c .waitSecs, .decoded d =>
    match shapeOf c.name d Json.asNumber with
    | .ok seconds => (m.secondsStage? c seconds).map (c, ·)
    | .error _ => none
  | .decoding c .waitFrames, .decoded d =>
    match shapeOf c.name d Json.asCount with
    | .ok count => (m.framesStage? c count).map (c, ·)
    | .error _ => none
  | .scheduling c, .notification n => if m.runtimeFor c then some (c, .leaves (.wait n)) else none
  | .routing c, .future f => some (c, .leaves (.forward f))
  | _, _ => none

def stage? (m : Machine) : Move → Option (Service × Stage)
  | .invoke op => (m.received? op).bind m.commandStage?
  | .answer reply =>
    match m.stack with
    | [] => none
    | frame :: _ => m.replyStage? frame reply
  | .unwind _ => none

theorem secondsStage_turn {c : Service} {seconds : Double} {stage : Stage}
    (found : m.secondsStage? c seconds = some stage) :
    m.secondsTurn c seconds = stage.turn c ∧ stage.quiet := by
  unfold secondsStage? at found
  unfold secondsTurn
  split at found
  · rename_i d duration timers runtime
    cases found
    simp only [duration, timers, waitTurn, runtime, if_true]
    exact ⟨rfl, rfl⟩
  · rename_i d duration timers
    cases found
    simp only [duration, timers]
    exact ⟨rfl, rfl⟩
  · cases found

theorem framesStage_turn {c : Service} {count : UInt32} {stage : Stage}
    (found : m.framesStage? c count = some stage) :
    m.framesTurn c count = stage.turn c ∧ stage.quiet := by
  unfold framesStage? at found
  unfold framesTurn
  split at found
  · rename_i clock frames runtime
    cases found
    simp only [frames, waitTurn, runtime, if_true]
    exact ⟨rfl, rfl⟩
  · rename_i frames
    cases found
    simp only [frames]
    exact ⟨rfl, rfl⟩
  · cases found

theorem commandStage_turn {c : Received} {service : Service} {stage : Stage}
    (found : m.commandStage? c = some (service, stage)) :
    service.origin = c.origin ∧
      m.commandTurn c.bridge c.id c.name c.word c.ambient c.origin = stage.turn service ∧
      m.commandFate c.bridge c.id c.name c.ambient = [] ∧ stage.quiet := by
  unfold commandStage? at found
  unfold commandTurn commandFate Bridge.refusal?
  split at found
  · cases found
  · rename_i s live
    rw [live]
    dsimp only at found ⊢
    split at found
    · cases found
    · rename_i k _ reserved
      rw [reserved]
      split at found
      · rename_i free
        cases found
        refine ⟨rfl, ?_, rfl, rfl⟩
        unfold serveTurn
        unfold Received.service at free
        dsimp only
        rw [free]
        rfl
      · cases found
    · rename_i free
      split at found
      · rename_i text read able
        cases found
        obtain ⟨router, runtime⟩ := Bool.and_eq_true_iff.mp able
        have driven : m.runtimeFor ⟨c.bridge, s, text, c.word, c.ambient, c.origin⟩ = true := runtime
        simp only [free, read, router, runtime, forwardTurn, driven, Bool.not_true,
          Bool.false_eq_true, if_false, if_true]
        exact ⟨rfl, rfl, trivial, rfl⟩
      · cases found

theorem replyStage_turn {frame : Frame} {reply : Reply} {c : Service} {stage : Stage}
    (found : m.replyStage? frame reply = some (c, stage)) :
    frame.service? = some c ∧ m.replyTurn frame reply = stage.turn c ∧
      m.replyFate frame reply = [] ∧ stage.quiet := by
  unfold replyStage? at found
  split at found
  · split at found
    · rename_i seconds shaped
      obtain ⟨stage', staged, same⟩ := Option.map_eq_some_iff.mp found
      cases same
      obtain ⟨turn, quiet⟩ := secondsStage_turn staged
      refine ⟨rfl, ?_, rfl, quiet⟩
      simp only [replyTurn, decodedTurn, shaped]
      exact turn
    · cases found
  · split at found
    · rename_i count shaped
      obtain ⟨stage', staged, same⟩ := Option.map_eq_some_iff.mp found
      cases same
      obtain ⟨turn, quiet⟩ := framesStage_turn staged
      refine ⟨rfl, ?_, rfl, quiet⟩
      simp only [replyTurn, decodedTurn, shaped]
      exact turn
    · cases found
  · split at found
    · rename_i runtime
      cases found
      refine ⟨rfl, ?_, rfl, rfl⟩
      simp only [replyTurn, waitTurn, runtime, if_true]
      rfl
    · cases found
  · cases found
    exact ⟨rfl, rfl, rfl, rfl⟩
  · cases found

theorem stage_turn {c : Service} {stage : Stage} (reached : Reachable m)
    (found : m.stage? move = some (c, stage)) :
    c.origin.task? = none ∧ m.turn move = stage.turn c ∧ m.fate move = [] ∧ stage.quiet := by
  cases move with
  | invoke op =>
    obtain ⟨received, taken, staged⟩ := Option.bind_eq_some_iff.mp found
    obtain ⟨origin, turn, fate, quiet⟩ := commandStage_turn staged
    exact ⟨origin ▸ received_grounded taken, (opTurn_received taken).trans turn,
      (opFate_received taken).trans fate, quiet⟩
  | answer reply =>
    unfold stage? at found
    unfold turn fate
    cases top : m.stack with
    | nil =>
      rw [top] at found
      cases found
    | cons frame rest =>
      rw [top] at found
      obtain ⟨serves, turn, fate, quiet⟩ := replyStage_turn found
      exact ⟨reached.grounded frame (by simp [top]) c serves, turn, fate, quiet⟩
  | unwind p => cases found

theorem fresh_unspent (reached : Reachable m) (stack : next.stack = m.below move)
    (unfinished : (next.tasks.get m.tasks.size).finished = false) :
    next.spent m.tasks.size = false := by
  unfold spent
  rw [unfinished, stack, Bool.false_or]
  refine List.any_eq_false.mpr fun frame present closes => ?_
  have works : frame.task? = some m.tasks.size := by
    unfold Frame.closes at closes
    simp only [Bool.and_eq_true, decide_eq_true_eq] at closes
    exact closes.1
  exact Nat.lt_irrefl _ (reached.steady.works (mem_of_below present) works).1

def Staged (m : Machine) (c : Service) (next : Machine) (reaction : Reaction) : Stage → Prop
  | .asks q frame =>
    reaction.call? = some q ∧ (Act.deed (.called q)).loud = false ∧
      next.acts = .deed (.called q) :: m.acts ∧ next.stack.head? = some frame ∧
      next.tasks = m.tasks
  | .leaves work =>
    reaction.call? = none ∧ next.acts = m.acts ∧ next.spent m.tasks.size = false ∧
      next.tasks = m.tasks.add
        { bridge := c.bridge, script := c.script, command := c.name, work, finished := false }

theorem stage_staged {c : Service} {stage : Stage} (reached : Reachable m)
    (found : m.stage? move = some (c, stage)) (step : Step m move next reaction) :
    m.Staged c next reaction stage ∧ m.SameOutcomes next := by
  obtain ⟨grounded, turn, fate, quiet⟩ := stage_turn reached found
  have takes := step_takes step
  rw [turn] at takes
  refine ⟨?_, step_same_outcomes reached step fate⟩
  cases stage with
  | asks q frame =>
    have quiet : (Act.deed (.called q)).loud = false := by simpa [Stage.quiet] using quiet
    have top : next.stack = frame :: m.below move := takes.stack
    exact ⟨takes.call, quiet, takes.acts, by rw [top]; rfl, takes.tasks⟩
  | leaves work =>
    have tasks : next.tasks = m.tasks.add
        { bridge := c.bridge, script := c.script, command := c.name, work, finished := false } := by
      have edits := takes.tasks
      simp only [Stage.turn, leaveTurn, grounded, close?] at edits
      exact edits
    refine ⟨takes.call, takes.acts, fresh_unspent reached takes.stack ?_, tasks⟩
    rw [tasks, Slots.get_add_self]

theorem quiet_turn (reached : Reachable m) (own : m.worker? move = some t)
    (unsaid : m.concludes t move = false) (step : Step m move next reaction) :
    ∀ a ∈ (m.turn move).acts, a.loud = false := by
  have nothing {turn : Turn} (silent : turn.acts = []) : ∀ a ∈ turn.acts, a.loud = false := by
    intro a present
    rw [silent] at present
    cases present
  cases task_move reached own step with
  | looks idle =>
    have early : m.ready t = false := by simpa [concludes] using unsaid
    have turn : m.turn (.invoke (.pollTask t)) = m.pollTurn t := rfl
    rw [turn]
    unfold ready at early
    unfold pollTurn
    dsimp only at early ⊢
    cases unfinished : (m.tasks.get t).finished with
    | true => exact nothing rfl
    | false =>
      rw [unfinished] at early
      cases work : (m.tasks.get t).work with
      | forward future =>
        intro a present
        cases List.mem_singleton.mp present
        rfl
      | wait n =>
        rw [work] at early
        dsimp only at early ⊢
        rw [early]
        exact nothing rfl
  | polled p top _ _ =>
    cases p with
    | pending =>
      simp only [turn, top]
      exact nothing rfl
    | _ => simp [concludes, top] at unsaid
  | unwound p top _ _ => simp [concludes, top] at unsaid
  | ends _ _ _ _ _ turn marks =>
    rw [turn]
    intro a present
    obtain ⟨s, x, rfl⟩ := marks a present
    rfl

theorem spent_calls_none (reached : Reachable m) (own : m.worker? move = some t)
    (said : m.spent t = true) (step : Step m move next reaction) : reaction.call? = none := by
  have call : reaction.call? = (m.turn move).asks.map Prod.fst := (step_takes step).call
  rw [call]
  cases task_move reached own step with
  | looks idle =>
    have unasked : m.stack.any (Frame.closes t) = false := worker_below reached own step
    have finished : (m.tasks.get t).finished = true := by simpa only [spent, unasked, Bool.or_false] using said
    simp only [turn, opTurn, pollTurn, finished, if_true, Option.map_none]
  | polled p top only unfinished =>
    rw [polling_unspent top only unfinished] at said
    cases said
  | unwound p top only unfinished =>
    rw [polling_unspent top only unfinished] at said
    cases said
  | ends _ _ _ _ _ turn _ =>
    rw [turn]
    rfl

-- Task `t` tries to resume its script: one native call if the script is live, and otherwise one error
-- for the error handler, which decides nothing.
def Attempts (m : Machine) (t : TaskKey) (next : Machine) (reaction : Reaction) : Prop :=
  let task := m.tasks.get t
  let script := m.scripts.get task.script
  if script.disposed then
    next.acts = m.delivery task.bridge (.useAfterDispose script.id) :: m.acts ∧ m.SameOutcomes next
  else
    reaction.call? = some (.resume script.fiber) ∧
      next.acts = .deed (.called (.resume script.fiber)) ::
        .deed (.marked task.script (.entered (m.tokenCanceled task.script))) :: m.acts

theorem attempts_of_turn (reached : Reachable m) (step : Step m move next reaction)
    (acts : (m.turn move).acts = (m.resumeTurn (m.tasks.get t).script (.task t)).acts)
    (asks : (m.turn move).asks = (m.resumeTurn (m.tasks.get t).script (.task t)).asks)
    (fate : m.fate move = m.resumeFate (m.tasks.get t).script) : m.Attempts t next reaction := by
  have takes := step_takes step
  have done : next.acts = (m.turn move).acts ++ m.acts := takes.acts
  have call : reaction.call? = (m.turn move).asks.map Prod.fst := takes.call
  rw [acts] at done
  rw [asks] at call
  unfold Attempts
  unfold resumeTurn at done call
  unfold resumeFate at fate
  dsimp only at done call ⊢
  split
  · rename_i disposed
    rw [if_pos disposed, deliverTurn_acts] at done
    rw [if_pos disposed] at fate
    exact ⟨done, step_same_outcomes reached step fate⟩
  · rename_i live
    rw [if_neg live] at done call
    exact ⟨call, done⟩

theorem wait_attempts {n : Notification} (reached : Reachable m)
    (work : (m.tasks.get t).work = .wait n) (said : m.concludes t move = true)
    (step : Step m move next reaction) :
    move = .invoke (.pollTask t) ∧ m.hasCome (m.begun n) = true ∧ m.Attempts t next reaction := by
  have unpolled (top : m.stack.head? = some (.polling t)) : False := by
    obtain ⟨_, future, forwards⟩ := reached.polling (List.mem_of_head? top)
    rw [work] at forwards
    cases forwards
  cases move with
  | invoke op =>
    cases op with
    | pollTask t' =>
      simp only [concludes, Bool.and_eq_true, decide_eq_true_eq] at said
      obtain ⟨rfl, found⟩ := said
      have unfinished := ready_unfinished found
      have come : m.hasCome (m.begun n) = true := by
        unfold ready at found
        dsimp only at found
        rw [unfinished, work] at found
        exact found
      refine ⟨rfl, come, attempts_of_turn reached step ?_ ?_ ?_⟩
      · simp only [turn, opTurn, pollTurn, unfinished, work, come, if_true, Bool.false_eq_true,
          if_false]
        rfl
      · simp only [turn, opTurn, pollTurn, unfinished, work, come, if_true, Bool.false_eq_true,
          if_false]
      · simp only [fate, opFate, waitFate, unfinished, work, come, if_true]
    | _ => cases said
  | answer reply =>
    cases reply with
    | polled p =>
      cases p with
      | pending => cases said
      | _ => exact (unpolled (by simpa [concludes] using said)).elim
    | _ => exact (unpolled (by simpa [concludes] using said)).elim
  | unwind p => exact (unpolled (by simpa [concludes] using said)).elim

theorem forward_attempts {rest : List Frame} (reached : Reachable m)
    (top : m.stack = .polling t :: rest)
    (step : Step m (.answer (.polled .succeeded)) next reaction) :
    if (m.bridges.get (m.tasks.get t).bridge).config.resumeAfterForward then
      m.Attempts t next reaction
    else reaction.call? = none ∧ next.acts = m.acts ∧ m.SameOutcomes next := by
  split
  · rename_i resumes
    refine attempts_of_turn reached step ?_ ?_ ?_
    · simp only [turn, top, replyTurn, polledTurn, resumes, if_true]
    · simp only [turn, top, replyTurn, polledTurn, resumes, if_true]
    · simp only [fate, top, replyFate, resumes, if_true]
  · rename_i stays
    have turn : m.turn (.answer (.polled .succeeded)) = { edits := [.closed t] } := by
      simp only [turn, top, replyTurn, polledTurn, stays, Bool.false_eq_true, if_false]
    have fate : m.fate (.answer (.polled .succeeded)) = [] := by
      simp only [fate, top, replyFate, stays, Bool.false_eq_true, if_false]
    have takes := step_takes step
    rw [turn] at takes
    exact ⟨takes.call, takes.acts, step_same_outcomes reached step fate⟩

inductive Lasts : Work → Work → Prop where
  | same (work : Work) : Lasts work work
  | begun (d : Duration) (millis : Nat) : Lasts (.wait (.sleep d)) (.wait (.deadline millis))

theorem Lasts.trans {before middle after : Work} (left : Lasts before middle)
    (right : Lasts middle after) : Lasts before after := by
  cases left with
  | same => exact right
  | begun d millis =>
    cases right with
    | same => exact .begun d millis

theorem step_lasts (reached : Reachable m) (made : t < m.tasks.size)
    (step : Step m move next reaction) : Lasts (m.tasks.get t).work (next.tasks.get t).work := by
  by_cases look : move = .invoke (.pollTask t)
  · subst look
    rcases poll_work made step with kept | ⟨n, waits, looked⟩
    · rw [kept]
      exact .same _
    · rw [waits, looked]
      cases n with
      | sleep d => exact .begun d _
      | _ => exact .same _
  · rw [step_work reached made step look]
    exact .same _

theorem Runs.lasts {moves : List Move} (reached : Reachable m) (made : t < m.tasks.size)
    (runs : Runs m moves last) :
    (last.tasks.get t).bridge = (m.tasks.get t).bridge ∧
    (last.tasks.get t).script = (m.tasks.get t).script ∧
    Lasts (m.tasks.get t).work (last.tasks.get t).work := by
  induction runs with
  | nil => exact ⟨rfl, rfl, .same _⟩
  | cons step rest ih =>
    obtain ⟨bridge, script, work⟩ :=
      ih (reached.step step) (Nat.lt_of_lt_of_le made (size_tasks_step step))
    obtain ⟨bridge', script', _⟩ := step_task made step
    exact ⟨bridge.trans bridge', script.trans script', (step_lasts reached made step).trans work⟩

-- The runtime runs tasks between the host's operations only.
def Move.Between (m : Machine) (move : Move) : Prop := ∀ t, move = .invoke (.pollTask t) → m.stack = []

-- What holds of detached work from a state on. It is quiet but for one move: a wait has that move
-- when a look finds that its notification has come, the host's work when it ends. After it nobody
-- is called for the task.
structure Detached (m : Machine) : Prop where
  accepted : ∀ move next reaction c stage, Step m move next reaction →
    m.stage? move = some (c, stage) → m.Staged c next reaction stage ∧ m.SameOutcomes next
  lasting : ∀ moves last t, Runs m moves last → t < m.tasks.size →
    (last.tasks.get t).bridge = (m.tasks.get t).bridge ∧
    (last.tasks.get t).script = (m.tasks.get t).script ∧
    Lasts (m.tasks.get t).work (last.tasks.get t).work
  quiet : ∀ move next reaction t, Step m move next reaction → m.worker? move = some t →
    m.concludes t move = false →
    ∃ done, next.acts = done ++ m.acts ∧ ∀ a ∈ done, a.loud = false
  waits : ∀ move next reaction t n, Step m move next reaction → (m.tasks.get t).work = .wait n →
    m.concludes t move = true →
    move = .invoke (.pollTask t) ∧ m.hasCome (m.begun n) = true ∧ m.Attempts t next reaction
  forwards : ∀ next reaction t rest, m.stack = .polling t :: rest →
    Step m (.answer (.polled .succeeded)) next reaction →
    m.concludes t (.answer (.polled .succeeded)) = true ∧
    if (m.bridges.get (m.tasks.get t).bridge).config.resumeAfterForward then
      m.Attempts t next reaction
    else reaction.call? = none ∧ next.acts = m.acts ∧ m.SameOutcomes next ∧
      (Orderly m → ∀ r, r < m.runs.size → next.outcome? r = m.outcome? r)
  spent : ∀ move next reaction t, Step m move next reaction → m.worker? move = some t →
    m.spent t = true → reaction.call? = none
  once : ∀ moves last t, Runs m moves last → t < m.tasks.size →
    m.conclusions t moves + (m.spent t).toNat = (last.spent t).toNat
  found : ∀ moves last t, Runs m moves last → t < m.tasks.size → m.ready t = true →
    m.spent t = false → .invoke (.pollTask t) ∈ moves → m.conclusions t moves = 1
  driven : ∀ next reaction t future, Step m (.invoke (.pollTask t)) next reaction →
    (m.tasks.get t).finished = false → (m.tasks.get t).work = .forward future →
    reaction.call? = some (.poll t future)
  polled : ∀ move next t future, Step m move next (.call (.poll t future)) →
    move = .invoke (.pollTask t) ∧ m.running t = false ∧ (move.Between m → m.stack = [])

theorem detached_exactly_once (reached : Reachable m) : Detached m := by
  refine ⟨?_, ?_, ?_, ?_, ?_, ?_, ?_, ?_, ?_, ?_⟩
  · intro move next reaction c stage step found
    exact stage_staged reached found step
  · intro moves last t runs made
    exact runs.lasts reached made
  · intro move next reaction t step own unsaid
    exact ⟨_, (step_takes step).acts, quiet_turn reached own unsaid step⟩
  · intro move next reaction t n step work said
    exact wait_attempts reached work said step
  · intro next reaction t rest top step
    refine ⟨by simp [concludes, top], ?_⟩
    have attempts := forward_attempts reached top step
    split
    · rename_i resumes
      rwa [if_pos resumes] at attempts
    · rename_i stays
      rw [if_neg stays] at attempts
      obtain ⟨call, acts, same⟩ := attempts
      refine ⟨call, acts, same, ?_⟩
      intro orderly r made
      refine same.outcome? orderly (orderly.step step ?_) made
      rintro s ⟨p, dropped, rest, bad, _⟩
      cases bad
  · intro move next reaction t step own said
    exact spent_calls_none reached own said step
  · intro moves last t runs made
    exact runs.conclusions reached made
  · intro moves last t runs made ready unsaid looked
    exact (runs.concludes_once reached made ready unsaid looked).2
  · intro next reaction t future step unfinished work
    have call : reaction.call? = (m.pollTurn t).asks.map Prod.fst := (step_takes step).call
    rw [call]
    simp only [pollTurn, unfinished, work, Bool.false_eq_true, if_false, Option.map_some]
  · intro move next t future step
    obtain ⟨look, idle, _⟩ := poll_asked reached step
    exact ⟨look, idle, fun between => between t look⟩

def waitedFor : List Move :=
  [.invoke (.build { frames := some .host, runtime := true }), .invoke (.makeFiber ⟨1⟩ 0),
    .invoke (.register 0 0), .invoke (.command 0 ⟨1⟩ "wait_frames".toUTF8 ⟨7⟩ false),
    .answer (.decoded (.ok (.num (.int 3)))), .answer (.notification (.signal 0)),
    .invoke (.complete 0)]

set_option maxRecDepth 10000 in
theorem detached_waitedFor :
    (after waitedFor).conclusions 0 [.invoke (.pollTask 0), .answer (.code 1), .invoke (.pollTask 0)] =
        1 ∧
      (after waitedFor).Attempts 0 ((after waitedFor).invoke (.pollTask 0)).1
        ((after waitedFor).invoke (.pollTask 0)).2 := by
  have reached : Reachable (after waitedFor) :=
    (runs_after (by decide +kernel)).reachable .initial
  have detached := detached_exactly_once reached
  have made : 0 < (after waitedFor).tasks.size := by decide +kernel
  have found : (after waitedFor).ready 0 = true := by decide +kernel
  have unsaid : (after waitedFor).spent 0 = false := by decide +kernel
  have step : Step (after waitedFor) (.invoke (.pollTask 0))
      ((after waitedFor).invoke (.pollTask 0)).1 ((after waitedFor).invoke (.pollTask 0)).2 :=
    .invoke (by decide +kernel) rfl
  have ran : ((after waitedFor).run?
      [.invoke (.pollTask 0), .answer (.code 1), .invoke (.pollTask 0)]).isSome := by
    decide +kernel
  obtain ⟨last, ran⟩ := Option.isSome_iff_exists.mp ran
  refine ⟨?_, ?_⟩
  · exact detached.found _ last 0 (run?_exact.mp ran) made found unsaid List.mem_cons_self
  · have work : ((after waitedFor).tasks.get 0).work = .wait (.signal 0) := by decide +kernel
    have said : (after waitedFor).concludes 0 (.invoke (.pollTask 0)) = true := by decide +kernel
    exact (detached.waits _ _ _ 0 _ step work said).2.2

end Machine

end FiberBridge
