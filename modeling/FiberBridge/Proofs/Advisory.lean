import FiberBridge.Proofs.Along
import FiberBridge.Proofs.Outcome
import FiberBridge.Proofs.Swept
import Mathlib.Data.List.Forall2

namespace FiberBridge

def Machine.Move.cancels? : Machine.Move → Option TokenKey
  | .invoke (.cancel t) => some t
  | _ => none

-- The same event, but that its token may have been canceled by then.
inductive Milestone.Advised : Milestone → Milestone → Prop where
  | armed {r : RunKey} {canceled canceled' : Bool} (more : canceled → canceled') :
      Advised (.armed r canceled) (.armed r canceled')
  | entered {canceled canceled' : Bool} (more : canceled → canceled') :
      Advised (.entered canceled) (.entered canceled')
  | returned {wasStart : Bool} {result : CallResult} {canceled canceled' : Bool}
      (more : canceled → canceled') :
      Advised (.returned wasStart result canceled) (.returned wasStart result canceled')
  | failed {e : BridgeError} : Advised (.failed e) (.failed e)
  | torn : Advised .torn .torn

def Advised (event event' : ScriptKey × Milestone) : Prop :=
  event'.1 = event.1 ∧ event.2.Advised event'.2

theorem Advised.refl (event : ScriptKey × Milestone) : Advised event event := by
  obtain ⟨s, x⟩ := event
  refine ⟨rfl, ?_⟩
  cases x with
  | armed r canceled => exact .armed id
  | entered canceled => exact .entered id
  | returned wasStart result canceled => exact .returned id
  | failed e => exact .failed
  | torn => exact .torn

theorem Milestone.Advised.verdict {x x' : Milestone} (advised : x.Advised x') (id : ScriptId) :
    x'.verdict id = x.verdict id ∨ x'.verdict id = some (.error .canceled) := by
  cases advised with
  | armed more => exact .inl rfl
  | @entered canceled canceled' more =>
    cases canceled' with
    | true => exact .inr rfl
    | false =>
      have before : canceled = false := by simpa using more
      rw [before]
      exact .inl rfl
  | @returned wasStart result canceled canceled' more =>
    cases canceled' with
    | true => exact .inr rfl
    | false =>
      have before : canceled = false := by simpa using more
      rw [before]
      exact .inl rfl
  | failed => exact .inl rfl
  | torn => exact .inl rfl

theorem Advised.befalls {event event' : ScriptKey × Milestone} (advised : Advised event event')
    (s : ScriptKey) (id : ScriptId) :
    befalls s id event' = befalls s id event ∨
      befalls s id event' = some (.error .canceled) := by
  unfold FiberBridge.befalls
  rw [advised.1]
  split
  · exact advised.2.verdict id
  · exact .inl rfl

variable {past past' : List (ScriptKey × Milestone)}

theorem armedIn_advised (advised : List.Forall₂ Advised past past') (r : RunKey) :
    armedIn r past' = armedIn r past := by
  induction advised with
  | nil => rfl
  | @cons event event' past past' one rest ih =>
    obtain ⟨s, x⟩ := event
    obtain ⟨_, x'⟩ := event'
    obtain ⟨rfl, kind⟩ := one
    cases kind with
    | armed more => simp only [armedIn, ih]
    | _ => exact ih

theorem findSome?_befalls_advised (advised : List.Forall₂ Advised past past') (s : ScriptKey)
    (id : ScriptId) :
    past'.findSome? (befalls s id) = past.findSome? (befalls s id) ∨
      past'.findSome? (befalls s id) = some (.error .canceled) := by
  induction advised with
  | nil => exact .inl rfl
  | @cons event event' past past' one rest ih =>
    rw [List.findSome?_cons, List.findSome?_cons]
    rcases one.befalls s id with same | canceled
    · rw [same]
      cases befalls s id event with
      | some o => exact .inl rfl
      | none => exact ih
    · rw [canceled]
      exact .inr rfl

theorem verdictOn_advised (advised : List.Forall₂ Advised past past') (id : ScriptId) (r : RunKey) :
    verdictOn id r past' = verdictOn id r past ∨
      verdictOn id r past' = some (.error .canceled) := by
  induction advised with
  | nil => exact .inl rfl
  | @cons event event' past past' one rest ih =>
    obtain ⟨s, x⟩ := event
    obtain ⟨_, x'⟩ := event'
    obtain ⟨rfl, kind⟩ := one
    cases kind with
    | @armed r' canceled canceled' more =>
      simp only [verdictOn]
      split
      · cases canceled' with
        | true => exact .inr rfl
        | false =>
          have before : canceled = false := by simpa using more
          rw [before]
          exact findSome?_befalls_advised rest _ id
      · exact ih
    | _ => exact ih

namespace Machine

variable {m n next : Machine} {move : Move}

theorem isCanceled_more (more : m.canceled ⊆ n.canceled) {token : Option TokenKey} :
    m.isCanceled token → n.isCanceled token := by
  cases token with
  | none => exact id
  | some t =>
    intro canceled
    exact List.contains_iff_mem.mpr (more (List.contains_iff_mem.mp canceled))

theorem startFate_advised (twin : m.Twin n) (more : m.canceled ⊆ n.canceled) (s : ScriptKey)
    (token : Option TokenKey) : List.Forall₂ Advised (m.startFate s token) (n.startFate s token) := by
  have ready : (!(n.scripts.get s).disposed &&
        (Status.ofOrdinal (n.fibers.get (n.scripts.get s).fiber).ordinal).startable) =
      (!(m.scripts.get s).disposed &&
        (Status.ofOrdinal (m.fibers.get (m.scripts.get s).fiber).ordinal).startable) :=
    twin.reads (fun m => !(m.scripts.get s).disposed &&
      (Status.ofOrdinal (m.fibers.get (m.scripts.get s).fiber).ordinal).startable) fun _ _ _ => rfl
  unfold startFate
  dsimp only
  rw [ready, twin.size]
  split
  · exact .cons ⟨rfl, .armed (isCanceled_more more)⟩ .nil
  · exact .nil

theorem tokenCanceled_more (twin : m.Twin n) (more : m.canceled ⊆ n.canceled) (s : ScriptKey) :
    m.tokenCanceled s → n.tokenCanceled s := by
  have token : (n.scripts.get s).token = (m.scripts.get s).token :=
    twin.reads (fun m => (m.scripts.get s).token) fun _ _ _ => rfl
  unfold tokenCanceled
  rw [token]
  exact isCanceled_more more

theorem resumeFate_advised (twin : m.Twin n) (more : m.canceled ⊆ n.canceled) (s : ScriptKey) :
    List.Forall₂ Advised (m.resumeFate s) (n.resumeFate s) := by
  have disposed : (n.scripts.get s).disposed = (m.scripts.get s).disposed :=
    twin.reads (fun m => (m.scripts.get s).disposed) fun _ _ _ => rfl
  unfold resumeFate
  rw [disposed]
  split
  · exact .nil
  · exact .cons ⟨rfl, .entered (tokenCanceled_more twin more s)⟩ .nil

theorem same_advised {events events' : List (ScriptKey × Milestone)} (same : events' = events) :
    List.Forall₂ Advised events events' :=
  same ▸ List.forall₂_same.mpr fun event _ => Advised.refl event

theorem waitFate_advised (twin : m.Twin n) (more : m.canceled ⊆ n.canceled) (t : TaskKey) :
    List.Forall₂ Advised (m.waitFate t) (n.waitFate t) := by
  have task := twin.task t
  have come (what : Notification) : n.hasCome (n.begun what) = m.hasCome (m.begun what) :=
    twin.reads (fun m => m.hasCome (m.begun what)) fun _ _ _ => rfl
  unfold waitFate
  dsimp only
  rw [task]
  split
  · rw [come]
    split
    · exact resumeFate_advised twin more _
    · exact .nil
  · exact .nil

theorem opFate_advised (twin : m.Twin n) (more : m.canceled ⊆ n.canceled) (op : Op) :
    List.Forall₂ Advised (m.opFate op) (n.opFate op) := by
  cases op with
  | start s token => exact startFate_advised twin more s token
  | resume s byHandle => exact resumeFate_advised twin more s
  | pollTask t => exact waitFate_advised twin more t
  | command b id name word ambient =>
    exact same_advised (twin.reads (·.commandFate b id name ambient) fun _ _ _ => rfl)
  | error b id description =>
    exact same_advised (twin.reads (·.raiseFate b id description) fun _ _ _ => rfl)
  | commandUpcall id name length word ambient =>
    exact same_advised (twin.reads (·.opFate (.commandUpcall id name length word ambient))
      fun _ _ _ => rfl)
  | errorUpcall id description =>
    exact same_advised (twin.reads (·.opFate (.errorUpcall id description)) fun _ _ _ => rfl)
  | fail s e => exact same_advised rfl
  | _ => exact .nil

theorem replyFate_advised (twin : m.Twin n) (more : m.canceled ⊆ n.canceled) (frame : Frame)
    (reply : Reply) : List.Forall₂ Advised (m.replyFate frame reply) (n.replyFate frame reply) := by
  have returned (s : ScriptKey) (wasStart : Bool) (result : CallResult) :
      List.Forall₂ Advised [(s, .returned wasStart result (m.tokenCanceled s))]
        [(s, .returned wasStart result (n.tokenCanceled s))] :=
    .cons ⟨rfl, .returned (tokenCanceled_more twin more s)⟩ .nil
  have bridges : n.bridges = m.bridges := twin.reads (·.bridges) fun _ _ _ => rfl
  have tasks : n.tasks = m.tasks := twin.reads (·.tasks) fun _ _ _ => rfl
  unfold replyFate
  split
  · exact returned _ _ _
  · exact returned _ _ _
  · exact same_advised rfl
  · rw [bridges]
    split
    · exact resumeFate_advised twin more _
    · exact .nil
  · exact resumeFate_advised twin more _
  · dsimp only
    rw [bridges, tasks]
    split
    · exact resumeFate_advised twin more _
    · exact .nil
  · rw [tasks]
    exact same_advised rfl
  · exact .nil

theorem fate_advised (twin : m.Twin n) (more : m.canceled ⊆ n.canceled) (move : Move) :
    List.Forall₂ Advised (m.fate move) (n.fate move) := by
  have stack := twin.stack
  cases move with
  | invoke op => exact opFate_advised twin more op
  | answer reply =>
    simp only [fate, stack]
    cases m.stack with
    | nil => exact .nil
    | cons frame rest => exact replyFate_advised twin more frame reply
  | unwind p => exact same_advised (twin.reads (·.fate (.unwind p)) fun _ _ _ => rfl)

theorem sweep_tokens (bounded : m.Bounded) : m.sweep.canceled = m.canceled := by
  have scripts : (m.scripts.keys.foldl sweepScript m).canceled = m.canceled :=
    (sweepScripts_alike (.refl (.refl bounded)) m.scripts.keys).calm.tokens
  have contexts (keys : List ContextKey) (k : Machine) :
      (keys.foldl sweepContext k).canceled = k.canceled := by
    induction keys generalizing k with
    | nil => rfl
    | cons c rest ih =>
      rw [List.foldl_cons, ih]
      unfold sweepContext
      split <;> rfl
  exact (contexts _ _).trans scripts

theorem step_tokens {r : Reaction} (bounded : m.Bounded) (step : Step m move next r) :
    next.canceled = move.cancels?.toList ++ m.canceled := by
  have twin := Twin.refl bounded
  cases move with
  | invoke op =>
    obtain ⟨_, rfl, _⟩ := step.invoked
    rw [sweep_tokens (launch_twin twin op).1.bounded]
    cases op with
    | cancel t => rfl
    | dropContext c => rfl
    | newContext available =>
      simp only [launch, newContext]
      split <;> rfl
    | _ => exact (launch_along (.refl twin) rfl).alike.calm.tokens
  | answer reply =>
    obtain ⟨frame, rest, after, _, continued, rfl, _⟩ := step.answered
    have along := continue?_along (.refl (twin.popped rest)) frame reply
    rw [continued] at along
    cases along with
    | some along =>
      rw [sweep_tokens along.alike.twin.bounded]
      exact along.alike.calm.tokens
  | unwind p =>
    obtain ⟨frame, rest, _, rfl, _⟩ := step.unwound
    have popped := twin.popped rest
    rw [sweep_tokens (recover_twin popped p frame).1.bounded]
    rcases recover_along (.refl popped) p frame with along | ⟨kind, id, left, _⟩
    · exact along.alike.calm.tokens
    · rw [left]
      exact sweep_tokens (m := { m with stack := rest }) bounded

-- The second moves are the first, with tokens canceled in between.
inductive Extra : List Move → List Move → Prop where
  | nil : Extra [] []
  | same {move : Move} {moves moves' : List Move} (rest : Extra moves moves') :
      Extra (move :: moves) (move :: moves')
  | canceled {t : TokenKey} {moves moves' : List Move} (rest : Extra moves moves') :
      Extra moves (.invoke (.cancel t) :: moves')

def take? (m : Machine) : Move → Option (Machine × Reaction)
  | .invoke op => if m.Admits op then some (m.invoke op) else none
  | .answer reply => m.answer? reply
  | .unwind p => m.unwind? p

def answers : Machine → List Move → List Reaction
  | _, [] => []
  | m, move :: moves =>
    match m.take? move with
    | some (next, r) =>
      if move.cancels?.isSome then next.answers moves else r :: next.answers moves
    | none => []

theorem take?_of_step {r : Reaction} (step : Step m move next r) : m.take? move = some (next, r) := by
  cases step with
  | invoke admitted ran => exact (if_pos admitted).trans (congrArg some ran)
  | answer ran => exact ran
  | unwind ran => exact ran

theorem Step.unique {next' : Machine} {r r' : Reaction} (step : Step m move next r)
    (other : Step m move next' r') : next' = next ∧ r' = r := by
  have same := (take?_of_step other).symm.trans (take?_of_step step)
  exact Prod.mk.inj (Option.some.inj same)

theorem Runs.unique {moves : List Move} {last last' : Machine} (runs : Runs m moves last)
    (other : Runs m moves last') : last' = last := by
  induction runs with
  | nil =>
    cases other
    rfl
  | cons step rest ih =>
    cases other with
    | cons step' rest' =>
      obtain ⟨rfl, _⟩ := step.unique step'
      exact ih rest'

theorem cancel_step (reached : Reachable n) (t : TokenKey) :
    ∃ next, Step n (.invoke (.cancel t)) next (.returned .done) ∧ n.Twin next ∧
      n.canceled ⊆ next.canceled := by
  have bounded := reached.bounded
  have step : Step n (.invoke (.cancel t)) _ (.returned .done) := .invoke trivial rfl
  refine ⟨_, step, ?_, ?_⟩
  · have marked : n.Twin { n with canceled := t :: n.canceled } :=
      .veiled bounded rfl (fun _ => rfl) rfl
    have swept := sweep_twin marked
    rw [reached.still] at swept
    exact swept
  · rw [step_tokens bounded step]
    exact List.subset_append_right _ _

theorem step_more {next' : Machine} {r r' : Reaction} (twin : m.Twin n)
    (more : m.canceled ⊆ n.canceled) (step : Step m move next r) (step' : Step n move next' r') :
    next.canceled ⊆ next'.canceled := by
  rw [step_tokens twin.bounded step, step_tokens twin.symm.bounded step']
  exact List.append_subset.mpr ⟨List.subset_append_left _ _,
    fun t present => List.mem_append_right _ (more present)⟩

-- By induction on what is put in; the second machine stays the twin of the first, with more tokens
-- canceled.
theorem Extra.alongside {moves moves' : List Move} {last : Machine} (extra : Extra moves moves')
    (twin : m.Twin n) (more : m.canceled ⊆ n.canceled) (reached : Reachable n)
    (runs : Runs m moves last) :
    ∃ last', Runs n moves' last' ∧ last.Twin last' ∧
      List.Forall₂ Advised (m.fates moves) (n.fates moves') ∧
      n.answers moves' = m.answers moves := by
  induction extra generalizing m n with
  | nil =>
    cases runs
    exact ⟨n, .nil, twin, .nil, rfl⟩
  | @same move moves moves' extra ih =>
    cases runs with
    | @cons _ middle _ _ _ r step rest =>
      obtain ⟨middle', step', twin'⟩ := step_twin twin step
      obtain ⟨last', runs', lasting, decided, answered⟩ :=
        ih twin' (step_more twin more step step') (reached.step step') rest
      refine ⟨last', .cons step' runs', lasting, ?_, ?_⟩
      · rw [fates_cons step, fates_cons step']
        exact List.rel_append (fate_advised twin more move) decided
      · simp only [answers, take?_of_step step, take?_of_step step', answered]
  | @canceled t moves moves' extra ih =>
    obtain ⟨middle', step', alike, more'⟩ := cancel_step reached t
    obtain ⟨last', runs', lasting, decided, answered⟩ :=
      ih (twin.trans alike) (List.Subset.trans more more') (reached.step step') runs
    refine ⟨last', .cons step' runs', lasting, ?_, ?_⟩
    · rw [fates_cons step']
      exact decided
    · simp only [answers, take?_of_step step']
      exact answered

theorem outcome?_advised {last last' : Machine} {past past' : List (ScriptKey × Milestone)}
    (chronicle : Chronicle last past) (chronicle' : Chronicle last' past') (twin : last.Twin last')
    (advised : List.Forall₂ Advised past past') (r : RunKey) :
    last'.outcome? r = last.outcome? r ∨ last'.outcome? r = some (.error .canceled) := by
  rcases Nat.lt_or_ge r last.runs.size with made | new
  · have armed := chronicle.armed.mpr ⟨made, rfl⟩
    have armed' := (armedIn_advised advised r).trans armed
    have script := twin.reads (fun m => m.scripts.get (last.runs.get r).script) fun _ _ _ => rfl
    have id : last'.idOf (last.runs.get r).script = last.idOf (last.runs.get r).script :=
      congrArg Script.id script
    rw [chronicle.outcome? armed, chronicle'.outcome? armed', script, id]
    rcases verdictOn_advised advised (last.idOf (last.runs.get r).script) r with same | canceled
    · exact .inl (congrArg (Option.or · _) same)
    · rw [canceled]
      exact .inr rfl
  · have unmade (k : Machine) (new : k.runs.size ≤ r) : k.outcome? r = none := by
      unfold Machine.outcome?
      rw [Slots.get_of_size_le new]
      rfl
    exact .inl ((unmade last' (twin.size ▸ new)).trans (unmade last new).symm)

-- With the same moves and more tokens canceled in between, the moves can be made, and come to the same;
-- the host sees the same calls, the registries and the rest of the state are the same, and each run
-- shows what it showed, or that it was canceled.
theorem cancellation_advisory {moves moves' : List Move} {last : Machine} (reached : Reachable m)
    (runs : Runs m moves last) (extra : Extra moves moves') :
    ∃ last', Runs m moves' last' ∧ (∀ other, Runs m moves' other → other = last') ∧
      m.answers moves' = m.answers moves ∧
      last'.events.filter Event.outward = last.events.filter Event.outward ∧
      last'.bridges = last.bridges ∧ last.Twin last' ∧
      ∀ r, last'.outcome? r = last.outcome? r ∨ last'.outcome? r = some (.error .canceled) := by
  obtain ⟨past, chronicle⟩ := reached.chronicle
  obtain ⟨last', runs', twin, decided, answered⟩ :=
    extra.alongside (.refl reached.bounded) (List.Subset.refl _) reached runs
  have advised : List.Forall₂ Advised (past ++ m.fates moves) (past ++ m.fates moves') :=
    List.rel_append (same_advised rfl) decided
  refine ⟨last', runs', fun other ran => runs'.unique ran, answered, twin.outward, ?_, twin, ?_⟩
  · exact twin.reads (·.bridges) fun _ _ _ => rfl
  · intro r
    exact outcome?_advised (runs.chronicle chronicle) (runs'.chronicle chronicle) twin advised r

def unhurried : List Move :=
  [.invoke (.build {}), .invoke (.makeFiber ⟨1⟩ 0), .invoke (.register 0 0),
    .invoke (.start 0 (some 9)), .answer (.code 1), .invoke (.resume 0 true), .answer (.code 2)]

def hurried : List Move :=
  [.invoke (.build {}), .invoke (.makeFiber ⟨1⟩ 0), .invoke (.register 0 0),
    .invoke (.start 0 (some 9)), .invoke (.cancel 4), .answer (.code 1), .invoke (.resume 0 true),
    .invoke (.cancel 9), .answer (.code 2)]

set_option maxRecDepth 10000 in
theorem cancellation_advisory_hurried :
    (after unhurried).outcome? 0 = some (.ok ()) ∧
      (after hurried).outcome? 0 = some (.error .canceled) ∧
      initial.answers hurried = initial.answers unhurried ∧
      (after unhurried).Twin (after hurried) := by
  have runs : Runs initial unhurried (after unhurried) := runs_after (by decide +kernel)
  have extra : Extra unhurried hurried :=
    .same (.same (.same (.same (.canceled (.same (.same (.canceled (.same .nil))))))))
  have runs' : Runs initial hurried (after hurried) := runs_after (by decide +kernel)
  obtain ⟨last', _, unique, answered, _, _, twin, _⟩ := cancellation_advisory .initial runs extra
  obtain rfl := unique _ runs'
  exact ⟨by decide +kernel, by decide +kernel, answered, twin⟩

end Machine

end FiberBridge
