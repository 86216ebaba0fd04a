import FiberBridge.Proofs.Advisory
import FiberBridge.Proofs.Attribution
import FiberBridge.Proofs.Lifetimes
import FiberBridge.Proofs.Locks
import FiberBridge.Proofs.Lookup

namespace FiberBridge

def Event.passing : Event → Bool
  | .read _ _ => true
  | .told _ _ => true
  | .called _ _ => false
  | .native _ => false
  | .script _ _ => false

def Milestone.flag? : Milestone → Option Bool
  | .entered canceled => some canceled
  | .returned _ _ canceled => some canceled
  | _ => none

theorem Milestone.canceled_cause {id : ScriptId} {x : Milestone}
    (verdict : x.verdict id = some (.error .canceled)) :
    x.arms = true ∨ x.flag? = some true ∨ x = .failed .canceled := by
  cases x with
  | armed r canceled => exact .inl rfl
  | entered canceled =>
    cases canceled with
    | true => exact .inr (.inl rfl)
    | false => cases verdict
  | returned wasStart result canceled =>
    cases canceled with
    | true => exact .inr (.inl rfl)
    | false => cases result <;> cases verdict
  | failed e =>
    cases verdict
    exact .inr (.inr rfl)
  | torn => cases verdict

theorem Status.startable_iff {status : Status} :
    status.startable = true ↔ status = .created ∨ status = .terminated := by
  cases status <;> simp [Status.startable]

namespace Machine

variable {m n next later : Machine} {s : ScriptKey} {reaction : Reaction}

def shown (m : Machine) (s : ScriptKey) : Status :=
  Status.ofOrdinal (m.fibers.get (m.scripts.get s).fiber).ordinal

def Passes (m n : Machine) : Prop :=
  ∃ news, n = { m with events := news ++ m.events } ∧ ∀ e ∈ news, e.passing = true

namespace Passes

theorem refl : m.Passes m := ⟨[], rfl, List.forall_mem_nil _⟩

theorem log (passes : m.Passes n) {e : Event} (passing : e.passing = true) : m.Passes (n.log e) := by
  obtain ⟨news, rfl, all⟩ := passes
  refine ⟨e :: news, rfl, ?_⟩
  intro e' present
  rcases List.mem_cons.mp present with rfl | present
  · exact passing
  · exact all e' present

theorem status (live : (m.scripts.get s).disposed = false) : m.Passes (m.status s).1 := by
  have alive : ¬ (m.scripts.get s).disposed = true := by simp [live]
  unfold Machine.status
  rw [if_neg alive]
  unfold readStatus
  dsimp only
  split
  · exact refl.log rfl
  · exact (refl.log rfl).log rfl

theorem still (passes : m.Passes n) (reached : Reachable m) : n.sweep = n := by
  obtain ⟨news, rfl, _⟩ := passes
  exact Swept.still (fun s made => reached.swept s made) fun c made => reached.relieved c made

end Passes

theorem start_ended {token : Option TokenKey} (ended : (m.scripts.get s).disposed) :
    m.start s token = (m, .returned (.keyed (.error (.useAfterDispose (m.idOf s))))) := by
  unfold start
  rw [status_disposed ended]
  rfl

theorem start_unready {token : Option TokenKey} (live : (m.scripts.get s).disposed = false)
    (unready : (m.shown s).startable = false) :
    m.start s token =
      ((m.status s).1, .returned (.keyed (.error (.invalidState (m.idOf s) (m.shown s))))) := by
  obtain ⟨n, looked, core, _⟩ := status_live live
  have scripts : n.scripts = m.scripts := congrArg Core.scripts core
  unfold shown at unready
  unfold start idOf shown
  rw [looked]
  simp only [unready, Bool.false_eq_true, if_false, scripts]
  rfl

theorem start_ready {token : Option TokenKey} (live : (m.scripts.get s).disposed = false)
    (ready : (m.shown s).startable = true) : ∃ q, (m.start s token).2 = .call q := by
  obtain ⟨n, looked, _, _⟩ := status_live live
  unfold shown at ready
  unfold start
  rw [looked]
  simp only [ready, if_true]
  exact ⟨_, rfl⟩

theorem start_cases (m : Machine) (s : ScriptKey) (token : Option TokenKey) :
    ((m.scripts.get s).disposed = true ∧
        m.start s token = (m, .returned (.keyed (.error (.useAfterDispose (m.idOf s)))))) ∨
      ((m.scripts.get s).disposed = false ∧ (m.shown s).startable = false ∧
        m.start s token =
          ((m.status s).1, .returned (.keyed (.error (.invalidState (m.idOf s) (m.shown s)))))) ∨
      ((m.scripts.get s).disposed = false ∧ (m.shown s).startable = true ∧
        ∃ q, (m.start s token).2 = .call q) := by
  cases ended : (m.scripts.get s).disposed with
  | true => exact .inl ⟨rfl, start_ended ended⟩
  | false =>
    cases ready : (m.shown s).startable with
    | false => exact .inr (.inl ⟨rfl, rfl, start_unready ended ready⟩)
    | true => exact .inr (.inr ⟨rfl, rfl, start_ready ended ready⟩)

theorem start_useAfterDispose_iff {token : Option TokenKey}
    (step : Step m (.invoke (.start s token)) next reaction) :
    reaction = .returned (.keyed (.error (.useAfterDispose (m.idOf s)))) ↔
      (m.scripts.get s).disposed = true := by
  obtain ⟨_, _, rfl⟩ := step.invoked
  change (m.start s token).2 = _ ↔ _
  rcases start_cases m s token with ⟨ended, same⟩ | ⟨live, _, same⟩ | ⟨live, _, q, called⟩
  · rw [same]
    exact ⟨fun _ => ended, fun _ => rfl⟩
  · simp [same, live]
  · simp [called, live]

theorem start_invalidState_iff {token : Option TokenKey} {status : Status}
    (step : Step m (.invoke (.start s token)) next reaction) :
    reaction = .returned (.keyed (.error (.invalidState (m.idOf s) status))) ↔
      (m.scripts.get s).disposed = false ∧ status = m.shown s ∧ status ≠ .created ∧
        status ≠ .terminated := by
  obtain ⟨_, _, rfl⟩ := step.invoked
  change (m.start s token).2 = _ ↔ _
  have startable := @Status.startable_iff (m.shown s)
  rcases start_cases m s token with ⟨ended, same⟩ | ⟨live, unready, same⟩ | ⟨live, ready, q, called⟩
  · simp [same, ended]
  · rw [unready] at startable
    simp only [Bool.false_eq_true, false_iff, not_or] at startable
    rw [same]
    constructor
    · intro told
      cases told
      exact ⟨live, rfl, startable⟩
    · rintro ⟨_, rfl, _⟩
      rfl
  · rw [ready] at startable
    have either := startable.mp rfl
    constructor
    · intro told
      rw [called] at told
      cases told
    · rintro ⟨_, rfl, fresh, ended⟩
      exact absurd either (not_or.mpr ⟨fresh, ended⟩)

theorem start_refused {token : Option TokenKey} {e : BridgeError} (reached : Reachable m)
    (step : Step m (.invoke (.start s token)) next reaction)
    (refused : reaction = .returned (.keyed (.error e))) : m.Passes next := by
  obtain ⟨_, rfl, rfl⟩ := step.invoked
  change (m.start s token).2 = _ at refused
  change m.Passes (m.start s token).1.sweep
  rcases start_cases m s token with ⟨_, same⟩ | ⟨live, _, same⟩ | ⟨_, _, q, called⟩
  · rw [same, reached.still]
    exact .refl
  · have passes := Passes.status live
    rw [same, passes.still reached]
    exact passes
  · rw [called] at refused
    cases refused

inductive Cause (m : Machine) (s : ScriptKey) : Move → Milestone → Prop where
  | start {token : Option TokenKey} (live : (m.scripts.get s).disposed = false) :
    Cause m s (.invoke (.start s token)) (.armed m.runs.size (m.isCanceled token))
  | resume {move : Move} (live : (m.scripts.get s).disposed = false) :
    Cause m s move (.entered (m.tokenCanceled s))
  | failure {move : Move} {e : BridgeError} : Cause m s move (.failed e)
  | result {frame : Frame} {rest : List Frame} {wasStart : Bool} {code : Int32}
      (top : m.stack = frame :: rest) (call : frame.nativeCall? = some (s, wasStart)) :
    Cause m s (.answer (.code code))
      (.returned wasStart (CallResult.ofCode code) (m.tokenCanceled s))
  | release {dropped : Bool} {rest : List Frame} (top : m.stack = .disposing s dropped :: rest) :
    Cause m s (.answer .done) .torn

theorem fate_cause {move : Move} {x : Milestone} (present : (s, x) ∈ m.fate move) :
    m.Cause s move x := by
  have resumed {s' : ScriptKey} (present : (s, x) ∈ m.resumeFate s') : m.Cause s move x := by
    unfold resumeFate at present
    split at present
    · cases present
    · rename_i live
      cases List.mem_singleton.mp present
      exact .resume (by simpa using live)
  have failed {s' : ScriptKey} {e : BridgeError} (present : (s, x) ∈ [(s', Milestone.failed e)]) :
      m.Cause s move x := by
    cases List.mem_singleton.mp present
    exact .failure
  have commanded {b : BridgeKey} {id : ScriptId} {name : ByteArray} {ambient : Bool}
      (present : (s, x) ∈ m.commandFate b id name ambient) : m.Cause s move x := by
    unfold commandFate at present
    split at present
    · exact failed present
    · cases present
  have raised {b : BridgeKey} {id : ScriptId} {description : String}
      (present : (s, x) ∈ m.raiseFate b id description) : m.Cause s move x := by
    unfold raiseFate at present
    split at present
    · exact failed present
    · cases present
  cases move with
  | invoke op =>
    change (s, x) ∈ m.opFate op at present
    cases op with
    | start s' token =>
      simp only [opFate, startFate] at present
      split at present
      · rename_i ready
        cases List.mem_singleton.mp present
        exact .start (by simpa using (Bool.and_eq_true_iff.mp ready).1)
      · cases present
    | resume s' byHandle => exact resumed present
    | fail s' e => exact failed present
    | command b id name word ambient => exact commanded present
    | error b id description => exact raised present
    | commandUpcall id name length word ambient =>
      simp only [opFate] at present
      split at present
      · exact commanded present
      · cases present
    | errorUpcall id description =>
      simp only [opFate] at present
      split at present
      · exact raised present
      · cases present
    | pollTask t =>
      simp only [opFate, waitFate] at present
      split at present
      · split at present
        · exact resumed present
        · cases present
      · cases present
    | _ => cases present
  | answer reply =>
    unfold fate at present
    cases top : m.stack with
    | nil => simp [top] at present
    | cons frame rest =>
      simp only [top] at present
      unfold replyFate at present
      split at present
      · cases List.mem_singleton.mp present
        exact .result top rfl
      · cases List.mem_singleton.mp present
        exact .result top rfl
      · cases List.mem_singleton.mp present
        exact .release top
      · split at present
        · exact resumed present
        · cases present
      · exact resumed present
      · dsimp only at present
        split at present
        · exact resumed present
        · cases present
      · exact failed present
      · cases present
  | unwind p =>
    unfold fate at present
    cases top : m.stack with
    | nil => simp [top] at present
    | cons frame rest =>
      simp only [top] at present
      unfold unwindFate at present
      split at present
      · exact failed present
      · exact failed present
      · cases present

theorem fate_flag {move : Move} {x : Milestone} {canceled : Bool} (present : (s, x) ∈ m.fate move)
    (flag : x.flag? = some canceled) : canceled = m.tokenCanceled s := by
  -- Only an entered resume and a native call that returned look at the token.
  cases fate_cause present with
  | resume live => exact (Option.some.inj flag).symm
  | result top call => exact (Option.some.inj flag).symm
  | _ => cases flag

theorem isCanceled_grows {moves : List Move} {token : Option TokenKey} (reached : Reachable m)
    (runs : Runs m moves later) (canceled : m.isCanceled token = true) :
    later.isCanceled token = true := by
  induction runs with
  | nil => exact canceled
  | @cons m middle later move moves reaction step rest ih =>
    refine ih (reached.step step) ?_
    cases token with
    | none => cases canceled
    | some t =>
      have present : t ∈ m.canceled := by simpa [isCanceled] using canceled
      simp [isCanceled, step_tokens reached.bounded step, present]

theorem Runs.runs_last {moves : List Move} (reached : Reachable m) (runs : Runs m moves later) :
    m.core.RunsLast later.core := by
  induction runs with
  | nil => exact fun _ made => ⟨made, rfl, id⟩
  | @cons m middle later move moves reaction step rest ih =>
    intro r made
    have one : m.core.RunsLast middle.core := (step_path reached.steady step).preserves
      (m.core.RunsLast ·) (fun before change r made => by
        obtain ⟨there, own, settled⟩ := before r made
        obtain ⟨there', own', settled'⟩ := change.runs_last r there
        exact ⟨there', own'.trans own, settled' ∘ settled⟩) fun _ made => ⟨made, rfl, id⟩
    obtain ⟨there, own, settled⟩ := one r made
    obtain ⟨there', own', settled'⟩ := ih (reached.step step) r there
    exact ⟨there', own'.trans own, settled' ∘ settled⟩

theorem Runs.pending_before {moves : List Move} {r : RunKey} (reached : Reachable m)
    (runs : Runs m moves later) (made : r < m.runs.size)
    (pending : (later.runs.get r).outcome = none) : (m.runs.get r).outcome = none := by
  cases outcome : (m.runs.get r).outcome with
  | none => rfl
  | some o =>
    have settled : (m.core.runs.get r).outcome.isSome := by
      rw [core_runs, outcome]
      rfl
    have kept := (runs.runs_last reached r made).2.2 settled
    rw [core_runs, pending] at kept
    cases kept

-- What canceled the run that was current and pending: its own token, a failure of that name, or a
-- later start of the script.
theorem Runs.canceled_cause {moves : List Move} {r : RunKey} (reached : Reachable m)
    (runs : Runs m moves later) (current : (m.scripts.get s).run = some r)
    (pending : (m.runs.get r).outcome = none)
    (canceled : (later.runs.get r).outcome = some (.error .canceled)) :
    later.isCanceled (m.scripts.get s).token = true ∨ (s, .failed .canceled) ∈ m.fates moves ∨
      ∃ r' flag, (s, .armed r' flag) ∈ m.fates moves := by
  induction runs with
  | nil =>
    rw [pending] at canceled
    cases canceled
  | @cons m middle later move moves reaction step rest ih =>
    obtain ⟨made, own⟩ := reached.linked.current s r current
    have onward := reached.step step
    rw [fates_cons step]
    have decided := step_outcome reached step made
    rw [pending, Option.none_or] at decided
    have own : (m.runs.get r).script = s := own
    rw [own] at decided
    cases outcome : (middle.runs.get r).outcome with
    | none =>
      rcases rearmed_path (step_path reached.steady step) s with
        ⟨run, token⟩ | ⟨_, r', flag, _, armed, _⟩
      · have token : (middle.scripts.get s).token = (m.scripts.get s).token := token
        rw [← token]
        rcases ih onward (run.trans current) outcome canceled with still | failed | ⟨r', flag, armed⟩
        · exact .inl still
        · exact .inr (.inl (List.mem_append_right _ failed))
        · exact .inr (.inr ⟨r', flag, List.mem_append_right _ armed⟩)
      · exact .inr (.inr ⟨r', flag, List.mem_append_left _ armed⟩)
    | some o =>
      have kept := runs_outcome? onward rest (r := r) (o := o) (by
        unfold Machine.outcome?
        simp only [outcome])
      have same : o = .error .canceled := by
        unfold Machine.outcome? at kept
        simp only [canceled] at kept
        exact (Option.some.inj kept).symm
      rw [outcome, same] at decided
      obtain ⟨⟨s', x⟩, present, verdict⟩ := List.exists_of_findSome?_eq_some decided.symm
      unfold befalls at verdict
      split at verdict
      · rename_i this
        obtain rfl : s' = s := this
        rcases Milestone.canceled_cause verdict with arms | flag | rfl
        · cases x with
          | armed r' flag => exact .inr (.inr ⟨r', flag, List.mem_append_left _ present⟩)
          | _ => cases arms
        · have found : m.tokenCanceled s' = true := (fate_flag present flag).symm
          exact .inl (isCanceled_grows reached (.cons step rest) found)
        · exact .inr (.inl (List.mem_append_left _ present))
      · cases verdict

theorem Runs.same_token {moves : List Move} {r : RunKey} (reached : Reachable m)
    (runs : Runs m moves later) (current : (m.scripts.get s).run = some r)
    (pending : (later.runs.get r).outcome = none) :
    (later.scripts.get s).run = some r ∧
      (later.scripts.get s).token = (m.scripts.get s).token := by
  induction runs with
  | nil => exact ⟨current, rfl⟩
  | @cons m middle later move moves reaction step rest ih =>
    obtain ⟨made, own⟩ := reached.linked.current s r current
    have own : (m.runs.get r).script = s := own
    have onward := reached.step step
    have there := (Runs.cons step .nil).runs_last reached r made
    have undecided : (middle.runs.get r).outcome = none := rest.pending_before onward there.1 pending
    rcases rearmed_path (step_path reached.steady step) s with
      ⟨run, token⟩ | ⟨_, r', flag, _, armed, _⟩
    · obtain ⟨run', token'⟩ := ih onward (run.trans current) pending
      exact ⟨run', token'.trans token⟩
    · -- Another start would have canceled it.
      have decided := step_outcome reached step made
      rw [undecided, own] at decided
      have none_befalls := (Option.or_eq_none_iff.mp decided.symm).2
      have spared := List.findSome?_eq_none_iff.mp none_befalls _ armed
      simp [befalls, Milestone.verdict] at spared

theorem entered_cancels {move : Move} {r : RunKey} {flag : Bool} (reached : Reachable m)
    (step : Step m move next reaction) (current : (m.scripts.get s).run = some r)
    (pending : (m.runs.get r).outcome = none)
    (canceled : m.isCanceled (m.scripts.get s).token = true)
    (entered : m.fate move = [(s, .entered flag)]) :
    (next.runs.get r).outcome = some (.error .canceled) := by
  have found : flag = m.tokenCanceled s := fate_flag (entered ▸ List.mem_singleton_self _) rfl
  have canceled : m.tokenCanceled s = true := canceled
  have made := (reached.linked.current s r current).1
  rw [step_judges reached step entered made, if_pos current, pending, found, canceled]
  rfl

theorem resume_ended {who : Resumer} (ended : (m.scripts.get s).disposed) :
    m.resume s who = m.refuseResume s who := by
  unfold resume
  dsimp only
  rw [if_pos ended]

theorem resume_useAfterDispose_iff {byHandle : Bool}
    (step : Step m (.invoke (.resume s byHandle)) next reaction) :
    reaction = .returned (.resumed (.error (.useAfterDispose (m.idOf s)))) ↔
      (m.scripts.get s).disposed = true := by
  obtain ⟨_, _, rfl⟩ := step.invoked
  change (m.resume s (.host byHandle)).2 = _ ↔ _
  cases ended : (m.scripts.get s).disposed with
  | true =>
    rw [resume_ended ended]
    exact ⟨fun _ => rfl, fun _ => rfl⟩
  | false => simp [resume, ended, ask]

theorem resume_refused {byHandle : Bool} {e : BridgeError} (reached : Reachable m)
    (step : Step m (.invoke (.resume s byHandle)) next reaction)
    (refused : reaction = .returned (.resumed (.error e))) : next = m := by
  obtain ⟨_, rfl, rfl⟩ := step.invoked
  change (m.resume s (.host byHandle)).2 = _ at refused
  change (m.resume s (.host byHandle)).1.sweep = m
  cases ended : (m.scripts.get s).disposed with
  | true =>
    rw [resume_ended ended]
    exact reached.still
  | false => simp [resume, ended, ask] at refused

def SparesScripts (m : Machine) (after : Machine × Reaction) : Prop :=
  after.1.runs = m.runs ∧ after.1.scripts = m.scripts ∧ ∀ q, after.2 = .call q → q.native = false

theorem refuseResume_spares (m : Machine) (s : ScriptKey) (who : Resumer) :
    m.SparesScripts (m.refuseResume s who) := by
  have completed (n : Machine) (origin : Origin) : n.SparesScripts (n.complete origin) := by
    cases origin <;> exact ⟨rfl, rfl, fun _ bad => nomatch bad⟩
  have delivered (n : Machine) (b : BridgeKey) (told : Option ScriptKey) (e : BridgeError)
      (origin : Origin) : n.SparesScripts (n.deliver b told e origin none) := by
    unfold deliver
    dsimp only
    split
    · exact completed ((n.errorHandler b).1.tell (.unhandled e)) origin
    · refine ⟨rfl, rfl, ?_⟩
      intro q called
      cases called
      rfl
  cases who with
  | host byHandle => exact ⟨rfl, rfl, fun _ bad => nomatch bad⟩
  | command c => exact delivered (m.tell (.reporting _)) c.bridge (some c.script) _ c.origin
  | task t => exact delivered m _ (some s) _ _

theorem unlock_noted {events : List Event} (l : Lock) (held : m.held = [])
    (deadlocked : m.deadlocked = false) :
    ({ m.lock l with events } : Machine).unlock l = { m with events } := by
  cases m
  simp only at held deadlocked
  subst held deadlocked
  simp [lock, unlock]

theorem fail_idle {e : BridgeError} (reached : Reachable m)
    (idle : ∀ r, (m.scripts.get s).run = some r → (m.runs.get r).outcome.isSome) :
    m.fail s e = (m.mark s (.failed e)).tell (.noRunToFail (m.idOf s) e) := by
  obtain ⟨held, deadlocked, _⟩ := reached.unlocked
  unfold fail
  dsimp only
  split
  · rename_i r current
    have settled := idle r current
    split
    · exact unlock_noted _ held deadlocked
    · rename_i unsettled
      exact absurd settled unsettled
  · exact unlock_noted _ held deadlocked

theorem fail_refused {e : BridgeError} (reached : Reachable m)
    (idle : ∀ r, (m.scripts.get s).run = some r → (m.runs.get r).outcome.isSome)
    (step : Step m (.invoke (.fail s e)) next reaction) :
    reaction = .returned .done ∧
      next = (m.mark s (.failed e)).tell (.noRunToFail (m.idOf s) e) := by
  obtain ⟨_, rfl, rfl⟩ := step.invoked
  refine ⟨rfl, ?_⟩
  change (m.fail s e).sweep = _
  rw [fail_idle reached idle]
  exact Swept.still (fun s made => reached.swept s made) fun c made => reached.relieved c made

theorem dispose_ended {dropped : Bool} (ended : (m.scripts.get s).disposed) :
    m.dispose s dropped = (m, .returned .done) := by
  unfold dispose
  dsimp only
  rw [if_pos ended]
  rfl

theorem dispose_again (reached : Reachable m) (ended : (m.scripts.get s).disposed)
    (step : Step m (.invoke (.dispose s)) next reaction) :
    reaction = .returned .done ∧ next = m := by
  obtain ⟨_, rfl, rfl⟩ := step.invoked
  change (m.dispose s false).2 = _ ∧ (m.dispose s false).1.sweep = m
  rw [dispose_ended ended]
  exact ⟨rfl, reached.still⟩

theorem dropHandle_again (reached : Reachable m) (ended : (m.scripts.get s).disposed)
    (step : Step m (.invoke (.dropHandle s)) next reaction) :
    reaction = .returned .done ∧
      Parts s (m.setScript s fun script => { script with owned := false }) next := by
  obtain ⟨admitted, rfl, rfl⟩ := step.invoked
  have inside : s < m.scripts.size := (reached.steady.owned_open admitted.1).made
  have still : ((m.setScript s fun script => { script with owned := false }).scripts.get s).disposed := by
    change ((m.scripts.update s _).get s).disposed
    rw [Slots.get_update, if_pos rfl]
    exact ended
  change (Machine.dispose _ s true).2 = _ ∧ Parts s _ (Machine.dispose _ s true).1.sweep
  rw [dispose_ended still]
  refine ⟨rfl, SweptBut.parts ?_ ?_⟩
  · intro s' other made
    have elsewhere : (m.scripts.update s fun script => { script with owned := false }).get s' =
        m.scripts.get s' := by
      rw [Slots.get_update, if_neg (Ne.symm other)]
    have made : s' < (m.scripts.update s fun script => { script with owned := false }).size := made
    rw [Slots.size_update inside] at made
    have swept := reached.swept s' made
    unfold scriptHeld at swept
    change ((m.scripts.update s _).get s').freed ∨ scriptHeld _ s' = true
    unfold scriptHeld
    change _ ∨ ((((m.scripts.update s _).get s').owned || 0 < ((m.scripts.update s _).get s').refs) ||
      _ || _) = true
    rw [elsewhere]
    exact swept
  · exact Nat.lt_of_lt_of_le inside (Slots.size_le_update ..)

-- The fiber `f` that was brought is being released; nothing else has changed.
structure TurnedAway (m : Machine) (b : BridgeKey) (f : FiberKey) (next : Machine) : Prop where
  bridges : next.bridges = m.bridges
  scripts : ∀ s, s ≠ m.scripts.size → next.scripts.get s = m.scripts.get s
  fibers : ∀ f', f' ≠ f → next.fibers.get f' = m.fibers.get f'
  runs : next.runs = m.runs
  tasks : next.tasks = m.tasks
  canceled : next.canceled = m.canceled
  stack : next.stack = .refusing b m.scripts.size :: m.stack
  deeds : next.deeds = .called (.dispose f) :: m.deeds

theorem swept_refuse {b : BridgeKey} {f : FiberKey} (reached : Reachable m)
    (refused : n.core = m.core.refuse b f) : n.Swept := by
  have stack : n.stack = .refusing b m.scripts.size :: m.stack := congrArg Core.stack refused
  have tasks : n.tasks = m.tasks := congrArg Core.tasks refused
  have scripts : n.scripts = (m.core.refuse b f).scripts := congrArg Core.scripts refused
  have size : n.scripts.size = m.scripts.size + 1 := scripts ▸ m.core.size_refuse b f
  intro s made
  by_cases new : m.scripts.size = s
  · right
    unfold scriptHeld
    rw [stack]
    simp [Frame.holdsScript, new]
  · have old : s < m.scripts.size := by omega
    have same : n.scripts.get s = m.scripts.get s := by
      rw [scripts, Core.refuse_script]
      exact if_neg new
    rcases reached.swept s old with gone | held
    · left
      rw [same]
      exact gone
    · right
      unfold scriptHeld at held ⊢
      rw [same, stack, tasks, List.any_cons]
      simp only [Bool.or_eq_true] at held ⊢
      rcases held with (owner | frame) | task
      · exact .inl (.inl owner)
      · exact .inl (.inr (.inr frame))
      · exact .inr task

theorem register_turnedAway {b : BridgeKey} {f : FiberKey} (reached : Reachable m)
    (step : Step m (.invoke (.register b f)) next reaction)
    (taken : Registered m b (m.fibers.get f).id s) :
    reaction = .call (.dispose f) ∧ m.TurnedAway b f next := by
  have found := (find?_iff_registered reached).mpr taken
  obtain ⟨_, rfl, rfl⟩ := step.invoked
  rw [launch_register]
  rcases register_core m b f with ⟨taken, refused, called⟩ | ⟨alone, _⟩
  · refine ⟨called, ?_⟩
    -- What the core does not show of a refusal: no registry is written, and no token.
    have rest : (m.register b f).1.bridges = m.bridges ∧ (m.register b f).1.canceled = m.canceled := by
      obtain ⟨s', rival⟩ := Option.isSome_iff_exists.mp taken
      unfold register
      dsimp only
      split
      · exact ⟨rfl, rfl⟩
      · rename_i alone
        cases rival.symm.trans alone
    generalize (m.register b f).1 = n at refused rest ⊢
    have swept := swept_refuse reached refused
    have core : n.sweep.core = m.core.refuse b f := swept.core.trans refused
    have size : n.scripts.size = m.scripts.size + 1 :=
      (congrArg (fun c : Core => c.scripts.size) refused).trans (m.core.size_refuse b f)
    have parts : Parts m.scripts.size n n.sweep :=
      SweptBut.parts (fun s _ made => swept s made)
        (Nat.lt_of_lt_of_eq (Nat.lt_succ_self _) size.symm)
    refine ⟨parts.bridges.trans rest.1, ?_, ?_, congrArg Core.runs core, congrArg Core.tasks core,
      parts.canceled.trans rest.2, congrArg Core.stack core, ?_⟩
    · intro s other
      have scripts : n.sweep.scripts = (m.core.refuse b f).scripts := congrArg Core.scripts core
      rw [scripts, Core.refuse_script]
      exact if_neg (Ne.symm other)
    · intro f' other
      have fibers : n.sweep.fibers = (m.core.refuse b f).fibers := congrArg Core.fibers core
      rw [fibers]
      exact (Slots.get_update ..).trans (if_neg (Ne.symm other))
    · have deeds : n.sweep.core.deeds = (m.core.refuse b f).deeds := congrArg Core.deeds core
      exact deeds
  · rw [rival?_eq reached.filed, found] at alone
    cases alone

theorem refusing_over {b : BridgeKey} {k : ScriptKey} {rest : List Frame} {move : Move}
    (reached : Reachable m) (top : m.stack = .refusing b k :: rest)
    (step : Step m move next reaction) (back : move = .answer .done ∨ ∃ p, move = .unwind p) :
    Parts k { m with stack := rest } next := by
  have inside : k < m.scripts.size :=
    (top_open reached.steady top (s := k) (by simp [Frame.holdsScript])).made
  have swept : SweptBut { m with stack := rest } k := by
    intro s other made
    rcases reached.swept s made with gone | held
    · exact .inl gone
    · right
      unfold scriptHeld at held ⊢
      simpa [top, Frame.holdsScript, Ne.symm other] using held
  rcases back with rfl | ⟨p, rfl⟩
  · obtain ⟨after, continued, rfl, _⟩ := step.answered_at top
    obtain rfl := Option.some.inj continued
    exact swept.parts inside
  · obtain ⟨rfl, _⟩ := step.unwound_at top
    exact swept.parts inside

theorem Runs.deeds_stay {moves : List Move} {d : Deed} (reached : Reachable m)
    (runs : Runs m moves later) (done : d ∈ m.deeds) : d ∈ later.deeds := by
  induction runs with
  | nil => exact done
  | cons step rest ih =>
    exact ih (reached.step step) ((Core.Furnished.path (step_path reached.steady step)).deeds _ done)

theorem turnedAway_once {b : BridgeKey} {f : FiberKey} {moves : List Move} (reached : Reachable m)
    (step : Step m (.invoke (.register b f)) next reaction) (away : m.TurnedAway b f next)
    (runs : Runs next moves later) :
    m.deeds.count (.called (.dispose f)) = 0 ∧ later.deeds.count (.called (.dispose f)) = 1 := by
  have held : m.core.Unused f := .inl step.invoked.1.2.1
  refine ⟨List.count_eq_zero.mpr (reached.protocol.fresh_of_unused held), ?_⟩
  have released : .called (.dispose f) ∈ next.deeds := by
    rw [away.deeds]
    exact List.mem_cons_self
  have onward := reached.step step
  exact count_released (runs.reachable onward) (runs.deeds_stay onward released)

theorem Runs.idOf_stays {moves : List Move} (reached : Reachable m) (runs : Runs m moves later)
    (made : s < m.scripts.size) : later.idOf s = m.idOf s := by
  induction runs with
  | nil => rfl
  | cons step rest ih =>
    have lasts := Core.Lasts.path made (step_path reached.steady step)
    exact (ih (reached.step step) lasts.made).trans lasts.id

def Resumes (m : Machine) (move : Move) (s : ScriptKey) : Prop :=
  ∃ flag, m.fate move = [(s, .entered flag)]

theorem resumes_of_live {byHandle : Bool} (live : (m.scripts.get s).disposed = false) :
    m.Resumes (.invoke (.resume s byHandle)) s := by
  refine ⟨m.tokenCanceled s, ?_⟩
  change m.resumeFate s = _
  unfold resumeFate
  rw [live]
  rfl

-- The current run `r` of `s` and the token it was started with, on from `m`: nothing but that token, a
-- failure of that name or a later start cancels it, and that token does at the next resume.
structure Obeys (m : Machine) (s : ScriptKey) (r : RunKey) (token : Option TokenKey)
    (moves : List Move) (later : Machine) : Prop where
  spared : (later.runs.get r).outcome = some (.error .canceled) → later.isCanceled token = true ∨
    (s, .failed .canceled) ∈ m.fates moves ∨ ∃ r' flag, (s, .armed r' flag) ∈ m.fates moves
  kept : (later.runs.get r).outcome = none →
    (later.scripts.get s).run = some r ∧ (later.scripts.get s).token = token
  stopped : (later.runs.get r).outcome = none → later.isCanceled token = true →
    ∀ move last reaction, Step later move last reaction → later.Resumes move s →
      (last.runs.get r).outcome = some (.error .canceled)

theorem Runs.obeys {moves : List Move} {r : RunKey} (reached : Reachable m)
    (runs : Runs m moves later) (current : (m.scripts.get s).run = some r)
    (pending : (m.runs.get r).outcome = none) :
    m.Obeys s r (m.scripts.get s).token moves later := by
  refine ⟨?_, ?_, ?_⟩
  · intro canceled
    exact runs.canceled_cause reached current pending canceled
  · intro still
    exact runs.same_token reached current still
  · rintro still canceled move last reaction step ⟨flag, entered⟩
    obtain ⟨run, token⟩ := runs.same_token reached current still
    rw [← token] at canceled
    exact entered_cancels (runs.reachable reached) step run still canceled entered

-- Whatever a refused operation was called inside of, and whatever it was given: the script, its run,
-- its token, its registry and its fiber are as they were, and stay so until something else is done.
theorem refusals_change_nothing (reached : Reachable m) :
    (∀ s token next reaction, Step m (.invoke (.start s token)) next reaction →
      (reaction = .returned (.keyed (.error (.useAfterDispose (m.idOf s)))) ↔
        (m.scripts.get s).disposed = true) ∧
      (∀ status, reaction = .returned (.keyed (.error (.invalidState (m.idOf s) status))) ↔
        (m.scripts.get s).disposed = false ∧ status = m.shown s ∧ status ≠ .created ∧
          status ≠ .terminated) ∧
      ∀ e, reaction = .returned (.keyed (.error e)) → m.Passes next ∧
        ∀ r moves later, (m.scripts.get s).run = some r → (m.runs.get r).outcome = none →
          Runs next moves later → next.Obeys s r (m.scripts.get s).token moves later) ∧
    (∀ s byHandle next reaction, Step m (.invoke (.resume s byHandle)) next reaction →
      (reaction = .returned (.resumed (.error (.useAfterDispose (m.idOf s)))) ↔
        (m.scripts.get s).disposed = true) ∧
      ((m.scripts.get s).disposed = false → m.Resumes (.invoke (.resume s byHandle)) s) ∧
      ∀ e, reaction = .returned (.resumed (.error e)) → next = m) ∧
    (∀ s who, (m.scripts.get s).disposed = true →
      m.resume s who = m.refuseResume s who ∧ m.SparesScripts (m.resume s who)) ∧
    (∀ b f s next reaction, Registered m b (m.fibers.get f).id s →
      Step m (.invoke (.register b f)) next reaction →
        reaction = .call (.dispose f) ∧ m.TurnedAway b f next ∧
        ∀ moves later, Runs next moves later →
          (m.deeds.count (.called (.dispose f)) = 0 ∧ later.deeds.count (.called (.dispose f)) = 1) ∧
          ∀ rest last back, later.stack = .refusing b m.scripts.size :: rest →
            Step later (.answer .done) last back →
              back = .returned (.keyed (.error (.duplicateScript (m.fibers.get f).id))) ∧
              Parts m.scripts.size { later with stack := rest } last ∧
              ∀ r, (later.scripts.get s).run = some r → last.runs.get r = later.runs.get r) ∧
    (∀ s e next reaction, (∀ r, (m.scripts.get s).run = some r → (m.runs.get r).outcome.isSome) →
      Step m (.invoke (.fail s e)) next reaction →
        reaction = .returned .done ∧
        next = (m.mark s (.failed e)).tell (.noRunToFail (m.idOf s) e)) ∧
    (∀ s next reaction, (m.scripts.get s).disposed = true →
      Step m (.invoke (.dispose s)) next reaction → reaction = .returned .done ∧ next = m) ∧
    (∀ s next reaction, (m.scripts.get s).disposed = true →
      Step m (.invoke (.dropHandle s)) next reaction → reaction = .returned .done ∧
        Parts s (m.setScript s fun script => { script with owned := false }) next) := by
  refine ⟨?_, ?_, ?_, ?_, ?_, ?_, ?_⟩
  · intro s token next reaction step
    refine ⟨start_useAfterDispose_iff step, fun status => start_invalidState_iff step, ?_⟩
    intro e refused
    have passes := start_refused reached step refused
    refine ⟨passes, ?_⟩
    intro r moves later current pending runs
    obtain ⟨news, rfl, _⟩ := passes
    exact runs.obeys (reached.step step) current pending
  · intro s byHandle next reaction step
    refine ⟨resume_useAfterDispose_iff step, resumes_of_live, ?_⟩
    intro e refused
    exact resume_refused reached step refused
  · intro s who ended
    rw [resume_ended ended]
    exact ⟨rfl, m.refuseResume_spares s who⟩
  · intro b f s next reaction taken step
    obtain ⟨called, away⟩ := register_turnedAway reached step taken
    refine ⟨called, away, ?_⟩
    intro moves later runs
    refine ⟨turnedAway_once reached step away runs, ?_⟩
    intro rest last back top step'
    have onward := reached.step step
    have there := runs.reachable onward
    have named := (refuse_registered reached step taken).2.2
    have id := runs.idOf_stays onward (registered_fiber step).1
    have parts := refusing_over there top step' (.inl rfl)
    refine ⟨?_, parts, ?_⟩
    · rw [refused_reaction top step', id, named]
    · intro r current
      refine parts.runs r ?_
      intro other
      have own := (there.linked.current s r current).2
      have own' := (there.linked.current m.scripts.size r other).2
      exact Nat.ne_of_lt taken.made (own.symm.trans own')
  · intro s e next reaction idle step
    exact fail_refused reached idle step
  · intro s next reaction ended step
    exact dispose_again reached ended step
  · intro s next reaction ended step
    exact dropHandle_again reached ended step

def startedTwice : List Move :=
  [.invoke (.build {}), .invoke (.makeFiber ⟨1⟩ 0), .invoke (.register 0 0),
    .invoke (.start 0 (some 1)), .invoke (.setOrdinal 0 1)]

def refusedOnce : List Move := startedTwice ++ [.invoke (.start 0 (some 2))]

def bothCanceled : List Move := [.answer (.code 1), .invoke (.cancel 2), .invoke (.cancel 1)]

set_option maxRecDepth 10000 in
theorem refusals_change_nothing_startedTwice :
    (after startedTwice).Passes (after refusedOnce) ∧
      ∀ last back, Step (after (refusedOnce ++ bothCanceled)) (.invoke (.resume 0 true)) last back →
        (last.runs.get 0).outcome = some (.error .canceled) := by
  have reached : Reachable (after startedTwice) :=
    (runs_after (by decide +kernel)).reachable .initial
  have onward : Runs (after startedTwice) [.invoke (.start 0 (some 2))] (after refusedOnce) :=
    runs_onward (by decide +kernel)
  obtain ⟨reaction, step⟩ := onward.single
  obtain ⟨starts, _⟩ := refusals_change_nothing reached
  obtain ⟨_, invalid, spared⟩ := starts 0 (some 2) _ reaction step
  have told : reaction = .returned (.keyed (.error (.invalidState ⟨1⟩ .running))) := by
    refine (invalid .running).mpr ⟨?_, ?_, ?_, ?_⟩ <;> decide +kernel
  obtain ⟨passes, obeys⟩ := spared _ told
  refine ⟨passes, ?_⟩
  intro last back resumed
  have runs : Runs (after refusedOnce) bothCanceled (after (refusedOnce ++ bothCanceled)) :=
    runs_onward (by decide +kernel)
  have current : ((after startedTwice).scripts.get 0).run = some 0 := by decide +kernel
  have pending : ((after startedTwice).runs.get 0).outcome = none := by decide +kernel
  obtain ⟨_, _, stopped⟩ := obeys 0 bothCanceled _ current pending runs
  refine stopped ?_ ?_ _ last back resumed ?_
  · decide +kernel
  · decide +kernel
  · exact resumes_of_live (by decide +kernel)

end Machine

end FiberBridge
