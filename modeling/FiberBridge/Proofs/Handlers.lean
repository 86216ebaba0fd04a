import FiberBridge.Proofs.Courses
import FiberBridge.Proofs.Notices

namespace FiberBridge

inductive Entry where
  | installed (kind : HandlerKind) (b : BridgeKey) (handler : Handler)
  | noticed (due : Due)

namespace Entry

-- The handler that was installed last; ledgers are read newest entry first.
def inForce (kind : HandlerKind) (b : BridgeKey) : List Entry → Handler
  | [] => .builtIn
  | installed kind' b' handler :: past =>
    if kind' = kind ∧ b' = b then handler else inForce kind b past
  | noticed _ :: past => inForce kind b past

def handed : List Entry → List Act
  | [] => []
  | installed .. :: past => handed past
  | noticed due :: past => due.notice.to (inForce due.notice.kind due.bridge past) :: handed past

variable {kind : HandlerKind} {b : BridgeKey} {past : List Entry}

theorem inForce_latest {handler : Handler} {later : List Entry}
    (latest : ∀ other, installed kind b other ∉ later) :
    inForce kind b (later ++ installed kind b handler :: past) = handler := by
  induction later with
  | nil => exact if_pos ⟨rfl, rfl⟩
  | cons entry later ih =>
    have rest := ih fun other present => latest other (List.mem_cons_of_mem _ present)
    cases entry with
    | noticed due => exact rest
    | installed kind' b' other =>
      have elsewhere : ¬ (kind' = kind ∧ b' = b) := by
        rintro ⟨rfl, rfl⟩
        exact latest other List.mem_cons_self
      exact (if_neg elsewhere).trans rest

theorem inForce_noticed (dues : List Due) :
    inForce kind b (dues.map noticed ++ past) = inForce kind b past := by
  induction dues with
  | nil => rfl
  | cons due dues ih => exact ih

theorem handed_noticed (dues : List Due) :
    handed (dues.map noticed ++ past) =
      dues.map (fun due => due.notice.to (inForce due.notice.kind due.bridge past)) ++ handed past := by
  induction dues with
  | nil => rfl
  | cons due dues ih =>
    simp only [List.map_cons, List.cons_append, handed, ih, inForce_noticed]

end Entry

def HandlerKind.install (b : BridgeKey) (handler : Handler) : HandlerKind → Op
  | .log => .setLog b handler
  | .error => .setError b handler

def Bridge.equip (bridge : Bridge) (handler : Handler) : HandlerKind → Bridge
  | .log => { bridge with log := handler }
  | .error => { bridge with error := handler }

theorem Bridge.handler_equip {bridge : Bridge} {handler : Handler} {kind kind' : HandlerKind} :
    (bridge.equip handler kind).handler kind' = if kind = kind' then handler else bridge.handler kind' := by
  cases kind <;> cases kind' <;> rfl

namespace Machine

variable {m next last : Machine} {move : Move} {moves : List Move} {reaction : Reaction}
  {past : List Entry}

def installations (m : Machine) : Move → List Entry
  | .invoke (.build setup) =>
    if setup.codec then
      [.installed .log m.bridges.size setup.log, .installed .error m.bridges.size setup.error]
    else []
  | .invoke (.setLog b handler) => [.installed .log b handler]
  | .invoke (.setError b handler) => [.installed .error b handler]
  | _ => []

def entries (m : Machine) (move : Move) : List Entry :=
  (m.dues move).reverse.map .noticed ++ m.installations move

def ledger : Machine → List Move → List Entry
  | _, [] => []
  | m, move :: moves =>
    (match m.advance? move with
      | some next => next.ledger moves
      | none => []) ++ m.entries move

structure Attends (m : Machine) (past : List Entry) : Prop where
  inForce : ∀ kind b, (m.bridges.get b).handler kind = Entry.inForce kind b past
  handed : m.handed = Entry.handed past

theorem handler_of_settings {n : Machine} (same : n.settings = m.settings) (kind : HandlerKind)
    (b : BridgeKey) : (n.bridges.get b).handler kind = (m.bridges.get b).handler kind :=
  bridge_of_settings same (·.handler kind) (fun _ => by cases kind <;> rfl) b

theorem install_bridges (kind : HandlerKind) (b : BridgeKey) (handler : Handler) :
    (m.launch (kind.install b handler)).1.bridges = m.bridges.update b (·.equip handler kind) := by
  cases kind <;> rfl

-- No other handler is replaced, neither the other one of the same bridge nor one of another bridge.
theorem install_handler (kind kind' : HandlerKind) (b b' : BridgeKey) (handler : Handler) :
    ((m.launch (kind.install b handler)).1.bridges.get b').handler kind' =
      if kind = kind' ∧ b = b' then handler else (m.bridges.get b').handler kind' := by
  rw [install_bridges, Slots.get_update]
  by_cases own : b = b'
  · rw [if_pos own, Bridge.handler_equip]
    simp only [own, and_true]
  · rw [if_neg own, if_neg fun both => own both.2]

theorem build_inForce (setup : Setup)
    (follows : ∀ kind b, (m.bridges.get b).handler kind = Entry.inForce kind b past)
    (kind : HandlerKind) (b : BridgeKey) :
    ((m.build setup).1.bridges.get b).handler kind =
      Entry.inForce kind b (m.installations (.invoke (.build setup)) ++ past) := by
  unfold build installations
  dsimp only
  cases setup.codec with
  | false => exact follows kind b
  | true =>
    rw [if_pos rfl, if_pos rfl]
    dsimp only [giveBack, tell, log]
    rw [Slots.get_add]
    by_cases own : m.bridges.size = b
    · rw [if_pos own]
      cases kind with
      | log => exact (if_pos ⟨rfl, own⟩).symm
      | error => exact (if_pos ⟨rfl, own⟩).symm
    · have elsewhere (kind' : HandlerKind) : ¬ (kind' = kind ∧ m.bridges.size = b) :=
        fun both => own both.2
      simp only [if_neg own, List.cons_append, List.nil_append, Entry.inForce, if_neg (elsewhere _)]
      exact follows kind b

theorem counted_handler (kind : HandlerKind) (b b' : BridgeKey) (clones : Nat → Nat) :
    ((m.bridges.update b' fun bridge => { bridge with clones := clones bridge.clones }).get b).handler
      kind = (m.bridges.get b).handler kind := by
  refine Slots.field_update (Bridge.handler · kind) ?_ ..
  intro bridge
  cases kind <;> rfl

theorem newContext_bridges (available : Bool) : (m.newContext available).1.bridges = m.bridges := by
  unfold newContext
  cases available <;> rfl

theorem installations_nil (sets : move.sets = false) : m.installations move = [] := by
  cases move with
  | answer reply => rfl
  | unwind p => rfl
  | invoke op =>
    cases op with
    | build setup => cases sets
    | setLog b handler => cases sets
    | setError b handler => cases sets
    | _ => rfl

theorem launch_inForce {op : Op} (sets : op.sets = true)
    (follows : ∀ kind b, (m.bridges.get b).handler kind = Entry.inForce kind b past)
    (kind : HandlerKind) (b : BridgeKey) : ((m.launch op).1.bridges.get b).handler kind =
      Entry.inForce kind b (m.installations (.invoke op) ++ past) := by
  have installed (kind' : HandlerKind) (b' : BridgeKey) (handler : Handler) :
      ((m.launch (kind'.install b' handler)).1.bridges.get b).handler kind =
        Entry.inForce kind b (.installed kind' b' handler :: past) := by
    rw [install_handler, follows]
    rfl
  cases op with
  | build setup => exact build_inForce setup follows kind b
  | setLog b' handler => exact installed .log b' handler
  | setError b' handler => exact installed .error b' handler
  | cloneBridge b' => exact (counted_handler kind b b' (· + 1)).trans (follows kind b)
  | dropBridge b' => exact (counted_handler kind b b' (· - 1)).trans (follows kind b)
  | newContext available =>
    have bridges : (m.launch (.newContext available)).1.bridges = m.bridges :=
      newContext_bridges available
    rw [bridges]
    exact follows kind b
  | cancel t => exact follows kind b
  | makeClock => exact follows kind b
  | advanceClock c frames => exact follows kind b
  | dropClock c => exact follows kind b
  | complete k => exact follows kind b
  | elapse millis => exact follows kind b
  | dropContext c => exact follows kind b
  | install b' => exact follows kind b
  | uninstall => exact follows kind b
  | _ => cases sets

theorem step_inForce (step : Step m move next reaction)
    (follows : ∀ kind b, (m.bridges.get b).handler kind = Entry.inForce kind b past)
    (kind : HandlerKind) (b : BridgeKey) :
    (next.bridges.get b).handler kind = Entry.inForce kind b (m.installations move ++ past) := by
  cases sets : move.sets with
  | false =>
    rw [installations_nil sets]
    exact (handler_of_settings (step_settings step sets) kind b).trans (follows kind b)
  | true =>
    cases move with
    | answer reply => cases sets
    | unwind p => cases sets
    | invoke op =>
      obtain ⟨_, rfl, _⟩ := step.invoked
      rw [handler_of_settings sweep_tells.settings]
      exact launch_inForce sets follows kind b

theorem installs_or_notices (m : Machine) (move : Move) : m.installations move = [] ∨
    m.dues move = [] ∧ ∀ past, Entry.handed (m.installations move ++ past) = Entry.handed past := by
  cases move with
  | answer reply => exact .inl rfl
  | unwind p => exact .inl rfl
  | invoke op =>
    cases op with
    | build setup =>
      refine .inr ⟨rfl, fun past => ?_⟩
      unfold installations
      dsimp only
      cases setup.codec <;> rfl
    | setLog b handler => exact .inr ⟨rfl, fun past => rfl⟩
    | setError b handler => exact .inr ⟨rfl, fun past => rfl⟩
    | _ => exact .inl rfl

theorem Attends.step (attends : m.Attends past) (step : Step m move next reaction) :
    next.Attends (m.entries move ++ past) := by
  have split : m.entries move ++ past =
      (m.dues move).reverse.map .noticed ++ (m.installations move ++ past) := List.append_assoc ..
  rw [split]
  refine ⟨?_, ?_⟩
  · intro kind b
    rw [Entry.inForce_noticed]
    exact step_inForce step attends.inForce kind b
  · rw [step_handed step, Entry.handed_noticed, attends.handed]
    rcases installs_or_notices m move with nothing | ⟨silent, same⟩
    · rw [nothing]
      unfold hand
      simp only [attends.inForce, List.map_reverse, List.nil_append]
    · rw [silent, same]
      rfl

theorem Runs.attends (runs : Runs m moves next) (attends : m.Attends past) :
    next.Attends (m.ledger moves ++ past) := by
  induction runs generalizing past with
  | nil => exact attends
  | @cons m middle next move moves r step rest ih =>
    have advanced := advance?_exact.mpr ⟨r, step⟩
    simp only [ledger, advanced, List.append_assoc]
    exact ih (attends.step step)

theorem initial_attends : initial.Attends [] := by
  refine ⟨?_, rfl⟩
  intro kind b
  have blank : initial.bridges.get b = default := Slots.get_empty b
  rw [blank]
  cases kind <;> rfl

-- How an operation goes on when the handler it called is done, whoever is in force by then.
inductive Leg.Concludes (leg : Leg) : Frame → Prop where
  | told {b : BridgeKey} {s : Option ScriptKey} {origin : Origin} {kept : Option Notification}
      (ends : leg.turn = { edits := close? origin.task? }) : Concludes leg (.reporting b s origin kept)
  | logged {c : Service} {reply : Reply} (answers : leg.move = .answer reply)
      (attempts : leg.turn = leg.before.resumeTurn c.script (.command c)) : Concludes leg (.logging c)
  | broken {c : Service} {p : Panic} (unwinds : leg.move = .unwind p)
      (ends : leg.turn = { edits := close? c.origin.task? }) : Concludes leg (.logging c)

theorem Leg.Resumes.concludes {leg : Leg} {frame : Frame} {base : List Frame}
    (resumes : leg.Resumes frame base) (attends : frame.attends?.isSome) : leg.Concludes frame := by
  obtain ⟨top, step, goesOn⟩ := resumes
  cases move : leg.move with
  | invoke op => exact absurd move (goesOn op)
  | answer reply =>
    have turn : leg.turn = leg.before.replyTurn frame reply := by
      simp only [Leg.turn, Machine.turn, move, top]
    obtain ⟨after, continued, _⟩ := (move ▸ step).answered_at top
    cases frame with
    | logging c =>
      cases reply with
      | done => exact .logged move turn
      | _ => cases continued
    | reporting b s origin kept =>
      cases reply with
      | done => exact .told turn
      | _ => cases continued
    | _ => cases attends
  | unwind p =>
    have turn : leg.turn = leg.before.unwindTurn p frame := by
      simp only [Leg.turn, Machine.turn, move, top]
    cases frame with
    | logging c => exact .broken move turn
    | reporting b s origin kept => exact .told turn
    | _ => cases attends

theorem resumeDues_task {s : ScriptKey} {t : TaskKey} {due : Due}
    (present : due ∈ m.resumeDues s (.task t)) : due.bridge = (m.tasks.get t).bridge := by
  unfold resumeDues refusalDues at present
  dsimp only at present
  split at present
  · exact List.mem_singleton.mp present ▸ rfl
  · cases present

theorem polledDues_task {t : TaskKey} {p : Polled} {due : Due} (present : due ∈ m.polledDues t p) :
    due.bridge = (m.tasks.get t).bridge := by
  cases p with
  | pending => cases present
  | failed causes => exact List.mem_singleton.mp present ▸ rfl
  | succeeded =>
    unfold polledDues at present
    dsimp only at present
    split at present
    · exact resumeDues_task present
    · cases present

theorem pollDues_task {t : TaskKey} {due : Due} (present : due ∈ m.pollDues t) :
    due.bridge = (m.tasks.get t).bridge := by
  unfold pollDues at present
  dsimp only at present
  split at present
  · split at present
    · exact resumeDues_task present
    · cases present
  · cases present

theorem dues_task (reached : Reachable m) {t : TaskKey} {due : Due} (works : m.worker? move = some t)
    (present : due ∈ m.dues move) : due.bridge = (m.tasks.get t).bridge := by
  have unserved {frame : Frame} {rest : List Frame} {c : Service} (top : m.stack = frame :: rest)
      (served : frame.service? = some c) (own : frame.task? = c.origin.task?)
      (works : m.stack.head?.bind Frame.task? = some t) : due.bridge = (m.tasks.get t).bridge := by
    have free := reached.grounded frame (top ▸ List.mem_cons_self) c served
    rw [top] at works
    cases (own.symm.trans works).symm.trans free
  cases move with
  | invoke op =>
    cases op with
    | pollTask t' =>
      cases works
      exact pollDues_task present
    | _ => cases works
  | answer reply =>
    unfold dues at present
    cases top : m.stack with
    | nil =>
      rw [top] at present
      cases present
    | cons frame rest =>
      rw [top] at present
      cases frame with
      | decoding c k => exact unserved top rfl rfl works
      | logging c => exact unserved top rfl rfl works
      | scheduling c => exact unserved top rfl rfl works
      | polling t' =>
        simp only [worker?, top] at works
        cases works
        cases reply with
        | polled p => exact polledDues_task present
        | _ => cases present
      | _ => cases reply <;> cases present
  | unwind p =>
    unfold dues at present
    cases top : m.stack with
    | nil =>
      rw [top] at present
      cases present
    | cons frame rest =>
      rw [top] at present
      cases frame with
      | routing c => exact unserved top rfl rfl works
      | polling t' =>
        simp only [worker?, top] at works
        cases works
        exact List.mem_singleton.mp present ▸ rfl
      | _ => cases present

-- What holds of the handlers when a run has left the ledger `past` and led to `m`. Each notice
-- went to the handler of its kind that was installed last before it, and who waits for a handler
-- waits until that one is done, whatever is installed meanwhile.
structure Attended (past : List Entry) (m : Machine) : Prop where
  handed : m.handed = Entry.handed past
  latest : ∀ kind b handler later earlier, past = later ++ .installed kind b handler :: earlier →
    (∀ other, .installed kind b other ∉ later) →
    (m.bridges.get b).handler kind = handler ∧ Entry.inForce kind b past = handler
  delivered : ∀ move next reaction, Step m move next reaction →
    next.handed = ((m.dues move).map fun due =>
      due.notice.to (Entry.inForce due.notice.kind due.bridge past)).reverse ++ m.handed
  begins : ∀ move next q kind handler, Step m move next (.call q) →
    q.handler? = some (kind, handler) → ∃ frame b, next.stack = frame :: m.below move ∧
      frame.attends? = some (kind, b) ∧ handler = Entry.inForce kind b past
  finishes : ∀ frame base moves last, m.stack = frame :: base → frame.attends?.isSome →
    Runs m moves last → (∃ reactions, Meanwhile (frame :: base) m moves reactions last) ∨
      ∃ earlier reactions later, ∃ leg : Leg, moves = earlier ++ leg.move :: later ∧
        Meanwhile (frame :: base) m earlier reactions leg.before ∧ leg.Resumes frame base ∧
        leg.Concludes frame ∧ Runs leg.after later last
  installs : ∀ (kind : HandlerKind) b handler next reaction,
    Step m (.invoke (kind.install b handler)) next reaction →
    reaction.call? = none ∧ next.acts = m.acts ∧ next.stack = m.stack ∧ next.tasks = m.tasks ∧
      ∀ kind' b', (next.bridges.get b').handler kind' =
        if kind = kind' ∧ b = b' then handler else (m.bridges.get b').handler kind'
  stays : ∀ move next reaction, Step m move next reaction → m.installations move = [] →
    ∀ kind b, (next.bridges.get b).handler kind = (m.bridges.get b).handler kind
  detached : ∀ move t, m.worker? move = some t → ∀ due ∈ m.dues move,
    due.bridge = (m.tasks.get t).bridge

theorem handler_swaps_exact (runs : Runs initial moves m) : Attended (initial.ledger moves) m := by
  have reached : Reachable m := runs.reachable .initial
  have attends : m.Attends (initial.ledger moves) := by
    simpa only [List.append_nil] using runs.attends initial_attends
  refine ⟨attends.handed, ?_, ?_, ?_, ?_, ?_, ?_, ?_⟩
  · intro kind b handler later earlier parts latest
    have last : Entry.inForce kind b (initial.ledger moves) = handler :=
      parts ▸ Entry.inForce_latest latest
    exact ⟨(attends.inForce kind b).trans last, last⟩
  · intro move next reaction step
    rw [step_handed step]
    simp only [hand, attends.inForce]
  · intro move next q kind handler step called
    obtain ⟨frame, stack, own⟩ := step_attends step
    obtain ⟨⟨kind', b⟩, attended, same⟩ := Option.map_eq_some_iff.mp (own.symm.trans called)
    obtain ⟨rfl, rfl⟩ := Prod.mk.inj same
    exact ⟨frame, b, stack, attended, attends.inForce kind' b⟩
  · intro frame base moves last top waits runs
    rcases runs.stays_or_takes_off ⟨[], top.symm⟩ with above |
      ⟨earlier, reactions, leg, later, parts, above, resumes, onward⟩
    · exact .inl above
    · have concludes := resumes.concludes waits
      exact .inr ⟨earlier, reactions, later, leg, parts, above, resumes, concludes, onward⟩
  · intro kind b handler next reaction step
    have takes := step_takes step
    have turn : m.turn (.invoke (kind.install b handler)) = {} := by cases kind <;> rfl
    rw [turn] at takes
    obtain ⟨_, rfl, _⟩ := step.invoked
    refine ⟨takes.call, takes.acts, takes.stack, takes.tasks, fun kind' b' => ?_⟩
    rw [handler_of_settings sweep_tells.settings]
    exact install_handler kind kind' b b' handler
  · intro move next reaction step nothing kind b
    rw [step_inForce step attends.inForce, nothing, attends.inForce]
    rfl
  · intro move t works due present
    exact dues_task reached works present

def swapsItself : List Move :=
  [.invoke (.build { frames := some .host, runtime := true, error := .host 0 }),
    .invoke (.makeFiber ⟨1⟩ 0), .invoke (.register 0 0),
    .invoke (.command 0 ⟨1⟩ "wait_frames".toUTF8 ⟨7⟩ false),
    .answer (.decoded (.ok (.num (.int 1)))), .answer (.notification (.signal 0)),
    .invoke (.report 0 .canceled), .invoke (.setError 0 (.host 1)), .invoke (.report 0 (.config "again")),
    .answer .done, .answer .done,
    .invoke (.dispose 0), .answer .done, .invoke (.dropBridge 0), .invoke (.complete 0),
    .invoke (.pollTask 0)]

set_option maxRecDepth 10000 in
-- The first error went to the handler that was replaced, the nested one and the late one to its successor.
theorem handler_swaps_exact_swapsItself :
    Runs initial swapsItself (after swapsItself) ∧ (after swapsItself).bridgeAlive 0 = false ∧
      (after swapsItself).handed =
        [.deed (.called (.error 1 (.useAfterDispose ⟨1⟩))),
          .deed (.called (.error 1 (.config "again"))), .deed (.called (.error 0 .canceled))] := by
  have runs : Runs initial swapsItself (after swapsItself) := runs_after (by decide +kernel)
  refine ⟨runs, by decide +kernel, ?_⟩
  rw [(handler_swaps_exact runs).handed]
  decide +kernel

end Machine

end FiberBridge
