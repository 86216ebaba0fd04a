import FiberBridge.Proofs.Account
import FiberBridge.Proofs.Runs

namespace FiberBridge

structure Received where
  bridge : BridgeKey
  id : ScriptId
  name : ByteArray
  word : Word
  ambient : Bool
  origin : Origin

def Received.service (c : Received) (s : ScriptKey) (name : String) : Service :=
  ⟨c.bridge, s, name, c.word, c.ambient, c.origin⟩

def HostCall.handsOver : HostCall → Bool
  | .route .. => true
  | .poll .. => true
  | _ => false

def Frame.service? : Frame → Option Service
  | .resuming _ (.command c) => some c
  | .decoding c _ => some c
  | .logging c => some c
  | .scheduling c => some c
  | .routing c => some c
  | _ => none

def Frame.polls : Frame → Bool
  | .polling _ => true
  | _ => false

def Frame.Grounded (frame : Frame) : Prop := ∀ c, frame.service? = some c → c.origin.task? = none

-- What one move asks and leaves when it works for `who`, but for handing work over.
structure Turn.Ordinary (who : Option TaskKey) (turn : Turn) : Prop where
  asks : ∀ q frame, turn.asks = some (q, frame) → q.handsOver = false ∧ frame.polls = false ∧
    frame.Grounded ∧ ∀ t, frame.task? = some t → who = some t
  edits : ∀ edit ∈ turn.edits, ∀ t, edit.task? = some t → who = some t

theorem close?_worker {who : Option TaskKey} : ∀ edit ∈ close? who, ∀ t, edit.task? = some t →
    who = some t := by
  cases who with
  | none => exact fun _ bad => nomatch bad
  | some t =>
    intro edit present t' same
    cases List.mem_singleton.mp present
    exact same

namespace Turn.Ordinary

variable {turn : Turn} {who : Option TaskKey}

theorem silent {before : List Act} {edits : List Edit}
    (own : ∀ edit ∈ edits, ∀ t, edit.task? = some t → who = some t) :
    Turn.Ordinary who { before, edits } := ⟨fun _ _ bad => (nomatch bad), own⟩

theorem nothing {before : List Act} : Turn.Ordinary who { before } := silent fun _ bad => nomatch bad

theorem following {earlier : List Act} (ordinary : turn.Ordinary who) :
    (turn.following earlier).Ordinary who := ⟨ordinary.asks, ordinary.edits⟩

theorem one {before : List Act} {q : HostCall} {frame : Frame} (own : q.handsOver = false)
    (waits : frame.polls = false) (grounded : frame.Grounded)
    (works : ∀ t, frame.task? = some t → who = some t) :
    Turn.Ordinary who { before, asks := some (q, frame) } := by
  refine ⟨?_, fun _ bad => nomatch bad⟩
  intro q' frame' asks
  cases asks
  exact ⟨own, waits, grounded, works⟩

theorem plain {before : List Act} {q : HostCall} {frame : Frame} (own : q.handsOver = false)
    (waits : frame.polls = false) (served : frame.service? = none) (works : frame.task? = none) :
    Turn.Ordinary who { before, asks := some (q, frame) } := by
  refine one own waits ?_ ?_
  · intro c bad
    rw [served] at bad
    cases bad
  · intro t bad
    rw [works] at bad
    cases bad

theorem serving {q : HostCall} {frame : Frame} {c : Service} (grounded : c.origin.task? = none)
    (own : q.handsOver = false) (waits : frame.polls = false) (served : frame.service? = some c)
    (works : frame.task? = c.origin.task?) : Turn.Ordinary who { asks := some (q, frame) } := by
  refine one own waits ?_ ?_
  · intro c' same
    rw [served] at same
    cases same
    exact grounded
  · intro t bad
    rw [works, grounded] at bad
    cases bad

end Turn.Ordinary

namespace Machine

variable {m : Machine}

-- The command that an operation brings in. A callback brings none where no bridge is left to take it.
def received? (m : Machine) : Op → Option Received
  | .command b id name word ambient => some ⟨b, id, name, word, ambient, .host⟩
  | .commandUpcall id name length word ambient =>
    (m.target.filter m.bridgeAlive).map fun b =>
      ⟨b, id, nativeName name length, word, ambient, .upcall .command id⟩
  | _ => none

def worker? (m : Machine) : Move → Option TaskKey
  | .invoke (.pollTask t) => some t
  | .invoke _ => none
  | .answer _ => m.stack.head?.bind Frame.task?
  | .unwind _ => m.stack.head?.bind Frame.task?

theorem opTurn_received {op : Op} {c : Received} (received : m.received? op = some c) :
    m.opTurn op = m.commandTurn c.bridge c.id c.name c.word c.ambient c.origin := by
  cases op with
  | command b id name word ambient =>
    cases received
    rfl
  | commandUpcall id name length word ambient =>
    obtain ⟨b, target, rfl⟩ := Option.map_eq_some_iff.mp received
    simp only [opTurn, target]
  | _ => cases received

theorem opFate_received {op : Op} {c : Received} (received : m.received? op = some c) :
    m.opFate op = m.commandFate c.bridge c.id c.name c.ambient := by
  cases op with
  | command b id name word ambient =>
    cases received
    rfl
  | commandUpcall id name length word ambient =>
    obtain ⟨b, target, rfl⟩ := Option.map_eq_some_iff.mp received
    simp only [opFate, target]
  | _ => cases received

theorem received_grounded {op : Op} {c : Received} (received : m.received? op = some c) :
    c.origin.task? = none := by
  cases op with
  | command b id name word ambient =>
    cases received
    rfl
  | commandUpcall id name length word ambient =>
    obtain ⟨b, target, rfl⟩ := Option.map_eq_some_iff.mp received
    rfl
  | _ => cases received

theorem received_worker {op : Op} {c : Received} (received : m.received? op = some c) :
    m.worker? (.invoke op) = none := by
  cases op with
  | pollTask t => cases received
  | _ => rfl

section

variable {s : ScriptKey} {e : BridgeError} {who : Option TaskKey}

theorem deliverTurn_ordinary {b : BridgeKey} {told : Option ScriptKey} {origin : Origin}
    {kept : Option Notification} (works : origin.task? = who) :
    (m.deliverTurn b told e origin kept).Ordinary who := by
  subst works
  unfold deliverTurn
  split
  · exact .silent close?_worker
  · exact .one rfl rfl (fun _ bad => nomatch bad) fun _ same => same

theorem registerTurn_ordinary {b : BridgeKey} {f : FiberKey} : (m.registerTurn b f).Ordinary who := by
  unfold registerTurn
  split
  · exact .plain rfl rfl rfl rfl
  · exact .nothing

theorem statusTurn_ordinary : (m.statusTurn s).Ordinary who := by
  unfold statusTurn
  dsimp only
  split <;> exact .nothing

theorem startTurn_ordinary {token : Option TokenKey} : (m.startTurn s token).Ordinary who := by
  unfold startTurn
  dsimp only
  split
  · exact .plain rfl rfl rfl rfl
  · exact statusTurn_ordinary

theorem hostResume_ordinary {byHandle : Bool} : (m.resumeTurn s (.host byHandle)).Ordinary who := by
  unfold resumeTurn
  dsimp only
  split
  · exact .nothing
  · exact .plain rfl rfl rfl rfl

theorem taskResume_ordinary {t : TaskKey} : (m.resumeTurn s (.task t)).Ordinary (some t) := by
  unfold resumeTurn
  dsimp only
  split
  · exact deliverTurn_ordinary rfl
  · exact .one rfl rfl (fun _ bad => nomatch bad) fun _ same => same

theorem disposeTurn_ordinary {dropped : Bool} : (m.disposeTurn s dropped).Ordinary who := by
  unfold disposeTurn
  dsimp only
  split
  · exact .nothing
  · exact .plain rfl rfl rfl rfl

variable {c : Service} (grounded : c.origin.task? = none)
include grounded

theorem refuseTurn_ordinary : (m.refuseTurn c e).Ordinary none := deliverTurn_ordinary grounded

theorem failTurn_ordinary : (m.failTurn c e).Ordinary none := by
  unfold failTurn failureTurn
  exact .following (deliverTurn_ordinary grounded)

theorem leaveTurn_ordinary {work : Work} : (leaveTurn c work).Ordinary none := by
  refine .silent ?_
  intro edit present t same
  rw [grounded] at present
  cases List.mem_singleton.mp present
  cases same

theorem waitTurn_ordinary {n : Notification} : (m.waitTurn c n).Ordinary none := by
  unfold waitTurn
  split
  · exact leaveTurn_ordinary grounded
  · exact deliverTurn_ordinary grounded

theorem serveTurn_ordinary {k : SystemCommand} : (m.serveTurn c k).Ordinary none := by
  unfold serveTurn
  split
  · exact refuseTurn_ordinary grounded
  · exact .serving grounded rfl rfl rfl rfl

theorem serviceResume_ordinary : (m.resumeTurn s (.command c)).Ordinary none := by
  unfold resumeTurn
  dsimp only
  split
  · exact refuseTurn_ordinary grounded
  · refine .one rfl rfl ?_ ?_
    · intro c' served
      cases served
      exact grounded
    · intro t works
      exact grounded.symm.trans works

theorem logTurn_ordinary {message : String} : (m.logTurn c message).Ordinary none := by
  unfold logTurn
  split
  · exact (serviceResume_ordinary grounded).following
  · exact .serving grounded rfl rfl rfl rfl

theorem secondsTurn_ordinary {seconds : Double} : (m.secondsTurn c seconds).Ordinary none := by
  unfold secondsTurn
  split
  · exact refuseTurn_ordinary grounded
  · split
    · exact waitTurn_ordinary grounded
    · exact .serving grounded rfl rfl rfl rfl

theorem framesTurn_ordinary {count : UInt32} : (m.framesTurn c count).Ordinary none := by
  unfold framesTurn
  split
  · exact waitTurn_ordinary grounded
  · exact .serving grounded rfl rfl rfl rfl

theorem decodedTurn_ordinary {k : SystemCommand} {d : Decoding} :
    (m.decodedTurn c k d).Ordinary none := by
  unfold decodedTurn
  cases k with
  | log =>
    dsimp only
    split
    · exact refuseTurn_ordinary grounded
    · exact logTurn_ordinary grounded
  | waitSecs =>
    dsimp only
    split
    · exact refuseTurn_ordinary grounded
    · exact secondsTurn_ordinary grounded
  | waitFrames =>
    dsimp only
    split
    · exact refuseTurn_ordinary grounded
    · exact framesTurn_ordinary grounded

end

theorem raiseTurn_ordinary {b : BridgeKey} {id : ScriptId} {description : String} {origin : Origin}
    (grounded : origin.task? = none) : (m.raiseTurn b id description origin).Ordinary none := by
  unfold raiseTurn
  split
  · exact .silent (grounded ▸ close?_worker)
  · exact deliverTurn_ordinary grounded

variable {t : TaskKey}

theorem failedTurn_ordinary {message : String} : (m.failedTurn t message).Ordinary (some t) := by
  unfold failedTurn failureTurn
  exact .following (deliverTurn_ordinary rfl)

theorem polledTurn_ordinary {p : Polled} : (m.polledTurn t p).Ordinary (some t) := by
  unfold polledTurn
  cases p with
  | pending => exact .nothing
  | failed causes => exact failedTurn_ordinary
  | succeeded =>
    dsimp only
    split
    · exact taskResume_ordinary
    · exact .silent (@close?_worker (some t))

theorem commandTurn_asks {b : BridgeKey} {id : ScriptId} {name : ByteArray} {word : Word}
    {ambient : Bool} {origin : Origin} (grounded : origin.task? = none) :
    (m.commandTurn b id name word ambient origin).Ordinary none ∨
      ∃ s text, m.find? b id = some s ∧ (m.bridges.get b).config.reserved? name = none ∧
        Utf8.read name = .ok text ∧ (m.bridges.get b).router ∧
        ((m.bridges.get b).runtime || ambient) ∧
        m.commandTurn b id name word ambient origin =
          { asks := some (.route b s text word, .routing ⟨b, s, text, word, ambient, origin⟩) } := by
  unfold commandTurn
  cases m.find? b id with
  | none => exact .inl (deliverTurn_ordinary grounded)
  | some s =>
    dsimp only
    cases (m.bridges.get b).config.reserved? name with
    | some k => exact .inl (serveTurn_ordinary grounded)
    | none =>
      unfold forwardTurn
      dsimp only
      cases Utf8.read name with
      | error fault => exact .inl (failTurn_ordinary grounded)
      | ok text =>
        dsimp only
        cases router : (m.bridges.get b).router with
        | false => exact .inl (failTurn_ordinary grounded)
        | true =>
          cases runtime : ((m.bridges.get b).runtime || ambient) with
          | false =>
            have lacking : m.runtimeFor ⟨b, s, text, word, ambient, origin⟩ = false := runtime
            rw [lacking]
            exact .inl (failTurn_ordinary grounded)
          | true =>
            have there : m.runtimeFor ⟨b, s, text, word, ambient, origin⟩ = true := runtime
            rw [there]
            exact .inr ⟨s, text, rfl, rfl, rfl, rfl, rfl, rfl⟩

theorem pollTurn_asks :
    (m.pollTurn t).Ordinary (some t) ∨
      ∃ future, (m.tasks.get t).finished = false ∧ (m.tasks.get t).work = .forward future ∧
        m.pollTurn t = { asks := some (.poll t future, .polling t) } := by
  unfold pollTurn
  dsimp only
  cases (m.tasks.get t).finished with
  | true => exact .inl .nothing
  | false =>
    cases (m.tasks.get t).work with
    | forward future => exact .inr ⟨future, rfl, rfl, rfl⟩
    | wait n =>
      have waited : Turn.Ordinary (some t)
          (if m.hasCome (m.begun n) then m.resumeTurn (m.tasks.get t).script (.task t) else {}) := by
        split
        · exact taskResume_ordinary
        · exact .nothing
      refine .inl ⟨waited.asks, ?_⟩
      intro edit present t' same
      rcases List.mem_cons.mp present with rfl | later
      · exact same
      · exact waited.edits edit later t' same

theorem replyTurn_ordinary {frame : Frame} {reply : Reply} (grounded : frame.Grounded) :
    (m.replyTurn frame reply).Ordinary frame.task? := by
  have serves {c : Service} {turn : Turn} (served : frame.service? = some c)
      (works : frame.task? = c.origin.task?) (ordinary : c.origin.task? = none → turn.Ordinary none) :
      turn.Ordinary frame.task? := by
    have free := grounded c served
    rw [works, free]
    exact ordinary free
  unfold replyTurn
  split
  · exact .nothing
  · exact .silent close?_worker
  · exact .nothing
  · exact serves rfl rfl fun free => decodedTurn_ordinary free
  · exact serves rfl rfl fun free => serviceResume_ordinary free
  · exact .silent close?_worker
  · exact serves rfl rfl fun free => waitTurn_ordinary free
  · exact serves rfl rfl fun free => leaveTurn_ordinary free
  · exact polledTurn_ordinary
  · exact .nothing

theorem unwindTurn_ordinary {frame : Frame} {p : Panic} (grounded : frame.Grounded) :
    (m.unwindTurn p frame).Ordinary frame.task? := by
  unfold unwindTurn
  split
  · rename_i c
    have free : c.origin.task? = none := grounded c rfl
    have works : (Frame.routing c).task? = none := free
    rw [works]
    exact failTurn_ordinary free
  · exact failedTurn_ordinary
  · exact .silent close?_worker

-- What a move asks of the host: nothing that hands work over, or one of two things.
theorem turn_asks {move : Move} (grounded : ∀ frame ∈ m.stack, frame.Grounded) :
    (m.turn move).Ordinary (m.worker? move) ∨
      (∃ op c s text, move = .invoke op ∧ m.received? op = some c ∧
        m.find? c.bridge c.id = some s ∧ (m.bridges.get c.bridge).config.reserved? c.name = none ∧
        Utf8.read c.name = .ok text ∧ (m.bridges.get c.bridge).router ∧
        ((m.bridges.get c.bridge).runtime || c.ambient) ∧
        m.turn move = { asks := some (.route c.bridge s text c.word,
          .routing ⟨c.bridge, s, text, c.word, c.ambient, c.origin⟩) }) ∨
      ∃ t future, move = .invoke (.pollTask t) ∧ (m.tasks.get t).finished = false ∧
        (m.tasks.get t).work = .forward future ∧
        m.turn move = { asks := some (.poll t future, .polling t) } := by
  cases move with
  | invoke op =>
    have turn : m.turn (.invoke op) = m.opTurn op := rfl
    rw [turn]
    cases received : m.received? op with
    | some c =>
      rw [opTurn_received received]
      rcases commandTurn_asks (m := m) (received_grounded received) with
        ordinary | ⟨s, text, found, free, read, router, runtime, same⟩
      · exact .inl (received_worker received ▸ ordinary)
      · exact .inr (.inl ⟨op, c, s, text, rfl, received, found, free, read, router, runtime, same⟩)
    | none =>
      cases op with
      | command b id name word ambient => cases received
      | commandUpcall id name length word ambient =>
        have target : m.target.filter m.bridgeAlive = none := Option.map_eq_none_iff.mp received
        simp only [opTurn, target]
        exact .inl .nothing
      | pollTask t =>
        rcases pollTurn_asks (m := m) (t := t) with ordinary | ⟨future, unfinished, work, same⟩
        · exact .inl ordinary
        · exact .inr (.inr ⟨t, future, rfl, unfinished, work, same⟩)
      | report b e => exact .inl (deliverTurn_ordinary rfl)
      | error b id description => exact .inl (raiseTurn_ordinary rfl)
      | errorUpcall id description =>
        refine .inl ?_
        unfold opTurn
        dsimp only
        split
        · exact raiseTurn_ordinary rfl
        · exact .nothing
      | register b f => exact .inl registerTurn_ordinary
      | start s token => exact .inl startTurn_ordinary
      | resume s byHandle => exact .inl hostResume_ordinary
      | status s => exact .inl statusTurn_ordinary
      | describe s => exact .inl statusTurn_ordinary
      | dispose s => exact .inl disposeTurn_ordinary
      | dropHandle s => exact .inl disposeTurn_ordinary
      | decode s command word shape => exact .inl (.plain rfl rfl rfl rfl)
      | dropFiber f => exact .inl (.plain rfl rfl rfl rfl)
      | _ => exact .inl .nothing
  | answer reply =>
    refine .inl ?_
    unfold turn worker?
    cases top : m.stack with
    | nil => exact .nothing
    | cons frame rest =>
      exact replyTurn_ordinary (grounded frame (by rw [top]; exact List.mem_cons_self))
  | unwind p =>
    refine .inl ?_
    unfold turn worker?
    cases top : m.stack with
    | nil => exact .nothing
    | cons frame rest =>
      exact unwindTurn_ordinary (grounded frame (by rw [top]; exact List.mem_cons_self))

variable {next : Machine} {move : Move} {reaction : Reaction}

theorem mem_of_below {frame : Frame} (present : frame ∈ m.below move) : frame ∈ m.stack := by
  cases move with
  | invoke op => exact present
  | answer reply => exact List.mem_of_mem_tail present
  | unwind p => exact List.mem_of_mem_tail present

theorem step_stack {frame : Frame} (step : Step m move next reaction) (present : frame ∈ next.stack) :
    (∃ q, (m.turn move).asks = some (q, frame)) ∨ frame ∈ m.below move := by
  have stack : next.stack = ((m.turn move).asks.map Prod.snd).toList ++ m.below move :=
    (step_takes step).stack
  rw [stack] at present
  rcases List.mem_append.mp present with asked | below
  · obtain ⟨⟨q, frame'⟩, asks, rfl⟩ := Option.map_eq_some_iff.mp (Option.mem_toList.mp asked)
    exact .inl ⟨q, asks⟩
  · exact .inr below

theorem Reachable.grounded (reached : Reachable m) : ∀ frame ∈ m.stack, frame.Grounded := by
  induction reached with
  | initial =>
    intro frame present
    cases present
  | @step m next move reaction prior step ih =>
    intro frame present
    rcases step_stack step present with ⟨q, asks⟩ | below
    · rcases turn_asks (m := m) ih with
        ordinary | ⟨op, c, s, text, _, received, _, _, _, _, _, same⟩ | ⟨t, future, _, _, _, same⟩
      · exact (ordinary.asks q frame asks).2.2.1
      · rw [same] at asks
        cases asks
        intro c' served
        cases served
        exact received_grounded received
      · rw [same] at asks
        cases asks
        exact fun _ bad => nomatch bad
    · exact ih frame (mem_of_below below)

theorem route_asked {b : BridgeKey} {s : ScriptKey} {text : String} {word : Word}
    (reached : Reachable m) (step : Step m move next (.call (.route b s text word))) :
    ∃ op c, move = .invoke op ∧ m.received? op = some c ∧ c.bridge = b ∧ c.word = word ∧
      m.find? b c.id = some s ∧ (m.bridges.get b).config.reserved? c.name = none ∧
      Utf8.read c.name = .ok text ∧ (m.bridges.get b).router ∧
      ((m.bridges.get b).runtime || c.ambient) := by
  have asked : some (.route b s text word) = (m.turn move).asks.map Prod.fst := (step_takes step).call
  obtain ⟨⟨q, frame⟩, asks, same⟩ := Option.map_eq_some_iff.mp asked.symm
  rcases turn_asks (m := m) reached.grounded with
    ordinary | ⟨op, c, s', text', invoked, received, found, free, read, router, runtime, turn⟩ |
      ⟨t, future, _, _, _, turn⟩
  · cases same
    exact absurd (ordinary.asks _ frame asks).1 (by simp [HostCall.handsOver])
  · rw [turn] at asks
    cases asks
    cases same
    exact ⟨op, c, invoked, received, rfl, rfl, found, free, read, router, runtime⟩
  · rw [turn] at asks
    cases asks
    cases same

theorem poll_asked {t : TaskKey} {future : FutureKey} (reached : Reachable m)
    (step : Step m move next (.call (.poll t future))) :
    move = .invoke (.pollTask t) ∧ m.running t = false ∧ t < m.tasks.size ∧
      (m.tasks.get t).finished = false ∧ (m.tasks.get t).work = .forward future := by
  have asked : some (.poll t future) = (m.turn move).asks.map Prod.fst := (step_takes step).call
  obtain ⟨⟨q, frame⟩, asks, same⟩ := Option.map_eq_some_iff.mp asked.symm
  rcases turn_asks (m := m) reached.grounded with
    ordinary | ⟨op, c, s, text, _, _, _, _, _, _, _, turn⟩ |
      ⟨t', future', invoked, unfinished, work, turn⟩
  · cases same
    exact absurd (ordinary.asks _ frame asks).1 (by simp [HostCall.handsOver])
  · rw [turn] at asks
    cases asks
    cases same
  · rw [turn] at asks
    cases asks
    cases same
    subst invoked
    obtain ⟨⟨idle, made⟩, _⟩ := step.invoked
    exact ⟨rfl, eq_false_of_ne_true idle, made, unfinished, work⟩

end Machine

end FiberBridge
