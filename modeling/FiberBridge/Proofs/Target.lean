import FiberBridge.Proofs.Asking
import FiberBridge.Proofs.Hosted
import FiberBridge.Proofs.Refusals

namespace FiberBridge

open Machine

def Op.upcall? : Op → Option (UpcallKind × ScriptId)
  | .commandUpcall id .. => some (.command, id)
  | .errorUpcall id _ => some (.error, id)
  | _ => none

def Op.served? (b : BridgeKey) : Op → Option Op
  | .commandUpcall id name length word ambient =>
    some (.command b id (nativeName name length) word ambient)
  | .errorUpcall id description => some (.error b id (nativeText description))
  | _ => none

def Frame.bridge? : Frame → Option (BridgeKey × Origin)
  | .refusing b _ => some (b, .host)
  | .resuming _ (.command c) => some (c.bridge, c.origin)
  | .decoding c _ => some (c.bridge, c.origin)
  | .logging c => some (c.bridge, c.origin)
  | .reporting b _ origin _ => some (b, origin)
  | .scheduling c => some (c.bridge, c.origin)
  | .routing c => some (c.bridge, c.origin)
  | _ => none

def Machine.Move.retargets : Machine.Move → Bool
  | .invoke (.install _) => true
  | .invoke .uninstall => true
  | _ => false

-- `b` was installed, and after that no bridge was installed and nothing uninstalled.
def LastInstalled (moves : List Move) (b : BridgeKey) : Prop :=
  ∃ earlier later, moves = earlier ++ .invoke (.install b) :: later ∧
    ∀ move ∈ later, move.retargets = false

theorem lastInstalled_nil {b : BridgeKey} : ¬ LastInstalled [] b := by
  rintro ⟨earlier, later, same, _⟩
  exact absurd same.symm (List.append_ne_nil_of_right_ne_nil _ (List.cons_ne_nil _ _))

theorem lastInstalled_cons {move : Move} {moves : List Move} {b : BridgeKey} :
    LastInstalled (move :: moves) b ↔ LastInstalled moves b ∨
      move = .invoke (.install b) ∧ ∀ move ∈ moves, move.retargets = false := by
  constructor
  · rintro ⟨earlier, later, same, quiet⟩
    cases earlier with
    | nil =>
      obtain ⟨rfl, rfl⟩ := List.cons.inj same
      exact .inr ⟨rfl, quiet⟩
    | cons first earlier =>
      obtain ⟨rfl, rfl⟩ := List.cons.inj same
      exact .inl ⟨earlier, later, rfl, quiet⟩
  · rintro (⟨earlier, later, rfl, quiet⟩ | ⟨rfl, quiet⟩)
    · exact ⟨move :: earlier, later, rfl, quiet⟩
    · exact ⟨[], moves, rfl, quiet⟩

namespace Machine

variable {m n next last : Machine} {move : Move} {moves : List Move} {reaction : Reaction}

theorem step_target (step : Step m move next reaction)
    (quiet : move.retargets = false) : next.target = m.target := by
  cases sets : move.sets with
  | false => exact congrArg Settings.target (step_settings step sets)
  | true =>
    cases move with
    | answer reply => cases sets
    | unwind p => cases sets
    | invoke op =>
      obtain ⟨_, rfl, _⟩ := step.invoked
      refine (congrArg Settings.target sweep_tells.settings).trans ?_
      cases op with
      | build setup =>
        show (m.build setup).1.target = m.target
        unfold build
        split <;> rfl
      | newContext available =>
        show (m.newContext available).1.target = m.target
        unfold newContext
        cases available <;> rfl
      | install b => cases quiet
      | uninstall => cases quiet
      | cloneBridge b => rfl
      | dropBridge b => rfl
      | setLog b h => rfl
      | setError b h => rfl
      | cancel t => rfl
      | makeClock => rfl
      | advanceClock c frames => rfl
      | dropClock c => rfl
      | complete k => rfl
      | elapse millis => rfl
      | dropContext c => rfl
      | _ => cases sets

theorem install_target {b : BridgeKey} (step : Step m (.invoke (.install b)) next reaction) :
    next.target = some b := by
  obtain ⟨_, rfl, _⟩ := step.invoked
  exact congrArg Settings.target (sweep_tells.settings (m := (m.launch (.install b)).1))

theorem uninstall_target (step : Step m (.invoke .uninstall) next reaction) :
    next.target = none := by
  obtain ⟨_, rfl, _⟩ := step.invoked
  exact congrArg Settings.target (sweep_tells.settings (m := (m.launch .uninstall).1))

theorem Runs.target_iff {b : BridgeKey} (reached : Reachable m) (runs : Runs m moves next) :
    next.target = some b ↔ LastInstalled moves b ∨
      m.target = some b ∧ ∀ move ∈ moves, move.retargets = false := by
  induction runs with
  | nil => simp [lastInstalled_nil]
  | @cons m middle next move moves r step rest ih =>
    rw [ih (reached.step step), lastInstalled_cons]
    cases quiet : move.retargets with
    | false =>
      rw [step_target step quiet]
      have other : move ≠ .invoke (.install b) := by
        rintro rfl
        cases quiet
      simp [other, quiet]
    | true =>
      cases move with
      | answer reply => cases quiet
      | unwind p => cases quiet
      | invoke op =>
        cases op with
        | install b' =>
          rw [install_target step]
          simp [Move.retargets]
        | uninstall =>
          rw [uninstall_target step]
          simp [Move.retargets]
        | _ => cases quiet

theorem target_iff {b : BridgeKey} (runs : Runs initial moves m) :
    m.target = some b ↔ LastInstalled moves b := by
  rw [runs.target_iff .initial]
  simp [initial]

theorem keepsBridge_iff {b : BridgeKey} {frame : Frame} (grounded : frame.Grounded) :
    frame.keepsBridge b = true ↔ ∃ origin, frame.bridge? = some (b, origin) ∧ origin.task? = none := by
  have serves (c : Service) (own : frame.service? = some c) : c.origin.task? = none := grounded c own
  have here {b' : BridgeKey} {origin : Origin} (own : frame.bridge? = some (b', origin))
      (plain : origin.task? = none) :
      decide (b' = b) = true ↔ ∃ origin, frame.bridge? = some (b, origin) ∧ origin.task? = none := by
    rw [decide_eq_true_eq]
    constructor
    · rintro rfl
      exact ⟨origin, own, plain⟩
    · rintro ⟨origin', other, _⟩
      exact (Prod.mk.inj (Option.some.inj (own.symm.trans other))).1
  cases frame with
  | resuming s who =>
    cases who with
    | command c => exact here rfl (serves c rfl)
    | _ => exact ⟨nofun, nofun⟩
  | refusing b' s => exact here rfl (rfl : Origin.host.task? = none)
  | decoding c k => exact here rfl (serves c rfl)
  | logging c => exact here rfl (serves c rfl)
  | scheduling c => exact here rfl (serves c rfl)
  | routing c => exact here rfl (serves c rfl)
  | reporting b' s origin kept =>
    cases origin with
    | host => exact here rfl (rfl : Origin.host.task? = none)
    | upcall kind id => exact here rfl (rfl : (Origin.upcall kind id).task? = none)
    | task t =>
      refine ⟨nofun, ?_⟩
      rintro ⟨_, ⟨⟩, plain⟩
      cases plain
  | _ => exact ⟨nofun, nofun⟩

theorem bridgeAlive_iff {b : BridgeKey} (reached : Reachable m) :
    m.bridgeAlive b = true ↔ 0 < (m.bridges.get b).clones ∨
      ∃ frame ∈ m.stack, ∃ origin, frame.bridge? = some (b, origin) ∧ origin.task? = none := by
  unfold bridgeAlive
  rw [Bool.or_eq_true, decide_eq_true_eq, List.any_eq_true]
  refine or_congr_right (exists_congr fun frame => and_congr_right fun present => ?_)
  exact keepsBridge_iff (reached.grounded frame present)

theorem retargeting_alive (b : BridgeKey) (step : Step m move next reaction)
    (retargets : move.retargets = true) : next.bridgeAlive b = m.bridgeAlive b := by
  have swept {n : Machine} (bridges : n.bridges = m.bridges) (stack : n.stack = m.stack) :
      n.sweep.bridgeAlive b = m.bridgeAlive b := by
    have tells : n.Tells [] n.sweep := sweep_tells
    have clones : (n.sweep.bridges.get b).clones = (n.bridges.get b).clones :=
      bridge_of_settings tells.settings Bridge.clones (fun _ => rfl) b
    unfold bridgeAlive
    rw [clones, tells.stack, bridges, stack]
  cases move with
  | answer reply => cases retargets
  | unwind p => cases retargets
  | invoke op =>
    obtain ⟨_, rfl, _⟩ := step.invoked
    cases op with
    | install b' => exact swept rfl rfl
    | uninstall => exact swept rfl rfl
    | _ => cases retargets

theorem liveTarget_eq (reached : Reachable m) :
    m.liveTarget = (m, m.target.filter m.bridgeAlive) := by
  obtain ⟨held, deadlocked, _⟩ := reached.unlocked
  exact congrArg (Prod.mk · _) (@unlock_noted m m.events .upcallTarget held deadlocked)

theorem delivered {op own : Op} {b : BridgeKey} (reached : Reachable m)
    (served : op.served? b = some own) (target : m.target = some b) (alive : m.bridgeAlive b) :
    (m.invoke op).2 = (m.invoke own).2 ∧ (m.invoke op).1.Posed (m.invoke own).1 := by
  have live : m.liveTarget = (m, some b) := by
    rw [liveTarget_eq reached, target, Option.filter_some, if_pos alive]
  have along : (beside true (Keeps.refl m.stack)).sides m m := Upon.refl m m.stack
  have both (along : Abreast true m.stack m.stack (m.launch op) (m.launch own)) :
      (m.invoke op).2 = (m.invoke own).2 ∧ (m.invoke op).1.Posed (m.invoke own).1 := by
    obtain ⟨same, posed⟩ := along.posed (.same _) fun _ => rfl
    exact ⟨same.symm, posed.sweep⟩
  cases op with
  | commandUpcall id name length word ambient =>
    cases served
    refine both ?_
    unfold launch commandUpcall
    rw [live]
    exact command_coupled along b trivial (nativeName name length) word ambient fun _ _ => trivial
  | errorUpcall id description =>
    cases served
    refine both ?_
    unfold launch errorUpcall
    rw [live]
    exact raise_coupled along b trivial (nativeText description) fun _ _ => trivial
  | _ => cases served

theorem undelivered {op : Op} {kind : UpcallKind} {id : ScriptId} (reached : Reachable m)
    (upcall : op.upcall? = some (kind, id)) (dead : ∀ b, m.target = some b → m.bridgeAlive b = false) :
    m.invoke op = (m.tell (.noBridge kind id), .returned .done) := by
  have gone : m.liveTarget = (m, none) := by
    rw [liveTarget_eq reached]
    refine congrArg (Prod.mk m) (Option.filter_eq_none_iff.mpr ?_)
    intro b target
    rw [dead b target]
    exact Bool.false_ne_true
  have still : (m.tell (.noBridge kind id)).sweep = m.tell (.noBridge kind id) :=
    Swept.still (fun s made => reached.swept s made) fun c made => reached.relieved c made
  have back (launched : m.launch op = (m.tell (.noBridge kind id), .returned .done)) :
      m.invoke op = (m.tell (.noBridge kind id), .returned .done) := by
    unfold invoke swept
    rw [launched]
    exact congrArg (Prod.mk · _) still
  cases op with
  | commandUpcall id' name length word ambient =>
    cases upcall
    refine back ?_
    unfold launch commandUpcall
    rw [gone]
    rfl
  | errorUpcall id' description =>
    cases upcall
    refine back ?_
    unfold launch errorUpcall
    rw [gone]
    rfl
  | _ => cases upcall

-- The same moves are made in both machines, and each comes to the same.
inductive Lockstep : Machine → Machine → List Move → Machine → Machine → Prop where
  | nil {m n : Machine} : Lockstep m n [] m n
  | cons {m n m' n' last last' : Machine} {move : Move} {moves : List Move} {reaction : Reaction}
      (step : Step m move m' reaction) (along : Step n move n' reaction)
      (rest : Lockstep m' n' moves last last') : Lockstep m n (move :: moves) last last'

-- What `moves` made of `m` they make of `n` too, all along or until a panic reaches the callback.
inductive Alongside (m n : Machine) (moves : List Move) (last : Machine) : Prop where
  | whole {last' : Machine} (both : Lockstep m n moves last last') (posed : last.Posed last')
  | broken {earlier later : List Move} {move : Move} {m' n' next : Machine} {reaction : Reaction}
      (parts : moves = earlier ++ move :: later) (both : Lockstep m n earlier m' n')
      (step : Step m' move next reaction) (contained : Contained m' n' move next reaction)
      (after : Runs next later last)

theorem Runs.alongside (runs : Runs m moves last) (posed : m.Posed n) : Alongside m n moves last := by
  induction runs generalizing n with
  | nil => exact .whole .nil posed
  | cons step rest ih =>
    rcases step_posed posed step with ⟨n', along, onward⟩ | contained
    · cases ih onward with
      | whole both end_ => exact .whole (.cons step along both) end_
      | broken parts both broke contained after =>
        exact .broken (congrArg (_ :: ·) parts) (.cons step along both) broke contained after
    · exact .broken rfl .nil step contained rest

theorem nativeName_empty {bytes : Option ByteArray} {length : Int32}
    (empty : bytes = none ∨ length.toInt ≤ 0) : nativeName bytes length = ByteArray.empty := by
  rcases empty with rfl | short
  · rfl
  · cases bytes with
    | none => rfl
    | some bytes => simp [nativeName, Int.toNat_of_nonpos short]

theorem nativeName_bytes {bytes : ByteArray} {length : Int32} :
    (nativeName (some bytes) length).data.toList = bytes.data.toList.take length.toInt.toNat := by
  simp [nativeName]

theorem nativeText_bytes {bytes : ByteArray} {before after : List UInt8}
    (zero : bytes.toList = before ++ 0 :: after) (first : 0 ∉ before) :
    nativeText (some bytes) = Utf8.lossy ⟨before.toArray⟩ := by
  have text : bytes.toList.takeWhile (· ≠ 0) = before := by
    rw [zero, List.takeWhile_append_of_pos]
    · simp
    · intro byte present
      rw [decide_eq_true_eq]
      rintro rfl
      exact first present
  unfold nativeText
  dsimp only
  rw [text]

-- What is served for `origin` is over, or waits for the host.
inductive GoesOn (origin : Origin) (base : List Frame) : Machine × Reaction → Prop where
  | back {n : Machine} (stack : n.stack = base) : GoesOn origin base (n, .returned .done)
  | waits {n : Machine} {q : HostCall} {frame : Frame} (stack : n.stack = base)
      (own : frame.origin? = some origin) : GoesOn origin base (n.ask q frame)

theorem GoesOn.swept {origin : Origin} {base : List Frame} {after : Machine × Reaction}
    (goesOn : GoesOn origin base after) :
    (after.2 = .returned .done ∧ after.1.sweep.stack = base) ∨
    ∃ q frame, after.2 = .call q ∧ after.1.sweep.stack = frame :: base ∧
      frame.origin? = some origin := by
  rw [sweep_stack]
  cases goesOn with
  | back stack => exact .inl ⟨rfl, stack⟩
  | waits stack own => exact .inr ⟨_, _, rfl, congrArg (_ :: ·) stack, own⟩

section

variable {origin : Origin} {base : List Frame} {c : Service} {b : BridgeKey} {told : Option ScriptKey}
  {e : BridgeError} {kept : Option Notification} {s : ScriptKey} (free : origin.task? = none)
include free

theorem complete_goesOn (stack : m.stack = base) : GoesOn origin base (m.complete origin) := by
  cases origin with
  | host => exact .back stack
  | upcall kind id => exact .back stack
  | task t => cases free

theorem deliver_goesOn (stack : m.stack = base) :
    GoesOn origin base (m.deliver b told e origin kept) := by
  unfold deliver
  dsimp only
  split
  · exact complete_goesOn free stack
  · exact .waits stack rfl

theorem report_goesOn (stack : m.stack = base) :
    GoesOn origin base (m.report b told e origin kept) :=
  deliver_goesOn (m := m.tell (.reporting e)) free stack

theorem refuseCommand_goesOn (stack : m.stack = base) (own : c.origin = origin) :
    GoesOn origin base (m.refuseCommand c e) := by
  unfold refuseCommand
  rw [own]
  exact report_goesOn free stack

theorem failAndReport_goesOn (stack : m.stack = base) (own : c.origin = origin) :
    GoesOn origin base (m.failAndReport c e) := by
  unfold failAndReport
  rw [own]
  exact report_goesOn free (fail_tells.stack.trans stack)

theorem resume_goesOn (stack : m.stack = base) (own : c.origin = origin) :
    GoesOn origin base (m.resume s (.command c)) := by
  have entered : (m.enter s).stack = m.stack := enter_tells.stack
  unfold resume
  dsimp only
  split
  · exact refuseCommand_goesOn free stack own
  · exact .waits (n := (m.enter s).tell _) (entered.trans stack) (congrArg some own)

theorem resumed_goesOn {code : Int32} (stack : m.stack = base) (own : c.origin = origin) :
    GoesOn origin base (m.resumed s (.command c) code) := by
  unfold resumed resumeDone
  dsimp only
  rw [own]
  exact complete_goesOn free (settleAfter_tells.stack.trans (readResult_tells.stack.trans stack))

theorem resumeWhen_goesOn {what : Notification} (stack : m.stack = base)
    (own : c.origin = origin) : GoesOn origin base (m.resumeWhen c what) := by
  unfold resumeWhen
  rw [own]
  split
  · exact complete_goesOn (m := m.spawn c (.wait what)) free stack
  · exact report_goesOn free stack

theorem serve_goesOn {command : SystemCommand} (stack : m.stack = base)
    (own : c.origin = origin) : GoesOn origin base (m.serve c command) := by
  unfold serve
  dsimp only
  split
  · exact refuseCommand_goesOn free stack own
  · exact .waits stack (congrArg some own)

theorem logMessage_goesOn {message : String} (stack : m.stack = base)
    (own : c.origin = origin) : GoesOn origin base (m.logMessage c message) := by
  unfold logMessage
  dsimp only
  split
  · exact resume_goesOn free stack own
  · exact .waits stack (congrArg some own)

theorem waitSeconds_goesOn {seconds : Double} (stack : m.stack = base)
    (own : c.origin = origin) : GoesOn origin base (m.waitSeconds c seconds) := by
  unfold waitSeconds
  split
  · exact refuseCommand_goesOn free stack own
  · split
    · exact resumeWhen_goesOn free stack own
    · exact .waits stack (congrArg some own)

theorem waitFrames_goesOn {count : UInt32} (stack : m.stack = base)
    (own : c.origin = origin) : GoesOn origin base (m.waitFrames c count) := by
  unfold waitFrames
  split
  · exact resumeWhen_goesOn free stack own
  · exact .waits stack (congrArg some own)

theorem decoded_goesOn {command : SystemCommand} {d : Decoding} (stack : m.stack = base)
    (own : c.origin = origin) : GoesOn origin base (m.decoded c command d) := by
  unfold decoded
  cases command with
  | log =>
    dsimp only
    split
    · exact refuseCommand_goesOn free stack own
    · exact logMessage_goesOn free stack own
  | waitSecs =>
    dsimp only
    split
    · exact refuseCommand_goesOn free stack own
    · exact waitSeconds_goesOn free stack own
  | waitFrames =>
    dsimp only
    split
    · exact refuseCommand_goesOn free stack own
    · exact waitFrames_goesOn free stack own

theorem command_goesOn {name : ByteArray} {word : Word} {ambient : Bool} (stack : m.stack = base)
    (id : ScriptId) :
    GoesOn origin base (m.command b id name word ambient origin) := by
  unfold command
  dsimp only
  split
  · exact report_goesOn free stack
  · split
    · exact serve_goesOn free stack rfl
    · split
      · exact failAndReport_goesOn free stack rfl
      · split
        · unfold forward
          dsimp only
          split
          · exact .waits stack rfl
          · exact failAndReport_goesOn free stack rfl
        · exact failAndReport_goesOn free stack rfl

theorem raise_goesOn {description : String} (stack : m.stack = base) (id : ScriptId) :
    GoesOn origin base (m.raise b id description origin) := by
  unfold raise
  dsimp only
  split
  · exact complete_goesOn free (fail_tells.stack.trans stack)
  · exact report_goesOn free stack

omit free in
theorem upcall_goesOn {kind : UpcallKind} {id : ScriptId} {op : Op}
    (upcall : op.upcall? = some (kind, id)) :
    GoesOn (.upcall kind id) m.stack (m.launch op) := by
  have looked : m.liveTarget.1.stack = m.stack := rfl
  cases op with
  | commandUpcall id' name length word ambient =>
    cases upcall
    unfold launch commandUpcall
    dsimp only
    cases m.liveTarget.2 with
    | none => exact .back (n := m.liveTarget.1.tell _) looked
    | some b => exact command_goesOn rfl looked id
  | errorUpcall id' description =>
    cases upcall
    unfold launch errorUpcall
    dsimp only
    cases m.liveTarget.2 with
    | none => exact .back (n := m.liveTarget.1.tell _) looked
    | some b => exact raise_goesOn rfl looked id
  | _ => cases upcall

theorem continue?_goesOn {frame : Frame} {reply : Reply} {after : Machine × Reaction}
    (own : frame.origin? = some origin) (ran : m.continue? frame reply = some after) :
    GoesOn origin m.stack after := by
  cases frame with
  | resuming s who =>
    cases who with
    | command c =>
      cases reply with
      | code code =>
        obtain rfl := Option.some.inj ran
        exact resumed_goesOn free rfl (Option.some.inj own)
      | _ => cases ran
    | _ => cases own
  | decoding c command =>
    cases reply with
    | decoded d =>
      obtain rfl := Option.some.inj ran
      exact decoded_goesOn free rfl (Option.some.inj own)
    | _ => cases ran
  | logging c =>
    cases reply with
    | done =>
      obtain rfl := Option.some.inj ran
      exact resume_goesOn free rfl (Option.some.inj own)
    | _ => cases ran
  | reporting b told origin kept =>
    cases own
    cases reply with
    | done =>
      obtain rfl := Option.some.inj ran
      exact complete_goesOn free rfl
    | _ => cases ran
  | scheduling c =>
    cases reply with
    | notification what =>
      obtain rfl := Option.some.inj ran
      exact resumeWhen_goesOn free rfl (Option.some.inj own)
    | _ => cases ran
  | routing c =>
    cases reply with
    | future f =>
      obtain rfl := Option.some.inj ran
      unfold routed
      rw [Option.some.inj own]
      exact complete_goesOn (m := m.spawn c (.forward f)) free rfl
    | _ => cases ran
  | _ => cases own

end

section

variable {kind : UpcallKind} {id : ScriptId}

theorem abort_goesOn {origin : Origin} {p : Panic} (own : some origin = some (.upcall kind id)) :
    GoesOn (.upcall kind id) m.stack (m.abort origin p) := by
  cases own
  exact .back (n := m.sweep.tell (.upcallPanicked kind id)) m.sweep_stack

theorem recover_goesOn {frame : Frame} {p : Panic} (own : frame.origin? = some (.upcall kind id)) :
    GoesOn (.upcall kind id) m.stack (m.recover p frame) := by
  cases frame with
  | resuming s who =>
    cases who with
    | command c => exact abort_goesOn own
    | _ => cases own
  | decoding c command => exact abort_goesOn own
  | logging c => exact abort_goesOn own
  | reporting b told origin kept => exact abort_goesOn own
  | scheduling c => exact abort_goesOn own
  | routing c => exact failAndReport_goesOn rfl rfl (Option.some.inj own)
  | _ => cases own

end

inductive Serves (m : Machine) (kind : UpcallKind) (id : ScriptId) : Move → Prop where
  | begun {op : Op} (upcall : op.upcall? = some (kind, id)) : Serves m kind id (.invoke op)
  | answered {frame : Frame} {rest : List Frame} {reply : Reply} (top : m.stack = frame :: rest)
      (own : frame.origin? = some (.upcall kind id)) : Serves m kind id (.answer reply)
  | unwound {frame : Frame} {rest : List Frame} {p : Panic} (top : m.stack = frame :: rest)
      (own : frame.origin? = some (.upcall kind id)) : Serves m kind id (.unwind p)

theorem Serves.comes_back {kind : UpcallKind} {id : ScriptId} (serves : m.Serves kind id move)
    (step : Step m move next reaction) :
    (reaction = .returned .done ∧ next.stack = m.below move) ∨
    ∃ q frame, reaction = .call q ∧ next.stack = frame :: m.below move ∧
      frame.origin? = some (.upcall kind id) := by
  cases serves with
  | begun upcall =>
    obtain ⟨_, rfl, rfl⟩ := step.invoked
    exact (upcall_goesOn upcall).swept
  | answered top own =>
    obtain ⟨after, continued, rfl, rfl⟩ := step.answered_at top
    have below : ∀ reply, m.below (.answer reply) = _ := fun _ => congrArg List.tail top
    rw [below]
    exact (continue?_goesOn rfl own continued).swept
  | unwound top own =>
    obtain ⟨rfl, rfl⟩ := step.unwound_at top
    have below : ∀ p, m.below (.unwind p) = _ := fun _ => congrArg List.tail top
    rw [below]
    exact (recover_goesOn (m := { m with stack := _ }) own).swept

-- What holds of the callbacks of the native side when `moves` were made.
structure Aimed (moves : List Move) (m : Machine) : Prop where
  -- One that comes in goes to the bridge that was installed last, with nothing uninstalled since, if
  -- that is alive. It does what the host's own call would do, move by move, until a panic ends it.
  delivered : ∀ op kind id b next reaction, op.upcall? = some (kind, id) → LastInstalled moves b →
    m.bridgeAlive b → Step m (.invoke op) next reaction →
    ∃ own next', op.served? b = some own ∧ Step m (.invoke own) next' reaction ∧
      ∀ later last, Runs next later last → Alongside next next' later last
  -- Any other one is told, and nothing else changes.
  undelivered : ∀ op kind id next reaction, op.upcall? = some (kind, id) →
    (∀ b, LastInstalled moves b → m.bridgeAlive b = false) → Step m (.invoke op) next reaction →
    next = m.tell (.noBridge kind id) ∧ reaction = .returned .done
  -- A bridge lives while it has a clone, or while the host or a callback waits for what it serves.
  alive : ∀ b, m.bridgeAlive b = true ↔ 0 < (m.bridges.get b).clones ∨
    ∃ frame ∈ m.stack, ∃ origin, frame.bridge? = some (b, origin) ∧ origin.task? = none
  -- To install it or another one makes no difference to that.
  unkept : ∀ move next reaction b, Step m move next reaction → move.retargets = true →
    next.bridgeAlive b = m.bridgeAlive b
  -- Nothing unwinds out of a callback.
  contained : ∀ kind id move next reaction, m.Serves kind id move → Step m move next reaction →
    (reaction = .returned .done ∧ next.stack = m.below move) ∨
    ∃ q frame, reaction = .call q ∧ next.stack = frame :: m.below move ∧
      frame.origin? = some (.upcall kind id)
  noName : ∀ bytes length, bytes = none ∨ length.toInt ≤ 0 → nativeName bytes length = ByteArray.empty
  name : ∀ bytes length,
    (nativeName (some bytes) length).data.toList = bytes.data.toList.take length.toInt.toNat
  noText : nativeText none = "unknown error"
  text : ∀ bytes before after, bytes.toList = before ++ 0 :: after → 0 ∉ before →
    nativeText (some bytes) = Utf8.lossy ⟨before.toArray⟩

theorem upcalls_reach_installed (runs : Runs initial moves m) : Aimed moves m := by
  have reached : Reachable m := runs.reachable .initial
  refine ⟨?_, ?_, ?_, ?_, ?_, ?_, ?_, rfl, ?_⟩
  · intro op kind id b next reaction upcall installed alive step
    obtain ⟨own, served⟩ : ∃ own, op.served? b = some own := by
      cases op <;> first | exact ⟨_, rfl⟩ | cases upcall
    have admitted : m.Admits own := by
      cases op <;> cases served <;> exact alive
    obtain ⟨_, rfl, rfl⟩ := step.invoked
    obtain ⟨same, posed⟩ := delivered reached served ((target_iff runs).mpr installed) alive
    exact ⟨own, (m.invoke own).1, served, .invoke admitted (congrArg (Prod.mk _) same.symm),
      fun later last onward => onward.alongside posed⟩
  · intro op kind id next reaction upcall dead step
    have same := undelivered reached upcall fun b target => dead b ((target_iff runs).mp target)
    cases step with
    | invoke admitted ran => exact ⟨(congrArg Prod.fst (ran.symm.trans same)),
        congrArg Prod.snd (ran.symm.trans same)⟩
  · intro b
    exact bridgeAlive_iff reached
  · intro move next reaction b step retargets
    exact retargeting_alive b step retargets
  · intro kind id move next reaction serves step
    exact serves.comes_back step
  · intro bytes length empty
    exact nativeName_empty empty
  · intro bytes length
    exact nativeName_bytes
  · intro bytes before after zero first
    exact nativeText_bytes zero first

-- A bridge whose only clone goes while it serves a callback: its log handler lets go of it.
def dropsItself : List Move :=
  [.invoke (.build { log := .host 1 }), .invoke (.makeFiber ⟨1⟩ 0), .invoke (.register 0 0),
    .invoke (.install 0), .invoke (.commandUpcall ⟨1⟩ (some "log".toUTF8) 3 ⟨7⟩ false),
    .answer (.decoded (.ok (.str "hi"))), .invoke (.dropBridge 0)]

def droppedItself : List Move := dropsItself ++ [.answer .done, .answer (.code 1)]

set_option maxRecDepth 10000 in
theorem upcalls_reach_installed_dropsItself :
    LastInstalled dropsItself 0 ∧ ((after dropsItself).bridges.get 0).clones = 0 ∧
    (∃ own next', Op.served? 0 (.errorUpcall ⟨1⟩ none) = some own ∧
      Step (after dropsItself) (.invoke own) next' (.returned .done)) ∧
    (after droppedItself).invoke (.errorUpcall ⟨1⟩ none) =
      ((after droppedItself).tell (.noBridge .error ⟨1⟩), .returned .done) := by
  have installed : LastInstalled dropsItself 0 :=
    ⟨dropsItself.take 3, dropsItself.drop 4, rfl, by decide⟩
  refine ⟨installed, by decide +kernel, ?_, ?_⟩
  · have runs : Runs initial dropsItself (after dropsItself) := runs_after (by decide +kernel)
    have step : Step (after dropsItself) (.invoke (.errorUpcall ⟨1⟩ none))
        ((after dropsItself).invoke (.errorUpcall ⟨1⟩ none)).1 (.returned .done) :=
      .invoke (by decide +kernel) (by rfl)
    obtain ⟨own, next', served, along, _⟩ := (upcalls_reach_installed runs).delivered
      (.errorUpcall ⟨1⟩ none) .error ⟨1⟩ 0 _ _ rfl installed (by decide +kernel) step
    exact ⟨own, next', served, along⟩
  · have runs : Runs initial droppedItself (after droppedItself) := runs_after (by decide +kernel)
    have dead (b : BridgeKey) (later : LastInstalled droppedItself b) :
        (after droppedItself).bridgeAlive b = false := by
      have target : (after droppedItself).target = some b := (target_iff runs).mpr later
      have own : (after droppedItself).target = some 0 := by decide +kernel
      cases own.symm.trans target
      decide +kernel
    obtain ⟨next, reaction⟩ := (upcalls_reach_installed runs).undelivered
      (.errorUpcall ⟨1⟩ none) .error ⟨1⟩ _ _ rfl dead (.invoke (by decide +kernel) rfl)
    exact Prod.ext next reaction

end Machine

end FiberBridge
