import FiberBridge.Proofs.Sections
import FiberBridge.Proofs.Turn
import FiberBridge.Proofs.Steps

namespace FiberBridge

def Reaction.call? : Reaction → Option HostCall
  | .call q => some q
  | .returned _ => none
  | .panicked _ => none

def Bridge.built (bridge : Bridge) : Bridge where
  config := bridge.config
  router := bridge.router
  timers := bridge.timers
  frames := bridge.frames
  runtime := bridge.runtime

-- What belongs to no script: where callbacks go, what has come, and how each bridge was set up.
structure Settings where
  target : Option BridgeKey
  callbacks : Bool
  canceled : List TokenKey
  signals : List SignalKey
  now : Nat
  clocks : Slots FrameClock
  bridges : BridgeKey → Bridge
  contexts : ContextKey → Bool

-- The operation is about what belongs to no script.
def Op.sets : Op → Bool
  | .build _ | .cloneBridge _ | .dropBridge _ | .setLog .. | .setError .. | .cancel _ | .makeClock
  | .advanceClock .. | .dropClock _ | .complete _ | .elapse _ | .newContext _ | .dropContext _
  | .install _ | .uninstall => true
  | _ => false

namespace Machine

def settings (m : Machine) : Settings where
  target := m.target
  callbacks := m.callbacks
  canceled := m.canceled
  signals := m.signals
  now := m.now
  clocks := m.clocks
  bridges b := { m.bridges.get b with registry := default }
  contexts c := (m.contexts.get c).held

theorem setBridge_settings {m : Machine} {b : BridgeKey} {f : Bridge → Bridge}
    (same : ∀ bridge, { f bridge with registry := default } = { bridge with registry := default }) :
    (m.setBridge b f).settings = m.settings := by
  have bridges : (m.setBridge b f).settings.bridges = m.settings.bridges :=
    funext fun b' => Slots.field_update (fun bridge : Bridge => { bridge with registry := default })
      same m.bridges b b'
  exact congrArg (fun bridges => { m.settings with bridges }) bridges

theorem hasCome_of_settings {m n : Machine} (same : n.settings = m.settings) :
    n.hasCome = m.hasCome := by
  have signals : n.signals = m.signals := congrArg Settings.signals same
  have clocks : n.clocks = m.clocks := congrArg Settings.clocks same
  have now : n.now = m.now := congrArg Settings.now same
  funext what
  unfold hasCome
  rw [signals, clocks, now]

theorem bridge_of_bridges {m n : Machine} {α : Type} (same : n.settings.bridges = m.settings.bridges)
    (f : Bridge → α) (blind : ∀ bridge, f { bridge with registry := default } = f bridge)
    (b : BridgeKey) : f (n.bridges.get b) = f (m.bridges.get b) := by
  rw [← blind, ← blind (m.bridges.get b)]
  exact congrArg (fun bridges => f (bridges b)) same

theorem bridge_of_settings {m n : Machine} {α : Type} (same : n.settings = m.settings)
    (f : Bridge → α) (blind : ∀ bridge, f { bridge with registry := default } = f bridge)
    (b : BridgeKey) : f (n.bridges.get b) = f (m.bridges.get b) :=
  bridge_of_bridges (congrArg Settings.bridges same) f blind b

-- The bridges of `m` are in `n`, as they were built.
def SameBuilt (m n : Machine) : Prop :=
  ∀ b, b < m.bridges.size → b < n.bridges.size ∧ (n.bridges.get b).built = (m.bridges.get b).built

namespace SameBuilt

variable {m n k : Machine}

theorem trans (left : m.SameBuilt n) (right : n.SameBuilt k) : m.SameBuilt k := by
  intro b made
  obtain ⟨there, same⟩ := left b made
  obtain ⟨there', same'⟩ := right b there
  exact ⟨there', same'.trans same⟩

theorem refl : m.SameBuilt m := fun _ made => ⟨made, rfl⟩

theorem setBridge {b : BridgeKey} {f : Bridge → Bridge}
    (same : ∀ bridge, (f bridge).built = bridge.built) : m.SameBuilt (m.setBridge b f) := by
  intro b' made
  exact ⟨Nat.lt_of_lt_of_le made (Slots.size_le_update ..), Slots.field_update Bridge.built same ..⟩

theorem of_add {bridge : Bridge} (bridges : n.bridges = m.bridges.add bridge) : m.SameBuilt n := by
  intro b made
  rw [bridges, Slots.get_add_old made]
  exact ⟨Nat.lt_of_lt_of_le made (Slots.size_le_add ..), rfl⟩

end SameBuilt

-- `n` comes from `m` by doing `acts`, and by what only scripts, runs and diagnostics show.
structure Shows (m : Machine) (acts : List Act) (n : Machine) : Prop where
  acts : n.acts = acts ++ m.acts
  built : m.SameBuilt n
  tasks : n.tasks = m.tasks
  stack : n.stack = m.stack
  settings : n.settings = m.settings

structure Notes (m : Machine) (acts : List Act) (n : Machine) : Prop extends Shows m acts n where
  still : m.Still n

structure Tells (m : Machine) (acts : List Act) (n : Machine) : Prop extends Shows m acts n where
  row : m.Sections n

structure Takes (m : Machine) (turn : Turn) (after : Machine × Reaction) : Prop where
  acts : after.1.acts = turn.acts ++ m.acts
  stack : after.1.stack = (turn.asks.map Prod.snd).toList ++ m.stack
  call : after.2.call? = turn.asks.map Prod.fst
  tasks : after.1.tasks = turn.edits.foldl Edit.apply m.tasks
  row : m.Sections after.1
  built : m.SameBuilt after.1
  come : ∀ n, m.hasCome n → after.1.hasCome n

-- Only the operations that are there for it change what belongs to no script.
structure Plays (m : Machine) (turn : Turn) (after : Machine × Reaction) : Prop
    extends Takes m turn after where
  settings : after.1.settings = m.settings

variable {m n k : Machine}

namespace Shows

variable {earlier later : List Act}

theorem refl : m.Shows [] m := ⟨rfl, .refl, rfl, rfl, rfl⟩

theorem trans (left : m.Shows earlier n) (right : n.Shows later k) :
    m.Shows (later ++ earlier) k := by
  refine ⟨?_, left.built.trans right.built, right.tasks.trans left.tasks,
    right.stack.trans left.stack, right.settings.trans left.settings⟩
  rw [right.acts, left.acts, List.append_assoc]

theorem log {e : Event} : m.Shows e.act?.toList (m.log e) := by
  refine ⟨?_, .refl, rfl, rfl, rfl⟩
  unfold Machine.acts Machine.log
  cases shown : e.act? <;> simp [shown]

end Shows

namespace Notes

variable {earlier later : List Act}

theorem refl : m.Notes [] m := ⟨.refl, .refl⟩

theorem trans (left : m.Notes earlier n) (right : n.Notes later k) : m.Notes (later ++ earlier) k :=
  ⟨left.toShows.trans right.toShows, left.still.trans right.still⟩

theorem quiet (left : m.Notes earlier n) (right : n.Notes [] k) : m.Notes earlier k := left.trans right

theorem altered {scripts : Slots Script} {runs : Slots Run} {fibers : Slots Fiber}
    {active : List TaskKey} : m.Notes [] { m with scripts, runs, fibers, active } :=
  ⟨⟨rfl, .refl, rfl, rfl, rfl⟩, .of rfl rfl rfl⟩

-- Who is in the registry of a bridge is seen by no turn.
theorem filed {b : BridgeKey} {f : Bridge → Bridge}
    (same : ∀ bridge, { f bridge with registry := default } = { bridge with registry := default }) :
    m.Notes [] (m.setBridge b f) := by
  have built (bridge : Bridge) : (f bridge).built = bridge.built := by
    change Bridge.built { f bridge with registry := default } = _
    rw [same bridge]
    rfl
  exact ⟨⟨rfl, .setBridge built, rfl, rfl, setBridge_settings same⟩, .of rfl rfl rfl⟩

theorem log {e : Event} (inner : e.inner = true) : m.Notes e.act?.toList (m.log e) :=
  ⟨.log, Still.refl.log inner⟩

theorem mark {s : ScriptKey} {x : Milestone} : m.Notes [.deed (.marked s x)] (m.mark s x) :=
  log (e := .script s x) rfl

theorem told {d : Diagnostic} : m.Notes d.act?.toList (m.tell d) := log (e := .told d m.scope) rfl

-- A diagnostic that no handler is behind.
theorem tell {d : Diagnostic} (left : m.Notes earlier n) (plain : d.act? = none) :
    m.Notes earlier (n.tell d) := by
  have quiet : d.act?.toList = [] := by rw [plain]; rfl
  exact left.quiet (quiet ▸ told)

end Notes

namespace Tells

variable {earlier later : List Act}

theorem trans (left : m.Tells earlier n) (right : n.Tells later k) :
    m.Tells (later ++ earlier) k :=
  ⟨left.toShows.trans right.toShows, left.row.trans right.row⟩

theorem of_notes (notes : m.Notes earlier n) : m.Tells earlier n :=
  ⟨notes.toShows, Sections.start.quiet notes.still⟩

theorem refl : m.Tells [] m := of_notes .refl

theorem quiet (left : m.Tells earlier n) (right : n.Tells [] k) : m.Tells earlier k := left.trans right

theorem altered {scripts : Slots Script} {runs : Slots Run} {fibers : Slots Fiber}
    {active : List TaskKey} : m.Tells [] { m with scripts, runs, fibers, active } := of_notes .altered

theorem told {d : Diagnostic} : m.Tells d.act?.toList (m.tell d) := of_notes .told

theorem tell {d : Diagnostic} (left : m.Tells earlier n) (plain : d.act? = none) :
    m.Tells earlier (n.tell d) := left.quiet (of_notes (Notes.refl.tell plain))

theorem glanced {e : Event} (glances : e.glances = true) : m.Tells e.act?.toList (m.log e) :=
  ⟨.log, Sections.start.glanced glances⟩

theorem guarded {l : Lock} (notes : (m.lock l).Notes earlier n) : m.Tells earlier (n.unlock l) :=
  ⟨⟨notes.acts, notes.built, notes.tasks, notes.stack, notes.settings⟩,
    Sections.start.guarded notes.still⟩

theorem reading {l : Lock} : m.Tells [] ((m.lock l).unlock l) := guarded .refl

end Tells

namespace Plays

variable {turn : Turn} {earlier : List Act} {after : Machine × Reaction}

theorem following (plays : n.Plays turn after) (tells : m.Tells earlier n) :
    m.Plays (turn.following earlier) after := by
  refine ⟨⟨?_, ?_, plays.call, ?_, tells.row.trans plays.row,
    tells.built.trans plays.built, ?_⟩, plays.settings.trans tells.settings⟩
  · rw [plays.acts, tells.acts]
    simp [Turn.acts, Turn.following]
  · rw [plays.stack, tells.stack]
    rfl
  · rw [plays.tasks, tells.tasks]
    rfl
  · intro what come
    exact plays.come what (hasCome_of_settings tells.settings ▸ come)

theorem quietly (plays : n.Plays turn after) (tells : m.Tells [] n) : m.Plays turn after := by
  have same : turn.following [] = turn := by simp [Turn.following]
  exact same ▸ plays.following tells

theorem of_tells {acts : List Act} {r : Reaction} (tells : m.Tells acts n) (back : r.call? = none) :
    m.Plays { before := acts } (n, r) := by
  refine ⟨⟨tells.acts, tells.stack, back, tells.tasks, tells.row, tells.built, ?_⟩,
    tells.settings⟩
  intro what come
  exact hasCome_of_settings tells.settings ▸ come

theorem nothing {r : Reaction} (back : r.call? = none) : m.Plays {} (m, r) := of_tells .refl back

theorem ask {q : HostCall} {frame : Frame} : m.Plays { asks := some (q, frame) } (m.ask q frame) :=
  ⟨⟨rfl, rfl, rfl, rfl, Sections.start.asked, .refl, fun _ come => come⟩, rfl⟩

theorem editing (edit : Edit) (active : List TaskKey)
    (plays : { m with tasks := edit.apply m.tasks, active }.Plays turn after) :
    m.Plays { turn with edits := edit :: turn.edits } after :=
  have altered : m.Sections { m with tasks := edit.apply m.tasks, active } :=
    Sections.start.alter rfl rfl rfl
  ⟨⟨plays.acts, plays.stack, plays.call, plays.tasks, altered.trans plays.row, plays.built,
    plays.come⟩, plays.settings⟩

end Plays

-- Letting go of what nobody holds is noticed by nobody.
theorem Takes.swept {turn : Turn} {after : Machine × Reaction} (takes : m.Takes turn after)
    (tells : after.1.Tells [] n) : m.Takes turn (n, after.2) := by
  refine ⟨tells.acts.trans takes.acts, tells.stack.trans takes.stack, takes.call,
    tells.tasks.trans takes.tasks, takes.row.trans tells.row,
    takes.built.trans tells.built, ?_⟩
  intro what come
  exact hasCome_of_settings tells.settings ▸ takes.come what come

theorem settle_notes {r : RunKey} {o : Outcome} : m.Notes [] (m.settle r o) := by
  unfold settle
  split
  · exact .refl
  · cases o with
    | ok => exact .altered
    | error e =>
      dsimp only
      split
      · exact .altered
      · exact Notes.altered.tell rfl

theorem settleIf_notes {canceled : Bool} {r : RunKey} {o : Outcome} :
    m.Notes [] (if canceled then m.settle r o else m) := by
  split
  · exact settle_notes
  · exact .refl

theorem settleTelling_notes {r : RunKey} {o : Outcome} {d : Diagnostic} (plain : d.act? = none) :
    m.Notes [] (m.settleTelling r o d) := by
  unfold settleTelling
  split
  · exact .refl
  · exact settle_notes.tell plain

theorem settleCurrent_notes {s : ScriptKey} {o : Outcome} {d : Diagnostic} (plain : d.act? = none) :
    m.Notes [] (m.settleCurrent s o d) := by
  unfold settleCurrent
  split
  · exact settleTelling_notes plain
  · exact .refl

theorem arm_tells {s : ScriptKey} {token : Option TokenKey} :
    m.Tells [.deed (.marked s (.armed m.runs.size (m.isCanceled token)))] (m.arm s token).1 := by
  refine Tells.guarded (l := .run s) (Notes.quiet ?_ .altered)
  refine Notes.quiet (Notes.quiet ?_ settleIf_notes) (settleCurrent_notes rfl)
  exact Notes.altered.trans .mark

theorem enter_tells {s : ScriptKey} :
    m.Tells [.deed (.marked s (.entered (m.tokenCanceled s)))] (m.enter s) := by
  refine Tells.guarded (l := .run s) ?_
  split
  · exact Notes.mark.quiet (settleCurrent_notes rfl)
  · exact .mark

theorem settleAfter_tells {s : ScriptKey} {wasStart : Bool} {result : CallResult} :
    m.Tells [.deed (.marked s (.returned wasStart result (m.tokenCanceled s)))]
      (m.settleAfter s wasStart result) := by
  refine Tells.guarded (l := .run s) ?_
  split
  · exact .mark
  · refine Notes.mark.quiet ?_
    cases result with
    | error => exact settleIf_notes.quiet (settleTelling_notes rfl)
    | yielded => exact settleIf_notes.tell rfl
    | done => exact settleIf_notes.quiet (settleTelling_notes rfl)

theorem fail_tells {s : ScriptKey} {e : BridgeError} :
    m.Tells [.deed (.marked s (.failed e))] (m.fail s e) := by
  refine Tells.guarded (l := .run s) ?_
  split
  · split
    · exact Notes.mark.tell rfl
    · exact (Notes.mark.tell rfl).quiet settle_notes
  · exact Notes.mark.tell rfl

theorem tear_tells {s : ScriptKey} : m.Tells [.deed (.marked s .torn)] (m.tear s) := by
  refine Tells.guarded (l := .run s) ?_
  split
  · exact Notes.mark.quiet settle_notes
  · exact .mark

theorem sweepScript_notes {s : ScriptKey} : m.Notes [] (m.sweepScript s) := by
  unfold sweepScript
  split
  · exact .altered
  · unfold freeScript
    dsimp only
    split <;> exact .altered

theorem sweepContext_tells {c : ContextKey} : m.Tells [] (m.sweepContext c) := by
  unfold sweepContext
  split
  · exact .refl
  · let f (context : Context) : Context := { context with disposed := true }
    let left : Machine := { m with contexts := m.contexts.update c f }
    have contexts : (fun c' => (left.contexts.get c').held) = m.settings.contexts :=
      funext fun c' => Slots.field_update Context.held (f := f) (fun _ => rfl) m.contexts c c'
    have released : m.Sections left := Sections.start.alter rfl rfl rfl
    exact ⟨⟨rfl, .refl, rfl, rfl, congrArg (fun contexts => { m.settings with contexts }) contexts⟩,
      released.glanced rfl⟩

theorem foldl_tells {f : Machine → Nat → Machine}
    (one : ∀ {m : Machine} {k : Nat}, m.Tells [] (f m k)) (keys : List Nat) :
    m.Tells [] (keys.foldl f m) := by
  induction keys generalizing m with
  | nil => exact .refl
  | cons k rest ih => exact one.quiet ih

theorem sweep_tells : m.Tells [] m.sweep :=
  (foldl_tells (.of_notes sweepScript_notes) _).quiet (foldl_tells sweepContext_tells _)

theorem finishTask_plays {t : TaskKey} : m.Plays { edits := [.closed t] } (m.finishTask t) :=
  .editing (.closed t) m.active.tail (.nothing rfl)

theorem complete_plays {origin : Origin} :
    m.Plays { edits := close? origin.task? } (m.complete origin) := by
  cases origin with
  | host => exact .nothing rfl
  | upcall kind id => exact .nothing rfl
  | task t => exact finishTask_plays

theorem abort_plays {origin : Origin} {p : Panic} :
    m.Plays { edits := close? origin.task? } (m.abort origin p) := by
  cases origin with
  | host => exact .nothing rfl
  | upcall kind id => exact .of_tells (sweep_tells.tell rfl) rfl
  | task t => exact finishTask_plays

theorem Tells.deliverTurn {n : Machine} {acts : List Act} (tells : m.Tells acts n) (b : BridgeKey)
    (told : Option ScriptKey) (e : BridgeError) (origin : Origin) (kept : Option Notification) :
    n.deliverTurn b told e origin kept = m.deliverTurn b told e origin kept := by
  have handler : (n.bridges.get b).error = (m.bridges.get b).error :=
    bridge_of_settings tells.settings Bridge.error (fun _ => rfl) b
  unfold Machine.deliverTurn
  rw [handler]

variable {b : BridgeKey} {told : Option ScriptKey} {e : BridgeError} {origin : Origin}
  {kept : Option Notification}

theorem deliver_plays : m.Plays (m.deliverTurn b told e origin kept) (m.deliver b told e origin kept) := by
  have handler : (m.errorHandler b).2 = (m.bridges.get b).error := rfl
  have read : m.Tells [] (m.errorHandler b).1 := .reading
  unfold deliver deliverTurn
  dsimp only
  rw [handler]
  cases (m.bridges.get b).error with
  | builtIn =>
    have unhandled : m.Tells [.unhandled e] ((m.errorHandler b).1.tell (.unhandled e)) :=
      read.trans (.told (d := .unhandled e))
    exact complete_plays.following unhandled
  | host h => exact Plays.ask.quietly read

theorem report_plays : m.Plays (m.deliverTurn b told e origin kept) (m.report b told e origin kept) :=
  (deliver_plays (m := m.tell (.reporting e))).quietly (Tells.refl.tell rfl)

variable {c : Service}

theorem refuseCommand_plays : m.Plays (m.refuseTurn c e) (m.refuseCommand c e) := report_plays

theorem failAndReport_plays : m.Plays (m.failTurn c e) (m.failAndReport c e) := by
  have failed : m.Tells [.deed (.marked c.script (.failed e))] (m.fail c.script e) := fail_tells
  have reported : (m.fail c.script e).Plays
      ((m.fail c.script e).deliverTurn c.bridge (some c.script) e c.origin none)
      ((m.fail c.script e).report c.bridge (some c.script) e c.origin none) := report_plays
  rw [failed.deliverTurn] at reported
  exact reported.following failed

variable {s : ScriptKey}

theorem register_plays {f : FiberKey} : m.Plays (m.registerTurn b f) (m.register b f) := by
  let id := (m.fibers.get f).id
  let made : Machine := { m.setFiber f fun fiber => { fiber with held := false } with
    scripts := m.scripts.add { id, fiber := f, bridge := b, disposed := false } }
  have entered : m.Tells [] made := .altered
  unfold register
  dsimp only
  split
  · rename_i s found
    have rival : m.rival? b f = some s := found
    have turn : m.registerTurn b f = { asks := some (.dispose f, .refusing b m.scripts.size) } := by
      simp only [registerTurn, rival]
    rw [turn]
    -- The registry is left before the refused fiber is released.
    have looked : m.Tells [] ((made.lock (.registry b)).unlock (.registry b)) :=
      entered.quiet .reading
    exact Plays.ask.quietly (looked.quiet .altered)
  · rename_i vacant
    have rival : m.rival? b f = none := vacant
    have turn : m.registerTurn b f = {} := by simp only [registerTurn, rival]
    rw [turn]
    let filed := (made.lock (.registry b)).setBridge b fun bridge =>
      { bridge with registry := bridge.registry.insert id m.scripts.size }
    have entered : m.Tells [] (filed.unlock (.registry b)) :=
      entered.quiet (.guarded (.filed fun _ => rfl))
    exact .of_tells ((entered.quiet .altered).tell rfl) rfl

theorem readStatus_tells {f : FiberKey} :
    m.Tells [.deed (.read f (m.fibers.get f).ordinal)] (m.readStatus f).1 := by
  have read : m.Tells [.deed (.read f (m.fibers.get f).ordinal)]
      (m.log (.read f (m.fibers.get f).ordinal)) :=
    .glanced (e := .read f (m.fibers.get f).ordinal) rfl
  unfold readStatus
  dsimp only
  split
  · exact read
  · exact read.tell rfl

theorem status_tells : m.Tells (m.statusTurn s).before (m.status s).1 := by
  unfold status statusTurn
  dsimp only
  split
  · exact .refl
  · exact readStatus_tells

theorem status_plays {r : Reaction} (back : r.call? = none) :
    m.Plays (m.statusTurn s) ((m.status s).1, r) := by
  have plain : m.statusTurn s = { before := (m.statusTurn s).before } := by
    unfold statusTurn
    dsimp only
    split <;> rfl
  rw [plain]
  exact .of_tells status_tells back

theorem readResult_tells {code : Int32} : m.Tells [] (m.readResult code).1 := by
  unfold readResult
  dsimp only
  split
  · exact .refl
  · exact Tells.refl.tell rfl

theorem result_tells {wasStart : Bool} {code : Int32} :
    m.Tells [.deed (.marked s (.returned wasStart (CallResult.ofCode code) (m.tokenCanceled s)))]
      ((m.readResult code).1.settleAfter s wasStart (m.readResult code).2) := by
  rw [← readResult_tokenCanceled m code s]
  exact readResult_tells.trans settleAfter_tells

theorem refuseResume_plays {who : Resumer} (disposed : (m.scripts.get s).disposed) :
    m.Plays (m.resumeTurn s who) (m.refuseResume s who) := by
  unfold resumeTurn
  dsimp only
  rw [if_pos disposed]
  cases who with
  | host byHandle => exact .nothing rfl
  | command c => exact refuseCommand_plays
  | task t => exact deliver_plays

theorem resume_plays {who : Resumer} : m.Plays (m.resumeTurn s who) (m.resume s who) := by
  unfold resume
  dsimp only
  split
  · rename_i disposed
    exact refuseResume_plays disposed
  · rename_i live
    unfold resumeTurn
    dsimp only
    rw [if_neg live]
    exact Plays.ask.following (enter_tells.tell rfl)

theorem resumeDone_plays {who : Resumer} :
    m.Plays { edits := close? who.task? } (m.resumeDone who) := by
  cases who with
  | host byHandle => exact .nothing rfl
  | command c => exact complete_plays
  | task t => exact finishTask_plays

theorem disposed_plays : m.Plays { before := [.deed (.marked s .torn)] } (m.disposed s) := by
  let b := (m.scripts.get s).bridge
  let unfiled := (m.lock (.registry b)).setBridge b fun bridge =>
    { bridge with registry := bridge.registry.remove (m.scripts.get s).id s }
  have removed : m.Tells [] (unfiled.unlock (.registry b)) := .guarded (.filed fun _ => rfl)
  exact .of_tells ((removed.trans tear_tells).tell rfl) rfl

theorem dispose_plays {dropped : Bool} : m.Plays (m.disposeTurn s dropped) (m.dispose s dropped) := by
  unfold dispose disposeTurn
  dsimp only
  split
  · exact .nothing rfl
  · exact Plays.ask.quietly .altered

theorem dropHandle_plays : m.Plays (m.disposeTurn s true) (m.dropHandle s) := by
  have disowned : m.Tells [] (m.setScript s fun script => { script with owned := false }) := .altered
  have same : (m.setScript s fun script => { script with owned := false }).disposeTurn s true =
      m.disposeTurn s true := by
    simp only [disposeTurn, setScript, Slots.get_update, if_true]
  exact same ▸ dispose_plays.quietly disowned

theorem dropFiber_plays {f : FiberKey} :
    m.Plays { asks := some (.dispose f, .releasing f) } (m.dropFiber f) :=
  Plays.ask.quietly .altered

theorem arm_fiber {token : Option TokenKey} :
    ((m.arm s token).1.scripts.get s).fiber = (m.scripts.get s).fiber := by
  have scripts : (m.arm s token).1.scripts = m.scripts.update s fun script =>
      { script with run := some m.runs.size, token } := congrArg Core.scripts (arm_core (m := m) s token)
  rw [scripts, Slots.get_update, if_pos rfl]

theorem start_plays {token : Option TokenKey} : m.Plays (m.startTurn s token) (m.start s token) := by
  unfold startTurn start
  dsimp only
  cases live : (m.scripts.get s).disposed with
  | true =>
    have silent : m.statusTurn s = {} := by simp only [statusTurn, live, if_true]
    rw [status_disposed live, silent]
    exact .nothing rfl
  | false =>
    have read : m.statusTurn s = { before :=
        [.deed (.read (m.scripts.get s).fiber (m.fibers.get (m.scripts.get s).fiber).ordinal)] } := by
      simp only [statusTurn, live, Bool.false_eq_true, if_false]
    have tells : m.Tells (m.statusTurn s).before (m.status s).1 := status_tells
    obtain ⟨n, looked, noted, tokens⟩ := status_live live
    rw [looked, read] at tells
    rw [looked]
    cases startable : (Status.ofOrdinal
      (m.fibers.get (m.scripts.get s).fiber).ordinal).startable with
    | false =>
      simp only [startable, Bool.and_false, Bool.false_eq_true, if_false]
      rw [read]
      exact .of_tells tells rfl
    | true =>
      simp only [startable, Bool.not_false, Bool.and_true, if_true]
      have sizes : n.runs.size = m.runs.size := congrArg (fun c => c.runs.size) noted
      have scripts : n.scripts = m.scripts := congrArg Core.scripts noted
      have canceled : n.isCanceled token = m.isCanceled token := by
        unfold isCanceled
        rw [tokens]
      have armed : n.Tells [.deed (.marked s (.armed n.runs.size (n.isCanceled token)))]
          (n.arm s token).1 := arm_tells
      have key : (n.arm s token).2 = m.runs.size := sizes
      rw [arm_fiber, scripts, key]
      rw [sizes, canceled] at armed
      exact Plays.ask.following ((tells.trans armed).tell rfl)

theorem leave_plays {work : Work} : m.Plays (leaveTurn c work) ((m.spawn c work).complete c.origin) := by
  have left : (m.spawn c work).Plays { edits := close? c.origin.task? }
      ((m.spawn c work).complete c.origin) := complete_plays
  exact .editing (.left _) m.active left

theorem resumeWhen_plays {n : Notification} : m.Plays (m.waitTurn c n) (m.resumeWhen c n) := by
  unfold resumeWhen waitTurn
  split
  · exact leave_plays
  · exact report_plays

variable {k : SystemCommand}

theorem serve_plays : m.Plays (m.serveTurn c k) (m.serve c k) := by
  have told : m.Tells [] (m.tell (.systemCommand (m.idOf c.script) c.name)) := Tells.refl.tell rfl
  unfold serve serveTurn
  have same : (m.tell (.systemCommand (m.idOf c.script) c.name)).lacking? c k = m.lacking? c k := rfl
  dsimp only
  rw [same]
  cases m.lacking? c k with
  | some reason => exact refuseCommand_plays.quietly told
  | none => exact Plays.ask.quietly told

theorem logMessage_plays {message : String} : m.Plays (m.logTurn c message) (m.logMessage c message) := by
  have handler : (m.logHandler c.bridge).2 = (m.bridges.get c.bridge).log := rfl
  unfold logMessage logTurn
  dsimp only
  rw [handler]
  cases (m.bridges.get c.bridge).log with
  | builtIn =>
    let n := (m.logHandler c.bridge).1.tell (.scriptMessage message)
    have logged : m.Tells [.message message] n :=
      Tells.reading.trans (.told (d := .scriptMessage message))
    have same : n.resumeTurn c.script (.command c) = m.resumeTurn c.script (.command c) := rfl
    have resumed : n.Plays (n.resumeTurn c.script (.command c)) (n.resume c.script (.command c)) :=
      resume_plays
    rw [same] at resumed
    exact Plays.following (n := n) resumed logged
  | host h => exact Plays.ask.quietly .reading

theorem waitSeconds_plays {seconds : Double} :
    m.Plays (m.secondsTurn c seconds) (m.waitSeconds c seconds) := by
  unfold waitSeconds secondsTurn
  cases Duration.ofSeconds seconds with
  | error fault => exact refuseCommand_plays
  | ok d =>
    dsimp only
    cases (m.bridges.get c.bridge).timers with
    | none => exact .ask
    | some timers =>
      cases timers with
      | host => exact .ask
      | runtime => exact resumeWhen_plays

theorem waitFrames_plays {count : UInt32} :
    m.Plays (m.framesTurn c count) (m.waitFrames c count) := by
  unfold waitFrames framesTurn
  cases (m.bridges.get c.bridge).frames with
  | none => exact .ask
  | some frames =>
    cases frames with
    | host => exact .ask
    | clock key => exact resumeWhen_plays

theorem decoded_plays {d : Decoding} : m.Plays (m.decodedTurn c k d) (m.decoded c k d) := by
  unfold decoded decodedTurn
  cases k with
  | log =>
    dsimp only
    cases shapeOf c.name d Json.asText with
    | error e => exact refuseCommand_plays
    | ok value => exact logMessage_plays
  | waitSecs =>
    dsimp only
    cases shapeOf c.name d Json.asNumber with
    | error e => exact refuseCommand_plays
    | ok value => exact waitSeconds_plays
  | waitFrames =>
    dsimp only
    cases shapeOf c.name d Json.asCount with
    | error e => exact refuseCommand_plays
    | ok value => exact waitFrames_plays

theorem routePanicked_plays {p : Panic} :
    m.Plays (m.failTurn c (.forwardedHandler c.name p.message)) (m.routePanicked c p) :=
  failAndReport_plays

variable {id : ScriptId} {word : Word} {ambient : Bool}

theorem forward_plays {s : ScriptKey} {text : String} :
    m.Plays
      (if m.runtimeFor ⟨b, s, text, word, ambient, origin⟩ then
        { asks := some (.route b s text word, .routing ⟨b, s, text, word, ambient, origin⟩) }
      else m.failTurn ⟨b, s, text, word, ambient, origin⟩ (.notSupported text noRuntime))
      (m.forward ⟨b, s, text, word, ambient, origin⟩) := by
  let n := m.tell (.forwarding (m.idOf s) text)
  have told : m.Tells [] n := Tells.refl.tell rfl
  have same : n.runtimeFor ⟨b, s, text, word, ambient, origin⟩ =
      m.runtimeFor ⟨b, s, text, word, ambient, origin⟩ := rfl
  unfold forward
  dsimp only
  rw [same]
  split
  · exact Plays.ask.quietly told
  · exact (failAndReport_plays (m := n)).quietly told

theorem command_plays {name : ByteArray} :
    m.Plays (m.commandTurn b id name word ambient origin) (m.command b id name word ambient origin) := by
  let n := (m.lookup b id).1
  have looked : m.Tells [] n := .reading
  have found : (m.lookup b id).2 = m.find? b id := rfl
  have bridges : (m.lookup b id).1.bridges = m.bridges := rfl
  unfold command commandTurn
  dsimp only
  rw [found]
  cases m.find? b id with
  | none => exact (report_plays (m := n)).quietly looked
  | some s =>
    dsimp only
    rw [bridges]
    cases (m.bridges.get b).config.reserved? name with
    | some k => exact (serve_plays (m := n)).quietly looked
    | none =>
      unfold forwardTurn
      dsimp only
      cases Utf8.read name with
      | error fault => exact (failAndReport_plays (m := n)).quietly looked
      | ok text =>
        dsimp only
        cases (m.bridges.get b).router with
        | false => exact (failAndReport_plays (m := n)).quietly looked
        | true => exact (forward_plays (m := n)).quietly looked

theorem raise_plays {description : String} :
    m.Plays (m.raiseTurn b id description origin) (m.raise b id description origin) := by
  let n := (m.lookup b id).1
  have found : (m.lookup b id).2 = m.find? b id := rfl
  unfold raise raiseTurn
  dsimp only
  rw [found]
  cases m.find? b id with
  | none => exact (report_plays (m := n)).quietly .reading
  | some s =>
    have failed : (n.tell (.scriptRaised id description)).Tells
        [.deed (.marked s (.failed (.scriptExecution description)))]
        ((n.tell (.scriptRaised id description)).fail s (.scriptExecution description)) := fail_tells
    have told : m.Tells [] (n.tell (.scriptRaised id description)) :=
      Tells.tell (n := n) .reading rfl
    exact complete_plays.following (told.trans failed)

variable {t : TaskKey}

theorem forwardFailed_plays {message : String} :
    m.Plays (m.failedTurn t message) (m.forwardFailed t message) := by
  let script := (m.tasks.get t).script
  let e := BridgeError.forwardedHandler (m.tasks.get t).command message
  let n := m.tell (.forwardFailed message)
  have failed : m.Tells [.deed (.marked script (.failed e))] (n.fail script e) :=
    (Tells.refl.tell rfl).trans fail_tells
  have delivered : (n.fail script e).Plays
      ((n.fail script e).deliverTurn (m.tasks.get t).bridge (some script) e (.task t) none)
      ((n.fail script e).deliver (m.tasks.get t).bridge (some script) e (.task t) none) :=
    deliver_plays
  rw [failed.deliverTurn] at delivered
  exact delivered.following failed

theorem polled_plays {p : Polled} : m.Plays (m.polledTurn t p) (m.polled t p) := by
  cases p with
  | pending => exact .of_tells .altered rfl
  | failed causes => exact forwardFailed_plays
  | succeeded =>
    let n := m.tell .forwardCompleted
    have told : m.Tells [] n := Tells.refl.tell rfl
    unfold polled polledTurn
    dsimp only
    have same : n.bridges = m.bridges := rfl
    rw [same]
    split
    · exact (resume_plays (m := n)).quietly told
    · exact (finishTask_plays (m := n)).quietly told

theorem pollTask_plays : m.Plays (m.pollTurn t) (m.pollTask t) := by
  unfold pollTask pollTurn
  dsimp only
  split
  · exact .nothing rfl
  · cases (m.tasks.get t).work with
    | forward future => exact Plays.ask.quietly .altered
    | wait n =>
      let script := (m.tasks.get t).script
      let begun := (m.enterTask t).setTask t fun task =>
        { task with work := .wait (m.begun n) }
      let looked := begun.tell .waitElapsed
      have bridge : (looked.tasks.get t).bridge = (m.tasks.get t).bridge :=
        Slots.field_update Task.bridge (f := fun task => { task with work := .wait (m.begun n) })
          (fun _ => rfl) ..
      have same : looked.resumeTurn script (.task t) = m.resumeTurn script (.task t) := by
        unfold resumeTurn
        dsimp only
        rw [bridge]
        rfl
      have ready : begun.hasCome = m.hasCome := rfl
      have resumed : looked.Plays (m.resumeTurn script (.task t)) (looked.resume script (.task t)) :=
        same ▸ resume_plays
      have told : begun.Tells [] looked := Tells.refl.tell rfl
      dsimp only
      change m.Plays _ (if begun.hasCome (m.begun n) then _ else _)
      rw [ready]
      split
      · exact .editing (.begun t (m.begun n)) (t :: m.active) (resumed.quietly told)
      · exact .editing (.begun t (m.begun n)) m.active (.nothing rfl)

theorem commandUpcall_plays {name : Option ByteArray} {length : Int32} :
    m.Plays (m.opTurn (.commandUpcall id name length word ambient))
      (m.commandUpcall id name length word ambient) := by
  let n := m.liveTarget.1
  have looked : m.Tells [] n := .reading
  have target : m.liveTarget.2 = m.target.filter m.bridgeAlive := rfl
  unfold commandUpcall opTurn
  dsimp only
  rw [target]
  cases m.target.filter m.bridgeAlive with
  | none => exact .of_tells (Tells.tell (n := n) looked rfl) rfl
  | some b => exact (command_plays (m := n)).quietly looked

theorem errorUpcall_plays {description : Option ByteArray} :
    m.Plays (m.opTurn (.errorUpcall id description)) (m.errorUpcall id description) := by
  let n := m.liveTarget.1
  have looked : m.Tells [] n := .reading
  have target : m.liveTarget.2 = m.target.filter m.bridgeAlive := rfl
  unfold errorUpcall opTurn
  dsimp only
  rw [target]
  cases m.target.filter m.bridgeAlive with
  | none => exact .of_tells (Tells.tell (n := n) looked rfl) rfl
  | some b => exact (raise_plays (m := n)).quietly looked

theorem come_of_shown {n : Machine} (signals : n.signals = m.signals) (now : n.now = m.now)
    (shown : ∀ c, (m.clocks.get c).shown ≤ (n.clocks.get c).shown) (what : Notification)
    (come : m.hasCome what) : n.hasCome what := by
  cases what with
  | signal k =>
    change n.signals.contains k
    rw [signals]
    exact come
  | frames clock target =>
    have before : target ≤ (m.clocks.get clock).shown := of_decide_eq_true come
    exact decide_eq_true (Nat.le_trans before (shown clock))
  | sleep d => exact come
  | deadline millis =>
    change decide (millis ≤ n.now)
    rw [now]
    exact come

theorem Sections.setTarget (row : m.Sections n) {b : Option BridgeKey} :
    m.Sections (n.setTarget b) := row.guarded (l := .upcallTarget) (.of rfl rfl rfl)

theorem launch_plays {op : Op} (quiet : op.sets = false) : m.Plays (m.opTurn op) (m.launch op) := by
  cases op with
  | report b e => exact report_plays
  | lookup b id =>
    have found : (m.lookup b id).2 = m.find? b id := rfl
    simp only [launch, found]
    cases m.find? b id with
    | none => exact .of_tells .reading rfl
    | some s => exact .of_tells .reading rfl
  | count b => exact .of_tells .reading rfl
  | command b id name word ambient => exact command_plays
  | error b id description => exact raise_plays
  | register b f => exact register_plays
  | start s token => exact start_plays
  | resume s byHandle => exact resume_plays
  | status s => exact status_plays rfl
  | describe s => exact status_plays rfl
  | fail s e => exact .of_tells fail_tells rfl
  | dispose s => exact dispose_plays
  | dropHandle s => exact dropHandle_plays
  | decode s command word shape => exact .ask
  | pollTask t => exact pollTask_plays
  | compile c length made =>
    have asked : m.Tells [] (m.log (.native (.compile length))) :=
      .glanced (e := .native (.compile length)) rfl
    change m.Plays {} (m.compile c length made)
    unfold compile
    cases made with
    | none => exact .of_tells asked rfl
    | some pair => exact .of_tells ((asked.quiet .altered).tell rfl) rfl
  | dropFiber f => exact dropFiber_plays
  | commandUpcall id name length word ambient => exact commandUpcall_plays
  | errorUpcall id description => exact errorUpcall_plays
  | makeFiber | setOrdinal | makeRef | dropRef | dropRun => exact .of_tells .altered rfl
  | _ => cases quiet

-- An operation that sets what belongs to no script does nothing else that a turn tells.
theorem launch_takes {op : Op} : m.Takes (m.opTurn op) (m.launch op) := by
  have still {n : Machine} {r : Reaction} (acts : n.acts = m.acts) (stack : n.stack = m.stack)
      (back : r.call? = none) (tasks : n.tasks = m.tasks) (row : m.Sections n)
      (built : m.SameBuilt n) (come : ∀ what, m.hasCome what → n.hasCome what) :
      m.Takes {} (n, r) := ⟨acts, stack, back, tasks, row, built, come⟩
  have altered {n : Machine} (held : n.held = m.held) (deadlocked : n.deadlocked = m.deadlocked)
      (events : n.events = m.events) : m.Sections n := Sections.start.alter held deadlocked events
  cases op with
  | build setup =>
    change m.Takes {} (m.build setup)
    unfold build
    split
    · exact still rfl rfl rfl rfl (Sections.start.tell.alter rfl rfl rfl) (.of_add rfl) fun _ come => come
    · exact (Plays.nothing rfl).toTakes
  | cloneBridge b =>
    exact still rfl rfl rfl rfl (altered rfl rfl rfl) (.setBridge fun _ => rfl) fun _ come => come
  | dropBridge b =>
    exact still rfl rfl rfl rfl (altered rfl rfl rfl) (.setBridge fun _ => rfl) fun _ come => come
  | setLog b h =>
    exact still rfl rfl rfl rfl (Sections.start.guarded (l := .logHandler b) (.of rfl rfl rfl))
      (.setBridge fun _ => rfl) fun _ come => come
  | setError b h =>
    exact still rfl rfl rfl rfl (Sections.start.guarded (l := .errorHandler b) (.of rfl rfl rfl))
      (.setBridge fun _ => rfl) fun _ come => come
  | cancel t => exact still rfl rfl rfl rfl (altered rfl rfl rfl) .refl fun _ come => come
  | makeClock =>
    exact still rfl rfl rfl rfl (altered rfl rfl rfl) .refl (come_of_shown rfl rfl fun c =>
      Nat.le_of_eq (FrameClock.shown_add m.clocks true c).symm)
  | advanceClock c frames =>
    exact still rfl rfl rfl rfl (altered rfl rfl rfl) .refl (come_of_shown rfl rfl fun k =>
      Nat.le.intro (FrameClock.shown_advance m.clocks c k frames).symm)
  | dropClock c =>
    exact still rfl rfl rfl rfl (altered rfl rfl rfl) .refl (come_of_shown rfl rfl fun k =>
      Nat.le_of_eq (FrameClock.shown_letGo m.clocks c k).symm)
  | complete k =>
    refine still rfl rfl rfl rfl (altered rfl rfl rfl) .refl ?_
    intro what come
    cases what with
    | signal k' =>
      have before : m.signals.contains k' := come
      change (k :: m.signals).contains k' = true
      rw [List.contains_cons, before, Bool.or_true]
    | _ => exact come
  | elapse millis =>
    refine still rfl rfl rfl rfl (altered rfl rfl rfl) .refl ?_
    intro what come
    cases what with
    | deadline reached =>
      have before : reached ≤ m.now := of_decide_eq_true come
      exact decide_eq_true (Nat.le_add_right_of_le before)
    | _ => exact come
  | newContext available =>
    have asked : m.Sections (m.log (.native .contextNew)) := Sections.start.glanced rfl
    change m.Takes {} (m.newContext available)
    unfold newContext
    dsimp only
    split
    · exact still rfl rfl rfl rfl (asked.alter rfl rfl rfl) .refl fun _ come => come
    · exact still rfl rfl rfl rfl asked .refl fun _ come => come
  | dropContext c => exact still rfl rfl rfl rfl (altered rfl rfl rfl) .refl fun _ come => come
  | install b =>
    have aimed : m.Sections (m.setTarget (some b)) := Sections.start.setTarget
    have filled : m.Sections { m.setTarget (some b) with callbacks := true } :=
      aimed.alter rfl rfl rfl
    exact still rfl rfl rfl rfl (filled.glanced rfl).tell .refl fun _ come => come
  | uninstall =>
    have silenced : m.Sections { m with callbacks := false } := altered rfl rfl rfl
    exact still rfl rfl rfl rfl (silenced.glanced rfl).setTarget.tell .refl fun _ come => come
  | _ => exact (launch_plays rfl).toTakes

theorem continue?_plays {frame : Frame} {reply : Reply} {after : Machine × Reaction}
    (continued : m.continue? frame reply = some after) : m.Plays (m.replyTurn frame reply) after := by
  cases frame with
  | starting s r =>
    cases reply with
    | code code =>
      obtain rfl := Option.some.inj continued
      exact .of_tells result_tells rfl
    | _ => cases continued
  | resuming s who =>
    cases reply with
    | code code =>
      obtain rfl := Option.some.inj continued
      exact resumeDone_plays.following result_tells
    | _ => cases continued
  | disposing s dropped =>
    cases reply with
    | done =>
      obtain rfl := Option.some.inj continued
      exact disposed_plays
    | _ => cases continued
  | refusing b s =>
    cases reply with
    | done =>
      obtain rfl := Option.some.inj continued
      exact .nothing rfl
    | _ => cases continued
  | releasing f =>
    cases reply with
    | done =>
      obtain rfl := Option.some.inj continued
      exact .of_tells .altered rfl
    | _ => cases continued
  | decoding c k =>
    cases reply with
    | decoded d =>
      obtain rfl := Option.some.inj continued
      exact decoded_plays
    | _ => cases continued
  | shaping s command shape =>
    cases reply with
    | decoded d =>
      obtain rfl := Option.some.inj continued
      exact .nothing rfl
    | _ => cases continued
  | logging c =>
    cases reply with
    | done =>
      obtain rfl := Option.some.inj continued
      exact resume_plays
    | _ => cases continued
  | reporting b s origin kept =>
    cases reply with
    | done =>
      obtain rfl := Option.some.inj continued
      exact complete_plays
    | _ => cases continued
  | scheduling c =>
    cases reply with
    | notification n =>
      obtain rfl := Option.some.inj continued
      exact resumeWhen_plays
    | _ => cases continued
  | routing c =>
    cases reply with
    | future f =>
      obtain rfl := Option.some.inj continued
      exact leave_plays
    | _ => cases continued
  | polling t =>
    cases reply with
    | polled p =>
      obtain rfl := Option.some.inj continued
      exact polled_plays
    | _ => cases continued

theorem recover_plays {frame : Frame} {p : Panic} :
    m.Plays (m.unwindTurn p frame) (m.recover p frame) := by
  cases frame with
  | starting s r => exact .of_tells .altered rfl
  | resuming s who =>
    cases who with
    | host byHandle => exact .nothing rfl
    | command c => exact abort_plays
    | task t => exact finishTask_plays
  | disposing s dropped => exact .nothing rfl
  | refusing b s => exact .nothing rfl
  | releasing f => exact .of_tells .altered rfl
  | decoding c k => exact abort_plays
  | shaping s command shape => exact .nothing rfl
  | logging c => exact abort_plays
  | reporting b s origin kept => exact abort_plays
  | scheduling c => exact abort_plays
  | routing c => exact routePanicked_plays
  | polling t => exact forwardFailed_plays

theorem step_takes {next : Machine} {move : Move} {reaction : Reaction}
    (step : Step m move next reaction) :
    { m with stack := m.below move }.Takes (m.turn move) (next, reaction) := by
  cases move with
  | invoke op =>
    obtain ⟨_, rfl, rfl⟩ := step.invoked
    have taken : m.Takes (m.opTurn op) (m.invoke op) := launch_takes.swept sweep_tells
    exact taken
  | answer reply =>
    obtain ⟨frame, rest, after, top, continued, rfl, rfl⟩ := step.answered
    have turn : m.turn (.answer reply) = { m with stack := rest }.replyTurn frame reply := by
      simp only [turn, top]
      rfl
    have below : m.below (.answer reply) = rest := by simp only [below, top, List.tail_cons]
    rw [turn, below]
    exact (continue?_plays continued).toTakes.swept sweep_tells
  | unwind p =>
    obtain ⟨frame, rest, top, rfl, rfl⟩ := step.unwound
    have turn : m.turn (.unwind p) = { m with stack := rest }.unwindTurn p frame := by
      simp only [turn, top]
      rfl
    have below : m.below (.unwind p) = rest := by simp only [below, top, List.tail_cons]
    rw [turn, below]
    exact recover_plays.toTakes.swept sweep_tells

theorem step_built {next : Machine} {move : Move} {reaction : Reaction}
    (step : Step m move next reaction) : m.SameBuilt next := (step_takes step).built

theorem step_sections {next : Machine} {move : Move} {reaction : Reaction}
    (step : Step m move next reaction) : m.Sections next := by
  have popped : m.Sections { m with stack := m.below move } := Sections.start.alter rfl rfl rfl
  exact popped.trans (step_takes step).row

def Move.sets : Move → Bool
  | .invoke op => op.sets
  | .answer _ => false
  | .unwind _ => false

theorem step_settings {next : Machine} {move : Move} {reaction : Reaction}
    (step : Step m move next reaction) (sets : move.sets = false) : next.settings = m.settings := by
  cases move with
  | invoke op =>
    obtain ⟨_, rfl, rfl⟩ := step.invoked
    exact sweep_tells.settings.trans (launch_plays sets).settings
  | answer reply =>
    obtain ⟨frame, rest, after, top, continued, rfl, rfl⟩ := step.answered
    exact sweep_tells.settings.trans (continue?_plays continued).settings
  | unwind p =>
    obtain ⟨frame, rest, top, rfl, rfl⟩ := step.unwound
    exact sweep_tells.settings.trans recover_plays.settings

end Machine

end FiberBridge
