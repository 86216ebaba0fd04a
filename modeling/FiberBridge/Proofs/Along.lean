import FiberBridge.Proofs.Coupled
import FiberBridge.Proofs.Twins

namespace FiberBridge

-- Tokens and contexts are left to the operations that are there for them.
def Op.calm : Op → Bool
  | .cancel _ => false
  | .newContext _ => false
  | .dropContext _ => false
  | _ => true

namespace Machine

variable {m n k l : Machine}

theorem freeScript_alike (alike : m.Alike k l) (s : ScriptKey) :
    m.Alike (k.freeScript s) (l.freeScript s) := by
  have script := alike.twin.script s
  have freed := alike.setScript s (f := fun script => { script with freed := true }) fun _ => rfl
  have gone := freed.setFiber (k.scripts.get s).fiber fun fiber => { fiber with gone := true }
  unfold freeScript
  dsimp only
  rw [script]
  cases (k.scripts.get s).run with
  | none => exact gone
  | some r =>
    refine gone.setRun r ?_
    intro run run' same
    exact congrArg (fun run => { run with abandoned := true }) same

theorem sweepScript_alike (alike : m.Alike k l) (s : ScriptKey) :
    m.Alike (k.sweepScript s) (l.sweepScript s) := by
  have kept : ((l.scripts.get s).freed || l.scriptHeld s) =
      ((k.scripts.get s).freed || k.scriptHeld s) :=
    alike.twin.reads (fun m => (m.scripts.get s).freed || m.scriptHeld s) fun _ _ _ => rfl
  unfold sweepScript
  rw [kept]
  split
  · exact alike
  · exact freeScript_alike alike s

theorem sweepScripts_alike (alike : m.Alike k l) (keys : List ScriptKey) :
    m.Alike (keys.foldl sweepScript k) (keys.foldl sweepScript l) := by
  induction keys generalizing k l with
  | nil => exact alike
  | cons s rest ih => exact ih (sweepScript_alike alike s)

theorem sweepContext_twin (twin : m.Twin n) (c : ContextKey) :
    (m.sweepContext c).Twin (n.sweepContext c) := by
  have kept : ((n.contexts.get c).disposed || n.contextHeld c) =
      ((m.contexts.get c).disposed || m.contextHeld c) :=
    twin.reads (fun m => (m.contexts.get c).disposed || m.contextHeld c) fun _ _ _ => rfl
  unfold sweepContext
  rw [kept]
  split
  · exact twin
  · let letGo (m : Machine) : Machine :=
      { m with contexts := m.contexts.update c fun context => { context with disposed := true } }
    exact (twin.map letGo (fun _ _ _ => rfl) rfl rfl fun _ => rfl).log _

theorem sweepContexts_twin (twin : m.Twin n) (keys : List ContextKey) :
    (keys.foldl sweepContext m).Twin (keys.foldl sweepContext n) := by
  induction keys generalizing m n with
  | nil => exact twin
  | cons c rest ih => exact ih (sweepContext_twin twin c)

theorem sweep_twin (twin : m.Twin n) : m.sweep.Twin n.sweep := by
  have keys : n.scripts.keys = m.scripts.keys := twin.reads (·.scripts.keys) fun _ _ _ => rfl
  have scripts := (sweepScripts_alike (.refl twin) m.scripts.keys).twin
  have contexts := scripts.reads (·.contexts.keys) fun _ _ _ => rfl
  unfold sweep
  dsimp only
  rw [keys, contexts]
  exact sweepContexts_twin scripts _

theorem Alike.agrees (alike : m.Alike k l) : Agrees (.whole false) k l where
  script s _ := (alike.twin.script s).trans (View.whole_ofScript _).symm
  fiber f _ := alike.twin.reads (·.fibers.get f) fun _ _ _ => rfl
  task t _ := alike.twin.task t
  settings := by
    cases alike.twin with
    | veiled => rfl
  alive b := alike.twin.reads (·.bridgeAlive b) fun _ _ _ => rfl
  entry b id _ :=
    (alike.twin.reads (·.find? b id) fun _ _ _ => rfl).trans (Option.map_id_apply ..).symm
  found _ _ _ _ _ := View.whole_ours
  ownFiber _ _ := trivial
  ownId _ _ := trivial
  newScript := ⟨trivial, (alike.twin.reads (·.scripts.size) fun _ _ _ => rfl).symm⟩
  newFiber := (alike.twin.reads (·.fibers.size) fun _ _ _ => rfl).symm
  newRun := ⟨trivial, alike.twin.size.symm⟩

-- No operation tells twins apart, and on the way no token is canceled and no context let go of.
def paired (m : Machine) : Coupling where
  toView := .whole false
  sides := m.Alike
  after := m.Along
  agrees alike := alike.agrees
  tell alike d := alike.tell d
  lock alike l := alike.lock l
  unlock alike l := alike.unlock l
  look alike _ _ := alike.log rfl
  compiles alike _ := alike.log rfl
  setScript alike _ bland := alike.setScript _ bland.run
  addScript alike script _ _ first _ := by
    rw [View.whole_ofScript]
    exact alike.addScript script first
  setFiber alike _ f := alike.setFiber _ f
  addFiber alike fiber := alike.map (fun m => { m with fibers := m.fibers.add fiber })
    (fun _ _ _ => rfl) rfl rfl rfl rfl fun _ => rfl
  dropRun alike _ := alike.setRun _ fun _ _ same =>
    congrArg (fun run => { run with awaited := false }) same
  setTask alike _ _ := alike.setTask _ _
  spawn alike _ work := alike.spawn _ work
  enterTask alike t := alike.enterTask t
  leaveTask alike := alike.leaveTask
  insert alike _ _ b := alike.setBridge b _
  remove alike _ _ b := alike.setBridge b _
  arm alike _ _ := (arm_along alike _).alike
  enter alike _ := alike.enter _
  settleAfter alike _ wasStart result := alike.settleAfter _ wasStart result
  fail alike _ e := alike.fail _ e
  tear alike _ := alike.tear _
  ask alike q frame _ := by
    rw [View.whole_ofCall, View.whole_ofFrame, Frame.hostedIf_false]
    exact alike.ask q frame
  back alike like := ⟨alike, like.eq⟩

theorem build_along (alike : m.Alike k l) (setup : Setup) :
    m.Along (k.build setup) (l.build setup) := by
  have size : l.bridges.size = k.bridges.size := alike.twin.reads (·.bridges.size) fun _ _ _ => rfl
  unfold build
  split
  · have told := alike.tell (.bridgeBuilt setup.config.systemNamespace setup.router
      setup.timers.isSome setup.frames.isSome)
    let bridge : Bridge :=
      { config := setup.config, router := setup.router, timers := setup.timers,
        frames := setup.frames, runtime := setup.runtime, log := setup.log, error := setup.error,
        clones := 1 }
    exact ⟨told.map (fun m => { m with bridges := m.bridges.add bridge }) (fun _ _ _ => rfl) rfl rfl
      rfl rfl fun _ => rfl, congrArg (fun b => Reaction.returned (.keyed (.ok b))) size⟩
  · exact alike.giveBack _

theorem install_alike (alike : m.Alike k l) (b : BridgeKey) : m.Alike (k.install b) (l.install b) := by
  have slots := (alike.setTarget (some b)).map (fun m => { m with callbacks := true })
    (fun _ _ _ => rfl) rfl rfl rfl rfl fun _ => rfl
  exact (slots.log rfl).tell _

theorem uninstall_alike (alike : m.Alike k l) : m.Alike k.uninstall l.uninstall := by
  have slots := alike.map (fun m => { m with callbacks := false }) (fun _ _ _ => rfl) rfl rfl rfl rfl
    fun _ => rfl
  exact ((slots.log rfl).setTarget none).tell _

theorem launch_along (alike : m.Alike k l) {op : Op} (calm : op.calm) :
    m.Along (k.launch op) (l.launch op) := by
  have both : m.paired.sides k l := alike
  have launched := launch_coupled both rfl (whole_fits op)
  rw [show m.paired.there.ofOp op = op from View.whole_ofOp op] at launched
  refine launched fun general => ?_
  cases op with
  | build setup => exact build_along alike setup
  | cloneBridge b => exact (alike.setBridge b _).giveBack _
  | dropBridge b => exact (alike.setBridge b _).giveBack _
  | setLog b h => exact (((alike.lock _).setBridge b _).unlock _).giveBack _
  | setError b h => exact (((alike.lock _).setBridge b _).unlock _).giveBack _
  | count b =>
    have locked := (alike.lock (.registry b)).unlock (.registry b)
    exact ⟨locked, alike.twin.reads (fun m =>
      Reaction.returned (.counted (m.bridges.get b).registry.size)) fun _ _ _ => rfl⟩
  | makeClock =>
    refine ⟨alike.map (fun m => { m with clocks := m.clocks.add { held := true } })
      (fun _ _ _ => rfl) rfl rfl rfl rfl fun _ => rfl, ?_⟩
    exact alike.twin.reads (fun m => Reaction.returned (.made m.clocks.size)) fun _ _ _ => rfl
  | advanceClock c frames =>
    exact ⟨alike.map (fun m => { m with clocks := m.clocks.update c (FrameClock.advance · frames) })
      (fun _ _ _ => rfl) rfl rfl rfl rfl fun _ => rfl,
      alike.twin.reads (fun m => Reaction.returned (.counted
        ((m.clocks.update c (FrameClock.advance · frames)).get c).shown)) fun _ _ _ => rfl⟩
  | dropClock c =>
    exact (alike.map (fun m => { m with clocks := m.clocks.update c FrameClock.letGo })
      (fun _ _ _ => rfl) rfl rfl rfl rfl fun _ => rfl).giveBack _
  | complete signal =>
    exact (alike.map (fun m => { m with signals := signal :: m.signals }) (fun _ _ _ => rfl) rfl rfl rfl
      rfl fun _ => rfl).giveBack _
  | elapse millis =>
    exact (alike.map (fun m => { m with now := m.now + millis }) (fun _ _ _ => rfl) rfl rfl rfl rfl
      fun _ => rfl).giveBack _
  | install b => exact (install_alike alike b).giveBack _
  | uninstall => exact (uninstall_alike alike).giveBack _
  | cancel t => cases calm
  | newContext available => cases calm
  | dropContext c => cases calm
  | _ => cases general

theorem continue?_along (alike : m.Alike k l) (frame : Frame) (reply : Reply) :
    Option.Rel m.Along (k.continue? frame reply) (l.continue? frame reply) := by
  have both : m.paired.sides k l := alike
  have continued := continue?_coupled both (whole_awaits frame) reply
  rwa [show m.paired.ofFrame frame = frame from
    (View.whole_ofFrame frame).trans frame.hostedIf_false] at continued

-- Host code unwinds into a callback: what nobody holds any more is let go of before that is told.
def Unwinds (x y : Machine × Reaction) (k l : Machine) : Prop :=
  ∃ kind id, x = (k.sweep.tell (.upcallPanicked kind id)).giveBack .done ∧
    y = (l.sweep.tell (.upcallPanicked kind id)).giveBack .done

theorem recover_along (alike : m.Alike k l) (p : Panic) (frame : Frame) :
    m.Along (k.recover p frame) (l.recover p frame) ∨
      Unwinds (k.recover p frame) (l.recover p frame) k l := by
  have both : m.paired.sides k l := alike
  have recovered := recover_coupled (p := p) (P := fun y z => m.Along y z ∨ Unwinds y z k l)
    both (whole_awaits frame) fun _ _ along => .inl along
  rw [show m.paired.ofFrame frame = frame from
    (View.whole_ofFrame frame).trans frame.hostedIf_false] at recovered
  refine recovered ?_
  rintro _ kind id own rfl
  exact .inr ⟨kind, id, rfl, rfl⟩

variable {next : Machine} {move : Move}

theorem admits_twin (twin : m.Twin n) {op : Op} (admitted : m.Admits op) : n.Admits op := by
  have blindly (blind : ∀ canceled runs events,
      Machine.Admits { m with canceled, runs, events } op = m.Admits op) : n.Admits op :=
    (twin.reads (·.Admits op) blind).mpr admitted
  cases op with
  | dropRun r =>
    have awaited : (n.runs.get r).bare.awaited = (m.runs.get r).bare.awaited :=
      congrArg Run.awaited (twin.bare r)
    obtain ⟨waiting, made⟩ := admitted
    exact ⟨awaited.trans waiting, twin.size ▸ made⟩
  | resume s byHandle => cases byHandle <;> exact blindly fun _ _ _ => rfl
  | _ => exact blindly fun _ _ _ => rfl

theorem launch_twin (twin : m.Twin n) (op : Op) :
    (m.launch op).1.Twin (n.launch op).1 ∧ (n.launch op).2 = (m.launch op).2 := by
  have along (calm : op.calm) : (m.launch op).1.Twin (n.launch op).1 ∧
      (n.launch op).2 = (m.launch op).2 := by
    obtain ⟨alike, same⟩ := launch_along (.refl twin) calm
    exact ⟨alike.twin, same⟩
  cases op with
  | cancel t =>
    cases twin with
    | veiled bounded size bare outward => exact ⟨.veiled bounded size bare outward, rfl⟩
  | newContext available =>
    have asked := twin.log (.native .contextNew)
    have size := asked.reads (·.contexts.size) fun _ _ _ => rfl
    simp only [launch, newContext]
    split
    · let added (m : Machine) : Machine :=
        { m with contexts := m.contexts.add { held := true, disposed := false } }
      exact ⟨asked.map added (fun _ _ _ => rfl) rfl rfl fun _ => rfl,
        congrArg (fun c => Reaction.returned (.keyed (.ok c))) size⟩
    · exact ⟨asked, rfl⟩
  | dropContext c =>
    let given (m : Machine) : Machine :=
      { m with contexts := m.contexts.update c fun context => { context with held := false } }
    exact ⟨twin.map given (fun _ _ _ => rfl) rfl rfl fun _ => rfl, rfl⟩
  | _ => exact along rfl

theorem Twin.popped (twin : m.Twin n) (rest : List Frame) :
    { m with stack := rest }.Twin { n with stack := rest } :=
  twin.map ({ · with stack := rest }) (fun _ _ _ => rfl) rfl rfl fun _ => rfl

theorem Twin.tell (twin : m.Twin n) (d : Diagnostic) : (m.tell d).Twin (n.tell d) :=
  (Alike.tell (.refl twin) d).twin

theorem recover_twin (twin : m.Twin n) (p : Panic) (frame : Frame) :
    (m.recover p frame).1.Twin (n.recover p frame).1 ∧
      (n.recover p frame).2 = (m.recover p frame).2 := by
  rcases recover_along (.refl twin) p frame with ⟨alike, same⟩ | ⟨kind, id, left, right⟩
  · exact ⟨alike.twin, same⟩
  · rw [left, right]
    exact ⟨(sweep_twin twin).tell _, rfl⟩

theorem step_twin {r : Reaction} (twin : m.Twin n) (step : Step m move next r) :
    ∃ next', Step n move next' r ∧ next.Twin next' := by
  have stack := twin.stack
  cases move with
  | invoke op =>
    obtain ⟨admitted, rfl, rfl⟩ := step.invoked
    obtain ⟨launched, same⟩ := launch_twin twin op
    exact ⟨_, .invoke (admits_twin twin admitted) (congrArg (Prod.mk _) same), sweep_twin launched⟩
  | answer reply =>
    obtain ⟨frame, rest, after, top, continued, rfl, rfl⟩ := step.answered
    have both := continue?_along (.refl (twin.popped rest)) frame reply
    rw [continued] at both
    cases other : { n with stack := rest }.continue? frame reply with
    | none =>
      rw [other] at both
      cases both
    | some after' =>
      rw [other] at both
      obtain ⟨alike, same⟩ : Machine.Along _ after after' := by
        cases both with
        | some along => exact along
      refine ⟨_, .answer ?_, sweep_twin alike.twin⟩
      unfold answer?
      rw [stack, top]
      dsimp only
      rw [other]
      exact congrArg (fun r => some (after'.1.sweep, r)) same
  | unwind p =>
    obtain ⟨frame, rest, top, rfl, rfl⟩ := step.unwound
    obtain ⟨recovered, same⟩ := recover_twin (twin.popped rest) p frame
    refine ⟨_, .unwind ?_, sweep_twin recovered⟩
    unfold unwind?
    rw [stack, top]
    exact congrArg (fun r => some (_, r)) same

end Machine

end FiberBridge
