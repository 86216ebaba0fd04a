import FiberBridge.Proofs.Account
import FiberBridge.Proofs.View

namespace FiberBridge

-- The operation is about bridges, clocks, tokens or contexts, and not about scripts.
def Op.general : Op → Bool
  | .count _ => true
  | op => op.sets

namespace Machine

-- What both sides show alike.
structure Agrees (v : View) (m n : Machine) : Prop where
  script : ∀ s, v.script s → n.scripts.get (v.there.script s) = v.there.ofScript (m.scripts.get s)
  fiber : ∀ f, v.fiber f → n.fibers.get (v.there.fiber f) = m.fibers.get f
  task : ∀ t, v.task t → n.tasks.get (v.there.task t) = v.there.ofTask (m.tasks.get t)
  settings : n.settings = { m.settings with canceled := n.canceled }
  alive : ∀ b, n.bridgeAlive b = m.bridgeAlive b
  entry : ∀ b id, v.id id → n.find? b id = (m.find? b id).map v.there.script
  found : ∀ b id s, v.id id → m.find? b id = some s → v.Ours m.scripts.size s
  ownFiber : ∀ s, v.Ours m.scripts.size s → v.fiber (m.scripts.get s).fiber
  ownId : ∀ s, v.Ours m.scripts.size s → v.id (m.scripts.get s).id
  newScript : v.script m.scripts.size ∧ v.there.script m.scripts.size = n.scripts.size
  newFiber : v.there.fiber m.fibers.size = n.fibers.size
  newRun : v.run m.runs.size ∧ v.there.run m.runs.size = n.runs.size

-- Two machines side by side, between two calls of the host and after one: what is changed in both
-- leaves them so. All that the functions of the machine do is made of these changes.
structure Coupling extends View where
  sides : Machine → Machine → Prop
  after : Machine × Reaction → Machine × Reaction → Prop
  agrees : ∀ {m n}, sides m n → Agrees toView m n
  tell : ∀ {m n}, sides m n → ∀ d, sides (m.tell d) (n.tell d)
  lock : ∀ {m n}, sides m n → ∀ l, sides (m.lock l) (n.lock l)
  unlock : ∀ {m n}, sides m n → ∀ l, sides (m.unlock l) (n.unlock l)
  look : ∀ {m n f}, sides m n → fiber f → ∀ ordinal,
    sides (m.log (.read f ordinal)) (n.log (.read (there.fiber f) ordinal))
  compiles : ∀ {m n}, sides m n → ∀ length,
    sides (m.log (.native (.compile length))) (n.log (.native (.compile length)))
  setScript : ∀ {m n s f}, sides m n → toView.Ours m.scripts.size s → Script.Bland f →
    sides (m.setScript s f) (n.setScript (there.script s) f)
  addScript : ∀ {m n}, sides m n → ∀ script : Script, id script.id → fiber script.fiber →
    script.run = none → script.token = none →
    sides { m with scripts := m.scripts.add script }
      { n with scripts := n.scripts.add (there.ofScript script) }
  setFiber : ∀ {m n k}, sides m n → fiber k → ∀ f,
    sides (m.setFiber k f) (n.setFiber (there.fiber k) f)
  addFiber : ∀ {m n}, sides m n → ∀ fiber : Fiber,
    sides { m with fibers := m.fibers.add fiber } { n with fibers := n.fibers.add fiber }
  dropRun : ∀ {m n r}, sides m n → run r →
    sides (m.setRun r fun run => { run with awaited := false })
      (n.setRun (there.run r) fun run => { run with awaited := false })
  setTask : ∀ {m n t f}, sides m n → task t → Task.Bland f →
    sides (m.setTask t f) (n.setTask (there.task t) f)
  spawn : ∀ {m n} {c : Service}, sides m n → script c.script → ∀ work,
    sides (m.spawn c work) (n.spawn (toView.ofService c) work)
  enterTask : ∀ {m n}, sides m n → ∀ t, sides (m.enterTask t) (n.enterTask (there.task t))
  leaveTask : ∀ {m n}, sides m n → sides m.leaveTask n.leaveTask
  insert : ∀ {m n s k}, sides m n → id k → toView.Ours m.scripts.size s → ∀ b,
    sides (m.setBridge b fun bridge => { bridge with registry := bridge.registry.insert k s })
      (n.setBridge b fun bridge =>
        { bridge with registry := bridge.registry.insert k (there.script s) })
  remove : ∀ {m n s k}, sides m n → id k → script s → ∀ b,
    sides (m.setBridge b fun bridge => { bridge with registry := bridge.registry.remove k s })
      (n.setBridge b fun bridge =>
        { bridge with registry := bridge.registry.remove k (there.script s) })
  arm : ∀ {m n s} {t : Option TokenKey}, sides m n → toView.Ours m.scripts.size s →
    (∀ k, t = some k → token k) → sides (m.arm s t).1 (n.arm (there.script s) t).1
  enter : ∀ {m n s}, sides m n → toView.Ours m.scripts.size s →
    sides (m.enter s) (n.enter (there.script s))
  settleAfter : ∀ {m n s}, sides m n → toView.Ours m.scripts.size s → ∀ wasStart result,
    sides (m.settleAfter s wasStart result) (n.settleAfter (there.script s) wasStart result)
  fail : ∀ {m n s}, sides m n → toView.Ours m.scripts.size s → ∀ e,
    sides (m.fail s e) (n.fail (there.script s) e)
  tear : ∀ {m n s}, sides m n → toView.Ours m.scripts.size s →
    sides (m.tear s) (n.tear (there.script s))
  ask : ∀ {m n}, sides m n → ∀ q frame, toView.Keeps frame →
    after (m.ask q frame) (n.ask (there.ofCall q) (toView.ofFrame frame))
  back : ∀ {m n r r'}, sides m n → there.Like r r' → after (m, r) (n, r')

variable {x : Coupling} {m n : Machine} {s : ScriptKey} {f : FiberKey} {b : BridgeKey} {t : TaskKey}
  {told : Option ScriptKey} {e : BridgeError} {origin : Origin} {kept : Option Notification}
  {c : Service} {who : Resumer}

theorem Coupling.giveBack (x : Coupling) (both : x.sides m n) {r : Returned}
    (plain : r.numbered = false) : x.after (m.giveBack r) (n.giveBack r) :=
  x.back both (.of_plain plain)

theorem Coupling.finish (x : Coupling) (both : x.sides m n) (mine : x.task t) :
    x.sides (m.setTask t fun task => { task with finished := true })
      (n.setTask (x.there.task t) fun task => { task with finished := true }) := by
  refine x.setTask both mine ⟨fun _ _ => rfl, ?_⟩
  rintro task ⟨⟩

namespace Agrees

variable {v : View}

theorem idOf (agrees : Agrees v m n) (mine : v.script s) : n.idOf (v.there.script s) = m.idOf s :=
  (congrArg Script.id (agrees.script s mine)).trans rfl

-- What is read off the settings, and not off the tokens.
theorem reads {α : Type} (agrees : Agrees v m n) (f : Settings → α)
    (blind : ∀ settings canceled, f { settings with canceled } = f settings) :
    f n.settings = f m.settings := by
  rw [agrees.settings]
  exact blind _ _

-- How a bridge was set up; its entries are its scripts'.
theorem bridge {α : Type} (agrees : Agrees v m n) (f : Bridge → α) (b : BridgeKey)
    (blind : ∀ bridge, f { bridge with registry := default } = f bridge) :
    f (n.bridges.get b) = f (m.bridges.get b) :=
  bridge_of_bridges (agrees.reads Settings.bridges fun _ _ => rfl) f blind b

theorem clocks (agrees : Agrees v m n) : n.clocks = m.clocks :=
  agrees.reads Settings.clocks fun _ _ => rfl

theorem begun (agrees : Agrees v m n) (what : Notification) : n.begun what = m.begun what := by
  have now : n.now = m.now := agrees.reads Settings.now fun _ _ => rfl
  unfold Machine.begun
  rw [now]

theorem hasCome (agrees : Agrees v m n) (what : Notification) : n.hasCome what = m.hasCome what := by
  have now : n.now = m.now := agrees.reads Settings.now fun _ _ => rfl
  have signals : n.signals = m.signals := agrees.reads Settings.signals fun _ _ => rfl
  unfold Machine.hasCome
  rw [now, agrees.clocks, signals]

theorem runtimeFor (agrees : Agrees v m n) (c : Service) :
    n.runtimeFor (v.ofService c) = m.runtimeFor c :=
  agrees.bridge (fun bridge => bridge.runtime || c.ambient) c.bridge fun _ => rfl

theorem lacking? (agrees : Agrees v m n) (c : Service) (command : SystemCommand) :
    n.lacking? (v.ofService c) command = m.lacking? c command := by
  have timers := agrees.bridge Bridge.timers c.bridge fun _ => rfl
  have frames := agrees.bridge Bridge.frames c.bridge fun _ => rfl
  cases command with
  | log => rfl
  | waitSecs => exact congrArg (fun o => if o.isSome then none else some noTimers) timers
  | waitFrames => exact congrArg (fun o => if o.isSome then none else some noFrames) frames

theorem liveTarget (agrees : Agrees v m n) : n.liveTarget.2 = m.liveTarget.2 := by
  have target : n.target = m.target := agrees.reads Settings.target fun _ _ => rfl
  have alive : n.bridgeAlive = m.bridgeAlive := funext agrees.alive
  change n.target.filter n.bridgeAlive = m.target.filter m.bridgeAlive
  rw [target, alive]

end Agrees

theorem finishTask_coupled (both : x.sides m n) (mine : x.task t) :
    x.after (m.finishTask t) (n.finishTask (x.there.task t)) :=
  x.giveBack (x.leaveTask (x.finish both mine)) rfl

theorem complete_coupled (both : x.sides m n) (free : ∀ t, origin.task? = some t → x.task t) :
    x.after (m.complete origin) (n.complete (x.ofOrigin origin)) := by
  unfold View.ofOrigin
  cases origin with
  | host => cases x.hosted <;> exact x.giveBack both rfl
  | upcall kind id => cases x.hosted <;> exact x.giveBack both rfl
  | task t => cases x.hosted <;> exact finishTask_coupled both (free t rfl)

theorem deliver_coupled (both : x.sides m n) (own : ∀ s, told = some s → x.script s)
    (free : ∀ t, origin.task? = some t → x.task t) :
    x.after (m.deliver b told e origin kept)
      (n.deliver b (told.map x.there.script) e (x.ofOrigin origin) kept) := by
  have read := x.unlock (x.lock both (.errorHandler b)) (.errorHandler b)
  have same : (n.errorHandler b).2 = (m.errorHandler b).2 :=
    (x.agrees both).bridge Bridge.error b fun _ => rfl
  unfold deliver
  dsimp only
  rw [same]
  cases (m.errorHandler b).2 with
  | builtIn => exact complete_coupled (x.tell read _) free
  | host h => exact x.ask read (.error h e) (.reporting b told origin kept) ⟨own, free⟩

theorem deliverTask_coupled (both : x.sides m n) (mine : x.script s) (works : x.task t) :
    x.after (m.deliver b (some s) e (.task t) none)
      (n.deliver b (some (x.there.script s)) e (.task (x.there.task t)) none) := by
  have delivered : x.after (m.deliver b (some s) e (.task t) none)
      (n.deliver b ((some s).map x.there.script) e (x.ofOrigin (.task t)) none) :=
    deliver_coupled both (fun _ told => Option.some.inj told ▸ mine) fun _ same =>
      Option.some.inj same ▸ works
  rwa [View.ofOrigin_task] at delivered

theorem report_coupled (both : x.sides m n) (own : ∀ s, told = some s → x.script s)
    (free : ∀ t, origin.task? = some t → x.task t) :
    x.after (m.report b told e origin kept)
      (n.report b (told.map x.there.script) e (x.ofOrigin origin) kept) :=
  deliver_coupled (x.tell both _) own free

theorem refuseCommand_coupled (both : x.sides m n) (serves : x.Serves c) :
    x.after (m.refuseCommand c e) (n.refuseCommand (x.ofService c) e) :=
  report_coupled both (fun _ told => Option.some.inj told ▸ serves.script) serves.task

theorem failAndReport_coupled (both : x.sides m n) (serves : x.Serves c)
    (ours : x.Ours m.scripts.size c.script) :
    x.after (m.failAndReport c e) (n.failAndReport (x.ofService c) e) :=
  report_coupled (x.fail both ours e) (fun _ told => Option.some.inj told ▸ serves.script) serves.task

theorem readStatus_coupled (both : x.sides m n) (mine : x.fiber f) :
    x.sides (m.readStatus f).1 (n.readStatus (x.there.fiber f)).1 ∧
      (n.readStatus (x.there.fiber f)).2 = (m.readStatus f).2 := by
  have fiber := (x.agrees both).fiber f mine
  have looked := x.look both mine (m.fibers.get f).ordinal
  unfold readStatus
  rw [fiber]
  refine ⟨?_, rfl⟩
  dsimp only
  split
  · exact looked
  · exact x.tell looked _

theorem status_coupled (both : x.sides m n) (ours : x.Ours m.scripts.size s) :
    x.sides (m.status s).1 (n.status (x.there.script s)).1 ∧
      (n.status (x.there.script s)).2 = (m.status s).2 := by
  have script := (x.agrees both).script s ours.mine
  obtain ⟨read, same⟩ := readStatus_coupled both ((x.agrees both).ownFiber s ours)
  unfold status
  rw [script]
  dsimp only [Renaming.ofScript]
  split
  · exact ⟨both, rfl⟩
  · exact ⟨read, congrArg Except.ok same⟩

theorem readResult_coupled (both : x.sides m n) (code : Int32) :
    x.sides (m.readResult code).1 (n.readResult code).1 := by
  unfold readResult
  dsimp only
  split
  · exact both
  · exact x.tell both _

theorem register_coupled (both : x.sides m n) (mine : x.fiber f) (own : x.id (m.fibers.get f).id) :
    x.after (m.register b f) (n.register b (x.there.fiber f)) := by
  obtain ⟨new, size⟩ := (x.agrees both).newScript
  let fresh : Script := { id := (m.fibers.get f).id, fiber := f, bridge := b, disposed := false }
  have handed := x.setFiber both mine fun fiber => { fiber with held := false }
  have added := x.lock (x.addScript handed fresh own mine rfl rfl) (.registry b)
  have ours : x.Ours (m.scripts.add fresh).size m.scripts.size :=
    ⟨new, fun _ => Slots.lt_size_add.mpr (.inl rfl)⟩
  have same := (x.agrees added).entry b fresh.id own
  unfold register
  rw [(x.agrees both).fiber f mine, ← size]
  dsimp only
  split
  · rename_i s taken
    split
    · have marked := x.setScript (x.unlock added (.registry b)) ours
        (f := fun script => { script with disposed := true }) {}
      exact x.ask (x.setFiber marked mine _) (.dispose f) (.refusing b m.scripts.size) new
    · rename_i vacant
      cases vacant.symm.trans (same.trans (congrArg (Option.map x.there.script) taken))
  · rename_i vacant
    split
    · rename_i taken
      cases taken.symm.trans (same.trans (congrArg (Option.map x.there.script) vacant))
    · have entered := x.unlock (x.insert added own ours b) (.registry b)
      have accepted := x.setScript entered ours
        (f := fun script => { script with accepted := true, owned := true }) {}
      exact x.back (x.tell accepted _) .script

theorem start_coupled (both : x.sides m n) (ours : x.Ours m.scripts.size s) {token : Option TokenKey}
    (obeyed : ∀ t, token = some t → x.token t) :
    x.after (m.start s token) (n.start (x.there.script s) token) := by
  obtain ⟨read, same⟩ := status_coupled both ours
  have ours' : x.Ours (m.status s).1.scripts.size s := by rwa [status_scripts]
  unfold start
  dsimp only
  rw [same]
  cases (m.status s).2 with
  | error e => exact x.giveBack read rfl
  | ok status =>
    dsimp only
    split
    · have armed := x.arm read ours' obeyed
      have script := (x.agrees armed).script s ours.mine
      obtain ⟨new, size⟩ := (x.agrees read).newRun
      have key : ((n.status (x.there.script s)).1.arm (x.there.script s) token).2 =
          x.there.run ((m.status s).1.arm s token).2 := size.symm
      rw [key, script, (x.agrees armed).idOf ours.mine]
      exact x.ask (x.tell armed _) (.start _) (.starting s _) ⟨ours.mine, new⟩
    · rw [(x.agrees read).idOf ours.mine]
      exact x.giveBack read rfl

theorem returned_coupled (both : x.sides m n) (ours : x.Ours m.scripts.size s) (wasStart : Bool)
    (code : Int32) :
    x.sides ((m.readResult code).1.settleAfter s wasStart (m.readResult code).2)
      ((n.readResult code).1.settleAfter (x.there.script s) wasStart (n.readResult code).2) := by
  refine x.settleAfter (readResult_coupled both code) ?_ wasStart _
  have same : (m.readResult code).1.scripts = m.scripts :=
    congrArg Core.scripts (readResult_core m code)
  rwa [same]

theorem started_coupled (both : x.sides m n) (ours : x.Ours m.scripts.size s) (r : RunKey)
    (code : Int32) :
    x.after (m.started s r code) (n.started (x.there.script s) (x.there.run r) code) :=
  x.back (returned_coupled both ours true code) .run

theorem refuseResume_coupled (both : x.sides m n) (mine : x.script s)
    (same : ∀ c, who = .command c → c.script = s) (free : ∀ t, who.task? = some t → x.task t) :
    x.after (m.refuseResume s who) (n.refuseResume (x.there.script s) (x.ofResumer who)) := by
  have agrees := x.agrees both
  unfold refuseResume
  dsimp only
  rw [agrees.idOf mine]
  cases who with
  | host byHandle => exact x.giveBack both rfl
  | command c => exact refuseCommand_coupled both ⟨same c rfl ▸ mine, free⟩
  | task t =>
    change x.after _
      (n.deliver (n.tasks.get (x.there.task t)).bridge _ _ (.task (x.there.task t)) none)
    rw [agrees.task t (free t rfl)]
    exact deliverTask_coupled both mine (free t rfl)

theorem resume_coupled (both : x.sides m n) (ours : x.Ours m.scripts.size s) (who : Resumer)
    (same : ∀ c, who = .command c → c.script = s) (free : ∀ t, who.task? = some t → x.task t) :
    x.after (m.resume s who) (n.resume (x.there.script s) (x.ofResumer who)) := by
  unfold resume
  rw [(x.agrees both).script s ours.mine]
  dsimp only [Renaming.ofScript]
  split
  · exact refuseResume_coupled both ours.mine same free
  · exact x.ask (x.tell (x.enter both ours) _) (.resume _) (.resuming s who) ⟨ours.mine, free⟩

theorem resumeTask_coupled (both : x.sides m n) (ours : x.Ours m.scripts.size s) (mine : x.task t) :
    x.after (m.resume s (.task t)) (n.resume (x.there.script s) (.task (x.there.task t))) := by
  refine resume_coupled both ours (.task t) (by rintro c ⟨⟩) ?_
  rintro t' ⟨⟩
  exact mine

theorem resumeCommand_coupled (both : x.sides m n) (serves : x.Serves c)
    (ours : x.Ours m.scripts.size c.script) :
    x.after (m.resume c.script (.command c))
      (n.resume (x.ofService c).script (.command (x.ofService c))) := by
  refine resume_coupled both ours (.command c) ?_ serves.task
  rintro c' ⟨⟩
  rfl

theorem resumeDone_coupled (both : x.sides m n) (free : ∀ t, who.task? = some t → x.task t) :
    x.after (m.resumeDone who) (n.resumeDone (x.ofResumer who)) := by
  cases who with
  | host byHandle => exact x.giveBack both rfl
  | command c => exact complete_coupled both free
  | task t => exact finishTask_coupled both (free t rfl)

theorem resumed_coupled (both : x.sides m n) (ours : x.Ours m.scripts.size s)
    (free : ∀ t, who.task? = some t → x.task t) (code : Int32) :
    x.after (m.resumed s who code) (n.resumed (x.there.script s) (x.ofResumer who) code) :=
  resumeDone_coupled (returned_coupled both ours false code) free

theorem disposed_coupled (both : x.sides m n) (ours : x.Ours m.scripts.size s) :
    x.after (m.disposed s) (n.disposed (x.there.script s)) := by
  have agrees := x.agrees both
  let script := m.scripts.get s
  have removed := x.unlock (x.remove (x.lock both (.registry script.bridge)) (agrees.ownId s ours)
    ours.mine script.bridge) (.registry script.bridge)
  unfold disposed
  rw [agrees.script s ours.mine]
  exact x.giveBack (x.tell (x.tear removed ours) _) rfl

theorem dispose_coupled (both : x.sides m n) (ours : x.Ours m.scripts.size s) (dropped : Bool) :
    x.after (m.dispose s dropped) (n.dispose (x.there.script s) dropped) := by
  have agrees := x.agrees both
  have marked := x.setScript both ours (f := fun script => { script with disposed := true }) {}
  unfold dispose
  rw [agrees.script s ours.mine]
  dsimp only [Renaming.ofScript]
  split
  · exact x.giveBack both rfl
  · exact x.ask (x.setFiber marked (agrees.ownFiber s ours) _) (.dispose _) (.disposing s dropped)
      ours.mine

theorem dropHandle_coupled (both : x.sides m n) (ours : x.Ours m.scripts.size s) :
    x.after (m.dropHandle s) (n.dropHandle (x.there.script s)) := by
  have left := x.setScript both ours (f := fun script => { script with owned := false }) {}
  refine dispose_coupled left ⟨ours.mine, fun counted => ?_⟩ true
  exact Nat.lt_of_lt_of_le (ours.made counted) (Slots.size_le_update ..)

theorem dropFiber_coupled (both : x.sides m n) (mine : x.fiber f) :
    x.after (m.dropFiber f) (n.dropFiber (x.there.fiber f)) :=
  x.ask (x.setFiber both mine _) (.dispose f) (.releasing f) mine

theorem leave_coupled (both : x.sides m n) (serves : x.Serves c) (work : Work) :
    x.after ((m.spawn c work).complete c.origin)
      ((n.spawn (x.ofService c) work).complete (x.ofService c).origin) :=
  complete_coupled (x.spawn both serves.script work) serves.task

theorem resumeWhen_coupled (both : x.sides m n) (serves : x.Serves c) (what : Notification) :
    x.after (m.resumeWhen c what) (n.resumeWhen (x.ofService c) what) := by
  unfold resumeWhen
  rw [(x.agrees both).runtimeFor]
  split
  · exact leave_coupled both serves _
  · exact report_coupled both (fun _ told => Option.some.inj told ▸ serves.script) serves.task

theorem serve_coupled (both : x.sides m n) (serves : x.Serves c) (command : SystemCommand) :
    x.after (m.serve c command) (n.serve (x.ofService c) command) := by
  have id : n.idOf (x.ofService c).script = m.idOf c.script := (x.agrees both).idOf serves.script
  have told := x.tell both (.systemCommand (m.idOf c.script) c.name)
  have lacking : (n.tell (.systemCommand (m.idOf c.script) (x.ofService c).name)).lacking?
      (x.ofService c) command = _ := (x.agrees told).lacking? c command
  unfold serve
  dsimp only
  rw [id, lacking]
  split
  · exact refuseCommand_coupled told serves
  · exact x.ask told (.decode c.word c.script) (.decoding c command) serves

theorem logMessage_coupled (both : x.sides m n) (serves : x.Serves c)
    (ours : x.Ours m.scripts.size c.script) (message : String) :
    x.after (m.logMessage c message) (n.logMessage (x.ofService c) message) := by
  have read := x.unlock (x.lock both (.logHandler c.bridge)) (.logHandler c.bridge)
  have same : (n.logHandler (x.ofService c).bridge).2 = (m.logHandler c.bridge).2 :=
    (x.agrees both).bridge Bridge.log c.bridge fun _ => rfl
  unfold logMessage
  dsimp only
  rw [same]
  cases (m.logHandler c.bridge).2 with
  | builtIn => exact resumeCommand_coupled (x.tell read _) serves ours
  | host h => exact x.ask read (.log h message) (.logging c) serves

theorem waitSeconds_coupled (both : x.sides m n) (serves : x.Serves c) (seconds : Double) :
    x.after (m.waitSeconds c seconds) (n.waitSeconds (x.ofService c) seconds) := by
  have timers : (n.bridges.get (x.ofService c).bridge).timers = (m.bridges.get c.bridge).timers :=
    (x.agrees both).bridge Bridge.timers c.bridge fun _ => rfl
  unfold waitSeconds
  cases Duration.ofSeconds seconds with
  | error fault => exact refuseCommand_coupled both serves
  | ok d =>
    dsimp only
    rw [timers]
    split
    · exact resumeWhen_coupled both serves _
    · exact x.ask both (.after c.bridge d) (.scheduling c) serves

theorem waitFrames_coupled (both : x.sides m n) (serves : x.Serves c) (count : UInt32) :
    x.after (m.waitFrames c count) (n.waitFrames (x.ofService c) count) := by
  have frames : (n.bridges.get (x.ofService c).bridge).frames = (m.bridges.get c.bridge).frames :=
    (x.agrees both).bridge Bridge.frames c.bridge fun _ => rfl
  unfold waitFrames
  rw [frames, (x.agrees both).clocks]
  split
  · exact resumeWhen_coupled both serves _
  · exact x.ask both (.afterFrames c.bridge count) (.scheduling c) serves

theorem decoded_coupled (both : x.sides m n) (serves : x.Serves c)
    (ours : x.Ours m.scripts.size c.script) (command : SystemCommand) (d : Decoding) :
    x.after (m.decoded c command d) (n.decoded (x.ofService c) command d) := by
  have name : (x.ofService c).name = c.name := rfl
  unfold decoded
  rw [name]
  cases command with
  | log =>
    cases shapeOf c.name d Json.asText with
    | error e => exact refuseCommand_coupled both serves
    | ok message => exact logMessage_coupled both serves ours message
  | waitSecs =>
    cases shapeOf c.name d Json.asNumber with
    | error e => exact refuseCommand_coupled both serves
    | ok seconds => exact waitSeconds_coupled both serves seconds
  | waitFrames =>
    cases shapeOf c.name d Json.asCount with
    | error e => exact refuseCommand_coupled both serves
    | ok count => exact waitFrames_coupled both serves count

theorem forward_coupled (both : x.sides m n) (serves : x.Serves c)
    (ours : x.Ours m.scripts.size c.script) : x.after (m.forward c) (n.forward (x.ofService c)) := by
  have id : n.idOf (x.ofService c).script = m.idOf c.script := (x.agrees both).idOf serves.script
  have told := x.tell both (.forwarding (m.idOf c.script) c.name)
  have runtime : (n.tell (.forwarding (m.idOf c.script) (x.ofService c).name)).runtimeFor
      (x.ofService c) = _ := (x.agrees told).runtimeFor c
  unfold forward
  dsimp only
  rw [id, runtime]
  split
  · exact x.ask told (.route c.bridge c.script c.name c.word) (.routing c) serves
  · exact failAndReport_coupled told serves ours

theorem command_coupled (both : x.sides m n) (b : BridgeKey) {id : ScriptId} (own : x.id id)
    (name : ByteArray) (word : Word) (ambient : Bool) (free : ∀ t, origin.task? = some t → x.task t) :
    x.after (m.command b id name word ambient origin)
      (n.command b id name word ambient (x.ofOrigin origin)) := by
  have agrees := x.agrees both
  have looked := x.unlock (x.lock both (.registry b)) (.registry b)
  have same : (n.lookup b id).2 = (m.lookup b id).2.map x.there.script := agrees.entry b id own
  have config : ((n.lookup b id).1.bridges.get b).config = ((m.lookup b id).1.bridges.get b).config :=
    agrees.bridge Bridge.config b fun _ => rfl
  have router : ((n.lookup b id).1.bridges.get b).router = ((m.lookup b id).1.bridges.get b).router :=
    agrees.bridge Bridge.router b fun _ => rfl
  unfold command
  dsimp only
  rw [same, config, router]
  cases found : (m.lookup b id).2 with
  | none => exact report_coupled looked (by rintro s ⟨⟩) free
  | some s =>
    have ours := agrees.found b id s own found
    have serves (name : String) : x.Serves ⟨b, s, name, word, ambient, origin⟩ := ⟨ours.mine, free⟩
    dsimp only [Option.map_some]
    split
    · exact serve_coupled looked (serves _) _
    · split
      · exact failAndReport_coupled looked (serves _) ours
      · split
        · exact forward_coupled looked (serves _) ours
        · exact failAndReport_coupled looked (serves _) ours

theorem raise_coupled (both : x.sides m n) (b : BridgeKey) {id : ScriptId} (own : x.id id)
    (description : String) (free : ∀ t, origin.task? = some t → x.task t) :
    x.after (m.raise b id description origin) (n.raise b id description (x.ofOrigin origin)) := by
  have agrees := x.agrees both
  have looked := x.unlock (x.lock both (.registry b)) (.registry b)
  have same : (n.lookup b id).2 = (m.lookup b id).2.map x.there.script := agrees.entry b id own
  unfold raise
  dsimp only
  rw [same]
  cases found : (m.lookup b id).2 with
  | none => exact report_coupled looked (by rintro s ⟨⟩) free
  | some s =>
    exact complete_coupled (x.fail (x.tell looked _) (agrees.found b id s own found) _) free

theorem forwardFailed_coupled (both : x.sides m n) (mine : x.task t)
    (ours : x.Ours m.scripts.size (m.tasks.get t).script) (message : String) :
    x.after (m.forwardFailed t message) (n.forwardFailed (x.there.task t) message) := by
  unfold forwardFailed
  rw [(x.agrees both).task t mine]
  exact deliverTask_coupled (x.fail (x.tell both _) ours _) ours.mine mine

theorem polled_coupled (both : x.sides m n) (mine : x.task t)
    (ours : x.Ours m.scripts.size (m.tasks.get t).script) (p : Polled) :
    x.after (m.polled t p) (n.polled (x.there.task t) p) := by
  unfold polled
  rw [(x.agrees both).task t mine]
  cases p with
  | pending => exact x.giveBack (x.leaveTask both) rfl
  | failed causes => exact forwardFailed_coupled both mine ours _
  | succeeded =>
    have told := x.tell both .forwardCompleted
    have config := (x.agrees told).bridge Bridge.config (m.tasks.get t).bridge fun _ => rfl
    dsimp only [Renaming.ofTask]
    rw [config]
    split
    · exact resumeTask_coupled told ours mine
    · exact finishTask_coupled told mine

theorem pollTask_coupled (both : x.sides m n) (mine : x.task t)
    (ours : (m.tasks.get t).finished = false → x.Ours m.scripts.size (m.tasks.get t).script) :
    x.after (m.pollTask t) (n.pollTask (x.there.task t)) := by
  have entered := x.enterTask both t
  unfold pollTask
  rw [(x.agrees both).task t mine]
  dsimp only [Renaming.ofTask]
  split
  · exact x.giveBack both rfl
  · rename_i unfinished
    have ours := ours (by simpa using unfinished)
    cases (m.tasks.get t).work with
    | forward future => exact x.ask entered (.poll t future) (.polling t) mine
    | wait what =>
      have begun := (x.agrees entered).begun what
      have looked := x.setTask entered mine
        (f := fun task => { task with work := .wait ((m.enterTask t).begun what) })
        ⟨fun _ _ => rfl, fun _ unfinished => ⟨unfinished, rfl⟩⟩
      dsimp only
      rw [begun, (x.agrees looked).hasCome]
      split
      · exact resumeTask_coupled (x.tell looked _) ours mine
      · exact x.giveBack (x.leaveTask looked) rfl

theorem commandUpcall_coupled (both : x.sides m n) {id : ScriptId} (own : x.id id)
    (name : Option ByteArray) (length : Int32) (word : Word) (ambient : Bool)
    (still : x.hosted = false) :
    x.after (m.commandUpcall id name length word ambient)
      (n.commandUpcall id name length word ambient) := by
  have looked := x.unlock (x.lock both .upcallTarget) .upcallTarget
  have same := (x.agrees both).liveTarget
  unfold commandUpcall
  dsimp only
  rw [same]
  cases m.liveTarget.2 with
  | none => exact x.giveBack (x.tell looked _) rfl
  | some b =>
    have served := command_coupled looked b own (nativeName name length) word ambient
      (show ∀ t, (Origin.upcall .command id).task? = some t → x.task t by rintro t ⟨⟩)
    rwa [View.ofOrigin_upcall still] at served

theorem errorUpcall_coupled (both : x.sides m n) {id : ScriptId} (own : x.id id)
    (description : Option ByteArray) (still : x.hosted = false) :
    x.after (m.errorUpcall id description) (n.errorUpcall id description) := by
  have looked := x.unlock (x.lock both .upcallTarget) .upcallTarget
  have same := (x.agrees both).liveTarget
  unfold errorUpcall
  dsimp only
  rw [same]
  cases m.liveTarget.2 with
  | none => exact x.giveBack (x.tell looked _) rfl
  | some b =>
    have served := raise_coupled looked b own (nativeText description)
      (show ∀ t, (Origin.upcall .error id).task? = some t → x.task t by rintro t ⟨⟩)
    rwa [View.ofOrigin_upcall still] at served

theorem compile_coupled (both : x.sides m n) (k : ContextKey) (length : Nat)
    (made : Option (ScriptId × Int32)) :
    x.after (m.compile k length made) (n.compile k length made) := by
  have asked := x.compiles both length
  cases made with
  | none => exact x.giveBack asked rfl
  | some pair =>
    have added := x.tell (x.addFiber asked
      { id := pair.1, ordinal := pair.2, context := some k, held := true }) (.scriptCompiled pair.1)
    have like : x.there.Like (.returned (.keyed (.ok m.fibers.size)))
        (.returned (.keyed (.ok (x.there.fiber m.fibers.size)))) := .fiber
    rw [(x.agrees both).newFiber] at like
    exact x.back added like

-- What the operation is about is known on both sides.
def Fits (v : View) (m : Machine) : Op → Prop
  | .start s token => v.Ours m.scripts.size s ∧ ∀ t, token = some t → v.token t
  | .resume s _ | .status s | .describe s | .fail s _ | .dispose s | .dropHandle s | .makeRef s
  | .dropRef s => v.Ours m.scripts.size s
  | .decode s .. => v.script s
  | .lookup _ id | .command _ id .. | .error _ id _ | .commandUpcall id ..
  | .errorUpcall id _ => v.id id
  | .register _ f => v.fiber f ∧ v.id (m.fibers.get f).id
  | .setOrdinal f _ | .dropFiber f => v.fiber f
  | .dropRun r => v.run r
  | .pollTask t => v.task t ∧
      ((m.tasks.get t).finished = false → v.Ours m.scripts.size (m.tasks.get t).script)
  | _ => True

theorem launch_coupled {op : Op} (both : x.sides m n) (still : x.hosted = false)
    (fits : Fits x.toView m op)
    (general : op.general → x.after (m.launch op) (n.launch (x.there.ofOp op))) :
    x.after (m.launch op) (n.launch (x.there.ofOp op)) := by
  have referred {s : ScriptKey} (ours : x.Ours m.scripts.size s) (refs : Nat → Nat) :
      x.after ((m.setScript s fun script => { script with refs := refs script.refs }).giveBack .done)
        ((n.setScript (x.there.script s) fun script =>
          { script with refs := refs script.refs }).giveBack .done) := by
    have set := x.setScript both ours (f := fun script => { script with refs := refs script.refs }) {}
    exact x.giveBack set rfl
  have hosted {k : TaskKey} (works : Origin.host.task? = some k) : x.task k := by cases works
  cases op with
  | report b e =>
    have told : x.after (m.report b none e .host none)
        (n.report b (Option.map x.there.script none) e (x.ofOrigin .host) none) :=
      report_coupled both (by rintro s ⟨⟩) fun _ => hosted
    rwa [View.ofOrigin_host] at told
  | lookup b id =>
    have looked := x.unlock (x.lock both (.registry b)) (.registry b)
    have same : (n.lookup b id).2 = (m.lookup b id).2.map x.there.script :=
      (x.agrees both).entry b id fits
    simp only [launch, Renaming.ofOp]
    rw [same]
    cases (m.lookup b id).2 with
    | none => exact x.giveBack looked rfl
    | some s => exact x.back looked .script
  | command b id name word ambient =>
    have served := command_coupled both b fits name word ambient fun _ => hosted
    rwa [View.ofOrigin_host] at served
  | error b id description =>
    have served := raise_coupled both b fits description fun _ => hosted
    rwa [View.ofOrigin_host] at served
  | makeFiber id ordinal =>
    have like : x.there.Like (.returned (.made m.fibers.size))
        (.returned (.made (x.there.fiber m.fibers.size))) := .made
    rw [(x.agrees both).newFiber] at like
    exact x.back (x.addFiber both { id, ordinal, held := true }) like
  | setOrdinal f ordinal => exact x.giveBack (x.setFiber both fits _) rfl
  | register b f => exact register_coupled both fits.1 fits.2
  | start s token => exact start_coupled both fits.1 fits.2
  | resume s byHandle =>
    exact resume_coupled both fits (.host byHandle) (by rintro c ⟨⟩) (by rintro t ⟨⟩)
  | status s =>
    obtain ⟨looked, same⟩ := status_coupled both fits
    simp only [launch, Renaming.ofOp]
    rw [same]
    exact x.giveBack looked rfl
  | describe s =>
    obtain ⟨looked, same⟩ := status_coupled both fits
    simp only [launch, Renaming.ofOp]
    rw [same]
    exact x.giveBack looked rfl
  | fail s e => exact x.giveBack (x.fail both fits e) rfl
  | dispose s => exact dispose_coupled both fits false
  | dropHandle s => exact dropHandle_coupled both fits
  | makeRef s => exact referred fits (· + 1)
  | dropRef s => exact referred fits (· - 1)
  | dropRun r => exact x.giveBack (x.dropRun both fits) rfl
  | decode s command word shape => exact x.ask both (.decode word s) (.shaping s command shape) fits
  | pollTask t => exact pollTask_coupled both fits.1 fits.2
  | compile k length made => exact compile_coupled both k length made
  | dropFiber f => exact dropFiber_coupled both fits
  | commandUpcall id name length word ambient =>
    exact commandUpcall_coupled both fits name length word ambient still
  | errorUpcall id description => exact errorUpcall_coupled both fits description still
  | _ => exact general rfl

-- What the suspended operation is about is known on both sides, and there.
structure Awaits (v : View) (m : Machine) (frame : Frame) : Prop where
  keeps : v.Keeps frame
  made : v.counted → ∀ s, frame.holdsScript s → s < m.scripts.size
  work : ∀ t, frame = .polling t → v.Ours m.scripts.size (m.tasks.get t).script

theorem Awaits.ours {v : View} {frame : Frame} (awaits : Awaits v m frame)
    (held : frame.holdsScript s) : v.Ours m.scripts.size s :=
  ⟨awaits.keeps.script held, fun counted => awaits.made counted s held⟩

theorem whole_fits {h : Bool} (op : Op) : Fits (.whole h) m op := by
  have ours {size : Nat} {s : ScriptKey} : (View.whole h).Ours size s := View.whole_ours
  cases op with
  | start s token => exact ⟨ours, fun _ _ => trivial⟩
  | register b f => exact ⟨trivial, trivial⟩
  | pollTask t => exact ⟨trivial, fun _ => ours⟩
  | _ => first | exact ours | trivial

theorem whole_awaits {h : Bool} (frame : Frame) : Awaits (.whole h) m frame :=
  ⟨View.whole_keeps frame, False.elim, fun _ _ => View.whole_ours⟩

theorem continue?_coupled {frame : Frame} (both : x.sides m n) (awaits : Awaits x.toView m frame)
    (reply : Reply) :
    Option.Rel x.after (m.continue? frame reply) (n.continue? (x.ofFrame frame) reply) := by
  have ours {s : ScriptKey} (held : frame.holdsScript s) : x.Ours m.scripts.size s := awaits.ours held
  obtain ⟨keeps, made, work⟩ := awaits
  cases frame with
  | starting s r =>
    cases reply with
    | code code => exact .some (started_coupled both (ours (decide_eq_true rfl)) r code)
    | _ => exact .none
  | resuming s who =>
    cases reply with
    | code code => exact .some (resumed_coupled both (ours (decide_eq_true rfl)) keeps.2 code)
    | _ => exact .none
  | disposing s dropped =>
    cases reply with
    | done => exact .some (disposed_coupled both (ours (decide_eq_true rfl)))
    | _ => exact .none
  | refusing b s =>
    cases reply with
    | done =>
      have id := (x.agrees both).idOf keeps
      have refused : x.after (m.refused s) (n.refused (x.there.script s)) := by
        unfold Machine.refused
        rw [id]
        exact x.giveBack both rfl
      exact .some refused
    | _ => exact .none
  | releasing f =>
    cases reply with
    | done => exact .some (x.giveBack (x.setFiber both keeps _) rfl)
    | _ => exact .none
  | decoding c command =>
    cases reply with
    | decoded d => exact .some (decoded_coupled both keeps (ours (decide_eq_true rfl)) command d)
    | _ => exact .none
  | shaping s command shape =>
    cases reply with
    | decoded d => exact .some (x.giveBack both rfl)
    | _ => exact .none
  | logging c =>
    cases reply with
    | done => exact .some (resumeCommand_coupled both keeps (ours (decide_eq_true rfl)))
    | _ => exact .none
  | reporting b told origin kept =>
    cases reply with
    | done => exact .some (complete_coupled both keeps.2)
    | _ => exact .none
  | scheduling c =>
    cases reply with
    | notification what => exact .some (resumeWhen_coupled both keeps what)
    | _ => exact .none
  | routing c =>
    cases reply with
    | future future => exact .some (leave_coupled both keeps (.forward future))
    | _ => exact .none
  | polling t =>
    cases reply with
    | polled p => exact .some (polled_coupled both keeps (work t rfl) p)
    | _ => exact .none

section

variable {P : Machine × Reaction → Machine × Reaction → Prop} {p : Panic}

theorem abort_coupled (both : x.sides m n) (after : ∀ y z, x.after y z → P y z)
    (free : ∀ t, origin.task? = some t → x.task t)
    (upcall : ∀ kind id, origin = .upcall kind id →
      P (m.abort origin p) (n.abort (x.ofOrigin origin) p)) :
    P (m.abort origin p) (n.abort (x.ofOrigin origin) p) := by
  cases origin with
  | host =>
    rw [View.ofOrigin_host]
    exact after _ _ (x.back both .panicked)
  | upcall kind id => exact upcall kind id rfl
  | task t =>
    rw [View.ofOrigin_task]
    exact after _ _ (finishTask_coupled both (free t rfl))

-- A panic goes the same way on both sides, if it does where it reaches a callback.
theorem recover_coupled {frame : Frame} (both : x.sides m n) (awaits : Awaits x.toView m frame)
    (after : ∀ y z, x.after y z → P y z)
    (upcall : ∀ origin kind id, frame.origin? = some origin → origin = .upcall kind id →
      P (m.abort origin p) (n.abort (x.ofOrigin origin) p)) :
    P (m.recover p frame) (n.recover p (x.ofFrame frame)) := by
  have ours {s : ScriptKey} (held : frame.holdsScript s) : x.Ours m.scripts.size s := awaits.ours held
  obtain ⟨keeps, made, work⟩ := awaits
  have panicked {m n : Machine} (both : x.sides m n) : P (m, .panicked p) (n, .panicked p) :=
    after _ _ (x.back both .panicked)
  have aborted {origin : Origin} (own : frame.origin? = some origin)
      (free : ∀ t, origin.task? = some t → x.task t) :
      P (m.abort origin p) (n.abort (x.ofOrigin origin) p) :=
    abort_coupled both after free fun kind id => upcall origin kind id own
  cases frame with
  | starting s r => exact panicked (x.dropRun both keeps.2)
  | resuming s who =>
    cases who with
    | host byHandle => exact panicked both
    | command c => exact aborted rfl keeps.2
    | task t => exact after _ _ (finishTask_coupled both (keeps.2 t rfl))
  | disposing s dropped => exact panicked both
  | refusing b s => exact panicked both
  | releasing f => exact panicked (x.setFiber both keeps _)
  | decoding c command => exact aborted rfl (View.Serves.task keeps)
  | shaping s command shape => exact panicked both
  | logging c => exact aborted rfl (View.Serves.task keeps)
  | reporting b told origin kept => exact aborted rfl keeps.2
  | scheduling c => exact aborted rfl (View.Serves.task keeps)
  | routing c => exact after _ _ (failAndReport_coupled both keeps (ours (decide_eq_true rfl)))
  | polling t => exact after _ _ (forwardFailed_coupled both keeps (work t rfl) _)

end

end Machine

end FiberBridge
