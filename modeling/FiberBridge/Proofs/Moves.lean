import FiberBridge.Proofs.Change
import FiberBridge.Proofs.Fate

namespace FiberBridge

variable {power : Power}

-- A move may come to script `s`: it is open, and not of the part that the move spares.
structure Power.Reaches (power : Power) (c : Core) (s : ScriptKey) : Prop extends c.Open s where
  off : ¬ power.spares.script s

-- A move may work for the task.
def Power.Works (power : Power) (c : Core) (t : Option TaskKey) : Prop :=
  c.Free t ∧ c.OffTask power.spares t

namespace Power

variable {c : Core} {s : ScriptKey}

theorem works_none : power.Works c Option.none := ⟨Core.free_none, by rintro _ ⟨⟩⟩

theorem Reaches.judge {y : ScriptKey} {x : Milestone} (known : power.Reaches c s) :
    power.Reaches (c.judge y x) s := ⟨known.toOpen.judge, known.off⟩

end Power

namespace Machine

variable {m : Machine} {s : ScriptKey}

theorem freeScript_core (m : Machine) (s : ScriptKey) : (m.freeScript s).core = m.core.free s := by
  unfold freeScript Core.free
  simp only [core_scripts]
  cases (m.scripts.get s).run <;> rfl

theorem sweepScript_path (made : s < m.scripts.size) :
    Path power m.core [] (m.sweepScript s).core := by
  unfold sweepScript
  by_cases keep : ((m.scripts.get s).freed || m.scriptHeld s) = true
  · rw [if_pos keep]
    exact .nil
  · have unheld : (m.scripts.get s).freed = false ∧ m.scriptHeld s = false := by simpa using keep
    rw [if_neg keep, freeScript_core]
    exact .one (.freed made unheld.1 unheld.2)

theorem size_le_sweepScript (m : Machine) (s : ScriptKey) :
    m.scripts.size ≤ (m.sweepScript s).scripts.size := by
  unfold sweepScript
  split
  · exact Nat.le_refl _
  · have sizes : m.scripts.size ≤ (m.core.free s).scripts.size := Slots.size_le_update ..
    rwa [← freeScript_core] at sizes

theorem sweepScripts_path (keys : List ScriptKey) (made : ∀ s ∈ keys, s < m.scripts.size) :
    Path power m.core [] (keys.foldl sweepScript m).core := by
  induction keys generalizing m with
  | nil => exact .nil
  | cons s rest ih =>
    refine (sweepScript_path (made s List.mem_cons_self)).thenQuiet (ih ?_)
    intro s' present
    exact Nat.lt_of_lt_of_le (made s' (List.mem_cons_of_mem _ present)) (m.size_le_sweepScript s)

theorem sweepContext_core (m : Machine) (k : ContextKey) : (m.sweepContext k).core = m.core := by
  unfold sweepContext
  split <;> rfl

theorem sweepContexts_core (m : Machine) (keys : List ContextKey) :
    (keys.foldl sweepContext m).core = m.core := by
  induction keys generalizing m with
  | nil => rfl
  | cons k rest ih => exact (ih _).trans (m.sweepContext_core k)

theorem sweep_path : Path power m.core [] m.sweep.core := by
  unfold sweep
  simp only [sweepContexts_core]
  exact sweepScripts_path _ fun s present => Slots.mem_keys.mp present

theorem sweep_stack (m : Machine) : m.sweep.stack = m.stack := by
  have script (m : Machine) (s : ScriptKey) : (m.sweepScript s).stack = m.stack := by
    unfold sweepScript
    split
    · rfl
    · exact congrArg Core.stack (m.freeScript_core s)
  have scripts (keys : List ScriptKey) (m : Machine) :
      (keys.foldl sweepScript m).stack = m.stack := by
    induction keys generalizing m with
    | nil => rfl
    | cons s rest ih => exact (ih _).trans (script m s)
  unfold sweep
  exact (congrArg Core.stack (sweepContexts_core _ _)).trans (scripts _ m)

theorem idle_iff {t : TaskKey} : m.core.Idle t ↔ ¬ m.running t := by
  simp [Core.Idle, running, core_stack]

theorem finishTask_path {t : TaskKey} (free : power.Works m.core (some t)) :
    Path power m.core [] (m.finishTask t).1.core := .one (.finished free.1 free.2)

theorem complete_path {origin : Origin} (free : power.Works m.core origin.task?) :
    Path power m.core [] (m.complete origin).1.core := by
  cases origin with
  | host => exact .nil
  | upcall kind id => exact .nil
  | task t => exact finishTask_path free

theorem abort_path {origin : Origin} {p : Panic} (free : power.Works m.core origin.task?) :
    Path power m.core [] (m.abort origin p).1.core := by
  cases origin with
  | host => exact .nil
  | upcall kind id => exact sweep_path
  | task t => exact finishTask_path free

theorem deliver_path {b : BridgeKey} {told : Option ScriptKey} {e : BridgeError} {origin : Origin}
    {kept : Option Notification} (known : ∀ x, told = some x → power.Reaches m.core x)
    (free : power.Works m.core origin.task?) :
    Path power m.core [] (m.deliver b told e origin kept).1.core := by
  unfold deliver errorHandler
  dsimp only
  split
  · exact complete_path (m := ((m.lock _).unlock _).tell _) free
  · rw [ask_core, unlock_core, lock_core]
    have known {x : ScriptKey} (holds : Frame.holdsScript x (.reporting b told origin kept)) :
        power.Reaches m.core x := known x (by simpa [Frame.holdsScript] using holds)
    exact .one (.asked rfl rfl (fun _ holds => (known holds).toOpen) free.1
      (fun _ holds => (known holds).off) free.2)

theorem report_path {b : BridgeKey} {told : Option ScriptKey} {e : BridgeError} {origin : Origin}
    {kept : Option Notification} (known : ∀ x, told = some x → power.Reaches m.core x)
    (free : power.Works m.core origin.task?) :
    Path power m.core [] (m.report b told e origin kept).1.core :=
  deliver_path (m := m.tell (.reporting e)) known free

theorem refuseCommand_path {c : Service} {e : BridgeError} (known : power.Reaches m.core c.script)
    (free : power.Works m.core c.origin.task?) :
    Path power m.core [] (m.refuseCommand c e).1.core := by
  refine report_path ?_ free
  intro x same
  cases same
  exact known

theorem fail_path {e : BridgeError} (known : power.Reaches m.core s) :
    Path power m.core [(s, .failed e)] (m.fail s e).core := by
  rw [fail_core]
  exact .one (.judged known.toOpen (by simp) (by simp) known.off)

theorem failAndReport_path {c : Service} {e : BridgeError} (known : power.Reaches m.core c.script)
    (free : power.Works m.core c.origin.task?) :
    Path power m.core [(c.script, .failed e)] (m.failAndReport c e).1.core := by
  refine (fail_path known).thenQuiet (report_path ?_ ?_)
  · intro x same
    cases same
    rw [fail_core]
    exact known.judge
  · rw [fail_core]
    exact free

-- The live script that holds the id of `f`; the new script of `f` is there already when it is looked for.
def rival? (m : Machine) (b : BridgeKey) (f : FiberKey) : Option ScriptKey :=
  let id := (m.fibers.get f).id
  let fresh : Script := { id, fiber := f, bridge := b, disposed := false }
  ((m.bridges.get b).registry.get? id).filter fun s => !((m.scripts.add fresh).get s).disposed

theorem register_core (m : Machine) (b : BridgeKey) (f : FiberKey) :
    ((m.rival? b f).isSome ∧ (m.register b f).1.core = m.core.refuse b f ∧
        (m.register b f).2 = .call (.dispose f)) ∨
      (m.rival? b f = none ∧ (m.register b f).1.core = m.core.accept b f ∧
        (m.register b f).2 = .returned (.keyed (.ok m.scripts.size))) := by
  let id := (m.fibers.get f).id
  let fresh : Script := { id, fiber := f, bridge := b, disposed := false }
  unfold register
  dsimp only
  split
  · rename_i s found
    have rival : m.rival? b f = some s := found
    refine .inl ⟨by rw [rival]; rfl, ?_, rfl⟩
    have fibers := Slots.update_update m.fibers f (fun fiber => { fiber with held := false })
      fun fiber => { fiber with released := true }
    have scripts := Slots.update_add m.scripts fresh fun script => { script with disposed := true }
    exact Core.ext fibers scripts rfl rfl rfl rfl rfl
  · rename_i none_found
    refine .inr ⟨none_found, ?_, rfl⟩
    have scripts := Slots.update_add m.scripts fresh fun script =>
      { script with accepted := true, owned := true }
    have registries := congrArg Core.registry (setBridge_core m (b := b)
      (f := fun bridge => { bridge with registry := bridge.registry.insert id m.scripts.size })
      (g := fun r => r.insert id m.scripts.size) fun _ => rfl)
    exact Core.ext rfl scripts rfl rfl registries rfl rfl

theorem vacant_of_rival? {b : BridgeKey} {f : FiberKey} {s : ScriptKey} (alone : m.rival? b f = none)
    (entry : (m.core.registry b).get? (m.fibers.get f).id = some s) : (m.scripts.get s).disposed := by
  have entry : (m.bridges.get b).registry.get? (m.fibers.get f).id = some s := entry
  unfold rival? at alone
  dsimp only at alone
  rw [entry, Option.filter_some, Slots.get_add] at alone
  by_cases new : m.scripts.size = s
  · simp [new] at alone
  · simpa [new] using alone

theorem register_path {b : BridgeKey} {f : FiberKey} (held : (m.fibers.get f).held)
    (made : f < m.fibers.size) (foreign : m.core.Foreign power.spares b f) :
    Path power m.core [] (m.register b f).1.core := by
  rcases register_core m b f with ⟨_, refused, _⟩ | ⟨alone, accepted, _⟩
  · rw [refused]
    exact .one (.refused held made foreign)
  · rw [accepted]
    exact .one (.accepted held made (fun s entry => vacant_of_rival? alone entry) foreign)

theorem status_disposed (ended : (m.scripts.get s).disposed) :
    m.status s = (m, .error (.useAfterDispose (m.idOf s))) := by
  unfold status
  rw [if_pos ended]
  rfl

theorem status_live (live : (m.scripts.get s).disposed = false) :
    ∃ n, m.status s =
        (n, .ok (Status.ofOrdinal (m.fibers.get (m.scripts.get s).fiber).ordinal)) ∧
      n.core = m.core.note
        (.read (m.scripts.get s).fiber (m.fibers.get (m.scripts.get s).fiber).ordinal) ∧
      n.canceled = m.canceled := by
  have alive : ¬ (m.scripts.get s).disposed = true := by simp [live]
  unfold status
  rw [if_neg alive]
  refine ⟨_, rfl, ?_⟩
  split <;> exact ⟨rfl, rfl⟩

theorem status_scripts (m : Machine) (s : ScriptKey) : (m.status s).1.scripts = m.scripts := by
  cases live : (m.scripts.get s).disposed with
  | true => rw [status_disposed live]
  | false =>
    obtain ⟨n, looked, noted, _⟩ := status_live live
    rw [looked]
    exact congrArg Core.scripts noted

theorem status_path (known : power.Reaches m.core s) :
    Path power m.core [] (m.status s).1.core := by
  cases live : (m.scripts.get s).disposed with
  | true =>
    rw [status_disposed live]
    exact .nil
  | false =>
    obtain ⟨n, looked, noted, _⟩ := status_live live
    rw [looked, noted]
    exact .one (.read known.toOpen live known.off)

theorem start_path {token : Option TokenKey} (known : power.Reaches m.core s)
    (meant : power.starts s token) :
    Path power m.core (m.startFate s token) (m.start s token).1.core := by
  unfold start startFate
  cases live : (m.scripts.get s).disposed with
  | true =>
    rw [status_disposed live]
    simp only [live, Bool.not_true, Bool.false_and, Bool.false_eq_true, if_false]
    exact .nil
  | false =>
    obtain ⟨n, looked, noted, tokens⟩ := status_live live
    have read : Path power m.core [] n.core := noted ▸ .one (.read known.toOpen live known.off)
    rw [looked]
    cases startable : (Status.ofOrdinal
      (m.fibers.get (m.scripts.get s).fiber).ordinal).startable with
    | false =>
      simp only [live, startable, Bool.and_false, Bool.false_eq_true, if_false]
      exact read
    | true =>
      simp only [live, startable, Bool.not_false, Bool.and_true, if_true]
      have scripts : n.core.scripts = m.core.scripts := by rw [noted]; rfl
      have sizes : n.runs.size = m.runs.size := congrArg (fun c => c.runs.size) noted
      have canceled : n.isCanceled token = m.isCanceled token := by
        unfold isCanceled
        rw [tokens]
      have known' : n.core.Open s := noted ▸ known.toOpen.transfer (Nat.le_refl _) rfl
      have live' : (n.core.scripts.get s).disposed = false := by rw [scripts]; exact live
      have armed : Path power m.core [(s, .armed n.core.runs.size (n.isCanceled token))]
          (n.core.arm s token (n.isCanceled token)) := read.step (.armed known' live' meant known.off)
      rw [← arm_core, core_runs, sizes, canceled] at armed
      -- Only the current run of `s` and its token are new.
      have now : ((n.arm s token).1.core.scripts.get s) =
          { m.scripts.get s with run := some m.runs.size, token } := by
        rw [arm_core]
        simp only [Core.arm, Slots.get_update, if_true, scripts, core_scripts, core_runs, sizes]
      refine armed.quiet (.starting (c := (n.arm s token).1.core) ?_ ?_ ?_ ?_ ?_ ?_ known.off)
      · rw [arm_core]
        exact known'.arm
      · rw [now]
        exact live
      · refine ⟨_, ?_, startable⟩
        rw [now, arm_core, noted]
        rfl
      · rw [now, ← sizes]
        rfl
      · rw [arm_core]
        exact Core.size_lt_arm n.core s token _
      · rw [arm_core, Core.arm_script]
        exact if_pos rfl

theorem readResult_core (m : Machine) (code : Int32) : (m.readResult code).1.core = m.core := by
  unfold readResult
  dsimp only
  split <;> rfl

theorem readResult_tokenCanceled (m : Machine) (code : Int32) (s : ScriptKey) :
    (m.readResult code).1.tokenCanceled s = m.tokenCanceled s := by
  unfold readResult
  dsimp only
  split <;> rfl

-- A native call on `s` came back with `code`.
theorem settleAfter_path {wasStart : Bool} {code : Int32} (known : power.Reaches m.core s) :
    Path power m.core [(s, .returned wasStart (CallResult.ofCode code) (m.tokenCanceled s))]
      ((m.readResult code).1.settleAfter s wasStart (m.readResult code).2).core := by
  rw [settleAfter_core, readResult_core, readResult_tokenCanceled]
  exact .one (.judged known.toOpen (by simp) (by simp) known.off)

theorem resumeDone_path {who : Resumer} (free : power.Works m.core who.task?) :
    Path power m.core [] (m.resumeDone who).1.core := by
  cases who with
  | host byHandle => exact .nil
  | command c => exact complete_path free
  | task t => exact finishTask_path free

theorem resumed_path {who : Resumer} {code : Int32} (known : power.Reaches m.core s)
    (free : power.Works m.core who.task?) :
    Path power m.core [(s, .returned false (CallResult.ofCode code) (m.tokenCanceled s))]
      (m.resumed s who code).1.core := by
  refine (settleAfter_path known).thenQuiet (resumeDone_path ?_)
  rw [settleAfter_core, readResult_core]
  exact free

theorem refuseResume_path {who : Resumer} (known : power.Reaches m.core s)
    (free : power.Works m.core who.task?) (same : ∀ c, who = .command c → c.script = s) :
    Path power m.core [] (m.refuseResume s who).1.core := by
  cases who with
  | host byHandle => exact .nil
  | command c =>
    have target : c.script = s := same c rfl
    exact refuseCommand_path (target ▸ known) free
  | task t =>
    refine deliver_path ?_ free
    intro x told
    cases told
    exact known

theorem resume_path {who : Resumer} (known : power.Reaches m.core s)
    (free : power.Works m.core who.task?) (same : ∀ c, who = .command c → c.script = s) :
    Path power m.core (m.resumeFate s) (m.resume s who).1.core := by
  unfold resume resumeFate
  cases live : (m.scripts.get s).disposed with
  | true =>
    simp only [live, if_true]
    exact refuseResume_path known free same
  | false =>
    simp only [live, Bool.false_eq_true, if_false]
    have entered : Path power m.core [(s, .entered (m.tokenCanceled s))] (m.enter s).core := by
      rw [enter_core]
      exact .one (.judged known.toOpen (by simp) (by simp) known.off)
    have scripts : (m.enter s).core.scripts = m.scripts := by rw [enter_core]; rfl
    have call : Change power (m.enter s).core []
        ((m.enter s).core.ask (.resume ((m.enter s).core.scripts.get s).fiber) (.resuming s who)) := by
      refine .resuming ?_ ?_ ?_ known.off ?_
      · rw [enter_core]
        exact known.toOpen.judge
      · rw [scripts]
        exact live
      · rw [enter_core]
        exact free.1
      · rw [enter_core]
        exact free.2
    rw [scripts] at call
    rw [ask_core, tell_core]
    exact entered.quiet call

theorem disposed_core (m : Machine) (s : ScriptKey) :
    (m.disposed s).1.core = m.core.endDispose s := by
  unfold disposed Core.endDispose
  dsimp only
  rw [giveBack_core, tell_core, tear_core, unlock_core]
  congr 1
  exact setBridge_core (m.lock _) fun _ => rfl

theorem dispose_path {dropped : Bool} (known : power.Reaches m.core s) (meant : power.ends s) :
    Path power m.core [] (m.dispose s dropped).1.core := by
  unfold dispose
  cases live : (m.scripts.get s).disposed with
  | true =>
    simp only [live, if_true]
    exact .nil
  | false =>
    simp only [live, Bool.false_eq_true, if_false]
    exact .one (.disposing known.toOpen meant live known.off)

theorem dropHandle_path (known : power.Reaches m.core s) (meant : power.ends s) :
    Path power m.core [] (m.dropHandle s).1.core := by
  have script : ((m.setScript s fun script => { script with owned := false }).scripts.get s) =
      { m.scripts.get s with owned := false } := by
    simp [setScript, Slots.get_update]
  unfold dropHandle dispose
  dsimp only
  rw [script]
  cases live : (m.scripts.get s).disposed with
  | true =>
    rw [if_pos rfl]
    exact .one (.disowned known.toOpen live known.off)
  | false =>
    rw [if_neg Bool.false_ne_true]
    -- Letting go of the handle and beginning the disposal touch different fields.
    have begun : Path power m.core [] (m.core.beginDispose s true) :=
      .one (.disposing known.toOpen meant live known.off)
    have after : (m.core.beginDispose s true).scripts.get s =
        { m.scripts.get s with disposed := true } := by
      simp [Core.beginDispose, Core.ask, Core.setFiber, Core.setScript, Slots.get_update]
    have disowned := begun.quiet (.disowned (s := s)
      (known.toOpen.transfer (Slots.size_le_update ..) (by rw [after]; rfl)) (by rw [after]) known.off)
    have scripts : (m.scripts.update s fun script => { script with owned := false }).update s
          (fun script => { script with disposed := true }) =
        (m.scripts.update s fun script => { script with disposed := true }).update s
          fun script => { script with owned := false } := by
      rw [Slots.update_update, Slots.update_update]
    refine Eq.mp (congrArg (Path power m.core []) ?_) disowned
    exact Core.ext rfl scripts.symm rfl rfl rfl rfl rfl

theorem dropFiber_path {f : FiberKey} (held : (m.fibers.get f).held)
    (off : ¬ power.spares.fiber f) : Path power m.core [] (m.dropFiber f).1.core :=
  .one (.letGo held off)

theorem releasedFiber_path {f : FiberKey} {rest : List Frame} (top : m.stack = .releasing f :: rest)
    (apart : Core.Apart power.spares m.tasks (.releasing f)) :
    Path power m.core [] ({ m with stack := rest }.releasedFiber f).core :=
  .one (.released top apart)

variable {c : Service}

theorem spawn_path {work : Work} (known : power.Reaches m.core c.script)
    (free : power.Works m.core c.origin.task?) :
    Path power m.core [] ((m.spawn c work).complete c.origin).1.core := by
  let task : Task :=
    { bridge := c.bridge, script := c.script, command := c.name, work, finished := false }
  have spawned : Path power m.core [] (m.spawn c work).core :=
    .one (.spawned known.toOpen rfl known.off)
  have tasks (t : TaskKey) : (m.spawn c work).core.tasks.get t =
      if m.tasks.size = t then task else m.tasks.get t := Slots.get_add ..
  refine spawned.thenQuiet (complete_path ⟨?_, ?_⟩)
  · intro t same
    obtain ⟨idle, unfinished⟩ := free.1 t same
    refine ⟨idle, ?_⟩
    rw [tasks]
    split
    · rfl
    · exact unfinished
  · intro t same
    rw [tasks]
    split
    · exact known.off
    · exact free.2 t same

theorem resumeWhen_path {n : Notification} (known : power.Reaches m.core c.script)
    (free : power.Works m.core c.origin.task?) :
    Path power m.core [] (m.resumeWhen c n).1.core := by
  unfold resumeWhen
  split
  · exact spawn_path known free
  · refine report_path ?_ free
    intro x same
    cases same
    exact known

theorem serviceFrame_path {q : HostCall} {frame : Frame} (foreign : q.native = false)
    (holds : ∀ x, frame.holdsScript x → c.script = x) (task : frame.task? = c.origin.task?)
    (plain : frame.native = false) (known : power.Reaches m.core c.script)
    (free : power.Works m.core c.origin.task?) : Path power m.core [] (m.ask q frame).1.core := by
  rw [ask_core]
  have known {x : ScriptKey} (held : frame.holdsScript x) : power.Reaches m.core x := holds x held ▸ known
  have free : power.Works m.core frame.task? := task ▸ free
  exact .one (.asked foreign plain (fun _ held => (known held).toOpen) free.1
    (fun _ held => (known held).off) free.2)

theorem serve_path {k : SystemCommand} (known : power.Reaches m.core c.script)
    (free : power.Works m.core c.origin.task?) : Path power m.core [] (m.serve c k).1.core := by
  unfold serve
  dsimp only
  split
  · exact refuseCommand_path (m := m.tell _) known free
  · refine serviceFrame_path (m := m.tell _) rfl ?_ rfl rfl known free
    intro x held
    simpa [Frame.holdsScript] using held

theorem logMessage_path {message : String} (known : power.Reaches m.core c.script)
    (free : power.Works m.core c.origin.task?) :
    Path power m.core
      (match (m.bridges.get c.bridge).log with
        | .builtIn => m.resumeFate c.script
        | .host _ => [])
      (m.logMessage c message).1.core := by
  have handler : (m.logHandler c.bridge).2 = (m.bridges.get c.bridge).log := rfl
  unfold logMessage
  dsimp only
  rw [handler]
  cases (m.bridges.get c.bridge).log with
  | builtIn =>
    refine resume_path (m := (m.logHandler c.bridge).1.tell _) known free ?_
    intro c' same
    cases same
    rfl
  | host h =>
    refine serviceFrame_path (m := (m.logHandler c.bridge).1) rfl ?_ rfl rfl known free
    intro x held
    simpa [Frame.holdsScript] using held

theorem scheduling_path {q : HostCall} (foreign : q.native = false)
    (known : power.Reaches m.core c.script) (free : power.Works m.core c.origin.task?) :
    Path power m.core [] (m.ask q (.scheduling c)).1.core := by
  refine serviceFrame_path foreign ?_ rfl rfl known free
  intro x held
  simpa [Frame.holdsScript] using held

theorem waitSeconds_path {seconds : Double} (known : power.Reaches m.core c.script)
    (free : power.Works m.core c.origin.task?) :
    Path power m.core [] (m.waitSeconds c seconds).1.core := by
  unfold waitSeconds
  split
  · exact refuseCommand_path known free
  · split
    · exact resumeWhen_path known free
    · exact scheduling_path rfl known free

theorem waitFrames_path {count : UInt32} (known : power.Reaches m.core c.script)
    (free : power.Works m.core c.origin.task?) :
    Path power m.core [] (m.waitFrames c count).1.core := by
  unfold waitFrames
  split
  · exact resumeWhen_path known free
  · exact scheduling_path rfl known free

theorem decoded_path {k : SystemCommand} {d : Decoding} (known : power.Reaches m.core c.script)
    (free : power.Works m.core c.origin.task?) :
    Path power m.core (m.replyFate (.decoding c k) (.decoded d)) (m.decoded c k d).1.core := by
  unfold decoded replyFate
  cases k with
  | log =>
    dsimp only
    cases shapeOf c.name d Json.asText with
    | error e => exact refuseCommand_path known free
    | ok message =>
      have logged : Path power m.core _ (m.logMessage c message).1.core :=
        logMessage_path known free
      cases handler : (m.bridges.get c.bridge).log with
      | builtIn => rwa [handler] at logged
      | host h => rwa [handler] at logged
  | waitSecs =>
    dsimp only
    split
    · exact refuseCommand_path known free
    · exact waitSeconds_path known free
  | waitFrames =>
    dsimp only
    split
    · exact refuseCommand_path known free
    · exact waitFrames_path known free

theorem routePanicked_path {p : Panic} (known : power.Reaches m.core c.script)
    (free : power.Works m.core c.origin.task?) :
    Path power m.core [(c.script, .failed (.forwardedHandler c.name p.message))]
      (m.routePanicked c p).1.core := failAndReport_path known free

theorem forward_path (known : power.Reaches m.core c.script) (free : power.Works m.core c.origin.task?) :
    Path power m.core
      (if (m.bridges.get c.bridge).runtime || c.ambient then []
        else [(c.script, .failed (.notSupported c.name noRuntime))])
      (m.forward c).1.core := by
  unfold forward runtimeFor
  dsimp only
  have bridges : (m.tell (.forwarding (m.idOf c.script) c.name)).bridges = m.bridges := rfl
  rw [bridges]
  cases ((m.bridges.get c.bridge).runtime || c.ambient) with
  | false => exact failAndReport_path (m := m.tell _) known free
  | true =>
    refine serviceFrame_path (m := m.tell _) rfl ?_ rfl rfl known free
    intro x held
    simpa [Frame.holdsScript] using held

theorem command_path {b : BridgeKey} {id : ScriptId} {name : ByteArray} {word : Word}
    {ambient : Bool} {origin : Origin} (known : ∀ s, m.find? b id = some s → power.Reaches m.core s)
    (free : power.Works m.core origin.task?) :
    Path power m.core (m.commandFate b id name ambient)
      (m.command b id name word ambient origin).1.core := by
  have lookup : (m.lookup b id).2 = m.find? b id := rfl
  have bridges : (m.lookup b id).1.bridges = m.bridges := rfl
  have unchanged : (m.lookup b id).1.core = m.core := rfl
  unfold command commandFate Bridge.refusal?
  dsimp only
  rw [lookup]
  cases found : m.find? b id with
  | none =>
    refine report_path (m := (m.lookup b id).1) ?_ free
    intro x same
    cases same
  | some s =>
    have held := known s found
    dsimp only
    rw [bridges]
    cases (m.bridges.get b).config.reserved? name with
    | some k => exact serve_path (m := (m.lookup b id).1) held free
    | none =>
      dsimp only
      cases Utf8.read name with
      | error fault =>
        exact failAndReport_path (m := (m.lookup b id).1)
          (c := ⟨b, s, Utf8.lossy name, word, ambient, origin⟩) held free
      | ok text =>
        dsimp only
        cases router : (m.bridges.get b).router with
        | false =>
          exact failAndReport_path (m := (m.lookup b id).1) (c := ⟨b, s, text, word, ambient, origin⟩)
            held free
        | true =>
          have sent : Path power (m.lookup b id).1.core _
              ((m.lookup b id).1.forward ⟨b, s, text, word, ambient, origin⟩).1.core :=
            forward_path held free
          dsimp only at sent
          rw [bridges, unchanged] at sent
          cases runtime : ((m.bridges.get b).runtime || ambient) with
          | false => simpa [runtime] using sent
          | true => simpa [runtime] using sent

theorem raise_path {b : BridgeKey} {id : ScriptId} {description : String} {origin : Origin}
    (known : ∀ s, m.find? b id = some s → power.Reaches m.core s) (free : power.Works m.core origin.task?) :
    Path power m.core (m.raiseFate b id description)
      (m.raise b id description origin).1.core := by
  have lookup : (m.lookup b id).2 = m.find? b id := rfl
  unfold raise raiseFate
  dsimp only
  rw [lookup]
  cases found : m.find? b id with
  | none =>
    refine report_path (m := (m.lookup b id).1) ?_ free
    intro x same
    cases same
  | some s =>
    refine (fail_path (m := (m.lookup b id).1.tell _) (known s found)).thenQuiet (complete_path ?_)
    rw [fail_core]
    exact free

variable {t : TaskKey}

theorem forwardFailed_path {message : String} (known : power.Reaches m.core (m.tasks.get t).script)
    (free : power.Works m.core (some t)) :
    Path power m.core
      [((m.tasks.get t).script, .failed (.forwardedHandler (m.tasks.get t).command message))]
      (m.forwardFailed t message).1.core := by
  unfold forwardFailed
  dsimp only
  refine (fail_path (m := m.tell (.forwardFailed message)) known).thenQuiet (deliver_path ?_ ?_)
  · intro x same
    cases same
    rw [fail_core]
    exact known.judge
  · rw [fail_core]
    exact free

theorem polled_path {p : Polled} (known : power.Reaches m.core (m.tasks.get t).script)
    (free : power.Works m.core (some t)) :
    Path power m.core (m.replyFate (.polling t) (.polled p)) (m.polled t p).1.core := by
  unfold polled replyFate
  cases p with
  | pending => exact .nil
  | succeeded =>
    dsimp only
    have bridges : (m.tell .forwardCompleted).bridges = m.bridges := rfl
    rw [bridges]
    cases (m.bridges.get (m.tasks.get t).bridge).config.resumeAfterForward with
    | true =>
      refine resume_path (m := m.tell _) known free ?_
      intro c same
      cases same
    | false => exact finishTask_path (m := m.tell _) free
  | failed causes => exact forwardFailed_path known free

theorem pollTask_path (idle : m.core.Idle t) (off : ¬ power.spares.script (m.tasks.get t).script)
    (known : (m.tasks.get t).finished = false → m.core.Open (m.tasks.get t).script) :
    Path power m.core (m.waitFate t) (m.pollTask t).1.core := by
  unfold pollTask waitFate
  dsimp only
  cases ended : (m.tasks.get t).finished with
  | true =>
    rw [if_pos rfl]
    cases (m.tasks.get t).work <;> exact .nil
  | false =>
    rw [if_neg Bool.false_ne_true]
    have known : power.Reaches m.core (m.tasks.get t).script := ⟨known ended, off⟩
    have free : power.Works m.core (some t) :=
      ⟨fun k same => Option.some.inj same ▸ ⟨idle, ended⟩, fun k same => Option.some.inj same ▸ off⟩
    cases (m.tasks.get t).work with
    | forward future =>
      exact .one (.asked (c := m.core) rfl rfl (by rintro _ ⟨⟩) free.1 (by rintro _ ⟨⟩) free.2)
    | wait n =>
      let looked := (m.enterTask t).setTask t fun task =>
        { task with work := .wait (m.begun n) }
      have come : looked.hasCome (m.begun n) = m.hasCome (m.begun n) := rfl
      have begun : Path power m.core [] looked.core := .one (.begun (c := m.core) free.1 free.2)
      show Path power m.core (if m.hasCome (m.begun n) then m.resumeFate _ else [])
        (if looked.hasCome (m.begun n) then (looked.tell .waitElapsed).resume _ (.task t)
          else looked.leaveTask.giveBack (.polled false)).1.core
      rw [come]
      cases m.hasCome (m.begun n) with
      | false => exact begun
      | true =>
        have task : looked.core.tasks.get t = { m.tasks.get t with work := .wait (m.begun n) } :=
          (Slots.get_update ..).trans (if_pos rfl)
        have still : power.Works looked.core (some t) := by
          refine ⟨?_, ?_⟩
          · rintro k ⟨⟩
            exact ⟨idle, by rw [task]; exact ended⟩
          · rintro k ⟨⟩
            rw [task]
            exact off
        have reached : power.Reaches looked.core (m.tasks.get t).script :=
          ⟨known.toOpen.transfer (Nat.le_refl _) rfl, off⟩
        exact begun.trans (resume_path (m := looked.tell .waitElapsed) reached still (by rintro _ ⟨⟩))

theorem commandUpcall_path {id : ScriptId} {name : Option ByteArray} {length : Int32} {word : Word}
    {ambient : Bool} (known : ∀ b s, m.target = some b → m.find? b id = some s →
      power.Reaches m.core s) :
    Path power m.core (m.opFate (.commandUpcall id name length word ambient))
      (m.commandUpcall id name length word ambient).1.core := by
  have target : m.liveTarget.2 = m.target.filter m.bridgeAlive := rfl
  unfold commandUpcall opFate
  dsimp only
  rw [target]
  cases live : m.target.filter m.bridgeAlive with
  | none => exact .nil
  | some b =>
    have installed : m.target = some b := (Option.filter_eq_some_iff.mp live).1
    exact command_path (m := m.liveTarget.1) (fun s => known b s installed) Power.works_none

theorem errorUpcall_path {id : ScriptId} {description : Option ByteArray}
    (known : ∀ b s, m.target = some b → m.find? b id = some s →
      power.Reaches m.core s) :
    Path power m.core (m.opFate (.errorUpcall id description))
      (m.errorUpcall id description).1.core := by
  have target : m.liveTarget.2 = m.target.filter m.bridgeAlive := rfl
  unfold errorUpcall opFate
  dsimp only
  rw [target]
  cases live : m.target.filter m.bridgeAlive with
  | none => exact .nil
  | some b =>
    have installed : m.target = some b := (Option.filter_eq_some_iff.mp live).1
    exact raise_path (m := m.liveTarget.1) (fun s => known b s installed) Power.works_none

theorem newContext_core (m : Machine) (available : Bool) :
    (m.newContext available).1.core = m.core := by
  unfold newContext
  cases available <;> rfl

theorem compile_path {k : ContextKey} {length : Nat} {made : Option (ScriptId × Int32)}
    (meant : power.compiles k) : Path power m.core [] (m.compile k length made).1.core := by
  unfold compile
  cases made with
  | none => exact .nil
  | some pair =>
    refine .one (.made (c := m.core) ⟨rfl, rfl⟩ ?_)
    rintro _ ⟨⟩
    exact meant

theorem build_core (m : Machine) (setup : Setup) : (m.build setup).1.core = m.core := by
  unfold build
  cases setup.codec with
  | false => rfl
  | true =>
    -- A new bridge starts with no script registered.
    refine Core.ext rfl rfl rfl rfl (funext fun b => ?_) rfl rfl
    show ((m.bridges.add _).get b).registry = (m.bridges.get b).registry
    rw [Slots.get_add]
    split
    · rename_i new
      rw [Slots.get_of_size_le (Nat.le_of_eq new)]
      rfl
    · rfl

end Machine

end FiberBridge
