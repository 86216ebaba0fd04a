import FiberBridge.Proofs.Coupled
import FiberBridge.Proofs.Mirror
import FiberBridge.Proofs.Spans
import FiberBridge.Proofs.Swept
import Mathlib.Data.List.Forall2

namespace FiberBridge

-- The settings are the same, but for tokens that are not among these.
structure Settings.Shares (tokens : TokenKey → Prop) (a b : Settings) : Prop where
  same : b = { a with canceled := b.canceled }
  tokens : ∀ t, tokens t → (t ∈ b.canceled ↔ t ∈ a.canceled)

namespace Machine

variable {x : Mirror} {m n m' n' : Machine} {s : ScriptKey} {f : FiberKey} {t : TaskKey}

structure Mirrors (x : Mirror) (m n : Machine) : Prop where
  core : m.core.Mirrors x n.core
  settings : m.settings.Shares x.obeys n.settings

structure Matches (x : Mirror) (y z : Machine × Reaction) : Prop where
  mirrors : y.1.Mirrors x z.1
  like : x.there.Like y.2 z.2

namespace Mirrors

theorem script (mirrors : m.Mirrors x n) (mine : x.scripts.mine s) :
    n.scripts.get (x.there.script s) = x.there.ofScript (m.scripts.get s) := mirrors.core.script mine

theorem idOf (mirrors : m.Mirrors x n) (mine : x.scripts.mine s) :
    n.idOf (x.there.script s) = m.idOf s :=
  (congrArg Script.id (mirrors.script mine)).trans rfl

theorem fiber (mirrors : m.Mirrors x n) {f : FiberKey} (mine : x.fibers.mine f) :
    n.fibers.get (x.there.fiber f) = m.fibers.get f := mirrors.core.fiber mine

theorem task (mirrors : m.Mirrors x n) {t : TaskKey} (mine : x.tasks.mine t) :
    n.tasks.get (x.there.task t) = x.there.ofTask (m.tasks.get t) := mirrors.core.task mine

theorem isCanceled (mirrors : m.Mirrors x n) {token : Option TokenKey}
    (obeyed : ∀ t, token = some t → x.obeys t) : n.isCanceled token = m.isCanceled token := by
  cases token with
  | none => rfl
  | some t =>
    have same := mirrors.settings.tokens t (obeyed t rfl)
    unfold Machine.isCanceled
    rw [Bool.eq_iff_iff, List.contains_iff_mem, List.contains_iff_mem]
    exact same

theorem tokenCanceled (mirrors : m.Mirrors x n) (ours : m.core.Ours x s) :
    n.tokenCanceled (x.there.script s) = m.tokenCanceled s := by
  have token : (n.scripts.get (x.there.script s)).token = (m.scripts.get s).token :=
    (congrArg Script.token (mirrors.script ours.1)).trans rfl
  unfold Machine.tokenCanceled
  rw [token]
  exact mirrors.isCanceled (mirrors.core.own s ours).token

theorem find? (mirrors : m.Mirrors x n) (b : BridgeKey) :
    n.find? b x.id = (m.find? b x.id).map x.there.script := by
  have entries : (n.bridges.get b).registry.get? x.id =
      ((m.bridges.get b).registry.get? x.id).map x.there.script := mirrors.core.entries b
  unfold Machine.find?
  rw [entries]
  cases entry : (m.bridges.get b).registry.get? x.id with
  | none => rfl
  | some s =>
    have script := mirrors.script (mirrors.core.named b s entry).1
    simp only [Option.map_some, Option.filter_some, script, Renaming.ofScript]
    split <;> rfl

theorem found (mirrors : m.Mirrors x n) {b : BridgeKey} (found : m.find? b x.id = some s) :
    m.core.Ours x s := mirrors.core.named b s (Option.filter_eq_some_iff.mp found).1

theorem of_core (mirrors : m.Mirrors x n) (core : m'.core.Mirrors x n'.core)
    (left : m'.settings = m.settings) (right : n'.settings = n.settings) : m'.Mirrors x n' := by
  refine ⟨core, ?_⟩
  rw [left, right]
  exact mirrors.settings

theorem arm (mirrors : m.Mirrors x n) (ours : m.core.Ours x s) {token : Option TokenKey}
    (obeyed : ∀ t, token = some t → x.obeys t) :
    (m.arm s token).1.Mirrors x (n.arm (x.there.script s) token).1 := by
  refine mirrors.of_core ?_ arm_tells.settings arm_tells.settings
  rw [arm_core, arm_core, mirrors.isCanceled obeyed]
  exact mirrors.core.arm ours obeyed _

theorem enter (mirrors : m.Mirrors x n) (ours : m.core.Ours x s) :
    (m.enter s).Mirrors x (n.enter (x.there.script s)) := by
  refine mirrors.of_core ?_ enter_tells.settings enter_tells.settings
  rw [enter_core, enter_core, mirrors.tokenCanceled ours]
  exact mirrors.core.judge ours rfl

theorem settleAfter (mirrors : m.Mirrors x n) (ours : m.core.Ours x s) (wasStart : Bool)
    (result : CallResult) :
    (m.settleAfter s wasStart result).Mirrors x (n.settleAfter (x.there.script s) wasStart result) := by
  refine mirrors.of_core ?_ settleAfter_tells.settings settleAfter_tells.settings
  rw [settleAfter_core, settleAfter_core, mirrors.tokenCanceled ours]
  exact mirrors.core.judge ours rfl

theorem fail (mirrors : m.Mirrors x n) (ours : m.core.Ours x s) (e : BridgeError) :
    (m.fail s e).Mirrors x (n.fail (x.there.script s) e) := by
  refine mirrors.of_core ?_ fail_tells.settings fail_tells.settings
  rw [fail_core, fail_core]
  exact mirrors.core.judge ours rfl

theorem tear (mirrors : m.Mirrors x n) (ours : m.core.Ours x s) :
    (m.tear s).Mirrors x (n.tear (x.there.script s)) := by
  refine mirrors.of_core ?_ tear_tells.settings tear_tells.settings
  rw [tear_core, tear_core]
  exact mirrors.core.judge ours rfl

theorem setRegistry (mirrors : m.Mirrors x n) {b : BridgeKey} {f g : Registry → Registry}
    (entries : (g (n.core.registry b)).get? x.id =
      ((f (m.core.registry b)).get? x.id).map x.there.script)
    (named : ∀ s, (f (m.core.registry b)).get? x.id = some s → m.core.Ours x s) :
    (m.setBridge b fun bridge => { bridge with registry := f bridge.registry }).Mirrors x
      (n.setBridge b fun bridge => { bridge with registry := g bridge.registry }) := by
  refine mirrors.of_core ?_ (setBridge_settings fun _ => rfl) (setBridge_settings fun _ => rfl)
  rw [setBridge_core m fun _ => rfl, setBridge_core n fun _ => rfl]
  exact mirrors.core.setRegistry entries named

theorem insert (mirrors : m.Mirrors x n) (ours : m.core.Ours x s) (b : BridgeKey) :
    (m.setBridge b fun bridge => { bridge with registry := bridge.registry.insert x.id s }).Mirrors x
      (n.setBridge b fun bridge =>
        { bridge with registry := bridge.registry.insert x.id (x.there.script s) }) := by
  refine mirrors.setRegistry (f := (·.insert x.id s)) (g := (·.insert x.id (x.there.script s))) ?_ ?_
  · rw [Registry.get?_insert, Registry.get?_insert, if_pos rfl, if_pos rfl, Option.map_some]
  · intro s' entry
    rw [Registry.get?_insert, if_pos rfl] at entry
    exact Option.some.inj entry ▸ ours

theorem remove (mirrors : m.Mirrors x n) (s : ScriptKey) (b : BridgeKey) :
    (m.setBridge b fun bridge => { bridge with registry := bridge.registry.remove x.id s }).Mirrors x
      (n.setBridge b fun bridge =>
        { bridge with registry := bridge.registry.remove x.id (x.there.script s) }) := by
  refine mirrors.setRegistry (f := (·.remove x.id s)) (g := (·.remove x.id (x.there.script s))) ?_ ?_
  · simp only [Registry.get?_remove, mirrors.core.entries, true_and]
    cases (m.core.registry b).get? x.id with
    | none => simp
    | some s' =>
      simp only [Option.map_some, Option.some.injEq]
      by_cases this : s' = s
      · simp [this]
      · have other : x.there.script s' ≠ x.there.script s := fun bad => this (Zone.there_inj.mp bad)
        simp [this, other]
  · intro s' entry
    rw [Registry.get?_remove] at entry
    split at entry
    · cases entry
    · exact mirrors.core.named _ s' entry

theorem sweepLeft (mirrors : m.Mirrors x n) (other : ¬ x.scripts.mine s) :
    (m.sweepScript s).Mirrors x n := by
  refine mirrors.of_core ?_ sweepScript_notes.settings rfl
  unfold sweepScript
  split
  · exact mirrors.core
  · rw [freeScript_core]
    exact mirrors.core.freeLeft other

theorem sweepRight (mirrors : m.Mirrors x n) (other : ¬ x.scripts.Image s) :
    m.Mirrors x (n.sweepScript s) := by
  refine mirrors.of_core ?_ rfl sweepScript_notes.settings
  unfold sweepScript
  split
  · exact mirrors.core
  · rw [freeScript_core]
    exact mirrors.core.freeRight other

theorem sweepBoth (mirrors : m.Mirrors x n) (made : s < m.scripts.size) :
    (m.sweepScript s).Mirrors x (n.sweepScript (x.there.script s)) := by
  by_cases mine : x.scripts.mine s
  · have freed : (n.scripts.get (x.there.script s)).freed = (m.scripts.get s).freed :=
      (congrArg Script.freed (mirrors.script mine)).trans rfl
    have held : n.scriptHeld (x.there.script s) = m.scriptHeld s := mirrors.core.held mine
    refine mirrors.of_core ?_ sweepScript_notes.settings sweepScript_notes.settings
    unfold sweepScript
    rw [freed, held]
    split
    · exact mirrors.core
    · rw [freeScript_core, freeScript_core]
      exact mirrors.core.free ⟨mine, made⟩
  · exact (mirrors.sweepLeft mine).sweepRight fun image => mine (Zone.image_there.mp image)

theorem sweepScripts (keys : List ScriptKey) (mirrors : m.Mirrors x n)
    (made : ∀ s ∈ keys, s < m.scripts.size) :
    (keys.foldl sweepScript m).Mirrors x ((keys.map x.there.script).foldl sweepScript n) := by
  induction keys generalizing m n with
  | nil => exact mirrors
  | cons s rest ih =>
    refine ih (mirrors.sweepBoth (made s List.mem_cons_self)) fun s' present => ?_
    exact Nat.lt_of_lt_of_le (made s' (List.mem_cons_of_mem _ present)) (m.size_le_sweepScript s)

theorem sweepOthers (keys : List ScriptKey) (mirrors : m.Mirrors x n)
    (other : ∀ s ∈ keys, ¬ x.scripts.Image s) : m.Mirrors x (keys.foldl sweepScript n) := by
  induction keys generalizing n with
  | nil => exact mirrors
  | cons s rest ih =>
    exact ih (mirrors.sweepRight (other s List.mem_cons_self)) fun s' present =>
      other s' (List.mem_cons_of_mem _ present)

theorem sweep (mirrors : m.Mirrors x n) : m.sweep.Mirrors x n.sweep := by
  obtain ⟨before, between, after, left, right, others⟩ := mirrors.core.scripts.keys
  have made : ∀ s ∈ before ++ after, s < m.scripts.size := fun s present =>
    Slots.mem_keys.mp (left.symm ▸ present)
  have size : (before.foldl sweepScript m).scripts.size = m.scripts.size :=
    (sweepScripts_frees before fun s present => made s (List.mem_append_left _ present)).1.size
  have first := mirrors.sweepScripts before fun s present => made s (List.mem_append_left _ present)
  have whole := (first.sweepOthers between others).sweepScripts after fun s present =>
    size.symm ▸ made s (List.mem_append_right _ present)
  have folded : (m.scripts.keys.foldl sweepScript m).Mirrors x (n.scripts.keys.foldl sweepScript n) := by
    have left : m.scripts.keys = before ++ after := left
    have right : n.scripts.keys =
      before.map x.there.script ++ (between ++ after.map x.there.script) := right
    rw [left, right, List.foldl_append, List.foldl_append, List.foldl_append]
    exact whole
  refine folded.of_core ?_ (foldl_tells sweepContext_tells _).settings
    (foldl_tells sweepContext_tells _).settings
  have same : m.sweep.core = (m.scripts.keys.foldl sweepScript m).core := sweepContexts_core ..
  have same' : n.sweep.core = (n.scripts.keys.foldl sweepScript n).core := sweepContexts_core ..
  rw [same, same']
  exact folded.core

theorem bridgeAlive (mirrors : m.Mirrors x n) (b : BridgeKey) :
    n.bridgeAlive b = m.bridgeAlive b := by
  have bridges : n.settings.bridges = m.settings.bridges :=
    (congrArg Settings.bridges mirrors.settings.same).trans rfl
  have clones : (n.bridges.get b).clones = (m.bridges.get b).clones :=
    bridge_of_bridges bridges Bridge.clones (fun _ => rfl) b
  have stack : n.stack.any (Frame.keepsBridge b) = m.stack.any (Frame.keepsBridge b) := by
    obtain ⟨top, left, right, _⟩ := mirrors.core.stack
    have left : m.stack = top ++ x.base := left
    have right : n.stack = top.map x.there.ofFrame ++ x.base := right
    rw [left, right, List.any_append, List.any_append, List.any_map]
    simp only [Function.comp_def, Mirror.keepsBridge_ofFrame]
  unfold Machine.bridgeAlive
  rw [clones, stack]

theorem ours (ours : x.view.Ours m.scripts.size s) : m.core.Ours x s := ⟨ours.mine, ours.made trivial⟩

theorem agrees (mirrors : m.Mirrors x n) : Agrees x.view m n where
  script s mine := mirrors.script mine
  fiber f mine := mirrors.fiber mine
  task t mine := mirrors.task mine
  settings := mirrors.settings.same
  alive := mirrors.bridgeAlive
  entry b id own := own ▸ mirrors.find? b
  found b id s own found := by
    obtain ⟨mine, made⟩ := mirrors.found (own ▸ found)
    exact ⟨mine, fun _ => made⟩
  ownFiber s mine := (mirrors.core.own s (ours mine)).fiber
  ownId s mine := (mirrors.core.own s (ours mine)).id
  newScript := ⟨mirrors.core.scripts.new, mirrors.core.scripts.there_size⟩
  newFiber := mirrors.core.fibers.there_size
  newRun := ⟨mirrors.core.runs.new, mirrors.core.runs.there_size⟩

end Mirrors

-- What is done for scripts under one id goes the same way in a machine and in its mirror image.
def mirrored (x : Mirror) : Coupling where
  toView := x.view
  sides := Mirrors x
  after := Matches x
  agrees mirrors := mirrors.agrees
  tell mirrors _ := ⟨mirrors.core, mirrors.settings⟩
  lock mirrors _ := ⟨mirrors.core, mirrors.settings⟩
  unlock mirrors _ := ⟨mirrors.core, mirrors.settings⟩
  look mirrors _ ordinal := ⟨mirrors.core.note (.read _ ordinal), mirrors.settings⟩
  compiles mirrors _ := ⟨mirrors.core, mirrors.settings⟩
  setScript mirrors mine bland := ⟨mirrors.core.setScript (Mirrors.ours mine) (bland.renames x.there)
    fun owns => owns.of_bland bland, mirrors.settings⟩
  addScript mirrors _ id fiber run token := by
    refine ⟨mirrors.core.addScript ⟨id, fiber, ?_, ?_⟩, mirrors.settings⟩
    · rw [run]
      rintro r ⟨⟩
    · rw [token]
      rintro t ⟨⟩
  setFiber mirrors mine f := ⟨mirrors.core.setFiber mine f, mirrors.settings⟩
  addFiber mirrors fiber := ⟨mirrors.core.addFiber fiber, mirrors.settings⟩
  dropRun mirrors mine := ⟨mirrors.core.setRun (f := fun run => { run with awaited := false })
    (g := fun run => { run with awaited := false }) mine fun _ => rfl, mirrors.settings⟩
  setTask mirrors mine bland := ⟨mirrors.core.setTask mine (bland.renames x.there) bland.stays,
    mirrors.settings⟩
  spawn mirrors mine _ := ⟨mirrors.core.addTask mine, mirrors.settings⟩
  enterTask mirrors _ := ⟨mirrors.core, mirrors.settings⟩
  leaveTask mirrors := ⟨mirrors.core, mirrors.settings⟩
  insert mirrors own mine b := own ▸ mirrors.insert (Mirrors.ours mine) b
  remove mirrors own _ b := own ▸ mirrors.remove _ b
  arm mirrors mine obeyed := mirrors.arm (Mirrors.ours mine) obeyed
  enter mirrors mine := mirrors.enter (Mirrors.ours mine)
  settleAfter mirrors mine wasStart result := mirrors.settleAfter (Mirrors.ours mine) wasStart result
  fail mirrors mine e := mirrors.fail (Mirrors.ours mine) e
  tear mirrors mine := mirrors.tear (Mirrors.ours mine)
  ask mirrors q frame keeps := by
    rw [Mirror.view_ofFrame]
    exact ⟨⟨mirrors.core.ask q keeps, mirrors.settings⟩, .call⟩
  back mirrors like := ⟨mirrors, like⟩

-- What the operation addresses is under the id, and the tokens that it names are among `tokens`.
def Within (id : ScriptId) (tokens : TokenKey → Prop) (m : Machine) : Op → Prop
  | .start s token => m.idOf s = id ∧ ∀ t, token = some t → tokens t
  | .resume s _ | .status s | .describe s | .fail s _ | .dispose s | .dropHandle s | .makeRef s
  | .dropRef s | .decode s .. => m.idOf s = id
  | .lookup _ id' | .command _ id' .. | .error _ id' _ | .commandUpcall id' .. | .errorUpcall id' _
  | .makeFiber id' _ => id' = id
  | .compile _ _ made => ∀ id' ordinal, made = some (id', ordinal) → id' = id
  | .register _ f | .setOrdinal f _ | .dropFiber f => (m.fibers.get f).id = id
  | .dropRun r => (m.runs.get r).id = id
  | .pollTask t => m.idOf (m.tasks.get t).script = id
  | .cancel t => tokens t
  | .report .. => True
  | _ => False

namespace Mirrors

theorem mine (mirrors : m.Mirrors x n) (id : m.idOf s = x.id) : x.scripts.mine s :=
  Classical.byContradiction fun other => (mirrors.core.scripts.left s other).id id

theorem mineFiber (mirrors : m.Mirrors x n) (id : (m.fibers.get f).id = x.id) : x.fibers.mine f :=
  Classical.byContradiction fun other => mirrors.core.fibers.left f other id

theorem mineRun (mirrors : m.Mirrors x n) {r : RunKey} (id : (m.runs.get r).id = x.id) :
    x.runs.mine r :=
  Classical.byContradiction fun other => mirrors.core.runs.left r other id

theorem mineTask (mirrors : m.Mirrors x n) (id : m.idOf (m.tasks.get t).script = x.id) :
    x.tasks.mine t :=
  Classical.byContradiction fun other => mirrors.core.tasks.left t other (mirrors.mine id)

end Mirrors

theorem admits_mirrors (mirrors : m.Mirrors x n) {op : Op} (within : m.Within x.id x.obeys op)
    (admitted : m.Admits op) : n.Admits (x.there.ofOp op) := by
  have alive (b : BridgeKey) (before : m.bridgeAlive b) : n.bridgeAlive b := by
    rwa [mirrors.bridgeAlive]
  have held {s : ScriptKey} (id : m.idOf s = x.id) (before : m.scriptHeld s) :
      n.scriptHeld (x.there.script s) := (mirrors.core.held (mirrors.mine id)).trans before
  have script {s : ScriptKey} (id : m.idOf s = x.id) := mirrors.script (mirrors.mine id)
  have owned {s : ScriptKey} (id : m.idOf s = x.id) (before : (m.scripts.get s).owned) :
      (n.scripts.get (x.there.script s)).owned := by rwa [script id]
  have refs {s : ScriptKey} (id : m.idOf s = x.id) (before : 0 < (m.scripts.get s).refs) :
      0 < (n.scripts.get (x.there.script s)).refs := by rwa [script id]
  have callbacks (before : m.callbacks) : n.callbacks :=
    (mirrors.agrees.reads Settings.callbacks fun _ _ => rfl).trans before
  cases op with
  | report b e => exact alive b admitted
  | lookup b id => exact alive b admitted
  | command b id name word ambient => exact alive b admitted
  | error b id description => exact alive b admitted
  | register b f =>
    have mine := mirrors.mineFiber within
    obtain ⟨kept, free, made⟩ := admitted
    refine ⟨alive b kept, ?_, mirrors.core.fibers.there_lt.mpr made⟩
    rwa [mirrors.fiber mine]
  | start s token => exact owned within.1 admitted
  | resume s byHandle =>
    cases byHandle with
    | true => exact owned within admitted
    | false => exact refs within admitted
  | status s => exact held within admitted
  | describe s => exact held within admitted
  | fail s e => exact held within admitted
  | dispose s => exact owned within admitted
  | dropHandle s =>
    obtain ⟨kept, free⟩ := admitted
    refine ⟨owned within kept, ?_⟩
    have same := mirrors.core.stack_iff (z := x.scripts) (k := s) (p := Frame.borrowsHandle)
      (fun frame below s borrows => x.old frame below s (Frame.holds_of_borrows borrows))
      fun frame => Mirror.borrowsHandle_ofFrame frame s
    simpa only [List.any_eq_true] using fun borrowed => free (by simpa using same.mp borrowed)
  | makeRef s => exact held within admitted
  | dropRef s => exact refs within admitted
  | dropRun r =>
    obtain ⟨awaited, made⟩ := admitted
    have run : n.runs.get (x.there.run r) = x.there.ofRun (m.runs.get r) :=
      mirrors.core.run (mirrors.mineRun within)
    exact ⟨by rwa [run], mirrors.core.runs.there_lt.mpr made⟩
  | decode s command word shape => exact held within admitted
  | pollTask t =>
    obtain ⟨idle, made⟩ := admitted
    refine ⟨?_, mirrors.core.tasks.there_lt.mpr made⟩
    have same := mirrors.core.stack_iff (z := x.tasks) (k := t)
      (p := fun t frame => frame.task? = some t) (by simpa using x.oldTasks) fun frame => by
        rw [Mirror.task?_ofFrame]
        cases frame.task? with
        | none => rfl
        | some t' =>
          have same : x.tasks.there t' = x.tasks.there t ↔ t' = t := Zone.there_inj
          simpa [Mirror.there] using same
    simpa only [running, List.any_eq_true] using fun runs => idle (by simpa [running] using same.mp runs)
  | compile k length made =>
    have contexts : (n.contexts.get k).held = (m.contexts.get k).held :=
      mirrors.agrees.reads (fun settings => settings.contexts k) fun _ _ => rfl
    exact contexts.trans admitted
  | dropFiber f =>
    have held : (m.fibers.get f).held := admitted
    change (n.fibers.get (x.there.fiber f)).held
    rwa [mirrors.fiber (mirrors.mineFiber within)]
  | commandUpcall id name length word ambient => exact callbacks admitted
  | errorUpcall id description => exact callbacks admitted
  | setOrdinal f ordinal => trivial
  | makeFiber id ordinal => trivial
  | cancel t => trivial
  | _ => cases within

theorem launch_mirrors {op : Op} (steady : Steady m.core) (mirrors : m.Mirrors x n)
    (within : m.Within x.id x.obeys op) (admitted : m.Admits op) :
    Matches x (m.launch op) (n.launch (x.there.ofOp op)) := by
  have both : (mirrored x).sides m n := mirrors
  have ours {s : ScriptKey} (known : m.core.Open s) (id : m.idOf s = x.id) :
      x.view.Ours m.scripts.size s := ⟨mirrors.mine id, fun _ => known.made⟩
  refine launch_coupled both rfl ?_ fun general => ?_
  · cases op with
    | start s token => exact ⟨ours (steady.owned_open admitted) within.1, within.2⟩
    | resume s byHandle =>
      cases byHandle with
      | true => exact ours (steady.owned_open admitted) within
      | false => exact ours (steady.refs_open admitted) within
    | status s => exact ours (steady.held_open admitted) within
    | describe s => exact ours (steady.held_open admitted) within
    | fail s e => exact ours (steady.held_open admitted) within
    | dispose s => exact ours (steady.owned_open admitted) within
    | dropHandle s => exact ours (steady.owned_open admitted.1) within
    | makeRef s => exact ours (steady.held_open admitted) within
    | dropRef s => exact ours (steady.refs_open admitted) within
    | decode s command word shape => exact mirrors.mine within
    | register b f => exact ⟨mirrors.mineFiber within, within⟩
    | setOrdinal f ordinal => exact mirrors.mineFiber within
    | dropFiber f => exact mirrors.mineFiber within
    | dropRun r => exact mirrors.mineRun within
    | pollTask t =>
      exact ⟨mirrors.mineTask within, fun unfinished =>
        ours (steady.holds_open (.task unfinished rfl)) within⟩
    | lookup b id => exact within
    | command b id name word ambient => exact within
    | error b id description => exact within
    | commandUpcall id name length word ambient => exact within
    | errorUpcall id description => exact within
    | _ => trivial
  · cases op with
    | cancel t =>
      refine ⟨⟨mirrors.core, ?_, ?_⟩, .of_plain rfl⟩
      · exact congrArg (fun settings => { settings with canceled := t :: n.canceled })
          mirrors.settings.same
      · intro t' obeyed
        have same : t' ∈ n.canceled ↔ t' ∈ m.canceled := mirrors.settings.tokens t' obeyed
        change t' ∈ t :: n.canceled ↔ t' ∈ t :: m.canceled
        rw [List.mem_cons, List.mem_cons, same]
    | build | cloneBridge | dropBridge | setLog | setError | count | makeClock | advanceClock
    | dropClock | complete | elapse | newContext | dropContext | install | uninstall => cases within
    | _ => cases general

theorem continue?_mirrors {frame : Frame} {reply : Reply} {after : Machine × Reaction}
    (mirrors : m.Mirrors x n) (awaits : Awaits x.view m frame)
    (ran : m.continue? frame reply = some after) :
    ∃ after', n.continue? (x.there.ofFrame frame) reply = some after' ∧ Matches x after after' := by
  have both : (mirrored x).sides m n := mirrors
  have continued := continue?_coupled both awaits reply
  rw [ran, show (mirrored x).ofFrame frame = x.there.ofFrame frame from Mirror.view_ofFrame frame]
    at continued
  cases other : n.continue? (x.there.ofFrame frame) reply with
  | none =>
    rw [other] at continued
    cases continued
  | some after' =>
    rw [other] at continued
    cases continued with
    | some matched => exact ⟨after', rfl, matched⟩

theorem recover_mirrors {frame : Frame} (mirrors : m.Mirrors x n) (awaits : Awaits x.view m frame)
    (p : Panic) : Matches x (m.recover p frame) (n.recover p (x.there.ofFrame frame)) := by
  have both : (mirrored x).sides m n := mirrors
  have recovered := recover_coupled (p := p) both awaits fun _ _ matched => matched
  rw [show (mirrored x).ofFrame frame = x.there.ofFrame frame from Mirror.view_ofFrame frame]
    at recovered
  refine recovered ?_
  rintro _ kind id _ rfl
  rw [show (mirrored x).ofOrigin (.upcall kind id) = .upcall kind id from View.ofOrigin_upcall rfl]
  exact ⟨⟨mirrors.sweep.core, mirrors.sweep.settings⟩, .of_plain rfl⟩

theorem top_awaits {frame : Frame} {rest : List Frame} (steady : Steady m.core)
    (mirrors : m.Mirrors x n) (top : m.stack = frame :: rest) (keeps : x.view.Keeps frame) :
    Awaits x.view { m with stack := rest } frame := by
  refine ⟨keeps, fun _ s held => (top_open steady top held).made, ?_⟩
  rintro t rfl
  have unfinished : (m.tasks.get t).finished = false := (top_free steady top t rfl).2
  have made := (steady.holds_open (.task (c := m.core) unfinished rfl)).made
  exact ⟨mirrors.core.works t keeps unfinished, fun _ => made⟩

theorem step_mirrors {next : Machine} {move : Move} {r : Reaction} (steady : Steady m.core)
    (mirrors : m.Mirrors x n) (stays : move.Stays (m.Within x.id x.obeys) x.base m.stack)
    (step : Step m move next r) :
    ∃ next' r', Step n (x.there.ofMove move) next' r' ∧ next.Mirrors x next' ∧ x.there.Like r r' := by
  cases stays with
  | @invoke op within =>
    obtain ⟨admitted, rfl, rfl⟩ := step.invoked
    obtain ⟨launched, like⟩ := launch_mirrors steady mirrors within admitted
    exact ⟨_, _, .invoke (admits_mirrors mirrors within admitted) rfl, launched.sweep, like⟩
  | @answer frame rest reply top above =>
    obtain ⟨after, continued, rfl, rfl⟩ := step.answered_at top
    obtain ⟨rest', other, keeps, popped⟩ := mirrors.core.pop top above
    have back : { m with stack := rest }.Mirrors x { n with stack := rest' } :=
      ⟨popped, mirrors.settings⟩
    obtain ⟨after', continued', matched⟩ :=
      continue?_mirrors back (top_awaits steady mirrors top keeps) continued
    refine ⟨after'.1.sweep, after'.2, .answer ?_, matched.mirrors.sweep, matched.like⟩
    have other : n.stack = x.there.ofFrame frame :: rest' := other
    unfold answer?
    rw [other]
    dsimp only
    rw [continued']
    rfl
  | @unwind frame rest p top above =>
    obtain ⟨rfl, rfl⟩ := step.unwound_at top
    obtain ⟨rest', other, keeps, popped⟩ := mirrors.core.pop top above
    have back : { m with stack := rest }.Mirrors x { n with stack := rest' } :=
      ⟨popped, mirrors.settings⟩
    have matched := recover_mirrors back (top_awaits steady mirrors top keeps) p
    refine ⟨_, _, .unwind ?_, matched.mirrors.sweep, matched.like⟩
    have other : n.stack = x.there.ofFrame frame :: rest' := other
    unfold unwind?
    rw [other]
    rfl

end Machine

end FiberBridge
