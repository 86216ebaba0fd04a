import FiberBridge.Proofs.Coupled
import FiberBridge.Proofs.Swept

namespace FiberBridge

namespace Machine

variable {m n : Machine} {base k : List Frame} {h : Bool}

def upon (m : Machine) (k : List Frame) : Machine := { m with stack := k }

-- The same went on above `base` in the first machine and above `k` in the second: control is back, or
-- the host is asked the same.
inductive Abreast (h : Bool) (base k : List Frame) :
    Machine × Reaction → Machine × Reaction → Prop where
  | back {n : Machine} {r : Reaction} (same : n.stack = base) : Abreast h base k (n, r) (n.upon k, r)
  | asked {n : Machine} {q : HostCall} {f : Frame} (same : n.stack = base) :
      Abreast h base k (n.ask q f) ((n.upon k).ask q (f.hostedIf h))

theorem stack_of_upon {f : Machine → Machine} (upon : f (m.upon m.stack) = (f m).upon m.stack) :
    (f m).stack = m.stack := by
  have same : f m = (f m).upon m.stack := upon
  rw [same]
  rfl

theorem settle_upon (r : RunKey) (o : Outcome) : (m.upon k).settle r o = (m.settle r o).upon k := by
  have settled : (m.upon k).isSettled r = m.isSettled r := rfl
  unfold settle
  rw [settled]
  split
  · rfl
  · cases o with
    | ok => rfl
    | error e =>
      have awaited : ((m.upon k).runs.get r).awaited = (m.runs.get r).awaited := rfl
      dsimp only
      rw [awaited]
      split <;> rfl

theorem settleTelling_upon (r : RunKey) (o : Outcome) (d : Diagnostic) :
    (m.upon k).settleTelling r o d = (m.settleTelling r o d).upon k := by
  have settled : (m.upon k).isSettled r = m.isSettled r := rfl
  unfold settleTelling
  rw [settled, settle_upon]
  split <;> rfl

theorem settleCurrent_upon (s : ScriptKey) (o : Outcome) (d : Diagnostic) :
    (m.upon k).settleCurrent s o d = (m.settleCurrent s o d).upon k := by
  have current : ((m.upon k).scripts.get s).run = (m.scripts.get s).run := rfl
  unfold settleCurrent
  rw [current]
  cases (m.scripts.get s).run with
  | none => rfl
  | some r => exact settleTelling_upon r o d

theorem settleIf_upon (canceled : Bool) (r : RunKey) (o : Outcome) :
    (if canceled then (m.upon k).settle r o else m.upon k) =
      (if canceled then m.settle r o else m).upon k := by
  cases canceled with
  | true => exact settle_upon r o
  | false => rfl

theorem arm_upon (s : ScriptKey) (token : Option TokenKey) :
    (m.upon k).arm s token = ((m.arm s token).1.upon k, (m.arm s token).2) := by
  -- The new run before anything is decided about it.
  let added : Machine :=
    { m.lock (.run s) with runs := m.runs.add { script := s, id := m.idOf s } }
  let marked := added.mark s (.armed m.runs.size (m.isCanceled token))
  have begun := settleIf_upon (m := marked) (k := k) (m.isCanceled token) m.runs.size
    (.error .canceled)
  have superseded := settleCurrent_upon (k := k) s (.error .canceled) (.superseded (m.idOf s))
    (m := if m.isCanceled token then marked.settle m.runs.size (.error .canceled) else marked)
  have both := congrArg (settleCurrent · s (.error .canceled) (.superseded (m.idOf s))) begun
  exact Prod.ext (congrArg (fun n : Machine => (n.setScript s fun script =>
    { script with run := some m.runs.size, token }).unlock (.run s)) (both.trans superseded)) rfl

theorem enter_upon (s : ScriptKey) : (m.upon k).enter s = (m.enter s).upon k := by
  have settled := settleCurrent_upon (m := (m.lock (.run s)).mark s (.entered true)) (k := k) s
    (.error .canceled) (.canceledAtResume (m.idOf s))
  have canceled : ((m.upon k).lock (.run s)).tokenCanceled s = m.tokenCanceled s := rfl
  have canceled' : (m.lock (.run s)).tokenCanceled s = m.tokenCanceled s := rfl
  unfold enter
  dsimp only
  rw [canceled, canceled']
  cases m.tokenCanceled s with
  | true => exact congrArg (unlock · (.run s)) settled
  | false => rfl

theorem settleAfter_upon (s : ScriptKey) (wasStart : Bool) (result : CallResult) :
    (m.upon k).settleAfter s wasStart result = (m.settleAfter s wasStart result).upon k := by
  have marked : ((m.upon k).lock (.run s)).mark s (.returned wasStart result
      (((m.upon k).lock (.run s)).tokenCanceled s)) =
      ((m.lock (.run s)).mark s (.returned wasStart result
        ((m.lock (.run s)).tokenCanceled s))).upon k := rfl
  unfold settleAfter
  dsimp only
  rw [marked]
  generalize (m.lock (.run s)).mark s _ = marked
  have current : ((marked.upon k).scripts.get s).run = (marked.scripts.get s).run := rfl
  rw [current]
  cases (marked.scripts.get s).run with
  | none => rfl
  | some r =>
    have begun := settleIf_upon (m := marked) (k := k) (m.tokenCanceled s) r (.error .canceled)
    have ended (o : Outcome) (d : Diagnostic) :=
      (congrArg (settleTelling · r o d) begun).trans (settleTelling_upon (k := k) r o d)
    cases result with
    | error => exact congrArg (unlock · (.run s)) (ended _ _)
    | yielded => exact congrArg (fun n : Machine => (n.tell _).unlock (.run s)) begun
    | done => exact congrArg (unlock · (.run s)) (ended _ _)

theorem fail_upon (s : ScriptKey) (e : BridgeError) : (m.upon k).fail s e = (m.fail s e).upon k := by
  have marked : ((m.upon k).lock (.run s)).mark s (.failed e) =
      ((m.lock (.run s)).mark s (.failed e)).upon k := rfl
  unfold fail
  dsimp only
  rw [marked]
  generalize (m.lock (.run s)).mark s (.failed e) = marked
  have current : ((marked.upon k).scripts.get s).run = (marked.scripts.get s).run := rfl
  rw [current]
  cases (marked.scripts.get s).run with
  | none => rfl
  | some r =>
    have settled : (marked.upon k).isSettled r = marked.isSettled r := rfl
    dsimp only
    rw [settled]
    split
    · rfl
    · exact congrArg (unlock · (.run s)) (settle_upon (m := marked.tell _) r _)

theorem tear_upon (s : ScriptKey) : (m.upon k).tear s = (m.tear s).upon k := by
  have marked : ((m.upon k).lock (.run s)).mark s .torn =
      ((m.lock (.run s)).mark s .torn).upon k := rfl
  unfold tear
  dsimp only
  rw [marked]
  generalize (m.lock (.run s)).mark s .torn = marked
  have current : ((marked.upon k).scripts.get s).run = (marked.scripts.get s).run := rfl
  rw [current]
  cases (marked.scripts.get s).run with
  | none => rfl
  | some r => exact congrArg (unlock · (.run s)) (settle_upon (m := marked) r _)

-- The same scripts, handles and bridges are kept by what is suspended.
structure Keeps (stack stack' : List Frame) : Prop where
  scripts : ∀ s, stack'.any (Frame.holdsScript s) = stack.any (Frame.holdsScript s)
  handles : ∀ s, stack'.any (Frame.borrowsHandle s) = stack.any (Frame.borrowsHandle s)
  bridges : ∀ b, stack'.any (Frame.keepsBridge b) = stack.any (Frame.keepsBridge b)
  works : ∀ t, stack'.any (fun frame => frame.task? = some t) =
    stack.any fun frame => frame.task? = some t

theorem Keeps.refl (stack : List Frame) : Keeps stack stack :=
  ⟨fun _ => rfl, fun _ => rfl, fun _ => rfl, fun _ => rfl⟩

theorem Keeps.push (keeps : Keeps base k) (frame : Frame) (h : Bool) :
    Keeps (frame :: base) (frame.hostedIf h :: k) := by
  refine ⟨?_, ?_, ?_, ?_⟩
  · intro s
    rw [List.any_cons, List.any_cons, keeps.scripts, Frame.holdsScript_hostedIf]
  · intro s
    rw [List.any_cons, List.any_cons, keeps.handles, Frame.borrowsHandle_hostedIf]
  · intro b
    rw [List.any_cons, List.any_cons, keeps.bridges, Frame.keepsBridge_hostedIf]
  · intro t
    rw [List.any_cons, List.any_cons, keeps.works, Frame.task?_hostedIf]

theorem bridgeAlive_upon (keeps : Keeps m.stack k) (b : BridgeKey) :
    (m.upon k).bridgeAlive b = m.bridgeAlive b := by
  unfold bridgeAlive
  exact congrArg (decide (0 < (m.bridges.get b).clones) || ·) (keeps.bridges b)

theorem scriptHeld_upon (keeps : Keeps m.stack k) (s : ScriptKey) :
    (m.upon k).scriptHeld s = m.scriptHeld s := by
  unfold scriptHeld
  exact congrArg (fun held : Bool => (m.scripts.get s).owned || 0 < (m.scripts.get s).refs || held ||
    m.tasks.any fun t => !t.finished && t.script = s) (keeps.scripts s)

structure Upon (base k : List Frame) (m n : Machine) : Prop where
  stack : m.stack = base
  same : n = m.upon k

theorem Upon.refl (m : Machine) (k : List Frame) : Upon m.stack k m (m.upon k) := ⟨rfl, rfl⟩

theorem Upon.change (both : Upon base k m n) (g : Machine → Machine)
    (blind : ∀ (m : Machine) (k : List Frame), g (m.upon k) = (g m).upon k) :
    Upon base k (g m) (g n) := by
  obtain ⟨stack, rfl⟩ := both
  exact ⟨(stack_of_upon (blind m m.stack)).trans stack, blind m k⟩

theorem Upon.agrees (both : Upon base k m n) (keeps : Keeps base k) : Agrees (.whole h) m n := by
  obtain ⟨rfl, rfl⟩ := both
  exact {
    script := fun s _ => (View.whole_ofScript _).symm
    fiber := fun _ _ => rfl
    task := fun _ _ => rfl
    settings := rfl
    alive := bridgeAlive_upon keeps
    entry := fun b id _ => (Option.map_id_apply (x := m.find? b id)).symm
    found := fun _ _ _ _ _ => View.whole_ours
    ownFiber := fun _ _ => trivial
    ownId := fun _ _ => trivial
    newScript := ⟨trivial, rfl⟩
    newFiber := rfl
    newRun := ⟨trivial, rfl⟩ }

-- No function looks at what is suspended below, or at whom it is for.
def beside (h : Bool) (keeps : Keeps base k) : Coupling where
  toView := .whole h
  sides := Upon base k
  after := Abreast h base k
  agrees both := both.agrees keeps
  tell both d := both.change (·.tell d) fun _ _ => rfl
  lock both l := both.change (·.lock l) fun _ _ => rfl
  unlock both l := both.change (·.unlock l) fun _ _ => rfl
  look {m n f} both _ ordinal := both.change (log · (.read f ordinal)) fun _ _ => rfl
  compiles both length := both.change (·.log (.native (.compile length))) fun _ _ => rfl
  setScript both _ _ := both.change (setScript · _ _) fun _ _ => rfl
  addScript both script _ _ _ _ := by
    rw [View.whole_ofScript]
    exact both.change (fun m => { m with scripts := m.scripts.add script }) fun _ _ => rfl
  setFiber both _ f := both.change (setFiber · _ f) fun _ _ => rfl
  addFiber both fiber :=
    both.change (fun m => { m with fibers := m.fibers.add fiber }) fun _ _ => rfl
  dropRun both _ := both.change (setRun · _ _) fun _ _ => rfl
  setTask both _ _ := both.change (setTask · _ _) fun _ _ => rfl
  spawn both _ work := both.change (spawn · _ work) fun _ _ => rfl
  enterTask both t := both.change (enterTask · t) fun _ _ => rfl
  leaveTask both := both.change leaveTask fun _ _ => rfl
  insert both _ _ b := both.change (setBridge · b _) fun _ _ => rfl
  remove both _ _ b := both.change (setBridge · b _) fun _ _ => rfl
  arm {m n s token} both _ _ :=
    both.change (fun m => (m.arm s token).1) fun _ _ => congrArg Prod.fst (arm_upon ..)
  enter both _ := both.change (enter · _) fun _ _ => enter_upon _
  settleAfter both _ wasStart result :=
    both.change (settleAfter · _ wasStart result) fun _ _ => settleAfter_upon ..
  fail both _ e := both.change (fail · _ e) fun _ _ => fail_upon ..
  tear both _ := both.change (tear · _) fun _ _ => tear_upon _
  ask both q frame _ := by
    obtain ⟨stack, rfl⟩ := both
    rw [View.whole_ofCall, View.whole_ofFrame]
    exact .asked stack
  back both like := by
    obtain ⟨stack, rfl⟩ := both
    rw [like.eq]
    exact .back stack

theorem launch_abreast (keeps : Keeps m.stack k) (op : Op) :
    Abreast false m.stack k (m.launch op) ((m.upon k).launch op) := by
  have both : (beside false keeps).sides m (m.upon k) := Upon.refl m k
  have launched := launch_coupled both rfl (whole_fits op)
  rw [show (beside false keeps).there.ofOp op = op from View.whole_ofOp op] at launched
  refine launched fun general => ?_
  cases op with
  | build setup =>
    simp only [launch, build]
    split
    · exact .back (n := { m.tell _ with bridges := m.bridges.add _ }) rfl
    · exact .back rfl
  | newContext available =>
    simp only [launch, newContext]
    split
    · exact .back (n := { m.log (.native .contextNew) with contexts := m.contexts.add _ }) rfl
    · exact .back (n := m.log (.native .contextNew)) rfl
  | cloneBridge b => exact .back (n := m.setBridge b _) rfl
  | dropBridge b => exact .back (n := m.setBridge b _) rfl
  | setLog b handler => exact .back (n := m.setLogHandler b handler) rfl
  | setError b handler => exact .back (n := m.setErrorHandler b handler) rfl
  | count b => exact .back (n := (m.lock (.registry b)).unlock (.registry b)) rfl
  | cancel t => exact .back (n := { m with canceled := t :: m.canceled }) rfl
  | makeClock => exact .back (n := { m with clocks := m.clocks.add _ }) rfl
  | advanceClock c frames => exact .back (n := { m with clocks := m.clocks.update c _ }) rfl
  | dropClock c => exact .back (n := { m with clocks := m.clocks.update c _ }) rfl
  | complete key => exact .back (n := { m with signals := key :: m.signals }) rfl
  | elapse millis => exact .back (n := { m with now := m.now + millis }) rfl
  | dropContext c => exact .back (n := { m with contexts := m.contexts.update c _ }) rfl
  | install b => exact .back (n := m.install b) rfl
  | uninstall => exact .back (n := m.uninstall) rfl
  | _ => cases general

theorem freeScript_upon (s : ScriptKey) : (m.upon k).freeScript s = (m.freeScript s).upon k := by
  have run : ((m.upon k).scripts.get s).run = (m.scripts.get s).run := rfl
  unfold freeScript
  dsimp only
  rw [run]
  cases (m.scripts.get s).run <;> rfl

theorem sweepScript_upon (keeps : Keeps m.stack k) (s : ScriptKey) :
    (m.upon k).sweepScript s = (m.sweepScript s).upon k := by
  have freed : ((m.upon k).scripts.get s).freed = (m.scripts.get s).freed := rfl
  unfold sweepScript
  rw [freed, scriptHeld_upon keeps]
  split
  · rfl
  · exact freeScript_upon s

theorem sweepScript_stack (m : Machine) (s : ScriptKey) : (m.sweepScript s).stack = m.stack := by
  unfold sweepScript
  split
  · rfl
  · exact congrArg Core.stack (m.freeScript_core s)

theorem sweepContext_upon (c : ContextKey) :
    (m.upon k).sweepContext c = (m.sweepContext c).upon k := by
  have held : (m.upon k).contextHeld c = m.contextHeld c := rfl
  have disposed : ((m.upon k).contexts.get c).disposed = (m.contexts.get c).disposed := rfl
  unfold sweepContext
  rw [held, disposed]
  split <;> rfl

theorem sweep_upon (keeps : Keeps m.stack k) : (m.upon k).sweep = m.sweep.upon k := by
  have scripts (keys : List ScriptKey) (n : Machine) (same : n.stack = m.stack) :
      keys.foldl sweepScript (n.upon k) = (keys.foldl sweepScript n).upon k := by
    induction keys generalizing n with
    | nil => rfl
    | cons s rest ih =>
      rw [List.foldl_cons, List.foldl_cons, sweepScript_upon (same ▸ keeps)]
      exact ih _ ((sweepScript_stack n s).trans same)
  have contexts (keys : List ContextKey) (n : Machine) :
      keys.foldl sweepContext (n.upon k) = (keys.foldl sweepContext n).upon k := by
    induction keys generalizing n with
    | nil => rfl
    | cons c rest ih =>
      rw [List.foldl_cons, List.foldl_cons, sweepContext_upon]
      exact ih _
  have swept := scripts m.scripts.keys m rfl
  unfold sweep
  dsimp only
  rw [show (m.upon k).scripts.keys = m.scripts.keys from rfl, swept]
  exact contexts _ _

-- A panic has reached the callback. It ends there; it would have gone on to the host.
def Stopped (p : Panic) (kind : UpcallKind) (id : ScriptId) (x y : Machine × Reaction)
    (n n' : Machine) : Prop :=
  x = (n.sweep.tell (.upcallPanicked kind id), .returned .done) ∧ y = (n', .panicked p)

theorem continue?_abreast (keeps : Keeps m.stack k) (frame : Frame) (reply : Reply) :
    Option.Rel (Abreast h m.stack k) (m.continue? frame reply)
      ((m.upon k).continue? (frame.hostedIf h) reply) := by
  have both : (beside h keeps).sides m (m.upon k) := Upon.refl m k
  have continued := continue?_coupled both (whole_awaits frame) reply
  rwa [show (beside h keeps).ofFrame frame = frame.hostedIf h from View.whole_ofFrame frame]
    at continued

theorem abort_upcall (keeps : Keeps m.stack k) (kind : UpcallKind) (id : ScriptId) (p : Panic) :
    Abreast h m.stack k (m.abort (.upcall kind id) p)
        ((m.upon k).abort ((Origin.upcall kind id).hostedIf h) p) ∨
      h = true ∧ Stopped p kind id (m.abort (.upcall kind id) p)
        ((m.upon k).abort ((Origin.upcall kind id).hostedIf h) p) m (m.upon k) := by
  cases h with
  | true => exact .inr ⟨rfl, rfl, rfl⟩
  | false =>
    left
    have swept := sweep_upon keeps
    have after : (m.upon k).abort ((Origin.upcall kind id).hostedIf false) p =
        ((m.sweep.tell (.upcallPanicked kind id)).upon k, .returned .done) :=
      congrArg (fun n : Machine => (n.tell (.upcallPanicked kind id)).giveBack .done) swept
    rw [after]
    exact .back (n := m.sweep.tell (.upcallPanicked kind id)) m.sweep_stack

theorem recover_abreast (keeps : Keeps m.stack k) (p : Panic) (frame : Frame) :
    Abreast h m.stack k (m.recover p frame) ((m.upon k).recover p (frame.hostedIf h)) ∨
      h = true ∧ ∃ kind id, frame.origin? = some (.upcall kind id) ∧
        Stopped p kind id (m.recover p frame) ((m.upon k).recover p (frame.hostedIf h)) m
          (m.upon k) := by
  have both : (beside h keeps).sides m (m.upon k) := Upon.refl m k
  have recovered := recover_coupled (p := p)
    (P := fun y z => Abreast h m.stack k y z ∨ h = true ∧ ∃ kind id,
      frame.origin? = some (.upcall kind id) ∧ Stopped p kind id y z m (m.upon k))
    both (whole_awaits frame) fun _ _ along => .inl along
  rw [show (beside h keeps).ofFrame frame = frame.hostedIf h from View.whole_ofFrame frame]
    at recovered
  refine recovered ?_
  rintro _ kind id own rfl
  rw [show (beside h keeps).ofOrigin (.upcall kind id) = (Origin.upcall kind id).hostedIf h from
    Renaming.ofOrigin_same _]
  rcases abort_upcall (h := h) keeps kind id p with along | ⟨hosted, stopped⟩
  · exact .inl along
  · exact .inr ⟨hosted, kind, id, own, stopped⟩

-- The same is suspended in both, but for one frame of a callback that is the host's in the second.
inductive Poses : List Frame → List Frame → Prop where
  | same (stack : List Frame) : Poses stack stack
  | here (frame : Frame) (rest : List Frame) : Poses (frame :: rest) (frame.hostedIf true :: rest)
  | above (frame : Frame) {stack stack' : List Frame} (below : Poses stack stack') :
      Poses (frame :: stack) (frame :: stack')

theorem Poses.keeps {stack stack' : List Frame} (poses : Poses stack stack') : Keeps stack stack' := by
  induction poses with
  | same stack => exact .refl stack
  | here frame rest => exact (Keeps.refl rest).push frame true
  | above frame below ih =>
    have pushed := ih.push frame false
    rwa [Frame.hostedIf_false] at pushed

-- The topmost frames are the same, or they are all that differs.
theorem Poses.popped {frame : Frame} {rest stack' : List Frame} (poses : Poses (frame :: rest) stack') :
    ∃ h rest', stack' = frame.hostedIf h :: rest' ∧ Poses rest rest' ∧ (h = true → rest' = rest) := by
  cases poses with
  | same =>
    exact ⟨false, rest, by rw [Frame.hostedIf_false], .same rest, fun _ => rfl⟩
  | here => exact ⟨true, rest, rfl, .same rest, fun _ => rfl⟩
  | above _ below =>
    exact ⟨false, _, by rw [Frame.hostedIf_false], below, fun bad => nomatch bad⟩

def Posed (m n : Machine) : Prop := ∃ stack', n = m.upon stack' ∧ Poses m.stack stack'

theorem Abreast.posed {x y : Machine × Reaction} (along : Abreast h base k x y)
    (poses : Poses base k) (alone : h = true → k = base) : y.2 = x.2 ∧ x.1.Posed y.1 := by
  cases along with
  | back same => exact ⟨rfl, k, rfl, same ▸ poses⟩
  | @asked n q frame same =>
    refine ⟨rfl, frame.hostedIf h :: k, rfl, ?_⟩
    change Poses (frame :: n.stack) _
    rw [same]
    cases h with
    | false =>
      rw [Frame.hostedIf_false]
      exact .above frame poses
    | true =>
      rw [alone rfl]
      exact .here frame base

theorem Posed.sweep (posed : m.Posed n) : m.sweep.Posed n.sweep := by
  obtain ⟨stack', rfl, poses⟩ := posed
  refine ⟨stack', sweep_upon poses.keeps, ?_⟩
  rw [m.sweep_stack]
  exact poses

theorem Posed.admits (posed : m.Posed n) {op : Op} (admitted : m.Admits op) : n.Admits op := by
  obtain ⟨stack', rfl, poses⟩ := posed
  have keeps := poses.keeps
  have alive (b : BridgeKey) : m.bridgeAlive b → (m.upon stack').bridgeAlive b := by
    rw [bridgeAlive_upon keeps]
    exact id
  have held (s : ScriptKey) : m.scriptHeld s → (m.upon stack').scriptHeld s := by
    rw [scriptHeld_upon keeps]
    exact id
  cases op with
  | cloneBridge b => exact alive b admitted
  | dropBridge b => exact alive b admitted
  | setLog b handler => exact alive b admitted
  | setError b handler => exact alive b admitted
  | report b e => exact alive b admitted
  | lookup b id => exact alive b admitted
  | count b => exact alive b admitted
  | command b id name word ambient => exact alive b admitted
  | error b id description => exact alive b admitted
  | install b => exact alive b admitted
  | register b f => exact ⟨alive b admitted.1, admitted.2⟩
  | resume s byHandle => cases byHandle <;> exact admitted
  | status s => exact held s admitted
  | describe s => exact held s admitted
  | fail s e => exact held s admitted
  | makeRef s => exact held s admitted
  | decode s command word shape => exact held s admitted
  | dropHandle s =>
    refine ⟨admitted.1, ?_⟩
    change ¬ stack'.any (Frame.borrowsHandle s) = true
    rw [keeps.handles]
    exact admitted.2
  | pollTask t =>
    refine ⟨?_, admitted.2⟩
    change ¬ stack'.any (fun frame => frame.task? = some t) = true
    rw [keeps.works]
    exact admitted.1
  | _ => exact admitted

-- A panic has reached the callback that is the host's own call in the second machine. All that was
-- done until then is the same in both; the callback takes the panic in and comes back.
inductive Contained : Machine → Machine → Move → Machine → Reaction → Prop where
  | panicked {m n next : Machine} {p : Panic} {frame : Frame} {rest : List Frame} {kind : UpcallKind}
      {id : ScriptId} (top : m.stack = frame :: rest) (posed : n.stack = frame.hostedIf true :: rest)
      (own : frame.origin? = some (.upcall kind id)) (unwound : Step n (.unwind p) next (.panicked p)) :
      Contained m n (.unwind p) (next.tell (.upcallPanicked kind id)) (.returned .done)

theorem step_posed {move : Move} {next : Machine} {reaction : Reaction} (posed : m.Posed n)
    (step : Step m move next reaction) :
    (∃ next', Step n move next' reaction ∧ next.Posed next') ∨ Contained m n move next reaction := by
  have admits {op : Op} (admitted : m.Admits op) : n.Admits op := posed.admits admitted
  obtain ⟨stack', rfl, poses⟩ := posed
  cases move with
  | invoke op =>
    obtain ⟨admitted, rfl, rfl⟩ := step.invoked
    obtain ⟨same, after⟩ := (launch_abreast poses.keeps op).posed poses fun bad => nomatch bad
    exact .inl ⟨_, .invoke (admits admitted) (congrArg (Prod.mk _) same), after.sweep⟩
  | answer reply =>
    obtain ⟨frame, rest, after, top, continued, rfl, rfl⟩ := step.answered
    rw [top] at poses
    obtain ⟨h, rest', rfl, below, alone⟩ := poses.popped
    have both := continue?_abreast (m := m.upon rest) (k := rest') (h := h) below.keeps frame reply
    have continued : (m.upon rest).continue? frame reply = some after := continued
    rw [continued] at both
    left
    cases other : ((m.upon rest).upon rest').continue? (frame.hostedIf h) reply with
    | none =>
      rw [other] at both
      cases both
    | some after' =>
      rw [other] at both
      cases both with
      | some along =>
        obtain ⟨same, onward⟩ := along.posed below alone
        refine ⟨_, .answer ?_, onward.sweep⟩
        unfold answer?
        change Option.map swept (((m.upon rest).upon rest').continue? (frame.hostedIf h) reply) = _
        rw [other]
        exact congrArg (fun r => some (after'.1.sweep, r)) same
  | unwind p =>
    obtain ⟨frame, rest, top, rfl, rfl⟩ := step.unwound
    rw [top] at poses
    obtain ⟨h, rest', rfl, below, alone⟩ := poses.popped
    rcases recover_abreast (m := m.upon rest) (k := rest') (h := h) below.keeps p frame with
      along | ⟨posed, kind, id, own, left, right⟩
    · obtain ⟨same, onward⟩ := along.posed below alone
      refine .inl ⟨_, .unwind ?_, onward.sweep⟩
      exact congrArg (fun r => some (_, r)) same
    · obtain rfl : h = true := posed
      obtain rfl : rest' = rest := alone rfl
      right
      let below := m.upon rest'
      -- Nothing is left to let go of when the panic is told.
      have still : (below.sweep.tell (.upcallPanicked kind id)).sweep =
          below.sweep.tell (.upcallPanicked kind id) :=
        Swept.still (fun s made => swept_sweep (m := below) s made) fun c made =>
          relieved_sweep (m := below) c made
      have left : below.recover p frame = _ := left
      have after : (below.recover p frame).1.sweep = below.sweep.tell (.upcallPanicked kind id) := by
        rw [left]
        exact still
      have back : (below.recover p frame).2 = .returned .done := by
        rw [left]
      change Contained m _ _ (below.recover p frame).1.sweep (below.recover p frame).2
      rw [after, back]
      refine .panicked top rfl own (.unwind ?_)
      exact congrArg (fun after => some (swept after)) right

end Machine

end FiberBridge
