import FiberBridge.Proofs.Core

namespace FiberBridge

def Frame.disposes (s : ScriptKey) : Frame → Bool
  | .disposing s' _ => s' = s
  | _ => false

-- A release is not what a frame that releases no script stands for.
theorem Frame.mem_below {frame : Frame} {rest : List Frame} (plain : ∀ s, frame.disposes s = false)
    {s : ScriptKey} {dropped : Bool} (present : .disposing s dropped ∈ frame :: rest) :
    .disposing s dropped ∈ rest := by
  rcases List.mem_cons.mp present with rfl | below
  · have bad := plain s
    simp [Frame.disposes] at bad
  · exact below

def Frame.leaves : Frame → Bool
  | .releasing _ => true
  | _ => false

def Frame.native : Frame → Bool
  | .starting _ _ => true
  | .resuming _ _ => true
  | .disposing _ _ => true
  | .refusing _ _ => true
  | .releasing _ => true
  | _ => false

def HostCall.native : HostCall → Bool
  | .start _ => true
  | .resume _ => true
  | .dispose _ => true
  | _ => false

-- A call, or a look at a fiber.
def Deed.outward : Deed → Bool
  | .marked _ _ => false
  | _ => true

-- Scripts, fibers and ids that a move is not about.
structure Part where
  script : ScriptKey → Prop
  fiber : FiberKey → Prop
  id : ScriptId → Prop

def Part.none : Part := ⟨fun _ => False, fun _ => False, fun _ => False⟩

namespace Core

-- A script that is there and that somebody may hold.
structure Open (c : Core) (s : ScriptKey) : Prop where
  made : s < c.scripts.size
  kept : (c.scripts.get s).freed = false

variable {c d : Core} {s : ScriptKey}

theorem Open.transfer (known : c.Open s) (sizes : c.scripts.size ≤ d.scripts.size)
    (same : (d.scripts.get s).freed = (c.scripts.get s).freed) : d.Open s :=
  ⟨Nat.lt_of_lt_of_le known.made sizes, same.trans known.kept⟩

theorem Open.judge {x : Milestone} {y : ScriptKey} (known : c.Open s) :
    (c.judge y x).Open s := known.transfer (Nat.le_refl _) rfl

theorem Open.arm {token : Option TokenKey} {canceled : Bool} (known : c.Open s) :
    (c.arm s token canceled).Open s := by
  refine known.transfer (Slots.size_le_update ..) ?_
  simp [Core.arm, Slots.get_update]

def Idle (c : Core) (t : TaskKey) : Prop := ∀ frame ∈ c.stack, frame.task? ≠ some t

-- A task does one thing at a time, and acts only until it is finished.
def Free (c : Core) (t : Option TaskKey) : Prop :=
  ∀ k, t = some k → c.Idle k ∧ (c.tasks.get k).finished = false

theorem free_none : c.Free none := by
  intro k bad
  cases bad

theorem made_of_unfinished {c : Core} {t : TaskKey} (unfinished : (c.tasks.get t).finished = false) :
    t < c.tasks.size := by
  refine Nat.lt_of_not_le fun new => ?_
  rw [Slots.get_of_size_le new] at unfinished
  cases unfinished

def OffTask (x : Part) (c : Core) (t : Option TaskKey) : Prop :=
  ∀ k, t = some k → ¬ x.script (c.tasks.get k).script

structure Apart (x : Part) (tasks : Slots Task) (frame : Frame) : Prop where
  script : ∀ s, frame.holdsScript s → ¬ x.script s
  fiber : ∀ f, frame = .releasing f → ¬ x.fiber f
  task : ∀ t, frame.task? = some t → t < tasks.size → ¬ x.script (tasks.get t).script

structure Foreign (x : Part) (c : Core) (b : BridgeKey) (f : FiberKey) : Prop where
  fiber : ¬ x.fiber f
  id : ¬ x.id (c.fibers.get f).id
  entry : ∀ s, (c.registry b).get? (c.fibers.get f).id = some s → ¬ x.script s

-- The last look at a fiber, with nothing done since, found `f` ready to start.
def Ready (c : Core) (f : FiberKey) : Prop :=
  ∃ ordinal, c.deeds.find? Deed.outward = some (.read f ordinal) ∧
    (Status.ofOrdinal ordinal).startable

def accept (c : Core) (b : BridgeKey) (f : FiberKey) : Core :=
  let id := (c.fibers.get f).id
  let s := c.scripts.size
  let script : Script :=
    { id, fiber := f, bridge := b, disposed := false, accepted := true, owned := true }
  let c := c.setFiber f fun fiber => { fiber with held := false }
  { c with scripts := c.scripts.add script }.setRegistry b fun r => r.insert id s

def refuse (c : Core) (b : BridgeKey) (f : FiberKey) : Core :=
  let script : Script := { id := (c.fibers.get f).id, fiber := f, bridge := b }
  let s := c.scripts.size
  let c := c.setFiber f fun fiber => { fiber with held := false, released := true }
  { c with scripts := c.scripts.add script }.ask (.dispose f) (.refusing b s)

def beginDispose (c : Core) (s : ScriptKey) (dropped : Bool) : Core :=
  let f := (c.scripts.get s).fiber
  let c := c.setScript s fun script => { script with disposed := true }
  (c.setFiber f fun fiber => { fiber with released := true }).ask (.dispose f) (.disposing s dropped)

def endDispose (c : Core) (s : ScriptKey) : Core :=
  let script := c.scripts.get s
  (c.setRegistry script.bridge fun r => r.remove script.id s).judge s .torn

def free (c : Core) (s : ScriptKey) : Core :=
  let script := c.scripts.get s
  { c with
    scripts := c.scripts.update s fun script => { script with freed := true }
    fibers := c.fibers.update script.fiber fun fiber => { fiber with gone := true }
    runs := match script.run with
      | some r => c.runs.update r fun run => { run with abandoned := true }
      | none => c.runs }

theorem accept_script (c : Core) (b : BridgeKey) (f : FiberKey) (s : ScriptKey) :
    (c.accept b f).scripts.get s =
      if c.scripts.size = s then
        { id := (c.fibers.get f).id, fiber := f, bridge := b, disposed := false, accepted := true,
          owned := true }
      else c.scripts.get s := Slots.get_add ..

theorem refuse_script (c : Core) (b : BridgeKey) (f : FiberKey) (s : ScriptKey) :
    (c.refuse b f).scripts.get s =
      if c.scripts.size = s then { id := (c.fibers.get f).id, fiber := f, bridge := b }
      else c.scripts.get s := Slots.get_add ..

theorem size_accept (c : Core) (b : BridgeKey) (f : FiberKey) :
    (c.accept b f).scripts.size = c.scripts.size + 1 := Slots.size_add ..

theorem size_refuse (c : Core) (b : BridgeKey) (f : FiberKey) :
    (c.refuse b f).scripts.size = c.scripts.size + 1 := Slots.size_add ..

theorem free_get (c : Core) (s : ScriptKey) (r : RunKey) :
    (c.free s).runs.get r =
      if (c.scripts.get s).run = some r then { c.runs.get r with abandoned := true }
      else c.runs.get r := by
  unfold free
  dsimp only
  cases (c.scripts.get s).run with
  | none => rfl
  | some r' =>
    dsimp only
    rw [Slots.get_update]
    simp only [Option.some.injEq]

theorem size_le_free (c : Core) (s : ScriptKey) : c.runs.size ≤ (c.free s).runs.size := by
  unfold free
  dsimp only
  cases (c.scripts.get s).run with
  | none => exact Nat.le_refl _
  | some r => exact Slots.size_le_update ..

theorem size_free {c : Core} {s : ScriptKey}
    (made : ∀ r, (c.scripts.get s).run = some r → r < c.runs.size) :
    (c.free s).runs.size = c.runs.size := by
  unfold free
  dsimp only
  cases current : (c.scripts.get s).run with
  | none => rfl
  | some r => exact Slots.size_update (made r current) _

end Core

-- What only some moves may do: begin or unwind out of a release, start a script with a token, compile
-- a script in a context. Whatever a move does, it is for others than the part that it spares.
structure Power where
  ends : ScriptKey → Prop
  loses : ScriptKey → Prop
  starts : ScriptKey → Option TokenKey → Prop
  compiles : ContextKey → Prop
  spares : Part := .none

def Power.none : Power where
  ends _ := False
  loses _ := False
  starts _ _ := False
  compiles _ := False

inductive Change (power : Power) : Core → List (ScriptKey × Milestone) → Core → Prop where
  | accepted {c : Core} {b : BridgeKey} {f : FiberKey} (held : (c.fibers.get f).held)
      (made : f < c.fibers.size)
      (vacant : ∀ s, (c.registry b).get? (c.fibers.get f).id = some s → (c.scripts.get s).disposed)
      (foreign : c.Foreign power.spares b f) : Change power c [] (c.accept b f)
  | refused {c : Core} {b : BridgeKey} {f : FiberKey} (held : (c.fibers.get f).held)
      (made : f < c.fibers.size) (foreign : c.Foreign power.spares b f) :
      Change power c [] (c.refuse b f)
  | read {c : Core} {s : ScriptKey} {ordinal : Int32} (known : c.Open s)
      (live : (c.scripts.get s).disposed = false) (off : ¬ power.spares.script s) :
      Change power c [] (c.note (.read (c.scripts.get s).fiber ordinal))
  | armed {c : Core} {s : ScriptKey} {token : Option TokenKey} {canceled : Bool}
      (known : c.Open s) (live : (c.scripts.get s).disposed = false)
      (meant : power.starts s token) (off : ¬ power.spares.script s) :
      Change power c [(s, .armed c.runs.size canceled)] (c.arm s token canceled)
  | judged {c : Core} {s : ScriptKey} {x : Milestone} (known : c.Open s)
      (later : ∀ r canceled, x ≠ .armed r canceled) (lasting : x ≠ .torn)
      (off : ¬ power.spares.script s) : Change power c [(s, x)] (c.judge s x)
  | starting {c : Core} {s : ScriptKey} {r : RunKey} (known : c.Open s)
      (live : (c.scripts.get s).disposed = false) (ready : c.Ready (c.scripts.get s).fiber)
      (current : (c.scripts.get s).run = some r) (armed : r < c.runs.size)
      (own : (c.runs.get r).script = s) (off : ¬ power.spares.script s) :
      Change power c [] (c.ask (.start (c.scripts.get s).fiber) (.starting s r))
  | resuming {c : Core} {s : ScriptKey} {who : Resumer} (known : c.Open s)
      (live : (c.scripts.get s).disposed = false) (free : c.Free who.task?)
      (off : ¬ power.spares.script s) (offTask : c.OffTask power.spares who.task?) :
      Change power c [] (c.ask (.resume (c.scripts.get s).fiber) (.resuming s who))
  | asked {c : Core} {q : HostCall} {frame : Frame} (foreign : q.native = false)
      (plain : frame.native = false) (held : ∀ s, frame.holdsScript s → c.Open s)
      (free : c.Free frame.task?) (off : ∀ s, frame.holdsScript s → ¬ power.spares.script s)
      (offTask : c.OffTask power.spares frame.task?) : Change power c [] (c.ask q frame)
  | disposing {c : Core} {s : ScriptKey} {dropped : Bool} (known : c.Open s) (meant : power.ends s)
      (live : (c.scripts.get s).disposed = false) (off : ¬ power.spares.script s) :
      Change power c [] (c.beginDispose s dropped)
  | disposed {c : Core} {s : ScriptKey} {dropped : Bool} {rest : List Frame}
      (top : c.stack = .disposing s dropped :: rest) (known : c.Open s)
      (off : ¬ power.spares.script s) :
      Change power c [(s, .torn)] ({ c with stack := rest }.endDispose s)
  | popped {c : Core} {frame : Frame} {rest : List Frame} (top : c.stack = frame :: rest)
      (plain : ∀ s, frame.disposes s = false) (kept : frame.leaves = false)
      (apart : Core.Apart power.spares c.tasks frame) : Change power c [] { c with stack := rest }
  | released {c : Core} {f : FiberKey} {rest : List Frame} (top : c.stack = .releasing f :: rest)
      (apart : Core.Apart power.spares c.tasks (.releasing f)) :
      Change power c []
        ({ c with stack := rest }.setFiber f fun fiber => { fiber with gone := true })
  | unwound {c : Core} {s : ScriptKey} {dropped : Bool} {rest : List Frame}
      (top : c.stack = .disposing s dropped :: rest) (allowed : power.loses s)
      (apart : Core.Apart power.spares c.tasks (.disposing s dropped)) :
      Change power c [] { c with stack := rest }
  | disowned {c : Core} {s : ScriptKey} (known : c.Open s)
      (ended : (c.scripts.get s).disposed) (off : ¬ power.spares.script s) :
      Change power c [] (c.setScript s fun script => { script with owned := false })
  | referred {c : Core} {s : ScriptKey} (refs : Script → Nat) (known : c.Open s)
      (off : ¬ power.spares.script s) :
      Change power c [] (c.setScript s fun script => { script with refs := refs script })
  | unawaited {c : Core} {r : RunKey} (made : r < c.runs.size)
      (off : ¬ power.spares.script (c.runs.get r).script) :
      Change power c [] (c.setRun r fun run => { run with awaited := false })
  | spawned {c : Core} {task : Task} (known : c.Open task.script)
      (unfinished : task.finished = false) (off : ¬ power.spares.script task.script) :
      Change power c [] { c with tasks := c.tasks.add task }
  | finished {c : Core} {t : TaskKey} (free : c.Free (some t))
      (offTask : c.OffTask power.spares (some t)) :
      Change power c [] (c.setTask t fun task => { task with finished := true })
  | begun {c : Core} {t : TaskKey} {work : Work} (free : c.Free (some t))
      (offTask : c.OffTask power.spares (some t)) :
      Change power c [] (c.setTask t fun task => { task with work })
  | made {c : Core} {fiber : Fiber} (fresh : fiber.held ∧ fiber.gone = false)
      (meant : ∀ k, fiber.context = some k → power.compiles k) :
      Change power c [] { c with fibers := c.fibers.add fiber }
  | seen {c : Core} {f : FiberKey} {ordinal : Int32} (off : ¬ power.spares.fiber f) :
      Change power c [] (c.setFiber f fun fiber => { fiber with ordinal })
  | letGo {c : Core} {f : FiberKey} (held : (c.fibers.get f).held) (off : ¬ power.spares.fiber f) :
      Change power c []
        ((c.setFiber f fun fiber => { fiber with held := false, released := true }).ask
          (.dispose f) (.releasing f))
  | freed {c : Core} {s : ScriptKey} (made : s < c.scripts.size)
      (kept : (c.scripts.get s).freed = false) (unheld : c.held s = false) :
      Change power c [] (c.free s)

inductive Path (power : Power) : Core → List (ScriptKey × Milestone) → Core → Prop where
  | nil {c : Core} : Path power c [] c
  | step {c d e : Core} {before after : List (ScriptKey × Milestone)} :
      Path power c before d → Change power d after e → Path power c (before ++ after) e

namespace Path

variable {power : Power} {c d e : Core} {before after : List (ScriptKey × Milestone)}

theorem one (change : Change power c after d) : Path power c after d :=
  .step .nil change

theorem same (core : d = c) : Path power c [] d := by
  rw [core]
  exact .nil

theorem quiet (path : Path power c before d) (change : Change power d [] e) :
    Path power c before e := by
  simpa only [List.append_nil] using path.step change

theorem trans (left : Path power c before d) (right : Path power d after e) :
    Path power c (before ++ after) e := by
  induction right with
  | nil => simpa only [List.append_nil] using left
  | step prior change ih => simpa only [List.append_assoc] using ih.step change

theorem thenQuiet (path : Path power c before d) (rest : Path power d [] e) :
    Path power c before e := by
  simpa only [List.append_nil] using path.trans rest

theorem preserves (holds : Core → Prop)
    (step : ∀ {c d l}, holds c → Change power c l d → holds d) (start : holds c)
    (path : Path power c after d) : holds d := by
  induction path with
  | nil => exact start
  | step prior change ih => exact step ih change

theorem records (holds : List (ScriptKey × Milestone) → Core → Prop)
    (step : ∀ {c d past l}, holds past c → Change power c l d → holds (past ++ l) d)
    (start : holds before c) (path : Path power c after d) : holds (before ++ after) d := by
  induction path with
  | nil => rwa [List.append_nil]
  | step prior change ih =>
    rw [← List.append_assoc]
    exact step ih change

end Path

end FiberBridge
