import FiberBridge.Proofs.Numbering

namespace FiberBridge

-- The origin as it is, or the host in the place of a callback of the native side.
def Origin.hostedIf : Bool → Origin → Origin
  | true, .upcall _ _ => .host
  | _, origin => origin

def Service.hostedIf (h : Bool) (c : Service) : Service := { c with origin := c.origin.hostedIf h }

def Resumer.hostedIf (h : Bool) : Resumer → Resumer
  | .command c => .command (c.hostedIf h)
  | .host byHandle => .host byHandle
  | .task t => .task t

def Frame.hostedIf (h : Bool) : Frame → Frame
  | .resuming s who => .resuming s (who.hostedIf h)
  | .decoding c k => .decoding (c.hostedIf h) k
  | .logging c => .logging (c.hostedIf h)
  | .reporting b s origin kept => .reporting b s (origin.hostedIf h) kept
  | .scheduling c => .scheduling (c.hostedIf h)
  | .routing c => .routing (c.hostedIf h)
  | frame => frame

def Frame.origin? : Frame → Option Origin
  | .resuming _ (.command c) => some c.origin
  | .decoding c _ => some c.origin
  | .logging c => some c.origin
  | .reporting _ _ origin _ => some origin
  | .scheduling c => some c.origin
  | .routing c => some c.origin
  | _ => none

@[simp] theorem Origin.hostedIf_false (origin : Origin) : origin.hostedIf false = origin := by
  cases origin <;> rfl

@[simp] theorem Service.hostedIf_false (c : Service) : c.hostedIf false = c := by
  unfold hostedIf
  rw [Origin.hostedIf_false]

@[simp] theorem Resumer.hostedIf_false (who : Resumer) : who.hostedIf false = who := by
  cases who with
  | command c => exact congrArg Resumer.command c.hostedIf_false
  | _ => rfl

@[simp] theorem Frame.hostedIf_false (frame : Frame) : frame.hostedIf false = frame := by
  cases frame with
  | resuming s who => exact congrArg (Frame.resuming s) who.hostedIf_false
  | decoding c k => exact congrArg (Frame.decoding · k) c.hostedIf_false
  | logging c => exact congrArg Frame.logging c.hostedIf_false
  | reporting b s origin kept => exact congrArg (Frame.reporting b s · kept) origin.hostedIf_false
  | scheduling c => exact congrArg Frame.scheduling c.hostedIf_false
  | routing c => exact congrArg Frame.routing c.hostedIf_false
  | _ => rfl

-- Who is kept alive does not depend on whom it is for.
theorem Frame.holdsScript_hostedIf (h : Bool) (s : ScriptKey) (frame : Frame) :
    (frame.hostedIf h).holdsScript s = frame.holdsScript s := by
  cases frame <;> rfl

theorem Frame.borrowsHandle_hostedIf (h : Bool) (s : ScriptKey) (frame : Frame) :
    (frame.hostedIf h).borrowsHandle s = frame.borrowsHandle s := by
  cases frame with
  | resuming s' who => cases who <;> rfl
  | _ => rfl

theorem Frame.keepsBridge_hostedIf (h : Bool) (b : BridgeKey) (frame : Frame) :
    (frame.hostedIf h).keepsBridge b = frame.keepsBridge b := by
  cases frame with
  | resuming s who => cases who <;> rfl
  | reporting b' s origin kept => cases h <;> cases origin <;> rfl
  | _ => rfl

theorem Frame.task?_hostedIf (h : Bool) (frame : Frame) : (frame.hostedIf h).task? = frame.task? := by
  have origins (origin : Origin) : (origin.hostedIf h).task? = origin.task? := by
    cases h <;> cases origin <;> rfl
  cases frame with
  | resuming s who =>
    cases who with
    | command c => exact origins c.origin
    | _ => rfl
  | decoding c k => exact origins c.origin
  | logging c => exact origins c.origin
  | reporting b s origin kept => exact origins origin
  | scheduling c => exact origins c.origin
  | routing c => exact origins c.origin
  | _ => rfl

namespace Renaming

def same : Renaming := ⟨id, id, id, id⟩

theorem ofScript_same (script : Script) : same.ofScript script = script := by
  cases script with
  | mk id fiber bridge accepted disposed run => cases run <;> rfl

theorem ofOrigin_same (origin : Origin) : same.ofOrigin origin = origin := by
  cases origin <;> rfl

theorem ofService_same (c : Service) : same.ofService c = c := by
  unfold ofService
  rw [ofOrigin_same]
  rfl

theorem ofResumer_same (who : Resumer) : same.ofResumer who = who := by
  cases who with
  | command c => exact congrArg Resumer.command (ofService_same c)
  | _ => rfl

theorem ofFrame_same (frame : Frame) : same.ofFrame frame = frame := by
  cases frame with
  | resuming s who => exact congrArg (Frame.resuming s) (ofResumer_same who)
  | decoding c k => exact congrArg (Frame.decoding · k) (ofService_same c)
  | logging c => exact congrArg Frame.logging (ofService_same c)
  | reporting b s origin kept =>
    change Frame.reporting b (s.map id) (same.ofOrigin origin) kept = _
    rw [Option.map_id, ofOrigin_same]
    rfl
  | scheduling c => exact congrArg Frame.scheduling (ofService_same c)
  | routing c => exact congrArg Frame.routing (ofService_same c)
  | _ => rfl

theorem ofCall_same (q : HostCall) : same.ofCall q = q := by
  cases q <;> rfl

theorem ofOp_same (op : Op) : same.ofOp op = op := by
  cases op <;> rfl

theorem Like.eq {r r' : Reaction} (like : same.Like r r') : r' = r := by
  cases like with
  | call => exact congrArg Reaction.call (ofCall_same _)
  | _ => rfl

end Renaming

-- It is the same under other numbers, and leaves who a script is and what it runs.
structure Script.Bland (f : Script → Script) : Prop where
  renames : ∀ (there : Renaming) script, f (there.ofScript script) = there.ofScript (f script) := by
    intros; rfl
  id : ∀ script, (f script).id = script.id := by intros; rfl
  fiber : ∀ script, (f script).fiber = script.fiber := by intros; rfl
  run : ∀ script, (f script).run = script.run := by intros; rfl
  token : ∀ script, (f script).token = script.token := by intros; rfl

structure Task.Bland (f : Task → Task) : Prop where
  renames : ∀ (there : Renaming) task, f (there.ofTask task) = there.ofTask (f task)
  stays : ∀ task, (f task).finished = false → task.finished = false ∧ (f task).script = task.script

-- How the other side calls what this one speaks of, whether callbacks are the host's own there, and
-- what this side speaks of at all: scripts, of which so many were made, and what belongs to them.
structure View where
  there : Renaming
  hosted : Bool
  script : ScriptKey → Prop
  counted : Prop
  fiber : FiberKey → Prop
  run : RunKey → Prop
  task : TaskKey → Prop
  id : ScriptId → Prop
  token : TokenKey → Prop

namespace View

variable (v : View)

def ofOrigin (origin : Origin) : Origin := v.there.ofOrigin (origin.hostedIf v.hosted)

def ofService (c : Service) : Service := v.there.ofService (c.hostedIf v.hosted)

def ofResumer (who : Resumer) : Resumer := v.there.ofResumer (who.hostedIf v.hosted)

def ofFrame (frame : Frame) : Frame := v.there.ofFrame (frame.hostedIf v.hosted)

-- One of the scripts that it is about, of `size` that were made.
structure Ours (size : Nat) (s : ScriptKey) : Prop where
  mine : v.script s
  made : v.counted → s < size

structure Serves (c : Service) : Prop where
  script : v.script c.script
  task : ∀ t, c.origin.task? = some t → v.task t

def Keeps : Frame → Prop
  | .starting s r => v.script s ∧ v.run r
  | .resuming s who => v.script s ∧ ∀ t, who.task? = some t → v.task t
  | .disposing s _ | .refusing _ s | .shaping s _ _ => v.script s
  | .releasing f => v.fiber f
  | .decoding c _ | .logging c | .scheduling c | .routing c => v.Serves c
  | .reporting _ told origin _ =>
    (∀ s, told = some s → v.script s) ∧ ∀ t, origin.task? = some t → v.task t
  | .polling t => v.task t

variable {v}

@[simp] theorem ofOrigin_host : v.ofOrigin .host = .host := by
  unfold ofOrigin
  cases v.hosted <;> rfl

@[simp] theorem ofOrigin_task {t : TaskKey} : v.ofOrigin (.task t) = .task (v.there.task t) := by
  unfold ofOrigin
  cases v.hosted <;> rfl

theorem ofOrigin_upcall {kind : UpcallKind} {id : ScriptId} (still : v.hosted = false) :
    v.ofOrigin (.upcall kind id) = .upcall kind id := by
  unfold ofOrigin
  rw [still]
  rfl

theorem Keeps.script {frame : Frame} {s : ScriptKey} (keeps : v.Keeps frame)
    (holds : frame.holdsScript s) : v.script s := by
  have here {s' : ScriptKey} (mine : v.script s') (same : decide (s' = s) = true) : v.script s :=
    of_decide_eq_true same ▸ mine
  cases frame with
  | starting s' r => exact here keeps.1 holds
  | resuming s' who => exact here keeps.1 holds
  | disposing s' dropped => exact here keeps holds
  | refusing b s' => exact here keeps holds
  | shaping s' command shape => exact here keeps holds
  | decoding c k => exact here (Serves.script keeps) holds
  | logging c => exact here (Serves.script keeps) holds
  | scheduling c => exact here (Serves.script keeps) holds
  | routing c => exact here (Serves.script keeps) holds
  | reporting b told origin kept => exact keeps.1 s (of_decide_eq_true holds)
  | releasing f => cases holds
  | polling t => cases holds

def whole (h : Bool) : View where
  there := .same
  hosted := h
  script _ := True
  counted := False
  fiber _ := True
  run _ := True
  task _ := True
  id _ := True
  token _ := True

variable {h : Bool}

theorem whole_ours {size : Nat} {s : ScriptKey} : (whole h).Ours size s := ⟨trivial, False.elim⟩

theorem whole_keeps (frame : Frame) : (whole h).Keeps frame := by
  cases frame with
  | starting s r => exact ⟨trivial, trivial⟩
  | resuming s who => exact ⟨trivial, fun _ _ => trivial⟩
  | reporting b told origin kept => exact ⟨fun _ _ => trivial, fun _ _ => trivial⟩
  | decoding c k => exact ⟨trivial, fun _ _ => trivial⟩
  | logging c => exact ⟨trivial, fun _ _ => trivial⟩
  | scheduling c => exact ⟨trivial, fun _ _ => trivial⟩
  | routing c => exact ⟨trivial, fun _ _ => trivial⟩
  | _ => trivial

theorem whole_ofScript (script : Script) : (whole h).there.ofScript script = script :=
  Renaming.ofScript_same _

theorem whole_ofCall (q : HostCall) : (whole h).there.ofCall q = q := Renaming.ofCall_same _

theorem whole_ofOp (op : Op) : (whole h).there.ofOp op = op := Renaming.ofOp_same _

theorem whole_ofFrame (frame : Frame) : (whole h).ofFrame frame = frame.hostedIf h :=
  Renaming.ofFrame_same _

end View

end FiberBridge
