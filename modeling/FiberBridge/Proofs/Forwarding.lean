import FiberBridge.Proofs.Courses
import FiberBridge.Proofs.Dispatch

namespace FiberBridge

def Service.telling (c : Service) : Frame := .reporting c.bridge (some c.script) c.origin none

def Service.Waits (c : Service) (frame : Frame) : Prop := frame = .routing c ∨ frame = c.telling

namespace Machine

variable {m next last : Machine} {op : Op} {c : Service} {e : BridgeError} {reaction : Reaction}
  {frame : Frame} {base : List Frame} {leg : Leg} {legs : List Leg}

def Forwards (m : Machine) (op : Op) (c : Service) : Prop :=
  ∃ r s text, m.received? op = some r ∧ Registered m r.bridge r.id s ∧ m.Unreserved r ∧
    text.toUTF8 = r.name ∧ (m.bridges.get r.bridge).router ∧ c = r.service s text

structure Leg.Escapes (c : Service) (base : List Frame) (p : Panic) (leg : Leg) : Prop where
  move : leg.move = .unwind p
  top : leg.before.stack = c.telling :: base
  origin : c.origin = .host

inductive Leg.Forwarding (c : Service) (base : List Frame) (leg : Leg) : Prop where
  | back (done : leg.reaction = .returned .done) (stack : leg.after.stack = base)
  | waits {q : HostCall} {frame : Frame} (call : leg.reaction = .call q)
      (stack : leg.after.stack = frame :: base) (own : c.Waits frame)
  | escaped {p : Panic} (escapes : leg.Escapes c base p) (out : leg.reaction = .panicked p)
      (stack : leg.after.stack = base)

theorem Leg.On.forwarding (on : leg.On base) (back : leg.Back base)
    (asks : ∀ q frame, leg.turn.asks = some (q, frame) → c.Waits frame) : leg.Forwarding c base := by
  rcases back with ⟨done, stack⟩ | ⟨q, frame, call, stack⟩
  · exact .back done stack
  · refine .waits call stack ?_
    have pushed := on.stack.symm.trans stack
    cases asked : leg.turn.asks with
    | none =>
      rw [asked] at pushed
      exact absurd pushed.symm (List.cons_ne_self frame base)
    | some pair =>
      rw [asked] at pushed
      obtain rfl := (List.cons.inj pushed).1
      exact asks pair.1 pair.2 asked

theorem failTurn_waits {q : HostCall} (asks : (m.failTurn c e).asks = some (q, frame)) :
    c.Waits frame := by
  unfold failTurn failureTurn Turn.following deliverTurn at asks
  split at asks
  · cases asks
  · cases asks
    exact .inr rfl

theorem Forwards.turn (reached : Reachable m) (forwards : m.Forwards op c) :
    m.turn (.invoke op) =
      if m.runtimeFor c then { asks := some (.route c.bridge c.script c.name c.word, .routing c) }
      else m.failTurn c (.notSupported c.name noRuntime) := by
  obtain ⟨r, s, text, received, live, unreserved, readable, router, rfl⟩ := forwards
  have found := (find?_iff_registered reached).mpr live
  have read := Utf8.read_ok_iff.mpr readable
  have same : m.turn (.invoke op) = m.opTurn op := rfl
  rw [same, opTurn_received received]
  simp only [commandTurn, found, unreserved_iff.mp unreserved, forwardTurn, read, router, Bool.not_true,
    Bool.false_eq_true, if_false]
  rfl

theorem Forwards.grounded (forwards : m.Forwards op c) : c.origin.task? = none := by
  obtain ⟨r, s, text, received, _, _, _, _, rfl⟩ := forwards
  exact received_grounded received

theorem Forwards.on (reached : Reachable m) (forwards : m.Forwards op c)
    (step : Step m (.invoke op) next reaction) : Leg.On m.stack ⟨m, .invoke op, next, reaction⟩ := by
  obtain ⟨r, s, text, received, _⟩ := forwards
  refine ⟨reached, step, rfl, ?_⟩
  rintro s token ⟨⟩
  cases received

theorem Forwards.begins (reached : Reachable m) (forwards : m.Forwards op c)
    (step : Step m (.invoke op) next reaction) :
    Leg.Forwarding c m.stack ⟨m, .invoke op, next, reaction⟩ := by
  have turn := forwards.turn reached
  have on := forwards.on reached step
  obtain ⟨r, s, text, received, _⟩ := forwards
  refine on.forwarding (received_back received step) ?_
  intro q frame asks
  unfold Leg.turn at asks
  rw [turn] at asks
  split at asks
  · cases asks
    exact .inl rfl
  · exact failTurn_waits asks

theorem routing_forwarding (free : c.origin.task? = none) (resumes : leg.Resumes (.routing c) base)
    (on : leg.On base) : leg.Forwarding c base := by
  cases same : leg.move with
  | invoke op => exact absurd same (resumes.goesOn op)
  | answer reply =>
    refine on.forwarding (resumes.back rfl free same) ?_
    intro q frame asks
    simp only [Leg.turn, same, turn, resumes.top] at asks
    cases reply <;> cases asks
  | unwind p =>
    have back : leg.Back base := by
      obtain ⟨swept, out⟩ := (same ▸ resumes.step).unwound_at resumes.top
      exact Leg.back_of_goesOn (failAndReport_goesOn free rfl rfl) swept out
    refine on.forwarding back ?_
    intro q frame asks
    simp only [Leg.turn, same, turn, resumes.top] at asks
    exact failTurn_waits asks

theorem telling_forwarding (free : c.origin.task? = none) (resumes : leg.Resumes c.telling base)
    (on : leg.On base) : leg.Forwarding c base := by
  cases same : leg.move with
  | invoke op => exact absurd same (resumes.goesOn op)
  | answer reply =>
    refine on.forwarding (resumes.back rfl free same) ?_
    intro q frame asks
    simp only [Leg.turn, same, turn, resumes.top, Service.telling] at asks
    cases reply <;> cases asks
  | unwind p =>
    obtain ⟨swept, out⟩ := (same ▸ resumes.step).unwound_at resumes.top
    have aborted : { leg.before with stack := base }.recover p c.telling =
        { leg.before with stack := base }.abort c.origin p := rfl
    have popped : ({ leg.before with stack := base } : Machine).sweep.stack = base := sweep_stack _
    rw [aborted] at swept out
    unfold abort at swept out
    cases origin : c.origin with
    | host =>
      rw [origin] at swept out
      refine .escaped ⟨same, resumes.top, origin⟩ out.symm ?_
      rw [← swept]
      exact popped
    | upcall kind id =>
      rw [origin] at swept out
      refine .back out.symm ?_
      rw [← swept]
      exact (sweep_stack _).trans popped
    | task t =>
      rw [origin] at free
      cases free

theorem Course.forwarding (course : Course base m legs last) (reached : Reachable m)
    (free : c.origin.task? = none)
    (begun : m.stack = base ∨ ∃ frame, m.stack = frame :: base ∧ c.Waits frame) :
    ∀ leg ∈ legs, leg.On base ∧ leg.Forwarding c base := by
  induction course with
  | ended done => exact fun _ present => nomatch present
  | waits top meanwhile => exact fun _ present => nomatch present
  | @leg m last frame moves reactions leg legs top meanwhile resumes rest ih =>
    have own : c.Waits frame := by
      rcases begun with done | ⟨frame', top', own⟩
      · exact absurd (top.symm.trans done) (List.cons_ne_self frame base)
      · obtain ⟨rfl, _⟩ := List.cons.inj (top.symm.trans top')
        exact own
    have on := resumes.on (meanwhile.reachable reached)
    have this : leg.Forwarding c base := by
      rcases own with rfl | rfl
      · exact routing_forwarding free resumes on
      · exact telling_forwarding free resumes on
    intro leg' present
    rcases List.mem_cons.mp present with rfl | later
    · exact ⟨on, this⟩
    · refine ih (on.reached.step on.step) ?_ leg' later
      cases this with
      | back done stack => exact .inl stack
      | waits call stack own => exact .inr ⟨_, stack, own⟩
      | escaped escapes out stack => exact .inl stack

theorem Leg.Forwarding.panicked_iff {p : Panic} (forwarding : leg.Forwarding c base)
    (on : leg.On base) : leg.reaction = .panicked p ↔ leg.Escapes c base p := by
  constructor
  · intro out
    cases forwarding with
    | back done stack => cases done.symm.trans out
    | waits call stack own => cases call.symm.trans out
    | escaped escapes out' stack =>
      cases out'.symm.trans out
      exact escapes
  · intro escapes
    obtain ⟨_, out⟩ := (escapes.move ▸ on.step).unwound_at escapes.top
    rw [← out]
    unfold Service.telling recover
    rw [escapes.origin]
    rfl

-- The command comes in with the first leg and goes on with the others. What unwinds out of the
-- router fails the run and goes no further; what unwinds out of the error handler leaves the
-- host's own command too.
structure Returns (c : Service) (base : List Frame) (legs : List Leg) (last : Machine) : Prop where
  unwinds : ∀ leg ∈ legs, ∀ p, leg.reaction = .panicked p ↔ leg.Escapes c base p
  comes_back : ∀ leg ∈ legs, (∀ p, ¬ leg.Escapes c base p) →
    (leg.reaction = .returned .done ∧ leg.after.stack = base) ∨
    ∃ q frame, leg.reaction = .call q ∧ leg.after.stack = frame :: base ∧ c.Waits frame
  fails : ∀ leg ∈ legs, ∀ p, leg.move = .unwind p → leg.before.stack = .routing c :: base →
    leg.Does [leg.before.delivery c.bridge (.forwardedHandler c.name p.message),
      .deed (.marked c.script (.failed (.forwardedHandler c.name p.message)))] []
  contained : ∀ leg ∈ legs, ∀ p kind id, leg.move = .unwind p → leg.before.stack = c.telling :: base →
    c.origin = .upcall kind id → leg.reaction = .returned .done ∧
      leg.after = ({ leg.before with stack := base }.sweep.tell (.upcallPanicked kind id)).sweep
  native : last.stack = base → ∀ frame rest s wasStart code, base = frame :: rest →
    frame.nativeCall? = some (s, wasStart) →
    (∃ n back, Step last (.answer (.code code)) n back) ∧
    ∀ n back, Step last (.answer (.code code)) n back → n.runs.size = last.runs.size ∧
      ∀ r, r < last.runs.size → (n.runs.get r).outcome =
        if (last.scripts.get s).run = some r then
          (last.runs.get r).outcome.or (Milestone.verdict (last.idOf s)
            (.returned wasStart (CallResult.ofCode code) (last.tokenCanceled s)))
        else (last.runs.get r).outcome

theorem native_answers {rest : List Frame} {s : ScriptKey} {wasStart : Bool} (code : Int32)
    (top : m.stack = frame :: rest) (call : frame.nativeCall? = some (s, wasStart)) :
    ∃ n back, Step m (.answer (.code code)) n back := by
  have answers : (m.answer? (.code code)).isSome := by
    unfold answer?
    rw [top]
    cases frame with
    | starting s' r => rfl
    | resuming s' who => rfl
    | _ => cases call
  obtain ⟨⟨n, back⟩, ran⟩ := Option.isSome_iff_exists.mp answers
  exact ⟨n, back, .answer ran⟩

theorem native_goes_on {rest : List Frame} {s : ScriptKey} {wasStart : Bool} (reached : Reachable m)
    (code : Int32) (top : m.stack = frame :: rest) (call : frame.nativeCall? = some (s, wasStart)) :
    (∃ n back, Step m (.answer (.code code)) n back) ∧
    ∀ n back, Step m (.answer (.code code)) n back → n.runs.size = m.runs.size ∧
      ∀ r, r < m.runs.size → (n.runs.get r).outcome =
        if (m.scripts.get s).run = some r then
          (m.runs.get r).outcome.or (Milestone.verdict (m.idOf s)
            (.returned wasStart (CallResult.ofCode code) (m.tokenCanceled s)))
        else (m.runs.get r).outcome := by
  refine ⟨native_answers code top call, ?_⟩
  intro n back settles
  have fate : m.fate (.answer (.code code)) =
      [(s, .returned wasStart (CallResult.ofCode code) (m.tokenCanceled s))] := result_fate top call
  refine ⟨?_, fun r made => step_judges reached settles fate made⟩
  refine step_runs_size reached settles fun event present => ?_
  rw [fate] at present
  cases List.mem_singleton.mp present
  rfl

theorem routing_fails {p : Panic} (free : c.origin.task? = none) (on : leg.On base)
    (unwinds : leg.move = .unwind p) (top : leg.before.stack = .routing c :: base) :
    leg.Does [leg.before.delivery c.bridge (.forwardedHandler c.name p.message),
      .deed (.marked c.script (.failed (.forwardedHandler c.name p.message)))] [] := by
  have turn : leg.turn = leg.before.failTurn c (.forwardedHandler c.name p.message) := by
    simp only [Leg.turn, unwinds, Machine.turn, top]
    rfl
  have edits : (leg.before.deliverTurn c.bridge (some c.script)
      (.forwardedHandler c.name p.message) c.origin none).edits = [] := deliverTurn_edits free
  have does : leg.Does leg.turn.acts [] := on.does (turn ▸ edits)
  rw [turn] at does
  exact failureTurn_acts (m := leg.before) ▸ does

theorem Course.reachable (course : Course base m legs last) (reached : Reachable m) :
    Reachable last := by
  induction course with
  | ended done => exact reached
  | waits top meanwhile => exact meanwhile.reachable reached
  | leg top meanwhile resumes rest ih =>
    exact ih ((meanwhile.reachable reached).step resumes.step)

-- Whatever the host does, a command that is forwarded takes a course; and whatever unwinds on it, the
-- command comes back, unless it is the error handler that unwinds.
theorem forward_returns (reached : Reachable m) (forwards : m.Forwards op c)
    (step : Step m (.invoke op) next reaction) :
    Courses m.stack next ∧ ∀ legs last, Course m.stack next legs last →
      Returns c m.stack (⟨m, .invoke op, next, reaction⟩ :: legs) last := by
  have first := forwards.begins reached step
  have begun : next.stack = m.stack ∨ ∃ frame, next.stack = frame :: m.stack ∧ c.Waits frame := by
    cases first with
    | back done stack => exact .inl stack
    | waits call stack own => exact .inr ⟨_, stack, own⟩
    | escaped escapes out stack => exact .inl stack
  refine ⟨?_, ?_⟩
  · exact courses (begun.imp_right fun ⟨frame, stack, _⟩ => ⟨frame, stack⟩)
  · intro legs last course
    have all : ∀ leg ∈ (⟨m, .invoke op, next, reaction⟩ : Leg) :: legs,
        leg.On m.stack ∧ leg.Forwarding c m.stack := by
      intro leg present
      rcases List.mem_cons.mp present with rfl | later
      · exact ⟨forwards.on reached step, first⟩
      · exact course.forwarding (reached.step step) forwards.grounded begun leg later
    refine ⟨?_, ?_, ?_, ?_, ?_⟩
    · intro leg present p
      obtain ⟨on, forwarding⟩ := all leg present
      exact forwarding.panicked_iff on
    · intro leg present inside
      cases (all leg present).2 with
      | back done stack => exact .inl ⟨done, stack⟩
      | waits call stack own => exact .inr ⟨_, _, call, stack, own⟩
      | escaped escapes out stack => exact absurd escapes (inside _)
    · intro leg present p unwinds top
      exact routing_fails forwards.grounded (all leg present).1 unwinds top
    · intro leg present p kind id unwinds top origin
      obtain ⟨on, _⟩ := all leg present
      obtain ⟨frame, rest, top', swept, out⟩ := (unwinds ▸ on.step).unwound
      obtain ⟨rfl, rfl⟩ := List.cons.inj (top.symm.trans top')
      unfold Service.telling recover at swept out
      rw [origin] at swept out
      exact ⟨out.symm, swept.symm⟩
    · intro back frame rest s wasStart code same call
      exact native_goes_on (course.reachable (reached.step step)) code (back.trans same) call

def routerAwaits : List Move :=
  [.invoke (.build { router := true, runtime := true, error := .host 0 }),
    .invoke (.makeFiber ⟨1⟩ 0), .invoke (.register 0 0), .invoke (.start 0 none)]

def goes : Op := .command 0 ⟨1⟩ "go".toUTF8 ⟨7⟩ false

def goesAs : Service := ⟨0, 0, "go", ⟨7⟩, false, .host⟩

theorem routerAwaits_forwards : (after routerAwaits).Forwards goes goesAs := by
  refine ⟨⟨0, ⟨1⟩, "go".toUTF8, ⟨7⟩, false, .host⟩, 0, "go", rfl, ?_, ?_, rfl, by decide +kernel, rfl⟩
  · exact ⟨by decide +kernel, by decide +kernel, by decide +kernel, by decide +kernel,
      by decide +kernel⟩
  · intro k
    cases k <;> decide +kernel

def routerAsked : List Move := routerAwaits ++ [.invoke goes]

def routerUnwinds : List Move := routerAsked ++ [.unwind (.text "boom")]

def handlerUnwinds : List Move := routerUnwinds ++ [.unwind (.text "again")]

set_option maxRecDepth 10000 in
-- The panic of the error handler leaves the command and is thrown at the start it was called from.
theorem forward_unwinds_into_start :
    (after routerAwaits).stack = [.starting 0 0] ∧ (after routerAwaits).Forwards goes goesAs ∧
      Runs (after routerAwaits) [.invoke goes, .unwind (.text "boom")] (after routerUnwinds) ∧
      ∃ next, Step (after routerUnwinds) (.unwind (.text "again")) next (.panicked (.text "again")) ∧
        next.stack = [.starting 0 0] := by
  refine ⟨by decide +kernel, routerAwaits_forwards, runs_onward (by decide +kernel), ?_⟩
  exact ⟨_, .unwind rfl, by decide +kernel⟩

set_option maxRecDepth 10000 in
theorem forward_returns_handlerUnwinds :
    ∃ n back, Step (after handlerUnwinds) (.answer (.code 1)) n back := by
  have reached : Reachable (after routerAwaits) := (runs_after (by decide +kernel)).reachable .initial
  obtain ⟨_, begun⟩ := step_onward routerAwaits (.invoke goes) (by decide +kernel)
  obtain ⟨told, first⟩ := step_onward routerAsked (.unwind (.text "boom")) (by decide +kernel)
  obtain ⟨out, second⟩ := step_onward routerUnwinds (.unwind (.text "again")) (by decide +kernel)
  have start : (after routerAwaits).stack = [.starting 0 0] := by decide +kernel
  have router : (after routerAsked).stack = [.routing goesAs, .starting 0 0] := by
    decide +kernel
  have handler : (after routerUnwinds).stack = [goesAs.telling, .starting 0 0] := by decide +kernel
  have ended : (after handlerUnwinds).stack = [.starting 0 0] := by decide +kernel
  have course : Course [.starting 0 0] (after routerAsked)
      [⟨_, .unwind (.text "boom"), _, told⟩, ⟨_, .unwind (.text "again"), _, out⟩]
      (after handlerUnwinds) :=
    .leg router .nil (Leg.resumes_unwind router first)
      (.leg handler .nil (Leg.resumes_unwind handler second) (.ended ended))
  have returns := (forward_returns reached routerAwaits_forwards begun).2 _ _ (start ▸ course)
  have settled := returns.native (ended.trans start.symm) _ _ 0 true 1 start rfl
  exact settled.1

end Machine

end FiberBridge
