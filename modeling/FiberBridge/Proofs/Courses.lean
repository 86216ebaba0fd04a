import FiberBridge.Proofs.Attribution
import FiberBridge.Proofs.Spans
import FiberBridge.Proofs.Target

namespace FiberBridge.Machine

structure Leg where
  before : Machine
  move : Move
  after : Machine
  reaction : Reaction

def Leg.turn (leg : Leg) : Turn := leg.before.turn leg.move

structure Leg.On (base : List Frame) (leg : Leg) : Prop where
  reached : Reachable leg.before
  step : Step leg.before leg.move leg.after leg.reaction
  below : leg.before.below leg.move = base
  starts : ∀ s token, leg.move ≠ .invoke (.start s token)

-- The leg answers what `frame` waits for, or unwinds out of it.
structure Leg.Resumes (frame : Frame) (base : List Frame) (leg : Leg) : Prop where
  top : leg.before.stack = frame :: base
  step : Step leg.before leg.move leg.after leg.reaction
  goesOn : ∀ op, leg.move ≠ .invoke op

abbrev Meanwhile (base : List Frame) : Machine → List Move → List Reaction → Machine → Prop :=
  Spans (fun _ _ => True) base

-- What becomes of an operation from `m` on: it is over, or it waits, or its frame is taken up again.
inductive Course (base : List Frame) : Machine → List Leg → Machine → Prop where
  | ended {m : Machine} (done : m.stack = base) : Course base m [] m
  | waits {m last : Machine} {frame : Frame} {moves : List Move} {reactions : List Reaction}
      (top : m.stack = frame :: base)
      (meanwhile : Meanwhile (frame :: base) m moves reactions last) :
      Course base m [] last
  | leg {m last : Machine} {frame : Frame} {moves : List Move} {reactions : List Reaction} {leg : Leg}
      {legs : List Leg} (top : m.stack = frame :: base)
      (meanwhile : Meanwhile (frame :: base) m moves reactions leg.before)
      (resumes : leg.Resumes frame base) (rest : Course base leg.after legs last) :
      Course base m (leg :: legs) last

variable {m n last : Machine} {move : Move} {moves : List Move} {reaction : Reaction}
  {reactions : List Reaction} {may : Machine → Op → Prop} {frame : Frame} {base : List Frame}
  {leg : Leg} {legs : List Leg}

theorem Runs.same_built (runs : Runs m moves n) : m.SameBuilt n := by
  induction runs with
  | nil => exact .refl
  | cons step rest ih => exact (step_built step).trans ih

theorem Move.Stays.above {allowed : Op → Prop} (stays : move.Stays allowed base m.stack)
    (step : Step m move n reaction) (above : base <:+ m.stack) : base <:+ n.stack := by
  have stack : n.stack = ((m.turn move).asks.map Prod.snd).toList ++ m.below move :=
    (step_takes step).stack
  have below : base <:+ m.below move := by
    cases stays with
    | invoke begins => exact above
    | answer top above => simpa [Machine.below, top] using above
    | unwind top above => simpa [Machine.below, top] using above
  rw [stack]
  exact below.trans (List.suffix_append _ _)

theorem Spans.above (spans : Spans may base m moves reactions last) (above : base <:+ m.stack) :
    base <:+ last.stack := by
  induction spans with
  | nil => exact above
  | cons step stays rest ih => exact ih (stays.above step above)

theorem Leg.On.stack (on : leg.On base) :
    leg.after.stack = (leg.turn.asks.map Prod.snd).toList ++ base :=
  on.below ▸ (step_takes on.step).stack

theorem Leg.resumes_answer {reply : Reply} (top : m.stack = frame :: base)
    (step : Step m (.answer reply) n reaction) :
    Leg.Resumes frame base ⟨m, .answer reply, n, reaction⟩ := ⟨top, step, fun _ same => nomatch same⟩

theorem Leg.resumes_unwind {p : Panic} (top : m.stack = frame :: base)
    (step : Step m (.unwind p) n reaction) :
    Leg.Resumes frame base ⟨m, .unwind p, n, reaction⟩ := ⟨top, step, fun _ same => nomatch same⟩

theorem Leg.Resumes.below (resumes : leg.Resumes frame base) : leg.before.below leg.move = base := by
  obtain ⟨top, _, goesOn⟩ := resumes
  cases same : leg.move with
  | invoke op => exact absurd same (goesOn op)
  | answer reply => exact congrArg List.tail top
  | unwind p => exact congrArg List.tail top

theorem Leg.Resumes.on (resumes : leg.Resumes frame base) (reached : Reachable leg.before) :
    leg.On base :=
  ⟨reached, resumes.step, resumes.below, fun s token => resumes.goesOn (.start s token)⟩

theorem Course.ended_eq (course : Course base m legs last) (done : m.stack = base) :
    legs = [] ∧ last = m := by
  have longer {frame : Frame} (top : m.stack = frame :: base) : False :=
    List.cons_ne_self frame base (top.symm.trans done)
  cases course with
  | ended done => exact ⟨rfl, rfl⟩
  | waits top meanwhile => exact (longer top).elim
  | leg top meanwhile resumes rest => exact (longer top).elim

theorem Course.next (course : Course base m legs last) (reached : Reachable m)
    (top : m.stack = frame :: base) (back : last.stack = base) :
    ∃ leg rest, legs = leg :: rest ∧ m.SameBuilt leg.before ∧ leg.Resumes frame base ∧ leg.On base ∧
      Course base leg.after rest last := by
  cases course with
  | ended done => exact absurd (top.symm.trans done) (List.cons_ne_self frame base)
  | waits top' meanwhile =>
    have longer := (meanwhile.above (top' ▸ List.suffix_refl _)).length_le
    rw [back, List.length_cons] at longer
    exact absurd longer (Nat.not_succ_le_self _)
  | leg top' meanwhile resumes rest =>
    obtain ⟨rfl, _⟩ := List.cons.inj (top.symm.trans top')
    exact ⟨_, _, rfl, meanwhile.runs.same_built, resumes, resumes.on (meanwhile.reachable reached), rest⟩

-- One of the moves takes `frame` off, and before it the host only worked above.
def TakesOff (frame : Frame) (base : List Frame) (m : Machine) (moves : List Move) (last : Machine) :
    Prop :=
  ∃ (earlier : List Move) (reactions : List Reaction) (leg : Leg) (later : List Move),
    moves = earlier ++ leg.move :: later ∧
      Meanwhile (frame :: base) m earlier reactions leg.before ∧ leg.Resumes frame base ∧
      Runs leg.after later last

theorem Runs.stays_or_takes_off (runs : Runs m moves last) (above : frame :: base <:+ m.stack) :
    (∃ reactions, Meanwhile (frame :: base) m moves reactions last) ∨
      TakesOff frame base m moves last := by
  induction runs with
  | nil => exact .inl ⟨[], .nil⟩
  | @cons m middle last move moves r step rest ih =>
    have above_it (stays : move.Stays (fun _ => True) (frame :: base) m.stack) :
        (∃ reactions, Meanwhile (frame :: base) m (move :: moves) reactions last) ∨
          TakesOff frame base m (move :: moves) last := by
      rcases ih (stays.above step above) with ⟨reactions, spans⟩ |
        ⟨earlier, reactions, leg, later, rfl, spans, resumes, onward⟩
      · exact .inl ⟨_, .cons step stays spans⟩
      · exact .inr ⟨_, _, leg, later, rfl, .cons step stays spans, resumes, onward⟩
    have off (top : m.stack = frame :: base) (goesOn : ∀ op, move ≠ .invoke op) :
        TakesOff frame base m (move :: moves) last :=
      ⟨[], [], ⟨m, move, middle, r⟩, moves, rfl, .nil, ⟨top, step, goesOn⟩, rest⟩
    cases move with
    | invoke op => exact above_it (.invoke trivial)
    | answer reply =>
      obtain ⟨first, below, after, top, _⟩ := step.answered
      rcases List.suffix_cons_iff.mp (top ▸ above) with same | within
      · exact .inr (off (top.trans same.symm) fun _ other => nomatch other)
      · exact above_it (.answer top within)
    | unwind p =>
      obtain ⟨first, below, top, _⟩ := step.unwound
      rcases List.suffix_cons_iff.mp (top ▸ above) with same | within
      · exact .inr (off (top.trans same.symm) fun _ other => nomatch other)
      · exact above_it (.unwind top within)

def Courses (base : List Frame) (m : Machine) : Prop :=
  ∀ moves last, Runs m moves last → ∃ legs middle later, Course base m legs middle ∧
    Runs middle later last ∧ later <:+ moves ∧ (middle.stack = base ∨ later = [])

theorem courses (begun : m.stack = base ∨ ∃ frame, m.stack = frame :: base) : Courses base m := by
  intro moves last runs
  -- Each leg takes one move at least.
  generalize size : moves.length = bound
  induction bound using Nat.strongRecOn generalizing m moves with
  | ind bound ih =>
    rcases begun with done | ⟨frame, top⟩
    · exact ⟨[], m, moves, .ended done, runs, List.suffix_refl _, .inl done⟩
    · rcases runs.stays_or_takes_off ⟨[], top.symm⟩ with ⟨reactions, spans⟩ |
        ⟨earlier, reactions, leg, later, rfl, spans, resumes, onward⟩
      · exact ⟨[], last, [], .waits top spans, .nil, List.nil_suffix, .inr rfl⟩
      · have shorter : later.length < bound := by
          rw [← size, List.length_append, List.length_cons]
          omega
        have stack : leg.after.stack = (leg.turn.asks.map Prod.snd).toList ++ base :=
          resumes.below ▸ (step_takes resumes.step).stack
        have begun : leg.after.stack = base ∨ ∃ frame, leg.after.stack = frame :: base := by
          rw [stack]
          cases leg.turn.asks with
          | none => exact .inl rfl
          | some call => exact .inr ⟨call.2, rfl⟩
        obtain ⟨legs, middle, rest, course, after, suffix, ends⟩ := ih _ shorter begun _ onward rfl
        refine ⟨leg :: legs, middle, rest, .leg top spans resumes course, after, ?_, ends⟩
        exact suffix.trans (((List.suffix_cons _ _).trans (List.suffix_append _ _)))

structure Leg.Does (leg : Leg) (acts : List Act) (tasks : List Task) : Prop where
  acts : leg.after.acts = acts ++ leg.before.acts
  tasks : leg.after.tasks = tasks.foldl Slots.add leg.before.tasks

structure Leg.Only (leg : Leg) (acts : List Act) (tasks : List Task) : Prop extends
    leg.Does acts tasks where
  outcomes : leg.before.SameOutcomes leg.after
  current : ∀ s, (leg.after.scripts.get s).run = (leg.before.scripts.get s).run ∧
    (leg.after.scripts.get s).token = (leg.before.scripts.get s).token

theorem Leg.On.does {tasks : List Task} (on : leg.On base) (edits : leg.turn.edits = tasks.map .left) :
    leg.Does leg.turn.acts tasks := by
  have takes := step_takes on.step
  refine ⟨takes.acts, ?_⟩
  have left : leg.after.tasks = leg.turn.edits.foldl Edit.apply leg.before.tasks := takes.tasks
  rw [left, edits, List.foldl_map]
  rfl

theorem Leg.On.only {tasks : List Task} (on : leg.On base) (edits : leg.turn.edits = tasks.map .left)
    (fate : leg.before.fate leg.move = []) : leg.Only leg.turn.acts tasks := by
  refine { on.does edits with outcomes := step_same_outcomes on.reached on.step fate, current := ?_ }
  intro s
  rcases step_rearmed on.reached on.step s with same | ⟨token, starts, _⟩
  · exact same
  · exact absurd starts (on.starts s token)

theorem Leg.On.ended (on : leg.On base) (course : Course base leg.after legs last)
    (silent : leg.turn.asks = none) : legs = [] ∧ last = leg.after := by
  refine course.ended_eq ?_
  rw [on.stack, silent]
  rfl

theorem Leg.On.next {q : HostCall} (on : leg.On base) (course : Course base leg.after legs last)
    (asks : leg.turn.asks = some (q, frame)) (back : last.stack = base) :
    ∃ leg' rest, legs = leg' :: rest ∧ leg.before.SameBuilt leg'.before ∧ leg'.Resumes frame base ∧
      leg'.On base ∧ Course base leg'.after rest last := by
  have top : leg.after.stack = frame :: base := by
    rw [on.stack, asks]
    rfl
  obtain ⟨leg', rest, same, built, resumes, on', course'⟩ :=
    course.next (on.reached.step on.step) top back
  exact ⟨leg', rest, same, (step_built on.step).trans built, resumes, on', course'⟩

structure Leg.Answered (frame : Frame) (base : List Frame) (reply : Reply) (leg : Leg) : Prop extends
    leg.On base where
  top : leg.before.stack = frame :: base
  move : leg.move = .answer reply
  fits : ({ leg.before with stack := base }.continue? frame reply).isSome

structure Finishes (base : List Frame) (m : Machine) (legs : List Leg) (last : Machine) : Prop where
  course : Course base m legs last
  back : last.stack = base
  normal : ∀ leg ∈ legs, ∀ p, leg.move ≠ .unwind p

theorem Leg.On.answered {q : HostCall} (on : leg.On base) (finishes : Finishes base leg.after legs last)
    (asks : leg.turn.asks = some (q, frame)) :
    ∃ leg' rest reply, legs = leg' :: rest ∧ leg.before.SameBuilt leg'.before ∧
      leg'.Answered frame base reply ∧ Finishes base leg'.after rest last := by
  obtain ⟨course, back, normal⟩ := finishes
  obtain ⟨leg', rest, rfl, built, resumes, on', course'⟩ := on.next course asks back
  obtain ⟨this, others⟩ := List.forall_mem_cons.mp normal
  cases move : leg'.move with
  | invoke op => exact absurd move (resumes.goesOn op)
  | unwind p => exact absurd move (this p)
  | answer reply =>
    obtain ⟨after, continued, _⟩ := (move ▸ on'.step).answered_at resumes.top
    exact ⟨leg', rest, reply, rfl, built,
      { on' with top := resumes.top, move, fits := Option.isSome_of_eq_some continued },
      course', back, others⟩

theorem Leg.Answered.turn {reply : Reply} (answered : leg.Answered frame base reply) :
    leg.turn = leg.before.replyTurn frame reply := by
  simp only [Leg.turn, answered.move, Machine.turn, answered.top]

theorem Leg.Answered.fate {reply : Reply} (answered : leg.Answered frame base reply) :
    leg.before.fate leg.move = leg.before.replyFate frame reply := by
  simp only [answered.move, Machine.fate, answered.top]

-- The leg asks the host and waits, or is the last one and says nothing.
def Leg.Back (base : List Frame) (leg : Leg) : Prop :=
  (leg.reaction = .returned .done ∧ leg.after.stack = base) ∨
    ∃ q frame, leg.reaction = .call q ∧ leg.after.stack = frame :: base

theorem Leg.Back.courses (back : leg.Back base) : Courses base leg.after := by
  rcases back with ⟨_, stack⟩ | ⟨_, frame, _, stack⟩
  · exact Machine.courses (.inl stack)
  · exact Machine.courses (.inr ⟨frame, stack⟩)

theorem Leg.back_of_goesOn {origin : Origin} {after : Machine × Reaction}
    (goesOn : GoesOn origin base after) (swept : after.1.sweep = leg.after)
    (reaction : after.2 = leg.reaction) : leg.Back base := by
  rcases goesOn.swept with ⟨done, stack⟩ | ⟨q, frame, call, stack, _⟩
  · exact .inl ⟨reaction ▸ done, swept ▸ stack⟩
  · exact .inr ⟨q, frame, reaction ▸ call, swept ▸ stack⟩

theorem received_back {op : Op} {c : Received} (received : m.received? op = some c)
    (step : Step m (.invoke op) n reaction) : Leg.Back m.stack ⟨m, .invoke op, n, reaction⟩ := by
  obtain ⟨_, swept, same⟩ := step.invoked
  cases op with
  | command b id name word ambient =>
    cases received
    have goesOn : GoesOn .host m.stack (m.command b id name word ambient .host) :=
      command_goesOn rfl rfl id
    exact Leg.back_of_goesOn goesOn swept same
  | commandUpcall id name length word ambient =>
    exact Leg.back_of_goesOn (upcall_goesOn rfl) swept same
  | _ => cases received

theorem Leg.Resumes.back {origin : Origin} {reply : Reply} (resumes : leg.Resumes frame base)
    (own : frame.origin? = some origin) (free : origin.task? = none) (answers : leg.move = .answer reply) :
    leg.Back base := by
  obtain ⟨after, continued, swept, same⟩ := (answers ▸ resumes.step).answered_at resumes.top
  exact Leg.back_of_goesOn (continue?_goesOn free own continued) swept same

end FiberBridge.Machine
