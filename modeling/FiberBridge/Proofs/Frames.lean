import FiberBridge.Machine.Frames
import FiberBridge.Proofs.Account
import FiberBridge.Proofs.Detached
import FiberBridge.Proofs.Swept

namespace FiberBridge

variable {c : ClockKey}

def Op.onClocks (clocks : Slots FrameClock) : Op → Slots FrameClock
  | .makeClock => clocks.add { held := true }
  | .advanceClock c frames => clocks.update c (FrameClock.advance · frames)
  | .dropClock c => clocks.update c FrameClock.letGo
  | _ => clocks

def Machine.Move.onClocks (clocks : Slots FrameClock) : Machine.Move → Slots FrameClock
  | .invoke op => op.onClocks clocks
  | _ => clocks

def Machine.Move.advances (c : ClockKey) : Machine.Move → Nat
  | .invoke (.advanceClock k frames) => if k = c then frames else 0
  | _ => 0

namespace Machine

variable {m middle next last : Machine} {move : Move} {moves : List Move} {reaction : Reaction}
  {t : TaskKey} {target : Nat}

def advanced (c : ClockKey) : List Move → Nat
  | [] => 0
  | move :: moves => move.advances c + advanced c moves

theorem launch_clocks {op : Op} (sets : op.sets) : (m.launch op).1.clocks = op.onClocks m.clocks := by
  cases op with
  | build setup =>
    show (m.build setup).1.clocks = m.clocks
    unfold build
    split <;> rfl
  | newContext available =>
    show (m.newContext available).1.clocks = m.clocks
    unfold newContext
    cases available <;> rfl
  | cloneBridge | dropBridge | setLog | setError | cancel | makeClock | advanceClock | dropClock
  | complete | elapse | dropContext | install | uninstall => rfl
  | _ => cases sets

theorem onClocks_of_keeps {move : Move} (keeps : move.sets = false) (clocks : Slots FrameClock) :
    move.onClocks clocks = clocks := by
  cases move with
  | invoke op => cases op <;> first | rfl | cases keeps
  | answer reply => rfl
  | unwind p => rfl

theorem step_clocks (step : Step m move next reaction) :
    next.clocks = move.onClocks m.clocks := by
  cases sets : move.sets with
  | false =>
    rw [onClocks_of_keeps sets]
    exact congrArg Settings.clocks (step_settings step sets)
  | true =>
    cases move with
    | invoke op =>
      obtain ⟨_, rfl, _⟩ := step.invoked
      exact (congrArg Settings.clocks sweep_tells.settings).trans (launch_clocks sets)
    | answer reply => cases sets
    | unwind p => cases sets

theorem size_clocks_step (step : Step m move next reaction) :
    m.clocks.size ≤ next.clocks.size := by
  rw [step_clocks step]
  cases move with
  | invoke op =>
    cases op with
    | makeClock => exact Slots.size_le_add ..
    | advanceClock => exact Slots.size_le_update ..
    | dropClock => exact Slots.size_le_update ..
    | _ => exact Nat.le_refl _
  | answer reply => exact Nat.le_refl _
  | unwind p => exact Nat.le_refl _

theorem step_shown (step : Step m move next reaction) (c : ClockKey) :
    (next.clocks.get c).shown = (m.clocks.get c).shown + move.advances c := by
  rw [step_clocks step]
  cases move with
  | invoke op =>
    cases op with
    | makeClock => exact FrameClock.shown_add ..
    | advanceClock => exact FrameClock.shown_advance ..
    | dropClock => exact FrameClock.shown_letGo ..
    | _ => rfl
  | answer reply => rfl
  | unwind p => rfl

theorem advances_none (step : Step m move next reaction) (gone : (m.clocks.get c).held = false) :
    move.advances c = 0 := by
  cases move with
  | invoke op =>
    cases op with
    | advanceClock k frames =>
      obtain ⟨held, _⟩ := step.invoked
      refine if_neg ?_
      rintro rfl
      exact Bool.false_ne_true (gone.symm.trans held)
    | _ => rfl
  | answer reply => rfl
  | unwind p => rfl

theorem gone_step (step : Step m move next reaction) (made : c < m.clocks.size)
    (gone : (m.clocks.get c).held = false) : (next.clocks.get c).held = false := by
  rw [step_clocks step]
  have update {f : FrameClock → FrameClock} {k : ClockKey} (lets : ∀ clock : FrameClock,
      clock.held = false → (f clock).held = false) : ((m.clocks.update k f).get c).held = false := by
    rw [Slots.get_update]
    split
    · exact lets _ gone
    · exact gone
  cases move with
  | invoke op =>
    cases op with
    | makeClock => exact (congrArg FrameClock.held (Slots.get_add_old made _)).trans gone
    | advanceClock k frames => exact update fun _ gone => gone
    | dropClock k => exact update fun _ _ => rfl
    | _ => exact gone
  | answer reply => exact gone
  | unwind p => exact gone

theorem Runs.shown (runs : Runs m moves last) (c : ClockKey) :
    (last.clocks.get c).shown = (m.clocks.get c).shown + advanced c moves := by
  induction runs with
  | nil => rfl
  | cons step rest ih =>
    rw [ih, step_shown step c, Nat.add_assoc]
    rfl

theorem Runs.gone (runs : Runs m moves last) (made : c < m.clocks.size)
    (gone : (m.clocks.get c).held = false) : (last.clocks.get c).held = false := by
  induction runs with
  | nil => exact gone
  | cons step rest ih =>
    exact ih (Nat.lt_of_lt_of_le made (size_clocks_step step)) (gone_step step made gone)

theorem Runs.shown_gone (runs : Runs m moves last) (made : c < m.clocks.size)
    (gone : (m.clocks.get c).held = false) :
    (last.clocks.get c).shown = (m.clocks.get c).shown := by
  induction runs with
  | nil => rfl
  | cons step rest ih =>
    have grown := Nat.lt_of_lt_of_le made (size_clocks_step step)
    rw [ih grown (gone_step step made gone), step_shown step c,
      advances_none step gone, Nat.add_zero]

def ahead (m : Machine) (c : ClockKey) (frames : Nat) : Machine :=
  { m with clocks := m.clocks.update c (FrameClock.advance · frames) }

theorem ahead_zero (made : c < m.clocks.size) : m.ahead c 0 = m := by
  have same (clock : FrameClock) : clock.advance 0 = clock := rfl
  unfold ahead
  rw [Slots.update_self made same]

theorem ahead_ahead (earlier later : Nat) :
    (m.ahead c earlier).ahead c later = m.ahead c (later + earlier) := by
  have both (clock : FrameClock) :
      (clock.advance earlier).advance later = clock.advance (later + earlier) := by
    unfold FrameClock.advance
    rw [Nat.add_comm later, Nat.add_assoc]
  unfold ahead
  simp only [Slots.update_update, both]

theorem ahead_held (frames : Nat) : ((m.ahead c frames).clocks.get c).held = (m.clocks.get c).held := by
  unfold ahead
  rw [Slots.get_update, if_pos rfl]
  rfl

theorem ahead_still (reached : Reachable m) (frames : Nat) : (m.ahead c frames).sweep = m.ahead c frames :=
  Swept.still (m := m.ahead c frames) reached.swept reached.relieved

theorem advance_iff {frames : Nat} (reached : Reachable m) :
    Step m (.invoke (.advanceClock c frames)) next reaction ↔
      (m.clocks.get c).held = true ∧ next = m.ahead c frames ∧
        reaction = .returned (.counted (next.clocks.get c).shown) := by
  have still := ahead_still (c := c) reached frames
  constructor
  · intro step
    obtain ⟨held, rfl, rfl⟩ := step.invoked
    refine ⟨held, still, ?_⟩
    show Reaction.returned (.counted ((m.ahead c frames).clocks.get c).shown) =
      .returned (.counted ((m.ahead c frames).sweep.clocks.get c).shown)
    rw [still]
  · rintro ⟨held, rfl, rfl⟩
    exact .invoke held (Prod.ext still rfl)

theorem made_of_held (held : (m.clocks.get c).held = true) : c < m.clocks.size := by
  refine Nat.lt_of_not_le fun beyond => ?_
  rw [Slots.get_of_size_le beyond] at held
  cases held

theorem runs_advance_iff {frames : Nat} (reached : Reachable m) (held : (m.clocks.get c).held = true) :
    Runs m [.invoke (.advanceClock c frames)] last ↔ last = m.ahead c frames := by
  constructor
  · intro runs
    obtain ⟨_, step⟩ := runs.single
    exact ((advance_iff reached).mp step).2.1
  · rintro rfl
    exact .cons ((advance_iff reached).mpr ⟨held, rfl, rfl⟩) .nil

theorem runs_ticks_iff {frames : Nat} (reached : Reachable m) (held : (m.clocks.get c).held = true) :
    Runs m (List.replicate frames (.invoke (.advanceClock c 1))) last ↔ last = m.ahead c frames := by
  induction frames generalizing m with
  | zero =>
    rw [ahead_zero (made_of_held held)]
    constructor
    · intro runs
      cases runs
      rfl
    · rintro rfl
      exact .nil
  | succ frames ih =>
    have step : Step m (.invoke (.advanceClock c 1)) (m.ahead c 1) _ :=
      (advance_iff reached).mpr ⟨held, rfl, rfl⟩
    have later := ih (reached.step step) ((ahead_held 1).trans held)
    rw [ahead_ahead] at later
    refine Iff.trans ⟨fun runs => ?_, .cons step⟩ later
    cases runs with
    | cons first rest =>
      obtain ⟨_, rfl, _⟩ := (advance_iff reached).mp first
      exact rest

inductive Watches : Machine → FrameWait → List Move → Machine → FrameWait → Prop where
  | nil {m : Machine} {wait : FrameWait} : Watches m wait [] m wait
  | move {m middle last : Machine} {wait left : FrameWait} {move : Move} {moves : List Move}
      {r : Reaction} : Step m move middle r → Watches middle wait moves last left →
      Watches m wait (move :: moves) last left
  | poll {m last : Machine} {wait later left : FrameWait} {moves : List Move} :
      m.pollFrames wait = some later → Watches m later moves last left →
      Watches m wait moves last left

-- What is left of a wait until it is ready. When the channel was found closed, nobody can bring the
-- clock up to the target any more.
structure Short (m : Machine) (c : ClockKey) (target : Nat) (wait : FrameWait) : Prop where
  made : c < m.clocks.size
  left : wait = .watching c target ∨
    wait = .stranded ∧ (m.clocks.get c).held = false ∧ (m.clocks.get c).shown < target

theorem Short.ready_iff {wait : FrameWait} (short : m.Short c target wait) :
    m.pollFrames wait = none ↔ target ≤ (m.clocks.get c).shown := by
  obtain ⟨made, rfl | ⟨rfl, gone, below⟩⟩ := short
  · unfold pollFrames waitFor FrameClock.shows
    by_cases enough : target ≤ (m.clocks.get c).shown
    · simp [enough]
    · cases kept : m.clockKept c <;> simp [enough, kept]
  · exact ⟨nofun, fun enough => absurd enough (Nat.not_le_of_lt below)⟩

theorem Short.poll {wait later : FrameWait} (short : m.Short c target wait)
    (polled : m.pollFrames wait = some later) : m.Short c target later := by
  obtain ⟨made, rfl | ⟨rfl, gone, below⟩⟩ := short
  · unfold pollFrames waitFor FrameClock.shows at polled
    by_cases enough : target ≤ (m.clocks.get c).shown
    · simp [enough] at polled
    · cases kept : m.clockKept c with
      | true =>
        simp only [enough, kept, decide_false, Bool.false_eq_true, if_false, if_true] at polled
        exact ⟨made, .inl (Option.some.inj polled).symm⟩
      | false =>
        simp only [enough, kept, decide_false, Bool.false_eq_true, if_false] at polled
        exact ⟨made, .inr ⟨(Option.some.inj polled).symm, (Bool.or_eq_false_iff.mp kept).1,
          Nat.lt_of_not_le enough⟩⟩
  · cases polled
    exact ⟨made, .inr ⟨rfl, gone, below⟩⟩

theorem Short.step {wait : FrameWait} (short : m.Short c target wait)
    (step : Step m move next reaction) : next.Short c target wait := by
  obtain ⟨made, rfl | ⟨rfl, gone, below⟩⟩ := short
  · exact ⟨Nat.lt_of_lt_of_le made (size_clocks_step step), .inl rfl⟩
  · refine ⟨Nat.lt_of_lt_of_le made (size_clocks_step step),
      .inr ⟨rfl, gone_step step made gone, ?_⟩⟩
    rw [step_shown step c, advances_none step gone]
    exact below

theorem Watches.runs {wait left : FrameWait} (watches : Watches m wait moves last left) :
    Runs m moves last := by
  induction watches with
  | nil => exact .nil
  | move step _ ih => exact .cons step ih
  | poll _ _ ih => exact ih

theorem Runs.watches {wait : FrameWait} (runs : Runs m moves last) : Watches m wait moves last wait := by
  induction runs with
  | nil => exact .nil
  | cons step _ ih => exact .move step ih

theorem Watches.short {wait left : FrameWait} (short : m.Short c target wait)
    (watches : Watches m wait moves last left) : last.Short c target left := by
  induction watches with
  | nil => exact short
  | move step _ ih => exact ih (short.step step)
  | poll polled _ ih => exact ih (short.poll polled)

theorem awaitFrames_short (made : c < m.clocks.size) (count : UInt32) :
    m.Short c ((m.clocks.get c).target count) (m.awaitFrames c count) := ⟨made, .inl rfl⟩

-- The host's answer is the count of a script's wait for frames, of which the bridge's clock `k` keeps
-- count, and a runtime can drive the wait.
structure Accepts (m : Machine) (c : Service) (count : UInt32) (k : ClockKey) (d : Decoding) : Prop where
  decodes : m.stack.head? = some (.decoding c .waitFrames)
  counts : shapeOf c.name d Json.asCount = .ok count
  clock : (m.bridges.get c.bridge).frames = some (.clock k)
  driven : m.runtimeFor c = true

theorem Accepts.stage {c : Service} {count : UInt32} {k : ClockKey} {d : Decoding}
    (accepts : m.Accepts c count k d) :
    m.stage? (.answer (.decoded d)) =
      some (c, .leaves (.wait (.frames k ((m.clocks.get k).target count)))) := by
  obtain ⟨rest, top⟩ := List.head?_eq_some_iff.mp accepts.decodes
  simp only [stage?, top, replyStage?, accepts.counts, framesStage?, accepts.clock, accepts.driven,
    Option.map_some]

structure Awaiting (m : Machine) (t : TaskKey) (c : ClockKey) (target : Nat) : Prop where
  made : t < m.tasks.size
  work : (m.tasks.get t).work = .wait (.frames c target)
  unsaid : m.spent t = false

theorem Runs.frames_work (reached : Reachable m) (awaits : m.Awaiting t c target)
    (runs : Runs m moves last) : (last.tasks.get t).work = .wait (.frames c target) := by
  have lasts := (runs.lasts reached awaits.made).2.2
  rw [awaits.work] at lasts
  generalize (last.tasks.get t).work = work at lasts ⊢
  cases lasts
  rfl

-- The attempt is the first look that finds enough frames shown.
theorem Runs.attempt_iff (reached : Reachable m) (awaits : m.Awaiting t c target)
    (runs : Runs m moves last) (step : Step last move next reaction) :
    last.concludes t move = true ↔
      move = .invoke (.pollTask t) ∧ target ≤ (last.clocks.get c).shown ∧
        m.conclusions t moves = 0 := by
  have work := runs.frames_work reached awaits
  have counted := runs.conclusions reached awaits.made
  rw [awaits.unsaid] at counted
  constructor
  · intro said
    obtain ⟨rfl, come, _⟩ := wait_attempts (runs.reachable reached) work said step
    refine ⟨rfl, of_decide_eq_true come, ?_⟩
    have unspent : last.spent t = false := by
      cases spent : last.spent t with
      | false => rfl
      | true =>
        have made := Nat.lt_of_lt_of_le awaits.made runs.size_tasks
        rw [(step_spent (runs.reachable reached) made step).2 spent] at said
        cases said
    rw [unspent] at counted
    exact counted
  · rintro ⟨rfl, enough, none⟩
    have unspent : last.spent t = false := by
      rw [none] at counted
      cases said : last.spent t with
      | false => rfl
      | true =>
        rw [said] at counted
        cases counted
    have unfinished := (Bool.or_eq_false_iff.mp unspent).1
    have come : last.hasCome (last.begun (.frames c target)) = true := decide_eq_true enough
    simp [concludes, ready, unfinished, work, come]

theorem Runs.conclusions_le (reached : Reachable m) (awaits : m.Awaiting t c target)
    (runs : Runs m moves last) : m.conclusions t moves ≤ 1 := by
  have counted := runs.conclusions reached awaits.made
  rw [awaits.unsaid] at counted
  have bound := Bool.toNat_le (last.spent t)
  simp only [Bool.toNat_false] at counted
  omega

theorem Awaiting.step (reached : Reachable m) (awaits : m.Awaiting t c target)
    (step : Step m move next reaction) (quiet : m.concludes t move = false) : next.Awaiting t c target := by
  refine ⟨Nat.lt_of_lt_of_le awaits.made (size_tasks_step step),
    Runs.frames_work reached awaits (.cons step .nil), ?_⟩
  rw [(step_spent reached awaits.made step).1, awaits.unsaid, quiet]
  rfl

def Looked (m : Machine) (t : TaskKey) (c : ClockKey) (target : Nat) (moves : List Move) : Prop :=
  ∃ earlier later before, moves = earlier ++ .invoke (.pollTask t) :: later ∧ Runs m earlier before ∧
    target ≤ (before.clocks.get c).shown

theorem looked_cons_iff (step : Step m move next reaction) :
    m.Looked t c target (move :: moves) ↔
      move = .invoke (.pollTask t) ∧ target ≤ (m.clocks.get c).shown ∨
        next.Looked t c target moves := by
  constructor
  · rintro ⟨earlier, later, before, split, runs, enough⟩
    cases runs with
    | nil =>
      cases split
      exact .inl ⟨rfl, enough⟩
    | cons first rest =>
      cases split
      have same := (advance?_exact.mpr ⟨_, step⟩).symm.trans (advance?_exact.mpr ⟨_, first⟩)
      cases same
      exact .inr ⟨_, later, before, rfl, rest, enough⟩
  · rintro (⟨rfl, enough⟩ | ⟨earlier, later, before, rfl, runs, enough⟩)
    · exact ⟨[], moves, m, rfl, .nil, enough⟩
    · exact ⟨move :: earlier, later, before, rfl, .cons step runs, enough⟩

theorem Runs.looked_iff (reached : Reachable m) (awaits : m.Awaiting t c target)
    (runs : Runs m moves last) : m.conclusions t moves = 1 ↔ m.Looked t c target moves := by
  induction runs with
  | nil => exact ⟨nofun, fun ⟨earlier, _, _, split, _⟩ => by cases earlier <;> cases split⟩
  | @cons m next last move moves r step rest ih =>
    have bound := Runs.conclusions_le reached awaits (.cons step rest)
    have first := Runs.attempt_iff reached awaits .nil step
    rw [looked_cons_iff step]
    simp only [Machine.conclusions, advance?_exact.mpr ⟨r, step⟩] at bound ⊢
    cases said : m.concludes t move with
    | true =>
      obtain ⟨look, enough, _⟩ := first.mp said
      rw [said, Bool.toNat_true] at bound
      rw [Bool.toNat_true]
      exact ⟨fun _ => .inl ⟨look, enough⟩, fun _ => by omega⟩
    | false =>
      rw [Bool.toNat_false, Nat.zero_add, ih (reached.step step) (awaits.step reached step said)]
      refine (or_iff_right ?_).symm
      rintro ⟨look, enough⟩
      have attempt := first.mpr ⟨look, enough, rfl⟩
      rw [said] at attempt
      cases attempt

-- What an accepted wait of a script for `count` frames comes to, from the state that it is left in
-- on: one attempt, in the first look at it while enough frames are shown.
structure Fires (m : Machine) (c : Service) (k : ClockKey) (target : Nat) (t : TaskKey) : Prop where
  keeps : ∀ moves last, Runs m moves last →
    (last.tasks.get t).script = c.script ∧ (last.tasks.get t).bridge = c.bridge ∧
    (last.tasks.get t).work = .wait (.frames k target)
  first : ∀ moves before move after reaction, Runs m moves before → Step before move after reaction →
    (before.concludes t move = true ↔
      move = .invoke (.pollTask t) ∧ target ≤ (before.clocks.get k).shown ∧
        ¬ m.Looked t k target moves)
  resumes : ∀ moves before move after reaction, Runs m moves before → Step before move after reaction →
    before.concludes t move = true → before.Attempts t after reaction
  quiet : ∀ moves before move after reaction, Runs m moves before → Step before move after reaction →
    before.worker? move = some t → before.concludes t move = false →
    ∃ done, after.acts = done ++ before.acts ∧ ∀ a ∈ done, a.loud = false
  once : ∀ moves last, Runs m moves last →
    m.conclusions t moves ≤ 1 ∧ (m.conclusions t moves = 1 ↔ m.Looked t k target moves)

structure Punctual (m : Machine) : Prop where
  counts : ∀ moves last c, Runs m moves last →
    (last.clocks.get c).shown = (m.clocks.get c).shown + advanced c moves
  tells : ∀ next reaction c frames, Step m (.invoke (.advanceClock c frames)) next reaction →
    (next.clocks.get c).shown = (m.clocks.get c).shown + frames ∧
    reaction = .returned (.counted (next.clocks.get c).shown)
  splits : ∀ last c frames, (m.clocks.get c).held = true →
    (Runs m (List.replicate frames (.invoke (.advanceClock c 1))) last ↔
      Runs m [.invoke (.advanceClock c frames)] last)
  ready : ∀ c count moves last left, c < m.clocks.size →
    Watches m (m.awaitFrames c count) moves last left →
    (last.pollFrames left = none ↔
      (m.clocks.get c).shown + count.toNat ≤ (last.clocks.get c).shown)
  looks : ∀ c count moves last left, c < m.clocks.size →
    Watches m (m.awaitFrames c count) moves last left →
    (last.hasCome (.frames c ((m.clocks.get c).shown + count.toNat)) = true ↔
      last.pollFrames left = none)
  drops : ∀ next reaction c, Step m (.invoke (.dropClock c)) next reaction →
    (next.clocks.get c).held = false ∧ (next.clocks.get c).shown = (m.clocks.get c).shown
  lasts : ∀ moves last c, Runs m moves last → c < m.clocks.size → (m.clocks.get c).held = false →
    (last.clocks.get c).held = false ∧ (last.clocks.get c).shown = (m.clocks.get c).shown
  never : ∀ c count earlier middle wait later last left, c < m.clocks.size →
    Watches m (m.awaitFrames c count) earlier middle wait → (middle.clocks.get c).held = false →
    (middle.clocks.get c).shown < (m.clocks.get c).shown + count.toNat →
    Watches middle wait later last left → last.pollFrames left ≠ none
  accepted : ∀ c count k d next reaction, m.Accepts c count k d →
    Step m (.answer (.decoded d)) next reaction →
    next.tasks = m.tasks.add
      { bridge := c.bridge, script := c.script, command := c.name
        work := .wait (.frames k ((m.clocks.get k).shown + count.toNat)), finished := false } ∧
    next.Fires c k ((m.clocks.get k).shown + count.toNat) m.tasks.size

theorem Awaiting.fires {c : Service} {k : ClockKey} (reached : Reachable m) (awaits : m.Awaiting t k target)
    (script : (m.tasks.get t).script = c.script) (bridge : (m.tasks.get t).bridge = c.bridge) :
    m.Fires c k target t := by
  refine ⟨?_, ?_, ?_, ?_, ?_⟩
  · intro moves last runs
    obtain ⟨bridge', script', _⟩ := runs.lasts reached awaits.made
    exact ⟨script'.trans script, bridge'.trans bridge, runs.frames_work reached awaits⟩
  · intro moves before move after reaction runs step
    have bound := runs.conclusions_le reached awaits
    have looked := runs.looked_iff reached awaits
    have none : m.conclusions t moves = 0 ↔ ¬ m.Looked t k target moves := by
      rw [← looked]
      omega
    rw [runs.attempt_iff reached awaits step, none]
  · intro moves before move after reaction runs step said
    exact (wait_attempts (runs.reachable reached) (runs.frames_work reached awaits) said step).2.2
  · intro moves before move after reaction runs step own unsaid
    exact ⟨_, (step_takes step).acts, quiet_turn (runs.reachable reached) own unsaid step⟩
  · intro moves last runs
    exact ⟨runs.conclusions_le reached awaits, runs.looked_iff reached awaits⟩

theorem Accepts.fires {c : Service} {count : UInt32} {k : ClockKey} {d : Decoding}
    (reached : Reachable m) (accepts : m.Accepts c count k d)
    (step : Step m (.answer (.decoded d)) next reaction) :
    next.tasks = m.tasks.add
      { bridge := c.bridge, script := c.script, command := c.name
        work := .wait (.frames k ((m.clocks.get k).target count)), finished := false } ∧
    next.Fires c k ((m.clocks.get k).target count) m.tasks.size := by
  obtain ⟨⟨_, _, unsaid, tasks⟩, _⟩ := stage_staged reached accepts.stage step
  refine ⟨tasks, ?_⟩
  have left : next.tasks.get m.tasks.size =
      { bridge := c.bridge, script := c.script, command := c.name
        work := .wait (.frames k ((m.clocks.get k).target count)), finished := false } := by
    rw [tasks, Slots.get_add_self]
  have made : m.tasks.size < next.tasks.size := by
    rw [tasks, Slots.size_add]
    exact Nat.lt_succ_self _
  have awaits : next.Awaiting m.tasks.size k ((m.clocks.get k).target count) :=
    ⟨made, by rw [left], unsaid⟩
  exact awaits.fires (reached.step step) (by rw [left]) (by rw [left])

theorem frame_waits_punctual (reached : Reachable m) : Punctual m := by
  refine ⟨?_, ?_, ?_, ?_, ?_, ?_, ?_, ?_, ?_⟩
  · intro moves last c runs
    exact runs.shown c
  · intro next reaction c frames step
    refine ⟨?_, ((advance_iff reached).mp step).2.2⟩
    rw [step_shown step c]
    exact congrArg _ (if_pos rfl)
  · intro last c frames held
    rw [runs_ticks_iff reached held, runs_advance_iff reached held]
  · intro c count moves last left made watches
    exact (watches.short (awaitFrames_short made count)).ready_iff
  · intro c count moves last left made watches
    rw [(watches.short (awaitFrames_short made count)).ready_iff]
    exact decide_eq_true_iff
  · intro next reaction c step
    refine ⟨?_, step_shown step c⟩
    rw [step_clocks step]
    show ((m.clocks.update c FrameClock.letGo).get c).held = false
    rw [Slots.get_update, if_pos rfl]
    rfl
  · intro moves last c runs made gone
    exact ⟨runs.gone made gone, runs.shown_gone made gone⟩
  · intro c count earlier middle wait later last left made before gone below after
    have short := before.short (awaitFrames_short made count)
    rw [Ne, (after.short short).ready_iff, after.runs.shown_gone short.made gone]
    exact Nat.not_le_of_lt below
  · intro c count k d next reaction accepts step
    exact accepts.fires reached step

def counting : List Move :=
  [.invoke .makeClock, .invoke (.build { frames := some (.clock 0), runtime := true }),
    .invoke (.makeFiber ⟨1⟩ 0), .invoke (.register 0 0),
    .invoke (.command 0 ⟨1⟩ "wait_frames".toUTF8 ⟨7⟩ false)]

def counted : List Move := counting ++ [.answer (.decoded (.ok (.num (.int 2))))]

def jumping : List Move :=
  [.invoke (.pollTask 0), .invoke (.advanceClock 0 1), .invoke (.pollTask 0),
    .invoke (.advanceClock 0 3)]

def ticking : List Move := [.invoke (.advanceClock 0 1), .invoke (.advanceClock 0 3)]

set_option maxRecDepth 10000 in
theorem frame_waits_counting :
    (after counted).conclusions 0 (jumping ++ [.invoke (.pollTask 0)]) = 1 ∧
      Watches (after counting) (.watching 0 2) ticking (after (counting ++ ticking)) (.watching 0 2) ∧
      (after (counting ++ ticking)).pollFrames (.watching 0 2) = none := by
  have reached : Reachable (after counting) := (runs_after (by decide +kernel)).reachable .initial
  have punctual := frame_waits_punctual reached
  have shown : ((after counting).clocks.get 0).shown = 0 := by decide +kernel
  refine ⟨?_, ?_⟩
  · have accepts : (after counting).Accepts ⟨0, 0, "wait_frames", ⟨7⟩, false, .host⟩ 2 0
        (.ok (.num (.int 2))) :=
      ⟨by decide +kernel, by rfl, by decide +kernel, by decide +kernel⟩
    obtain ⟨r, step⟩ :=
      step_onward counting (.answer (.decoded (.ok (.num (.int 2))))) (by decide +kernel)
    have fires := (punctual.accepted _ _ _ _ _ _ accepts step).2
    have tasks : (after counting).tasks.size = 0 := by decide +kernel
    rw [tasks, shown] at fires
    have early : Runs (after counted) jumping (after (counted ++ jumping)) :=
      runs_onward (by decide +kernel)
    have whole : Runs (after counted) (jumping ++ [.invoke (.pollTask 0)])
        (after (counted ++ (jumping ++ [.invoke (.pollTask 0)]))) := runs_onward (by decide +kernel)
    exact (fires.once _ _ whole).2.mpr ⟨jumping, [], _, rfl, early, by decide +kernel⟩
  · have runs : Runs (after counting) ticking (after (counting ++ ticking)) :=
      runs_onward (by decide +kernel)
    have waits : (after counting).awaitFrames 0 2 = .watching 0 2 := by decide +kernel
    have short : (after counting).pollFrames (.watching 0 2) = some (.watching 0 2) := by
      decide +kernel
    have watches : Watches (after counting) (.watching 0 2) ticking (after (counting ++ ticking))
        (.watching 0 2) := .poll short runs.watches
    have made : 0 < (after counting).clocks.size := by decide +kernel
    refine ⟨watches, ?_⟩
    exact (punctual.ready 0 2 ticking _ _ made (waits ▸ watches)).mpr (by decide +kernel)

end Machine

end FiberBridge
