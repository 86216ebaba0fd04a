import FiberBridge.Proofs.Pending

namespace FiberBridge

def befalls (s : ScriptKey) (id : ScriptId) (event : ScriptKey × Milestone) : Option Outcome :=
  if event.1 = s then event.2.verdict id else none

def armedIn (r : RunKey) : List (ScriptKey × Milestone) → Option ScriptKey
  | [] => none
  | (s, .armed r' _) :: later => if r' = r then some s else armedIn r later
  | _ :: later => armedIn r later

def verdictOn (id : ScriptId) (r : RunKey) : List (ScriptKey × Milestone) → Option Outcome
  | [] => none
  | (s, .armed r' canceled) :: later =>
    if r' = r then
      if canceled then some (.error .canceled) else later.findSome? (befalls s id)
    else verdictOn id r later
  | _ :: later => verdictOn id r later

theorem armedIn_append {r : RunKey} {past later : List (ScriptKey × Milestone)} :
    armedIn r (past ++ later) = (armedIn r past).or (armedIn r later) := by
  induction past with
  | nil => rfl
  | cons event rest ih =>
    obtain ⟨s, x⟩ := event
    cases x with
    | armed r' canceled =>
      simp only [List.cons_append, armedIn]
      split
      · rfl
      · exact ih
    | entered canceled => exact ih
    | returned wasStart result canceled => exact ih
    | failed e => exact ih
    | torn => exact ih

-- Before the arming nothing counts; after it the first verdict stays.
theorem verdictOn_append {id : ScriptId} {r : RunKey} {past later : List (ScriptKey × Milestone)} :
    verdictOn id r (past ++ later) =
      match armedIn r past with
      | some s => (verdictOn id r past).or (later.findSome? (befalls s id))
      | none => verdictOn id r later := by
  induction past with
  | nil => rfl
  | cons event rest ih =>
    obtain ⟨s, x⟩ := event
    cases x with
    | armed r' canceled =>
      simp only [List.cons_append, verdictOn, armedIn]
      by_cases same : r' = r
      · simp only [if_pos same]
        cases canceled with
        | true => rfl
        | false => exact List.findSome?_append
      · simp only [if_neg same]
        exact ih
    | entered canceled => exact ih
    | returned wasStart result canceled => exact ih
    | failed e => exact ih
    | torn => exact ih

structure Exact (past : List (ScriptKey × Milestone)) (c : Core) : Prop where
  armed : ∀ r, armedIn r past = if r < c.runs.size then some (c.runs.get r).script else none
  settled : ∀ r, (c.runs.get r).outcome = verdictOn (c.runs.get r).id r past

namespace Exact

variable {power : Power} {c d : Core} {past : List (ScriptKey × Milestone)}

theorem transfer (exact_ : Exact past c) (made : d.runs.size = c.runs.size)
    (runs : ∀ r, (d.runs.get r).script = (c.runs.get r).script ∧
      (d.runs.get r).id = (c.runs.get r).id ∧ (d.runs.get r).outcome = (c.runs.get r).outcome) :
    Exact past d := by
  refine ⟨?_, ?_⟩
  · intro r
    rw [made, (runs r).1]
    exact exact_.armed r
  · intro r
    rw [(runs r).2.1, (runs r).2.2]
    exact exact_.settled r

theorem alike (exact_ : Exact past c) (runs : d.runs = c.runs) : Exact past d := by
  refine exact_.transfer (by rw [runs]) ?_
  intro r
  rw [runs]
  exact ⟨rfl, rfl, rfl⟩

-- A pending run is current, so what befalls its script befalls it, and nothing else does.
theorem befalls_current (linked : Linked c) {s : ScriptKey} {x : Milestone} {r : RunKey}
    (made : r < c.runs.size) :
    (if (c.scripts.get s).run = some r then
        (c.runs.get r).outcome.or (x.verdict (c.scripts.get s).id)
      else (c.runs.get r).outcome) =
      (c.runs.get r).outcome.or (befalls (c.runs.get r).script (c.runs.get r).id (s, x)) := by
  unfold befalls
  by_cases current : (c.scripts.get s).run = some r
  · obtain ⟨_, own⟩ := linked.current s r current
    obtain ⟨_, named⟩ := linked.named r made
    rw [if_pos current, if_pos own.symm, named, own]
  · rw [if_neg current]
    cases outcome : (c.runs.get r).outcome with
    | some o => rfl
    | none =>
      have pending := linked.pending r made outcome
      have other : s ≠ (c.runs.get r).script := by
        rintro rfl
        exact current pending
      rw [if_neg other]
      rfl

theorem armed_of_lt (exact_ : Exact past c) {r : RunKey} (made : r < c.runs.size) :
    armedIn r past = some (c.runs.get r).script := (exact_.armed r).trans (if_pos made)

theorem unarmed_of_le (exact_ : Exact past c) {r : RunKey} (new : c.runs.size ≤ r) :
    armedIn r past = none := (exact_.armed r).trans (if_neg (Nat.not_lt_of_le new))

theorem judge (exact_ : Exact past c) (linked : Linked c) (s : ScriptKey) {x : Milestone}
    (later : ∀ r canceled, x ≠ .armed r canceled) : Exact (past ++ [(s, x)]) (c.judge s x) := by
  have nothing (r : RunKey) : armedIn r [(s, x)] = none := by
    cases x with
    | armed r' canceled => exact absurd rfl (later r' canceled)
    | _ => rfl
  have no_verdict (id : ScriptId) (r : RunKey) : verdictOn id r [(s, x)] = none := by
    cases x with
    | armed r' canceled => exact absurd rfl (later r' canceled)
    | _ => rfl
  have size : (c.judge s x).runs.size = c.runs.size :=
    Slots.size_settleCurrent (fun r current => (linked.current s r current).1) _
  refine ⟨?_, ?_⟩
  · intro r
    rw [armedIn_append, nothing, Option.or_none, size, Core.judge_script]
    exact exact_.armed r
  · intro r
    have same : ((c.judge s x).runs.get r).id = (c.runs.get r).id ∧
        ((c.judge s x).runs.get r).outcome = if (c.scripts.get s).run = some r then
          (c.runs.get r).outcome.or (x.verdict (c.scripts.get s).id) else (c.runs.get r).outcome := by
      rw [Core.judge_get]
      split <;> exact ⟨rfl, rfl⟩
    rw [same.1, same.2, verdictOn_append]
    rcases Nat.lt_or_ge r c.runs.size with made | new
    · rw [befalls_current linked made, exact_.armed_of_lt made, ← exact_.settled r]
      simp
    · have free : (c.scripts.get s).run ≠ some r := by
        intro current
        exact Nat.not_lt_of_le new (linked.current s r current).1
      rw [if_neg free, exact_.unarmed_of_le new, Slots.get_of_size_le new]
      exact (no_verdict _ r).symm

theorem arm (exact_ : Exact past c) (linked : Linked c) (s : ScriptKey)
    (token : Option TokenKey) (canceled : Bool) :
    Exact (past ++ [(s, .armed c.runs.size canceled)]) (c.arm s token canceled) := by
  have old (r : RunKey) (current : (c.scripts.get s).run = some r) := (linked.current s r current).1
  have size := Core.arm_size token canceled old
  refine ⟨?_, ?_⟩
  · intro r
    rw [armedIn_append, size, Core.arm_script]
    rcases Nat.lt_trichotomy r c.runs.size with made | rfl | new
    · rw [exact_.armed_of_lt made, if_pos (Nat.lt_succ_of_lt made), if_neg (Nat.ne_of_gt made)]
      rfl
    · rw [exact_.unarmed_of_le (Nat.le_refl _), if_pos (Nat.lt_succ_self _), if_pos rfl]
      simp [armedIn]
    · rw [exact_.unarmed_of_le (Nat.le_of_lt new), if_neg (Nat.not_lt_of_le new)]
      simp [armedIn, Nat.ne_of_lt new]
  · intro r
    rw [verdictOn_append]
    rcases Nat.lt_trichotomy r c.runs.size with made | rfl | new
    · have same : ((c.arm s token canceled).runs.get r).id = (c.runs.get r).id ∧
          ((c.arm s token canceled).runs.get r).outcome = if (c.scripts.get s).run = some r then
            (c.runs.get r).outcome.or (some (.error .canceled)) else (c.runs.get r).outcome := by
        rw [Core.arm_get_old token canceled (Nat.ne_of_lt made)]
        split <;> exact ⟨rfl, rfl⟩
      have decided := befalls_current linked (s := s) (x := .armed c.runs.size canceled) made
      rw [same.1, same.2, exact_.armed_of_lt made, ← exact_.settled r]
      refine decided.trans ?_
      simp
    · rw [exact_.unarmed_of_le (Nat.le_refl _), Core.arm_get_new token canceled old]
      simp [verdictOn]
    · have absent : (c.scripts.get s).run ≠ some r := by
        intro current
        exact Nat.lt_asymm new (old r current)
      rw [exact_.unarmed_of_le (Nat.le_of_lt new),
        Core.arm_get_old token canceled (Nat.ne_of_gt new), if_neg absent,
        Slots.get_of_size_le (Nat.le_of_lt new)]
      simp [verdictOn, Nat.ne_of_lt new]
      rfl

theorem change (exact_ : Exact past c) (linked : Linked c) {l : List (ScriptKey × Milestone)}
    (change : Change power c l d) : Exact (past ++ l) d := by
  have quiet (kept : Exact past d) : Exact (past ++ []) d := by rwa [List.append_nil]
  cases change with
  | accepted held made vacant => exact quiet (exact_.alike rfl)
  | refused held made => exact quiet (exact_.alike rfl)
  | read known live => exact quiet (exact_.alike rfl)
  | armed known live meant => exact exact_.arm linked _ _ _
  | judged known later lasting => exact exact_.judge linked _ later
  | starting known live ready current armed own => exact quiet (exact_.alike rfl)
  | resuming known live free => exact quiet (exact_.alike rfl)
  | asked foreign plain held free => exact quiet (exact_.alike rfl)
  | disposing known meant live => exact quiet (exact_.alike rfl)
  | @disposed s dropped rest top known =>
    exact (exact_.judge linked s (x := .torn) (by rintro _ _ ⟨⟩)).alike rfl
  | popped top plain => exact quiet (exact_.alike rfl)
  | released top => exact quiet (exact_.alike rfl)
  | unwound top allowed => exact quiet (exact_.alike rfl)
  | disowned known ended => exact quiet (exact_.alike rfl)
  | referred refs known => exact quiet (exact_.alike rfl)
  | @unawaited r made =>
    refine quiet (exact_.transfer ?_ ?_)
    · exact Slots.size_update made _
    · intro r'
      simp only [Core.setRun, Slots.get_update]
      split <;> exact ⟨rfl, rfl, rfl⟩
  | spawned known unfinished => exact quiet (exact_.alike rfl)
  | finished idle => exact quiet (exact_.alike rfl)
  | begun => exact quiet (exact_.alike rfl)
  | made fresh => exact quiet (exact_.alike rfl)
  | seen => exact quiet (exact_.alike rfl)
  | letGo held => exact quiet (exact_.alike rfl)
  | @freed s made kept unheld =>
    refine quiet (exact_.transfer ?_ ?_)
    · exact Core.size_free fun r current => (linked.current s r current).1
    · intro r
      rw [Core.free_get]
      split <;> exact ⟨rfl, rfl, rfl⟩

end Exact

namespace Machine

theorem initial_exact : Exact [] initial.core := by
  refine ⟨?_, ?_⟩
  · intro r
    rfl
  · intro r
    have no_run : initial.core.runs.get r = default := Slots.get_empty r
    rw [no_run]
    rfl

theorem Chronicle.exact {m : Machine} {past : List (ScriptKey × Milestone)}
    (chronicle : Chronicle m past) : Exact past m.core := by
  induction chronicle with
  | initial => exact initial_exact
  | @step m next past move r prior step ih =>
    refine (Path.records (fun past c => Linked c ∧ Exact past c) ?_ ⟨prior.reachable.linked, ih⟩
      (step_path prior.reachable.steady step)).2
    rintro c d past l ⟨linked, exact_⟩ one
    exact ⟨linked.change one, exact_.change linked one⟩

end Machine

def Run.shown (run : Run) : Option Outcome :=
  match run.outcome with
  | some o => some o
  | none => if run.abandoned then some (.error (.useAfterDispose run.id)) else none

theorem Run.shown_abandoned {run : Run} {o : Outcome} (settled : run.shown = some o) :
    { run with abandoned := true }.shown = some o := by
  unfold Run.shown at settled ⊢
  cases outcome : run.outcome with
  | some o' => simpa [outcome] using settled
  | none =>
    cases gone : run.abandoned with
    | true => simpa [outcome, gone] using settled
    | false => simp [outcome, gone] at settled

theorem lt_of_shown {runs : Slots Run} {r : RunKey} {o : Outcome}
    (settled : (runs.get r).shown = some o) : r < runs.size := by
  rcases Nat.lt_or_ge r runs.size with made | new
  · exact made
  · rw [Slots.get_of_size_le new] at settled
    cases settled

namespace Linked

variable {power : Power} {c d : Core}

theorem settled_current (linked : Linked c) {s : ScriptKey} {r : RunKey} {o : Outcome}
    (known : c.Open s) (settled : (c.runs.get r).shown = some o)
    (current : (c.scripts.get s).run = some r) : (c.runs.get r).outcome = some o := by
  have made := lt_of_shown settled
  unfold Run.shown at settled
  cases outcome : (c.runs.get r).outcome with
  | some o' => simpa [outcome] using settled
  | none =>
    have gone := linked.abandoned r made outcome
    rw [(linked.current s r current).2, known.kept] at gone
    simp [outcome, gone] at settled

theorem shown_change (linked : Linked c) {l : List (ScriptKey × Milestone)} {r : RunKey}
    {o : Outcome} (settled : (c.runs.get r).shown = some o)
    (change : Change power c l d) : (d.runs.get r).shown = some o := by
  have same (kept : d.runs.get r = c.runs.get r) : (d.runs.get r).shown = some o := by
    rw [kept]
    exact settled
  have judged (s : ScriptKey) (v : Option Outcome) (known : c.Open s)
      (now : d.runs.get r = if (c.scripts.get s).run = some r then
        { c.runs.get r with outcome := (c.runs.get r).outcome.or v } else c.runs.get r) :
      (d.runs.get r).shown = some o := by
    by_cases current : (c.scripts.get s).run = some r
    · have outcome := linked.settled_current known settled current
      rw [now, if_pos current, outcome]
      rfl
    · exact same (now.trans (if_neg current))
  cases change with
  | @armed s token canceled known live meant =>
    refine judged s (some (.error .canceled)) known ?_
    exact Core.arm_get_old token canceled (Nat.ne_of_lt (lt_of_shown settled))
  | @judged s x known later lasting => exact judged s _ known (Core.judge_get ..)
  | @disposed s dropped rest top known => exact judged s _ known (Core.judge_get _ s .torn r)
  | @unawaited r' there =>
    simp only [Core.setRun, Slots.get_update]
    split <;> exact settled
  | @freed s there kept unheld =>
    rw [Core.free_get]
    split
    · exact Run.shown_abandoned settled
    · exact settled
  | _ => exact same rfl

end Linked

def Core.Rearmed (c d : Core) (power : Power) (l : List (ScriptKey × Milestone)) (s : ScriptKey) :
    Prop :=
  ((d.scripts.get s).run = (c.scripts.get s).run ∧
      (d.scripts.get s).token = (c.scripts.get s).token) ∨
    ∃ token r canceled, power.starts s token ∧ (s, .armed r canceled) ∈ l ∧
      (d.scripts.get s).run = some r ∧ (d.scripts.get s).token = token

theorem rearmed_change {power : Power} {c d : Core} {l : List (ScriptKey × Milestone)}
    (change : Change power c l d) (s : ScriptKey) : c.Rearmed d power l s := by
  have added (script : Script) (first : script.run = none) (tokenless : script.token = none) :
      ((c.scripts.add script).get s).run = (c.scripts.get s).run ∧
        ((c.scripts.add script).get s).token = (c.scripts.get s).token :=
    ⟨Slots.field_add Script.run first .., Slots.field_add Script.token tokenless ..⟩
  have updated (s' : ScriptKey) (f : Script → Script)
      (run : ∀ script, (f script).run = script.run)
      (token : ∀ script, (f script).token = script.token) :
      ((c.scripts.update s' f).get s).run = (c.scripts.get s).run ∧
        ((c.scripts.update s' f).get s).token = (c.scripts.get s).token :=
    ⟨Slots.field_update Script.run run .., Slots.field_update Script.token token ..⟩
  cases change with
  | accepted held made vacant => exact .inl (added _ rfl rfl)
  | refused held made => exact .inl (added _ rfl rfl)
  | @armed s' token canceled known live meant =>
    by_cases this : s' = s
    · subst this
      refine .inr ⟨token, c.runs.size, canceled, meant, List.mem_singleton.mpr rfl, ?_⟩
      simp [Core.arm, Slots.get_update]
    · refine .inl ?_
      simp [Core.arm, Slots.get_update, this]
  | disposing known meant live => exact .inl (updated _ _ (fun _ => rfl) fun _ => rfl)
  | disowned known ended => exact .inl (updated _ _ (fun _ => rfl) fun _ => rfl)
  | referred refs known => exact .inl (updated _ _ (fun _ => rfl) fun _ => rfl)
  | freed made kept unheld => exact .inl (updated _ _ (fun _ => rfl) fun _ => rfl)
  | _ => exact .inl ⟨rfl, rfl⟩

theorem rearmed_path {power : Power} {c d : Core} {l : List (ScriptKey × Milestone)}
    (path : Path power c l d) (s : ScriptKey) : c.Rearmed d power l s := by
  show c.Rearmed d power ([] ++ l) s
  refine path.records (fun l d => c.Rearmed d power l s) ?_ (.inl ⟨rfl, rfl⟩)
  intro e d past l before change
  rcases rearmed_change change s with ⟨run, token⟩ | ⟨token, r, canceled, meant, present, after⟩
  · rcases before with ⟨run', token'⟩ | ⟨token', r, canceled, meant, present, after⟩
    · exact .inl ⟨run.trans run', token.trans token'⟩
    · exact .inr ⟨token', r, canceled, meant, List.mem_append_left _ present,
        run.trans after.1, token.trans after.2⟩
  · exact .inr ⟨token, r, canceled, meant, List.mem_append_right _ present, after⟩

namespace Machine

variable {m next : Machine} {past : List (ScriptKey × Milestone)}

theorem step_rearmed {move : Move} {reaction : Reaction} (reached : Reachable m)
    (step : Step m move next reaction) (s : ScriptKey) :
    ((next.scripts.get s).run = (m.scripts.get s).run ∧
        (next.scripts.get s).token = (m.scripts.get s).token) ∨
      ∃ token, move = .invoke (.start s token) ∧ (next.scripts.get s).run = some m.runs.size ∧
        (next.scripts.get s).token = token := by
  rcases rearmed_path (step_path reached.steady step) s with
    same | ⟨token, r, canceled, meant, there, after⟩
  · exact .inl same
  · obtain rfl : move = .invoke (.start s token) := meant
    have new : r = m.runs.size := by
      have present : (s, Milestone.armed r canceled) ∈ m.startFate s token := there
      unfold startFate at present
      dsimp only at present
      split at present
      · cases List.mem_singleton.mp present
        rfl
      · cases present
    exact .inr ⟨token, rfl, new ▸ after.1, after.2⟩

theorem step_outcome? {move : Move} {reaction : Reaction} {r : RunKey} {o : Outcome}
    (reached : Reachable m) (step : Step m move next reaction) (settled : m.outcome? r = some o) :
    next.outcome? r = some o := by
  have both := (step_path reached.steady step).preserves
    (fun c => Linked c ∧ (c.runs.get r).shown = some o)
    (fun before change => ⟨before.1.change change, before.1.shown_change before.2 change⟩)
    ⟨reached.linked, settled⟩
  exact both.2

theorem runs_outcome? {moves : List Move} {r : RunKey} {o : Outcome} (reached : Reachable m)
    (runs : Runs m moves next) (settled : m.outcome? r = some o) : next.outcome? r = some o := by
  induction runs with
  | nil => exact settled
  | cons step rest ih => exact ih (reached.step step) (step_outcome? reached step settled)

theorem Chronicle.armed {s : ScriptKey} {r : RunKey} (chronicle : Chronicle m past) :
    armedIn r past = some s ↔ r < m.runs.size ∧ (m.runs.get r).script = s := by
  rw [chronicle.exact.armed r]
  constructor
  · intro armed
    split at armed
    · rename_i made
      exact ⟨made, Option.some.inj armed⟩
    · cases armed
  · rintro ⟨made, own⟩
    exact (if_pos made).trans (congrArg some own)

theorem Chronicle.verdict {r : RunKey} (chronicle : Chronicle m past) (made : r < m.runs.size) :
    (m.runs.get r).outcome = verdictOn (m.idOf (m.runs.get r).script) r past := by
  have named : (m.runs.get r).id = m.idOf (m.runs.get r).script :=
    (chronicle.reachable.linked.named r made).2
  rw [← named]
  exact chronicle.exact.settled r

theorem Chronicle.outcome? {s : ScriptKey} {r : RunKey} (chronicle : Chronicle m past)
    (armed : armedIn r past = some s) :
    m.outcome? r = (verdictOn (m.idOf s) r past).or
      (if (m.scripts.get s).freed then some (.error (.useAfterDispose (m.idOf s))) else none) := by
  obtain ⟨made, rfl⟩ := chronicle.armed.mp armed
  have linked := chronicle.reachable.linked
  rw [← chronicle.verdict made]
  unfold Machine.outcome?
  dsimp only
  cases outcome : (m.runs.get r).outcome with
  | some o => rfl
  | none =>
    have gone : (m.runs.get r).abandoned = (m.scripts.get (m.runs.get r).script).freed :=
      linked.abandoned r made outcome
    have named : (m.runs.get r).id = m.idOf (m.runs.get r).script := (linked.named r made).2
    rw [gone, named]
    rfl

theorem freed_settled {r : RunKey} (orderly : Orderly m) (made : r < m.runs.size)
    (freed : (m.scripts.get (m.runs.get r).script).freed) : m.isSettled r := by
  have steady := orderly.reachable.steady
  have unheld : ¬ m.core.Holds (m.runs.get r).script := by
    intro holds
    have kept := (steady.held _ holds).2
    rw [core_scripts, freed] at kept
    cases kept
  rcases pending_or_settled orderly made with settled | ⟨_, live | ⟨dropped, present⟩⟩
  · exact settled
  · exact absurd (.handle (steady.owned _ live)) unheld
  · exact absurd (.frame present (by simp [Frame.holdsScript])) unheld

theorem Chronicle.outcome?_orderly {s : ScriptKey} {r : RunKey} (chronicle : Chronicle m past)
    (orderly : Orderly m) (armed : armedIn r past = some s) :
    m.outcome? r = verdictOn (m.idOf s) r past := by
  rw [chronicle.outcome? armed]
  obtain ⟨made, rfl⟩ := chronicle.armed.mp armed
  cases freed : (m.scripts.get (m.runs.get r).script).freed with
  | false => exact Option.or_none
  | true =>
    have settled : (m.runs.get r).outcome.isSome := freed_settled orderly made freed
    rw [chronicle.verdict made] at settled
    exact Option.or_of_isSome settled

theorem starting_armed {s : ScriptKey} {r : RunKey} (chronicle : Chronicle m past)
    (present : .starting s r ∈ m.stack) : armedIn r past = some s :=
  chronicle.armed.mpr (chronicle.reachable.steady.starts s r present)

-- What is shown of a run is the verdict of the history, and stays. A run is armed once, by the start
-- that gives it back, and with it the script takes on its token. Only an unwound release can make a
-- run end in another way, with the script itself.
theorem outcome_exact (chronicle : Chronicle m past) :
    armedIn m.runs.size past = none ∧
    (∀ s r rest, m.stack = .starting s r :: rest → armedIn r past = some s ∧
      ∀ code next reaction, Step m (.answer (.code code)) next reaction →
        reaction = .returned (.keyed (.ok r))) ∧
    (∀ s r, armedIn r past = some s →
      m.outcome? r = (verdictOn (m.idOf s) r past).or
          (if (m.scripts.get s).freed then some (.error (.useAfterDispose (m.idOf s))) else none) ∧
        (Orderly m → m.outcome? r = verdictOn (m.idOf s) r past)) ∧
    (∀ r o moves last, m.outcome? r = some o → Runs m moves last → last.outcome? r = some o) ∧
    (∀ s move next reaction, Step m move next reaction →
      (next.scripts.get s).run = (m.scripts.get s).run ∧
          (next.scripts.get s).token = (m.scripts.get s).token ∨
        ∃ token, move = .invoke (.start s token) ∧ (next.scripts.get s).run = some m.runs.size ∧
          (next.scripts.get s).token = token) := by
  have reached := chronicle.reachable
  refine ⟨?_, ?_, ?_, ?_, ?_⟩
  · exact chronicle.exact.unarmed_of_le (Nat.le_refl _)
  · intro s r rest top
    refine ⟨starting_armed chronicle (by simp [top]), ?_⟩
    intro code next reaction step
    obtain ⟨frame, rest', after, top', continued, _, rfl⟩ := step.answered
    obtain ⟨rfl, rfl⟩ := List.cons.inj (top.symm.trans top')
    obtain rfl := Option.some.inj continued
    rfl
  · intro s r armed
    exact ⟨chronicle.outcome? armed, fun orderly => chronicle.outcome?_orderly orderly armed⟩
  · intro r o moves last settled runs
    exact runs_outcome? reached runs settled
  · intro s move next reaction step
    exact step_rearmed reached step s

def restartedInside : List Move :=
  [.invoke (.build {}), .invoke (.makeFiber ⟨7⟩ 0), .invoke (.register 0 0),
    .invoke (.start 0 (some 9)), .invoke (.resume 0 true), .invoke (.setOrdinal 0 5),
    .invoke (.start 0 none), .answer (.code 1), .invoke (.fail 0 (.config "stop")),
    .answer (.code 0), .invoke (.cancel 9), .answer (.code 2)]

set_option maxRecDepth 10000 in
theorem outcome_restartedInside :
    (after restartedInside).outcome? 0 = some (.error .canceled) ∧
      (after restartedInside).outcome? 1 = some (.error (.config "stop")) := by
  have chronicle : Chronicle (after restartedInside)
      [(0, .armed 0 false), (0, .entered false), (0, .armed 1 false),
        (0, .returned true .yielded false),
        (0, .failed (.config "stop")), (0, .returned false .error false),
        (0, .returned true .done false)] :=
    (runs_after rfl).chronicle .initial
  obtain ⟨_, _, exact_, _⟩ := outcome_exact chronicle
  refine ⟨?_, ?_⟩
  · exact (exact_ 0 0 rfl).1
  · exact (exact_ 0 1 rfl).1

end Machine

end FiberBridge
