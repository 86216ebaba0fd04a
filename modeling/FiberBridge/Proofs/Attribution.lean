import FiberBridge.Proofs.Outcome

namespace FiberBridge

def Frame.nativeCall? : Frame → Option (ScriptKey × Bool)
  | .starting s _ => some (s, true)
  | .resuming s _ => some (s, false)
  | _ => none

def Milestone.arms : Milestone → Bool
  | .armed _ _ => true
  | _ => false

theorem armedIn_eq_none {l : List (ScriptKey × Milestone)} (quiet : ∀ event ∈ l, event.2.arms = false)
    (r : RunKey) : armedIn r l = none := by
  induction l with
  | nil => rfl
  | cons event rest ih =>
    obtain ⟨s, x⟩ := event
    have later := ih fun event present => quiet event (List.mem_cons_of_mem _ present)
    have this := quiet (s, x) List.mem_cons_self
    cases x with
    | armed r' canceled => cases this
    | _ => exact later

namespace Machine

variable {m next : Machine} {move : Move} {reaction : Reaction}

theorem step_outcome {r : RunKey} (reached : Reachable m) (step : Step m move next reaction)
    (made : r < m.runs.size) :
    (next.runs.get r).outcome = (m.runs.get r).outcome.or
      ((m.fate move).findSome? (befalls (m.runs.get r).script (m.idOf (m.runs.get r).script))) := by
  obtain ⟨past, chronicle⟩ := reached.chronicle
  have armed : armedIn r past = some (m.runs.get r).script := chronicle.armed.mpr ⟨made, rfl⟩
  have later := chronicle.step step
  obtain ⟨still, same⟩ : r < next.runs.size ∧ (next.runs.get r).script = (m.runs.get r).script := by
    refine later.armed.mp ?_
    rw [armedIn_append, armed]
    rfl
  have there := (reached.linked.named r made).1
  have named : next.idOf (m.runs.get r).script = m.idOf (m.runs.get r).script :=
    (Core.Lasts.path there (step_path reached.steady step)).id
  rw [later.verdict still, same, named, verdictOn_append, armed, ← chronicle.verdict made]

theorem step_judges {s : ScriptKey} {x : Milestone} {r : RunKey} (reached : Reachable m)
    (step : Step m move next reaction) (fate : m.fate move = [(s, x)]) (made : r < m.runs.size) :
    (next.runs.get r).outcome =
      if (m.scripts.get s).run = some r then (m.runs.get r).outcome.or (x.verdict (m.idOf s))
      else (m.runs.get r).outcome := by
  have named : (m.runs.get r).id = m.idOf (m.runs.get r).script := (reached.linked.named r made).2
  have decided := Exact.befalls_current reached.linked (s := s) (x := x) made
  rw [step_outcome reached step made, fate, List.findSome?_singleton, ← named]
  exact decided.symm

theorem step_spares {r : RunKey} (reached : Reachable m) (step : Step m move next reaction)
    (fate : m.fate move = []) (made : r < m.runs.size) :
    (next.runs.get r).outcome = (m.runs.get r).outcome := by
  rw [step_outcome reached step made, fate]
  exact Option.or_none

theorem step_runs_size (reached : Reachable m) (step : Step m move next reaction)
    (quiet : ∀ event ∈ m.fate move, event.2.arms = false) : next.runs.size = m.runs.size := by
  obtain ⟨past, chronicle⟩ := reached.chronicle
  have later := chronicle.step step
  have armed (r : RunKey) : armedIn r (past ++ m.fate move) = armedIn r past := by
    rw [armedIn_append, armedIn_eq_none quiet, Option.or_none]
  have same (r : RunKey) : r < next.runs.size ↔ r < m.runs.size := by
    constructor
    · intro made
      exact (chronicle.armed.mp ((armed r).symm.trans (later.armed.mpr ⟨made, rfl⟩))).1
    · intro made
      exact (later.armed.mp ((armed r).trans (chronicle.armed.mpr ⟨made, rfl⟩))).1
  exact Nat.le_antisymm (Nat.le_of_not_lt fun more => Nat.lt_irrefl _ ((same _).mp more))
    (Nat.le_of_not_lt fun fewer => Nat.lt_irrefl _ ((same _).mpr fewer))

def SameOutcomes (m n : Machine) : Prop :=
  n.runs.size = m.runs.size ∧
    ∀ r, r < m.runs.size → (n.runs.get r).outcome = (m.runs.get r).outcome

theorem step_same_outcomes (reached : Reachable m) (step : Step m move next reaction)
    (fate : m.fate move = []) : m.SameOutcomes next := by
  refine ⟨?_, fun r made => step_spares reached step fate made⟩
  refine step_runs_size reached step fun event present => ?_
  rw [fate] at present
  cases present

-- Then it changes nothing for those who await the runs either, as long as every release came back.
theorem SameOutcomes.outcome? {r : RunKey} (same : m.SameOutcomes next) (orderly : Orderly m)
    (orderly' : Orderly next) (made : r < m.runs.size) : next.outcome? r = m.outcome? r := by
  have plain {n : Machine} (orderly : Orderly n) (made : r < n.runs.size) :
      n.outcome? r = (n.runs.get r).outcome := by
    obtain ⟨past, chronicle⟩ := orderly.reachable.chronicle
    have armed := chronicle.armed.mpr ⟨made, rfl⟩
    rw [chronicle.outcome?_orderly orderly armed, chronicle.verdict made]
  rw [plain orderly made, plain orderly' (same.1 ▸ made)]
  exact same.2 r made

theorem step_same_current {s : ScriptKey} (reached : Reachable m) (step : Step m move next reaction)
    (quiet : ∀ r canceled, (s, .armed r canceled) ∉ m.fate move) :
    (next.scripts.get s).run = (m.scripts.get s).run := by
  rcases rearmed_path (step_path reached.steady step) s with same | ⟨_, r, canceled, _, armed, _⟩
  · exact same.1
  · exact absurd armed (quiet r canceled)

theorem Runs.same_current {moves : List Move} {s : ScriptKey} (reached : Reachable m)
    (runs : Runs m moves next)
    (quiet : ∀ r canceled, (s, .armed r canceled) ∉ m.fates moves) :
    (next.scripts.get s).run = (m.scripts.get s).run := by
  induction runs with
  | nil => rfl
  | @cons m middle next move moves r step rest ih =>
    rw [fates_cons step] at quiet
    have later := ih (reached.step step) fun r canceled present =>
      quiet r canceled (List.mem_append_right _ present)
    exact later.trans (step_same_current reached step fun r canceled present =>
      quiet r canceled (List.mem_append_left _ present))

theorem result_fate {frame : Frame} {rest : List Frame} {s : ScriptKey} {wasStart : Bool}
    {code : Int32} (top : m.stack = frame :: rest) (call : frame.nativeCall? = some (s, wasStart)) :
    m.fate (.answer (.code code)) =
      [(s, .returned wasStart (CallResult.ofCode code) (m.tokenCanceled s))] := by
  simp only [fate, top]
  cases frame with
  | starting s' r =>
    cases call
    rfl
  | resuming s' who =>
    cases call
    rfl
  | _ => cases call

-- The result of a native call settles the run that is current when the call comes back, if it is
-- pending, and no other. Unless the script was started again meanwhile, that is the run that was
-- current when the call was made.
theorem result_settles_current {frame : Frame} {rest : List Frame} {s : ScriptKey} {wasStart : Bool}
    {code : Int32} (reached : Reachable m) (top : m.stack = frame :: rest)
    (call : frame.nativeCall? = some (s, wasStart))
    (step : Step m (.answer (.code code)) next reaction) :
    next.runs.size = m.runs.size ∧
    (∀ r, r < m.runs.size → (next.runs.get r).outcome =
      if (m.scripts.get s).run = some r then
        (m.runs.get r).outcome.or (Milestone.verdict (m.idOf s)
          (.returned wasStart (CallResult.ofCode code) (m.tokenCanceled s)))
      else (m.runs.get r).outcome) ∧
    (∀ made moves, Reachable made → Runs made moves m →
      (∀ r canceled, (s, .armed r canceled) ∉ made.fates moves) →
      (m.scripts.get s).run = (made.scripts.get s).run) := by
  have fate : m.fate (.answer (.code code)) =
      [(s, .returned wasStart (CallResult.ofCode code) (m.tokenCanceled s))] := result_fate top call
  refine ⟨?_, ?_, ?_⟩
  · refine step_runs_size reached step ?_
    intro event present
    rw [fate] at present
    cases List.mem_singleton.mp present
    rfl
  · intro r made
    exact step_judges reached step fate made
  · intro made moves reached' runs quiet
    exact runs.same_current reached' quiet

def startedInside : List Move :=
  [.invoke (.build {}), .invoke (.makeFiber ⟨1⟩ 0), .invoke (.register 0 0), .invoke (.start 0 none),
    .invoke (.setOrdinal 0 5), .invoke (.start 0 none), .answer (.code 1)]

set_option maxRecDepth 10000 in
-- The run that the second start armed fails by the first one's result, though that call was made
-- before the run was armed and nothing else touched it.
theorem outer_result_settles_inner_run :
    (after (startedInside.take 4)).runs.size = 1 ∧
      (after startedInside).stack = [.starting 0 0] ∧
      (after startedInside).outcome? 1 = none ∧
      (after (startedInside ++ [.answer (.code 0)])).outcome? 1 =
        some (.error (.scriptExecution "failed to start script")) := by
  refine ⟨by decide +kernel, by decide +kernel, ?_, ?_⟩
  · rfl
  · rfl

set_option maxRecDepth 10000 in
theorem result_settles_current_startedInside :
    ((after (startedInside ++ [.answer (.code 0)])).runs.get 1).outcome =
      some (.error (.scriptExecution "failed to start script")) := by
  have reached : Reachable (after startedInside) :=
    (runs_after (by decide +kernel)).reachable .initial
  have advanced : (after startedInside).advance? (.answer (.code 0)) =
      some (after (startedInside ++ [.answer (.code 0)])) := rfl
  obtain ⟨reaction, step⟩ := advance?_exact.mp advanced
  have top : (after startedInside).stack = [.starting 0 0] := by decide +kernel
  have call : (Frame.starting 0 0).nativeCall? = some (0, true) := rfl
  obtain ⟨_, settled, _⟩ := result_settles_current reached top call step
  have made : 1 < (after startedInside).runs.size := by decide +kernel
  have current : ((after startedInside).scripts.get 0).run = some 1 := by decide +kernel
  rw [settled 1 made, if_pos current]
  rfl

end Machine

end FiberBridge
