import FiberBridge.Proofs.Dispatch

namespace FiberBridge

structure Raised where
  bridge : BridgeKey
  id : ScriptId
  description : String
  origin : Origin

def Raised.error (c : Raised) : BridgeError := .scriptExecution c.description

def Raised.astray (c : Raised) : BridgeError := .unrouteable c.id c.description

inductive Addressee where
  | run (s : ScriptKey) (r : RunKey)
  | idle (s : ScriptKey)
  | nobody

namespace Machine

variable {m next : Machine} {c : Raised} {reaction : Reaction}

def raised? (m : Machine) : Op → Option Raised
  | .error b id description => some ⟨b, id, description, .host⟩
  | .errorUpcall id description =>
    (m.target.filter m.bridgeAlive).map fun b =>
      ⟨b, id, nativeText description, .upcall .error id⟩
  | _ => none

def IsFor (m : Machine) (c : Raised) : Addressee → Prop
  | .run s r =>
    Registered m c.bridge c.id s ∧ (m.scripts.get s).run = some r ∧ m.isSettled r = false
  | .idle s =>
    Registered m c.bridge c.id s ∧ ∀ r, (m.scripts.get s).run = some r → m.isSettled r = true
  | .nobody => ∀ s, ¬ Registered m c.bridge c.id s

-- What comes of it until control goes back or to the error handler.
def Heard (m : Machine) (c : Raised) (next : Machine) (reaction : Reaction) : Addressee → Prop
  | .run s r =>
    m.outcome? r = none ∧ next.outcome? r = some (.error c.error) ∧
      next.runs.size = m.runs.size ∧
      (∀ r', r' < m.runs.size → r' ≠ r → (next.runs.get r').outcome = (m.runs.get r').outcome) ∧
      next.acts = .deed (.marked s (.failed c.error)) :: m.acts ∧ reaction.call? = none
  | .idle s =>
    m.SameOutcomes next ∧ next.acts = .deed (.marked s (.failed c.error)) :: m.acts ∧
      reaction.call? = none
  | .nobody =>
    m.SameOutcomes next ∧ next.acts = m.delivery c.bridge c.astray :: m.acts ∧
      reaction.call? = match (m.bridges.get c.bridge).error with
        | .builtIn => none
        | .host h => some (.error h c.astray)

theorem raised_turn {op : Op} (raised : m.raised? op = some c) :
    m.turn (.invoke op) = m.raiseTurn c.bridge c.id c.description c.origin ∧
      m.fate (.invoke op) = m.raiseFate c.bridge c.id c.description := by
  cases op with
  | error b id description =>
    cases raised
    exact ⟨rfl, rfl⟩
  | errorUpcall id description =>
    obtain ⟨b, target, rfl⟩ := Option.map_eq_some_iff.mp raised
    simp only [turn, opTurn, fate, opFate, target, and_self]
  | _ => cases raised

theorem isFor_unique {one other : Addressee} (reached : Reachable m) (first : m.IsFor c one)
    (second : m.IsFor c other) : one = other := by
  have same {s s' : ScriptKey} (left : Registered m c.bridge c.id s)
      (right : Registered m c.bridge c.id s') : s = s' := registered_unique reached left right
  cases one with
  | run s r =>
    obtain ⟨registered, current, pending⟩ := first
    cases other with
    | run s' r' =>
      obtain rfl := same registered second.1
      rw [Option.some.inj (current.symm.trans second.2.1)]
    | idle s' =>
      obtain rfl := same registered second.1
      exact absurd (second.2 r current) (by simp [pending])
    | nobody => exact absurd registered (second s)
  | idle s =>
    obtain ⟨registered, settled⟩ := first
    cases other with
    | run s' r' =>
      obtain rfl := same registered second.1
      exact absurd (settled r' second.2.1) (by simp [second.2.2])
    | idle s' => rw [same registered second.1]
    | nobody => exact absurd registered (second s)
  | nobody =>
    cases other with
    | run s r => exact absurd second.1 (first s)
    | idle s => exact absurd second.1 (first s)
    | nobody => rfl

theorem isFor_someone (reached : Reachable m) (c : Raised) : ∃ who, m.IsFor c who := by
  cases found : m.find? c.bridge c.id with
  | none =>
    refine ⟨.nobody, fun s registered => ?_⟩
    rw [(find?_iff_registered reached).mpr registered] at found
    cases found
  | some s =>
    have registered := (find?_iff_registered reached).mp found
    cases current : (m.scripts.get s).run with
    | none =>
      refine ⟨.idle s, registered, fun r bad => ?_⟩
      rw [current] at bad
      cases bad
    | some r =>
      cases settled : m.isSettled r with
      | false => exact ⟨.run s r, registered, current, settled⟩
      | true =>
        refine ⟨.idle s, registered, fun r' current' => ?_⟩
        rw [current] at current'
        cases current'
        exact settled

theorem registered_hears {op : Op} {s : ScriptKey} (reached : Reachable m)
    (raised : m.raised? op = some c) (registered : Registered m c.bridge c.id s)
    (step : Step m (.invoke op) next reaction) :
    next.acts = .deed (.marked s (.failed c.error)) :: m.acts ∧ reaction.call? = none ∧
      next.runs.size = m.runs.size ∧
      ∀ r, r < m.runs.size → (next.runs.get r).outcome =
        if (m.scripts.get s).run = some r then (m.runs.get r).outcome.or (some (.error c.error))
        else (m.runs.get r).outcome := by
  have found := (find?_iff_registered reached).mpr registered
  obtain ⟨turn, fate⟩ := raised_turn raised
  have takes := step_takes step
  rw [turn] at takes
  simp only [raiseTurn, found] at takes
  simp only [raiseFate, found] at fate
  refine ⟨takes.acts, takes.call, ?_, fun r made => step_judges reached step fate made⟩
  refine step_runs_size reached step fun event present => ?_
  rw [fate] at present
  cases List.mem_singleton.mp present
  rfl

theorem heard (reached : Reachable m) {op : Op} (raised : m.raised? op = some c)
    (step : Step m (.invoke op) next reaction) {who : Addressee} (isFor : m.IsFor c who) :
    m.Heard c next reaction who := by
  cases who with
  | run s r =>
    obtain ⟨registered, current, pending⟩ := isFor
    obtain ⟨acts, call, size, settled⟩ := registered_hears reached raised registered step
    have made := reached.linked.current s r current
    have unsettled : (m.runs.get r).outcome = none := by simpa [isSettled] using pending
    have kept := (reached.linked.abandoned r made.1 unsettled).trans
      ((congrArg (fun s => (m.scripts.get s).freed) made.2).trans
        (reached.steady.find?_open ((find?_iff_registered reached).mpr registered)).kept)
    refine ⟨?_, ?_, size, fun r' made' other => ?_, acts, call⟩
    · simp only [outcome?, unsettled]
      exact if_neg (by simpa using kept)
    · have outcome := settled r made.1
      rw [if_pos current, unsettled] at outcome
      simp only [outcome?, outcome, Option.none_or]
    · rw [settled r' made', if_neg]
      rw [current]
      exact fun same => other (Option.some.inj same).symm
  | idle s =>
    obtain ⟨registered, ended⟩ := isFor
    obtain ⟨acts, call, size, settled⟩ := registered_hears reached raised registered step
    refine ⟨⟨size, fun r made => ?_⟩, acts, call⟩
    rw [settled r made]
    split
    · rename_i current
      obtain ⟨o, outcome⟩ := Option.isSome_iff_exists.mp (ended r current)
      rw [outcome, Option.some_or]
    · rfl
  | nobody =>
    have missing : m.find? c.bridge c.id = none :=
      Option.eq_none_iff_forall_ne_some.mpr fun s found =>
        isFor s ((find?_iff_registered reached).mp found)
    obtain ⟨turn, fate⟩ := raised_turn raised
    have takes := step_takes step
    rw [turn] at takes
    simp only [raiseTurn, missing] at takes
    simp only [raiseFate, missing] at fate
    refine ⟨step_same_outcomes reached step fate, ?_, ?_⟩
    · rw [takes.acts, deliverTurn_acts]
      rfl
    · rw [takes.call]
      unfold deliverTurn Raised.astray
      cases (m.bridges.get c.bridge).error <;> rfl

def Unheard (m : Machine) (b : BridgeKey) (next : Machine) : Prop :=
  m.SameOutcomes next ∧
    ∀ e, next.acts.count (m.delivery b e) = m.acts.count (m.delivery b e)

theorem delivery_ne_marked {b : BridgeKey} {e : BridgeError} {s : ScriptKey} {x : Milestone} :
    Act.deed (.marked s x) ≠ m.delivery b e := by
  unfold delivery
  cases (m.bridges.get b).error with
  | builtIn => exact fun bad => nomatch bad
  | host h => exact fun bad => nomatch bad

theorem unheard_iff_idle {who : Addressee} (made : ∀ s r, (m.scripts.get s).run = some r →
    r < m.runs.size) (isFor : m.IsFor c who) (heard : m.Heard c next reaction who) :
    m.Unheard c.bridge next ↔ ∃ s, who = .idle s := by
  cases who with
  | run s r =>
    obtain ⟨_, current, pending⟩ := isFor
    refine ⟨fun unheard => ?_, fun bad => nomatch bad⟩
    have unsettled : (m.runs.get r).outcome = none := by simpa [isSettled] using pending
    have unchanged := unheard.1.2 r (made s r current)
    have settled := heard.2.1
    rw [unsettled] at unchanged
    simp only [outcome?, unchanged] at settled
    split at settled
    · cases settled
    · cases settled
  | idle s =>
    refine ⟨fun _ => ⟨s, rfl⟩, fun _ => ⟨heard.1, fun e => ?_⟩⟩
    rw [heard.2.1, List.count_cons_of_ne delivery_ne_marked]
  | nobody =>
    refine ⟨fun unheard => ?_, fun bad => nomatch bad⟩
    have counted := unheard.2 c.astray
    rw [heard.2.1, List.count_cons_self] at counted
    omega

-- Every error has exactly one addressee. A pending run is settled with it and the handler is not told;
-- with no live script the handler is told, once. Nobody hears of it exactly if a live script has the id
-- and no pending run. When a handler that was told is done, nothing more comes of it.
theorem error_exact {op : Op} (reached : Reachable m) (raised : m.raised? op = some c)
    (step : Step m (.invoke op) next reaction) :
    (∃ who, m.IsFor c who ∧ m.Heard c next reaction who ∧
      ∀ other, m.IsFor c other → other = who) ∧
    (m.Unheard c.bridge next ↔ ∃ s, m.IsFor c (.idle s)) ∧
    (∀ later move last reaction' b told origin kept rest, Reachable later →
      later.stack = .reporting b told origin kept :: rest → (∀ op, move ≠ .invoke op) →
      Step later move last reaction' →
      last.acts = later.acts ∧ reaction'.call? = none ∧ last.stack = rest ∧
        later.SameOutcomes last) := by
  obtain ⟨who, isFor⟩ := isFor_someone reached c
  have heard := heard reached raised step isFor
  refine ⟨⟨who, isFor, heard, fun other also => isFor_unique reached also isFor⟩, ?_, ?_⟩
  · rw [unheard_iff_idle (fun s r current => (reached.linked.current s r current).1) isFor heard]
    constructor
    · rintro ⟨s, rfl⟩
      exact ⟨s, isFor⟩
    · rintro ⟨s, idle⟩
      exact ⟨s, isFor_unique reached isFor idle⟩
  · intro later move last reaction' b told origin kept rest reached' top ends ended
    exact report_over reached' top ends ended

def neverStarted : List Move :=
  [.invoke (.build { error := .host 0 }), .invoke (.makeFiber ⟨1⟩ 0), .invoke (.register 0 0)]

set_option maxRecDepth 10000 in
-- The error that is then raised for it settles no run, since there is none, and reaches no handler.
theorem error_before_start_lost :
    (after neverStarted).find? 0 ⟨1⟩ = some 0 ∧
      (after (neverStarted ++ [.invoke (.error 0 ⟨1⟩ "boom")])).runs.size = 0 ∧
      (after (neverStarted ++ [.invoke (.error 0 ⟨1⟩ "boom")])).acts =
        [.deed (.marked 0 (.failed (.scriptExecution "boom")))] := by
  refine ⟨by decide +kernel, by decide +kernel, by decide +kernel⟩

def suspendedOnce : List Move :=
  neverStarted ++ [.invoke (.start 0 none), .answer (.code 1)]

set_option maxRecDepth 10000 in
theorem error_exact_suspendedOnce :
    (after (suspendedOnce ++ [.invoke (.error 0 ⟨1⟩ "boom")])).outcome? 0 =
      some (.error (.scriptExecution "boom")) := by
  have reached : Reachable (after suspendedOnce) :=
    (runs_after (by decide +kernel)).reachable .initial
  have advanced : (after suspendedOnce).advance? (.invoke (.error 0 ⟨1⟩ "boom")) =
      some (after (suspendedOnce ++ [.invoke (.error 0 ⟨1⟩ "boom")])) := rfl
  obtain ⟨reaction, step⟩ := advance?_exact.mp advanced
  let c : Raised := ⟨0, ⟨1⟩, "boom", .host⟩
  have raised : (after suspendedOnce).raised? (.error 0 ⟨1⟩ "boom") = some c := rfl
  have isFor : (after suspendedOnce).IsFor c (.run 0 0) :=
    ⟨(find?_iff_registered reached).mp (by decide +kernel), by decide +kernel, by decide +kernel⟩
  obtain ⟨⟨who, _, heard, only⟩, _⟩ := error_exact reached raised step
  obtain rfl := only _ isFor
  exact heard.2.1

end Machine

end FiberBridge
