import FiberBridge.Proofs.Steps

namespace FiberBridge

instance decideExcept {ε α : Type} [DecidableEq ε] [DecidableEq α] : DecidableEq (Except ε α)
  | .ok a, .ok b => decidable_of_iff (a = b) (Except.ok.injEq a b ▸ Iff.rfl)
  | .error e, .error e' => decidable_of_iff (e = e') (Except.error.injEq e e' ▸ Iff.rfl)
  | .ok _, .error _ => isFalse nofun
  | .error _, .ok _ => isFalse nofun

namespace Machine

variable {m next : Machine}

theorem Reachable.steady (reached : Reachable m) : Steady m.core := by
  induction reached with
  | initial => exact initial_steady
  | step prior step ih => exact ih.path (step_path ih step)

-- Every release that was begun came back, or is still on the stack.
inductive Orderly : Machine → Prop where
  | initial : Orderly initial
  | step {m next : Machine} {move : Move} {r : Reaction} :
      Orderly m → Step m move next r → (∀ s, ¬ (m.power move).loses s) → Orderly next

theorem Orderly.reachable (orderly : Orderly m) : Reachable m := by
  induction orderly with
  | initial => exact .initial
  | step prior step whole ih => exact .step ih step

-- A state, and what its moves decided about scripts, oldest first.
inductive Chronicle : Machine → List (ScriptKey × Milestone) → Prop where
  | initial : Chronicle initial []
  | step {m next : Machine} {past : List (ScriptKey × Milestone)} {move : Move} {r : Reaction} :
      Chronicle m past → Step m move next r → Chronicle next (past ++ m.fate move)

theorem Chronicle.reachable {past : List (ScriptKey × Milestone)} (chronicle : Chronicle m past) :
    Reachable m := by
  induction chronicle with
  | initial => exact .initial
  | step prior step ih => exact .step ih step

theorem Reachable.chronicle (reached : Reachable m) : ∃ past, Chronicle m past := by
  induction reached with
  | initial => exact ⟨[], .initial⟩
  | step prior step ih =>
    obtain ⟨past, chronicle⟩ := ih
    exact ⟨_, chronicle.step step⟩

theorem Reachable.preserves (holds : Core → Prop) (start : holds Machine.initial.core)
    (change : ∀ {power : Power} {c d : Core} {l : List (ScriptKey × Milestone)},
      Steady c → holds c → Change power c l d → holds d)
    (reached : Reachable m) : holds m.core := by
  induction reached with
  | initial => exact start
  | step prior step ih =>
    have both := (step_path prior.steady step).preserves (fun c => Steady c ∧ holds c)
      (fun both one => ⟨both.1.change one, change both.1 both.2 one⟩) ⟨prior.steady, ih⟩
    exact both.2

inductive Runs : Machine → List Move → Machine → Prop where
  | nil {m : Machine} : Runs m [] m
  | cons {m middle next : Machine} {move : Move} {moves : List Move} {r : Reaction} :
      Step m move middle r → Runs middle moves next → Runs m (move :: moves) next

theorem Runs.reachable {moves : List Move} (runs : Runs m moves next) (reached : Reachable m) :
    Reachable next := by
  induction runs with
  | nil => exact reached
  | cons step rest ih => exact ih (reached.step step)

theorem Runs.single {move : Move} (runs : Runs m [move] next) : ∃ r, Step m move next r := by
  cases runs with
  | cons step rest =>
    cases rest
    exact ⟨_, step⟩

theorem Runs.orderly {moves : List Move} (runs : Runs m moves next) (orderly : Orderly m)
    (whole : ∀ p, .unwind p ∉ moves) : Orderly next := by
  induction runs with
  | nil => exact orderly
  | @cons m middle next move moves r step rest ih =>
    refine ih (orderly.step step ?_) fun p present => whole p (List.mem_cons_of_mem _ present)
    rintro s ⟨p, dropped, rest, rfl, _⟩
    exact whole p List.mem_cons_self

instance admits (m : Machine) : (op : Op) → Decidable (m.Admits op)
  | .cloneBridge b | .dropBridge b | .setLog b _ | .setError b _ | .report b _ | .lookup b _
  | .count b | .command b .. | .error b .. | .install b =>
    inferInstanceAs (Decidable (m.bridgeAlive b = true))
  | .register b f =>
    inferInstanceAs (Decidable
      (m.bridgeAlive b = true ∧ (m.fibers.get f).held = true ∧ f < m.fibers.size))
  | .start s _ | .dispose s | .resume s true =>
    inferInstanceAs (Decidable ((m.scripts.get s).owned = true))
  | .resume s false | .dropRef s => inferInstanceAs (Decidable (0 < (m.scripts.get s).refs))
  | .status s | .describe s | .fail s _ | .makeRef s | .decode s .. =>
    inferInstanceAs (Decidable (m.scriptHeld s = true))
  | .dropHandle s =>
    inferInstanceAs (Decidable
      ((m.scripts.get s).owned = true ∧ ¬ m.stack.any (Frame.borrowsHandle s) = true))
  | .dropRun r => inferInstanceAs (Decidable ((m.runs.get r).awaited = true ∧ r < m.runs.size))
  | .pollTask t => inferInstanceAs (Decidable (¬ m.running t ∧ t < m.tasks.size))
  | .dropContext c | .compile c .. => inferInstanceAs (Decidable ((m.contexts.get c).held = true))
  | .advanceClock c _ | .dropClock c =>
    inferInstanceAs (Decidable ((m.clocks.get c).held = true))
  | .dropFiber f => inferInstanceAs (Decidable ((m.fibers.get f).held = true))
  | .commandUpcall .. | .errorUpcall .. => inferInstanceAs (Decidable (m.callbacks = true))
  | .build _ | .makeFiber .. | .setOrdinal .. | .cancel _ | .makeClock
  | .complete _ | .elapse _ | .newContext _ | .uninstall => isTrue trivial

def advance? (m : Machine) : Move → Option Machine
  | .invoke op => if m.Admits op then some (m.invoke op).1 else none
  | .answer reply => (m.answer? reply).map Prod.fst
  | .unwind p => (m.unwind? p).map Prod.fst

theorem advance?_exact {move : Move} : m.advance? move = some next ↔ ∃ r, Step m move next r := by
  constructor
  · intro advanced
    cases move with
    | invoke op =>
      simp only [advance?] at advanced
      split at advanced
      · rename_i admitted
        cases advanced
        exact ⟨_, .invoke admitted rfl⟩
      · cases advanced
    | answer reply =>
      obtain ⟨⟨after, r⟩, ran, rfl⟩ := Option.map_eq_some_iff.mp advanced
      exact ⟨r, .answer ran⟩
    | unwind p =>
      obtain ⟨⟨after, r⟩, ran, rfl⟩ := Option.map_eq_some_iff.mp advanced
      exact ⟨r, .unwind ran⟩
  · rintro ⟨r, step⟩
    cases step with
    | invoke admitted ran => simp only [advance?, if_pos admitted, ran]
    | answer ran => simp only [advance?, ran, Option.map_some]
    | unwind ran => simp only [advance?, ran, Option.map_some]

def run? : Machine → List Move → Option Machine
  | m, [] => some m
  | m, move :: moves => (m.advance? move).bind (run? · moves)

theorem run?_exact {moves : List Move} : m.run? moves = some next ↔ Runs m moves next := by
  induction moves generalizing m with
  | nil =>
    constructor
    · intro ran
      cases ran
      exact .nil
    · intro runs
      cases runs
      rfl
  | cons move moves ih =>
    constructor
    · intro ran
      obtain ⟨middle, advanced, rest⟩ := Option.bind_eq_some_iff.mp ran
      obtain ⟨r, step⟩ := advance?_exact.mp advanced
      exact .cons step (ih.mp rest)
    · intro runs
      cases runs with
      | cons step rest =>
        have advanced := advance?_exact.mpr ⟨_, step⟩
        exact Option.bind_eq_some_iff.mpr ⟨_, advanced, ih.mpr rest⟩

def fates : Machine → List Move → List (ScriptKey × Milestone)
  | _, [] => []
  | m, move :: moves =>
    m.fate move ++ match m.advance? move with
      | some next => next.fates moves
      | none => []

theorem fates_cons {move : Move} {moves : List Move} {r : Reaction} (step : Step m move next r) :
    m.fates (move :: moves) = m.fate move ++ next.fates moves := by
  simp only [fates, advance?_exact.mpr ⟨r, step⟩]

theorem Runs.chronicle {moves : List Move} {past : List (ScriptKey × Milestone)}
    (runs : Runs m moves next) (chronicle : Chronicle m past) :
    Chronicle next (past ++ m.fates moves) := by
  induction runs generalizing past with
  | nil => simpa only [fates, List.append_nil] using chronicle
  | @cons m middle next move moves r step rest ih =>
    rw [fates_cons step, ← List.append_assoc]
    exact ih (chronicle.step step)

def after (moves : List Move) : Machine := (initial.run? moves).getD initial

theorem runs_after {moves : List Move} (ran : (initial.run? moves).isSome) :
    Runs initial moves (after moves) := by
  obtain ⟨last, found⟩ := Option.isSome_iff_exists.mp ran
  unfold after
  rw [found]
  exact run?_exact.mp found

theorem run?_append {m : Machine} {earlier later : List Move} :
    m.run? (earlier ++ later) = (m.run? earlier).bind (run? · later) := by
  induction earlier generalizing m with
  | nil => rfl
  | cons move moves ih =>
    simp only [List.cons_append, run?]
    cases m.advance? move with
    | none => rfl
    | some next => exact ih

theorem runs_onward {earlier later : List Move} (ran : (initial.run? (earlier ++ later)).isSome) :
    Runs (after earlier) later (after (earlier ++ later)) := by
  obtain ⟨last, found⟩ := Option.isSome_iff_exists.mp ran
  rw [run?_append] at found
  obtain ⟨middle, first, rest⟩ := Option.bind_eq_some_iff.mp found
  unfold after
  rw [run?_append, first, Option.getD_some, Option.bind_some, rest, Option.getD_some]
  exact run?_exact.mp rest

theorem step_onward (earlier : List Move) (move : Move)
    (ran : (initial.run? (earlier ++ [move])).isSome) :
    ∃ r, Step (after earlier) move (after (earlier ++ [move])) r :=
  (runs_onward ran).single

end Machine

end FiberBridge
