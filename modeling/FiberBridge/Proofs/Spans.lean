import FiberBridge.Proofs.Spares
import FiberBridge.Proofs.Runs

namespace FiberBridge

-- What is suspended above all that was suspended before is for others.
theorem Core.Spares.above {x : Part} {c d : Core} {frame : Frame} {rest : List Frame}
    (spares : c.Spares x d) (top : d.stack = frame :: rest) (above : c.stack <:+ rest) :
    Core.Apart x d.tasks frame := by
  obtain ⟨gone, news, below, before, after, _, apart⟩ := spares.stack
  rw [top] at after
  cases news with
  | nil =>
    have longer : c.stack.length ≤ rest.length := above.length_le
    rw [before, List.length_append] at longer
    have same : rest.length + 1 = below.length := congrArg List.length after
    omega
  | cons first others =>
    obtain ⟨rfl, _⟩ := List.cons.inj after
    exact apart frame List.mem_cons_self

namespace Machine

variable {x : Part} {m last : Machine} {moves : List Move} {reactions : List Reaction}
  {may : Machine → Op → Prop} {base : List Frame}

inductive Move.Stays (allowed : Op → Prop) (base stack : List Frame) : Move → Prop where
  | invoke {op : Op} (begins : allowed op) : Stays allowed base stack (.invoke op)
  | answer {frame : Frame} {rest : List Frame} {reply : Reply} (top : stack = frame :: rest)
      (above : base <:+ rest) : Stays allowed base stack (.answer reply)
  | unwind {frame : Frame} {rest : List Frame} {p : Panic} (top : stack = frame :: rest)
      (above : base <:+ rest) : Stays allowed base stack (.unwind p)

-- Moves that stay above `base`, and what they come to.
inductive Spans (may : Machine → Op → Prop) (base : List Frame) :
    Machine → List Move → List Reaction → Machine → Prop where
  | nil {m : Machine} : Spans may base m [] [] m
  | cons {m middle last : Machine} {move : Move} {moves : List Move} {r : Reaction}
      {reactions : List Reaction} (step : Step m move middle r)
      (stays : move.Stays (may m) base m.stack) (rest : Spans may base middle moves reactions last) :
      Spans may base m (move :: moves) (r :: reactions) last

theorem Spans.runs (spans : Spans may base m moves reactions last) : Runs m moves last := by
  induction spans with
  | nil => exact .nil
  | cons step stays rest ih => exact .cons step ih

theorem Spans.reachable (spans : Spans may base m moves reactions last) (reached : Reachable m) :
    Reachable last := spans.runs.reachable reached

theorem Move.Stays.spares {c : Core} {next : Machine} {move : Move} {r : Reaction}
    (reached : Reachable m) (stays : move.Stays (may m) c.stack m.stack)
    (step : Step m move next r) (proper : Core.Proper x c.scripts c.fibers)
    (spares : c.Spares x m.core) (misses : ∀ op, may m op → m.Admits op → m.Misses x op) :
    c.Spares x next.core := by
  have skips : m.Skips x move := by
    cases stays with
    | @invoke op begins => exact misses op begins step.invoked.1
    | @answer frame rest reply top above | @unwind frame rest p top above =>
      intro first head
      rw [top] at head
      cases head
      exact spares.above top above
  exact spares.trans (skips.spares reached (spares.proper proper) step)

theorem Spans.spares {c : Core} (reached : Reachable m)
    (spans : Spans may c.stack m moves reactions last) (proper : Core.Proper x c.scripts c.fibers)
    (spares : c.Spares x m.core)
    (misses : ∀ (n : Machine) op, Reachable n → c.Spares x n.core → may n op → n.Admits op →
      n.Misses x op) : c.Spares x last.core := by
  generalize same : c.stack = base at spans
  induction spans with
  | nil => exact spares
  | cons step stays rest ih =>
    subst same
    have now := stays.spares reached step proper spares (misses _ · reached spares)
    exact ih (reached.step step) now

end Machine

end FiberBridge
