import FiberBridge.Machine.Step

namespace FiberBridge

-- It happens within the program, and no code of the host or of the native side runs.
def Event.inner : Event → Bool
  | .told _ _ => true
  | .script _ _ => true
  | .called _ _ => false
  | .read _ _ => false
  | .native _ => false

-- A look at a fiber, or a call to the native side that comes back at once.
def Event.glances : Event → Bool
  | .read _ _ => true
  | .native _ => true
  | _ => false

namespace Machine

variable {m n k : Machine}

-- No lock is taken or given back from `m` to `n`, and nothing outside is called or looked at.
structure Still (m n : Machine) : Prop where
  held : n.held = m.held
  deadlocked : n.deadlocked = m.deadlocked
  events : ∃ news, n.events = news ++ m.events ∧ ∀ e ∈ news, e.inner = true

namespace Still

theorem of (held : n.held = m.held) (deadlocked : n.deadlocked = m.deadlocked)
    (events : n.events = m.events) : m.Still n :=
  ⟨held, deadlocked, [], events, List.forall_mem_nil _⟩

theorem refl : m.Still m := of rfl rfl rfl

theorem trans (left : m.Still n) (right : n.Still k) : m.Still k := by
  obtain ⟨news, earlier, inner⟩ := left.events
  obtain ⟨news', later, inner'⟩ := right.events
  refine ⟨right.held.trans left.held, right.deadlocked.trans left.deadlocked, news' ++ news, ?_, ?_⟩
  · rw [later, earlier, List.append_assoc]
  · intro e present
    exact (List.mem_append.mp present).elim (inner' e) (inner e)

theorem log (still : m.Still n) {e : Event} (inner : e.inner = true) : m.Still (n.log e) :=
  still.trans ⟨rfl, rfl, [e], rfl, fun _ present => List.mem_singleton.mp present ▸ inner⟩

theorem tell (still : m.Still n) {d : Diagnostic} : m.Still (n.tell d) := still.log rfl

end Still

-- From `m` to `n` by critical sections one after another. Calls and looks are made between them only.
inductive Sections (m : Machine) : Machine → Prop where
  | start : Sections m m
  | quiet {n k : Machine} : Sections m n → n.Still k → Sections m k
  | guarded {n k : Machine} {l : Lock} : Sections m n → (n.lock l).Still k → Sections m (k.unlock l)
  | asked {n : Machine} {q : HostCall} {frame : Frame} : Sections m n → Sections m (n.ask q frame).1
  | glanced {n : Machine} {e : Event} (glances : e.glances = true) :
      Sections m n → Sections m (n.log e)

namespace Sections

theorem trans (left : m.Sections n) (right : n.Sections k) : m.Sections k := by
  induction right with
  | start => exact left
  | quiet _ still ih => exact ih.quiet still
  | guarded _ still ih => exact ih.guarded still
  | asked _ ih => exact ih.asked
  | glanced glances _ ih => exact ih.glanced glances

theorem tell (row : m.Sections n) {d : Diagnostic} : m.Sections (n.tell d) :=
  row.quiet Still.refl.tell

theorem alter (row : m.Sections n) (held : k.held = n.held) (deadlocked : k.deadlocked = n.deadlocked)
    (events : k.events = n.events) : m.Sections k := row.quiet (.of held deadlocked events)

theorem free (row : m.Sections n) (held : m.held = []) (deadlocked : m.deadlocked = false)
    (calls : ∀ q locks, .called q locks ∈ m.events → locks = []) :
    n.held = [] ∧ n.deadlocked = false ∧ ∀ q locks, .called q locks ∈ n.events → locks = [] := by
  induction row with
  | start => exact ⟨held, deadlocked, calls⟩
  | quiet _ still ih =>
    obtain ⟨free, live, clean⟩ := ih
    obtain ⟨news, events, inner⟩ := still.events
    refine ⟨still.held.trans free, still.deadlocked.trans live, ?_⟩
    intro q locks present
    rw [events] at present
    rcases List.mem_append.mp present with new | old
    · cases inner _ new
    · exact clean q locks old
  | @guarded n k l _ still ih =>
    obtain ⟨free, live, clean⟩ := ih
    obtain ⟨news, events, inner⟩ := still.events
    have alone : k.held = [l] := by
      rw [still.held]
      exact congrArg (l :: ·) free
    refine ⟨?_, ?_, ?_⟩
    · show k.held.erase l = []
      rw [alone]
      exact List.erase_cons_head ..
    · show k.deadlocked = false
      rw [still.deadlocked]
      show (n.deadlocked || n.held.contains l) = false
      rw [live, free]
      rfl
    · intro q locks present
      have present : .called q locks ∈ k.events := present
      rw [events] at present
      rcases List.mem_append.mp present with new | old
      · cases inner _ new
      · exact clean q locks old
  | @asked n q frame _ ih =>
    obtain ⟨free, live, clean⟩ := ih
    refine ⟨free, live, ?_⟩
    intro q' locks present
    rcases List.mem_cons.mp present with new | old
    · cases new
      exact free
    · exact clean q' locks old
  | @glanced n e glances _ ih =>
    obtain ⟨free, live, clean⟩ := ih
    refine ⟨free, live, ?_⟩
    intro q locks present
    rcases List.mem_cons.mp present with new | old
    · rw [← new] at glances
      cases glances
    · exact clean q locks old

end Sections

end Machine

end FiberBridge
