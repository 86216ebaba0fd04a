import FiberBridge.Proofs.Labels
import FiberBridge.Proofs.Lookup
import FiberBridge.Proofs.Mirrored
import FiberBridge.Proofs.Bystanders

namespace FiberBridge

open Machine

variable {m n : Machine} {id : ScriptId} {tokens : TokenKey → Prop}

def Renaming.past (m n : Machine) : Renaming where
  script s := if s < m.scripts.size then s else s + (n.scripts.size - m.scripts.size)
  fiber f := if f < m.fibers.size then f else f + (n.fibers.size - m.fibers.size)
  run r := if r < m.runs.size then r else r + (n.runs.size - m.runs.size)
  task t := if t < m.tasks.size then t else t + (n.tasks.size - m.tasks.size)

-- What is under the id in `m`, or is made later, while others have brought `m` to `n`.
def Mirror.between (reached : Reachable m) (n : Machine) (id : ScriptId) (tokens : TokenKey → Prop) :
    Mirror where
  id
  scripts := {
    mine s := m.scripts.size ≤ s ∨ m.idOf s = id
    first := m.scripts.size
    gap := n.scripts.size - m.scripts.size
    fresh _ := .inl }
  fibers := {
    mine f := m.fibers.size ≤ f ∨ (m.fibers.get f).id = id
    first := m.fibers.size
    gap := n.fibers.size - m.fibers.size
    fresh _ := .inl }
  runs := {
    mine r := m.runs.size ≤ r ∨ (m.runs.get r).id = id
    first := m.runs.size
    gap := n.runs.size - m.runs.size
    fresh _ := .inl }
  tasks := {
    mine t := m.tasks.size ≤ t ∨ m.scripts.size ≤ (m.tasks.get t).script ∨
      m.idOf (m.tasks.get t).script = id
    first := m.tasks.size
    gap := n.tasks.size - m.tasks.size
    fresh _ := .inl }
  obeys := tokens
  base := m.stack
  old _ present _ holds := (reached.steady.holds_open (.frame present holds)).made
  oldTasks _ present _ works := (reached.steady.works present works).1

structure Aside (id : ScriptId) (m n : Machine) : Prop where
  reached : Reachable m
  later : Reachable n
  -- Where there is a script, numbers that were never given out read as that of something that is there.
  present : 0 < m.scripts.size
  spares : m.core.Spares (Part.under m id) n.core

namespace Renaming

variable {s : ScriptKey} {f : FiberKey} {r : RunKey}

theorem past_script (made : s < m.scripts.size) : (past m n).script s = s := if_pos made
theorem past_fiber (made : f < m.fibers.size) : (past m n).fiber f = f := if_pos made
theorem past_run (made : r < m.runs.size) : (past m n).run r = r := if_pos made

theorem past_ofScript (reached : Reachable m) (made : s < m.scripts.size) :
    (past m n).ofScript (m.scripts.get s) = m.scripts.get s := by
  have run : (m.scripts.get s).run.map (past m n).run = (m.scripts.get s).run := by
    cases current : (m.scripts.get s).run with
    | none => rfl
    | some r => exact congrArg some (past_run (reached.linked.current s r current).1)
  have fiber : (past m n).fiber (m.scripts.get s).fiber = (m.scripts.get s).fiber :=
    past_fiber (reached.labeled.fiber s made).1
  unfold ofScript
  rw [fiber, run]

theorem past_ofRun (reached : Reachable m) (made : r < m.runs.size) :
    (past m n).ofRun (m.runs.get r) = m.runs.get r := by
  have script : (past m n).script (m.runs.get r).script = (m.runs.get r).script :=
    past_script (reached.linked.named r made).1
  unfold ofRun
  rw [script]

theorem past_ofDeed {deed : Deed} (made : f < m.fibers.size) (touched : deed.touches f) :
    (past m n).ofDeed deed = deed := by
  cases deed with
  | called q =>
    cases q with
    | start f' =>
      obtain rfl : f' = f := by simpa [Deed.touches] using touched
      simp only [ofDeed, ofCall, past_fiber made]
    | resume f' =>
      obtain rfl : f' = f := by simpa [Deed.touches] using touched
      simp only [ofDeed, ofCall, past_fiber made]
    | dispose f' =>
      obtain rfl : f' = f := by simpa [Deed.touches] using touched
      simp only [ofDeed, ofCall, past_fiber made]
    | _ => cases touched
  | read f' ordinal =>
    obtain rfl : f' = f := by simpa [Deed.touches] using touched
    simp only [ofDeed, past_fiber made]
  | marked s x => cases touched

end Renaming

namespace Aside

variable (aside : Aside id m n)

include aside

theorem presentFiber : 0 < m.fibers.size :=
  Nat.zero_lt_of_lt (aside.reached.labeled.fiber 0 aside.present).1

theorem workOf (t : TaskKey) : (m.tasks.get t).script < m.scripts.size :=
  (aside.reached.labeled.task t).elim (fun made => made) fun first => first.symm ▸ aside.present

theorem workOf_later (t : TaskKey) : (n.tasks.get t).script < n.scripts.size := by
  have present : 0 < n.scripts.size := Nat.lt_of_lt_of_le aside.present aside.spares.moreScripts
  exact (aside.later.labeled.task t).elim (fun made => made) fun first => first.symm ▸ present

theorem scripts : m.scripts.Follows (Mirror.between aside.reached n id tokens).scripts
    (Renaming.past m n).ofScript (Mirror.between aside.reached n id tokens).Strange
    (Mirror.between aside.reached n id tokens).Foreign n.scripts := by
  have reached := aside.reached
  refine .start rfl (Nat.add_sub_cancel' aside.spares.moreScripts).symm ?_ ?_ ?_ ?_
  · exact congrArg (fun f => { (default : Script) with fiber := f }) (Renaming.past_fiber aside.presentFiber)
  · intro s made mine
    have named : m.idOf s = id := mine.resolve_left (Nat.not_le_of_lt made)
    exact (aside.spares.scripts s ⟨made, named⟩).trans (Renaming.past_ofScript reached made).symm
  · intro s made other
    have apart : m.idOf s ≠ id := fun named => other (.inr named)
    obtain ⟨inside, own⟩ := reached.labeled.fiber s made
    refine ⟨apart, ?_, ?_⟩
    · rintro (new | named)
      · exact Nat.not_lt_of_le new inside
      · exact apart (own.symm.trans named)
    · intro r current
      obtain ⟨armed, script⟩ := reached.linked.current s r current
      have own := (reached.linked.named r armed).2
      rw [script] at own
      rintro (new | named)
      · exact Nat.not_lt_of_le new armed
      · exact apart (own.symm.trans named)
  · intro s made other
    have other : ¬ (Part.under m id).script s := fun mine => other ⟨mine.1, .inr mine.2⟩
    obtain ⟨apart, unnamed⟩ :=
      (aside.spares.proper (Part.under_proper reached id)).others s made other
    refine ⟨unnamed, ?_, ?_⟩
    · intro image
      have inside : (n.scripts.get s).fiber < n.fibers.size := (aside.later.labeled.fiber s made).1
      have size := Nat.add_sub_cancel' aside.spares.moreFibers
      obtain ⟨old, mine⟩ := Zone.mine_of_image image (Nat.lt_of_lt_of_eq inside size.symm)
      exact apart ⟨old, mine.resolve_left (Nat.not_le_of_lt old)⟩
    · intro r current image
      obtain ⟨armed, script⟩ := aside.later.linked.current s r current
      have size := Nat.add_sub_cancel' aside.spares.moreRuns
      obtain ⟨old, mine⟩ := Zone.mine_of_image image (Nat.lt_of_lt_of_eq armed size.symm)
      obtain ⟨made', own⟩ := reached.linked.named r old
      have under : (Part.under m id).script (m.runs.get r).script :=
        ⟨made', own.symm.trans (mine.resolve_left (Nat.not_le_of_lt old))⟩
      have same := (aside.spares.runs r (.inl ⟨old, under⟩)).2
      exact other (((congrArg Run.script same).symm.trans script) ▸ under)

theorem fibers : m.fibers.Follows (Mirror.between aside.reached n id tokens).fibers (fun f => f)
    (·.id ≠ id) (fun _ => True) n.fibers := by
  refine .start rfl (Nat.add_sub_cancel' aside.spares.moreFibers).symm rfl ?_ ?_ ?_
  · intro f made mine
    exact aside.spares.fibers f ⟨made, mine.resolve_left (Nat.not_le_of_lt made)⟩
  · intro f _ other named
    exact other (.inr named)
  · intro f _ _
    trivial

theorem runs : m.runs.Follows (Mirror.between aside.reached n id tokens).runs
    (Renaming.past m n).ofRun (·.id ≠ id) (·.id ≠ id) n.runs := by
  have reached := aside.reached
  refine .start rfl (Nat.add_sub_cancel' aside.spares.moreRuns).symm ?_ ?_ ?_ ?_
  · exact congrArg (fun s => { (default : Run) with script := s }) (Renaming.past_script aside.present)
  · intro r armed mine
    obtain ⟨made, own⟩ := reached.linked.named r armed
    have under : (Part.under m id).script (m.runs.get r).script :=
      ⟨made, own.symm.trans (mine.resolve_left (Nat.not_le_of_lt armed))⟩
    exact (aside.spares.runs r (.inl ⟨armed, under⟩)).2.trans (Renaming.past_ofRun reached armed).symm
  · intro r _ other named
    exact other (.inr named)
  · intro r armed other named
    obtain ⟨made, own⟩ := aside.later.linked.named r armed
    have under : (Part.under m id).script (n.runs.get r).script := by
      refine Classical.byContradiction fun other => ?_
      have proper := aside.spares.proper (Part.under_proper reached id)
      exact (proper.others _ made other).2 (own.symm.trans named)
    obtain ⟨old, same⟩ := aside.spares.runs r (.inr ⟨armed, under⟩)
    exact other ⟨old, .inr ((congrArg Run.id same).symm.trans named)⟩

theorem tasks : m.tasks.Follows (Mirror.between aside.reached n id tokens).tasks
    (Renaming.past m n).ofTask
    (fun task => ¬ (Mirror.between aside.reached n id tokens).scripts.mine task.script)
    (fun task => task.finished = false →
      ¬ (Mirror.between aside.reached n id tokens).scripts.Image task.script) n.tasks := by
  refine .start rfl (Nat.add_sub_cancel' aside.spares.moreTasks).symm ?_ ?_ ?_ ?_
  · exact congrArg (fun s => { (default : Task) with script := s }) (Renaming.past_script aside.present)
  · intro t made mine
    have inside := aside.workOf t
    have under : (Part.under m id).script (m.tasks.get t).script :=
      ⟨inside, (mine.resolve_left (Nat.not_le_of_lt made)).resolve_left (Nat.not_le_of_lt inside)⟩
    refine (aside.spares.tasks t (.inl ⟨made, under⟩)).2.trans ?_
    have script : (Renaming.past m n).script (m.tasks.get t).script = (m.tasks.get t).script :=
      Renaming.past_script inside
    exact (congrArg (fun s => { m.tasks.get t with script := s }) script).symm
  · intro t _ other mine
    exact other (.inr mine)
  · intro t made other _ image
    have size := Nat.add_sub_cancel' aside.spares.moreScripts
    obtain ⟨old, mine⟩ :=
      Zone.mine_of_image image (Nat.lt_of_lt_of_eq (aside.workOf_later t) size.symm)
    have under : (Part.under m id).script (n.tasks.get t).script :=
      ⟨old, mine.resolve_left (Nat.not_le_of_lt old)⟩
    obtain ⟨before, same⟩ := aside.spares.tasks t (.inr ⟨made, under⟩)
    refine other ⟨before, .inr (.inr ?_)⟩
    have script : (n.tasks.get t).script = (m.tasks.get t).script := congrArg Task.script same
    exact script ▸ under.2

theorem native {f : FiberKey} (mine : m.fibers.size ≤ f ∨ (m.fibers.get f).id = id) :
    n.core.deeds.filter (Deed.touches ((Renaming.past m n).fiber f)) =
      (m.core.deeds.filter (Deed.touches f)).map (Renaming.past m n).ofDeed := by
  rcases Nat.lt_or_ge f m.fibers.size with made | new
  · rw [Renaming.past_fiber made,
      aside.spares.deeds f ⟨made, mine.resolve_left (Nat.not_le_of_lt made)⟩]
    refine ((List.map_congr_left ?_).trans (List.map_id _)).symm
    intro deed present
    exact Renaming.past_ofDeed made (List.mem_filter.mp present).2
  · have outside : n.fibers.size ≤ (Renaming.past m n).fiber f := by
      have moved : (Renaming.past m n).fiber f = f + (n.fibers.size - m.fibers.size) :=
        if_neg (Nat.not_lt_of_le new)
      rw [moved]
      omega
    have before : m.core.deeds.filter (Deed.touches f) = [] :=
      List.filter_eq_nil_iff.mpr fun deed present => by
        rw [aside.reached.protocol.untouched f (.inr new) deed present]
        exact Bool.false_ne_true
    have after : n.core.deeds.filter (Deed.touches ((Renaming.past m n).fiber f)) = [] :=
      List.filter_eq_nil_iff.mpr fun deed present => by
        rw [aside.later.protocol.untouched _ (.inr outside) deed present]
        exact Bool.false_ne_true
    rw [before, after]
    rfl

theorem mirrors (stack : n.stack = m.stack)
    (obeyed : ∀ s t, s < m.scripts.size → m.idOf s = id → (m.scripts.get s).token = some t → tokens t)
    (shared : m.settings.Shares tokens n.settings) :
    m.Mirrors (Mirror.between aside.reached n id tokens) n := by
  have reached := aside.reached
  refine ⟨⟨aside.scripts, aside.fibers, aside.runs, aside.tasks, ?_, ?_, ?_, ?_, ?_, ?_⟩, shared⟩
  · rintro s ⟨mine, made⟩
    have named : m.idOf s = id := mine.resolve_left (Nat.not_le_of_lt made)
    refine ⟨named, .inr ((reached.labeled.fiber s made).2.trans named), ?_, ?_⟩
    · intro r current
      obtain ⟨armed, script⟩ := reached.linked.current s r current
      have own := (reached.linked.named r armed).2
      rw [script] at own
      exact .inr (own.trans named)
    · intro t token
      exact obeyed s t made named token
  · intro t mine unfinished
    rcases mine with new | own
    · have blank : m.core.tasks.get t = default := Slots.get_of_size_le new
      rw [blank] at unfinished
      cases unfinished
    · exact own
  · intro b
    have same : (n.core.registry b).get? id = (m.core.registry b).get? id :=
      aside.spares.entries b id rfl
    change (n.core.registry b).get? id =
      ((m.core.registry b).get? id).map (Renaming.past m n).script
    rw [same]
    cases entry : (m.core.registry b).get? id with
    | none => rfl
    | some s =>
      have made := (reached.filed.entry b id s entry).1
      exact (congrArg some (Renaming.past_script made)).symm
  · intro b s entry
    obtain ⟨made, _, _, named⟩ := reached.filed.entry b id s entry
    exact ⟨.inr named, made⟩
  · intro f mine
    exact aside.native mine
  · exact ⟨[], rfl, stack, List.forall_mem_nil _⟩

end Aside

namespace Machine

variable {other : ScriptId} {x : Mirror} {op : Op} {move : Move} {next last : Machine} {r : Reaction}
  {base : List Frame} {moves : List Move} {reactions : List Reaction}

theorem misses_under (apart : id ≠ other) (later : Reachable n)
    (spares : m.core.Spares (Part.under m id) n.core) (within : n.Within other tokens op)
    (admitted : n.Admits op) : n.Misses (Part.under m id) op := by
  have script {s : ScriptKey} (named : n.idOf s = other) : ¬ (Part.under m id).script s := by
    rintro ⟨made, own⟩
    have same : n.idOf s = m.idOf s := congrArg Script.id (spares.scripts s ⟨made, own⟩)
    exact apart (own.symm.trans (same.symm.trans named))
  have fiber {f : FiberKey} (named : (n.fibers.get f).id = other) : ¬ (Part.under m id).fiber f := by
    rintro ⟨made, own⟩
    have same : (n.fibers.get f).id = (m.fibers.get f).id :=
      congrArg Fiber.id (spares.fibers f ⟨made, own⟩)
    exact apart (own.symm.trans (same.symm.trans named))
  cases op with
  | command b id' name word ambient =>
    intro s found
    exact script ((idOf_of_find? later found).trans within)
  | error b id' description =>
    intro s found
    exact script ((idOf_of_find? later found).trans within)
  | commandUpcall id' name length word ambient =>
    intro b s _ found
    exact script ((idOf_of_find? later found).trans within)
  | errorUpcall id' description =>
    intro b s _ found
    exact script ((idOf_of_find? later found).trans within)
  | register b f =>
    refine ⟨fiber within, fun own => apart (Eq.trans (Eq.symm own) within), ?_⟩
    intro s entry
    exact script ((later.filed.entry b _ s entry).2.2.2.trans within)
  | start s token => exact script within.1
  | dropRun r => exact script ((later.linked.named r admitted.2).2.symm.trans within)
  | setOrdinal f ordinal => exact fiber within
  | dropFiber f => exact fiber within
  | resume | status | describe | fail | dispose | dropHandle | makeRef | dropRef | decode
  | pollTask => exact script within
  | _ => trivial

theorem Spans.spares_under (reached : Reachable m) (apart : id ≠ other)
    (spans : Spans (fun n op => n.Within other tokens op) m.stack m moves reactions last) :
    m.core.Spares (Part.under m id) last.core := by
  have proper := Part.under_proper reached id
  refine Spans.spares reached spans proper .refl ?_
  intro n op later spares within admitted
  exact misses_under apart later spares within admitted

theorem Move.Stays.shares {stack : List Frame} (stays : move.Stays (m.Within id tokens) base stack)
    (step : Step m move next r) :
    m.settings.Shares (¬ tokens ·) next.settings := by
  cases sets : move.sets with
  | false =>
    have same := step_settings step sets
    exact ⟨by rw [same], fun t _ => by rw [same]⟩
  | true =>
    cases stays with
    | @invoke op begins =>
      cases op with
      | cancel t =>
        obtain ⟨_, rfl, _⟩ := step.invoked
        have same : (m.launch (.cancel t)).1.sweep.settings =
            { m.settings with canceled := t :: m.canceled } := sweep_tells.settings
        refine ⟨by rw [same], ?_⟩
        intro t' other
        rw [same]
        have apart : t' ≠ t := by
          rintro rfl
          exact other begins
        exact List.mem_cons.trans (or_iff_right apart)
      | build | cloneBridge | dropBridge | setLog | setError | makeClock | advanceClock | dropClock
      | complete | elapse | newContext | dropContext | install | uninstall => cases begins
      | _ => cases sets
    | answer => cases sets
    | unwind => cases sets

theorem Spans.shares (spans : Spans (fun n op => n.Within id tokens op) base m moves reactions last) :
    m.settings.Shares (¬ tokens ·) last.settings := by
  induction spans with
  | nil => exact ⟨rfl, fun _ _ => Iff.rfl⟩
  | cons step stays rest ih =>
    have first := stays.shares step
    refine ⟨?_, fun t other => (ih.tokens t other).trans (first.tokens t other)⟩
    rw [ih.same, first.same]

theorem within_mirrors (mirrors : m.Mirrors x n) (within : m.Within x.id x.obeys op) :
    n.Within x.id x.obeys (x.there.ofOp op) := by
  have script {s : ScriptKey} (named : m.idOf s = x.id) : n.idOf (x.there.script s) = x.id :=
    (mirrors.idOf (mirrors.mine named)).trans named
  have fiber {f : FiberKey} (named : (m.fibers.get f).id = x.id) :
      (n.fibers.get (x.there.fiber f)).id = x.id :=
    (congrArg Fiber.id (mirrors.fiber (mirrors.mineFiber named))).trans named
  cases op with
  | start s token => exact ⟨script within.1, within.2⟩
  | register b f => exact fiber within
  | setOrdinal f ordinal => exact fiber within
  | dropFiber f => exact fiber within
  | dropRun r => exact (congrArg Run.id (mirrors.core.run (mirrors.mineRun within))).trans within
  | pollTask t =>
    have task := congrArg Task.script (mirrors.task (mirrors.mineTask within))
    exact (congrArg n.idOf task).trans (script within)
  | resume | status | describe | fail | dispose | dropHandle | makeRef | dropRef | decode =>
    exact script within
  | _ => exact within

theorem Move.Stays.mirrors (mirrors : m.Mirrors x n)
    (stays : move.Stays (m.Within x.id x.obeys) x.base m.stack) :
    (x.there.ofMove move).Stays (n.Within x.id x.obeys) x.base n.stack := by
  have below {frame : Frame} {rest : List Frame} (top : m.stack = frame :: rest)
      (above : x.base <:+ rest) :
      ∃ rest', n.stack = x.there.ofFrame frame :: rest' ∧ x.base <:+ rest' := by
    obtain ⟨rest', top', _, popped⟩ := mirrors.core.pop top above
    obtain ⟨news, _, stack, _⟩ := popped.stack
    exact ⟨rest', top', _, stack.symm⟩
  cases stays with
  | invoke begins => exact .invoke (within_mirrors mirrors begins)
  | answer top above =>
    obtain ⟨rest', top', above'⟩ := below top above
    exact .answer top' above'
  | unwind top above =>
    obtain ⟨rest', top', above'⟩ := below top above
    exact .unwind top' above'

-- What is done under the id can be done in the image as well, comes to the same, and leaves an image.
theorem Spans.mirrors (reached : Reachable m) (mirrors : m.Mirrors x n)
    (spans : Spans (fun k op => k.Within x.id x.obeys op) x.base m moves reactions last) :
    ∃ reactions' last', Spans (fun k op => k.Within x.id x.obeys op) x.base n
        (moves.map x.there.ofMove) reactions' last' ∧
      last.Mirrors x last' ∧ List.Forall₂ x.there.Like reactions reactions' := by
  generalize same : x.base = base at spans
  induction spans generalizing n with
  | nil => exact ⟨[], n, .nil, mirrors, .nil⟩
  | cons step stays rest ih =>
    subst same
    obtain ⟨next', r', step', mirrors', like⟩ := step_mirrors reached.steady mirrors stays step
    obtain ⟨reactions', last', rest', mirrored, likes⟩ := ih (reached.step step) mirrors'
    exact ⟨r' :: reactions', last', .cons step' (stays.mirrors mirrors) rest', mirrored,
      .cons like likes⟩

end Machine

end FiberBridge
