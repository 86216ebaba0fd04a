import FiberBridge.Proofs.Refusals

namespace FiberBridge

def Frame.engages (s : ScriptKey) (frame : Frame) : Prop :=
  frame.disposes s = true ∨ ∃ wasStart, frame.nativeCall? = some (s, wasStart)

inductive Core.Shifts (c d : Core) : Prop where
  | same (stack : d.stack = c.stack)
  | popped {frame : Frame} (stack : c.stack = frame :: d.stack)
  | pushed {frame : Frame} (stack : d.stack = frame :: c.stack)
      (live : ∀ s, frame.engages s → (c.scripts.get s).disposed = false)

def Core.Newer (c : Core) (first : ScriptKey) (b : BridgeKey) (id : ScriptId) : Prop :=
  ∃ s, first < s ∧ s < c.scripts.size ∧ (c.scripts.get s).accepted = true ∧
    (c.scripts.get s).bridge = b ∧ (c.scripts.get s).id = id

def Core.Sole (c : Core) : Prop :=
  c.stack.Pairwise fun above below => ∀ s, above.disposes s = true → below.disposes s = false

def Core.Enters (c : Core) (s : ScriptKey) (b : BridgeKey) (id : ScriptId) : Prop :=
  (c.registry b).get? id = some s ∨ c.Newer s b id

structure Core.Stranded (c : Core) (s : ScriptKey) : Prop where
  made : s < c.scripts.size
  disposed : (c.scripts.get s).disposed = true
  idle : ∀ dropped, .disposing s dropped ∉ c.stack

section

variable {power : Power} {c d : Core} {l : List (ScriptKey × Milestone)} {s : ScriptKey}
  {b : BridgeKey} {id : ScriptId}

theorem Frame.disposes_iff {frame : Frame} :
    frame.disposes s = true ↔ ∃ dropped, frame = .disposing s dropped := by
  cases frame <;> simp [disposes]

theorem Frame.not_engages {frame : Frame} (plain : frame.native = false) : ¬ frame.engages s := by
  unfold engages
  cases frame <;> simp [disposes, nativeCall?, native] at plain ⊢

theorem Change.shifts (change : Change power c l d) : c.Shifts d := by
  have plain {frame : Frame} (stack : d.stack = frame :: c.stack) (other : ∀ s, ¬ frame.engages s) :
      c.Shifts d := .pushed stack fun s engages => absurd engages (other s)
  have live {frame : Frame} {s : ScriptKey} (stack : d.stack = frame :: c.stack)
      (own : ∀ s', frame.engages s' → s' = s) (live : (c.scripts.get s).disposed = false) :
      c.Shifts d := .pushed stack fun s' engages => own s' engages ▸ live
  cases change with
  | refused held made => exact plain rfl (by simp [Frame.engages, Frame.disposes, Frame.nativeCall?])
  | letGo held => exact plain rfl (by simp [Frame.engages, Frame.disposes, Frame.nativeCall?])
  | asked foreign plain' held free => exact plain rfl fun _ => Frame.not_engages plain'
  | starting known alive ready current armed own =>
    exact live rfl (by simp [Frame.engages, Frame.disposes, Frame.nativeCall?, eq_comm]) alive
  | resuming known alive free =>
    exact live rfl (by simp [Frame.engages, Frame.disposes, Frame.nativeCall?, eq_comm]) alive
  | disposing known meant alive =>
    exact live rfl (by simp [Frame.engages, Frame.disposes, Frame.nativeCall?, eq_comm]) alive
  | disposed top known => exact .popped top
  | popped top plain => exact .popped top
  | released top => exact .popped top
  | unwound top allowed => exact .popped top
  | _ => exact .same rfl

theorem Core.Sole.change (sole : c.Sole) (releasing : c.Releasing) (change : Change power c l d) :
    d.Sole := by
  unfold Core.Sole at sole ⊢
  cases change.shifts with
  | same stack => rwa [stack]
  | popped stack =>
    rw [stack] at sole
    exact sole.of_cons
  | pushed stack live =>
    rw [stack]
    refine List.pairwise_cons.mpr ⟨fun below present s disposes => ?_, sole⟩
    refine Bool.eq_false_iff.mpr fun other => ?_
    obtain ⟨dropped, rfl⟩ := Frame.disposes_iff.mp other
    cases (live s (.inl disposes)).symm.trans (releasing s dropped present).2

theorem Core.Sole.idle {dropped : Bool} {rest : List Frame} (sole : c.Sole)
    (top : c.stack = .disposing s dropped :: rest) (dropped' : Bool) :
    .disposing s dropped' ∉ rest := by
  intro present
  unfold Core.Sole at sole
  rw [top] at sole
  have other := (List.pairwise_cons.mp sole).1 _ present s (by simp [Frame.disposes])
  simp [Frame.disposes] at other

-- Nothing more waits for the fiber of a disposed script.
theorem Change.engages_before {frame : Frame} (change : Change power c l d)
    (disposed : (c.scripts.get s).disposed = true) (engages : frame.engages s)
    (present : frame ∈ d.stack) : frame ∈ c.stack := by
  cases change.shifts with
  | same stack => exact stack ▸ present
  | popped stack => exact stack ▸ List.mem_cons_of_mem _ present
  | pushed stack live =>
    rw [stack] at present
    rcases List.mem_cons.mp present with rfl | below
    · cases (live s engages).symm.trans disposed
    · exact below

theorem Change.torn (change : Change power c l d) (torn : (s, .torn) ∈ l) :
    ∃ dropped, c.stack = .disposing s dropped :: d.stack := by
  cases change with
  | armed known live meant => cases List.mem_singleton.mp torn
  | judged known later lasting =>
    cases List.mem_singleton.mp torn
    exact absurd rfl lasting
  | disposed top known =>
    cases List.mem_singleton.mp torn
    exact ⟨_, top⟩
  | _ => cases torn

theorem Core.Stranded.change (stranded : c.Stranded s) (change : Change power c l d) :
    d.Stranded s := by
  have lasts := Core.Lasts.change stranded.made change
  refine ⟨lasts.made, lasts.disposed stranded.disposed, fun dropped present => ?_⟩
  exact stranded.idle dropped (change.engages_before stranded.disposed
    (.inl (Frame.disposes_iff.mpr ⟨dropped, rfl⟩)) present)

theorem Core.Newer.change (newer : c.Newer s b id) (change : Change power c l d) : d.Newer s b id := by
  obtain ⟨s', after, made, accepted, bridge, named⟩ := newer
  have lasts := Core.Lasts.change made change
  exact ⟨s', after, lasts.made, lasts.accepted.trans accepted, lasts.bridge.trans bridge,
    lasts.id.trans named⟩

-- An entry goes with the end of its script's release, or because a newer script takes its place.
theorem Core.Enters.change (enters : c.Enters s b id) (made : s < c.scripts.size)
    (change : Change power c l d) (whole : (s, .torn) ∉ l) : d.Enters s b id := by
  rcases enters with entry | newer
  · cases change with
    | @accepted b' f held there vacant =>
      unfold Core.Enters
      rw [Core.accept_get]
      split
      · rename_i same
        refine .inr ⟨c.scripts.size, made, ?_, ?_⟩
        · exact Nat.lt_of_lt_of_eq (Nat.lt_succ_self _) (c.size_accept b' f).symm
        · rw [Core.accept_script, if_pos rfl]
          exact ⟨rfl, same.1, same.2.symm⟩
      · exact .inl entry
    | @disposed s' dropped rest top known =>
      left
      rw [Core.endDispose_get, if_neg]
      · exact entry
      · rintro ⟨_, named, entry'⟩
        rw [← named, entry] at entry'
        cases entry'
        exact whole (List.mem_singleton_self _)
    | _ => exact .inl entry
  · exact .inr (newer.change change)

structure Core.Releases (c : Core) : Prop where
  releasing : c.Releasing
  filed : Filed c
  sole : c.Sole
  listed : ∀ s dropped, .disposing s dropped ∈ c.stack →
    c.Enters s (c.scripts.get s).bridge (c.scripts.get s).id

theorem Core.Releases.change (kept : c.Releases) (change : Change power c l d) : d.Releases := by
  refine ⟨kept.releasing.change change, kept.filed.change kept.releasing change,
    kept.sole.change kept.releasing change, fun s dropped present => ?_⟩
  have engages : (Frame.disposing s dropped).engages s := .inl (Frame.disposes_iff.mpr ⟨dropped, rfl⟩)
  obtain ⟨made, enters, whole⟩ : s < c.scripts.size ∧
      c.Enters s (c.scripts.get s).bridge (c.scripts.get s).id ∧ (s, .torn) ∉ l := by
    cases ended : (c.scripts.get s).disposed with
    | false =>
      have entry := kept.filed.live s ended
      refine ⟨(kept.filed.entry _ _ _ entry).1, .inl entry, fun torn => ?_⟩
      obtain ⟨dropped', top⟩ := change.torn torn
      cases ended.symm.trans (kept.releasing s dropped' (top ▸ List.mem_cons_self)).2
    | true =>
      have before := change.engages_before ended engages present
      refine ⟨(kept.releasing s dropped before).1, kept.listed s dropped before, fun torn => ?_⟩
      obtain ⟨dropped', top⟩ := change.torn torn
      exact kept.sole.idle top dropped present
  have lasts := Core.Lasts.change made change
  rw [lasts.bridge, lasts.id]
  exact enters.change made change whole

end

namespace Machine

variable {m next last : Machine} {s : ScriptKey} {moves : List Move} {reaction : Reaction}

theorem Reachable.releases (reached : Reachable m) : m.core.Releases := by
  refine reached.preserves Core.Releases ?_ fun _ kept change => kept.change change
  exact ⟨Reachable.initial.releasing, Reachable.initial.filed, .nil, fun _ _ present => nomatch present⟩

-- Only the frame goes, and what it alone kept of the script.
theorem disposing_unwound {dropped : Bool} {rest : List Frame} {p : Panic} (reached : Reachable m)
    (top : m.stack = .disposing s dropped :: rest) (step : Step m (.unwind p) next reaction) :
    reaction = .panicked p ∧ Parts s { m with stack := rest } next := by
  have inside : s < m.scripts.size :=
    (top_open reached.steady top (s := s) (by simp [Frame.holdsScript])).made
  have swept : SweptBut { m with stack := rest } s := by
    intro s' other made
    rcases reached.swept s' made with gone | held
    · exact .inl gone
    · right
      unfold scriptHeld at held ⊢
      simpa [top, Frame.holdsScript, Ne.symm other] using held
  obtain ⟨rfl, rfl⟩ := step.unwound_at top
  exact ⟨rfl, swept.parts inside⟩

theorem unwound_stranded {dropped : Bool} {rest : List Frame} {p : Panic} (reached : Reachable m)
    (top : m.stack = .disposing s dropped :: rest) (step : Step m (.unwind p) next reaction) :
    next.core.Stranded s := by
  obtain ⟨_, parts⟩ := disposing_unwound reached top step
  have present : .disposing s dropped ∈ m.core.stack := by
    rw [core_stack, top]
    exact List.mem_cons_self
  obtain ⟨made, disposed⟩ := reached.releasing s dropped present
  have lasts := Core.Lasts.path made (step_path reached.steady step)
  refine ⟨lasts.made, lasts.disposed disposed, fun dropped' present => ?_⟩
  have stack : next.stack = rest := parts.stack
  exact reached.releases.sole.idle top dropped' (stack ▸ present)

theorem Runs.stranded (reached : Reachable m) (stranded : m.core.Stranded s)
    (runs : Runs m moves last) : last.core.Stranded s := by
  induction runs with
  | nil => exact stranded
  | cons step rest ih =>
    exact ih (reached.step step) ((step_path reached.steady step).preserves (Core.Stranded · s)
      (fun stranded change => stranded.change change) stranded)

theorem Runs.enters {b : BridgeKey} {id : ScriptId} (reached : Reachable m)
    (stranded : m.core.Stranded s) (enters : m.core.Enters s b id) (runs : Runs m moves last) :
    last.core.Enters s b id := by
  induction runs with
  | nil => exact enters
  | cons step rest ih =>
    obtain ⟨stranded', enters'⟩ := (step_path reached.steady step).preserves
      (fun c => c.Stranded s ∧ c.Enters s b id) (fun before change => by
        refine ⟨before.1.change change, before.2.change before.1.made change fun torn => ?_⟩
        obtain ⟨dropped, top⟩ := change.torn torn
        exact before.1.idle dropped (top ▸ List.mem_cons_self)) ⟨stranded, enters⟩
    exact ih (reached.step step) stranded' enters'

theorem step_engages {move : Move} {frame : Frame} (reached : Reachable m)
    (stranded : m.core.Stranded s) (step : Step m move next reaction) (engages : frame.engages s)
    (present : frame ∈ next.stack) : frame ∈ m.stack := by
  have both := (step_path reached.steady step).preserves
    (fun c => c.Stranded s ∧ (frame ∈ c.stack → frame ∈ m.stack))
    (fun before change => ⟨before.1.change change, fun present =>
      before.2 (change.engages_before before.1.disposed engages present)⟩) ⟨stranded, id⟩
  exact both.2 present

theorem Runs.stranded_fates {x : Milestone} (reached : Reachable m) (stranded : m.core.Stranded s)
    (runs : Runs m moves last) (present : (s, x) ∈ m.fates moves) :
    (∃ e, x = .failed e) ∨ ∃ wasStart result canceled frame, x = .returned wasStart result canceled ∧
      frame ∈ m.stack ∧ frame.nativeCall? = some (s, wasStart) := by
  have alive (live : (m.scripts.get s).disposed = false) : False := by
    cases live.symm.trans stranded.disposed
  induction runs with
  | nil => cases present
  | @cons m middle last move moves r step rest ih =>
    rw [fates_cons step] at present
    rcases List.mem_append.mp present with now | later
    · cases fate_cause now with
      | start live => exact (alive live).elim
      | resume live => exact (alive live).elim
      | failure => exact .inl ⟨_, rfl⟩
      | result top call =>
        exact .inr ⟨_, _, _, _, rfl, top ▸ List.mem_cons_self, call⟩
      | release top => exact (stranded.idle _ (top ▸ List.mem_cons_self)).elim
    · have stranded' := Runs.stranded reached stranded (.cons step .nil)
      have alive' (live : (middle.scripts.get s).disposed = false) : False := by
        cases live.symm.trans stranded'.disposed
      rcases ih (reached.step step) stranded' later alive' with
        failed | ⟨wasStart, result, canceled, frame, same, there, call⟩
      · exact .inl failed
      · exact .inr ⟨wasStart, result, canceled, frame, same,
          step_engages reached stranded step (.inr ⟨wasStart, call⟩) there, call⟩

theorem Runs.outcome_pending {r : RunKey} (reached : Reachable m) (runs : Runs m moves last)
    (made : r < m.runs.size) (own : (m.runs.get r).script = s)
    (pending : (m.runs.get r).outcome = none) :
    last.outcome? r = ((m.fates moves).findSome? (befalls s (m.idOf s))).or
      (if (last.scripts.get s).freed then some (.error (.useAfterDispose (m.idOf s))) else none) := by
  obtain ⟨past, chronicle⟩ := reached.chronicle
  have armed : armedIn r past = some s := chronicle.armed.mpr ⟨made, own⟩
  have verdict : verdictOn (m.idOf s) r past = none := by
    rw [← own, ← chronicle.verdict made, pending]
  have there : s < m.scripts.size := own ▸ (reached.linked.named r made).1
  have later : armedIn r (past ++ m.fates moves) = some s := by
    rw [armedIn_append, armed]
    rfl
  rw [(runs.chronicle chronicle).outcome? later, runs.idOf_stays reached there, verdictOn_append, armed,
    verdict]
  rfl

-- The native release of `s` unwound out of its first dispose, or out of the going of its handle.
-- The script stays disposed, and what should have come after the call into the fiber, its entry
-- and its pending run, is made good by no move.
structure Unfinished (m : Machine) (s : ScriptKey) (p : Panic) (rest : List Frame) (next : Machine)
    (reaction : Reaction) : Prop where
  thrown : reaction = .panicked p ∧ next.stack = rest
  disposed : ∀ moves last, Runs next moves last → (last.scripts.get s).disposed = true
  bridges : next.bridges = m.bridges
  outcomes : m.SameOutcomes next
  listed : ∀ moves last, Runs next moves last →
    (last.bridges.get (m.scripts.get s).bridge).registry.get? (m.idOf s) = some s ∨
      ∃ s', s < s' ∧ s' < last.scripts.size ∧ (last.scripts.get s').accepted = true ∧
        (last.scripts.get s').bridge = (m.scripts.get s).bridge ∧ last.idOf s' = m.idOf s
  again : ∀ moves last after r, Runs next moves last → Step last (.invoke (.dispose s)) after r →
    r = .returned .done ∧ after = last
  handle : ∀ moves last after r, Runs next moves last → Step last (.invoke (.dropHandle s)) after r →
    r = .returned .done ∧
      Parts s (last.setScript s fun script => { script with owned := false }) after
  events : ∀ moves last x, Runs next moves last → (s, x) ∈ next.fates moves →
    (∃ e, x = .failed e) ∨ ∃ wasStart result canceled frame,
      x = .returned wasStart result canceled ∧ frame ∈ rest ∧ frame.nativeCall? = some (s, wasStart)
  pending : ∀ moves last r, Runs next moves last → r < m.runs.size → (m.runs.get r).script = s →
    (m.runs.get r).outcome = none →
    last.outcome? r = ((next.fates moves).findSome? (befalls s (m.idOf s))).or
      (if (last.scripts.get s).freed then some (.error (.useAfterDispose (m.idOf s))) else none)

theorem unwound_release_unfinished {dropped : Bool} {rest : List Frame} {p : Panic}
    (reached : Reachable m) (top : m.stack = .disposing s dropped :: rest)
    (step : Step m (.unwind p) next reaction) : Unfinished m s p rest next reaction := by
  obtain ⟨thrown, parts⟩ := disposing_unwound reached top step
  have stranded := unwound_stranded reached top step
  have onward := reached.step step
  have stack : next.stack = rest := parts.stack
  have present : .disposing s dropped ∈ m.core.stack := by
    rw [core_stack, top]
    exact List.mem_cons_self
  have made := (reached.releasing s dropped present).1
  have lasts := Core.Lasts.path made (step_path reached.steady step)
  have named : next.idOf s = m.idOf s := lasts.id
  have quiet : m.fate (.unwind p) = [] := by simp only [fate, top, unwindFate]
  have same := step_same_outcomes reached step quiet
  have disposed (moves : List Move) (last : Machine) (runs : Runs next moves last) :
      (last.scripts.get s).disposed = true := (runs.stranded onward stranded).disposed
  have enters : next.core.Enters s (m.scripts.get s).bridge (m.idOf s) := by
    rcases reached.releases.listed s dropped present with entry | newer
    · left
      show (next.bridges.get (m.scripts.get s).bridge).registry.get? (m.idOf s) = some s
      rw [parts.bridges]
      exact entry
    · exact .inr ((step_path reached.steady step).preserves (·.Newer s _ _)
        (fun newer change => newer.change change) newer)
  refine ⟨⟨thrown, stack⟩, disposed, parts.bridges, same, ?_, ?_, ?_, ?_, ?_⟩
  · intro moves last runs
    exact runs.enters onward stranded enters
  · intro moves last after r runs again
    exact dispose_again (runs.reachable onward) (disposed moves last runs) again
  · intro moves last after r runs gone
    exact dropHandle_again (runs.reachable onward) (disposed moves last runs) gone
  · intro moves last x runs befell
    rcases runs.stranded_fates onward stranded befell with failed | returned
    · exact .inl failed
    · exact .inr (stack ▸ returned)
  · intro moves last r runs there own undecided
    have old := (Runs.cons step .nil).runs_last reached r there
    rw [← named]
    exact runs.outcome_pending onward old.1 (old.2.1.trans own) ((same.2 r there).trans undecided)

def suspendedReleased : List Move :=
  [.invoke (.build {}), .invoke (.makeFiber ⟨1⟩ 0), .invoke (.register 0 0), .invoke (.start 0 none),
    .answer (.code 1), .invoke (.dispose 0)]

def suspendedLost : List Move := suspendedReleased ++ [.unwind (.text "boom"), .invoke (.dispose 0)]

set_option maxRecDepth 10000 in
-- The unwinding has left the call and the script is disposed, but the registry counts it, and who
-- awaits its run still waits.
theorem unwound_release_leaves_entry_and_run :
    (after suspendedReleased).stack = [.disposing 0 false] ∧
      (after suspendedLost).stack = [] ∧ ((after suspendedLost).scripts.get 0).disposed = true ∧
      ((after suspendedLost).bridges.get 0).registry.size = 1 ∧
      (after suspendedLost).outcome? 0 = none := by
  refine ⟨by decide +kernel, by decide +kernel, by decide +kernel, by decide +kernel, rfl⟩

set_option maxRecDepth 10000 in
theorem unwound_release_unfinished_suspended :
    ((after suspendedLost).bridges.get 0).registry.get? ⟨1⟩ = some 0 ∧
      (after suspendedLost).outcome? 0 = none := by
  have reached : Reachable (after suspendedReleased) :=
    (runs_after (by decide +kernel)).reachable .initial
  have top : (after suspendedReleased).stack = [.disposing 0 false] := by decide +kernel
  have both : Runs (after suspendedReleased) [.unwind (.text "boom"), .invoke (.dispose 0)]
      (after suspendedLost) := runs_onward (by decide +kernel)
  cases both with
  | cons step rest =>
    have unfinished := unwound_release_unfinished reached top step
    have bridge : ((after suspendedReleased).scripts.get 0).bridge = 0 := by decide +kernel
    have named : (after suspendedReleased).idOf 0 = ⟨1⟩ := by decide +kernel
    refine ⟨?_, ?_⟩
    · rcases unfinished.listed _ _ rest with entry | ⟨s, newer, there, _⟩
      · rwa [bridge, named] at entry
      · have single : (after suspendedLost).scripts.size = 1 := by decide +kernel
        exact absurd (Nat.lt_of_lt_of_eq there single) (Nat.not_lt_of_le newer)
    · obtain ⟨_, again⟩ := rest.single
      obtain ⟨_, same⟩ := unfinished.again [] _ _ _ .nil again
      have pending := unfinished.pending [] _ 0 .nil (by decide +kernel) (by decide +kernel)
        (by decide +kernel)
      rw [same, pending, ← same]
      rfl

end Machine

end FiberBridge
