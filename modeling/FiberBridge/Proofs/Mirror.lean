import FiberBridge.Proofs.View

namespace FiberBridge

theorem Frame.holds_of_borrows {s : ScriptKey} {frame : Frame} (borrows : frame.borrowsHandle s) :
    frame.holdsScript s := by
  cases frame with
  | starting s' r => exact borrows
  | resuming s' who =>
    cases who with
    | host byHandle =>
      cases byHandle with
      | true => exact borrows
      | false => cases borrows
    | _ => cases borrows
  | disposing s' dropped =>
    cases dropped with
    | true => cases borrows
    | false => exact borrows
  | _ => cases borrows

structure Mirror where
  id : ScriptId
  scripts : Zone
  fibers : Zone
  runs : Zone
  tasks : Zone
  obeys : TokenKey → Prop
  base : List Frame
  old : ∀ frame ∈ base, ∀ s, frame.holdsScript s → s < scripts.first
  oldTasks : ∀ frame ∈ base, ∀ t, frame.task? = some t → t < tasks.first

namespace Mirror

variable {x : Mirror}

def there (x : Mirror) : Renaming := ⟨x.scripts.there, x.fibers.there, x.runs.there, x.tasks.there⟩

structure Owns (x : Mirror) (script : Script) : Prop where
  id : script.id = x.id
  fiber : x.fibers.mine script.fiber
  run : ∀ r, script.run = some r → x.runs.mine r
  token : ∀ t, script.token = some t → x.obeys t

-- A script under another id, and one that is on the other side only.
structure Strange (x : Mirror) (script : Script) : Prop where
  id : script.id ≠ x.id
  fiber : ¬ x.fibers.mine script.fiber
  run : ∀ r, script.run = some r → ¬ x.runs.mine r

structure Foreign (x : Mirror) (script : Script) : Prop where
  id : script.id ≠ x.id
  fiber : ¬ x.fibers.Image script.fiber
  run : ∀ r, script.run = some r → ¬ x.runs.Image r

-- Its scripts and what belongs to them are what the machine speaks of, by their new numbers.
def view (x : Mirror) : View where
  there := x.there
  hosted := false
  script := x.scripts.mine
  counted := True
  fiber := x.fibers.mine
  run := x.runs.mine
  task := x.tasks.mine
  id := (· = x.id)
  token := x.obeys

theorem Owns.of_bland {script : Script} {f : Script → Script} (owns : x.Owns script)
    (bland : Script.Bland f) : x.Owns (f script) := by
  refine ⟨(bland.id script).trans owns.id, ?_, ?_, ?_⟩
  · rw [bland.fiber]
    exact owns.fiber
  · rw [bland.run]
    exact owns.run
  · rw [bland.token]
    exact owns.token

theorem view_ofFrame (frame : Frame) : x.view.ofFrame frame = x.there.ofFrame frame :=
  congrArg x.there.ofFrame frame.hostedIf_false

theorem holdsScript_ofFrame (frame : Frame) (s : ScriptKey) :
    (x.there.ofFrame frame).holdsScript (x.there.script s) = frame.holdsScript s := by
  have same (s' : ScriptKey) : decide (x.there.script s' = x.there.script s) = decide (s' = s) :=
    decide_eq_decide.mpr Zone.there_inj
  cases frame with
  | reporting b told origin kept =>
    cases told with
    | none => rfl
    | some s' =>
      simp only [Renaming.ofFrame, Frame.holdsScript, Option.map_some, Option.some.injEq]
      exact same s'
  | releasing f => rfl
  | polling t => rfl
  | _ => exact same _

theorem borrowsHandle_ofFrame (frame : Frame) (s : ScriptKey) :
    (x.there.ofFrame frame).borrowsHandle (x.there.script s) = frame.borrowsHandle s := by
  have same (s' : ScriptKey) : decide (x.there.script s' = x.there.script s) = decide (s' = s) :=
    decide_eq_decide.mpr Zone.there_inj
  cases frame with
  | starting s' r => exact same s'
  | resuming s' who =>
    cases who with
    | host byHandle =>
      cases byHandle with
      | true => exact same s'
      | false => rfl
    | _ => rfl
  | disposing s' dropped =>
    cases dropped with
    | true => rfl
    | false => exact same s'
  | _ => rfl

theorem keepsBridge_ofFrame (frame : Frame) (b : BridgeKey) :
    (x.there.ofFrame frame).keepsBridge b = frame.keepsBridge b := by
  cases frame with
  | resuming s who => cases who <;> rfl
  | reporting b' told origin kept => cases origin <;> rfl
  | _ => rfl

theorem task?_ofFrame (frame : Frame) : (x.there.ofFrame frame).task? = frame.task?.map x.there.task := by
  cases frame with
  | resuming s who =>
    cases who with
    | command c => exact Renaming.ofOrigin_task? c.origin
    | _ => rfl
  | decoding c k => exact Renaming.ofOrigin_task? c.origin
  | logging c => exact Renaming.ofOrigin_task? c.origin
  | reporting b told origin kept => exact Renaming.ofOrigin_task? origin
  | scheduling c => exact Renaming.ofOrigin_task? c.origin
  | routing c => exact Renaming.ofOrigin_task? c.origin
  | _ => rfl

theorem touches_ofDeed (deed : Deed) (f : FiberKey) :
    (x.there.ofDeed deed).touches (x.there.fiber f) = deed.touches f := by
  have same (f' : FiberKey) : decide (x.there.fiber f' = x.there.fiber f) = decide (f' = f) :=
    decide_eq_decide.mpr Zone.there_inj
  cases deed with
  | called q =>
    cases q with
    | start f' => exact same f'
    | resume f' => exact same f'
    | dispose f' => exact same f'
    | _ => rfl
  | read f' ordinal => exact same f'
  | marked s y => rfl

end Mirror

namespace Core

variable {x : Mirror} {c d : Core} {s : ScriptKey}

def Ours (x : Mirror) (c : Core) (s : ScriptKey) : Prop := x.scripts.mine s ∧ s < c.scripts.size

structure Mirrors (x : Mirror) (c d : Core) : Prop where
  scripts : c.scripts.Follows x.scripts x.there.ofScript x.Strange x.Foreign d.scripts
  fibers : c.fibers.Follows x.fibers id (·.id ≠ x.id) (fun _ => True) d.fibers
  runs : c.runs.Follows x.runs x.there.ofRun (·.id ≠ x.id) (·.id ≠ x.id) d.runs
  tasks : c.tasks.Follows x.tasks x.there.ofTask (fun task => ¬ x.scripts.mine task.script)
    (fun task => task.finished = false → ¬ x.scripts.Image task.script) d.tasks
  own : ∀ s, c.Ours x s → x.Owns (c.scripts.get s)
  works : ∀ t, x.tasks.mine t → (c.tasks.get t).finished = false → x.scripts.mine (c.tasks.get t).script
  entries : ∀ b, (d.registry b).get? x.id = ((c.registry b).get? x.id).map x.there.script
  named : ∀ b s, (c.registry b).get? x.id = some s → c.Ours x s
  deeds : ∀ f, x.fibers.mine f →
    d.deeds.filter (Deed.touches (x.there.fiber f)) = (c.deeds.filter (Deed.touches f)).map x.there.ofDeed
  stack : ∃ top, c.stack = top ++ x.base ∧ d.stack = top.map x.there.ofFrame ++ x.base ∧
    ∀ frame ∈ top, x.view.Keeps frame

namespace Mirrors

theorem script (mirrors : c.Mirrors x d) (mine : x.scripts.mine s) :
    d.scripts.get (x.there.script s) = x.there.ofScript (c.scripts.get s) := mirrors.scripts.get s mine

theorem run (mirrors : c.Mirrors x d) {r : RunKey} (mine : x.runs.mine r) :
    d.runs.get (x.there.run r) = x.there.ofRun (c.runs.get r) := mirrors.runs.get r mine

theorem fiber (mirrors : c.Mirrors x d) {f : FiberKey} (mine : x.fibers.mine f) :
    d.fibers.get (x.there.fiber f) = c.fibers.get f := mirrors.fibers.get f mine

theorem task (mirrors : c.Mirrors x d) {t : TaskKey} (mine : x.tasks.mine t) :
    d.tasks.get (x.there.task t) = x.there.ofTask (c.tasks.get t) := mirrors.tasks.get t mine

theorem ours_there (mirrors : c.Mirrors x d) : x.there.script s < d.scripts.size ↔ s < c.scripts.size :=
  mirrors.scripts.there_lt

theorem note (mirrors : c.Mirrors x d) (deed : Deed) :
    (c.note deed).Mirrors x (d.note (x.there.ofDeed deed)) := by
  refine { mirrors with deeds := ?_ }
  intro f mine
  simp only [Core.note, List.filter_cons, Mirror.touches_ofDeed, mirrors.deeds f mine]
  split
  · rfl
  · rfl

theorem push (mirrors : c.Mirrors x d) {frame : Frame} (keeps : x.view.Keeps frame) :
    { c with stack := frame :: c.stack }.Mirrors x
      { d with stack := x.there.ofFrame frame :: d.stack } := by
  obtain ⟨top, left, right, kept⟩ := mirrors.stack
  refine { mirrors with stack := ⟨frame :: top, ?_, ?_, ?_⟩ }
  · rw [left, List.cons_append]
  · rw [right, List.map_cons, List.cons_append]
  · exact List.forall_mem_cons.mpr ⟨keeps, kept⟩

theorem ask (mirrors : c.Mirrors x d) (q : HostCall) {frame : Frame} (keeps : x.view.Keeps frame) :
    (c.ask q frame).Mirrors x (d.ask (x.there.ofCall q) (x.there.ofFrame frame)) :=
  (mirrors.note (.called q)).push keeps

theorem setScript (mirrors : c.Mirrors x d) (ours : c.Ours x s) {f g : Script → Script}
    (same : ∀ script, g (x.there.ofScript script) = x.there.ofScript (f script))
    (kept : x.Owns (c.scripts.get s) → x.Owns (f (c.scripts.get s))) :
    (c.setScript s f).Mirrors x (d.setScript (x.there.script s) g) := by
  have size : (c.setScript s f).scripts.size = c.scripts.size := Slots.size_update ours.2 f
  refine { mirrors with
    scripts := mirrors.scripts.update ours.1 (same _)
    own := ?_
    named := fun b s' entry => ⟨(mirrors.named b s' entry).1, size.symm ▸ (mirrors.named b s' entry).2⟩ }
  intro s' ours'
  have before : c.Ours x s' := ⟨ours'.1, size ▸ ours'.2⟩
  simp only [Core.setScript, Slots.get_update]
  split
  · rename_i this
    subst this
    exact kept (mirrors.own s before)
  · exact mirrors.own s' before

theorem addScript (mirrors : c.Mirrors x d) {script : Script} (owns : x.Owns script) :
    { c with scripts := c.scripts.add script }.Mirrors x
      { d with scripts := d.scripts.add (x.there.ofScript script) } := by
  refine { mirrors with
    scripts := mirrors.scripts.add script
    own := ?_
    named := ?_ }
  · intro s ours
    simp only [Slots.get_add]
    split
    · exact owns
    · rename_i old
      exact mirrors.own s ⟨ours.1, (Slots.lt_size_add.mp ours.2).resolve_left (Ne.symm old)⟩
  · intro b s entry
    obtain ⟨mine, inside⟩ := mirrors.named b s entry
    exact ⟨mine, Slots.lt_size_add.mpr (.inr inside)⟩

theorem setFiber (mirrors : c.Mirrors x d) {k : FiberKey} (mine : x.fibers.mine k)
    (f : Fiber → Fiber) : (c.setFiber k f).Mirrors x (d.setFiber (x.there.fiber k) f) :=
  { mirrors with fibers := mirrors.fibers.update mine rfl }

theorem addFiber (mirrors : c.Mirrors x d) (fiber : Fiber) :
    { c with fibers := c.fibers.add fiber }.Mirrors x { d with fibers := d.fibers.add fiber } :=
  { mirrors with fibers := mirrors.fibers.add fiber }

theorem setRun (mirrors : c.Mirrors x d) {r : RunKey} (mine : x.runs.mine r) {f g : Run → Run}
    (same : ∀ run, g (x.there.ofRun run) = x.there.ofRun (f run)) :
    (c.setRun r f).Mirrors x (d.setRun (x.there.run r) g) :=
  { mirrors with runs := mirrors.runs.update mine (same _) }

theorem setTask (mirrors : c.Mirrors x d) {t : TaskKey} (mine : x.tasks.mine t) {f g : Task → Task}
    (same : ∀ task, g (x.there.ofTask task) = x.there.ofTask (f task))
    (stays : ∀ task, (f task).finished = false →
      task.finished = false ∧ (f task).script = task.script) :
    (c.setTask t f).Mirrors x (d.setTask (x.there.task t) g) := by
  refine { mirrors with tasks := mirrors.tasks.update mine (same _), works := ?_ }
  intro t' mine' unfinished
  simp only [Core.setTask, Slots.get_update] at unfinished ⊢
  split at unfinished
  · rename_i this
    obtain ⟨before, script⟩ := stays _ unfinished
    rw [if_pos this, script]
    exact mirrors.works t' mine' before
  · rename_i this
    rw [if_neg this]
    exact mirrors.works t' mine' unfinished

theorem addTask (mirrors : c.Mirrors x d) {task : Task} (mine : x.scripts.mine task.script) :
    { c with tasks := c.tasks.add task }.Mirrors x
      { d with tasks := d.tasks.add (x.there.ofTask task) } := by
  refine { mirrors with tasks := mirrors.tasks.add task, works := ?_ }
  intro t mine' unfinished
  simp only [Slots.get_add] at unfinished ⊢
  split at unfinished
  · rename_i new
    rwa [if_pos new]
  · rename_i old
    rw [if_neg old]
    exact mirrors.works t mine' unfinished

theorem setRegistry (mirrors : c.Mirrors x d) {b : BridgeKey} {f g : Registry → Registry}
    (entries : (g (d.registry b)).get? x.id = ((f (c.registry b)).get? x.id).map x.there.script)
    (named : ∀ s, (f (c.registry b)).get? x.id = some s → c.Ours x s) :
    (c.setRegistry b f).Mirrors x (d.setRegistry b g) := by
  refine { mirrors with entries := ?_, named := ?_ }
  · intro b'
    simp only [Core.setRegistry]
    split
    · rename_i this
      subst this
      exact entries
    · exact mirrors.entries b'
  · intro b' s entry
    simp only [Core.setRegistry] at entry
    split at entry
    · rename_i this
      subst this
      exact named s entry
    · exact mirrors.named b' s entry

theorem pop (mirrors : c.Mirrors x d) {frame : Frame} {rest : List Frame}
    (above : c.stack = frame :: rest) (inside : x.base <:+ rest) :
    ∃ rest', d.stack = x.there.ofFrame frame :: rest' ∧ x.view.Keeps frame ∧
      { c with stack := rest }.Mirrors x { d with stack := rest' } := by
  obtain ⟨top, left, right, kept⟩ := mirrors.stack
  obtain ⟨above', rfl⟩ := inside
  have same : frame :: above' = top := by
    rw [above, ← List.cons_append] at left
    exact List.append_cancel_right left
  subst same
  obtain ⟨keeps, kept⟩ := List.forall_mem_cons.mp kept
  exact ⟨above'.map x.there.ofFrame ++ x.base, right, keeps,
    { mirrors with stack := ⟨above', rfl, rfl, kept⟩ }⟩

theorem settle_follows {runs runs' : Slots Run}
    (follows : runs.Follows x.runs x.there.ofRun (·.id ≠ x.id) (·.id ≠ x.id) runs') {r : RunKey}
    (mine : x.runs.mine r) (o : Outcome) :
    (runs.settle r o).Follows x.runs x.there.ofRun (·.id ≠ x.id) (·.id ≠ x.id)
      (runs'.settle (x.there.run r) o) := by
  have settled : (runs'.get (x.there.run r)).outcome = (runs.get r).outcome :=
    (congrArg Run.outcome (follows.get r mine)).trans rfl
  unfold Slots.settle
  rw [settled]
  split
  · exact follows
  · exact follows.update mine rfl

theorem settleCurrent_follows {runs runs' : Slots Run}
    (follows : runs.Follows x.runs x.there.ofRun (·.id ≠ x.id) (·.id ≠ x.id) runs')
    {current : Option RunKey} (mine : ∀ r, current = some r → x.runs.mine r) (o : Option Outcome) :
    (runs.settleCurrent current o).Follows x.runs x.there.ofRun (·.id ≠ x.id) (·.id ≠ x.id)
      (runs'.settleCurrent (current.map x.there.run) o) := by
  cases current with
  | none => exact follows
  | some r =>
    cases o with
    | none => exact follows
    | some o => exact settle_follows follows (mine r rfl) o

theorem judge (mirrors : c.Mirrors x d) (ours : c.Ours x s) {y : Milestone}
    (plain : x.there.ofMilestone y = y) : (c.judge s y).Mirrors x (d.judge (x.there.script s) y) := by
  have script := mirrors.script ours.1
  have noted := mirrors.note (.marked s y)
  rw [Renaming.ofDeed, plain] at noted
  unfold Core.judge
  rw [script]
  exact { noted with runs := settleCurrent_follows mirrors.runs (mirrors.own s ours).run _ }

theorem arm (mirrors : c.Mirrors x d) (ours : c.Ours x s) {token : Option TokenKey}
    (obeyed : ∀ t, token = some t → x.obeys t) (canceled : Bool) :
    (c.arm s token canceled).Mirrors x (d.arm (x.there.script s) token canceled) := by
  have script := mirrors.script ours.1
  have new : x.there.run c.runs.size = d.runs.size := mirrors.runs.there_size
  have owns := mirrors.own s ours
  have noted := mirrors.note (.marked s (.armed c.runs.size canceled))
  let f (script : Script) : Script := { script with run := some c.runs.size, token }
  let g (script : Script) : Script := { script with run := some d.runs.size, token }
  have written := noted.setScript (s := s) (f := f) (g := g) ours
    (fun script => by simp only [f, g, Renaming.ofScript, Option.map_some, new])
    fun _ => ⟨owns.id, owns.fiber, by rintro _ ⟨⟩; exact mirrors.runs.new, obeyed⟩
  have added := mirrors.runs.add { script := s, id := (c.scripts.get s).id }
  have first : (if canceled then
      (c.runs.add { script := s, id := (c.scripts.get s).id }).settle c.runs.size (.error .canceled)
      else c.runs.add { script := s, id := (c.scripts.get s).id }).Follows x.runs x.there.ofRun
        (·.id ≠ x.id) (·.id ≠ x.id)
      (if canceled then
        (d.runs.add { script := x.there.script s, id := (c.scripts.get s).id }).settle d.runs.size
          (.error .canceled)
      else d.runs.add { script := x.there.script s, id := (c.scripts.get s).id }) := by
    cases canceled with
    | false => exact added
    | true =>
      have settled := settle_follows added mirrors.runs.new (.error .canceled)
      rw [new] at settled
      exact settled
  simp only [Renaming.ofDeed, Renaming.ofMilestone, new] at written
  unfold Core.arm
  rw [script]
  exact { written with runs := settleCurrent_follows first owns.run _ }

-- What was suspended before is about things with the same number in both.
theorem stack_iff (mirrors : c.Mirrors x d) {z : Zone} {k : Nat} {p : Nat → Frame → Bool}
    (old : ∀ frame ∈ x.base, ∀ k, p k frame → k < z.first)
    (moves : ∀ frame, p (z.there k) (x.there.ofFrame frame) = p k frame) :
    (∃ frame ∈ d.stack, p (z.there k) frame) ↔ ∃ frame ∈ c.stack, p k frame := by
  obtain ⟨top, left, right, _⟩ := mirrors.stack
  rw [left, right]
  constructor
  · rintro ⟨frame, present, found⟩
    rcases List.mem_append.mp present with above | below
    · obtain ⟨frame, own, rfl⟩ := List.mem_map.mp above
      rw [moves] at found
      exact ⟨frame, List.mem_append_left _ own, found⟩
    · have same : z.there (z.there k) = z.there k := Zone.there_old (old frame below _ found)
      exact ⟨frame, List.mem_append_right _ below, Zone.there_inj.mp same ▸ found⟩
  · rintro ⟨frame, present, found⟩
    rcases List.mem_append.mp present with above | below
    · refine ⟨x.there.ofFrame frame, List.mem_append_left _ (List.mem_map_of_mem above), ?_⟩
      rwa [moves]
    · have same : z.there k = k := Zone.there_old (old frame below k found)
      exact ⟨frame, List.mem_append_right _ below, same.symm ▸ found⟩

theorem stack_holds (mirrors : c.Mirrors x d) :
    (∃ frame ∈ d.stack, frame.holdsScript (x.there.script s)) ↔
      ∃ frame ∈ c.stack, frame.holdsScript s :=
  mirrors.stack_iff (z := x.scripts) (p := Frame.holdsScript) x.old
    fun frame => Mirror.holdsScript_ofFrame frame s

theorem holds (mirrors : c.Mirrors x d) (mine : x.scripts.mine s) :
    d.Holds (x.there.script s) ↔ c.Holds s := by
  have script := mirrors.script mine
  constructor
  · intro holds
    cases holds with
    | handle owned => exact .handle (by rwa [script] at owned)
    | reference some => exact .reference (by rwa [script] at some)
    | frame present holds =>
      obtain ⟨frame, present, holds⟩ := mirrors.stack_holds.mp ⟨_, present, holds⟩
      exact .frame present holds
    | @task t' unfinished same =>
      by_cases image : x.tasks.Image t'
      · obtain ⟨t, mine', rfl⟩ := image
        have task : d.tasks.get (x.tasks.there t) = x.there.ofTask (c.tasks.get t) := mirrors.task mine'
        rw [task] at unfinished same
        exact .task unfinished (Zone.there_inj.mp same)
      · exact absurd (same.symm ▸ Zone.image mine) (mirrors.tasks.right t' image unfinished)
  · intro holds
    cases holds with
    | handle owned => exact .handle (by rwa [script])
    | reference some => exact .reference (by rwa [script])
    | frame present holds =>
      obtain ⟨frame, present, holds⟩ := mirrors.stack_holds.mpr ⟨_, present, holds⟩
      exact .frame present holds
    | @task t unfinished same =>
      have mine' : x.tasks.mine t :=
        Classical.byContradiction fun other => mirrors.tasks.left t other (same.symm ▸ mine)
      have task := mirrors.task mine'
      refine .task (t := x.there.task t) ?_ ?_
      · rw [task]
        exact unfinished
      · rw [task]
        exact congrArg x.there.script same

theorem held (mirrors : c.Mirrors x d) (mine : x.scripts.mine s) :
    d.held (x.there.script s) = c.held s := by
  rw [Bool.eq_iff_iff, held_iff, held_iff]
  exact mirrors.holds mine

theorem free (mirrors : c.Mirrors x d) (ours : c.Ours x s) :
    (c.free s).Mirrors x (d.free (x.there.script s)) := by
  have script := mirrors.script ours.1
  have owns := mirrors.own s ours
  have freed := mirrors.setScript (f := fun script => { script with freed := true })
    (g := fun script => { script with freed := true }) ours (fun _ => rfl)
    fun owns => ⟨owns.id, owns.fiber, owns.run, owns.token⟩
  have gone := freed.setFiber owns.fiber fun fiber => { fiber with gone := true }
  unfold Core.free
  rw [script]
  cases current : (c.scripts.get s).run with
  | none =>
    simp only [Renaming.ofScript, current, Option.map_none]
    exact gone
  | some r =>
    simp only [Renaming.ofScript, current, Option.map_some]
    exact gone.setRun (owns.run r current) fun _ => rfl

theorem freeLeft (mirrors : c.Mirrors x d) (other : ¬ x.scripts.mine s) : (c.free s).Mirrors x d := by
  have strange := mirrors.scripts.left s other
  have inside : s < c.scripts.size :=
    Nat.lt_of_lt_of_le (Zone.old_of_other other) mirrors.scripts.first
  let f (script : Script) : Script := { script with freed := true }
  have size : (c.scripts.update s f).size = c.scripts.size := Slots.size_update inside f
  have freed : { c with scripts := c.scripts.update s f }.Mirrors x d := by
    refine { mirrors with
      scripts := mirrors.scripts.updateLeft other fun kept => ⟨kept.id, kept.fiber, kept.run⟩
      own := ?_
      named := fun b s' entry => ⟨(mirrors.named b s' entry).1, size.symm ▸ (mirrors.named b s' entry).2⟩ }
    intro s' ours
    have apart : s ≠ s' := by
      rintro rfl
      exact other ours.1
    rw [Slots.get_update, if_neg apart]
    exact mirrors.own s' ⟨ours.1, size ▸ ours.2⟩
  let g (fiber : Fiber) : Fiber := { fiber with gone := true }
  let h (run : Run) : Run := { run with abandoned := true }
  have fibers := mirrors.fibers.updateLeft (g := g) strange.fiber id
  unfold Core.free
  dsimp only
  cases current : (c.scripts.get s).run with
  | none => exact { freed with fibers := fibers }
  | some r =>
    have runs := mirrors.runs.updateLeft (g := h) (strange.run r current) id
    exact { freed with fibers := fibers, runs := runs }

theorem freeRight (mirrors : c.Mirrors x d) (other : ¬ x.scripts.Image s) : c.Mirrors x (d.free s) := by
  have foreign := mirrors.scripts.right s other
  let f (script : Script) : Script := { script with freed := true }
  let g (fiber : Fiber) : Fiber := { fiber with gone := true }
  let h (run : Run) : Run := { run with abandoned := true }
  have scripts := mirrors.scripts.updateRight (h := f) other fun kept => ⟨kept.id, kept.fiber, kept.run⟩
  have fibers := mirrors.fibers.updateRight (h := g) foreign.fiber id
  unfold Core.free
  dsimp only
  cases current : (d.scripts.get s).run with
  | none => exact { mirrors with scripts := scripts, fibers := fibers }
  | some r =>
    have runs := mirrors.runs.updateRight (h := h) (foreign.run r current) id
    exact { mirrors with scripts := scripts, fibers := fibers, runs := runs }

end Mirrors

end Core

end FiberBridge
