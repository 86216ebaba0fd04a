import FiberBridge.Proofs.Along
import FiberBridge.Proofs.Homes

namespace FiberBridge

namespace Core

-- Fibers stay in the context they were compiled in, what is gone stays gone, and nothing that was done
-- is undone. Only a move that compiles in a context brings a fiber into it.
structure Furnished (power : Power) (c d : Core) : Prop where
  kept : ∀ f x, (c.fibers.get f).context = some x → (d.fibers.get f).context = some x
  fresh : ∀ f x, (d.fibers.get f).context = some x →
    (c.fibers.get f).context = some x ∨ power.compiles x
  gone : ∀ f, (c.fibers.get f).gone → (d.fibers.get f).gone
  deeds : ∀ x ∈ c.deeds, x ∈ d.deeds

namespace Furnished

variable {power : Power} {c d e : Core} {l : List (ScriptKey × Milestone)}

theorem trans (left : c.Furnished power d) (right : d.Furnished power e) : c.Furnished power e := by
  refine ⟨?_, ?_, ?_, ?_⟩
  · intro f x compiled
    exact right.kept f x (left.kept f x compiled)
  · intro f x compiled
    exact (right.fresh f x compiled).elim (left.fresh f x) .inr
  · intro f gone
    exact right.gone f (left.gone f gone)
  · intro x done
    exact right.deeds x (left.deeds x done)

theorem same (fibers : d.fibers = c.fibers) (deeds : ∀ x ∈ c.deeds, x ∈ d.deeds) :
    c.Furnished power d := by
  refine ⟨?_, ?_, ?_, deeds⟩
  · intro f x
    rw [fibers]
    exact id
  · intro f x
    rw [fibers]
    exact .inl
  · intro f
    rw [fibers]
    exact id

theorem updated {f : FiberKey} {g : Fiber → Fiber} (fibers : d.fibers = c.fibers.update f g)
    (kept : ∀ fiber, (g fiber).context = fiber.context ∧ (fiber.gone → (g fiber).gone))
    (deeds : ∀ x ∈ c.deeds, x ∈ d.deeds) : c.Furnished power d := by
  have context (f' : FiberKey) : (d.fibers.get f').context = (c.fibers.get f').context := by
    rw [fibers]
    exact Slots.field_update Fiber.context (fun fiber => (kept fiber).1) ..
  refine ⟨?_, ?_, ?_, deeds⟩
  · intro f' x
    rw [context]
    exact id
  · intro f' x
    rw [context]
    exact .inl
  · intro f' gone
    rw [fibers, Slots.get_update]
    split
    · exact (kept _).2 gone
    · exact gone

theorem change (change : Change power c l d) : c.Furnished power d := by
  have done {x : Deed} : ∀ y ∈ c.deeds, y ∈ x :: c.deeds := fun _ => List.mem_cons_of_mem _
  cases change with
  | accepted held made vacant =>
    exact updated (g := fun fiber => { fiber with held := false }) rfl (fun _ => ⟨rfl, id⟩) fun _ => id
  | refused held made =>
    exact updated (g := fun fiber => { fiber with held := false, released := true }) rfl
      (fun _ => ⟨rfl, id⟩) done
  | disposing known meant live =>
    exact updated (g := fun fiber => { fiber with released := true }) rfl (fun _ => ⟨rfl, id⟩) done
  | letGo held =>
    exact updated (g := fun fiber => { fiber with held := false, released := true }) rfl
      (fun _ => ⟨rfl, id⟩) done
  | released top =>
    exact updated (g := fun fiber => { fiber with gone := true }) rfl (fun _ => ⟨rfl, fun _ => rfl⟩)
      fun _ => id
  | freed made kept unheld =>
    exact updated (g := fun fiber => { fiber with gone := true }) rfl (fun _ => ⟨rfl, fun _ => rfl⟩)
      fun _ => id
  | @seen f ordinal =>
    exact updated (g := fun fiber => { fiber with ordinal }) rfl (fun _ => ⟨rfl, id⟩) fun _ => id
  | @made fiber fresh meant =>
    have outside {f : FiberKey} (new : c.fibers.size = f) : c.fibers.get f = default :=
      Slots.get_of_size_le (Nat.le_of_eq new)
    refine ⟨?_, ?_, ?_, fun _ => id⟩
    · intro f x compiled
      rw [Slots.get_add]
      split
      · rename_i new
        rw [outside new] at compiled
        cases compiled
      · exact compiled
    · intro f x compiled
      rw [Slots.get_add] at compiled
      split at compiled
      · exact .inr (meant x compiled)
      · exact .inl compiled
    · intro f gone
      rw [Slots.get_add]
      split
      · rename_i new
        rw [outside new] at gone
        cases gone
      · exact gone
  | popped top plain kept => exact same rfl fun _ => id
  | unwound top allowed => exact same rfl fun _ => id
  | disowned known ended => exact same rfl fun _ => id
  | referred refs known => exact same rfl fun _ => id
  | unawaited made => exact same rfl fun _ => id
  | spawned known unfinished => exact same rfl fun _ => id
  | finished idle => exact same rfl fun _ => id
  | begun => exact same rfl fun _ => id
  | _ => exact same rfl done

theorem path (path : Path power c l d) : c.Furnished power d :=
  path.preserves (c.Furnished power ·) (fun before one => before.trans (change one))
    (same rfl fun _ => id)

end Furnished

structure Sound (c : Core) : Prop where
  steady : Steady c
  protocol : Protocol c
  housed : c.Housed

namespace Sound

variable {power : Power} {c d : Core} {l : List (ScriptKey × Milestone)}

theorem path (sound : c.Sound) (path : Path power c l d) : d.Sound :=
  path.preserves Sound (fun ⟨steady, protocol, housed⟩ one =>
    ⟨steady.change one, protocol.change one, housed.change protocol one⟩) sound

theorem released (sound : c.Sound) {f : FiberKey} (compiled : (c.fibers.get f).context.isSome)
    (gone : (c.fibers.get f).gone) : .called (.dispose f) ∈ c.deeds := by
  obtain ⟨steady, protocol, housed⟩ := sound
  cases (housed f).home compiled with
  | host held =>
    rw [(housed f).held held] at gone
    cases gone
  | script some =>
    obtain ⟨s, made, rfl⟩ := some
    refine (protocol.released s made).mp ?_
    cases live : (c.scripts.get s).disposed with
    | true => rfl
    | false =>
      have kept := (steady.held s (.handle (steady.owned s live))).2
      rw [(housed _).freed s made rfl, kept] at gone
      cases gone
  | out called left => exact called

end Sound

end Core

-- What was done, with the time when it was. In these events, newest first, a context goes only after
-- the fibers that were compiled in it were released.
def Closing (fibers : Slots Fiber) : List Event → Prop
  | [] => True
  | e :: earlier =>
    (∀ x, e.letsGo? = some x → ∀ f, (fibers.get f).context = some x →
      .called (.dispose f) ∈ earlier.filterMap Event.deed?) ∧ Closing fibers earlier

namespace Closing

variable {fibers fibers' : Slots Fiber} {news events later earlier : List Event} {x : ContextKey}

theorem append (closing : Closing fibers events) (plain : ∀ e ∈ news, e.letsGo? = none) :
    Closing fibers (news ++ events) := by
  induction news with
  | nil => exact closing
  | cons e rest ih =>
    refine ⟨?_, ih fun e' present => plain e' (List.mem_cons_of_mem _ present)⟩
    intro x goes
    rw [plain e List.mem_cons_self] at goes
    cases goes

theorem refit (closing : Closing fibers events)
    (before : ∀ f x, (fibers'.get f).context = some x →
      (fibers.get f).context = some x ∨ x ∉ events.filterMap Event.letsGo?) :
    Closing fibers' events := by
  induction events with
  | nil => trivial
  | cons e rest ih =>
    refine ⟨?_, ih closing.2 fun f x compiled => (before f x compiled).imp_right ?_⟩
    · intro x goes f compiled
      rcases before f x compiled with old | never
      · exact closing.1 x goes f old
      · exact absurd (List.mem_filterMap.mpr ⟨e, List.mem_cons_self, goes⟩) never
    · intro never present
      obtain ⟨e', there, goes⟩ := List.mem_filterMap.mp present
      exact never (List.mem_filterMap.mpr ⟨e', List.mem_cons_of_mem _ there, goes⟩)

theorem released (closing : Closing fibers (later ++ .native (.contextDispose x) :: earlier))
    {f : FiberKey} (compiled : (fibers.get f).context = some x) :
    .called (.dispose f) ∈ earlier.filterMap Event.deed? := by
  induction later with
  | nil => exact closing.1 x rfl f compiled
  | cons e rest ih => exact ih closing.2

end Closing

namespace Machine

variable {m n next : Machine} {power : Power}

def lettings (m : Machine) : List ContextKey := m.events.filterMap Event.letsGo?

theorem lettings_append {news : List Event} (told : n.events = news ++ m.events)
    (plain : ∀ e ∈ news, e.letsGo? = none) : n.lettings = m.lettings := by
  unfold lettings
  rw [told, List.filterMap_append, List.filterMap_eq_nil_iff.mpr plain, List.nil_append]

theorem contextHeld_iff {x : ContextKey} : m.contextHeld x = true ↔
    (m.contexts.get x).held ∨
      ∃ f, (m.fibers.get f).context = some x ∧ (m.fibers.get f).gone = false := by
  have fibers := Slots.any_iff (t := m.fibers) (p := fun f => f.context = some x && !f.gone) rfl
  unfold contextHeld
  simp only [Bool.or_eq_true, fibers, Bool.and_eq_true, decide_eq_true_eq, Bool.not_eq_true']

structure Leased (m : Machine) : Prop where
  there : ∀ f x, (m.fibers.get f).context = some x → x < m.contexts.size
  closed : ∀ x, x < m.contexts.size → (m.contexts.get x).disposed → m.contextHeld x = false
  counted : ∀ x, m.lettings.count x =
    if x < m.contexts.size ∧ (m.contexts.get x).disposed then 1 else 0
  ordered : Closing m.fibers m.events

namespace Leased

theorem live_of_held (leased : m.Leased) {x : ContextKey} (held : (m.contexts.get x).held) :
    x < m.contexts.size ∧ (m.contexts.get x).disposed = false := by
  have made : x < m.contexts.size := by
    refine Nat.lt_of_not_le fun new => ?_
    rw [Slots.get_of_size_le new] at held
    cases held
  refine ⟨made, Bool.eq_false_iff.mpr fun disposed => ?_⟩
  have free := leased.closed x made disposed
  rw [contextHeld_iff.mpr (.inl held)] at free
  cases free

theorem onward (leased : m.Leased) (furnished : m.core.Furnished power n.core)
    (meant : ∀ x, power.compiles x → (m.contexts.get x).held)
    (contexts : n.contexts = m.contexts)
    (events : ∃ news, n.events = news ++ m.events ∧ ∀ e ∈ news, e.letsGo? = none) : n.Leased := by
  obtain ⟨news, told, plain⟩ := events
  have came (f : FiberKey) (x : ContextKey) (compiled : (n.fibers.get f).context = some x) :
      (m.fibers.get f).context = some x ∨ (m.contexts.get x).held :=
    (furnished.fresh f x compiled).imp_right (meant x)
  have lettings := lettings_append told plain
  refine ⟨?_, ?_, ?_, ?_⟩
  · intro f x compiled
    rw [contexts]
    exact (came f x compiled).elim (leased.there f x) fun held => (leased.live_of_held held).1
  · intro x made disposed
    rw [contexts] at made disposed
    refine Bool.eq_false_iff.mpr fun held => ?_
    have free := leased.closed x made disposed
    have kept : m.contextHeld x = true := by
      rcases contextHeld_iff.mp held with host | ⟨f, compiled, still⟩
      · exact contextHeld_iff.mpr (.inl (contexts ▸ host))
      · rcases came f x compiled with old | host
        · refine contextHeld_iff.mpr (.inr ⟨f, old, Bool.eq_false_iff.mpr fun gone => ?_⟩)
          have gone : (n.fibers.get f).gone := furnished.gone f gone
          rw [still] at gone
          cases gone
        · exact contextHeld_iff.mpr (.inl host)
    rw [kept] at free
    cases free
  · intro x
    rw [lettings, contexts]
    exact leased.counted x
  · rw [told]
    refine Closing.append (leased.ordered.refit fun f x compiled => ?_) plain
    refine (came f x compiled).imp_right fun held => ?_
    have never := leased.counted x
    rw [if_neg fun gone => by simp [(leased.live_of_held held).2] at gone] at never
    exact List.count_eq_zero.mp never

theorem rehost (leased : m.Leased) (fibers : n.fibers = m.fibers)
    (events : ∃ news, n.events = news ++ m.events ∧ ∀ e ∈ news, e.letsGo? = none)
    (room : m.contexts.size ≤ n.contexts.size)
    (old : ∀ x, x < m.contexts.size → (n.contexts.get x).disposed = (m.contexts.get x).disposed ∧
      ((n.contexts.get x).held → (m.contexts.get x).held))
    (new : ∀ x, m.contexts.size ≤ x → x < n.contexts.size → (n.contexts.get x).disposed = false) :
    n.Leased := by
  obtain ⟨news, told, plain⟩ := events
  have lettings := lettings_append told plain
  have made {x : ContextKey} (inside : x < n.contexts.size) (disposed : (n.contexts.get x).disposed) :
      x < m.contexts.size := by
    refine Nat.lt_of_not_le fun outside => ?_
    rw [new x outside inside] at disposed
    cases disposed
  refine ⟨?_, ?_, ?_, ?_⟩
  · intro f x compiled
    rw [fibers] at compiled
    exact Nat.lt_of_lt_of_le (leased.there f x compiled) room
  · intro x inside disposed
    obtain ⟨same, host⟩ := old x (made inside disposed)
    refine Bool.eq_false_iff.mpr fun held => ?_
    have free := leased.closed x (made inside disposed) (same ▸ disposed)
    have kept := (contextHeld_iff.mp held).imp_left host
    rw [fibers] at kept
    rw [contextHeld_iff.mpr kept] at free
    cases free
  · intro x
    have gone : (x < n.contexts.size ∧ (n.contexts.get x).disposed) ↔
        (x < m.contexts.size ∧ (m.contexts.get x).disposed) := by
      constructor
      · rintro ⟨inside, disposed⟩
        have before := made inside disposed
        exact ⟨before, (old x before).1 ▸ disposed⟩
      · rintro ⟨inside, disposed⟩
        exact ⟨Nat.lt_of_lt_of_le inside room, (old x inside).1 ▸ disposed⟩
    simp only [lettings, leased.counted, gone]
  · rw [told, fibers]
    exact leased.ordered.append plain

theorem newContext (leased : m.Leased) (available : Bool) : (m.newContext available).1.Leased := by
  have asked : ∀ e ∈ [Event.native .contextNew], e.letsGo? = none := by simp [Event.letsGo?]
  unfold Machine.newContext
  cases available with
  | false =>
    exact leased.rehost rfl ⟨_, rfl, asked⟩ (Nat.le_refl _) (fun _ _ => ⟨rfl, id⟩)
      fun x outside inside => absurd inside (Nat.not_lt_of_le outside)
  | true =>
    let contexts := m.contexts.add { held := true, disposed := false }
    refine leased.rehost rfl ⟨_, rfl, asked⟩ ?_ ?_ ?_
    · exact Nat.le_of_lt (Nat.lt_of_lt_of_eq (Nat.lt_succ_self _) (Slots.size_add ..).symm)
    · intro x inside
      have same : contexts.get x = m.contexts.get x := Slots.get_add_old inside _
      exact ⟨congrArg Context.disposed same, fun held => (congrArg Context.held same).symm.trans held⟩
    · intro x outside inside
      have inside : x = m.contexts.size ∨ x < m.contexts.size := Slots.lt_size_add.mp inside
      have same : x = m.contexts.size := inside.resolve_right (Nat.not_lt_of_le outside)
      subst same
      exact congrArg Context.disposed (Slots.get_add_self m.contexts _)

theorem dropContext (leased : m.Leased) {c : ContextKey} (held : (m.contexts.get c).held) :
    (m.launch (.dropContext c)).1.Leased := by
  let contexts := m.contexts.update c fun context => { context with held := false }
  have size : contexts.size = m.contexts.size :=
    Slots.size_update (leased.live_of_held held).1 _
  refine leased.rehost rfl ⟨[], rfl, List.forall_mem_nil _⟩ (Nat.le_of_eq size.symm) ?_ ?_
  · intro x inside
    refine ⟨Slots.field_update Context.disposed (f := fun context => { context with held := false })
      (fun _ => rfl) .., ?_⟩
    change (contexts.get x).held → _
    rw [Slots.get_update]
    split
    · nofun
    · exact id
  · intro x outside inside
    exact absurd (Nat.lt_of_lt_of_eq inside size) (Nat.not_lt_of_le outside)

theorem sweepContext (leased : m.Leased) (sound : m.core.Sound) {c : ContextKey}
    (made : c < m.contexts.size) : (m.sweepContext c).Leased := by
  unfold Machine.sweepContext
  split
  · exact leased
  · rename_i unkept
    have free : (m.contexts.get c).disposed = false ∧ m.contextHeld c = false := by
      simpa using unkept
    have nobody : ¬ ((m.contexts.get c).held ∨
        ∃ f, (m.fibers.get f).context = some c ∧ (m.fibers.get f).gone = false) := by
      intro kept
      rw [contextHeld_iff.mpr kept] at free
      cases free.2
    let contexts := m.contexts.update c fun context => { context with disposed := true }
    have size : contexts.size = m.contexts.size := Slots.size_update made _
    have context (x : ContextKey) : contexts.get x =
        if c = x then { m.contexts.get x with disposed := true } else m.contexts.get x :=
      Slots.get_update ..
    refine ⟨?_, ?_, ?_, ?_, leased.ordered⟩
    · intro f x compiled
      exact Nat.lt_of_lt_of_le (leased.there f x compiled) (Nat.le_of_eq size.symm)
    · intro x made' disposed
      have made' : x < contexts.size := made'
      have disposed : (contexts.get x).disposed := disposed
      change ((contexts.get x).held || _) = false
      rw [context] at disposed ⊢
      split
      · rename_i same
        subst same
        exact free.2
      · rename_i other
        rw [if_neg other] at disposed
        exact leased.closed x (size ▸ made') disposed
    · intro x
      change (c :: m.lettings).count x = if x < contexts.size ∧ (contexts.get x).disposed then 1 else 0
      rw [size, context]
      by_cases this : c = x
      · subst this
        have never : m.lettings.count c = 0 :=
          (leased.counted c).trans (if_neg (by simp [free.1]))
        rw [List.count_cons_self, never, if_pos rfl, if_pos ⟨made, rfl⟩]
      · rw [List.count_cons_of_ne this, if_neg this]
        exact leased.counted x
    · intro x goes f compiled
      cases goes
      refine sound.released (Option.isSome_iff_exists.mpr ⟨c, compiled⟩) ?_
      exact Bool.not_eq_false _ ▸ fun still => nobody (.inr ⟨f, compiled, still⟩)

theorem sweepContexts (leased : m.Leased) (sound : m.core.Sound) (keys : List ContextKey)
    (made : ∀ c ∈ keys, c < m.contexts.size) : (keys.foldl Machine.sweepContext m).Leased := by
  induction keys generalizing m with
  | nil => exact leased
  | cons c rest ih =>
    have here := made c List.mem_cons_self
    have core : (m.sweepContext c).core = m.core := m.sweepContext_core c
    refine ih (leased.sweepContext sound here) (core ▸ sound) fun c' present => ?_
    rw [(sweepContext_releases here).1.size]
    exact made c' (List.mem_cons_of_mem _ present)

theorem sweep (leased : m.Leased) (sound : m.core.Sound) (bounded : m.Bounded) : m.sweep.Leased := by
  have path : Path .none m.core []
      (m.scripts.keys.foldl sweepScript m).core :=
    sweepScripts_path m.scripts.keys fun _ present => Slots.mem_keys.mp present
  have calm := (sweepScripts_alike (.refl (.refl bounded)) m.scripts.keys).calm
  have freed := leased.onward (Core.Furnished.path path) nofun calm.contexts calm.events
  exact freed.sweepContexts (sound.path path) _ fun _ present => Slots.mem_keys.mp present

theorem launch (leased : m.Leased) (steady : Steady m.core) (bounded : m.Bounded) {op : Op}
    (admitted : m.Admits op) : (m.launch op).1.Leased := by
  have furnished := Core.Furnished.path (launch_path steady admitted (misses_none op))
  have meant : ∀ x, (m.power (.invoke op)).compiles x → (m.contexts.get x).held := by
    rintro x ⟨length, made, same⟩
    cases same
    exact admitted
  have onward (calm : op.calm) : (m.launch op).1.Leased := by
    have alike := (launch_along (.refl (.refl bounded)) calm).alike
    exact leased.onward furnished meant alike.calm.contexts alike.calm.events
  cases op with
  | cancel t => exact leased.onward furnished meant rfl ⟨[], rfl, List.forall_mem_nil _⟩
  | newContext available => exact leased.newContext available
  | dropContext c => exact leased.dropContext admitted
  | _ => exact onward rfl

theorem tell (leased : m.Leased) (d : Diagnostic) : (m.tell d).Leased :=
  leased.rehost rfl ⟨[.told d m.scope], rfl, by simp [Event.letsGo?]⟩ (Nat.le_refl _)
    (fun _ _ => ⟨rfl, id⟩) fun x outside inside => absurd inside (Nat.not_lt_of_le outside)

theorem recover (leased : m.Leased) (sound : m.core.Sound) (bounded : m.Bounded) {p : Panic}
    {frame : Frame} {rest : List Frame} (top : m.stack = frame :: rest) :
    ({ m with stack := rest }.recover p frame).1.Leased := by
  let power : Power := { Power.none with loses := fun _ => True }
  have popped : Machine.Twin { m with stack := rest } { m with stack := rest } := .refl bounded
  have path : Path power m.core (m.unwindFate p frame) ({ m with stack := rest }.recover p frame).1.core :=
    recover_path sound.steady top (Core.apart_none ..) fun _ _ _ => trivial
  rcases recover_along (.refl popped) p frame with along | ⟨kind, id, left, _⟩
  · exact leased.onward (Core.Furnished.path path) nofun along.alike.calm.contexts
      along.alike.calm.events
  · -- Only an operation that served a callback unwinds like that, and it released nothing.
    have plain : (∀ s, frame.disposes s = false) ∧ frame.leaves = false := by
      have came := congrArg Prod.snd left
      cases frame with
      | disposing s dropped => cases came
      | releasing f => cases came
      | _ => exact ⟨fun _ => rfl, rfl⟩
    have before : Path power m.core [] { m with stack := rest }.core :=
      .one (.popped top plain.1 plain.2 (Core.apart_none ..))
    have here : Machine.Leased { m with stack := rest } :=
      leased.onward (Core.Furnished.path before) nofun rfl ⟨[], rfl, List.forall_mem_nil _⟩
    rw [left]
    exact (here.sweep (sound.path before) bounded).tell _

end Leased

theorem step_leased {move : Move} {r : Reaction} (leased : m.Leased) (sound : m.core.Sound)
    (bounded : m.Bounded) (step : Step m move next r) : next.Leased := by
  have twin := Twin.refl bounded
  cases move with
  | invoke op =>
    obtain ⟨admitted, rfl, _⟩ := step.invoked
    exact (leased.launch sound.steady bounded admitted).sweep
      (sound.path (launch_path sound.steady admitted (misses_none op))) (launch_twin twin op).1.bounded
  | answer reply =>
    obtain ⟨frame, rest, after, top, continued, rfl, _⟩ := step.answered
    have path : Path .none m.core (m.replyFate frame reply) after.1.core :=
      continue?_path sound.steady top (Core.apart_none ..) continued
    have along := continue?_along (.refl (twin.popped rest)) frame reply
    rw [continued] at along
    cases along with
    | some along =>
      have came := leased.onward (Core.Furnished.path path) nofun along.alike.calm.contexts
        along.alike.calm.events
      exact came.sweep (sound.path path) along.alike.twin.bounded
  | unwind p =>
    obtain ⟨frame, rest, top, rfl, _⟩ := step.unwound
    let power : Power := { Power.none with loses := fun _ => True }
    have path : Path power m.core (m.unwindFate p frame)
        ({ m with stack := rest }.recover p frame).1.core :=
      recover_path sound.steady top (Core.apart_none ..) fun _ _ _ => trivial
    exact (leased.recover sound bounded top).sweep (sound.path path)
      (recover_twin (twin.popped rest) p frame).1.bounded

theorem Reachable.sound (reached : Reachable m) : m.core.Sound :=
  ⟨reached.steady, reached.protocol, reached.housed⟩

theorem Reachable.leased (reached : Reachable m) : m.Leased := by
  induction reached with
  | initial =>
    refine ⟨?_, ?_, ?_, trivial⟩
    · intro f x compiled
      have no_fiber : Machine.initial.fibers.get f = default := Slots.get_empty f
      rw [no_fiber] at compiled
      cases compiled
    · intro x made
      cases made
    · intro x
      exact (if_neg fun gone => absurd gone.1 (Nat.not_lt_zero _)).symm
  | step prior step ih => exact step_leased ih prior.sound prior.bounded step

end Machine

end FiberBridge
