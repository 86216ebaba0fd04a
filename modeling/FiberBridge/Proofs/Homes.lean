import FiberBridge.Proofs.Protocol
import FiberBridge.Proofs.Swept

namespace FiberBridge

namespace Core

def Registered (c : Core) (f : FiberKey) : Prop :=
  ∃ s, s < c.scripts.size ∧ (c.scripts.get s).fiber = f

inductive Home (c : Core) (f : FiberKey) : Prop where
  | host (held : (c.fibers.get f).held)
  | script (registered : c.Registered f)
  | out (called : .called (.dispose f) ∈ c.deeds)
      (left : .releasing f ∈ c.stack ∨ (c.fibers.get f).gone)

-- How it stands with one fiber: with the scripts that were made of it, and on the stack.
structure Lodged (c : Core) (f : FiberKey) : Prop where
  freed : ∀ s, s < c.scripts.size → (c.scripts.get s).fiber = f →
    (c.fibers.get f).gone = (c.scripts.get s).freed
  held : (c.fibers.get f).held → (c.fibers.get f).gone = false
  leaving : .releasing f ∈ c.stack →
    ¬ c.Unused f ∧ ¬ c.Registered f ∧ (c.fibers.get f).gone = false
  once : c.stack.count (.releasing f) ≤ 1
  home : (c.fibers.get f).context.isSome → c.Home f

def Housed (c : Core) : Prop := ∀ f, c.Lodged f

-- The stack changes by no compiled fiber, and nothing that was done is undone.
structure Onward (c d : Core) : Prop where
  stack : ∀ f, d.stack.count (.releasing f) = c.stack.count (.releasing f)
  deeds : ∀ x ∈ c.deeds, x ∈ d.deeds

namespace Onward

variable {c d : Core} {x : Deed} {frame : Frame}

theorem ne_releasing {f : FiberKey} (other : frame.leaves = false) : frame ≠ .releasing f := by
  rintro rfl
  cases other

theorem still (stack : d.stack = c.stack) (deeds : d.deeds = c.deeds) : c.Onward d :=
  ⟨fun _ => by rw [stack], fun _ => by rw [deeds]; exact id⟩

theorem noted (stack : d.stack = c.stack) (deeds : d.deeds = x :: c.deeds) : c.Onward d :=
  ⟨fun _ => by rw [stack], fun _ => by rw [deeds]; exact List.mem_cons_of_mem _⟩

theorem pushed (stack : d.stack = frame :: c.stack) (deeds : d.deeds = x :: c.deeds)
    (other : frame.leaves = false) : c.Onward d := by
  refine ⟨fun f => ?_, fun _ => ?_⟩
  · rw [stack]
    exact List.count_cons_of_ne (ne_releasing other)
  · rw [deeds]
    exact List.mem_cons_of_mem _

theorem popped (stack : c.stack = frame :: d.stack) (deeds : ∀ x ∈ c.deeds, x ∈ d.deeds)
    (other : frame.leaves = false) : c.Onward d := by
  refine ⟨fun f => ?_, deeds⟩
  rw [stack]
  exact (List.count_cons_of_ne (ne_releasing other)).symm

end Onward

def SparesFiber (c d : Core) (f : FiberKey) : Prop :=
  c.fibers.size ≤ d.fibers.size ∧ (d.fibers.get f).held = (c.fibers.get f).held ∧
    (d.fibers.get f).gone = (c.fibers.get f).gone ∧
    (d.fibers.get f).context = (c.fibers.get f).context

structure SparesScript (c d : Core) (f : FiberKey) : Prop where
  stays : c.Registered f → d.Registered f
  older : ∀ s, s < d.scripts.size → (d.scripts.get s).fiber = f →
    s < c.scripts.size ∧ (c.scripts.get s).fiber = f ∧
      (d.scripts.get s).freed = (c.scripts.get s).freed

section

variable {c d : Core} {f : FiberKey}

theorem SparesFiber.same (fibers : d.fibers = c.fibers) : c.SparesFiber d f := by
  unfold SparesFiber
  rw [fibers]
  exact ⟨Nat.le_refl _, rfl, rfl, rfl⟩

theorem SparesFiber.updated {f' : FiberKey} {g : Fiber → Fiber}
    (fibers : d.fibers = c.fibers.update f' g)
    (kept : f' = f → ∀ fiber, (g fiber).held = fiber.held ∧ (g fiber).gone = fiber.gone ∧
      (g fiber).context = fiber.context) : c.SparesFiber d f := by
  unfold SparesFiber
  rw [fibers, Slots.get_update]
  refine ⟨Slots.size_le_update .., ?_⟩
  split
  · rename_i same
    exact kept same _
  · exact ⟨rfl, rfl, rfl⟩

theorem SparesScript.same (scripts : d.scripts = c.scripts) : c.SparesScript d f := by
  refine ⟨?_, ?_⟩
  · unfold Registered
    rw [scripts]
    exact id
  · intro s
    rw [scripts]
    exact fun made own => ⟨made, own, rfl⟩

theorem SparesScript.updated {s : ScriptKey} {g : Script → Script} (made : s < c.scripts.size)
    (scripts : d.scripts = c.scripts.update s g) (own : ∀ script, (g script).fiber = script.fiber)
    (freed : (c.scripts.get s).fiber = f → ∀ script, (g script).freed = script.freed) :
    c.SparesScript d f := by
  have size : d.scripts.size = c.scripts.size := by rw [scripts, Slots.size_update made]
  have fiber (s' : ScriptKey) : (d.scripts.get s').fiber = (c.scripts.get s').fiber := by
    rw [scripts]
    exact Slots.field_update Script.fiber own ..
  refine ⟨?_, ?_⟩
  · rintro ⟨s', made', own'⟩
    exact ⟨s', size ▸ made', (fiber s').trans own'⟩
  · intro s' made' own'
    rw [fiber] at own'
    refine ⟨size ▸ made', own', ?_⟩
    rw [scripts, Slots.get_update]
    split
    · rename_i this
      subst this
      exact freed own' _
    · rfl

theorem Lodged.spared (lodged : c.Lodged f) (fibers : c.SparesFiber d f)
    (scripts : c.SparesScript d f)
    (stack : d.stack.count (.releasing f) = c.stack.count (.releasing f))
    (deeds : ∀ x ∈ c.deeds, x ∈ d.deeds) : d.Lodged f := by
  obtain ⟨room, held, gone, context⟩ := fibers
  have present : .releasing f ∈ d.stack ↔ .releasing f ∈ c.stack := by
    rw [← List.count_pos_iff, stack, List.count_pos_iff]
  refine ⟨?_, ?_, ?_, ?_, ?_⟩
  · intro s made own
    obtain ⟨made', own', freed⟩ := scripts.older s made own
    rw [gone, freed]
    exact lodged.freed s made' own'
  · rw [held, gone]
    exact lodged.held
  · intro there
    obtain ⟨used, none, still⟩ := lodged.leaving (present.mp there)
    refine ⟨?_, ?_, gone.trans still⟩
    · rintro (host | new)
      · exact used (.inl (held ▸ host))
      · exact used (.inr (Nat.le_trans room new))
    · rintro ⟨s, made, own⟩
      obtain ⟨made', own', _⟩ := scripts.older s made own
      exact none ⟨s, made', own'⟩
  · rw [stack]
    exact lodged.once
  · rw [context]
    intro compiled
    cases lodged.home compiled with
    | host host => exact .host (held.trans host)
    | script some => exact .script (scripts.stays some)
    | out called left => exact .out (deeds _ called) (left.imp present.mpr gone.trans)

end

namespace Housed

variable {power : Power} {c d : Core} {l : List (ScriptKey × Milestone)} {f : FiberKey}
  {s : ScriptKey}

theorem transfer (housed : c.Housed) (fibers : ∀ f, c.SparesFiber d f)
    (scripts : ∀ f, c.SparesScript d f) (onward : c.Onward d) : d.Housed :=
  fun f => (housed f).spared (fibers f) (scripts f) (onward.stack f) onward.deeds

theorem alike (housed : c.Housed) (fibers : d.fibers = c.fibers) (scripts : d.scripts = c.scripts)
    (onward : c.Onward d) : d.Housed :=
  housed.transfer (fun _ => .same fibers) (fun _ => .same scripts) onward

theorem register (housed : c.Housed) {g : Fiber → Fiber} {script : Script}
    (held : (c.fibers.get f).held)
    (let_go : ∀ fiber, (g fiber).held = false ∧ (g fiber).gone = fiber.gone)
    (fibers : d.fibers = c.fibers.update f g) (scripts : d.scripts = c.scripts.add script)
    (own : script.fiber = f ∧ script.freed = false) (onward : c.Onward d) : d.Housed := by
  have new : d.scripts.get c.scripts.size = script := by rw [scripts, Slots.get_add_self]
  have old {s : ScriptKey} (there : s < c.scripts.size) : d.scripts.get s = c.scripts.get s := by
    rw [scripts, Slots.get_add_old there]
  have key {s : ScriptKey} (there : s < d.scripts.size) :
      s = c.scripts.size ∨ s < c.scripts.size := by
    rw [scripts] at there
    exact Slots.lt_size_add.mp there
  have room : c.scripts.size < d.scripts.size := by
    rw [scripts, Slots.size_add]
    exact Nat.lt_succ_self _
  intro f'
  by_cases this : f = f'
  · subst this
    have fiber : d.fibers.get f = g (c.fibers.get f) := by
      rw [fibers, Slots.get_update, if_pos rfl]
    have still : (d.fibers.get f).gone = false := by
      rw [fiber, (let_go _).2]
      exact (housed f).held held
    refine ⟨?_, fun _ => still, ?_, ?_, ?_⟩
    · intro s there own'
      rw [still]
      rcases key there with rfl | there
      · rw [new, own.2]
      · rw [old there] at own' ⊢
        rw [← (housed f).freed s there own']
        exact ((housed f).held held).symm
    · intro present
      rw [← List.count_pos_iff, onward.stack, List.count_pos_iff] at present
      exact absurd (.inl held) ((housed f).leaving present).1
    · rw [onward.stack]
      exact (housed f).once
    · intro _
      exact .script ⟨c.scripts.size, room, by rw [new, own.1]⟩
  · refine (housed f').spared (.updated fibers fun same => absurd same this) ⟨?_, ?_⟩
      (onward.stack f') onward.deeds
    · rintro ⟨s, made, own'⟩
      exact ⟨s, Nat.lt_trans made room, by rw [old made, own']⟩
    · intro s made own'
      rcases key made with rfl | there
      · rw [new, own.1] at own'
        exact absurd own' this
      · rw [old there] at own' ⊢
        exact ⟨there, own', rfl⟩

theorem letGo (housed : c.Housed) (protocol : Protocol c) (held : (c.fibers.get f).held) :
    Core.Housed ((c.setFiber f fun fiber => { fiber with held := false, released := true }).ask
      (.dispose f) (.releasing f)) := by
  have absent : .releasing f ∉ c.stack := fun there => ((housed f).leaving there).1 (.inl held)
  intro f'
  by_cases this : f = f'
  · subst this
    have fiber : (c.fibers.update f fun fiber => { fiber with held := false, released := true }).get f =
        { c.fibers.get f with held := false, released := true } := by
      rw [Slots.get_update, if_pos rfl]
    have still := (congrArg Fiber.gone fiber).trans ((housed f).held held)
    refine ⟨(congrArg Fiber.gone fiber).symm ▸ (housed f).freed, fun _ => still, fun _ => ?_, ?_, ?_⟩
    · refine ⟨fun unused => ?_, ?_, still⟩
      · exact (Protocol.used_register (Protocol.lt_of_held held) (fun _ => rfl) unused).1 rfl
      · rintro ⟨s, made, own⟩
        have own : (c.scripts.get s).fiber = f := own
        exact protocol.own s made (own ▸ .inl held)
    · change (.releasing f :: c.stack).count (.releasing f) ≤ 1
      exact Nat.le_of_eq (by rw [List.count_cons_self, List.count_eq_zero_of_not_mem absent])
    · intro _
      exact .out List.mem_cons_self (.inl List.mem_cons_self)
  · refine (housed f').spared ?_ (.same rfl) ?_ fun _ => List.mem_cons_of_mem _
    · exact .updated (g := fun fiber => { fiber with held := false, released := true }) rfl
        fun same => absurd same this
    · exact List.count_cons_of_ne (by simpa using this)

theorem released (housed : c.Housed) {rest : List Frame} (top : c.stack = .releasing f :: rest) :
    Core.Housed ({ c with stack := rest }.setFiber f fun fiber => { fiber with gone := true }) := by
  obtain ⟨used, none, still⟩ := (housed f).leaving (top ▸ List.mem_cons_self)
  have absent : rest.count (.releasing f) = 0 := by
    have once := (housed f).once
    rw [top, List.count_cons_self] at once
    exact Nat.le_zero.mp (Nat.le_of_succ_le_succ once)
  intro f'
  by_cases this : f = f'
  · subst this
    have fiber : (c.fibers.update f fun fiber => { fiber with gone := true }).get f =
        { c.fibers.get f with gone := true } := by
      rw [Slots.get_update, if_pos rfl]
    refine ⟨?_, ?_, ?_, Nat.le_trans (Nat.le_of_eq absent) (Nat.zero_le _), ?_⟩
    · intro s made own
      exact absurd ⟨s, made, own⟩ none
    · intro held
      exact absurd (.inl ((congrArg Fiber.held fiber).symm.trans held)) used
    · intro present
      exact absurd present (List.count_eq_zero.mp absent)
    · intro compiled
      have compiled : (c.fibers.get f).context.isSome :=
        (congrArg (·.context.isSome) fiber).symm.trans compiled
      cases (housed f).home compiled with
      | host held => exact absurd (.inl held) used
      | script some => exact absurd some none
      | out called left => exact .out called (.inr (congrArg Fiber.gone fiber))
  · refine (housed f').spared (.updated (g := fun fiber => { fiber with gone := true })
      rfl fun same => absurd same this) (.same rfl) ?_ fun _ => id
    change rest.count _ = c.stack.count _
    rw [top, List.count_cons_of_ne (by simpa using this)]

theorem free (housed : c.Housed) (protocol : Protocol c) (made : s < c.scripts.size) :
    (c.free s).Housed := by
  have own : c.Registered (c.scripts.get s).fiber := ⟨s, made, rfl⟩
  intro f
  by_cases this : (c.scripts.get s).fiber = f
  · have fiber : (c.free s).fibers.get f = { c.fibers.get f with gone := true } := by
      refine (Slots.get_update ..).trans ?_
      rw [if_pos this]
    have used : ¬ c.Unused f := this ▸ protocol.own s made
    have script (s' : ScriptKey) : (c.free s).scripts.get s' =
        if s = s' then { c.scripts.get s' with freed := true } else c.scripts.get s' :=
      Slots.get_update ..
    have size : (c.free s).scripts.size = c.scripts.size := Slots.size_update made _
    have same (s' : ScriptKey) : ((c.free s).scripts.get s').fiber = (c.scripts.get s').fiber := by
      rw [script]
      split <;> rfl
    refine ⟨?_, ?_, ?_, (housed f).once, ?_⟩
    · intro s' made' own'
      rw [same] at own'
      obtain rfl := protocol.distinct s s' made (size ▸ made') (this.trans own'.symm)
      rw [fiber, script, if_pos rfl]
    · intro held
      rw [fiber] at held
      exact absurd (.inl held) used
    · intro present
      exact absurd (this ▸ own) ((housed f).leaving present).2.1
    · intro _
      exact .script ⟨s, size ▸ made, (same s).trans this⟩
  · refine (housed f).spared (.updated (g := fun fiber => { fiber with gone := true })
      rfl fun same => absurd same this) ?_ rfl fun _ => id
    exact .updated (g := fun script => { script with freed := true })
      made rfl (fun _ => rfl) fun same => absurd same this

theorem made (housed : c.Housed) (protocol : Protocol c) {fiber : Fiber}
    (fresh : fiber.held ∧ fiber.gone = false) :
    Core.Housed { c with fibers := c.fibers.add fiber } := by
  intro f
  by_cases this : c.fibers.size = f
  · subst this
    have unused : c.Unused c.fibers.size := .inr (Nat.le_refl _)
    have new : (c.fibers.add fiber).get c.fibers.size = fiber := Slots.get_add_self ..
    refine ⟨?_, fun _ => (congrArg Fiber.gone new).trans fresh.2, ?_, (housed _).once, ?_⟩
    · intro s there own
      have own : (c.scripts.get s).fiber = c.fibers.size := own
      exact absurd (own ▸ unused) (protocol.own s there)
    · intro present
      exact absurd unused ((housed _).leaving present).1
    · intro _
      exact .host ((congrArg Fiber.held new).trans fresh.1)
  · refine (housed f).spared ?_ (.same rfl) rfl fun _ => id
    have old : (c.fibers.add fiber).get f = c.fibers.get f := by rw [Slots.get_add, if_neg this]
    refine ⟨?_, congrArg Fiber.held old, congrArg Fiber.gone old, congrArg Fiber.context old⟩
    exact Nat.le_trans (Nat.le_succ _) (Nat.le_of_eq (Slots.size_add ..).symm)

theorem change (housed : c.Housed) (protocol : Protocol c) (change : Change power c l d) :
    d.Housed := by
  cases change with
  | accepted held made vacant =>
    exact housed.register (g := fun fiber => { fiber with held := false }) held
      (fun _ => ⟨rfl, rfl⟩) rfl rfl ⟨rfl, rfl⟩ (.still rfl rfl)
  | refused held made =>
    exact housed.register (g := fun fiber => { fiber with held := false, released := true }) held
      (fun _ => ⟨rfl, rfl⟩) rfl rfl ⟨rfl, rfl⟩ (.pushed rfl rfl rfl)
  | read known live => exact housed.alike rfl rfl (.noted rfl rfl)
  | @armed s token canceled known live meant =>
    refine housed.transfer (fun _ => .same rfl) (fun f => ?_) (.noted rfl rfl)
    exact .updated (g := fun script => { script with run := some c.runs.size, token }) known.made rfl
      (fun _ => rfl) fun _ _ => rfl
  | judged known later lasting => exact housed.alike rfl rfl (.noted rfl rfl)
  | starting known live ready current armed own => exact housed.alike rfl rfl (.pushed rfl rfl rfl)
  | resuming known live free => exact housed.alike rfl rfl (.pushed rfl rfl rfl)
  | @asked q frame foreign plain held free =>
    refine housed.alike rfl rfl (.pushed rfl rfl ?_)
    cases frame with
    | releasing f => cases plain
    | _ => rfl
  | disposing known meant live =>
    refine housed.transfer (fun f => ?_) (fun f => ?_) (.pushed rfl rfl rfl)
    · exact .updated (g := fun fiber => { fiber with released := true }) rfl fun _ _ =>
        ⟨rfl, rfl, rfl⟩
    · exact .updated (g := fun script => { script with disposed := true }) known.made rfl
        (fun _ => rfl) fun _ _ => rfl
  | disposed top known =>
    exact housed.alike rfl rfl (.popped top (fun _ => List.mem_cons_of_mem _) rfl)
  | popped top plain kept => exact housed.alike rfl rfl (.popped top (fun _ => id) kept)
  | released top => exact housed.released top
  | unwound top allowed => exact housed.alike rfl rfl (.popped top (fun _ => id) rfl)
  | disowned known ended =>
    refine housed.transfer (fun _ => .same rfl) (fun f => ?_) (.still rfl rfl)
    exact .updated (g := fun script => { script with owned := false }) known.made rfl
      (fun _ => rfl) fun _ _ => rfl
  | referred refs known =>
    refine housed.transfer (fun _ => .same rfl) (fun f => ?_) (.still rfl rfl)
    exact .updated (g := fun script => { script with refs := refs script }) known.made rfl
      (fun _ => rfl) fun _ _ => rfl
  | made fresh meant => exact housed.made protocol fresh
  | @seen f ordinal =>
    refine housed.transfer (fun f => ?_) (fun _ => .same rfl) (.still rfl rfl)
    exact .updated (g := fun fiber => { fiber with ordinal }) rfl fun _ _ => ⟨rfl, rfl, rfl⟩
  | letGo held => exact housed.letGo protocol held
  | freed made kept unheld => exact housed.free protocol made
  | _ => exact housed.alike rfl rfl (.still rfl rfl)

end Housed

end Core

namespace Machine

variable {m : Machine} {f : FiberKey}

theorem Reachable.housed (reached : Reachable m) : m.core.Housed := by
  have both := reached.preserves (fun c => Protocol c ∧ c.Housed) ?_
    fun _ both change => ⟨both.1.change change, both.2.change both.1 change⟩
  · exact both.2
  refine ⟨Reachable.initial.protocol, fun f => ?_⟩
  have no_fiber : Machine.initial.core.fibers.get f = default := Slots.get_empty f
  refine ⟨?_, ?_, ?_, Nat.zero_le _, ?_⟩
  · intro s made
    cases made
  · intro _
    rw [no_fiber]
    rfl
  · intro present
    cases present
  · intro compiled
    rw [no_fiber] at compiled
    cases compiled

inductive Occupied (m : Machine) (f : FiberKey) : Prop where
  | host (held : (m.fibers.get f).held)
  | leaving (present : .releasing f ∈ m.stack)
  | script {s : ScriptKey} (made : s < m.scripts.size) (own : (m.scripts.get s).fiber = f)
      (holds : m.core.Holds s)

theorem occupied_iff (reached : Reachable m) (compiled : (m.fibers.get f).context.isSome) :
    m.Occupied f ↔ (m.fibers.get f).gone = false := by
  have housed := reached.housed
  have freed (s : ScriptKey) (made : s < m.scripts.size) :
      (m.fibers.get (m.scripts.get s).fiber).gone = (m.scripts.get s).freed :=
    (housed _).freed s made rfl
  constructor
  · intro occupied
    cases occupied with
    | host held => exact (housed f).held held
    | leaving present => exact ((housed f).leaving present).2.2
    | @script s made own holds =>
      rw [← own, freed s made]
      exact (reached.steady.held s holds).2
  · intro still
    cases (housed f).home compiled with
    | host held => exact .host held
    | script some =>
      obtain ⟨s, made, own⟩ := some
      have made : s < m.scripts.size := made
      have own : (m.scripts.get s).fiber = f := own
      have kept := freed s made
      rw [own, still] at kept
      rcases reached.swept s made with gone | held
      · rw [← kept] at gone
        cases gone
      · exact .script made own (Core.held_iff.mp held)
    | out called left =>
      rcases left with present | gone
      · exact .leaving present
      · have gone : (m.fibers.get f).gone := gone
        rw [still] at gone
        cases gone

def Usable (m : Machine) (f : FiberKey) : Prop :=
  (m.fibers.get f).held ∨
    ∃ s, s < m.scripts.size ∧ (m.scripts.get s).fiber = f ∧ (m.scripts.get s).disposed = false

theorem usable_iff (reached : Reachable m) (compiled : (m.fibers.get f).context.isSome) :
    m.Usable f ↔ .called (.dispose f) ∉ m.deeds := by
  have protocol := reached.protocol
  have released (s : ScriptKey) (made : s < m.scripts.size) : (m.scripts.get s).disposed ↔
      .called (.dispose (m.scripts.get s).fiber) ∈ m.deeds := protocol.released s made
  constructor
  · rintro (held | ⟨s, made, own, live⟩)
    · exact protocol.fresh_of_unused (.inl held)
    · rw [← own, ← released s made, live]
      exact Bool.false_ne_true
  · intro fresh
    cases (reached.housed f).home compiled with
    | host held => exact .inl held
    | script some =>
      obtain ⟨s, made, own⟩ := some
      have made : s < m.scripts.size := made
      have own : (m.scripts.get s).fiber = f := own
      refine .inr ⟨s, made, own, ?_⟩
      rw [← own, ← released s made] at fresh
      exact Bool.not_eq_true _ ▸ fresh
    | out called left => exact absurd called fresh

end Machine

end FiberBridge
