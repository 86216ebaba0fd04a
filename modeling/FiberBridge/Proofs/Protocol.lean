import FiberBridge.Proofs.Scripts

namespace FiberBridge

def Deed.touches (f : FiberKey) : Deed → Bool
  | .called (.start f') => f' = f
  | .called (.resume f') => f' = f
  | .called (.dispose f') => f' = f
  | .called _ => false
  | .read f' _ => f' = f
  | .marked _ _ => false

structure Deed.Allowed (d : Deed) (earlier : List Deed) : Prop where
  kept : ∀ f, d.touches f → .called (.dispose f) ∉ earlier
  ready : ∀ f, d = .called (.start f) → ∃ ordinal,
    earlier.find? Deed.outward = some (.read f ordinal) ∧ (Status.ofOrdinal ordinal).startable

def Lawful : List Deed → Prop
  | [] => True
  | d :: earlier => d.Allowed earlier ∧ Lawful earlier

namespace Lawful

variable {deeds later earlier : List Deed} {d : Deed} {f : FiberKey}

theorem allowed (lawful : Lawful (later ++ d :: earlier)) : d.Allowed earlier := by
  induction later with
  | nil => exact lawful.1
  | cons x rest ih => exact ih lawful.2

theorem untouched (lawful : Lawful (later ++ .called (.dispose f) :: earlier)) :
    ∀ d ∈ later, d.touches f = false := by
  induction later with
  | nil =>
    intro d present
    cases present
  | cons x rest ih =>
    intro d present
    rcases List.mem_cons.mp present with rfl | present
    · cases touched : d.touches f with
      | false => rfl
      | true => exact absurd (by simp) (lawful.1.kept f touched)
    · exact ih lawful.2 d present

theorem count_dispose (lawful : Lawful deeds) :
    deeds.count (.called (.dispose f)) = if .called (.dispose f) ∈ deeds then 1 else 0 := by
  induction deeds with
  | nil => rfl
  | cons d rest ih =>
    by_cases this : d = .called (.dispose f)
    · subst this
      have first : .called (.dispose f) ∉ rest := lawful.1.kept f (by simp [Deed.touches])
      rw [List.count_cons_self, List.count_eq_zero_of_not_mem first, if_pos List.mem_cons_self]
    · rw [List.count_cons_of_ne this, ih lawful.2]
      simp [Ne.symm this]

end Lawful

def Core.Unused (c : Core) (f : FiberKey) : Prop := (c.fibers.get f).held ∨ c.fibers.size ≤ f

structure Protocol (c : Core) : Prop where
  untouched : ∀ f, c.Unused f → ∀ d ∈ c.deeds, d.touches f = false
  own : ∀ s, s < c.scripts.size → ¬ c.Unused (c.scripts.get s).fiber
  distinct : ∀ s s', s < c.scripts.size → s' < c.scripts.size →
    (c.scripts.get s).fiber = (c.scripts.get s').fiber → s = s'
  released : ∀ s, s < c.scripts.size → ((c.scripts.get s).disposed ↔
    .called (.dispose (c.scripts.get s).fiber) ∈ c.deeds)
  lawful : Lawful c.deeds

namespace Protocol

variable {power : Power} {c d : Core} {l : List (ScriptKey × Milestone)}

theorem fresh_of_unused (protocol : Protocol c) {f : FiberKey} (unused : c.Unused f) :
    .called (.dispose f) ∉ c.deeds := by
  intro present
  have untouched := protocol.untouched f unused _ present
  simp [Deed.touches] at untouched

theorem transfer (protocol : Protocol c) (made : d.scripts.size = c.scripts.size)
    (scripts : ∀ s, (d.scripts.get s).fiber = (c.scripts.get s).fiber ∧
      (d.scripts.get s).disposed = (c.scripts.get s).disposed)
    (unused : ∀ f, d.Unused f → c.Unused f) (deeds : d.deeds = c.deeds) : Protocol d := by
  refine ⟨?_, ?_, ?_, ?_, ?_⟩
  · intro f new x present
    rw [deeds] at present
    exact protocol.untouched f (unused f new) x present
  · intro s there new
    rw [made] at there
    rw [(scripts s).1] at new
    exact protocol.own s there (unused _ new)
  · intro s s' there there' same
    rw [made] at there there'
    rw [(scripts s).1, (scripts s').1] at same
    exact protocol.distinct s s' there there' same
  · intro s there
    rw [made] at there
    rw [(scripts s).1, (scripts s).2, deeds]
    exact protocol.released s there
  · rw [deeds]
    exact protocol.lawful

theorem alike (protocol : Protocol c) (scripts : d.scripts = c.scripts) (fibers : d.fibers = c.fibers)
    (deeds : d.deeds = c.deeds) : Protocol d := by
  refine protocol.transfer (by rw [scripts]) ?_ ?_ deeds
  · intro s
    rw [scripts]
    exact ⟨rfl, rfl⟩
  · intro f unused
    unfold Core.Unused at unused ⊢
    rwa [fibers] at unused

theorem note (protocol : Protocol c) {x : Deed} (touches : ∀ f, x.touches f = false) :
    Protocol (c.note x) := by
  refine ⟨?_, protocol.own, protocol.distinct, ?_, ?_⟩
  · intro f unused d present
    rcases List.mem_cons.mp present with rfl | present
    · exact touches f
    · exact protocol.untouched f unused d present
  · intro s made
    refine (protocol.released s made).trans ⟨List.mem_cons_of_mem _, ?_⟩
    intro present
    rcases List.mem_cons.mp present with same | present
    · have same : Deed.called (.dispose (c.scripts.get s).fiber) = x := same
      have bad := touches (c.scripts.get s).fiber
      rw [← same] at bad
      simp [Deed.touches] at bad
    · exact present
  · refine ⟨⟨?_, ?_⟩, protocol.lawful⟩
    · intro f touched
      rw [touches f] at touched
      cases touched
    · intro f same
      have bad := touches f
      rw [same] at bad
      simp [Deed.touches] at bad

-- The live script `s` touches its fiber, and does not release it.
theorem touch (protocol : Protocol c) {s : ScriptKey} {x : Deed} (made : s < c.scripts.size)
    (live : (c.scripts.get s).disposed = false)
    (own : ∀ f, x.touches f → (c.scripts.get s).fiber = f)
    (plain : ∀ f, x ≠ .called (.dispose f))
    (ready : ∀ f, x = .called (.start f) → c.Ready f) : Protocol (c.note x) := by
  refine ⟨?_, protocol.own, protocol.distinct, ?_, ?_⟩
  · intro f unused d present
    rcases List.mem_cons.mp present with rfl | present
    · cases touched : d.touches f with
      | false => rfl
      | true => exact absurd (own f touched ▸ unused) (protocol.own s made)
    · exact protocol.untouched f unused d present
  · intro s' made'
    refine (protocol.released s' made').trans ⟨List.mem_cons_of_mem _, ?_⟩
    intro present
    rcases List.mem_cons.mp present with same | present
    · exact absurd same.symm (plain _)
    · exact present
  · refine ⟨⟨?_, ready⟩, protocol.lawful⟩
    intro f touched released
    rw [← own f touched] at released
    rw [(protocol.released s made).mpr released] at live
    cases live

theorem lt_of_held {f : FiberKey} (held : (c.fibers.get f).held) : f < c.fibers.size := by
  rcases Nat.lt_or_ge f c.fibers.size with made | new
  · exact made
  · rw [Slots.get_of_size_le new] at held
    cases held

theorem untouched_release (protocol : Protocol c) {f f' : FiberKey} (apart : f ≠ f')
    (unused : c.Unused f') {x : Deed} (present : x ∈ .called (.dispose f) :: c.deeds) :
    x.touches f' = false := by
  rcases List.mem_cons.mp present with rfl | present
  · simpa [Deed.touches] using apart
  · exact protocol.untouched f' unused x present

theorem release (protocol : Protocol c) {f : FiberKey} (unused : c.Unused f) :
    Lawful (.called (.dispose f) :: c.deeds) := by
  refine ⟨⟨?_, ?_⟩, protocol.lawful⟩
  · intro f' touched
    obtain rfl : f = f' := by simpa [Deed.touches] using touched
    exact protocol.fresh_of_unused unused
  · intro f' bad
    cases bad

theorem unused_setFiber {f k : FiberKey} {g : Fiber → Fiber}
    (same : ∀ fiber, (g fiber).held = fiber.held) (unused : (c.setFiber k g).Unused f) :
    c.Unused f := by
  rcases unused with held | new
  · left
    simp only [Core.setFiber, Slots.get_update] at held
    split at held
    · exact (same _).symm.trans held
    · exact held
  · exact .inr (Nat.le_trans (Slots.size_le_update ..) new)

theorem used_register {f f' : FiberKey} {g : Fiber → Fiber} (made : f < c.fibers.size)
    (let_go : ∀ fiber, (g fiber).held = false) (unused : (c.setFiber f g).Unused f') :
    f ≠ f' ∧ c.Unused f' := by
  have size : (c.setFiber f g).fibers.size = c.fibers.size := Slots.size_update made g
  have fiber : (c.setFiber f g).fibers.get f' =
      if f = f' then g (c.fibers.get f') else c.fibers.get f' := Slots.get_update ..
  unfold Core.Unused at unused ⊢
  rw [size, fiber] at unused
  by_cases this : f = f'
  · subst this
    rw [if_pos rfl, let_go] at unused
    rcases unused with bad | bad
    · cases bad
    · exact absurd made (Nat.not_lt_of_le bad)
  · rw [if_neg this] at unused
    exact ⟨this, unused⟩

theorem letGo (protocol : Protocol c) {f : FiberKey} (held : (c.fibers.get f).held) :
    Protocol ((c.setFiber f fun fiber => { fiber with held := false, released := true }).ask
      (.dispose f) (.releasing f)) := by
  have made := lt_of_held held
  have used {f' : FiberKey}
      (unused : (c.setFiber f fun fiber => { fiber with held := false, released := true }).Unused f') :
      f ≠ f' ∧ c.Unused f' := used_register made (fun _ => rfl) unused
  refine ⟨?_, ?_, protocol.distinct, ?_, protocol.release (.inl held)⟩
  · intro f' unused x present
    obtain ⟨apart, before⟩ := used unused
    exact protocol.untouched_release apart before present
  · intro s there unused
    exact protocol.own s there (used unused).2
  · intro s there
    refine (protocol.released s there).trans ⟨List.mem_cons_of_mem _, ?_⟩
    intro present
    rcases List.mem_cons.mp present with same | present
    · have same : Deed.called (.dispose (c.scripts.get s).fiber) = .called (.dispose f) := same
      cases same
      exact absurd (.inl held) (protocol.own s there)
    · exact present

theorem register (protocol : Protocol c) {f : FiberKey} {g : Fiber → Fiber} {script : Script}
    (held : (c.fibers.get f).held) (let_go : ∀ fiber, (g fiber).held = false)
    (fibers : d.fibers = (c.setFiber f g).fibers) (scripts : d.scripts = c.scripts.add script)
    (own : script.fiber = f)
    (deeds : d.deeds = c.deeds ∧ script.disposed = false ∨
      d.deeds = .called (.dispose f) :: c.deeds ∧ script.disposed) : Protocol d := by
  have made := lt_of_held held
  have used {f' : FiberKey} (unused : d.Unused f') : f ≠ f' ∧ c.Unused f' := by
    refine used_register made let_go (g := g) ?_
    unfold Core.Unused at unused ⊢
    rwa [fibers] at unused
  have fresh := protocol.fresh_of_unused (.inl held)
  have new : d.scripts.get c.scripts.size = script := by rw [scripts, Slots.get_add_self]
  have old {s : ScriptKey} (there : s < c.scripts.size) : d.scripts.get s = c.scripts.get s := by
    rw [scripts, Slots.get_add_old there]
  have key {s : ScriptKey} (there : s < d.scripts.size) :
      s = c.scripts.size ∨ s < c.scripts.size := by
    rw [scripts] at there
    exact Slots.lt_size_add.mp there
  have other {s : ScriptKey} (there : s < c.scripts.size) : (c.scripts.get s).fiber ≠ f := by
    intro same
    exact protocol.own s there (same ▸ .inl held)
  refine ⟨?_, ?_, ?_, ?_, ?_⟩
  · intro f' unused x present
    obtain ⟨apart, before⟩ := used unused
    rcases deeds with ⟨same, _⟩ | ⟨called, _⟩
    · exact protocol.untouched f' before x (same ▸ present)
    · exact protocol.untouched_release apart before (called ▸ present)
  · intro s there unused
    rcases key there with rfl | there
    · rw [new, own] at unused
      exact (used unused).1 rfl
    · rw [old there] at unused
      exact protocol.own s there (used unused).2
  · intro s s' there there' same
    rcases key there with rfl | there
    · rcases key there' with rfl | there'
      · rfl
      · rw [new, own, old there'] at same
        exact absurd same.symm (other there')
    · rcases key there' with rfl | there'
      · rw [new, own, old there] at same
        exact absurd same (other there)
      · rw [old there, old there'] at same
        exact protocol.distinct s s' there there' same
  · intro s there
    rcases key there with rfl | there
    · rw [new, own]
      rcases deeds with ⟨same, live⟩ | ⟨called, disposed⟩
      · simp [same, live, fresh]
      · simp [called, disposed]
    · rw [old there]
      refine (protocol.released s there).trans ?_
      rcases deeds with ⟨same, _⟩ | ⟨called, _⟩
      · rw [same]
      · simp [called, other there]
  · rcases deeds with ⟨same, _⟩ | ⟨called, _⟩
    · rw [same]
      exact protocol.lawful
    · rw [called]
      exact protocol.release (.inl held)

theorem beginDispose (protocol : Protocol c) {s : ScriptKey} {dropped : Bool}
    (made : s < c.scripts.size) (live : (c.scripts.get s).disposed = false) :
    Protocol (c.beginDispose s dropped) := by
  have script (s' : ScriptKey) : (c.beginDispose s dropped).scripts.get s' =
      if s = s' then { c.scripts.get s' with disposed := true } else c.scripts.get s' :=
    Slots.get_update ..
  have fiber (s' : ScriptKey) : ((c.beginDispose s dropped).scripts.get s').fiber =
      (c.scripts.get s').fiber := by
    rw [script]
    split <;> rfl
  have size : (c.beginDispose s dropped).scripts.size = c.scripts.size := Slots.size_update made _
  have unused {f : FiberKey} : (c.beginDispose s dropped).Unused f → c.Unused f :=
    unused_setFiber (c := c) (k := (c.scripts.get s).fiber)
      (g := fun fiber => { fiber with released := true }) fun _ => rfl
  have deeds : (c.beginDispose s dropped).deeds =
      .called (.dispose (c.scripts.get s).fiber) :: c.deeds := rfl
  refine ⟨?_, ?_, ?_, ?_, ?_⟩
  · intro f new x present
    have apart : (c.scripts.get s).fiber ≠ f := by
      intro same
      exact protocol.own s made (same ▸ unused new)
    exact protocol.untouched_release apart (unused new) (deeds ▸ present)
  · intro s' there new
    rw [size] at there
    rw [fiber] at new
    exact protocol.own s' there (unused new)
  · intro s' s'' there there' same
    rw [size] at there there'
    rw [fiber, fiber] at same
    exact protocol.distinct s' s'' there there' same
  · intro s' there
    rw [size] at there
    rw [fiber, script, deeds, List.mem_cons]
    by_cases this : s = s'
    · subst this
      simp
    · have apart : (c.scripts.get s').fiber ≠ (c.scripts.get s).fiber := by
        intro same
        exact this (protocol.distinct s' s there made same).symm
      rw [if_neg this]
      refine (protocol.released s' there).trans ⟨.inr, ?_⟩
      intro present
      rcases present with same | present
      · cases apart (by simpa using same)
      · exact present
  · refine ⟨⟨?_, ?_⟩, protocol.lawful⟩
    · intro f touched released
      obtain rfl : (c.scripts.get s).fiber = f := by simpa [Deed.touches] using touched
      rw [(protocol.released s made).mpr released] at live
      cases live
    · intro f bad
      cases bad

theorem change (protocol : Protocol c) (change : Change power c l d) : Protocol d := by
  have updated {s' : ScriptKey} {f : Script → Script}
      (fiber : ∀ script, (f script).fiber = script.fiber)
      (disposed : ∀ script, (f script).disposed = script.disposed) (s : ScriptKey) :
      ((c.scripts.update s' f).get s).fiber = (c.scripts.get s).fiber ∧
        ((c.scripts.update s' f).get s).disposed = (c.scripts.get s).disposed :=
    ⟨Slots.field_update Script.fiber fiber .., Slots.field_update Script.disposed disposed ..⟩
  cases change with
  | accepted held made vacant =>
    exact protocol.register (g := fun fiber => { fiber with held := false }) held (fun _ => rfl)
      rfl rfl rfl (.inl ⟨rfl, rfl⟩)
  | refused held made =>
    exact protocol.register (g := fun fiber => { fiber with held := false, released := true }) held
      (fun _ => rfl) rfl rfl rfl (.inr ⟨rfl, rfl⟩)
  | read known live =>
    refine protocol.touch known.made live ?_ (by rintro _ ⟨⟩) (by rintro _ ⟨⟩)
    intro f touched
    simpa [Deed.touches] using touched
  | @armed s token canceled known live meant =>
    have noted := protocol.note (x := .marked s (.armed c.runs.size canceled)) fun _ => rfl
    exact noted.transfer (Slots.size_update known.made _) (updated (fun _ => rfl) fun _ => rfl)
      (fun _ => id) rfl
  | @judged s x known later lasting =>
    have noted := protocol.note (x := .marked s x) fun _ => rfl
    exact noted.alike rfl rfl rfl
  | @starting s r known live ready current armed own =>
    have called : Protocol (c.note (.called (.start (c.scripts.get s).fiber))) := by
      refine protocol.touch known.made live ?_ (by rintro _ ⟨⟩) ?_
      · intro f touched
        simpa [Deed.touches] using touched
      · intro f same
        cases same
        exact ready
    exact called.alike rfl rfl rfl
  | @resuming s who known live free =>
    have called : Protocol (c.note (.called (.resume (c.scripts.get s).fiber))) := by
      refine protocol.touch known.made live ?_ (by rintro _ ⟨⟩) (by rintro _ ⟨⟩)
      intro f touched
      simpa [Deed.touches] using touched
    exact called.alike rfl rfl rfl
  | @asked q frame foreign plain held free =>
    have called : Protocol (c.note (.called q)) := by
      refine protocol.note ?_
      intro f
      cases q with
      | start f' => cases foreign
      | resume f' => cases foreign
      | dispose f' => cases foreign
      | _ => rfl
    exact called.alike rfl rfl rfl
  | disposing known meant live => exact protocol.beginDispose known.made live
  | @disposed s dropped rest top known =>
    have noted := protocol.note (x := .marked s .torn) fun _ => rfl
    exact noted.alike rfl rfl rfl
  | disowned known ended =>
    exact protocol.transfer (Slots.size_update known.made _) (updated (fun _ => rfl) fun _ => rfl)
      (fun _ => id) rfl
  | referred refs known =>
    exact protocol.transfer (Slots.size_update known.made _) (updated (fun _ => rfl) fun _ => rfl)
      (fun _ => id) rfl
  | @made fiber =>
    refine protocol.transfer rfl (fun _ => ⟨rfl, rfl⟩) ?_ rfl
    intro f unused
    unfold Core.Unused at unused ⊢
    rw [Slots.get_add, Slots.size_add] at unused
    by_cases new : c.fibers.size = f
    · exact .inr (Nat.le_of_eq new)
    · rw [if_neg new] at unused
      exact unused.imp_right Nat.le_of_succ_le
  | seen =>
    exact protocol.transfer rfl (fun _ => ⟨rfl, rfl⟩) (fun _ => unused_setFiber fun _ => rfl) rfl
  | @released f rest top =>
    refine protocol.transfer rfl (fun _ => ⟨rfl, rfl⟩) ?_ rfl
    intro f'
    exact unused_setFiber (c := c) (k := f) (g := fun fiber => { fiber with gone := true })
      fun _ => rfl
  | letGo held => exact protocol.letGo held
  | @freed s made kept unheld =>
    refine protocol.transfer (Slots.size_update made _) (updated (fun _ => rfl) fun _ => rfl) ?_ rfl
    intro f
    exact unused_setFiber (c := c) (k := (c.scripts.get s).fiber)
      (g := fun fiber => { fiber with gone := true }) fun _ => rfl
  | _ => exact protocol.alike rfl rfl rfl

end Protocol

-- The states that a start is let through: never run, ended, or nothing that is documented.
theorem startable_iff (ordinal : Int32) : (Status.ofOrdinal ordinal).startable ↔
    ordinal.toInt = 0 ∨ ordinal.toInt = 5 ∨ ordinal.toInt < 0 ∨ 5 < ordinal.toInt := by
  unfold Status.ofOrdinal Status.documented?
  split
  all_goals
    simp only [Option.getD_some, Option.getD_none, Status.startable, Bool.false_eq_true, true_iff,
      false_iff, imp_false] at *
    omega

namespace Machine

variable {m next : Machine}

def deeds (m : Machine) : List Deed := m.events.filterMap Event.deed?

theorem Reachable.protocol (reached : Reachable m) : Protocol m.core := by
  refine reached.preserves Protocol ?_ fun _ protocol change => protocol.change change
  refine ⟨?_, ?_, ?_, ?_, trivial⟩
  · intro f unused d present
    cases present
  · intro s made
    cases made
  · intro s s' made
    cases made
  · intro s made
    cases made

theorem count_dispose {s : ScriptKey} (reached : Reachable m) (made : s < m.scripts.size) :
    m.deeds.count (.called (.dispose (m.scripts.get s).fiber)) =
      if (m.scripts.get s).disposed then 1 else 0 := by
  have protocol := reached.protocol
  have released : (m.scripts.get s).disposed ↔
      .called (.dispose (m.scripts.get s).fiber) ∈ m.deeds := protocol.released s made
  have counted : m.deeds.count (.called (.dispose (m.scripts.get s).fiber)) =
      if .called (.dispose (m.scripts.get s).fiber) ∈ m.deeds then 1 else 0 :=
    protocol.lawful.count_dispose
  rw [counted]
  simp only [← released]

theorem disposed_of_unowned {s : ScriptKey} (reached : Reachable m)
    (lost : (m.scripts.get s).owned = false) : (m.scripts.get s).disposed := by
  cases live : (m.scripts.get s).disposed with
  | true => rfl
  | false =>
    have owned := reached.steady.owned s live
    rw [core_scripts, lost] at owned
    cases owned

theorem registered_fiber {b : BridgeKey} {f : FiberKey} {reaction : Reaction}
    (step : Step m (.invoke (.register b f)) next reaction) :
    m.scripts.size < next.scripts.size ∧ (next.scripts.get m.scripts.size).fiber = f ∧
      (reaction = .call (.dispose f) → (next.scripts.get m.scripts.size).disposed) := by
  obtain ⟨_, rfl, rfl⟩ := step.invoked
  have outcome := register_core m b f
  rw [launch_register]
  generalize m.register b f = ran at outcome ⊢
  obtain ⟨n, reaction⟩ := ran
  rcases outcome with ⟨_, refused, _⟩ | ⟨_, accepted, returned⟩
  · obtain ⟨made, script⟩ := refused_script refused
    have lasts := sweep_lasts made
    refine ⟨lasts.made, ?_, ?_⟩
    · exact lasts.fiber.trans (by rw [core_scripts, script])
    · intro _
      exact lasts.disposed (by rw [core_scripts, script])
  · obtain ⟨made, script⟩ := accepted_script accepted
    have lasts := sweep_lasts made
    refine ⟨lasts.made, lasts.fiber.trans (by rw [core_scripts, script]), ?_⟩
    intro called
    cases returned.symm.trans called

-- Histories are newest first: `later` is what was done after the call, `earlier` what came before it.
theorem fiber_protocol (reached : Reachable m) :
    (∀ b f next reaction, Step m (.invoke (.register b f)) next reaction →
      m.scripts.size < next.scripts.size ∧ (next.scripts.get m.scripts.size).fiber = f ∧
        (reaction = .call (.dispose f) → next.deeds.count (.called (.dispose f)) = 1)) ∧
    (∀ s s', s < m.scripts.size → s' < m.scripts.size →
      (m.scripts.get s).fiber = (m.scripts.get s').fiber → s = s') ∧
    (∀ s, s < m.scripts.size →
      m.deeds.count (.called (.dispose (m.scripts.get s).fiber)) =
          (if (m.scripts.get s).disposed then 1 else 0) ∧
        ((m.scripts.get s).owned = false → (m.scripts.get s).disposed)) ∧
    (∀ s move next reaction, Step m move next reaction →
      move = .invoke (.dispose s) ∨ move = .invoke (.dropHandle s) →
      next.deeds.count (.called (.dispose (next.scripts.get s).fiber)) = 1) ∧
    (∀ f later earlier, m.deeds = later ++ .called (.dispose f) :: earlier →
      ∀ d ∈ later, d.touches f = false) ∧
    (∀ f later earlier, m.deeds = later ++ .called (.start f) :: earlier →
      ∃ ordinal, earlier.find? Deed.outward = some (.read f ordinal) ∧
        (ordinal.toInt = 0 ∨ ordinal.toInt = 5 ∨ ordinal.toInt < 0 ∨ 5 < ordinal.toInt)) := by
  have lawful : Lawful m.deeds := reached.protocol.lawful
  refine ⟨?_, reached.protocol.distinct, ?_, ?_, ?_, ?_⟩
  · intro b f next reaction step
    obtain ⟨made, own, disposed⟩ := registered_fiber step
    refine ⟨made, own, ?_⟩
    intro called
    have counted := count_dispose (reached.step step) made
    rw [own, if_pos (disposed called)] at counted
    exact counted
  · intro s made
    exact ⟨count_dispose reached made, disposed_of_unowned reached⟩
  · intro s move next reaction step ends
    obtain ⟨made, ended⟩ := ended_disposed reached step ends
    exact (count_dispose (reached.step step) made).trans (if_pos ended)
  · intro f later earlier deeds
    rw [deeds] at lawful
    exact lawful.untouched
  · intro f later earlier deeds
    rw [deeds] at lawful
    obtain ⟨ordinal, looked, startable⟩ := lawful.allowed.ready f rfl
    exact ⟨ordinal, looked, (startable_iff ordinal).mp startable⟩

def refusedAndReleased : List Move :=
  [.invoke (.build {}), .invoke (.makeFiber ⟨7⟩ 0), .invoke (.makeFiber ⟨7⟩ 0),
    .invoke (.register 0 0), .invoke (.register 0 1), .answer .done, .invoke (.makeRef 0),
    .invoke (.start 0 none), .invoke (.dispose 0), .invoke (.resume 0 false), .invoke (.status 0),
    .answer .done, .answer (.code 2), .invoke (.dropHandle 0)]

set_option maxRecDepth 10000 in
theorem fiber_protocol_refusedAndReleased :
    (after refusedAndReleased).deeds.count (.called (.dispose 0)) = 1 ∧
      (after refusedAndReleased).deeds.count (.called (.dispose 1)) = 1 := by
  have runs : Runs initial refusedAndReleased (after refusedAndReleased) :=
    runs_after (by decide +kernel)
  obtain ⟨_, _, counted, _⟩ := fiber_protocol (runs.reachable .initial)
  have made : 1 < (after refusedAndReleased).scripts.size := by decide +kernel
  have refused : ((after refusedAndReleased).scripts.get 1).fiber = 1 ∧
      ((after refusedAndReleased).scripts.get 1).disposed := by decide +kernel
  have released : ((after refusedAndReleased).scripts.get 0).fiber = 0 ∧
      ((after refusedAndReleased).scripts.get 0).disposed := by decide +kernel
  have first := (counted 0 (Nat.zero_lt_of_lt made)).1
  have second := (counted 1 made).1
  rw [if_pos released.2, released.1] at first
  rw [if_pos refused.2, refused.1] at second
  exact ⟨first, second⟩

end Machine

end FiberBridge
