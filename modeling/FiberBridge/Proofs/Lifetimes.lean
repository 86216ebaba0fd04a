import FiberBridge.Proofs.Leases

namespace FiberBridge

namespace Machine

variable {m next : Machine} {move : Move} {r : Reaction} {f : FiberKey} {x : ContextKey}

def Kept (m : Machine) (x : ContextKey) : Prop :=
  (m.contexts.get x).held ∨ ∃ f, (m.fibers.get f).context = some x ∧ m.Occupied f

theorem kept_iff (reached : Reachable m) : m.Kept x ↔ m.contextHeld x = true := by
  have occupied (f : FiberKey) : ((m.fibers.get f).context = some x ∧ m.Occupied f) ↔
      (m.fibers.get f).context = some x ∧ (m.fibers.get f).gone = false := by
    refine and_congr_right fun compiled => occupied_iff reached ?_
    rw [compiled]
    rfl
  unfold Kept
  simp only [occupied]
  exact contextHeld_iff.symm

theorem count_lettings (reached : Reachable m) (made : x < m.contexts.size) :
    m.lettings.count x ≤ 1 ∧ (m.lettings.count x = 0 ↔ m.Kept x) := by
  have leased := reached.leased
  have kept : m.Kept x ↔ (m.contexts.get x).disposed = false := by
    rw [kept_iff reached]
    constructor
    · intro held
      refine Bool.eq_false_iff.mpr fun disposed => ?_
      rw [leased.closed x made disposed] at held
      cases held
    · intro live
      refine (reached.relieved x made).resolve_left ?_
      rw [live]
      exact Bool.false_ne_true
  rw [leased.counted, kept]
  cases (m.contexts.get x).disposed with
  | true => simp [made]
  | false => simp

theorem lettings_of_kept (reached : Reachable m) (made : x < m.contexts.size) (kept : m.Kept x) :
    x ∉ m.lettings := List.count_eq_zero.mp ((count_lettings reached made).2.mpr kept)

theorem lettings_of_held {s : ScriptKey} (reached : Reachable m) (holds : m.core.Holds s)
    (compiled : (m.fibers.get (m.scripts.get s).fiber).context = some x) : x ∉ m.lettings := by
  have made : s < m.scripts.size := (reached.steady.held s holds).1
  exact lettings_of_kept reached (reached.leased.there _ x compiled)
    (.inr ⟨_, compiled, .script made rfl holds⟩)

theorem sweep_contexts_size (bounded : m.Bounded) : m.sweep.contexts.size = m.contexts.size := by
  have scripts := (sweepScripts_alike (.refl (.refl bounded)) m.scripts.keys).calm.contexts
  refine Eq.trans ?_ (congrArg Slots.size scripts)
  exact (sweepContexts_releases _ fun _ present => Slots.mem_keys.mp present).1.size

theorem newContext_made (reached : Reachable m) (step : Step m (.invoke (.newContext true)) next r) :
    r = .returned (.keyed (.ok m.contexts.size)) ∧ m.contexts.size < next.contexts.size := by
  obtain ⟨_, rfl, rfl⟩ := step.invoked
  have bounded := (launch_twin (.refl reached.bounded) (.newContext true)).1.bounded
  refine ⟨rfl, ?_⟩
  rw [sweep_contexts_size bounded]
  exact Nat.lt_of_lt_of_eq (Nat.lt_succ_self _) (Slots.size_add ..).symm

theorem sweep_furnished : m.core.Furnished .none m.sweep.core :=
  .path sweep_path

theorem compile_made {length : Nat} {id : ScriptId} {ordinal : Int32}
    (step : Step m (.invoke (.compile x length (some (id, ordinal)))) next r) :
    r = .returned (.keyed (.ok m.fibers.size)) ∧
      (next.fibers.get m.fibers.size).context = some x := by
  obtain ⟨_, rfl, rfl⟩ := step.invoked
  refine ⟨rfl, sweep_furnished.kept _ _ ?_⟩
  exact congrArg Fiber.context (Slots.get_add_self ..)

-- The host drops the compiled script, its registration is refused, or the script that was made of it is
-- disposed of or loses its handle.
inductive Ends (m : Machine) (f : FiberKey) : Move → Reaction → Prop where
  | dropped {r : Reaction} : m.Ends f (.invoke (.dropFiber f)) r
  | refused {b : BridgeKey} : m.Ends f (.invoke (.register b f)) (.call (.dispose f))
  | disposed {s : ScriptKey} {r : Reaction} (own : (m.scripts.get s).fiber = f) :
      m.Ends f (.invoke (.dispose s)) r
  | unowned {s : ScriptKey} {r : Reaction} (own : (m.scripts.get s).fiber = f) :
      m.Ends f (.invoke (.dropHandle s)) r

theorem released_of_disposed {s : ScriptKey} (reached : Reachable m) (made : s < m.scripts.size)
    (disposed : (m.scripts.get s).disposed) (own : (m.scripts.get s).fiber = f) :
    .called (.dispose f) ∈ m.deeds := by
  rw [← own]
  exact (reached.protocol.released s made).mp disposed

theorem step_fiber {s : ScriptKey} (reached : Reachable m) (step : Step m move next r)
    (made : s < m.scripts.size) : (next.scripts.get s).fiber = (m.scripts.get s).fiber :=
  (Core.Lasts.path made (step_path reached.steady step)).fiber

theorem Ends.released (ends : m.Ends f move r) (reached : Reachable m) (step : Step m move next r) :
    .called (.dispose f) ∈ next.deeds := by
  have after := reached.step step
  cases ends with
  | dropped =>
    obtain ⟨_, rfl, _⟩ := step.invoked
    exact sweep_furnished.deeds _ List.mem_cons_self
  | refused =>
    obtain ⟨made, own, disposed⟩ := registered_fiber step
    exact released_of_disposed after made (disposed rfl) own
  | @disposed s _ own =>
    obtain ⟨made, disposed⟩ := ended_disposed reached step (.inl rfl)
    have before := (reached.steady.owned_open step.invoked.1).made
    exact released_of_disposed after made disposed ((step_fiber reached step before).trans own)
  | @unowned s _ own =>
    obtain ⟨made, disposed⟩ := ended_disposed reached step (.inr rfl)
    have before := (reached.steady.owned_open step.invoked.1.1).made
    exact released_of_disposed after made disposed ((step_fiber reached step before).trans own)

theorem count_released (reached : Reachable m) (released : .called (.dispose f) ∈ m.deeds) :
    m.deeds.count (.called (.dispose f)) = 1 := by
  have counted : m.deeds.count (.called (.dispose f)) = _ := reached.protocol.lawful.count_dispose
  exact counted.trans (if_pos released)

theorem count_usable (reached : Reachable m) (compiled : (m.fibers.get f).context.isSome) :
    m.deeds.count (.called (.dispose f)) ≤ 1 ∧
      (m.deeds.count (.called (.dispose f)) = 0 ↔ m.Usable f) := by
  refine ⟨?_, List.count_eq_zero.trans (usable_iff reached compiled).symm⟩
  by_cases released : .called (.dispose f) ∈ m.deeds
  · exact Nat.le_of_eq (count_released reached released)
  · rw [List.count_eq_zero_of_not_mem released]
    exact Nat.zero_le _

-- Where a context goes, the scripts compiled in it were released before, and so nothing calls them or
-- looks at them any more.
theorem after_context {later earlier : List Event} (reached : Reachable m)
    (events : m.events = later ++ .native (.contextDispose x) :: earlier)
    (compiled : (m.fibers.get f).context = some x) :
    .called (.dispose f) ∈ earlier.filterMap Event.deed? ∧
      ∀ d ∈ later.filterMap Event.deed?, d.touches f = false := by
  have closing := reached.leased.ordered
  rw [events] at closing
  have released := closing.released compiled
  refine ⟨released, fun d present => ?_⟩
  obtain ⟨between, before, split⟩ := List.append_of_mem released
  have lawful : Lawful m.deeds := reached.protocol.lawful
  have deeds : m.deeds = (later.filterMap Event.deed? ++ between) ++ .called (.dispose f) :: before := by
    unfold Machine.deeds
    rw [events, List.filterMap_append, List.append_assoc, ← split]
    rfl
  rw [deeds] at lawful
  exact lawful.untouched d (List.mem_append_left _ present)

theorem native_lifetimes (reached : Reachable m) :
    (∀ next r, Step m (.invoke (.newContext true)) next r →
      r = .returned (.keyed (.ok m.contexts.size)) ∧ m.contexts.size < next.contexts.size) ∧
    (∀ x length id ordinal next r,
      Step m (.invoke (.compile x length (some (id, ordinal)))) next r →
      r = .returned (.keyed (.ok m.fibers.size)) ∧
        (next.fibers.get m.fibers.size).context = some x) ∧
    (∀ f x, (m.fibers.get f).context = some x → x < m.contexts.size ∧
      (m.deeds.count (.called (.dispose f)) ≤ 1 ∧
        (m.deeds.count (.called (.dispose f)) = 0 ↔ m.Usable f)) ∧
      ((m.fibers.get f).gone → m.deeds.count (.called (.dispose f)) = 1) ∧
      ∀ move next r, Step m move next r → (next.fibers.get f).context = some x ∧
        (m.Ends f move r → next.deeds.count (.called (.dispose f)) = 1)) ∧
    (∀ x, x < m.contexts.size →
      m.lettings.count x ≤ 1 ∧ (m.lettings.count x = 0 ↔ m.Kept x)) ∧
    (∀ x later earlier, m.events = later ++ .native (.contextDispose x) :: earlier →
      ∀ f, (m.fibers.get f).context = some x →
        .called (.dispose f) ∈ earlier.filterMap Event.deed? ∧
          ∀ d ∈ later.filterMap Event.deed?, d.touches f = false) ∧
    (∀ f later earlier, m.deeds = later ++ .called (.dispose f) :: earlier →
      ∀ d ∈ later, d.touches f = false) ∧
    (∀ frame ∈ m.stack, ∀ s x, frame.holdsScript s →
      (m.fibers.get (m.scripts.get s).fiber).context = some x → x ∉ m.lettings) := by
  refine ⟨?_, ?_, ?_, ?_, ?_, ?_, ?_⟩
  · intro next r step
    exact newContext_made reached step
  · intro x length id ordinal next r step
    exact compile_made step
  · intro f x compiled
    have some : (m.fibers.get f).context.isSome := compiled ▸ rfl
    refine ⟨reached.leased.there f x compiled, count_usable reached some, ?_, ?_⟩
    · intro gone
      exact count_released reached (reached.sound.released some gone)
    · intro move next r step
      have furnished := Core.Furnished.path (step_path reached.steady step)
      exact ⟨furnished.kept f x compiled, fun ends =>
        count_released (reached.step step) (ends.released reached step)⟩
  · intro x made
    exact count_lettings reached made
  · intro x later earlier events f compiled
    exact after_context reached events compiled
  · intro f later earlier deeds
    have lawful : Lawful m.deeds := reached.protocol.lawful
    rw [deeds] at lawful
    exact lawful.untouched
  · intro frame present s x holds compiled
    exact lettings_of_held reached (.frame present holds) compiled

def contextOutlived : List Move :=
  [.invoke (.build { frames := some .host, runtime := true }), .invoke (.newContext true),
    .invoke (.compile 0 4 (some (⟨7⟩, 0))), .invoke (.compile 0 4 (some (⟨7⟩, 0))),
    .invoke (.register 0 0), .invoke (.register 0 1), .answer .done, .invoke (.makeFiber ⟨8⟩ 0),
    .invoke (.register 0 2), .invoke (.start 0 none),
    .invoke (.command 0 ⟨7⟩ "wait_frames".toUTF8 ⟨7⟩ false), .answer (.decoded (.ok (.num (.int 1)))),
    .answer (.notification (.signal 0)), .invoke (.dropContext 0), .invoke (.dispose 0), .answer .done]

-- Only the task is left to hold the script. It is polled, and ends, inside a native start of another.
def contextGone : List Move :=
  contextOutlived ++ [.answer (.code 2), .invoke (.dropHandle 0), .invoke (.complete 0),
    .invoke (.start 2 none), .invoke (.pollTask 0)]

set_option maxRecDepth 10000 in
theorem native_lifetimes_contextGone :
    0 ∉ (after contextOutlived).lettings ∧ (after contextGone).stack = [.starting 2 1] ∧
      (after contextGone).lettings.count 0 = 1 ∧
      (after contextGone).deeds.count (.called (.dispose 0)) = 1 ∧
      (after contextGone).deeds.count (.called (.dispose 1)) = 1 := by
  have inside : Reachable (after contextOutlived) :=
    (runs_after (by decide +kernel)).reachable .initial
  have reached : Reachable (after contextGone) :=
    (runs_after (by decide +kernel)).reachable .initial
  obtain ⟨_, _, _, _, _, _, running⟩ := native_lifetimes inside
  obtain ⟨_, _, scripts, contexts, _⟩ := native_lifetimes reached
  refine ⟨?_, by decide +kernel, ?_, ?_, ?_⟩
  · exact running (.starting 0 0) (by decide +kernel) 0 0 rfl (by decide +kernel)
  · have once := (contexts 0 (by decide +kernel)).1
    have some : (after contextGone).lettings.count 0 ≠ 0 := by decide +kernel
    omega
  · exact (scripts 0 0 (by decide +kernel)).2.2.1 (by decide +kernel)
  · exact (scripts 1 0 (by decide +kernel)).2.2.1 (by decide +kernel)

end Machine

end FiberBridge
