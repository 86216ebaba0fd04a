import FiberBridge.Proofs.Scripts
import Mathlib.Data.List.Nodup

namespace FiberBridge

structure Filed (c : Core) : Prop where
  entry : ∀ b id s, (c.registry b).get? id = some s → s < c.scripts.size ∧
    (c.scripts.get s).accepted ∧ (c.scripts.get s).bridge = b ∧ (c.scripts.get s).id = id
  live : ∀ s, (c.scripts.get s).disposed = false →
    (c.registry (c.scripts.get s).bridge).get? (c.scripts.get s).id = some s

def Core.Tidy (c : Core) : Prop :=
  ∀ b id s, (c.registry b).get? id = some s → (c.scripts.get s).disposed →
    ∃ dropped, .disposing s dropped ∈ c.stack

section

variable {power : Power} {c d : Core} {l : List (ScriptKey × Milestone)}

theorem Core.endDispose_get (c : Core) (s : ScriptKey) (rest : List Frame) (b : BridgeKey)
    (id : ScriptId) :
    (({ c with stack := rest }.endDispose s).registry b).get? id =
      if (c.scripts.get s).bridge = b ∧ id = (c.scripts.get s).id ∧
          (c.registry b).get? (c.scripts.get s).id = some s then none
      else (c.registry b).get? id := by
  show (if (c.scripts.get s).bridge = b then (c.registry b).remove (c.scripts.get s).id s
    else c.registry b).get? id = _
  by_cases here : (c.scripts.get s).bridge = b
  · simp only [here, if_true, Registry.get?_remove, true_and]
  · simp only [here, if_false, false_and]

theorem Filed.transfer (filed : Filed c) (change : Change power c l d)
    (registry : d.registry = c.registry)
    (fresh : ∀ s, c.scripts.size ≤ s → (d.scripts.get s).disposed) : Filed d := by
  refine ⟨?_, ?_⟩
  · intro b id s entry
    rw [registry] at entry
    obtain ⟨made, accepted, bridge, named⟩ := filed.entry b id s entry
    have lasts := Core.Lasts.change made change
    exact ⟨lasts.made, lasts.accepted.trans accepted, lasts.bridge.trans bridge,
      lasts.id.trans named⟩
  · intro s live
    rcases Nat.lt_or_ge s c.scripts.size with made | new
    · have lasts := Core.Lasts.change made change
      have before : (c.scripts.get s).disposed = false := by
        cases ended : (c.scripts.get s).disposed with
        | false => rfl
        | true =>
          rw [lasts.disposed ended] at live
          cases live
      rw [registry, lasts.bridge, lasts.id]
      exact filed.live s before
    · rw [fresh s new] at live
      cases live

theorem Core.accept_get (c : Core) (b : BridgeKey) (f : FiberKey) (b' : BridgeKey) (id : ScriptId) :
    ((c.accept b f).registry b').get? id =
      if b = b' ∧ id = (c.fibers.get f).id then some c.scripts.size else (c.registry b').get? id := by
  show (if b = b' then (c.registry b').insert _ _ else c.registry b').get? id = _
  by_cases here : b = b'
  · simp only [here, if_true, Registry.get?_insert, true_and]
  · simp only [here, if_false, false_and]

theorem Filed.accept (filed : Filed c) {b : BridgeKey} {f : FiberKey}
    (vacant : ∀ s, (c.registry b).get? (c.fibers.get f).id = some s → (c.scripts.get s).disposed) :
    Filed (c.accept b f) := by
  have size := c.size_accept b f
  refine ⟨?_, ?_⟩
  · intro b' id s entry
    rw [Core.accept_get] at entry
    split at entry
    · rename_i here
      obtain ⟨rfl, rfl⟩ := here
      cases entry
      rw [Core.accept_script, if_pos rfl, size]
      exact ⟨Nat.lt_succ_self _, rfl, rfl, rfl⟩
    · obtain ⟨made, fields⟩ := filed.entry b' id s entry
      rw [Core.accept_script, if_neg (Nat.ne_of_gt made), size]
      exact ⟨Nat.lt_succ_of_lt made, fields⟩
  · intro s live
    rw [Core.accept_script] at live ⊢
    by_cases new : c.scripts.size = s
    · rw [if_pos new, Core.accept_get, if_pos ⟨rfl, rfl⟩, new]
    · rw [if_neg new] at live ⊢
      have entry := filed.live s live
      rw [Core.accept_get, if_neg]
      · exact entry
      · -- A live script under the same id would have refused the new one.
        rintro ⟨rfl, named⟩
        rw [named] at entry
        rw [vacant s entry] at live
        cases live

theorem Filed.endDispose (filed : Filed c) {s : ScriptKey} {rest : List Frame}
    (disposed : (c.scripts.get s).disposed) : Filed ({ c with stack := rest }.endDispose s) := by
  have scripts : ({ c with stack := rest }.endDispose s).scripts = c.scripts := rfl
  refine ⟨?_, ?_⟩
  · intro b id s' entry
    rw [Core.endDispose_get] at entry
    split at entry
    · cases entry
    · exact filed.entry b id s' entry
  · intro s' live
    rw [scripts] at live ⊢
    have entry := filed.live s' live
    rw [Core.endDispose_get, if_neg]
    · exact entry
    · rintro ⟨_, named, own⟩
      rw [← named, entry] at own
      cases own
      rw [disposed] at live
      cases live

theorem Filed.change (filed : Filed c) (releasing : c.Releasing) (change : Change power c l d) :
    Filed d := by
  have kept := filed.transfer change
  have outside (s : ScriptKey) (new : c.scripts.size ≤ s) : (c.scripts.get s).disposed := by
    rw [Slots.get_of_size_le new]
    rfl
  have updated {s' : ScriptKey} {f : Script → Script} (there : s' < c.scripts.size) (s : ScriptKey)
      (new : c.scripts.size ≤ s) : ((c.scripts.update s' f).get s).disposed := by
    rw [Slots.get_update, if_neg (Nat.ne_of_lt (Nat.lt_of_lt_of_le there new))]
    exact outside s new
  cases change with
  | accepted held made vacant => exact filed.accept vacant
  | @refused b f held made =>
    refine kept rfl ?_
    intro s new
    show ((c.scripts.add _).get s).disposed
    rw [Slots.get_add]
    split
    · rfl
    · exact outside s new
  | armed known live meant => exact kept rfl (updated known.made)
  | disposing known meant live => exact kept rfl (updated known.made)
  | @disposed s dropped rest top known =>
    exact filed.endDispose (releasing s dropped (by simp [top])).2
  | disowned known ended => exact kept rfl (updated known.made)
  | referred refs known => exact kept rfl (updated known.made)
  | freed made intact unheld => exact kept rfl (updated made)
  | _ => exact kept rfl outside

theorem Change.stays_live (change : Change power c l d) {s : ScriptKey}
    (live : (c.scripts.get s).disposed = false) (there : s < c.scripts.size) :
    (d.scripts.get s).disposed = false ∨ ∃ dropped, .disposing s dropped ∈ d.stack := by
  have updated {s' : ScriptKey} {f : Script → Script}
      (kept : ∀ script, (f script).disposed = script.disposed) :
      ((c.scripts.update s' f).get s).disposed = false :=
    (Slots.field_update Script.disposed kept ..).trans live
  have added {script : Script} : ((c.scripts.add script).get s).disposed = false := by
    rw [Slots.get_add_old there]
    exact live
  cases change with
  | accepted held made vacant => exact .inl added
  | refused held made => exact .inl added
  | armed known live meant => exact .inl (updated fun _ => rfl)
  | @disposing s' dropped known meant live' =>
    by_cases this : s' = s
    · subst this
      exact .inr ⟨dropped, List.mem_cons_self⟩
    · left
      show ((c.scripts.update s' _).get s).disposed = false
      rw [Slots.get_update, if_neg this]
      exact live
  | disowned known ended => exact .inl (updated fun _ => rfl)
  | referred refs known => exact .inl (updated fun _ => rfl)
  | freed made intact unheld => exact .inl (updated fun _ => rfl)
  | _ => exact .inl live

theorem Core.Tidy.change (tidy : c.Tidy) (filed : Filed c) (whole : ∀ s, ¬ power.loses s)
    (change : Change power c l d) : d.Tidy := by
  have transfer (registry : d.registry = c.registry)
      (stack : ∀ s dropped, .disposing s dropped ∈ c.stack → .disposing s dropped ∈ d.stack) :
      d.Tidy := by
    intro b id s entry ended
    rw [registry] at entry
    cases before : (c.scripts.get s).disposed with
    | false =>
      rcases change.stays_live before (filed.entry b id s entry).1 with live | under_way
      · rw [ended] at live
        cases live
      · exact under_way
    | true =>
      obtain ⟨dropped, present⟩ := tidy b id s entry before
      exact ⟨dropped, stack s dropped present⟩
  cases change with
  | @accepted b f held made vacant =>
    intro b' id s entry ended
    rw [Core.accept_get] at entry
    rw [Core.accept_script] at ended
    split at entry
    · cases entry
      rw [if_pos rfl] at ended
      cases ended
    · rw [if_neg (Nat.ne_of_gt (filed.entry b' id s entry).1)] at ended
      exact tidy b' id s entry ended
  | refused held made => exact transfer rfl fun _ _ => List.mem_cons_of_mem _
  | starting known live ready current armed own =>
    exact transfer rfl fun _ _ => List.mem_cons_of_mem _
  | resuming known live free => exact transfer rfl fun _ _ => List.mem_cons_of_mem _
  | asked foreign plain held free => exact transfer rfl fun _ _ => List.mem_cons_of_mem _
  | disposing known meant live => exact transfer rfl fun _ _ => List.mem_cons_of_mem _
  | @disposed s dropped rest top known =>
    intro b id s' entry ended
    rw [Core.endDispose_get] at entry
    split at entry
    · cases entry
    · rename_i elsewhere
      obtain ⟨dropped', present⟩ := tidy b id s' entry ended
      obtain ⟨_, _, bridge, named⟩ := filed.entry b id s' entry
      rw [top] at present
      rcases List.mem_cons.mp present with same | present
      · cases same
        exact absurd ⟨bridge, named.symm, named ▸ entry⟩ elsewhere
      · exact ⟨dropped', present⟩
  | popped top plain =>
    refine transfer rfl ?_
    intro s dropped present
    exact Frame.mem_below plain (top ▸ present)
  | released top =>
    refine transfer rfl ?_
    intro s dropped present
    exact Frame.mem_below (fun _ => rfl) (top ▸ present)
  | unwound top allowed => exact absurd allowed (whole _)
  | letGo held => exact transfer rfl fun _ _ => List.mem_cons_of_mem _
  | _ => exact transfer rfl fun _ _ present => present

end

namespace Machine

variable {m next : Machine}

theorem Reachable.filed (reached : Reachable m) : Filed m.core := by
  induction reached with
  | initial =>
    refine ⟨?_, ?_⟩
    · intro b id s entry
      have empty : Machine.initial.core.registry b = default :=
        congrArg Bridge.registry (Slots.get_empty b)
      rw [empty] at entry
      cases entry
    · intro s live
      have no_script : Machine.initial.core.scripts.get s = default := Slots.get_empty s
      rw [no_script] at live
      cases live
  | step prior step ih =>
    have both := (step_path prior.steady step).preserves (fun c => c.Releasing ∧ Filed c)
      (fun before change => ⟨before.1.change change, before.2.change before.1 change⟩)
      ⟨prior.releasing, ih⟩
    exact both.2

theorem Orderly.tidy (orderly : Orderly m) : m.core.Tidy := by
  induction orderly with
  | initial =>
    intro b id s entry
    have empty : Machine.initial.core.registry b = default :=
      congrArg Bridge.registry (Slots.get_empty b)
    rw [empty] at entry
    cases entry
  | step prior step whole ih =>
    have both := (step_path prior.reachable.steady step).preserves
      (fun c => c.Releasing ∧ Filed c ∧ c.Tidy)
      (fun before change => ⟨before.1.change change, before.2.1.change before.1 change,
        before.2.2.change before.2.1 whole change⟩)
      ⟨prior.reachable.releasing, prior.reachable.filed, ih⟩
    exact both.2.2

-- A script that was accepted under an id and whose release has not begun.
structure Registered (m : Machine) (b : BridgeKey) (id : ScriptId) (s : ScriptKey) : Prop where
  made : s < m.scripts.size
  accepted : (m.scripts.get s).accepted
  live : (m.scripts.get s).disposed = false
  bridge : (m.scripts.get s).bridge = b
  id : (m.scripts.get s).id = id

theorem find?_iff_registered {b : BridgeKey} {id : ScriptId} {s : ScriptKey} (reached : Reachable m) :
    m.find? b id = some s ↔ Registered m b id s := by
  have filed := reached.filed
  constructor
  · intro found
    obtain ⟨entry, live⟩ := Option.filter_eq_some_iff.mp found
    obtain ⟨made, accepted, bridge, named⟩ := filed.entry b id s entry
    exact ⟨made, accepted, by simpa using live, bridge, named⟩
  · rintro ⟨made, accepted, live, rfl, rfl⟩
    exact Option.filter_eq_some_iff.mpr ⟨filed.live s live, by simp [live]⟩

theorem registered_unique {b : BridgeKey} {id : ScriptId} {s s' : ScriptKey} (reached : Reachable m)
    (one : Registered m b id s) (other : Registered m b id s') : s = s' := by
  have found := (find?_iff_registered reached).mpr one
  rw [(find?_iff_registered reached).mpr other] at found
  exact (Option.some.inj found).symm

-- A registered script stays so, whatever happens to others, until its own release begins.
theorem registered_stays {b : BridgeKey} {id : ScriptId} {s : ScriptKey} {move : Move}
    {reaction : Reaction} (reached : Reachable m) (step : Step m move next reaction)
    (registered : Registered m b id s) (spared : ¬ (m.power move).ends s) :
    Registered next b id s := by
  obtain ⟨made, accepted, live, bridge, named⟩ := registered
  have lasts := Core.Lasts.path made (step_path reached.steady step)
  exact ⟨lasts.made, lasts.accepted.trans accepted, (lasts.live spared).trans live,
    lasts.bridge.trans bridge, lasts.id.trans named⟩

theorem lookup_reaction {b : BridgeKey} {id : ScriptId} {reaction : Reaction}
    (step : Step m (.invoke (.lookup b id)) next reaction) :
    reaction = .returned (.keyed (match m.find? b id with
      | some s => .ok s
      | none => .error (.unrouteable id "script is not registered"))) := by
  obtain ⟨_, _, rfl⟩ := step.invoked
  have found : (m.lookup b id).2 = m.find? b id := rfl
  unfold launch
  dsimp only
  rw [found]
  cases m.find? b id <;> rfl

theorem lookup_exact {b : BridgeKey} {id : ScriptId} {reaction : Reaction} (reached : Reachable m)
    (step : Step m (.invoke (.lookup b id)) next reaction) (s : ScriptKey) :
    reaction = .returned (.keyed (.ok s)) ↔ Registered m b id s := by
  rw [lookup_reaction step, ← find?_iff_registered reached]
  cases m.find? b id with
  | none => simp
  | some s' => simp

theorem contains_iff {b : BridgeKey} {id : ScriptId} (reached : Reachable m) :
    m.contains b id ↔ ∃ s, Registered m b id s := by
  have found : (m.lookup b id).2 = m.find? b id := rfl
  unfold contains
  rw [found, Option.isSome_iff_exists]
  constructor
  · rintro ⟨s, found⟩
    exact ⟨s, (find?_iff_registered reached).mp found⟩
  · rintro ⟨s, registered⟩
    exact ⟨s, (find?_iff_registered reached).mpr registered⟩

theorem rival?_eq {b : BridgeKey} {f : FiberKey} (filed : Filed m.core) :
    m.rival? b f = m.find? b (m.fibers.get f).id := by
  unfold rival? find?
  dsimp only
  cases entry : (m.bridges.get b).registry.get? (m.fibers.get f).id with
  | none => rfl
  | some s =>
    have made : s < m.scripts.size := (filed.entry b _ s entry).1
    rw [Option.filter_some, Option.filter_some, Slots.get_add_old made]

theorem registered_sweep {b : BridgeKey} {id : ScriptId} {s : ScriptKey}
    (registered : Registered m b id s) : Registered m.sweep b id s := by
  obtain ⟨made, accepted, live, bridge, named⟩ := registered
  have lasts := sweep_lasts made
  exact ⟨lasts.made, lasts.accepted.trans accepted, (lasts.live not_false).trans live,
    lasts.bridge.trans bridge, lasts.id.trans named⟩

theorem registered_accept {n : Machine} {b : BridgeKey} {f : FiberKey}
    (accepted : n.core = m.core.accept b f) :
    Registered n b (m.fibers.get f).id m.scripts.size := by
  obtain ⟨made, script⟩ := accepted_script accepted
  refine ⟨made, ?_, ?_, ?_, ?_⟩
  all_goals rw [script]

theorem idOf_refuse {n : Machine} {b : BridgeKey} {f : FiberKey}
    (refused : n.core = m.core.refuse b f) : n.sweep.idOf m.scripts.size = (m.fibers.get f).id := by
  obtain ⟨made, script⟩ := refused_script refused
  have id := (sweep_lasts made).id
  rw [core_scripts, core_scripts, script] at id
  exact id

theorem refuse_registered {b : BridgeKey} {f : FiberKey} {reaction : Reaction} {s : ScriptKey}
    (reached : Reachable m) (step : Step m (.invoke (.register b f)) next reaction)
    (taken : Registered m b (m.fibers.get f).id s) :
    reaction = .call (.dispose f) ∧ next.stack = .refusing b m.scripts.size :: m.stack ∧
      next.idOf m.scripts.size = (m.fibers.get f).id := by
  have found := (find?_iff_registered reached).mpr taken
  obtain ⟨_, rfl, rfl⟩ := step.invoked
  rw [launch_register]
  rcases register_core m b f with ⟨_, refused, called⟩ | ⟨alone, _⟩
  · exact ⟨called, (sweep_stack _).trans (congrArg Core.stack refused), idOf_refuse refused⟩
  · rw [rival?_eq reached.filed, found] at alone
    cases alone

theorem accept_vacant {b : BridgeKey} {f : FiberKey} {reaction : Reaction}
    (reached : Reachable m) (step : Step m (.invoke (.register b f)) next reaction)
    (vacant : ∀ s, ¬ Registered m b (m.fibers.get f).id s) :
    reaction = .returned (.keyed (.ok m.scripts.size)) ∧
      Registered next b (m.fibers.get f).id m.scripts.size := by
  obtain ⟨_, rfl, rfl⟩ := step.invoked
  rw [launch_register]
  rcases register_core m b f with ⟨taken, _⟩ | ⟨_, accepted, returned⟩
  · rw [rival?_eq reached.filed] at taken
    obtain ⟨s, found⟩ := Option.isSome_iff_exists.mp taken
    exact absurd ((find?_iff_registered reached).mp found) (vacant s)
  · exact ⟨returned, registered_sweep (registered_accept accepted)⟩

theorem refused_reaction {b : BridgeKey} {s : ScriptKey} {rest : List Frame} {reaction : Reaction}
    (top : m.stack = .refusing b s :: rest) (step : Step m (.answer .done) next reaction) :
    reaction = .returned (.keyed (.error (.duplicateScript (m.idOf s)))) := by
  obtain ⟨after, continued, _, rfl⟩ := step.answered_at top
  obtain rfl := Option.some.inj continued
  rfl

def registeredIn (m : Machine) (b : BridgeKey) (s : ScriptKey) : Bool :=
  (m.scripts.get s).accepted && !(m.scripts.get s).disposed && (m.scripts.get s).bridge = b

theorem size_exact {b : BridgeKey} (orderly : Orderly m)
    (idle : ∀ s dropped, (m.scripts.get s).bridge = b → .disposing s dropped ∉ m.stack) :
    (m.bridges.get b).registry.size = (m.scripts.keys.filter (m.registeredIn b)).length := by
  have reached := orderly.reachable
  have filed := reached.filed
  let registry := (m.bridges.get b).registry
  have named {entry : ScriptId × Nat} (present : entry ∈ registry.entries) :
      registry.get? entry.1 = some entry.2 := registry.get?_iff_mem.mpr present
  -- An entry is told by its script.
  have distinct : (registry.entries.map Prod.snd).Nodup := by
    refine List.Nodup.map_on ?_ (List.Nodup.of_map _ registry.distinct)
    intro one present other present' same
    obtain ⟨_, _, _, id⟩ := filed.entry b _ _ (named present)
    obtain ⟨_, _, _, id'⟩ := filed.entry b _ _ (named present')
    refine Prod.ext ?_ same
    rw [← id, ← id', same]
  have members (s : ScriptKey) : s ∈ registry.entries.map Prod.snd ↔
      s ∈ m.scripts.keys.filter (m.registeredIn b) := by
    rw [List.mem_filter, Slots.mem_keys]
    unfold registeredIn
    constructor
    · intro present
      obtain ⟨⟨id, s'⟩, there, rfl⟩ := List.mem_map.mp present
      have entry := named there
      obtain ⟨made, accepted, bridge, _⟩ := filed.entry b id s' entry
      have live : (m.scripts.get s').disposed = false := by
        cases ended : (m.scripts.get s').disposed with
        | false => rfl
        | true =>
          obtain ⟨dropped, under_way⟩ := orderly.tidy b id s' entry ended
          exact absurd under_way (idle s' dropped bridge)
      refine ⟨made, ?_⟩
      simp only [core_scripts] at accepted bridge
      simp [accepted, live, bridge]
    · rintro ⟨made, holds⟩
      simp only [Bool.and_eq_true, decide_eq_true_eq, Bool.not_eq_true'] at holds
      obtain ⟨⟨accepted, live⟩, rfl⟩ := holds
      exact List.mem_map.mpr ⟨_, registry.get?_iff_mem.mp (filed.live s live), rfl⟩
  have same := (List.perm_ext_iff_of_nodup distinct (List.nodup_range.filter _)).mpr members
  exact (List.length_map _).symm.trans same.length_eq

-- The host may be inside any callback. Only the release of a script, begun by its own handle, takes it
-- out of the registry; the count is exact while no release of the bridge is under way.
theorem registry_exact (reached : Reachable m) (b : BridgeKey) :
    (∀ id s s', Registered m b id s → Registered m b id s' → s = s') ∧
    (∀ id s, (m.lookup b id).2 = some s ↔ Registered m b id s) ∧
    (∀ id next reaction, Step m (.invoke (.lookup b id)) next reaction → ∀ s,
      reaction = .returned (.keyed (.ok s)) ↔ Registered m b id s) ∧
    (∀ id, m.contains b id ↔ ∃ s, Registered m b id s) ∧
    (∀ f next reaction, Step m (.invoke (.register b f)) next reaction →
      (∃ s, reaction = .returned (.keyed (.ok s)) ∧ (∀ s', ¬ Registered m b (m.fibers.get f).id s') ∧
          ∀ s', (next.lookup b (m.fibers.get f).id).2 = some s' ↔ s' = s) ∨
        (reaction = .call (.dispose f) ∧ (∃ s', Registered m b (m.fibers.get f).id s') ∧
          ∃ s, next.stack = .refusing b s :: m.stack ∧ next.idOf s = (m.fibers.get f).id)) ∧
    (∀ s rest next reaction, m.stack = .refusing b s :: rest → Step m (.answer .done) next reaction →
      reaction = .returned (.keyed (.error (.duplicateScript (m.idOf s))))) ∧
    (∀ id s move next reaction, Step m move next reaction → Registered m b id s →
      move ≠ .invoke (.dispose s) → move ≠ .invoke (.dropHandle s) → Registered next b id s) ∧
    (Orderly m → (∀ s dropped, (m.scripts.get s).bridge = b → .disposing s dropped ∉ m.stack) →
      ∀ next reaction, Step m (.invoke (.count b)) next reaction →
        reaction = .returned (.counted (m.scripts.keys.filter (m.registeredIn b)).length)) := by
  refine ⟨?_, ?_, ?_, ?_, ?_, ?_, ?_, ?_⟩
  · intro id s s' one other
    exact registered_unique reached one other
  · intro id s
    exact find?_iff_registered reached
  · intro id next reaction step s
    exact lookup_exact reached step s
  · intro id
    exact contains_iff reached
  · intro f next reaction step
    rcases Classical.em (∃ s, Registered m b (m.fibers.get f).id s) with ⟨s, taken⟩ | vacant
    · obtain ⟨called, stack, named⟩ := refuse_registered reached step taken
      exact .inr ⟨called, ⟨s, taken⟩, _, stack, named⟩
    · have alone (s : ScriptKey) (registered : Registered m b (m.fibers.get f).id s) : False :=
        vacant ⟨s, registered⟩
      obtain ⟨returned, registered⟩ := accept_vacant reached step alone
      refine .inl ⟨_, returned, alone, ?_⟩
      intro s'
      have after : (next.lookup b (m.fibers.get f).id).2 = some s' ↔
          Registered next b (m.fibers.get f).id s' := find?_iff_registered (reached.step step)
      constructor
      · intro found
        exact registered_unique (reached.step step) (after.mp found) registered
      · rintro rfl
        exact after.mpr registered
  · intro s rest next reaction top step
    exact refused_reaction top step
  · intro id s move next reaction step registered kept kept'
    refine registered_stays reached step registered ?_
    rintro (bad | bad)
    · exact kept bad
    · exact kept' bad
  · intro orderly idle next reaction step
    obtain ⟨_, _, rfl⟩ := step.invoked
    rw [← size_exact orderly idle]
    rfl

def replacedInside : List Move :=
  [.invoke (.build {}), .invoke (.makeFiber ⟨7⟩ 0), .invoke (.makeFiber ⟨7⟩ 0),
    .invoke (.register 0 0), .invoke (.makeRef 0), .invoke (.dispose 0), .invoke (.register 0 1),
    .answer .done, .invoke (.dispose 0), .invoke (.dropHandle 0), .invoke (.dropRef 0)]

set_option maxRecDepth 10000 in
theorem registry_exact_replacedInside :
    ((after replacedInside).lookup 0 ⟨7⟩).2 = some 1 ∧
      ∀ next reaction, Step (after replacedInside) (.invoke (.count 0)) next reaction →
        reaction = .returned (.counted 1) := by
  have runs : Runs initial replacedInside (after replacedInside) := runs_after rfl
  have orderly : Orderly (after replacedInside) := runs.orderly .initial (by simp [replacedInside])
  obtain ⟨_, found, _, _, _, _, _, counted⟩ := registry_exact (runs.reachable .initial) 0
  refine ⟨?_, ?_⟩
  · refine (found ⟨7⟩ 1).mpr ⟨?_, ?_, ?_, ?_, ?_⟩ <;> decide +kernel
  · have single : ((after replacedInside).scripts.keys.filter
        ((after replacedInside).registeredIn 0)).length = 1 := by decide +kernel
    rw [single] at counted
    refine counted orderly ?_
    intro s dropped _ present
    have idle : (after replacedInside).stack = [] := by decide +kernel
    rw [idle] at present
    cases present

end Machine

end FiberBridge
