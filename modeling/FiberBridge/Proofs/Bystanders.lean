import FiberBridge.Proofs.Labels
import FiberBridge.Proofs.Lookup
import FiberBridge.Proofs.Spans
import FiberBridge.Proofs.Swept

namespace FiberBridge

open Machine

namespace Part

variable {m : Machine}

def of (m : Machine) (s : ScriptKey) : Part :=
  ⟨(· = s), (· = (m.scripts.get s).fiber), fun _ => False⟩

def under (m : Machine) (id : ScriptId) : Part where
  script s := s < m.scripts.size ∧ m.idOf s = id
  fiber f := f < m.fibers.size ∧ (m.fibers.get f).id = id
  id := (· = id)

theorem of_proper {s : ScriptKey} (reached : Reachable m) (made : s < m.scripts.size) :
    Core.Proper (of m s) m.scripts m.fibers := by
  refine ⟨?_, ?_, ?_⟩
  · rintro _ rfl
    exact made
  · rintro _ rfl
    exact (reached.labeled.fiber s made).1
  · intro s' made' other
    refine ⟨?_, fun none => none⟩
    intro same
    exact other (reached.protocol.distinct s' s made' made same)

theorem under_proper (reached : Reachable m) (id : ScriptId) :
    Core.Proper (under m id) m.scripts m.fibers := by
  refine ⟨fun _ mine => mine.1, fun _ mine => mine.1, ?_⟩
  intro s made other
  have apart : m.idOf s ≠ id := fun same => other ⟨made, same⟩
  refine ⟨?_, apart⟩
  rintro ⟨_, named⟩
  exact apart ((reached.labeled.fiber s made).2.symm.trans named)

end Part

namespace Machine

variable {m n first last : Machine} {a b s : ScriptKey} {op : Op} {r : Reaction} {moves : List Move}
  {reactions : List Reaction}

-- The operation names script `s`, or what belongs to it.
def Addresses (m : Machine) (s : ScriptKey) : Op → Prop
  | .start s' _ | .resume s' _ | .status s' | .describe s' | .fail s' _ | .dispose s' | .dropHandle s'
  | .makeRef s' | .dropRef s' | .decode s' .. => s' = s
  | .command b id .. | .error b id _ => m.find? b id = some s
  | .commandUpcall id .. | .errorUpcall id _ => ∃ b, m.target = some b ∧ m.find? b id = some s
  | .register b f => f = (m.scripts.get s).fiber ∨
    (m.bridges.get b).registry.get? (m.fibers.get f).id = some s
  | .setOrdinal f _ | .dropFiber f => f = (m.scripts.get s).fiber
  | .dropRun r => (m.runs.get r).script = s
  | .pollTask t => (m.tasks.get t).script = s
  | _ => False

def ActsOn (m : Machine) (s : ScriptKey) : Op → Prop
  | .start s' _ | .resume s' _ | .status s' | .describe s' | .fail s' _ | .dispose s' | .dropHandle s'
  | .makeRef s' | .dropRef s' | .decode s' .. => s' = s
  | .command _ id .. | .error _ id _ | .commandUpcall id .. | .errorUpcall id _ => id = m.idOf s
  | .register _ f => (m.fibers.get f).id = m.idOf s
  | .pollTask t => (m.tasks.get t).script = s
  | _ => False

theorem idOf_of_find? {b : BridgeKey} {id : ScriptId} (reached : Reachable m)
    (found : m.find? b id = some s) : m.idOf s = id :=
  ((find?_iff_registered reached).mp found).id

theorem ActsOn.elsewhere (reached : Reachable m) (acts : m.ActsOn a op) (made : b < m.scripts.size)
    (apart : m.idOf a ≠ m.idOf b) : ¬ m.Addresses b op := by
  have other : a ≠ b := by
    rintro rfl
    exact apart rfl
  have found {k : BridgeKey} {id : ScriptId} (own : id = m.idOf a) (found : m.find? k id = some b) :
      False := by
    subst own
    exact apart (idOf_of_find? reached found).symm
  intro addressed
  cases op with
  | command k id name word ambient => exact found acts addressed
  | error k id description => exact found acts addressed
  | commandUpcall id name length word ambient =>
    obtain ⟨k, _, named⟩ := addressed
    exact found acts named
  | errorUpcall id description =>
    obtain ⟨k, _, named⟩ := addressed
    exact found acts named
  | register k f =>
    have own : (m.fibers.get f).id = m.idOf a := acts
    rcases addressed with rfl | entry
    · exact apart (own.symm.trans (reached.labeled.fiber b made).2)
    · exact apart (own.symm.trans (reached.filed.entry k _ b entry).2.2.2.symm)
  | start | resume | status | describe | fail | dispose | dropHandle | makeRef | dropRef | decode
  | pollTask => exact other (Eq.trans (Eq.symm acts) addressed)
  | _ => cases acts

-- While the script is spared, it is still known by the same names.
theorem misses_of (spares : m.core.Spares (Part.of m s) n.core) (unaddressed : ¬ n.Addresses s op) :
    n.Misses (Part.of m s) op := by
  have still : n.scripts.get s = m.scripts.get s := spares.scripts s rfl
  have fiber : (n.scripts.get s).fiber = (m.scripts.get s).fiber := congrArg Script.fiber still
  cases op with
  | command k id name word ambient =>
    rintro _ found rfl
    exact unaddressed found
  | error k id description =>
    rintro _ found rfl
    exact unaddressed found
  | commandUpcall id name length word ambient =>
    rintro k _ target found rfl
    exact unaddressed ⟨k, target, found⟩
  | errorUpcall id description =>
    rintro k _ target found rfl
    exact unaddressed ⟨k, target, found⟩
  | register k f =>
    refine ⟨fun own => unaddressed (.inl (Eq.trans own fiber.symm)), id, ?_⟩
    rintro _ entry rfl
    exact unaddressed (.inr entry)
  | setOrdinal f ordinal => exact fun own => unaddressed (Eq.trans own fiber.symm)
  | dropFiber f => exact fun own => unaddressed (Eq.trans own fiber.symm)
  | start | resume | status | describe | fail | dispose | dropHandle | makeRef | dropRef | decode
  | dropRun | pollTask => exact unaddressed
  | _ => trivial

structure Untouched (s : ScriptKey) (m n : Machine) : Prop where
  script : n.scripts.get s = m.scripts.get s
  entry : ∀ b id, (n.bridges.get b).registry.get? id = some s ↔
    (m.bridges.get b).registry.get? id = some s
  runs : ∀ r, (r < n.runs.size ∧ (n.runs.get r).script = s) ↔
    (r < m.runs.size ∧ (m.runs.get r).script = s)
  outcomes : ∀ r, r < m.runs.size → (m.runs.get r).script = s → n.outcome? r = m.outcome? r
  native : n.deeds.filter (Deed.touches (m.scripts.get s).fiber) =
    m.deeds.filter (Deed.touches (m.scripts.get s).fiber)

theorem untouched_of_spares (spares : m.core.Spares (Part.of m s) n.core) : Untouched s m n := by
  have same {r : RunKey} (made : r < m.runs.size) (own : (m.runs.get r).script = s) :
      n.runs.get r = m.runs.get r := (spares.runs r (.inl ⟨made, own⟩)).2
  refine ⟨spares.scripts s rfl, fun b id => spares.names b id s rfl, ?_, ?_, spares.deeds _ rfl⟩
  · intro r
    constructor
    · rintro ⟨made, own⟩
      obtain ⟨before, still⟩ := spares.runs r (.inr ⟨made, own⟩)
      exact ⟨before, (congrArg Run.script still).symm.trans own⟩
    · rintro ⟨made, own⟩
      exact ⟨Nat.lt_of_lt_of_le made spares.moreRuns, (congrArg Run.script (same made own)).trans own⟩
  · intro r made own
    unfold outcome?
    rw [same made own]

theorem Spans.untouched (reached : Reachable m) (made : s < m.scripts.size)
    (spans : Spans (fun n op => ¬ n.Addresses s op) m.stack m moves reactions last) :
    Untouched s m last := by
  have proper := Part.of_proper reached made
  refine untouched_of_spares (Spans.spares reached spans proper .refl ?_)
  intro n op _ spares unaddressed _
  exact misses_of spares unaddressed

theorem acts_untouched (reached : Reachable m) (made : b < m.scripts.size)
    (apart : m.idOf a ≠ m.idOf b) (acts : m.ActsOn a op) (step : Step m (.invoke op) first r)
    (spans : Spans (fun n op => ¬ n.Addresses b op) m.stack first moves reactions last) :
    Untouched b m last :=
  Spans.untouched reached made (.cons step (.invoke (acts.elsewhere reached made apart)) spans)

end Machine

end FiberBridge
