import FiberBridge.Fiber

namespace FiberBridge

structure Registry where
  entries : List (ScriptId × Nat) := []
  distinct : (entries.map Prod.fst).Nodup := by simp

namespace Registry

instance : Inhabited Registry := ⟨{}⟩

def size (r : Registry) : Nat := r.entries.length

def get? (r : Registry) (id : ScriptId) : Option Nat := r.entries.lookup id

def others (r : Registry) (id : ScriptId) : List (ScriptId × Nat) :=
  r.entries.filter (·.1 ≠ id)

theorem others_distinct (r : Registry) (id : ScriptId) :
    ((r.others id).map Prod.fst).Nodup := by
  have kept : (r.others id).Sublist r.entries := List.filter_sublist
  exact r.distinct.sublist (kept.map Prod.fst)

theorem notMem_others (r : Registry) (id : ScriptId) :
    id ∉ (r.others id).map Prod.fst := by
  simp [others]

def insert (r : Registry) (id : ScriptId) (script : Nat) : Registry where
  entries := (id, script) :: r.others id
  distinct := by
    rw [List.map_cons, List.nodup_cons]
    exact ⟨r.notMem_others id, r.others_distinct id⟩

-- Drops the entry of `id` if it names `script`: a late removal takes no newer script's entry.
def remove (r : Registry) (id : ScriptId) (script : Nat) : Registry :=
  if r.get? id = some script then ⟨r.others id, r.others_distinct id⟩ else r

theorem lookup_filter_ne {entries : List (ScriptId × Nat)} {id other : ScriptId} :
    (entries.filter (·.1 ≠ id)).lookup other =
      if other = id then none else entries.lookup other := by
  induction entries with
  | nil => simp
  | cons e rest ih =>
    obtain ⟨k, v⟩ := e
    by_cases same : k = id
    · subst same
      rw [List.filter_cons_of_neg (by simp), ih]
      by_cases asked : other = k
      · simp [asked]
      · simp [asked, List.lookup_cons, beq_eq_false_iff_ne.mpr asked]
    · rw [List.filter_cons_of_pos (by simpa using same), List.lookup_cons, List.lookup_cons, ih]
      by_cases asked : other = k
      · subst asked; simp [same]
      · simp [beq_eq_false_iff_ne.mpr asked]

theorem get?_insert (r : Registry) (id other : ScriptId) (script : Nat) :
    (r.insert id script).get? other = if other = id then some script else r.get? other := by
  simp only [get?, insert, List.lookup_cons, others]
  by_cases same : other = id
  · simp [same]
  · rw [beq_eq_false_iff_ne.mpr same, lookup_filter_ne]
    simp [same]

theorem get?_remove (r : Registry) (id other : ScriptId) (script : Nat) :
    (r.remove id script).get? other =
      if other = id ∧ r.get? id = some script then none else r.get? other := by
  unfold remove
  by_cases named : r.get? id = some script
  · rw [if_pos named]
    simp only [named, and_true]
    exact lookup_filter_ne
  · simp [named]

theorem lookup_iff_mem {entries : List (ScriptId × Nat)} {id : ScriptId} {script : Nat}
    (distinct : (entries.map Prod.fst).Nodup) :
    entries.lookup id = some script ↔ (id, script) ∈ entries := by
  induction entries with
  | nil => simp
  | cons e rest ih =>
    obtain ⟨k, v⟩ := e
    obtain ⟨absent, others⟩ := List.nodup_cons.mp distinct
    rw [List.lookup_cons, List.mem_cons]
    by_cases same : id = k
    · subst same
      have elsewhere : (id, script) ∉ rest := by
        intro present
        exact absent (List.mem_map.mpr ⟨_, present, rfl⟩)
      simp [elsewhere, eq_comm]
    · rw [beq_eq_false_iff_ne.mpr same]
      simp only [ih others, Prod.mk.injEq, same, false_and, false_or]

theorem get?_iff_mem (r : Registry) {id : ScriptId} {script : Nat} :
    r.get? id = some script ↔ (id, script) ∈ r.entries := lookup_iff_mem r.distinct

end Registry

end FiberBridge
