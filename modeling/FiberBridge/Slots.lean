namespace FiberBridge

-- Values numbered from zero. A number that was never written reads as the default, and writing
-- past the end makes room.
structure Slots (α : Type) where
  cells : Array α
deriving Repr

namespace Slots

variable {α : Type}

def empty : Slots α := ⟨#[]⟩

instance : EmptyCollection (Slots α) := ⟨empty⟩
instance : Inhabited (Slots α) := ⟨empty⟩

def size (t : Slots α) : Nat := t.cells.size

def keys (t : Slots α) : List Nat := List.range t.size

def any (t : Slots α) (p : α → Bool) : Bool := t.cells.any p

theorem mem_keys {t : Slots α} {i : Nat} : i ∈ t.keys ↔ i < t.size := by
  simp [keys]

variable [Inhabited α]

def get (t : Slots α) (i : Nat) : α := t.cells.getD i default

def set (t : Slots α) (i : Nat) (a : α) : Slots α :=
  if i < t.cells.size then ⟨t.cells.setIfInBounds i a⟩
  else ⟨(t.cells ++ Array.replicate (i - t.cells.size) default).push a⟩

def add (t : Slots α) (a : α) : Slots α := t.set t.size a

def update (t : Slots α) (i : Nat) (f : α → α) : Slots α := t.set i (f (t.get i))

theorem get_empty (i : Nat) : (∅ : Slots α).get i = default := by
  simp [get, EmptyCollection.emptyCollection, empty]

theorem get_of_size_le {t : Slots α} {i : Nat} (h : t.size ≤ i) : t.get i = default := by
  simp only [get, Array.getD_eq_getD_getElem?]
  rw [Array.getElem?_eq_none h, Option.getD_none]

theorem get_set (t : Slots α) (i j : Nat) (a : α) :
    (t.set i a).get j = if i = j then a else t.get j := by
  unfold set get
  by_cases inside : i < t.cells.size
  · simp only [inside, if_true, Array.getD_eq_getD_getElem?, Array.getElem?_setIfInBounds]
    by_cases same : i = j
    · subst same; simp
    · simp [same]
  · simp only [inside, if_false, Array.getD_eq_getD_getElem?]
    rw [Array.getElem?_push]
    have room : (t.cells ++ Array.replicate (i - t.cells.size) (default : α)).size = i := by
      simp; omega
    rw [room]
    by_cases same : i = j
    · subst same; simp
    · rw [if_neg (Ne.symm same), if_neg same, Array.getElem?_append]
      by_cases old : j < t.cells.size
      · simp [old]
      · rw [if_neg old, Array.getElem?_replicate, Array.getElem?_eq_none (Nat.le_of_not_lt old)]
        split <;> rfl

theorem get_set_self (t : Slots α) (i : Nat) (a : α) : (t.set i a).get i = a := by
  simp [get_set]

theorem set_set (t : Slots α) (i : Nat) (a b : α) : (t.set i a).set i b = t.set i b := by
  by_cases inside : i < t.cells.size
  · simp [set, inside]
  · have room : (t.cells ++ Array.replicate (i - t.cells.size) (default : α)).size = i := by
      simp; omega
    simp only [set, inside, if_false, Array.size_push, room, Nat.lt_succ_self, if_true]
    have last : i < (t.cells ++ Array.replicate (i - t.cells.size) (default : α)).size + 1 := by omega
    rw [Array.setIfInBounds_def, dif_pos (by rwa [Array.size_push]), Array.set_push,
      dif_neg (by omega)]

theorem update_add (t : Slots α) (a : α) (f : α → α) : (t.add a).update t.size f = t.add (f a) := by
  unfold update add
  rw [get_set_self, set_set]

theorem update_update (t : Slots α) (i : Nat) (f g : α → α) :
    (t.update i f).update i g = t.update i fun a => g (f a) := by
  unfold update
  rw [get_set_self, set_set]

theorem update_self {t : Slots α} {i : Nat} (inside : i < t.size) {f : α → α} (same : ∀ a, f a = a) :
    t.update i f = t := by
  have inside : i < t.cells.size := inside
  have kept : t.cells.getD i default = t.cells[i] := by
    rw [Array.getD_eq_getD_getElem?, Array.getElem?_eq_getElem inside, Option.getD_some]
  unfold update set get
  rw [if_pos inside, same, kept, Array.setIfInBounds_def, dif_pos inside, Array.set_getElem_self]

theorem get_update (t : Slots α) (i j : Nat) (f : α → α) :
    (t.update i f).get j = if i = j then f (t.get j) else t.get j := by
  unfold update
  rw [get_set]
  by_cases same : i = j
  · subst same; simp
  · simp [same]

theorem get_add (t : Slots α) (j : Nat) (a : α) :
    (t.add a).get j = if t.size = j then a else t.get j := get_set ..

theorem get_add_self (t : Slots α) (a : α) : (t.add a).get t.size = a := by
  rw [get_add, if_pos rfl]

theorem get_add_old {t : Slots α} {i : Nat} (inside : i < t.size) (a : α) :
    (t.add a).get i = t.get i := by
  rw [get_add, if_neg (Nat.ne_of_gt inside)]

theorem field_update {β : Type} (field : α → β) {f : α → α} (same : ∀ a, field (f a) = field a)
    (t : Slots α) (i j : Nat) : field ((t.update i f).get j) = field (t.get j) := by
  rw [get_update]
  split
  · exact same _
  · rfl

theorem field_add {β : Type} (field : α → β) {a : α} (blank : field a = field default)
    (t : Slots α) (j : Nat) : field ((t.add a).get j) = field (t.get j) := by
  rw [get_add]
  split
  · rename_i new
    rw [get_of_size_le (Nat.le_of_eq new), blank]
  · rfl

theorem size_set (t : Slots α) (i : Nat) (a : α) :
    (t.set i a).size = if i < t.size then t.size else i + 1 := by
  unfold set size
  split
  · simp
  · simp; omega

theorem size_add (t : Slots α) (a : α) : (t.add a).size = t.size + 1 := by
  simp [add, size_set]

theorem size_le_add (t : Slots α) (a : α) : t.size ≤ (t.add a).size := by
  rw [size_add]
  exact Nat.le_succ _

theorem lt_size_add {t : Slots α} {a : α} {i : Nat} :
    i < (t.add a).size ↔ i = t.size ∨ i < t.size := by
  rw [size_add]
  omega

theorem size_update {t : Slots α} {i : Nat} (inside : i < t.size) (f : α → α) :
    (t.update i f).size = t.size := by
  unfold update
  rw [size_set, if_pos inside]

theorem size_le_update (t : Slots α) (i : Nat) (f : α → α) : t.size ≤ (t.update i f).size := by
  unfold update
  rw [size_set]
  split <;> omega

end Slots

end FiberBridge
