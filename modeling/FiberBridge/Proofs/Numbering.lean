import FiberBridge.Proofs.Protocol

namespace FiberBridge

def Returned.numbered : Returned → Bool
  | .made _ => true
  | .keyed (.ok _) => true
  | _ => false

structure Renaming where
  script : ScriptKey → ScriptKey
  fiber : FiberKey → FiberKey
  run : RunKey → RunKey
  task : TaskKey → TaskKey

namespace Renaming

variable (there : Renaming)

def ofScript (script : Script) : Script :=
  { script with fiber := there.fiber script.fiber, run := script.run.map there.run }

def ofRun (run : Run) : Run := { run with script := there.script run.script }

def ofTask (task : Task) : Task := { task with script := there.script task.script }

def ofOrigin : Origin → Origin
  | .host => .host
  | .upcall kind id => .upcall kind id
  | .task t => .task (there.task t)

def ofService (c : Service) : Service :=
  { c with script := there.script c.script, origin := there.ofOrigin c.origin }

def ofResumer : Resumer → Resumer
  | .host byHandle => .host byHandle
  | .command c => .command (there.ofService c)
  | .task t => .task (there.task t)

def ofFrame : Frame → Frame
  | .starting s r => .starting (there.script s) (there.run r)
  | .resuming s who => .resuming (there.script s) (there.ofResumer who)
  | .disposing s dropped => .disposing (there.script s) dropped
  | .refusing b s => .refusing b (there.script s)
  | .releasing f => .releasing (there.fiber f)
  | .decoding c k => .decoding (there.ofService c) k
  | .shaping s command shape => .shaping (there.script s) command shape
  | .logging c => .logging (there.ofService c)
  | .reporting b s origin kept => .reporting b (s.map there.script) (there.ofOrigin origin) kept
  | .scheduling c => .scheduling (there.ofService c)
  | .routing c => .routing (there.ofService c)
  | .polling t => .polling (there.task t)

def ofCall : HostCall → HostCall
  | .start f => .start (there.fiber f)
  | .resume f => .resume (there.fiber f)
  | .dispose f => .dispose (there.fiber f)
  | .decode w s => .decode w (there.script s)
  | .route b s name w => .route b (there.script s) name w
  | .poll t future => .poll (there.task t) future
  | q => q

def ofMilestone : Milestone → Milestone
  | .armed r canceled => .armed (there.run r) canceled
  | x => x

def ofDeed : Deed → Deed
  | .called q => .called (there.ofCall q)
  | .read f ordinal => .read (there.fiber f) ordinal
  | .marked s x => .marked (there.script s) (there.ofMilestone x)

def ofOp : Op → Op
  | .setOrdinal f ordinal => .setOrdinal (there.fiber f) ordinal
  | .register b f => .register b (there.fiber f)
  | .start s token => .start (there.script s) token
  | .resume s byHandle => .resume (there.script s) byHandle
  | .status s => .status (there.script s)
  | .describe s => .describe (there.script s)
  | .fail s e => .fail (there.script s) e
  | .dispose s => .dispose (there.script s)
  | .dropHandle s => .dropHandle (there.script s)
  | .makeRef s => .makeRef (there.script s)
  | .dropRef s => .dropRef (there.script s)
  | .dropRun r => .dropRun (there.run r)
  | .decode s command word shape => .decode (there.script s) command word shape
  | .pollTask t => .pollTask (there.task t)
  | .dropFiber f => .dropFiber (there.fiber f)
  | op => op

def ofMove : Machine.Move → Machine.Move
  | .invoke op => .invoke (there.ofOp op)
  | .answer reply => .answer reply
  | .unwind p => .unwind p

inductive Like : Reaction → Reaction → Prop where
  | call {q : HostCall} : Like (.call q) (.call (there.ofCall q))
  | plain {r : Returned} (keyed : ∀ k, r ≠ .keyed (.ok k)) (made : ∀ k, r ≠ .made k) :
      Like (.returned r) (.returned r)
  | script {s : ScriptKey} : Like (.returned (.keyed (.ok s))) (.returned (.keyed (.ok (there.script s))))
  | run {r : RunKey} : Like (.returned (.keyed (.ok r))) (.returned (.keyed (.ok (there.run r))))
  | fiber {f : FiberKey} : Like (.returned (.keyed (.ok f))) (.returned (.keyed (.ok (there.fiber f))))
  | made {f : FiberKey} : Like (.returned (.made f)) (.returned (.made (there.fiber f)))
  | panicked {p : Panic} : Like (.panicked p) (.panicked p)

variable {there}

theorem Like.of_plain {r : Returned} (plain : r.numbered = false) :
    there.Like (.returned r) (.returned r) := by
  refine .plain ?_ ?_
  · rintro k rfl
    cases plain
  · rintro k rfl
    cases plain

@[simp] theorem ofOrigin_task? (origin : Origin) :
    (there.ofOrigin origin).task? = origin.task?.map there.task := by
  cases origin <;> rfl

end Renaming

-- Numbers of which some are followed: all from `first` on, and those are `gap` further on elsewhere.
structure Zone where
  mine : Nat → Prop
  first : Nat
  gap : Nat
  fresh : ∀ k, first ≤ k → mine k

namespace Zone

variable {z : Zone} {j k l size : Nat}

def there (z : Zone) (k : Nat) : Nat := if k < z.first then k else k + z.gap

def Image (z : Zone) (l : Nat) : Prop := ∃ k, z.mine k ∧ z.there k = l

theorem there_old (old : k < z.first) : z.there k = k := if_pos old

theorem there_inj : z.there j = z.there k ↔ j = k := by
  unfold there
  split <;> split <;> omega

theorem there_lt (first : z.first ≤ size) : z.there k < size + z.gap ↔ k < size := by
  unfold there
  split <;> omega

theorem there_size (first : z.first ≤ size) : z.there size = size + z.gap :=
  if_neg (Nat.not_lt_of_le first)

theorem old_of_other (other : ¬ z.mine k) : k < z.first :=
  Nat.lt_of_not_le fun new => other (z.fresh k new)

theorem image (mine : z.mine k) : z.Image (z.there k) := ⟨k, mine, rfl⟩

theorem image_there : z.Image (z.there k) ↔ z.mine k := by
  refine ⟨?_, image⟩
  rintro ⟨j, mine, same⟩
  exact there_inj.mp same ▸ mine

theorem lt_of_not_image (other : ¬ z.Image l) : l < z.first + z.gap := by
  refine Nat.lt_of_not_le fun new => other ⟨l - z.gap, z.fresh _ (by omega), ?_⟩
  unfold there
  split <;> omega

theorem not_image (after : z.first ≤ l) (before : l < z.first + z.gap) : ¬ z.Image l := by
  rintro ⟨k, _, same⟩
  unfold there at same
  split at same <;> omega

theorem mine_of_image (image : z.Image l) (before : l < z.first + z.gap) : l < z.first ∧ z.mine l := by
  obtain ⟨k, mine, same⟩ := image
  unfold there at same
  split at same
  · rename_i old
    subst same
    exact ⟨old, mine⟩
  · omega

end Zone

-- `u` has the entries of `t` that are followed, changed by `f`. What holds of the others is known.
structure Slots.Follows {α : Type} [Inhabited α] (z : Zone) (f : α → α) (left right : α → Prop)
    (t u : Slots α) : Prop where
  first : z.first ≤ t.size
  size : u.size = t.size + z.gap
  get : ∀ k, z.mine k → u.get (z.there k) = f (t.get k)
  left : ∀ k, ¬ z.mine k → left (t.get k)
  right : ∀ l, ¬ z.Image l → right (u.get l)

namespace Slots.Follows

variable {α : Type} [Inhabited α] {z : Zone} {f : α → α} {left right : α → Prop} {t u : Slots α}
  {k l : Nat} {g h : α → α}

theorem start (first : z.first = t.size) (size : u.size = t.size + z.gap) (blank : f default = default)
    (get : ∀ k, k < t.size → z.mine k → u.get k = f (t.get k))
    (strange : ∀ k, k < t.size → ¬ z.mine k → left (t.get k))
    (foreign : ∀ l, l < u.size → ¬ (l < t.size ∧ z.mine l) → right (u.get l)) :
    t.Follows z f left right u := by
  refine ⟨Nat.le_of_eq first, size, ?_, ?_, ?_⟩
  · intro k mine
    rcases Nat.lt_or_ge k t.size with old | new
    · rw [Zone.there_old (first.symm ▸ old)]
      exact get k old mine
    · have outside : ¬ z.there k < u.size := by
        rw [size, Zone.there_lt (Nat.le_of_eq first)]
        exact Nat.not_lt_of_le new
      rw [Slots.get_of_size_le new, Slots.get_of_size_le (Nat.le_of_not_lt outside), blank]
  · intro k other
    exact strange k (first ▸ Zone.old_of_other other) other
  · intro l other
    have inside : l < u.size := by
      rw [size, ← first]
      exact Zone.lt_of_not_image other
    refine foreign l inside ?_
    rintro ⟨old, mine⟩
    exact other ⟨l, mine, Zone.there_old (first.symm ▸ old)⟩

theorem there_lt (follows : t.Follows z f left right u) : z.there k < u.size ↔ k < t.size := by
  rw [follows.size]
  exact Zone.there_lt follows.first

theorem there_size (follows : t.Follows z f left right u) : z.there t.size = u.size := by
  rw [follows.size]
  exact Zone.there_size follows.first

theorem new (follows : t.Follows z f left right u) : z.mine t.size := z.fresh _ follows.first

theorem update (follows : t.Follows z f left right u) (mine : z.mine k)
    (same : h (f (t.get k)) = f (g (t.get k))) :
    (t.update k g).Follows z f left right (u.update (z.there k) h) := by
  have first := follows.first
  have size := follows.size
  refine ⟨Nat.le_trans first (Slots.size_le_update ..), ?_, ?_, ?_, ?_⟩
  · unfold Slots.update
    rw [Slots.size_set, Slots.size_set, size]
    unfold Zone.there
    split <;> split <;> split <;> omega
  · intro j mine'
    rw [Slots.get_update, Slots.get_update]
    by_cases this : k = j
    · subst this
      rw [if_pos rfl, if_pos rfl, follows.get k mine, same]
    · rw [if_neg this, if_neg fun bad => this (Zone.there_inj.mp bad), follows.get j mine']
  · intro j other
    rw [Slots.get_update, if_neg]
    · exact follows.left j other
    · rintro rfl
      exact other mine
  · intro l other
    rw [Slots.get_update, if_neg]
    · exact follows.right l other
    · rintro rfl
      exact other (Zone.image mine)

theorem add (follows : t.Follows z f left right u) (a : α) :
    (t.add a).Follows z f left right (u.add (f a)) := by
  have added := follows.update (g := fun _ => a) (h := fun _ => f a) follows.new rfl
  rwa [follows.there_size] at added

theorem keys (follows : t.Follows z f left right u) :
    ∃ before between after, t.keys = before ++ after ∧
      u.keys = before.map z.there ++ (between ++ after.map z.there) ∧ ∀ l ∈ between, ¬ z.Image l := by
  obtain ⟨rest, sized⟩ := Nat.le.dest follows.first
  refine ⟨List.range' 0 z.first, List.range' z.first z.gap, List.range' z.first rest, ?_, ?_, ?_⟩
  · have whole := List.range'_append_1 (s := 0) (m := z.first) (n := rest)
    rw [Nat.zero_add, sized] at whole
    rw [whole]
    exact List.range_eq_range'
  · have still : (List.range' 0 z.first).map z.there = List.range' 0 z.first := by
      refine (List.map_congr_left ?_).trans (List.map_id _)
      intro k present
      exact Zone.there_old (by simpa using (List.mem_range'_1.mp present).2)
    have moved : (List.range' z.first rest).map z.there = List.range' (z.first + z.gap) rest := by
      rw [Nat.add_comm, ← List.map_add_range']
      refine List.map_congr_left ?_
      intro k present
      exact (Zone.there_size (List.mem_range'_1.mp present).1).trans (Nat.add_comm ..)
    have inner := List.range'_append_1 (s := 0) (m := z.first) (n := z.gap + rest)
    rw [Nat.zero_add] at inner
    rw [still, moved, List.range'_append_1, inner]
    have size : u.size = z.first + (z.gap + rest) := by
      rw [follows.size, ← sized]
      omega
    rw [← size]
    exact List.range_eq_range'
  · intro l present
    obtain ⟨after, before⟩ := List.mem_range'_1.mp present
    exact Zone.not_image after before

theorem updateLeft (follows : t.Follows z f left right u) (other : ¬ z.mine k)
    (kept : left (t.get k) → left (g (t.get k))) : (t.update k g).Follows z f left right u := by
  have inside : k < t.size := Nat.lt_of_lt_of_le (Zone.old_of_other other) follows.first
  have size := Slots.size_update inside g
  refine ⟨size.symm ▸ follows.first, by rw [size, follows.size], ?_, ?_, follows.right⟩
  · intro j mine
    rw [Slots.get_update, if_neg]
    · exact follows.get j mine
    · rintro rfl
      exact other mine
  · intro j other'
    rw [Slots.get_update]
    split
    · rename_i same
      subst same
      exact kept (follows.left k other)
    · exact follows.left j other'

theorem updateRight (follows : t.Follows z f left right u) (other : ¬ z.Image l)
    (kept : right (u.get l) → right (h (u.get l))) : t.Follows z f left right (u.update l h) := by
  have inside : l < u.size := by
    have first := follows.first
    have size := follows.size
    have before := Zone.lt_of_not_image other
    omega
  refine ⟨follows.first, by rw [Slots.size_update inside, follows.size], ?_, follows.left, ?_⟩
  · intro j mine
    rw [Slots.get_update, if_neg]
    · exact follows.get j mine
    · rintro rfl
      exact other (Zone.image mine)
  · intro l' other'
    rw [Slots.get_update]
    split
    · rename_i same
      subst same
      exact kept (follows.right l other)
    · exact follows.right l' other'

end Slots.Follows

end FiberBridge
