import FiberBridge.Proofs.Dispatch

namespace FiberBridge

def SystemCommand.under (command : SystemCommand) : Option String → String
  | none => command.base
  | some ns => ns ++ ":" ++ command.base

def Config.namespace? (config : Config) : Option String :=
  config.systemNamespace.filter fun ns => !ns.isEmpty

def Config.firstMatch? (config : Config) (order : List SystemCommand) (name : ByteArray) :
    Option SystemCommand :=
  order.find? fun command => name.data = (config.reservedName command).toUTF8.data

-- Parts that were joined by a separator can be told apart if it is in none of the last parts.
theorem last_parts {α : Type} {mark : α} {first first' last last' : List α} (plain : mark ∉ last)
    (plain' : mark ∉ last') (same : first ++ mark :: last = first' ++ mark :: last') :
    first = first' ∧ last = last' := by
  rcases List.append_eq_append_iff.mp same with ⟨more, longer, rest⟩ | ⟨more, longer, rest⟩
  · cases more with
    | nil => exact ⟨(longer.trans (List.append_nil first)).symm, (List.cons.inj rest).2⟩
    | cons a more =>
      have inside : mark ∈ last := (List.cons.inj rest).2 ▸ List.mem_append_right _ List.mem_cons_self
      exact absurd inside plain
  · cases more with
    | nil => exact ⟨longer.trans (List.append_nil first'), (List.cons.inj rest).2.symm⟩
    | cons a more =>
      have inside : mark ∈ last' := (List.cons.inj rest).2 ▸ List.mem_append_right _ List.mem_cons_self
      exact absurd inside plain'

namespace SystemCommand

variable {k k' : SystemCommand} {ns ns' : Option String}

theorem colon_notMem_base (k : SystemCommand) : ':' ∉ k.base.toList := by
  cases k <;> decide

theorem toList_under (k : SystemCommand) (ns : String) :
    (k.under (some ns)).toList = ns.toList ++ ':' :: k.base.toList := by
  simp [under]

theorem base_ne_under (k k' : SystemCommand) (ns : String) : k.base ≠ k'.under (some ns) := by
  intro same
  have mark : ':' ∈ (k'.under (some ns)).toList := by
    rw [toList_under]
    exact List.mem_append_right _ List.mem_cons_self
  rw [← same] at mark
  exact colon_notMem_base k mark

theorem under_injective (same : k.under ns = k'.under ns') : ns = ns' ∧ k = k' := by
  cases ns with
  | none =>
    cases ns' with
    | none => exact ⟨rfl, base_injective same⟩
    | some ns' => exact absurd same (base_ne_under k k' ns')
  | some ns =>
    cases ns' with
    | none => exact absurd same.symm (base_ne_under k' k ns)
    | some ns' =>
      have listed : ns.toList ++ ':' :: k.base.toList = ns'.toList ++ ':' :: k'.base.toList := by
        rw [← toList_under, ← toList_under, same]
      obtain ⟨spaces, bases⟩ := last_parts (colon_notMem_base k) (colon_notMem_base k') listed
      rw [String.toList_inj.mp spaces]
      exact ⟨rfl, base_injective (String.toList_inj.mp bases)⟩

end SystemCommand

namespace Config

variable {config other : Config} {k : SystemCommand} {name : ByteArray} {ns : Option String}

theorem reservedName_eq (config : Config) (k : SystemCommand) :
    config.reservedName k = k.under config.namespace? := by
  unfold reservedName namespace?
  cases config.systemNamespace with
  | none => rfl
  | some ns =>
    dsimp only
    cases empty : ns.isEmpty with
    | true =>
      rw [Option.filter_some_neg (by simp [empty])]
      rfl
    | false =>
      rw [Option.filter_some_pos (by simp [empty])]
      rfl

theorem reserved?_under : config.reserved? name = some k ↔ name = (k.under config.namespace?).toUTF8 := by
  rw [reserved?_iff, reservedName_eq]

theorem reserved?_elsewhere (elsewhere : ns ≠ config.namespace?) :
    config.reserved? (k.under ns).toUTF8 = none := by
  refine Option.eq_none_iff_forall_ne_some.mpr fun k' taken => elsewhere ?_
  have bytes := reserved?_under.mp taken
  exact (SystemCommand.under_injective (String.toByteArray_inj.mp bytes)).1

theorem firstMatch?_eq {order : List SystemCommand} (all : ∀ k, k ∈ order) :
    config.firstMatch? order name = config.reserved? name := by
  cases found : config.firstMatch? order name with
  | some k =>
    have matched : name.data = (config.reservedName k).toUTF8.data := by
      unfold firstMatch? at found
      exact of_decide_eq_true (List.find?_some found :)
    exact (reserved?_iff.mpr (ByteArray.ext matched)).symm
  | none =>
    refine (Option.eq_none_iff_forall_ne_some.mpr fun k taken => ?_).symm
    have unmatched := List.find?_eq_none.mp found k (all k)
    exact unmatched (decide_eq_true (congrArg ByteArray.data (reserved?_iff.mp taken)))

theorem alike (same : other.namespace? = config.namespace?) :
    other.reservedName = config.reservedName ∧ other.reserved? = config.reserved? := by
  refine ⟨funext fun k => ?_, funext fun name => Option.ext fun k => ?_⟩
  · rw [reservedName_eq, reservedName_eq, same]
  · rw [reserved?_under, reserved?_under, same]

end Config

namespace Machine

variable {m next : Machine} {c : Received} {reaction : Reaction}

theorem elsewhere_unserved {op : Op} {ns : Option String} {k : SystemCommand} (reached : Reachable m)
    (received : m.received? op = some c) (elsewhere : ns ≠ (m.bridges.get c.bridge).config.namespace?)
    (named : c.name = (k.under ns).toUTF8) (step : Step m (.invoke op) next reaction) :
    ∃ route, m.Applies c route ∧ m.Taken c next reaction route ∧ ∀ s k', route ≠ .system s k' := by
  obtain ⟨route, applies⟩ := route_applies reached c
  refine ⟨route, applies, applied_taken reached received applies step, ?_⟩
  rintro s k' rfl
  have taken := Config.reserved?_iff.mpr applies.2
  rw [named, Config.reserved?_elsewhere elsewhere] at taken
  cases taken

end Machine

-- What holds of the names that a configuration reserves: a name is taken for a command exactly if
-- it is that command's full name, byte for byte, and nothing is reserved under two namespaces.
structure Config.Unambiguous (config : Config) : Prop where
  exact : ∀ name k, config.reserved? name = some k ↔ name = (k.under config.namespace?).toUTF8
  order : ∀ order name, (∀ k, k ∈ order) → config.firstMatch? order name = config.reserved? name
  alike : ∀ other : Config, other.namespace? = config.namespace? →
    other.reservedName = config.reservedName ∧ other.reserved? = config.reserved?
  empty : config.systemNamespace = none ∨ config.systemNamespace = some "" ↔ config.namespace? = none
  disjoint : ∀ (other : Config) name k k', other.namespace? ≠ config.namespace? →
    config.reserved? name = some k → other.reserved? name ≠ some k'
  bare : config.namespace? ≠ none → ∀ k : SystemCommand, config.reserved? k.base.toUTF8 = none
  foreign : ∀ (other : Config) k, other.namespace? ≠ config.namespace? →
    config.reserved? (other.reservedName k).toUTF8 = none
  unserved : ∀ (m : Machine) op c ns (k : SystemCommand) next reaction, m.Reachable →
    m.received? op = some c → (m.bridges.get c.bridge).config = config → ns ≠ config.namespace? →
    c.name = (k.under ns).toUTF8 → m.Step (.invoke op) next reaction →
    ∃ route, m.Applies c route ∧ m.Taken c next reaction route ∧ ∀ s k', route ≠ .system s k'

theorem Config.reserved_names_unambiguous (config : Config) : config.Unambiguous := by
  refine ⟨?_, ?_, ?_, ?_, ?_, ?_, ?_, ?_⟩
  · intro name k
    exact reserved?_under
  · intro order name all
    exact firstMatch?_eq all
  · intro other same
    exact Config.alike same
  · unfold namespace?
    rw [Option.filter_eq_none_iff]
    cases config.systemNamespace with
    | none => simp
    | some ns => simp
  · intro other name k k' elsewhere here there
    have named := reserved?_under.mp here
    rw [named, reserved?_elsewhere (Ne.symm elsewhere)] at there
    cases there
  · intro named k
    exact reserved?_elsewhere (k := k) (Ne.symm named)
  · intro other k elsewhere
    rw [reservedName_eq]
    exact reserved?_elsewhere elsewhere
  · intro m op c ns k next reaction reached received own elsewhere named step
    exact Machine.elsewhere_unserved reached received (own ▸ elsewhere) named step

namespace Machine

def nestedNamespace : List Move :=
  [.invoke (.build { config := { systemNamespace := some "a:log" }, router := true, runtime := true }),
    .invoke (.makeFiber ⟨1⟩ 0), .invoke (.register 0 0)]

set_option maxRecDepth 10000 in
-- What another bridge would log goes to the router here, like any other command.
theorem reserved_names_unambiguous_nested :
    (after nestedNamespace).Reachable ∧
      some "a" ≠ Config.namespace? { systemNamespace := some "a:log" } ∧
      ((after nestedNamespace).invoke (.command 0 ⟨1⟩ "a:log".toUTF8 ⟨7⟩ false)).2 =
        .call (.route 0 0 "a:log" ⟨7⟩) := by
  have reached : Reachable (after nestedNamespace) := (runs_after (by decide +kernel)).reachable .initial
  have elsewhere : some "a" ≠ Config.namespace? { systemNamespace := some "a:log" } := by decide +kernel
  refine ⟨reached, elsewhere, ?_⟩
  let op : Op := .command 0 ⟨1⟩ "a:log".toUTF8 ⟨7⟩ false
  let c : Received := ⟨0, ⟨1⟩, "a:log".toUTF8, ⟨7⟩, false, .host⟩
  have step : Step (after nestedNamespace) (.invoke op) ((after nestedNamespace).invoke op).1
      ((after nestedNamespace).invoke op).2 := .invoke (by decide +kernel) rfl
  have received : (after nestedNamespace).received? op = some c := rfl
  have live : Registered (after nestedNamespace) 0 ⟨1⟩ 0 :=
    ⟨by decide +kernel, by decide +kernel, by decide +kernel, by decide +kernel, by decide +kernel⟩
  obtain ⟨route, applies, taken, _⟩ :=
    (Config.reserved_names_unambiguous { systemNamespace := some "a:log" }).unserved
      (after nestedNamespace) op c (some "a") .log _ _ reached received (by decide +kernel) elsewhere
      (by decide +kernel) step
  have unreserved : (after nestedNamespace).Unreserved c := by
    intro k
    cases k <;> decide +kernel
  have routed : (after nestedNamespace).Applies c (.routed 0 "a:log") :=
    ⟨live, unreserved, rfl, by decide +kernel, .inl (by decide +kernel)⟩
  obtain rfl := applies_unique reached applies routed
  exact taken.1

end Machine

end FiberBridge
