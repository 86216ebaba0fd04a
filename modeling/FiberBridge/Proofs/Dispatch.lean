import FiberBridge.Proofs.Asking
import FiberBridge.Proofs.Attribution
import FiberBridge.Proofs.Lookup
import FiberBridge.Proofs.Swept

namespace FiberBridge

inductive Route where
  | unknown
  | system (s : ScriptKey) (k : SystemCommand)
  | unreadable (s : ScriptKey)
  | unsupported (s : ScriptKey) (text : String)
  | routed (s : ScriptKey) (text : String)

namespace Machine

variable {m next : Machine} {c : Received} {reaction : Reaction}

def Unreserved (m : Machine) (c : Received) : Prop :=
  ∀ k, c.name ≠ ((m.bridges.get c.bridge).config.reservedName k).toUTF8

theorem unreserved_iff :
    m.Unreserved c ↔ (m.bridges.get c.bridge).config.reserved? c.name = none := by
  rw [Option.eq_none_iff_forall_ne_some]
  exact forall_congr' fun k => not_congr Config.reserved?_iff.symm

def CanForward (m : Machine) (c : Received) : Prop :=
  (m.bridges.get c.bridge).router ∧ ((m.bridges.get c.bridge).runtime ∨ c.ambient)

def Applies (m : Machine) (c : Received) : Route → Prop
  | .unknown => ∀ s, ¬ Registered m c.bridge c.id s
  | .system s k =>
    Registered m c.bridge c.id s ∧
      c.name = ((m.bridges.get c.bridge).config.reservedName k).toUTF8
  | .unreadable s =>
    Registered m c.bridge c.id s ∧ m.Unreserved c ∧ ∀ text : String, text.toUTF8 ≠ c.name
  | .unsupported s text =>
    Registered m c.bridge c.id s ∧ m.Unreserved c ∧ text.toUTF8 = c.name ∧ ¬ m.CanForward c
  | .routed s text =>
    Registered m c.bridge c.id s ∧ m.Unreserved c ∧ text.toUTF8 = c.name ∧ m.CanForward c

-- A command fails for good: its script's run first, then the error handler.
def FailsWith (m : Machine) (c : Received) (s : ScriptKey) (e : BridgeError) (next : Machine) : Prop :=
  next.acts = m.delivery c.bridge e :: .deed (.marked s (.failed e)) :: m.acts

def Taken (m : Machine) (c : Received) (next : Machine) (reaction : Reaction) : Route → Prop
  | .unknown =>
    next.acts = m.delivery c.bridge
        (.unrouteable c.id ("command `" ++ Utf8.lossy c.name ++ "`")) :: m.acts ∧
      next.runs = m.runs
  | .system s k =>
    let service := c.service s ((m.bridges.get c.bridge).config.reservedName k)
    match m.lacking? service k with
    | some reason =>
      next.acts = m.delivery c.bridge (.notSupported service.name reason) :: m.acts
    | none =>
      reaction = .call (.decode c.word s) ∧ next.stack = .decoding service k :: m.stack ∧
        next.acts = .deed (.called (.decode c.word s)) :: m.acts
  | .unreadable s =>
    ∃ why, m.FailsWith c s
      (.codec (Utf8.lossy c.name) ("command name is not UTF-8: " ++ why)) next
  | .unsupported s text => ∃ why, m.FailsWith c s (.notSupported text why) next
  | .routed s text =>
    reaction = .call (.route c.bridge s text c.word) ∧
      next.stack = .routing (c.service s text) :: m.stack ∧
      next.acts = .deed (.called (.route c.bridge s text c.word)) :: m.acts

theorem applies_unique {one other : Route} (reached : Reachable m) (first : m.Applies c one)
    (second : m.Applies c other) : one = other := by
  have same {s s' : ScriptKey} (left : Registered m c.bridge c.id s)
      (right : Registered m c.bridge c.id s') : s = s' := registered_unique reached left right
  have texts {text text' : String} (left : text.toUTF8 = c.name) (right : text'.toUTF8 = c.name) :
      text = text' := String.toByteArray_inj.mp (left.trans right.symm)
  cases one with
  | unknown =>
    cases other with
    | unknown => rfl
    | system s k => exact absurd second.1 (first s)
    | unreadable s => exact absurd second.1 (first s)
    | unsupported s text => exact absurd second.1 (first s)
    | routed s text => exact absurd second.1 (first s)
  | system s k =>
    cases other with
    | unknown => exact absurd first.1 (second s)
    | system s' k' =>
      obtain rfl := same first.1 second.1
      have named := congrArg ByteArray.data (first.2.symm.trans second.2)
      obtain rfl := Config.reservedBytes_injective named
      rfl
    | unreadable s' => exact absurd first.2 (second.2.1 k)
    | unsupported s' text => exact absurd first.2 (second.2.1 k)
    | routed s' text => exact absurd first.2 (second.2.1 k)
  | unreadable s =>
    cases other with
    | unknown => exact absurd first.1 (second s)
    | system s' k => exact absurd second.2 (first.2.1 k)
    | unreadable s' => rw [same first.1 second.1]
    | unsupported s' text => exact absurd second.2.2.1 (first.2.2 text)
    | routed s' text => exact absurd second.2.2.1 (first.2.2 text)
  | unsupported s text =>
    cases other with
    | unknown => exact absurd first.1 (second s)
    | system s' k => exact absurd second.2 (first.2.1 k)
    | unreadable s' => exact absurd first.2.2.1 (second.2.2 text)
    | unsupported s' text' => rw [same first.1 second.1, texts first.2.2.1 second.2.2.1]
    | routed s' text' => exact absurd second.2.2.2 first.2.2.2
  | routed s text =>
    cases other with
    | unknown => exact absurd first.1 (second s)
    | system s' k => exact absurd second.2 (first.2.1 k)
    | unreadable s' => exact absurd first.2.2.1 (second.2.2 text)
    | unsupported s' text' => exact absurd first.2.2.2 second.2.2.2
    | routed s' text' => rw [same first.1 second.1, texts first.2.2.1 second.2.2.1]

theorem report_spares {b : BridgeKey} {told : Option ScriptKey} {e : BridgeError} {origin : Origin}
    {kept : Option Notification} (ends : origin.task? = none) :
    (m.report b told e origin kept).1.scripts = m.scripts ∧
      (m.report b told e origin kept).1.runs = m.runs := by
  unfold report deliver errorHandler
  dsimp only [tell, log, lock, unlock]
  cases (m.bridges.get b).error with
  | builtIn =>
    cases origin with
    | host => exact ⟨rfl, rfl⟩
    | upcall kind id => exact ⟨rfl, rfl⟩
    | task t => cases ends
  | host h => exact ⟨rfl, rfl⟩

theorem deliverTurn_edits {b : BridgeKey} {told : Option ScriptKey} {e : BridgeError}
    {origin : Origin} {kept : Option Notification} (ends : origin.task? = none) :
    (m.deliverTurn b told e origin kept).edits = [] := by
  unfold deliverTurn close?
  rw [ends]
  split <;> rfl

theorem command_unknown {b : BridgeKey} {id : ScriptId} {name : ByteArray} {word : Word}
    {ambient : Bool} {origin : Origin} (ends : origin.task? = none) (missing : m.find? b id = none) :
    (m.command b id name word ambient origin).1.scripts = m.scripts ∧
      (m.command b id name word ambient origin).1.runs = m.runs := by
  have found : (m.lookup b id).2 = none := missing
  unfold command
  dsimp only
  rw [found]
  exact report_spares (m := (m.lookup b id).1) ends

theorem launch_unknown {op : Op} (received : m.received? op = some c)
    (missing : m.find? c.bridge c.id = none) :
    (m.launch op).1.scripts = m.scripts ∧ (m.launch op).1.runs = m.runs := by
  cases op with
  | command b id name word ambient =>
    cases received
    exact command_unknown rfl missing
  | commandUpcall id name length word ambient =>
    obtain ⟨b, target, rfl⟩ := Option.map_eq_some_iff.mp received
    have live : m.liveTarget.2 = some b := target
    have upcall : m.launch (.commandUpcall id name length word ambient) = m.liveTarget.1.command b id
        (nativeName name length) word ambient (.upcall .command id) := by
      simp only [launch, commandUpcall, live]
    rw [upcall]
    exact command_unknown (m := m.liveTarget.1) rfl missing
  | _ => cases received

-- A command for an id that nobody has lets go of nobody either.
theorem unknown_runs {op : Op} (reached : Reachable m) (received : m.received? op = some c)
    (missing : m.find? c.bridge c.id = none) (step : Step m (.invoke op) next reaction) :
    next.runs = m.runs := by
  obtain ⟨_, rfl, _⟩ := step.invoked
  obtain ⟨scripts, runs⟩ := launch_unknown received missing
  have takes : m.Takes (m.opTurn op) (m.launch op) := launch_takes
  have turn : m.opTurn op = m.deliverTurn c.bridge none
      (.unrouteable c.id ("command `" ++ Utf8.lossy c.name ++ "`")) c.origin none := by
    rw [opTurn_received received]
    simp only [commandTurn, missing]
  have tasks : (m.launch op).1.tasks = m.tasks := by
    rw [takes.tasks, turn, deliverTurn_edits (received_grounded received)]
    rfl
  have swept : (m.launch op).1.Swept := by
    refine reached.swept.grown scripts tasks ?_
    intro frame present s held
    rw [takes.stack]
    exact ⟨frame, List.mem_append_right _ present, held⟩
  exact (congrArg Core.runs swept.core).trans runs

theorem commandTurn_refused {b : BridgeKey} {id : ScriptId} {s : ScriptKey} {name : ByteArray}
    {word : Word} {ambient : Bool} {origin : Origin} {e : BridgeError}
    (found : m.find? b id = some s) (refused : (m.bridges.get b).refusal? name ambient = some e) :
    ∃ text, m.commandTurn b id name word ambient origin =
      m.failTurn ⟨b, s, text, word, ambient, origin⟩ e := by
  unfold Bridge.refusal? at refused
  unfold commandTurn forwardTurn
  simp only [found]
  cases reserved : (m.bridges.get b).config.reserved? name with
  | some k =>
    rw [reserved] at refused
    cases refused
  | none =>
    rw [reserved] at refused
    cases read : Utf8.read name with
    | error fault =>
      rw [read] at refused
      cases refused
      exact ⟨Utf8.lossy name, rfl⟩
    | ok text =>
      rw [read] at refused
      refine ⟨text, ?_⟩
      dsimp only at refused ⊢
      split at refused
      · rename_i lacking
        cases refused
        rw [if_pos lacking]
      · rename_i there
        rw [if_neg there]
        split at refused
        · cases refused
        · rename_i idle
          cases refused
          exact if_neg idle

theorem refusal_unreadable {bridge : Bridge} {name : ByteArray} {ambient : Bool}
    (free : bridge.config.reserved? name = none) (unreadable : ∀ text : String, text.toUTF8 ≠ name) :
    ∃ why, bridge.refusal? name ambient =
      some (.codec (Utf8.lossy name) ("command name is not UTF-8: " ++ why)) := by
  unfold Bridge.refusal?
  rw [free]
  cases read : Utf8.read name with
  | ok text => exact absurd (Utf8.toUTF8_of_read read) (unreadable text)
  | error fault => exact ⟨fault.message, rfl⟩

theorem refusal_unsupported {bridge : Bridge} {text : String} {ambient : Bool}
    (free : bridge.config.reserved? text.toUTF8 = none)
    (lacking : ¬ (bridge.router ∧ (bridge.runtime ∨ ambient))) :
    ∃ why, bridge.refusal? text.toUTF8 ambient = some (.notSupported text why) := by
  unfold Bridge.refusal?
  rw [free, Utf8.read_toUTF8]
  dsimp only
  split
  · exact ⟨_, rfl⟩
  · rename_i router
    split
    · rename_i runtime
      exact absurd ⟨by simpa using router, by simpa using runtime⟩ lacking
    · exact ⟨_, rfl⟩

theorem applied_taken {op : Op} {route : Route} (reached : Reachable m)
    (received : m.received? op = some c) (applies : m.Applies c route)
    (step : Step m (.invoke op) next reaction) : m.Taken c next reaction route := by
  have takes := step_takes step
  have turn : m.turn (.invoke op) =
      m.commandTurn c.bridge c.id c.name c.word c.ambient c.origin := opTurn_received received
  have acts : next.acts =
      (m.commandTurn c.bridge c.id c.name c.word c.ambient c.origin).acts ++ m.acts :=
    turn ▸ takes.acts
  have stack : next.stack = ((m.commandTurn c.bridge c.id c.name c.word c.ambient
      c.origin).asks.map Prod.snd).toList ++ m.stack := turn ▸ takes.stack
  have call : reaction.call? = (m.commandTurn c.bridge c.id c.name c.word c.ambient
      c.origin).asks.map Prod.fst := turn ▸ takes.call
  have calls {q : HostCall} (asked : reaction.call? = some q) : reaction = .call q := by
    cases reaction with
    | call q' =>
      cases asked
      rfl
    | returned r => cases asked
    | panicked p => cases asked
  have fails {s : ScriptKey} {e : BridgeError} (found : m.find? c.bridge c.id = some s)
      (refused : (m.bridges.get c.bridge).refusal? c.name c.ambient = some e) :
      m.FailsWith c s e next := by
    obtain ⟨text, same⟩ := commandTurn_refused (m := m) found refused
    unfold FailsWith
    rw [acts, same]
    exact congrArg (· ++ m.acts) failureTurn_acts
  cases route with
  | unknown =>
    have missing : m.find? c.bridge c.id = none := by
      refine Option.eq_none_iff_forall_ne_some.mpr fun s found => applies s ?_
      exact (find?_iff_registered reached).mp found
    refine ⟨?_, unknown_runs reached received missing step⟩
    rw [acts]
    simp only [commandTurn, missing]
    rw [deliverTurn_acts]
    rfl
  | system s k =>
    obtain ⟨registered, named⟩ := applies
    have found := (find?_iff_registered reached).mpr registered
    have reserved := Config.reserved?_iff.mpr named
    simp only [commandTurn, found, reserved, serveTurn] at acts stack call
    unfold Taken Received.service
    dsimp only
    cases lacking : m.lacking? ⟨c.bridge, s, (m.bridges.get c.bridge).config.reservedName k, c.word,
        c.ambient, c.origin⟩ k with
    | some reason =>
      rw [lacking] at acts
      rw [acts]
      exact congrArg (· ++ m.acts) deliverTurn_acts
    | none =>
      rw [lacking] at acts stack call
      exact ⟨calls call, stack, acts⟩
  | unreadable s =>
    obtain ⟨registered, unreserved, unreadable⟩ := applies
    have found := (find?_iff_registered reached).mpr registered
    obtain ⟨why, refused⟩ := refusal_unreadable (unreserved_iff.mp unreserved) unreadable
    exact ⟨why, fails found refused⟩
  | unsupported s text =>
    obtain ⟨registered, unreserved, readable, lacking⟩ := applies
    have found := (find?_iff_registered reached).mpr registered
    have free := unreserved_iff.mp unreserved
    rw [← readable] at free
    obtain ⟨why, refused⟩ := refusal_unsupported free lacking
    exact ⟨why, fails found (readable ▸ refused)⟩
  | routed s text =>
    obtain ⟨registered, unreserved, readable, router, runtime⟩ := applies
    have found := (find?_iff_registered reached).mpr registered
    have read := Utf8.read_ok_iff.mpr readable
    have driven : m.runtimeFor ⟨c.bridge, s, text, c.word, c.ambient, c.origin⟩ = true := by
      simpa [runtimeFor] using runtime
    simp only [commandTurn, found, unreserved_iff.mp unreserved, forwardTurn, read, router, driven,
      Bool.not_true, Bool.false_eq_true, if_false, if_true] at acts stack call
    exact ⟨calls call, stack, acts⟩

theorem route_applies (reached : Reachable m) (c : Received) : ∃ route, m.Applies c route := by
  cases found : m.find? c.bridge c.id with
  | none =>
    refine ⟨.unknown, fun s registered => ?_⟩
    rw [(find?_iff_registered reached).mpr registered] at found
    cases found
  | some s =>
    have registered := (find?_iff_registered reached).mp found
    cases reserved : (m.bridges.get c.bridge).config.reserved? c.name with
    | some k => exact ⟨.system s k, registered, Config.reserved?_iff.mp reserved⟩
    | none =>
      have unreserved : m.Unreserved c := unreserved_iff.mpr reserved
      cases read : Utf8.read c.name with
      | error fault =>
        refine ⟨.unreadable s, registered, unreserved, fun text same => ?_⟩
        rw [Utf8.read_ok_iff.mpr same] at read
        cases read
      | ok text =>
        have readable := Utf8.toUTF8_of_read read
        by_cases can : m.CanForward c
        · exact ⟨.routed s text, registered, unreserved, readable, can⟩
        · exact ⟨.unsupported s text, registered, unreserved, readable, can⟩

theorem report_over {b : BridgeKey} {told : Option ScriptKey} {origin : Origin}
    {kept : Option Notification} {rest : List Frame} {move : Move} (reached : Reachable m)
    (top : m.stack = .reporting b told origin kept :: rest) (ends : ∀ op, move ≠ .invoke op)
    (step : Step m move next reaction) :
    next.acts = m.acts ∧ reaction.call? = none ∧ next.stack = rest ∧ m.SameOutcomes next := by
  have turn : m.turn move = { edits := (m.turn move).edits } ∧ m.below move = rest := by
    cases move with
    | invoke op => exact absurd rfl (ends op)
    | answer reply =>
      simp only [turn, below, top, List.tail_cons, and_true]
      cases reply <;> rfl
    | unwind p =>
      simp only [turn, below, top, List.tail_cons, and_true]
      rfl
  have fate : m.fate move = [] := by
    cases move with
    | invoke op => exact absurd rfl (ends op)
    | answer reply =>
      simp only [fate, top]
      cases reply <;> rfl
    | unwind p =>
      simp only [fate, top]
      rfl
  have takes := step_takes step
  rw [turn.1, turn.2] at takes
  exact ⟨takes.acts, takes.call, takes.stack, step_same_outcomes reached step fate⟩

-- Every command takes exactly one route. The router is asked on the last of them only, and for nothing
-- else; what the error handler was told of is over when the handler is.
theorem command_dispatch {op : Op} (reached : Reachable m) (received : m.received? op = some c)
    (step : Step m (.invoke op) next reaction) :
    (∃ route, m.Applies c route ∧ m.Taken c next reaction route ∧
      ∀ other, m.Applies c other → other = route) ∧
    (∀ later move last b s text word, Reachable later →
      Step later move last (.call (.route b s text word)) →
      ∃ op c, move = .invoke op ∧ later.received? op = some c ∧ c.bridge = b ∧ c.word = word ∧
        later.Applies c (.routed s text)) ∧
    (∀ later move last reaction b told origin kept rest, Reachable later →
      later.stack = .reporting b told origin kept :: rest → (∀ op, move ≠ .invoke op) →
      Step later move last reaction →
      last.acts = later.acts ∧ reaction.call? = none ∧ last.stack = rest ∧
        later.SameOutcomes last) := by
  refine ⟨?_, ?_, ?_⟩
  · obtain ⟨route, applies⟩ := route_applies reached c
    refine ⟨route, applies, applied_taken reached received applies step, ?_⟩
    intro other applies'
    exact applies_unique reached applies' applies
  · intro later move last b s text word reached' asked
    obtain ⟨op', c', invoked, received', rfl, rfl, found, free, read, router, runtime⟩ :=
      route_asked reached' asked
    have registered := (find?_iff_registered reached').mp found
    exact ⟨op', c', invoked, received', rfl, rfl, registered, unreserved_iff.mpr free,
      Utf8.toUTF8_of_read read, router, by simpa using runtime⟩
  · intro later move last reaction' b told origin kept rest reached' top ends ended
    exact report_over reached' top ends ended

def routable : List Move :=
  [.invoke (.build { router := true, runtime := true }), .invoke (.makeFiber ⟨1⟩ 0),
    .invoke (.register 0 0)]

set_option maxRecDepth 10000 in
theorem command_dispatch_routable :
    ((after routable).invoke (.command 0 ⟨1⟩ "hi".toUTF8 ⟨7⟩ false)).2 =
      .call (.route 0 0 "hi" ⟨7⟩) := by
  have reached : Reachable (after routable) := (runs_after (by decide +kernel)).reachable .initial
  let op : Op := .command 0 ⟨1⟩ "hi".toUTF8 ⟨7⟩ false
  let c : Received := ⟨0, ⟨1⟩, "hi".toUTF8, ⟨7⟩, false, .host⟩
  have step : Step (after routable) (.invoke op) ((after routable).invoke op).1
      ((after routable).invoke op).2 := .invoke (by decide +kernel) rfl
  have received : (after routable).received? op = some c := rfl
  obtain ⟨⟨route, _, taken, only⟩, _⟩ := command_dispatch reached received step
  have applies : (after routable).Applies c (.routed 0 "hi") := by
    refine ⟨⟨by decide +kernel, by decide +kernel, by decide +kernel, by decide +kernel,
      by decide +kernel⟩, ?_, rfl, by decide +kernel, .inl (by decide +kernel)⟩
    intro k
    cases k <;> decide +kernel
  obtain rfl := only _ applies
  exact taken.1

end Machine

end FiberBridge
