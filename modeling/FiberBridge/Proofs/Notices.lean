import FiberBridge.Proofs.Asking

namespace FiberBridge

inductive HandlerKind where
  | log
  | error
deriving DecidableEq, Repr

def Bridge.handler (bridge : Bridge) : HandlerKind → Handler
  | .log => bridge.log
  | .error => bridge.error

inductive Notice where
  | message (text : String)
  | error (e : BridgeError)
deriving DecidableEq

def Notice.kind : Notice → HandlerKind
  | message _ => .log
  | error _ => .error

def Notice.to : Notice → Handler → Act
  | message text, .builtIn => .message text
  | message text, .host h => .deed (.called (.log h text))
  | error e, .builtIn => .unhandled e
  | error e, .host h => .deed (.called (.error h e))

def Act.hands : Act → Bool
  | .unhandled _ => true
  | .message _ => true
  | .deed (.called (.log ..)) => true
  | .deed (.called (.error ..)) => true
  | .deed _ => false

structure Due where
  bridge : BridgeKey
  notice : Notice

def Due.error (b : BridgeKey) (e : BridgeError) : Due := ⟨b, .error e⟩

def HostCall.handler? : HostCall → Option (HandlerKind × Handler)
  | .log h _ => some (.log, .host h)
  | .error h _ => some (.error, .host h)
  | _ => none

def Frame.attends? : Frame → Option (HandlerKind × BridgeKey)
  | .logging c => some (.log, c.bridge)
  | .reporting b _ _ _ => some (.error, b)
  | _ => none

namespace Machine

def refusalDues (m : Machine) (b : BridgeKey) (s : ScriptKey) : List Due :=
  if (m.scripts.get s).disposed then [.error b (.useAfterDispose (m.idOf s))] else []

def resumeDues (m : Machine) (s : ScriptKey) : Resumer → List Due
  | .host _ => []
  | .command c => m.refusalDues c.bridge s
  | .task t => m.refusalDues (m.tasks.get t).bridge s

def waitDues (m : Machine) (c : Service) : List Due :=
  if m.runtimeFor c then [] else [.error c.bridge (.notSupported c.name noRuntime)]

def serveDues (m : Machine) (c : Service) (k : SystemCommand) : List Due :=
  match m.lacking? c k with
  | some reason => [.error c.bridge (.notSupported c.name reason)]
  | none => []

def logDues (m : Machine) (c : Service) (text : String) : List Due :=
  ⟨c.bridge, .message text⟩ ::
    match (m.bridges.get c.bridge).log with
    | .builtIn => m.resumeDues c.script (.command c)
    | .host _ => []

def secondsDues (m : Machine) (c : Service) (seconds : Double) : List Due :=
  match Duration.ofSeconds seconds with
  | .error fault =>
    [.error c.bridge (.codec c.name
      ("invalid duration " ++ Layout.plain.write seconds ++ ": " ++ fault.message))]
  | .ok _ =>
    match (m.bridges.get c.bridge).timers with
    | some .runtime => m.waitDues c
    | _ => []

def framesDues (m : Machine) (c : Service) : List Due :=
  match (m.bridges.get c.bridge).frames with
  | some (.clock _) => m.waitDues c
  | _ => []

def decodedDues (m : Machine) (c : Service) (k : SystemCommand) (d : Decoding) : List Due :=
  match k with
  | .log =>
    match shapeOf c.name d Json.asText with
    | .error e => [.error c.bridge e]
    | .ok text => m.logDues c text
  | .waitSecs =>
    match shapeOf c.name d Json.asNumber with
    | .error e => [.error c.bridge e]
    | .ok seconds => m.secondsDues c seconds
  | .waitFrames =>
    match shapeOf c.name d Json.asCount with
    | .error e => [.error c.bridge e]
    | .ok _ => m.framesDues c

def commandDues (m : Machine) (c : Received) : List Due :=
  match m.find? c.bridge c.id with
  | none => [.error c.bridge (.unrouteable c.id ("command `" ++ Utf8.lossy c.name ++ "`"))]
  | some s =>
    let bridge := m.bridges.get c.bridge
    match bridge.config.reserved? c.name with
    | some k => m.serveDues (c.service s (bridge.config.reservedName k)) k
    | none => ((bridge.refusal? c.name c.ambient).map (Due.error c.bridge)).toList

def raiseDues (m : Machine) (b : BridgeKey) (id : ScriptId) (description : String) : List Due :=
  match m.find? b id with
  | some _ => []
  | none => [.error b (.unrouteable id description)]

def failedDue (m : Machine) (t : TaskKey) (message : String) : Due :=
  let task := m.tasks.get t
  .error task.bridge (.forwardedHandler task.command message)

def polledDues (m : Machine) (t : TaskKey) : Polled → List Due
  | .pending => []
  | .succeeded =>
    let task := m.tasks.get t
    if (m.bridges.get task.bridge).config.resumeAfterForward then m.resumeDues task.script (.task t)
    else []
  | .failed causes => [m.failedDue t (String.intercalate ": " causes)]

def pollDues (m : Machine) (t : TaskKey) : List Due :=
  let task := m.tasks.get t
  match task.finished, task.work with
  | false, .wait n => if m.hasCome (m.begun n) then m.resumeDues task.script (.task t) else []
  | _, _ => []

def opDues (m : Machine) : Op → List Due
  | .report b e => [.error b e]
  | .error b id description => m.raiseDues b id description
  | .errorUpcall id description =>
    match m.target.filter m.bridgeAlive with
    | some b => m.raiseDues b id (nativeText description)
    | none => []
  | .pollTask t => m.pollDues t
  | op => ((m.received? op).map m.commandDues).getD []

def replyDues (m : Machine) : Frame → Reply → List Due
  | .decoding c k, .decoded d => m.decodedDues c k d
  | .logging c, .done => m.resumeDues c.script (.command c)
  | .scheduling c, .notification _ => m.waitDues c
  | .polling t, .polled p => m.polledDues t p
  | _, _ => []

def unwindDues (m : Machine) (p : Panic) : Frame → List Due
  | .routing c => [.error c.bridge (.forwardedHandler c.name p.message)]
  | .polling t => [m.failedDue t p.message]
  | _ => []

def dues (m : Machine) : Move → List Due
  | .invoke op => m.opDues op
  | .answer reply =>
    match m.stack with
    | [] => []
    | frame :: _ => m.replyDues frame reply
  | .unwind p =>
    match m.stack with
    | [] => []
    | frame :: _ => m.unwindDues p frame

def handed (m : Machine) : List Act := m.acts.filter Act.hands

def hand (m : Machine) (dues : List Due) : List Act :=
  (dues.map fun due => due.notice.to ((m.bridges.get due.bridge).handler due.notice.kind)).reverse

end Machine

-- A turn hands over `dues`, and what waits for a handler waits for the one in force.
structure Turn.Hands (m : Machine) (turn : Turn) (dues : List Due) : Prop where
  acts : turn.acts.filter Act.hands = m.hand dues
  waits : ∀ q frame, turn.asks = some (q, frame) → q.handler? =
    frame.attends?.map fun (kind, b) => (kind, (m.bridges.get b).handler kind)

namespace Turn.Hands

variable {m : Machine} {turn : Turn} {dues : List Due} {edits : List Edit}

theorem silent {before : List Act} (quiet : before.filter Act.hands = []) :
    Hands m { before, edits } [] := ⟨quiet, fun _ _ bad => nomatch bad⟩

theorem plain {before : List Act} {q : HostCall} {frame : Frame} (quiet : before.filter Act.hands = [])
    (other : q.handler? = none) (unattended : frame.attends? = none) :
    Hands m { before, asks := some (q, frame), edits } [] := by
  refine ⟨?_, ?_⟩
  · have unhanded : (Act.deed (.called q)).hands = false := by
      cases q <;> first | rfl | cases other
    simp only [Turn.acts, Option.map_some, Option.toList_some, List.cons_append, List.nil_append,
      List.filter_cons_of_neg (Bool.eq_false_iff.mp unhanded), quiet]
    rfl
  · rintro _ _ ⟨⟩
    rw [other, unattended]
    rfl

theorem following {earlier : List Act} (hands : Hands m turn dues) (first : List Due)
    (before : earlier.filter Act.hands = m.hand first) :
    Hands m (turn.following earlier) (first ++ dues) := by
  refine ⟨?_, hands.waits⟩
  have both : (turn.following earlier).acts = turn.acts ++ earlier := by
    simp [Turn.acts, Turn.following]
  rw [both, List.filter_append, hands.acts, before]
  simp [Machine.hand]

theorem edited (hands : Hands m turn dues) : Hands m { turn with edits } dues :=
  ⟨hands.acts, hands.waits⟩

end Turn.Hands

namespace Machine

variable {m : Machine} {b : BridgeKey} {s : ScriptKey} {c : Service} {e : BridgeError}
  {told : Option ScriptKey} {origin : Origin} {kept : Option Notification}

theorem deliverTurn_hands : (m.deliverTurn b told e origin kept).Hands m [.error b e] := by
  unfold deliverTurn
  cases handler : (m.bridges.get b).error with
  | builtIn =>
    refine ⟨?_, fun _ _ bad => nomatch bad⟩
    simp only [hand, Due.error, Notice.kind, Bridge.handler, handler, List.map_cons]
    rfl
  | host h =>
    refine ⟨?_, ?_⟩
    · simp only [hand, Due.error, Notice.kind, Bridge.handler, handler, List.map_cons]
      rfl
    · rintro _ _ ⟨⟩
      simp only [HostCall.handler?, Frame.attends?, Option.map_some, Bridge.handler, handler]

theorem failureTurn_hands : (m.failureTurn b s e origin).Hands m [.error b e] :=
  deliverTurn_hands.following [] rfl

theorem resumeTurn_hands (who : Resumer) : (m.resumeTurn s who).Hands m (m.resumeDues s who) := by
  unfold resumeTurn resumeDues refusalDues
  dsimp only
  cases disposed : (m.scripts.get s).disposed with
  | true =>
    cases who with
    | host byHandle => exact .silent rfl
    | command c => exact deliverTurn_hands
    | task t => exact deliverTurn_hands
  | false =>
    cases who with
    | host byHandle => exact .plain rfl rfl rfl
    | command c => exact .plain rfl rfl rfl
    | task t => exact .plain rfl rfl rfl

theorem waitTurn_hands (n : Notification) : (m.waitTurn c n).Hands m (m.waitDues c) := by
  unfold waitTurn waitDues
  cases m.runtimeFor c with
  | true => exact .silent rfl
  | false => exact deliverTurn_hands

theorem serveTurn_hands (k : SystemCommand) : (m.serveTurn c k).Hands m (m.serveDues c k) := by
  unfold serveTurn serveDues
  cases m.lacking? c k with
  | some reason => exact deliverTurn_hands
  | none => exact .plain rfl rfl rfl

theorem logTurn_hands (text : String) : (m.logTurn c text).Hands m (m.logDues c text) := by
  unfold logTurn logDues
  cases handler : (m.bridges.get c.bridge).log with
  | builtIn =>
    refine (resumeTurn_hands (.command c)).following [⟨c.bridge, .message text⟩] ?_
    simp only [hand, Notice.kind, Bridge.handler, handler, List.map_cons]
    rfl
  | host h =>
    refine ⟨?_, ?_⟩
    · simp only [hand, Notice.kind, Bridge.handler, handler, List.map_cons]
      rfl
    · rintro _ _ ⟨⟩
      simp only [HostCall.handler?, Frame.attends?, Option.map_some, Bridge.handler, handler]

theorem secondsTurn_hands (seconds : Double) :
    (m.secondsTurn c seconds).Hands m (m.secondsDues c seconds) := by
  unfold secondsTurn secondsDues
  cases Duration.ofSeconds seconds with
  | error fault => exact deliverTurn_hands
  | ok d =>
    dsimp only
    cases (m.bridges.get c.bridge).timers with
    | none => exact .plain rfl rfl rfl
    | some timers =>
      cases timers with
      | host => exact .plain rfl rfl rfl
      | runtime => exact waitTurn_hands (.sleep d)

theorem framesTurn_hands (count : UInt32) : (m.framesTurn c count).Hands m (m.framesDues c) := by
  unfold framesTurn framesDues
  cases (m.bridges.get c.bridge).frames with
  | none => exact .plain rfl rfl rfl
  | some source =>
    cases source with
    | host => exact .plain rfl rfl rfl
    | clock clock => exact waitTurn_hands _

theorem decodedTurn_hands (k : SystemCommand) (d : Decoding) :
    (m.decodedTurn c k d).Hands m (m.decodedDues c k d) := by
  unfold decodedTurn decodedDues
  cases k with
  | log =>
    dsimp only
    cases shapeOf c.name d Json.asText with
    | error e => exact deliverTurn_hands
    | ok text => exact logTurn_hands text
  | waitSecs =>
    dsimp only
    cases shapeOf c.name d Json.asNumber with
    | error e => exact deliverTurn_hands
    | ok seconds => exact secondsTurn_hands seconds
  | waitFrames =>
    dsimp only
    cases shapeOf c.name d Json.asCount with
    | error e => exact deliverTurn_hands
    | ok count => exact framesTurn_hands count

theorem forwardTurn_hands {name : ByteArray} {word : Word} {ambient : Bool}
    (free : (m.bridges.get b).config.reserved? name = none) :
    (m.forwardTurn b s name word ambient origin).Hands m
      (((m.bridges.get b).refusal? name ambient).map (Due.error b)).toList := by
  unfold forwardTurn Bridge.refusal?
  rw [free]
  dsimp only
  cases Utf8.read name with
  | error fault => exact failureTurn_hands
  | ok text =>
    dsimp only
    cases (m.bridges.get b).router with
    | false => exact failureTurn_hands
    | true =>
      have driven : m.runtimeFor ⟨b, s, text, word, ambient, origin⟩ =
          ((m.bridges.get b).runtime || ambient) := rfl
      rw [driven]
      cases (m.bridges.get b).runtime || ambient with
      | true => exact .plain rfl rfl rfl
      | false => exact failureTurn_hands

theorem commandTurn_hands (c : Received) :
    (m.commandTurn c.bridge c.id c.name c.word c.ambient c.origin).Hands m (m.commandDues c) := by
  unfold commandTurn commandDues
  cases m.find? c.bridge c.id with
  | none => exact deliverTurn_hands
  | some s =>
    dsimp only
    cases reserved : (m.bridges.get c.bridge).config.reserved? c.name with
    | some k => exact serveTurn_hands k
    | none => exact forwardTurn_hands reserved

theorem raiseTurn_hands (id : ScriptId) (description : String) :
    (m.raiseTurn b id description origin).Hands m (m.raiseDues b id description) := by
  unfold raiseTurn raiseDues
  cases m.find? b id with
  | none => exact deliverTurn_hands
  | some s => exact .silent rfl

variable {t : TaskKey}

theorem polledTurn_hands (p : Polled) : (m.polledTurn t p).Hands m (m.polledDues t p) := by
  cases p with
  | pending => exact .silent rfl
  | failed causes => exact failureTurn_hands
  | succeeded =>
    unfold polledTurn polledDues
    dsimp only
    cases (m.bridges.get (m.tasks.get t).bridge).config.resumeAfterForward with
    | true => exact resumeTurn_hands (.task t)
    | false => exact .silent rfl

theorem pollTurn_hands : (m.pollTurn t).Hands m (m.pollDues t) := by
  unfold pollTurn pollDues
  dsimp only
  cases (m.tasks.get t).finished with
  | true => exact .silent rfl
  | false =>
    cases (m.tasks.get t).work with
    | forward future => exact .plain rfl rfl rfl
    | wait n =>
      dsimp only
      cases m.hasCome (m.begun n) with
      | true => exact (resumeTurn_hands (.task t)).edited
      | false => exact .silent rfl

theorem registerTurn_hands {f : FiberKey} : (m.registerTurn b f).Hands m [] := by
  unfold registerTurn
  cases m.rival? b f with
  | some rival => exact .plain rfl rfl rfl
  | none => exact .silent rfl

theorem statusTurn_hands : (m.statusTurn s).Hands m [] := by
  unfold statusTurn
  dsimp only
  cases (m.scripts.get s).disposed with
  | true => exact .silent rfl
  | false => exact .silent rfl

theorem startTurn_hands {token : Option TokenKey} : (m.startTurn s token).Hands m [] := by
  unfold startTurn
  dsimp only
  split
  · exact .plain rfl rfl rfl
  · exact statusTurn_hands

theorem disposeTurn_hands {dropped : Bool} : (m.disposeTurn s dropped).Hands m [] := by
  unfold disposeTurn
  dsimp only
  cases (m.scripts.get s).disposed with
  | true => exact .silent rfl
  | false => exact .plain rfl rfl rfl

theorem opTurn_hands (op : Op) : (m.opTurn op).Hands m (m.opDues op) := by
  cases op with
  | report b e => exact deliverTurn_hands
  | command b id name word ambient => exact commandTurn_hands ⟨b, id, name, word, ambient, .host⟩
  | error b id description => exact raiseTurn_hands id description
  | commandUpcall id name length word ambient =>
    unfold opTurn opDues received?
    cases m.target.filter m.bridgeAlive with
    | some b =>
      exact commandTurn_hands ⟨b, id, nativeName name length, word, ambient, .upcall .command id⟩
    | none => exact .silent rfl
  | errorUpcall id description =>
    unfold opTurn opDues
    cases m.target.filter m.bridgeAlive with
    | some b => exact raiseTurn_hands id (nativeText description)
    | none => exact .silent rfl
  | register b f => exact registerTurn_hands
  | start s token => exact startTurn_hands
  | resume s byHandle => exact resumeTurn_hands (.host byHandle)
  | status s => exact statusTurn_hands
  | describe s => exact statusTurn_hands
  | dispose s => exact disposeTurn_hands
  | dropHandle s => exact disposeTurn_hands
  | decode s command word shape => exact .plain rfl rfl rfl
  | pollTask t => exact pollTurn_hands
  | dropFiber f => exact .plain rfl rfl rfl
  | _ => exact .silent rfl

theorem replyTurn_hands (frame : Frame) (reply : Reply) :
    (m.replyTurn frame reply).Hands m (m.replyDues frame reply) := by
  cases frame with
  | decoding c k =>
    cases reply with
    | decoded d => exact decodedTurn_hands k d
    | _ => exact .silent rfl
  | logging c =>
    cases reply with
    | done => exact resumeTurn_hands (.command c)
    | _ => exact .silent rfl
  | scheduling c =>
    cases reply with
    | notification n => exact waitTurn_hands n
    | _ => exact .silent rfl
  | polling t =>
    cases reply with
    | polled p => exact polledTurn_hands p
    | _ => exact .silent rfl
  | _ => cases reply <;> exact .silent rfl

theorem unwindTurn_hands (p : Panic) (frame : Frame) :
    (m.unwindTurn p frame).Hands m (m.unwindDues p frame) := by
  cases frame with
  | routing c => exact failureTurn_hands
  | polling t => exact failureTurn_hands
  | _ => exact .silent rfl

theorem turn_hands (move : Move) : (m.turn move).Hands m (m.dues move) := by
  unfold turn dues
  cases move with
  | invoke op => exact opTurn_hands op
  | answer reply =>
    dsimp only
    cases m.stack with
    | nil => exact .silent rfl
    | cons frame rest => exact replyTurn_hands frame reply
  | unwind p =>
    dsimp only
    cases m.stack with
    | nil => exact .silent rfl
    | cons frame rest => exact unwindTurn_hands p frame

-- A move gives what it has for the handlers to those in force, once, and gives them nothing else.
theorem step_handed {next : Machine} {move : Move} {reaction : Reaction}
    (step : Step m move next reaction) : next.handed = m.hand (m.dues move) ++ m.handed := by
  have acts : next.acts = (m.turn move).acts ++ m.acts := (step_takes step).acts
  unfold handed
  rw [acts, List.filter_append, (turn_hands move).acts]

theorem step_attends {next : Machine} {move : Move} {q : HostCall} (step : Step m move next (.call q)) :
    ∃ frame, next.stack = frame :: m.below move ∧ q.handler? =
      frame.attends?.map fun (kind, b) => (kind, (m.bridges.get b).handler kind) := by
  have takes := step_takes step
  have call : some q = (m.turn move).asks.map Prod.fst := takes.call
  cases asks : (m.turn move).asks with
  | none =>
    rw [asks] at call
    cases call
  | some asked =>
    obtain ⟨q', frame⟩ := asked
    rw [asks] at call
    obtain rfl : q = q' := Option.some.inj call
    refine ⟨frame, ?_, (turn_hands move).waits q frame asks⟩
    have stack : next.stack = ((m.turn move).asks.map Prod.snd).toList ++ m.below move := takes.stack
    rw [stack, asks]
    rfl

end Machine

end FiberBridge
