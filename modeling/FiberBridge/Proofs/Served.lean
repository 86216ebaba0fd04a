import FiberBridge.Proofs.Courses
import FiberBridge.Proofs.Dispatch

namespace FiberBridge

inductive Demand where
  | message (text : String)
  | seconds (d : Duration)
  | frames (count : UInt32)

inductive Asks : SystemCommand → Decoding → Demand → Prop where
  | text {text : String} : Asks .log (.ok (.str text)) (.message text)
  | whole {n : Int} {d : Duration} (fits : Duration.ofSeconds (Double.ofInt n) = .ok d) :
      Asks .waitSecs (.ok (.num (.int n))) (.seconds d)
  | part {x : Double} {d : Duration} (fits : Duration.ofSeconds x = .ok d) :
      Asks .waitSecs (.ok (.num (.float x))) (.seconds d)
  | count {n : Int} (least : 0 ≤ n) (most : n < Nat.pow 2 32) :
      Asks .waitFrames (.ok (.num (.int n))) (.frames (UInt32.ofNat n.toNat))

def Demand.waits : Demand → Bool
  | message _ => false
  | seconds _ => true
  | frames _ => true

inductive Bridge.Lacks (bridge : Bridge) : SystemCommand → String → Prop where
  | timers (absent : bridge.timers = none) : Lacks bridge .waitSecs Machine.noTimers
  | frames (absent : bridge.frames = none) : Lacks bridge .waitFrames Machine.noFrames

inductive Bridge.Requests (bridge : Bridge) (b : BridgeKey) : Demand → HostCall → Prop where
  | seconds {d : Duration} (host : bridge.timers = some .host) :
      Requests bridge b (.seconds d) (.after b d)
  | frames {count : UInt32} (host : bridge.frames = some .host) :
      Requests bridge b (.frames count) (.afterFrames b count)

inductive Bridge.Provides (bridge : Bridge) (clocks : Slots FrameClock) : Demand → Notification → Prop where
  | seconds {d : Duration} (own : bridge.timers = some .runtime) :
      Provides bridge clocks (.seconds d) (.sleep d)
  | frames {count : UInt32} {clock : ClockKey} (own : bridge.frames = some (.clock clock)) :
      Provides bridge clocks (.frames count) (.frames clock ((clocks.get clock).target count))

def Service.waiting (c : Service) (n : Notification) : Task :=
  { bridge := c.bridge, script := c.script, command := c.name, work := .wait n, finished := false }

namespace Machine

variable {m next last : Machine} {op : Op} {r : Received} {c : Service} {b : BridgeKey} {s : ScriptKey}
  {e : BridgeError} {k : SystemCommand} {d : Decoding} {demand : Demand} {reaction : Reaction}
  {base : List Frame} {leg : Leg} {legs : List Leg}

def attempt (m : Machine) (c : Service) : List Act :=
  let script := m.scripts.get c.script
  if script.disposed then [m.delivery c.bridge (.useAfterDispose script.id)]
  else [.deed (.called (.resume script.fiber)),
    .deed (.marked c.script (.entered (m.tokenCanceled c.script)))]

def Reports (b : BridgeKey) (e : BridgeError) : List Leg → Prop
  | [] => False
  | leg :: rest => leg.Only [leg.before.delivery b e] [] ∧ ∀ later ∈ rest, later.Only [] []

def Leg.Closes (c : Service) (leg : Leg) : Prop :=
  leg.Does [] [] ∨
    ∃ result canceled, leg.Does [.deed (.marked c.script (.returned false result canceled))] []

inductive Logs (c : Service) (text : String) : List Leg → Prop where
  | told {leg : Leg} {rest : List Leg} (builtIn : (leg.before.bridges.get c.bridge).log = .builtIn)
      (does : leg.Does (leg.before.attempt c ++ [.message text]) [])
      (closes : ∀ later ∈ rest, later.Closes c) : Logs c text (leg :: rest)
  | handed {h : HandlerKey} {leg leg' : Leg} {rest : List Leg}
      (host : (leg.before.bridges.get c.bridge).log = .host h)
      (does : leg.Does [.deed (.called (.log h text))] [])
      (attempts : leg'.Does (leg'.before.attempt c) [])
      (closes : ∀ later ∈ rest, later.Closes c) : Logs c text (leg :: leg' :: rest)

inductive Arranges (c : Service) (driven : Bool) (n : Notification) : List Leg → Prop where
  | left {leg : Leg} (there : driven = true) (only : leg.Only [] [c.waiting n]) :
      Arranges c driven n [leg]
  | reported {legs : List Leg} (lacking : driven = false)
      (reports : Reports c.bridge (.notSupported c.name noRuntime) legs) : Arranges c driven n legs

inductive Waits (m : Machine) (c : Service) (demand : Demand) : List Leg → Prop where
  | asked {q : HostCall} {n : Notification} {leg leg' : Leg} {rest : List Leg}
      (requests : (m.bridges.get c.bridge).Requests c.bridge demand q)
      (only : leg.Only [.deed (.called q)] []) (given : leg'.move = .answer (.notification n))
      (arranges : Arranges c (m.runtimeFor c) n (leg' :: rest)) : Waits m c demand (leg :: leg' :: rest)
  | provided {n : Notification} {leg : Leg} {rest : List Leg}
      (provides : (m.bridges.get c.bridge).Provides leg.before.clocks demand n)
      (arranges : Arranges c (m.runtimeFor c) n (leg :: rest)) : Waits m c demand (leg :: rest)

-- Without a scheduler the payload is not even looked at; with one, a payload that makes no sense
-- is reported, a message is logged before the script is resumed, and a wait is arranged.
structure Fulfils (m : Machine) (c : Service) (k : SystemCommand) (d : Decoding) (legs : List Leg) :
    Prop where
  senseless : (∀ demand, ¬ Asks k d demand) → ∃ why, Reports c.bridge (.codec c.name why) legs
  logs : ∀ text, Asks k d (.message text) → Logs c text legs
  waits : ∀ demand, Asks k d demand → demand.waits = true → Waits m c demand legs

structure Served (m : Machine) (c : Service) (k : SystemCommand) (legs : List Leg) : Prop where
  lacking : ∀ reason, (m.bridges.get c.bridge).Lacks k reason →
    Reports c.bridge (.notSupported c.name reason) legs
  decodes : (∀ reason, ¬ (m.bridges.get c.bridge).Lacks k reason) →
    ∃ first second rest d, legs = first :: second :: rest ∧
      first.Only [.deed (.called (.decode c.word c.script))] [] ∧
      second.move = .answer (.decoded d) ∧ Fulfils m c k d (second :: rest)

theorem lacking?_iff {reason : String} :
    m.lacking? c k = some reason ↔ (m.bridges.get c.bridge).Lacks k reason := by
  constructor
  · intro lacking
    unfold lacking? at lacking
    cases k with
    | log => cases lacking
    | waitSecs =>
      cases timers : (m.bridges.get c.bridge).timers with
      | none =>
        simp only [timers] at lacking
        cases lacking
        exact .timers timers
      | some timers' => simp [timers] at lacking
    | waitFrames =>
      cases frames : (m.bridges.get c.bridge).frames with
      | none =>
        simp only [frames] at lacking
        cases lacking
        exact .frames frames
      | some frames' => simp [frames] at lacking
  · intro lacks
    unfold lacking?
    cases lacks with
    | timers absent => simp [absent]
    | frames absent => simp [absent]

theorem shapeOf_cases {α : Type} (command : String) (d : Decoding) (ask : Json → Except ShapeFault α) :
    (∃ v a, d = .ok v ∧ ask v = .ok a ∧ shapeOf command d ask = .ok a) ∨
      ∃ why, shapeOf command d ask = .error (.codec command why) := by
  cases d with
  | error fault => exact .inr ⟨fault.message, rfl⟩
  | ok v =>
    cases asked : ask v with
    | error fault => exact .inr ⟨fault.message, by simp only [shapeOf, asked, Except.mapError]⟩
    | ok a => exact .inl ⟨v, a, rfl, asked, by simp only [shapeOf, asked, Except.mapError]⟩

theorem asks_text {v : Json} {text : String} (asked : v.asText = .ok text) :
    Asks .log (.ok v) (.message text) := by
  cases v with
  | str s =>
    cases asked
    exact .text
  | _ => cases asked

theorem asks_seconds {v : Json} {x : Double} {d : Duration} (asked : v.asNumber = .ok x)
    (fits : Duration.ofSeconds x = .ok d) : Asks .waitSecs (.ok v) (.seconds d) := by
  cases v with
  | num number =>
    cases number with
    | int n =>
      cases asked
      exact .whole fits
    | float x =>
      cases asked
      exact .part fits
  | _ => cases asked

theorem asks_count {v : Json} {count : UInt32} (asked : v.asCount = .ok count) :
    Asks .waitFrames (.ok v) (.frames count) := by
  cases v with
  | num number =>
    cases number with
    | int n =>
      unfold Json.asCount at asked
      dsimp only at asked
      split at asked
      · rename_i inside
        cases asked
        exact .count inside.1 inside.2
      · cases asked
    | float x => cases asked
  | _ => cases asked

theorem senseless_turn (senseless : ∀ demand, ¬ Asks k d demand) :
    ∃ why, m.decodedTurn c k d = m.refuseTurn c (.codec c.name why) := by
  unfold decodedTurn
  cases k with
  | log =>
    rcases shapeOf_cases c.name d Json.asText with ⟨v, text, rfl, asked, _⟩ | ⟨why, shaped⟩
    · exact absurd (asks_text asked) (senseless _)
    · exact ⟨why, by simp only [shaped]⟩
  | waitSecs =>
    rcases shapeOf_cases c.name d Json.asNumber with ⟨v, x, rfl, asked, shaped⟩ | ⟨why, shaped⟩
    · cases fits : Duration.ofSeconds x with
      | ok duration => exact absurd (asks_seconds asked fits) (senseless _)
      | error fault =>
        refine ⟨"invalid duration " ++ Layout.plain.write x ++ ": " ++ fault.message, ?_⟩
        simp only [shaped, secondsTurn, fits]
    · exact ⟨why, by simp only [shaped]⟩
  | waitFrames =>
    rcases shapeOf_cases c.name d Json.asCount with ⟨v, count, rfl, asked, _⟩ | ⟨why, shaped⟩
    · exact absurd (asks_count asked) (senseless _)
    · exact ⟨why, by simp only [shaped]⟩

-- Only a message that is logged on the spot decides anything when it is decoded.
theorem decoding_fate (silent : ∀ text, ¬ Asks k d (.message text)) :
    m.replyFate (.decoding c k) (.decoded d) = [] := by
  cases k with
  | log =>
    rcases shapeOf_cases c.name d Json.asText with ⟨v, text, rfl, asked, _⟩ | ⟨why, shaped⟩
    · exact absurd (asks_text asked) (silent text)
    · simp only [replyFate, shaped]
  | waitSecs => rfl
  | waitFrames => rfl

theorem shaped_seconds {duration : Duration} (command : String)
    (asks : Asks k d (.seconds duration)) :
    k = .waitSecs ∧
      ∃ x, shapeOf command d Json.asNumber = .ok x ∧ Duration.ofSeconds x = .ok duration := by
  cases asks with
  | whole fits => exact ⟨rfl, _, rfl, fits⟩
  | part fits => exact ⟨rfl, _, rfl, fits⟩

theorem shaped_count {count : UInt32} (command : String) (asks : Asks k d (.frames count)) :
    k = .waitFrames ∧ shapeOf command d Json.asCount = .ok count := by
  cases asks with
  | @count n least most =>
    have inside : 0 ≤ n ∧ n < Nat.pow 2 32 := ⟨least, most⟩
    refine ⟨rfl, ?_⟩
    simp only [shapeOf, Json.asCount, if_pos inside, Except.mapError]

theorem requests_turn {q : HostCall} (asks : Asks k d demand)
    (requests : (m.bridges.get c.bridge).Requests c.bridge demand q) :
    m.decodedTurn c k d = { asks := some (q, .scheduling c) } := by
  cases requests with
  | seconds host =>
    obtain ⟨rfl, x, shaped, fits⟩ := shaped_seconds c.name asks
    simp only [decodedTurn, shaped, secondsTurn, fits, host]
  | frames host =>
    obtain ⟨rfl, shaped⟩ := shaped_count c.name asks
    simp only [decodedTurn, shaped, framesTurn, host]

theorem provides_turn {n : Notification} (asks : Asks k d demand)
    (provides : (m.bridges.get c.bridge).Provides m.clocks demand n) :
    m.decodedTurn c k d = m.waitTurn c n := by
  cases provides with
  | seconds own =>
    obtain ⟨rfl, x, shaped, fits⟩ := shaped_seconds c.name asks
    simp only [decodedTurn, shaped, secondsTurn, fits, own]
  | frames own =>
    obtain ⟨rfl, shaped⟩ := shaped_count c.name asks
    simp only [decodedTurn, shaped, framesTurn, own]

theorem scheduled (bridge : Bridge) (clocks : Slots FrameClock) (b : BridgeKey) (asks : Asks k d demand)
    (waits : demand.waits = true) (able : ∀ reason, ¬ bridge.Lacks k reason) :
    (∃ q, bridge.Requests b demand q) ∨ ∃ n, bridge.Provides clocks demand n := by
  have timed {duration : Duration} (able : ∀ reason, ¬ bridge.Lacks .waitSecs reason) :
      (∃ q, bridge.Requests b (.seconds duration) q) ∨
        ∃ n, bridge.Provides clocks (.seconds duration) n := by
    cases timers : bridge.timers with
    | none => exact absurd (.timers timers) (able _)
    | some timers' =>
      cases timers' with
      | host => exact .inl ⟨_, .seconds timers⟩
      | runtime => exact .inr ⟨_, .seconds timers⟩
  cases asks with
  | text => cases waits
  | whole fits => exact timed able
  | part fits => exact timed able
  | count least most =>
    cases frames : bridge.frames with
    | none => exact absurd (.frames frames) (able _)
    | some source =>
      cases source with
      | host => exact .inl ⟨_, .frames frames⟩
      | clock key => exact .inr ⟨_, .frames frames⟩

theorem requests_built {bridge bridge' : Bridge} {q : HostCall} (same : bridge'.built = bridge.built)
    (requests : bridge.Requests b demand q) : bridge'.Requests b demand q := by
  have timers : bridge'.timers = bridge.timers := (congrArg Bridge.timers same :)
  have frames : bridge'.frames = bridge.frames := (congrArg Bridge.frames same :)
  cases requests with
  | seconds host => exact .seconds (timers.trans host)
  | frames host => exact .frames (frames.trans host)

theorem provides_built {bridge bridge' : Bridge} {clocks : Slots FrameClock} {n : Notification}
    (same : bridge'.built = bridge.built) (provides : bridge.Provides clocks demand n) :
    bridge'.Provides clocks demand n := by
  have timers : bridge'.timers = bridge.timers := (congrArg Bridge.timers same :)
  have frames : bridge'.frames = bridge.frames := (congrArg Bridge.frames same :)
  cases provides with
  | seconds own => exact .seconds (timers.trans own)
  | frames own => exact .frames (frames.trans own)

theorem Leg.Answered.reporting {told : Option ScriptKey} {origin : Origin} {kept : Option Notification}
    {reply : Reply} (answered : leg.Answered (.reporting b told origin kept) base reply)
    (free : origin.task? = none) : leg.turn = {} := by
  rw [answered.turn]
  cases reply <;> simp [replyTurn, close?, free]

theorem Leg.On.reports {told : Option ScriptKey} {origin : Origin} {kept : Option Notification}
    (on : leg.On base) (free : origin.task? = none)
    (turn : leg.turn = leg.before.deliverTurn b told e origin kept)
    (fate : leg.before.fate leg.move = []) (finishes : Finishes base leg.after legs last) :
    Reports b e (leg :: legs) := by
  have edits : leg.turn.edits = [] := turn ▸ deliverTurn_edits free
  have acts : leg.turn.acts = [leg.before.delivery b e] := turn ▸ deliverTurn_acts
  refine ⟨acts ▸ on.only edits fate, ?_⟩
  cases handler : (leg.before.bridges.get b).error with
  | builtIn =>
    have silent : leg.turn.asks = none := by
      rw [turn]
      simp only [deliverTurn, handler]
    obtain ⟨rfl, _⟩ := on.ended finishes.course silent
    exact fun _ present => nomatch present
  | host h =>
    have asks : leg.turn.asks = some (.error h e, .reporting b told origin kept) := by
      rw [turn]
      simp only [deliverTurn, handler]
    obtain ⟨leg', rest, reply, rfl, _, answered, finishes'⟩ := on.answered finishes asks
    have turn' : leg'.turn = {} := answered.reporting free
    have fate' : leg'.before.fate leg'.move = [] := by
      rw [answered.fate]
      cases reply <;> rfl
    obtain ⟨rfl, _⟩ := answered.ended finishes'.course (by rw [turn'])
    have only : leg'.Only leg'.turn.acts [] := answered.only (by rw [turn']; rfl) fate'
    rw [turn'] at only
    intro later present
    cases List.mem_singleton.mp present
    exact only

theorem Leg.On.arranges {n : Notification} (on : leg.On base) (free : c.origin.task? = none)
    (turn : leg.turn = leg.before.waitTurn c n) (fate : leg.before.fate leg.move = [])
    (finishes : Finishes base leg.after legs last) :
    Arranges c (leg.before.runtimeFor c) n (leg :: legs) := by
  cases driven : leg.before.runtimeFor c with
  | true =>
    have left : leg.turn = { edits := [.left (c.waiting n)] } := by
      rw [turn]
      simp only [waitTurn, driven, if_true, leaveTurn, free]
      rfl
    obtain ⟨rfl, _⟩ := on.ended finishes.course (by rw [left])
    have only : leg.Only leg.turn.acts [c.waiting n] := on.only (by rw [left]; rfl) fate
    rw [left] at only
    exact .left rfl only
  | false =>
    have refused : leg.turn = leg.before.deliverTurn c.bridge (some c.script)
        (.notSupported c.name noRuntime) c.origin (some n) := by
      rw [turn]
      simp only [waitTurn, driven, Bool.false_eq_true, if_false]
    exact .reported rfl (on.reports free refused fate finishes)

theorem attempt_acts : (m.resumeTurn c.script (.command c)).acts = m.attempt c := by
  unfold resumeTurn attempt
  dsimp only
  split
  · exact deliverTurn_acts
  · rfl

theorem attempt_edits (free : c.origin.task? = none) :
    (m.resumeTurn c.script (.command c)).edits = [] := by
  unfold resumeTurn
  dsimp only
  split
  · exact deliverTurn_edits free
  · rfl

theorem Leg.On.closes_once {q : HostCall} {frame : Frame} (on : leg.On base)
    (finishes : Finishes base leg.after legs last) (asks : leg.turn.asks = some (q, frame))
    (closes : ∀ (leg' : Leg) (reply : Reply), leg'.Answered frame base reply →
      leg'.turn.asks = none ∧ leg'.Closes c) : ∀ later ∈ legs, later.Closes c := by
  obtain ⟨leg', rest, reply, rfl, _, answered, finishes'⟩ := on.answered finishes asks
  obtain ⟨silent, closed⟩ := closes leg' reply answered
  obtain ⟨rfl, _⟩ := answered.ended finishes'.course silent
  intro later present
  cases List.mem_singleton.mp present
  exact closed

theorem Leg.On.closes (on : leg.On base) (free : c.origin.task? = none)
    (attempts : leg.turn.asks = (leg.before.resumeTurn c.script (.command c)).asks)
    (finishes : Finishes base leg.after legs last) : ∀ later ∈ legs, later.Closes c := by
  cases ended : (leg.before.scripts.get c.script).disposed with
  | true =>
    cases handler : (leg.before.bridges.get c.bridge).error with
    | builtIn =>
      have silent : leg.turn.asks = none := by
        rw [attempts]
        simp only [resumeTurn, ended, if_true, refuseTurn, deliverTurn, handler]
      obtain ⟨rfl, _⟩ := on.ended finishes.course silent
      exact fun _ present => nomatch present
    | host h =>
      have asks : leg.turn.asks = some (.error h (.useAfterDispose (leg.before.scripts.get c.script).id),
          .reporting c.bridge (some c.script) c.origin none) := by
        rw [attempts]
        simp only [resumeTurn, ended, if_true, refuseTurn, deliverTurn, handler]
      refine on.closes_once finishes asks fun leg' reply answered => ?_
      have turn' : leg'.turn = {} := answered.reporting free
      have does : leg'.Does leg'.turn.acts [] := answered.does (by rw [turn']; rfl)
      rw [turn'] at does
      exact ⟨by rw [turn'], .inl does⟩
  | false =>
    have asks : leg.turn.asks = some (.resume (leg.before.scripts.get c.script).fiber,
        .resuming c.script (.command c)) := by
      rw [attempts]
      simp only [resumeTurn, ended, Bool.false_eq_true, if_false]
    refine on.closes_once finishes asks fun leg' reply answered => ?_
    have fits := answered.fits
    cases reply with
    | code code =>
      have turn' : leg'.turn = { before := [.deed (.marked c.script (.returned false
          (CallResult.ofCode code) (leg'.before.tokenCanceled c.script)))] } := by
        rw [answered.turn]
        simp only [replyTurn, Resumer.task?, free, close?, Option.map_none, Option.toList_none]
      have does : leg'.Does leg'.turn.acts [] := answered.does (by rw [turn']; rfl)
      rw [turn'] at does
      exact ⟨by rw [turn'], .inr ⟨_, _, does⟩⟩
    | _ => cases fits

theorem Leg.On.logs {text : String} (on : leg.On base) (free : c.origin.task? = none)
    (turn : leg.turn = leg.before.logTurn c text) (finishes : Finishes base leg.after legs last) :
    Logs c text (leg :: legs) := by
  cases handler : (leg.before.bridges.get c.bridge).log with
  | builtIn =>
    have logged : leg.turn =
        (leg.before.resumeTurn c.script (.command c)).following [.message text] := by
      rw [turn]
      simp only [logTurn, handler]
    have acts : leg.turn.acts = leg.before.attempt c ++ [.message text] := by
      rw [logged, ← attempt_acts]
      exact (List.append_assoc ..).symm
    have edits : leg.turn.edits = ([] : List Task).map .left := by
      rw [logged]
      exact attempt_edits free
    have attempts : leg.turn.asks = (leg.before.resumeTurn c.script (.command c)).asks := by
      rw [logged]
      rfl
    exact .told handler (acts ▸ on.does edits) (on.closes free attempts finishes)
  | host h =>
    have asked : leg.turn = { asks := some (.log h text, .logging c) } := by
      rw [turn]
      simp only [logTurn, handler]
    obtain ⟨leg', rest, reply, rfl, _, answered, finishes'⟩ := on.answered finishes (by rw [asked])
    have does : leg.Does leg.turn.acts [] := on.does (by rw [asked]; rfl)
    rw [asked] at does
    have fits := answered.fits
    cases reply with
    | done =>
      have turn' : leg'.turn = leg'.before.resumeTurn c.script (.command c) := answered.turn
      have attempts : leg'.Does leg'.turn.acts [] :=
        answered.does (by rw [turn']; exact attempt_edits free)
      rw [turn', attempt_acts] at attempts
      exact .handed handler does attempts (answered.closes free (by rw [turn']) finishes')
    | _ => cases fits

theorem Fulfils.of_decoding {second : Leg} (second_on : second.Answered (.decoding c k) base (.decoded d))
    (free : c.origin.task? = none) (built : m.SameBuilt second.before) (made : c.bridge < m.bridges.size)
    (able : ∀ reason, ¬ (m.bridges.get c.bridge).Lacks k reason)
    (finishes : Finishes base second.after legs last) : Fulfils m c k d (second :: legs) := by
  have turn : second.turn = second.before.decodedTurn c k d := second_on.turn
  obtain ⟨made', same⟩ := built c.bridge made
  have fate (silent : ∀ text, ¬ Asks k d (.message text)) : second.before.fate second.move = [] :=
    second_on.fate.trans (decoding_fate silent)
  have driven {n : Machine} (built : m.SameBuilt n) : n.runtimeFor c = m.runtimeFor c := by
    have runtime := congrArg Bridge.runtime (built c.bridge made).2
    exact congrArg (· || c.ambient) runtime
  refine ⟨?_, ?_, ?_⟩
  · intro senseless
    obtain ⟨why, refused⟩ := senseless_turn (m := second.before) (c := c) senseless
    exact ⟨why, second_on.reports free (turn.trans refused) (fate fun text => senseless _) finishes⟩
  · intro text asks
    cases asks with
    | text => exact second_on.logs free turn finishes
  · intro demand asks waits
    have silent : ∀ text, ¬ Asks k d (.message text) := by
      intro text other
      cases other with
      | text =>
        cases asks with
        | text => cases waits
    rcases scheduled (m.bridges.get c.bridge) second.before.clocks c.bridge asks waits able with
      ⟨q, requests⟩ | ⟨n, provides⟩
    · have asked : second.turn = { asks := some (q, .scheduling c) } :=
        turn.trans (requests_turn asks (requests_built same requests))
      obtain ⟨third, rest, reply, rfl, built', answered, finishes'⟩ :=
        second_on.answered finishes (by rw [asked])
      have only : second.Only second.turn.acts [] := second_on.only (by rw [asked]; rfl) (fate silent)
      rw [asked] at only
      have fits := answered.fits
      cases reply with
      | notification n =>
        refine .asked requests only answered.move ?_
        rw [← driven (built.trans built')]
        exact answered.arranges free answered.turn answered.fate finishes'
      | _ => cases fits
    · refine .provided provides ?_
      rw [← driven built]
      exact second_on.arranges free (turn.trans (provides_turn asks (provides_built same provides)))
        (fate silent) finishes

theorem bridge_made {id : ScriptId} (reached : Reachable m) (live : Registered m b id s) :
    b < m.bridges.size := by
  refine Nat.lt_of_not_le fun unmade => ?_
  have found := (find?_iff_registered reached).mpr live
  unfold find? at found
  rw [Slots.get_of_size_le unmade] at found
  cases found

theorem system_turn (reached : Reachable m) (received : m.received? op = some r)
    (live : Registered m r.bridge r.id s)
    (named : r.name = ((m.bridges.get r.bridge).config.reservedName k).toUTF8) :
    m.turn (.invoke op) =
        m.serveTurn (r.service s ((m.bridges.get r.bridge).config.reservedName k)) k ∧
      m.fate (.invoke op) = [] := by
  have found := (find?_iff_registered reached).mpr live
  have reserved := Config.reserved?_iff.mpr named
  have turn : m.turn (.invoke op) = m.opTurn op := rfl
  have fate : m.fate (.invoke op) = m.opFate op := rfl
  refine ⟨?_, ?_⟩
  · rw [turn, opTurn_received received]
    simp only [commandTurn, found, reserved]
    rfl
  · rw [fate, opFate_received received]
    simp only [commandFate, found, Bridge.refusal?, reserved]

theorem system_command_served (reached : Reachable m) (received : m.received? op = some r)
    (live : Registered m r.bridge r.id s)
    (named : r.name = ((m.bridges.get r.bridge).config.reservedName k).toUTF8)
    (step : Step m (.invoke op) next reaction) :
    Courses m.stack next ∧ ∀ legs last, Course m.stack next legs last → last.stack = m.stack →
      (∀ leg ∈ legs, ∀ p, leg.move ≠ .unwind p) →
      Served m (r.service s ((m.bridges.get r.bridge).config.reservedName k)) k
        (⟨m, .invoke op, next, reaction⟩ :: legs) := by
  let c := r.service s ((m.bridges.get r.bridge).config.reservedName k)
  have free : c.origin.task? = none := received_grounded received
  obtain ⟨turn, fate⟩ := system_turn reached received live named
  refine ⟨(received_back received step).courses, ?_⟩
  intro legs last course back normal
  have finishes : Finishes m.stack next legs last := ⟨course, back, normal⟩
  let first : Leg := ⟨m, .invoke op, next, reaction⟩
  have on : first.On m.stack := by
    refine ⟨reached, step, rfl, ?_⟩
    rintro s' token ⟨⟩
    cases received
  have served : first.turn = m.serveTurn c k := turn
  refine ⟨?_, ?_⟩
  · intro reason lacks
    have lacking : m.lacking? c k = some reason := lacking?_iff.mpr lacks
    have refused : first.turn = m.refuseTurn c (.notSupported c.name reason) := by
      rw [served]
      simp only [serveTurn, lacking]
    exact on.reports free refused fate finishes
  · intro able
    have none_lacking : m.lacking? c k = none :=
      Option.eq_none_iff_forall_ne_some.mpr fun reason lacking => able reason (lacking?_iff.mp lacking)
    have asked : first.turn = { asks := some (.decode c.word c.script, .decoding c k) } := by
      rw [served]
      simp only [serveTurn, none_lacking]
    obtain ⟨second, rest, reply, rfl, built, answered, finishes'⟩ :=
      on.answered finishes (by rw [asked])
    have only : first.Only first.turn.acts [] := on.only (by rw [asked]; rfl) fate
    rw [asked] at only
    have fits := answered.fits
    cases reply with
    | decoded d =>
      refine ⟨first, second, rest, d, rfl, only, answered.move, ?_⟩
      exact .of_decoding answered free built (bridge_made reached live) able finishes'
    | _ => cases fits

theorem Logs.attempts {text : String} {h : HandlerKey} {leg' : Leg}
    (logs : Logs c text (leg :: leg' :: legs))
    (host : (leg.before.bridges.get c.bridge).log = .host h) :
    leg'.Does (leg'.before.attempt c) [] := by
  cases logs with
  | told builtIn => cases host.symm.trans builtIn
  | handed host' does attempts closes => exact attempts

def handlerLogs : List Move :=
  [.invoke (.build { log := .host 0 }), .invoke (.makeFiber ⟨1⟩ 0), .invoke (.register 0 0)]

def asksToLog : Op := .command 0 ⟨1⟩ "log".toUTF8 ⟨7⟩ false

def loggedAs : Service := ⟨0, 0, "log", ⟨7⟩, false, .host⟩

def codecAsked : List Move := handlerLogs ++ [.invoke asksToLog]

def handlerAsked : List Move := codecAsked ++ [.answer (.decoded (.ok (.str "hi")))]

def handlerEnds : List Move := handlerAsked ++ [.invoke (.dispose 0)]

def handlerDisposes : List Move := handlerEnds ++ [.answer .done]

def handlerDone : List Move := handlerDisposes ++ [.answer .done]

set_option maxRecDepth 10000 in
-- The attempt to resume it is refused, which is all that comes after.
theorem system_command_served_handlerDisposes :
    (after handlerDone).acts =
      .unhandled (.useAfterDispose ⟨1⟩) :: (after handlerDisposes).acts := by
  have reached : Reachable (after handlerLogs) := (runs_after (by decide +kernel)).reachable .initial
  obtain ⟨_, begun⟩ := step_onward handlerLogs (.invoke asksToLog) (by decide +kernel)
  obtain ⟨asked, second⟩ :=
    step_onward codecAsked (.answer (.decoded (.ok (.str "hi")))) (by decide +kernel)
  obtain ⟨_, disposing⟩ := step_onward handlerAsked (.invoke (.dispose 0)) (by decide +kernel)
  obtain ⟨_, disposed⟩ := step_onward handlerEnds (.answer .done) (by decide +kernel)
  obtain ⟨out, third⟩ := step_onward handlerDisposes (.answer .done) (by decide +kernel)
  have decoding : (after codecAsked).stack = [.decoding loggedAs .log] := by decide +kernel
  have logging : (after handlerAsked).stack = [.logging loggedAs] := by decide +kernel
  have within : (after handlerEnds).stack = [.disposing 0 false, .logging loggedAs] := by
    decide +kernel
  have again : (after handlerDisposes).stack = [.logging loggedAs] := by decide +kernel
  have ended : (after handlerDone).stack = [] := by decide +kernel
  have course : Course [] (after codecAsked)
      [⟨after codecAsked, .answer (.decoded (.ok (.str "hi"))), after handlerAsked, asked⟩,
        ⟨after handlerDisposes, .answer .done, after handlerDone, out⟩]
      (after handlerDone) := by
    have disposes : Meanwhile [.logging loggedAs] (after handlerAsked)
        [.invoke (.dispose 0), .answer .done] [_, _] (after handlerDisposes) :=
      .cons disposing (.invoke trivial) (.cons disposed (.answer within (List.suffix_refl _)) .nil)
    exact .leg decoding .nil (Leg.resumes_answer decoding second)
      (.leg logging disposes (Leg.resumes_answer again third) (.ended ended))
  have live : Registered (after handlerLogs) 0 ⟨1⟩ 0 :=
    ⟨by decide +kernel, by decide +kernel, by decide +kernel, by decide +kernel, by decide +kernel⟩
  have idle : (after handlerLogs).stack = [] := by decide +kernel
  let r : Received := ⟨0, ⟨1⟩, "log".toUTF8, ⟨7⟩, false, .host⟩
  have served := (system_command_served (r := r) (k := .log) reached rfl live (by decide +kernel)
    begun).2 _ _ (idle ▸ course) (ended.trans idle.symm) (by simp)
  have as : r.service 0 (((after handlerLogs).bridges.get r.bridge).config.reservedName .log) =
      loggedAs := by decide +kernel
  rw [as] at served
  obtain ⟨_, _, _, d, same, _, given, fulfils⟩ := served.decodes (by rintro _ ⟨⟩)
  obtain ⟨_, same⟩ := List.cons.inj same
  obtain ⟨rfl, rfl⟩ := List.cons.inj same
  obtain rfl := Reply.decoded.inj (Move.answer.inj given)
  have host : ((after codecAsked).bridges.get 0).log = .host 0 := by decide +kernel
  have attempts := (fulfils.logs "hi" .text).attempts host
  have attempt : (after handlerDisposes).attempt loggedAs = [.unhandled (.useAfterDispose ⟨1⟩)] := by
    decide +kernel
  have acts : (after handlerDone).acts =
      (after handlerDisposes).attempt loggedAs ++ (after handlerDisposes).acts := attempts.acts
  rw [acts, attempt]
  rfl

end Machine

end FiberBridge
