import FiberBridge.Proofs.Images

namespace FiberBridge

namespace Machine

variable {m n k last : Machine} {id other : ScriptId} {a b : ScriptKey} {tokens tokens' : TokenKey → Prop}
  {moves moves' : List Move} {reactions reactions' : List Reaction} {x : Mirror}

def HasScript (m : Machine) (id : ScriptId) (s : ScriptKey) : Prop :=
  s < m.scripts.size ∧ m.idOf s = id

def HasRun (m : Machine) (id : ScriptId) (r : RunKey) : Prop :=
  r < m.runs.size ∧ (m.runs.get r).id = id

def Heeds (m : Machine) (id : ScriptId) (tokens : TokenKey → Prop) : Prop :=
  ∀ s t, m.HasScript id s → (m.scripts.get s).token = some t → tokens t

-- Moves under one id, with their callbacks, until what they began has come back.
structure Errand (id : ScriptId) (tokens : TokenKey → Prop) (m : Machine) (moves : List Move)
    (reactions : List Reaction) (last : Machine) : Prop where
  spans : Spans (fun n op => n.Within id tokens op) m.stack m moves reactions last
  back : last.stack = m.stack

structure Concurs (id : ScriptId) (there : Renaming) (m n : Machine) : Prop where
  script : ∀ s, m.HasScript id s → n.scripts.get (there.script s) = there.ofScript (m.scripts.get s)
  allScripts : ∀ s', n.HasScript id s' → ∃ s, m.HasScript id s ∧ there.script s = s'
  entry : ∀ b, (n.bridges.get b).registry.get? id = ((m.bridges.get b).registry.get? id).map there.script
  outcome : ∀ r, m.HasRun id r → n.outcome? (there.run r) = m.outcome? r
  allRuns : ∀ r', n.HasRun id r' → ∃ r, m.HasRun id r ∧ there.run r = r'
  native : ∀ s, m.HasScript id s →
    n.deeds.filter (Deed.touches (there.fiber (m.scripts.get s).fiber)) =
      (m.deeds.filter (Deed.touches (m.scripts.get s).fiber)).map there.ofDeed

theorem script_before (reached : Reachable m) (spares : m.core.Spares (Part.under m id) k.core)
    (has : k.HasScript id a) : m.HasScript id a ∧ k.scripts.get a = m.scripts.get a := by
  have proper := spares.proper (Part.under_proper reached id)
  have before : m.HasScript id a := Classical.byContradiction fun fresh =>
    (proper.others a has.1 fresh).2 has.2
  exact ⟨before, spares.scripts a before⟩

theorem run_before {r : RunKey} (reached : Reachable m) (later : Reachable k)
    (spares : m.core.Spares (Part.under m id) k.core) (has : k.HasRun id r) :
    m.HasRun id r ∧ k.runs.get r = m.runs.get r := by
  obtain ⟨made, own⟩ := later.linked.named r has.1
  have before := (script_before reached spares ⟨made, own.symm.trans has.2⟩).1
  obtain ⟨old, same⟩ := spares.runs r (.inr ⟨has.1, before⟩)
  exact ⟨⟨old, (congrArg Run.id same).symm.trans has.2⟩, same⟩

theorem run_after {r : RunKey} (reached : Reachable m)
    (spares : m.core.Spares (Part.under m id) k.core) (has : m.HasRun id r) : k.HasRun id r := by
  obtain ⟨made, own⟩ := reached.linked.named r has.1
  have same := (spares.runs r (.inl ⟨has.1, made, own.symm.trans has.2⟩)).2
  exact ⟨Nat.lt_of_lt_of_le has.1 spares.moreRuns, (congrArg Run.id same).trans has.2⟩

-- An image of what others left alone afterwards.
theorem Mirrors.concurs (reached : Reachable m) (later : Reachable k) (mirrors : m.Mirrors x n)
    (spares : m.core.Spares (Part.under m x.id) k.core) : Concurs x.id x.there k n := by
  refine ⟨?_, ?_, ?_, ?_, ?_, ?_⟩
  · intro s has
    obtain ⟨before, same⟩ := script_before reached spares has
    rw [same]
    exact mirrors.script (mirrors.mine before.2)
  · intro s' has
    by_cases image : x.scripts.Image s'
    · obtain ⟨s, mine, rfl⟩ := image
      have before : m.HasScript x.id s :=
        ⟨mirrors.core.ours_there.mp has.1, (mirrors.idOf mine).symm.trans has.2⟩
      have same : k.idOf s = m.idOf s := congrArg Script.id (spares.scripts s before)
      exact ⟨s, ⟨Nat.lt_of_lt_of_le before.1 spares.moreScripts, same.trans before.2⟩, rfl⟩
    · exact absurd has.2 (mirrors.core.scripts.right s' image).id
  · intro b
    have same : (k.bridges.get b).registry.get? x.id = (m.bridges.get b).registry.get? x.id :=
      spares.entries b x.id rfl
    rw [same]
    exact mirrors.core.entries b
  · intro r has
    obtain ⟨before, same⟩ := run_before reached later spares has
    have run : n.runs.get (x.there.run r) = x.there.ofRun (m.runs.get r) :=
      mirrors.core.run (mirrors.mineRun before.2)
    unfold outcome?
    rw [same, run]
    rfl
  · intro r' has
    by_cases image : x.runs.Image r'
    · obtain ⟨r, mine, rfl⟩ := image
      have run : n.runs.get (x.runs.there r) = x.there.ofRun (m.runs.get r) := mirrors.core.run mine
      have before : m.HasRun x.id r :=
        ⟨mirrors.core.runs.there_lt.mp has.1, (congrArg Run.id run).symm.trans has.2⟩
      exact ⟨r, run_after reached spares before, rfl⟩
    · exact absurd has.2 (mirrors.core.runs.right r' image)
  · intro s has
    obtain ⟨before, same⟩ := script_before reached spares has
    obtain ⟨made, named⟩ := reached.labeled.fiber s before.1
    have named : (m.fibers.get (m.scripts.get s).fiber).id = x.id := named.trans before.2
    rw [same]
    exact (mirrors.core.deeds _ (mirrors.mineFiber named)).trans
      (congrArg _ (spares.deeds _ ⟨made, named⟩)).symm

theorem Errand.afterwards (reached : Reachable m) (present : 0 < m.scripts.size) (apart : id ≠ other)
    (disjoint : ∀ t, tokens t → ¬ tokens' t) (heeds : m.Heeds id tokens)
    (errand : Errand id tokens m moves reactions last)
    (theirs : Errand other tokens' m moves' reactions' n) :
    ∃ again last', Errand id tokens n (moves.map (Renaming.past m n).ofMove) again last' ∧
      last.Mirrors (Mirror.between reached n id tokens) last' ∧
      List.Forall₂ (Renaming.past m n).Like reactions again := by
  have spares := theirs.spans.spares_under reached apart
  have aside : Aside id m n := ⟨reached, theirs.spans.reachable reached, present, spares⟩
  have settings := theirs.spans.shares
  have shared : m.settings.Shares tokens n.settings :=
    ⟨settings.same, fun t own => settings.tokens t (disjoint t own)⟩
  have mirrors := aside.mirrors theirs.back (fun s t made named => heeds s t ⟨made, named⟩) shared
  obtain ⟨again, last', spans, mirrored, likes⟩ := errand.spans.mirrors reached mirrors
  obtain ⟨news, above, stack, _⟩ := mirrored.core.stack
  have back : last.stack = news ++ m.stack := above
  have none : news = [] := List.append_left_eq_self.mp (back.symm.trans errand.back)
  subst none
  have spans : Spans (fun n op => n.Within id tokens op) m.stack n
    (moves.map (Renaming.past m n).ofMove) again last' := spans
  have stack : last'.stack = m.stack := stack
  rw [← theirs.back] at spans stack
  exact ⟨again, last', ⟨spans, stack⟩, mirrored, likes⟩

-- What is done to script `a` leaves script `b` alone, and comes to the same before and after what is
-- done to `b`.
structure Isolated (m : Machine) (a b : ScriptKey) : Prop where
  untouched : ∀ op first r moves reactions last, m.ActsOn a op → Step m (.invoke op) first r →
    Spans (fun n op => ¬ n.Addresses b op) m.stack first moves reactions last → Untouched b m last
  within : ∀ op tokens, m.ActsOn a op → (∀ s t, op = .start s (some t) → tokens t) →
    m.Within (m.idOf a) tokens op
  commute : ∀ tokens tokens' moves moves' reactions reactions' n n',
    (∀ t, tokens t → ¬ tokens' t) → m.Heeds (m.idOf a) tokens → m.Heeds (m.idOf b) tokens' →
    Errand (m.idOf a) tokens m moves reactions n → Errand (m.idOf b) tokens' m moves' reactions' n' →
    ∃ again again' last last',
      Errand (m.idOf b) tokens' n (moves'.map (Renaming.past m n).ofMove) again' last ∧
      Errand (m.idOf a) tokens n' (moves.map (Renaming.past m n').ofMove) again last' ∧
      List.Forall₂ (Renaming.past m n').Like reactions again ∧
      List.Forall₂ (Renaming.past m n).Like reactions' again' ∧
      Concurs (m.idOf a) (Renaming.past m n') last last' ∧
      Concurs (m.idOf b) (Renaming.past m n) last' last

theorem ActsOn.within {op : Op} (acts : m.ActsOn a op)
    (named : ∀ s t, op = .start s (some t) → tokens t) : m.Within (m.idOf a) tokens op := by
  cases op with
  | start s token =>
    refine ⟨congrArg m.idOf acts, ?_⟩
    rintro t rfl
    exact named s t rfl
  | pollTask t => exact congrArg m.idOf acts
  | resume | status | describe | fail | dispose | dropHandle | makeRef | dropRef | decode =>
    exact congrArg m.idOf acts
  | command | error | commandUpcall | errorUpcall | register => exact acts
  | _ => cases acts

theorem scripts_isolated (reached : Reachable m) (made : a < m.scripts.size) (made' : b < m.scripts.size)
    (apart : m.idOf a ≠ m.idOf b) : Isolated m a b := by
  refine ⟨?_, ?_, ?_⟩
  · intro op first r moves reactions last acts step spans
    exact acts_untouched reached made' apart acts step spans
  · intro op tokens acts named
    exact acts.within named
  · intro tokens tokens' moves moves' reactions reactions' n n' disjoint heeds heeds' errand errand'
    have present := Nat.zero_lt_of_lt made
    have middle := errand.spans.reachable reached
    have middle' := errand'.spans.reachable reached
    obtain ⟨again, last', after, mirrors, likes⟩ :=
      errand.afterwards reached present apart disjoint heeds errand'
    obtain ⟨again', last, after', mirrors', likes'⟩ :=
      errand'.afterwards reached present apart.symm (fun t own' own => disjoint t own own') heeds' errand
    -- What the other errand did afterwards is nothing to either.
    have still := after'.spans.spares_under middle apart
    have still' := after.spans.spares_under middle' apart.symm
    exact ⟨again, again', last, last', after', after, likes, likes',
      mirrors.concurs middle (after'.spans.reachable middle) still,
      mirrors'.concurs middle' (after.spans.reachable middle') still'⟩

def twoScripts : List Move :=
  [.invoke (.build {}), .invoke (.makeFiber ⟨1⟩ 0), .invoke (.makeFiber ⟨2⟩ 0),
    .invoke (.register 0 0), .invoke (.register 0 1)]

def startsFirst : List Move :=
  [.invoke (.start 0 (some 0)), .invoke (.makeFiber ⟨1⟩ 0), .answer (.code 1)]

def startsSecond : List Move :=
  [.invoke (.start 1 none), .invoke (.makeFiber ⟨2⟩ 0), .answer (.code 1)]

set_option maxRecDepth 10000 in
theorem scripts_isolated_twoScripts :
    ∃ reactions reactions' n n',
      Errand ⟨1⟩ (· = 0) (after twoScripts) startsFirst reactions n ∧
      Errand ⟨2⟩ (fun _ => False) (after twoScripts) startsSecond reactions' n' ∧
      Untouched 1 (after twoScripts) n ∧
      ∃ last last', Concurs ⟨1⟩ (Renaming.past (after twoScripts) n') last last' ∧
        Concurs ⟨2⟩ (Renaming.past (after twoScripts) n) last' last := by
  have reached : Reachable (after twoScripts) :=
    (runs_after (by decide +kernel) : Runs initial twoScripts _).reachable .initial
  have isolated : Isolated (after twoScripts) 0 1 :=
    scripts_isolated reached (by decide +kernel) (by decide +kernel) (by decide +kernel)
  have unstarted : ∀ s, s < (after twoScripts).scripts.size →
      ((after twoScripts).scripts.get s).token = none := by decide +kernel
  have named : (after twoScripts).idOf 0 = ⟨1⟩ ∧ (after twoScripts).idOf 1 = ⟨2⟩ := by decide +kernel
  have first : Step (after twoScripts) (.invoke (.start 0 (some 0))) _ _ :=
    .invoke (by decide +kernel) rfl
  have second : Step (after twoScripts) (.invoke (.start 1 none)) _ _ :=
    .invoke (by decide +kernel) rfl
  obtain ⟨reactions, n, onward, back⟩ : ∃ reactions n,
      (∀ may : Machine → Op → Prop, (∀ k, may k (.makeFiber ⟨1⟩ 0)) →
        Spans may (after twoScripts).stack ((after twoScripts).invoke (.start 0 (some 0))).1
          startsFirst.tail reactions n) ∧ n.stack = (after twoScripts).stack :=
    ⟨_, _, fun may begins => .cons (.invoke trivial rfl) (.invoke (begins _))
      (.cons (.answer rfl) (.answer rfl ⟨[], rfl⟩) .nil), by decide +kernel⟩
  have errand : Errand ((after twoScripts).idOf 0) (· = 0) (after twoScripts) startsFirst
      (((after twoScripts).invoke (.start 0 (some 0))).2 :: reactions) n := by
    refine ⟨.cons first (.invoke ⟨rfl, ?_⟩) (onward _ fun _ => named.1.symm), back⟩
    rintro _ ⟨⟩
    rfl
  have acts : (after twoScripts).ActsOn 0 (.start 0 (some 0)) := rfl
  have untouched := isolated.untouched _ _ _ _ _ _ acts first (onward _ fun _ => id)
  obtain ⟨reactions', n', errand'⟩ : ∃ reactions n,
      Errand ((after twoScripts).idOf 1) (fun _ => False) (after twoScripts) startsSecond reactions n :=
    ⟨_, _, .cons second (.invoke ⟨rfl, nofun⟩) (.cons (.invoke trivial rfl) (.invoke named.2.symm)
      (.cons (.answer rfl) (.answer rfl ⟨[], rfl⟩) .nil)), by decide +kernel⟩
  have heeds {id : ScriptId} {tokens : TokenKey → Prop} : (after twoScripts).Heeds id tokens := by
    intro s t has token
    rw [unstarted s has.1] at token
    cases token
  obtain ⟨_, _, last, last', _, _, _, _, concurs, concurs'⟩ :=
    isolated.commute (· = 0) (fun _ => False) _ _ _ _ _ _ (fun _ _ bad => bad) heeds heeds errand errand'
  rw [named.1] at errand concurs
  rw [named.2] at errand' concurs'
  exact ⟨_, reactions', n, n', errand, errand', untouched, last, last', concurs, concurs'⟩

end Machine

end FiberBridge
