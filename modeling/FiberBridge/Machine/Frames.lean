import FiberBridge.Machine.Upcalls

namespace FiberBridge

-- A wait for frames as a future that its owner polls. It watches the channel of a clock, which is
-- open while the host or a bridge has the clock; when it closes short of the target, the wait
-- never comes.
inductive FrameWait where
  | watching (clock : ClockKey) (target : Nat)
  | stranded
deriving DecidableEq, Repr, Inhabited

inductive Watched where
  | met
  | closed
  | unmet
deriving DecidableEq, Repr

namespace Machine

def clockKept (m : Machine) (c : ClockKey) : Bool :=
  (m.clocks.get c).held ||
    m.bridges.keys.any fun b => m.bridgeAlive b && (m.bridges.get b).frames = some (.clock c)

def waitFor (m : Machine) (c : ClockKey) (target : Nat) : Watched :=
  if (m.clocks.get c).shows target then .met
  else if m.clockKept c then .unmet
  else .closed

def awaitFrames (m : Machine) (c : ClockKey) (count : UInt32) : FrameWait :=
  .watching c ((m.clocks.get c).target count)

def pollFrames (m : Machine) : FrameWait → Option FrameWait
  | .watching c target =>
    match m.waitFor c target with
    | .met => none
    | .unmet => some (.watching c target)
    | .closed => some .stranded
  | .stranded => some .stranded

end Machine

end FiberBridge
