/-
  SleepSync.IntraClique

  Control of the clique from inside: the granularity of the network with its
  raw encoding, and the repeater that sends one control message in several sync
  slots before the action it announces is taken.
-/

import SleepSync.Environment

namespace SleepSync

open Lib

inductive NetGranularity
  | small
  | medium
  | large
  | invalid
  deriving DecidableEq

inductive TransmitPowerdBm
  | plus0
  | minus12
  | minus40
  deriving DecidableEq

namespace Granularity

/-- The value of the enumeration. -/
def getRaw : NetGranularity → BitVec 8
  | .small => 0
  | .medium => 1
  | .large => 2
  | .invalid => 3

/-- The switch, which takes the values in the opposite order. -/
def getFromRaw (rawTSS : BitVec 8) : NetGranularity :=
  match rawTSS.toNat with
  | 0 => .large
  | 1 => .medium
  | 2 => .small
  | _ => .invalid

def xmitPowerForGranularity : NetGranularity → TransmitPowerdBm
  | .small => .minus40
  | .medium => .minus12
  | .large => .plus0
  | .invalid => .minus40

end Granularity

/-- What to do when a control message has been repeated often enough. -/
inductive OnDoneCallback
  | onDoneGranularityWithAction
  | onDoneRepeatingUpstream
  | onDoneScatter
  deriving DecidableEq

structure SendRepeater where
  isActive : Bool
  messageType : MessageType
  aValue : Payload
  onDoneCallback : OnDoneCallback
  counter : Nat
  deriving DecidableEq

namespace SendRepeater

variable (r : SendRepeater)

/-- A start while another message is being repeated is ignored. -/
def start (aType : MessageType) (value : Payload) (onDone : OnDoneCallback) : SendRepeater :=
  if r.isActive then
    r
  else
    { isActive := true
      messageType := aType
      aValue := value
      onDoneCallback := onDone
      counter := 0 }

def shouldSend (coinToss : Bool) : Bool × SendRepeater :=
  if r.isActive ∧ coinToss then
    (true, { r with counter := r.counter + 1 })
  else
    (false, r)

/-- The callback to call, if this was the last repetition. -/
def checkDone : Except Fault (Option OnDoneCallback × SendRepeater) := do
  require r.isActive .repeaterNotActive
  if Policy.countRepeatsPerControlSync < r.counter then
    return (some r.onDoneCallback, { r with isActive := false, counter := 0 })
  else
    return (none, r)

def stop : SendRepeater := { r with isActive := false }

/-- The state the loader leaves; the fields it clears are not read before a
    start. -/
def initial : SendRepeater where
  isActive := false
  messageType := .invalid
  aValue := 0
  onDoneCallback := .onDoneRepeatingUpstream
  counter := 0

end SendRepeater

structure IntraCliqueManager where
  repeater : SendRepeater
  /-- the granularity a master announces, to be set when done -/
  granularity : NetGranularity
  deriving DecidableEq

namespace IntraCliqueManager

variable (i : IntraCliqueManager)

def isActive : Bool := i.repeater.isActive

def abort : IntraCliqueManager := { i with repeater := i.repeater.stop }

/-- `SendRepeater::start` under the manager. -/
def start (aType : MessageType) (value : Payload) (onDone : OnDoneCallback) :
    IntraCliqueManager :=
  { i with repeater := i.repeater.start aType value onDone }

def doUpstreamCliqueSizeChange (aGranularity : NetGranularity) : IntraCliqueManager :=
  i.start .controlNetGranularity (Granularity.getRaw aGranularity) .onDoneRepeatingUpstream

def doDownstreamCliqueSizeChange (aGranularity : NetGranularity) : IntraCliqueManager :=
  { i with granularity := aGranularity }.start .masterSync (Granularity.getRaw aGranularity)
    .onDoneGranularityWithAction

def doUpstreamScatter : IntraCliqueManager :=
  i.start .controlScatterClique 1 .onDoneRepeatingUpstream

def doDownstreamScatter : IntraCliqueManager :=
  i.start .controlScatterClique 1 .onDoneScatter

def doUpstreamWorkTime (clockAdvance : Nat) : IntraCliqueManager :=
  i.start .controlWorkTime (BitVec.ofNat 8 clockAdvance) .onDoneRepeatingUpstream

def doUpstreamWorkCycle (workCycle : Nat) : IntraCliqueManager :=
  i.start .controlWorkCycle (BitVec.ofNat 8 workCycle) .onDoneRepeatingUpstream

def shouldSendControlSync (coinToss : Bool) : Bool × IntraCliqueManager :=
  if i.isActive then
    let (result, r) := i.repeater.shouldSend coinToss
    (result, { i with repeater := r })
  else
    (false, i)

/-- The granularity is a cleared static, whose value is that of `small`. -/
def initial : IntraCliqueManager where
  repeater := SendRepeater.initial
  granularity := .small

end IntraCliqueManager

end SleepSync
