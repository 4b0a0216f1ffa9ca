/-
  SleepSync.Tasks

  The unit as it really runs: tasks on a timer, each of which does a piece of
  the protocol and schedules the next, a radio that delivers packets in between,
  and the radio prelude (the start of the high frequency oscillator), which a
  task does or undoes for the task after it.

  The timer is outside the repository.  What is scheduled stays in `pending`
  until it runs, and it runs at any time that is not before its expiry; nothing
  here assumes that only one task is pending.  The radio is off after it has
  received one packet, until it is started again.

  `trace` is what the unit has done, latest first, each with the state it was
  done in.  No task reads it.
-/

import SleepSync.Serializer
import SleepSync.ProtocolSystem

namespace SleepSync

open Lib ScheduleParameters

/-- The tasks that are given to the timer. -/
inductive Task
  | startSyncPeriodMaintain
  | theRadioPreludeTaskWSync
  | theRadioPreludeTaskWFish
  | startSyncSlotAfterPrelude
  | startSyncSlotWithoutScheduledPrelude
  | sendSync
  | endSyncSlotListen
  | endSyncSlotSend
  | fishSlotStart
  | fishSlotEnd
  | mergerStartAndEnd
  | provisionStart
  | provisionEnd
  deriving DecidableEq

/-- The assertions a task can stop at. -/
inductive TaskFault
  /-- one of the protocol -/
  | protocol (flt : Fault)
  /-- `assert(RadioPrelude::isDone())` -/
  | preludeNotDone
  /-- `assert(not RadioPrelude::isDone())` -/
  | preludeDone
  /-- `TimeMath::deltaSubtraction` -/
  | deltaSubtraction
  /-- `assert(not Ensemble::isRadioInUse())` -/
  | radioInUse
  /-- `RadioPrelude::shouldUndoAfterSyncing` and `scheduleNonSyncTask` -/
  | maintainMode
  /-- `SSTask::sendSync` in a listening slot -/
  | sendWhileListening
  deriving DecidableEq

/-- A piece of the protocol in a task. -/
def ofProtocol {α : Type} (x : Except Fault α) : Except TaskFault α :=
  match x with
  | .ok r => .ok r
  | .error flt => .error (.protocol flt)

/-- What the receiver was started with. -/
inductive MessageHandler
  | syncSlot
  | fishSlot
  deriving DecidableEq

inductive Effect
  | run (task : Task)
  | schedule (task : Task)
  | rollPeriodForward (task : Task)
  | bookkeepingAtPreludeToSyncSlot
  | startReceiving (handler : MessageHandler)
  | handle (handler : MessageHandler) (msg : SyncMessage)
  | transmit (msg : SyncMessage)
  deriving DecidableEq

/-- An effect, and the state it happened in. -/
structure Occurrence where
  what : Effect
  now : Nat
  prelude : Option Nat
  protocol : Protocol
  deriving DecidableEq

structure Agent where
  protocol : Protocol
  /-- `RadioPrelude::isStarted`, with the time since which it is -/
  prelude : Option Nat
  /-- the handler of the receiver, if the radio is receiving -/
  radio : Option MessageHandler
  /-- `SyncSlot::kind` -/
  kind : SyncSlotKind
  /-- the tasks on the timer, with their expiry -/
  pending : List (Task × Nat)
  /-- between a successful start of the provisioner and its callback -/
  isProvisioning : Bool
  clock : Nat
  trace : List Occurrence
  deriving DecidableEq

namespace Agent

variable (c : Config) (e : Env) (a : Agent)

def record (what : Effect) : Agent :=
  { a with trace := ⟨what, e.now, a.prelude, a.protocol⟩ :: a.trace }

/-- `TaskTimer::schedule` -/
def schedule (task : Task) (delay : Nat) : Agent :=
  { a with pending := a.pending ++ [(task, e.now + delay)] }.record e (.schedule task)

-- ============================================================================
-- Radio prelude
-- ============================================================================

def isDone : Bool := a.prelude.isSome

def doIt : Agent := { a with prelude := some e.now }

def undo : Agent := { a with prelude := none }

def shouldUndoAfterSyncing : Except TaskFault Bool := do
  require a.isDone .preludeNotDone
  match a.protocol.mode with
  | .maintain => .error .maintainMode
  | .syncAndFishMerge =>
      match a.protocol.role with
      | .fisher => return !a.protocol.fishing.isFishSlotStartSyncPeriod
      | .merger => return !a.protocol.isMergerStartSyncPeriod
      | .noFishing => return true
  | .syncOnly => return true
  | .syncAndProvision => return false

def shouldUndoAfterFishing : Bool := !a.protocol.fishing.isFishSlotEndSyncPeriod

def shouldUndoAfterMerging : Bool := !a.protocol.isMergerEndSyncPeriod c

def tryUndoAfterSyncing : Except TaskFault Agent := do
  let result ← a.shouldUndoAfterSyncing
  return if result then a.undo else a

-- ============================================================================
-- Sleep durations
-- ============================================================================

def nowTilSyncPoint : Nat := a.protocol.schedule.deltaNowToNextSyncPoint c.tm e.now

def nowTilFishStart : Nat := a.protocol.fishing.deltaToFishSessionStart c.tm e.now

def preludeTilNextTask : Nat := virtualSlotDuration

/-- `TimeMath::deltaSubtraction` of the prelude -/
def lessPrelude (duration : Nat) : Except TaskFault Nat :=
  match c.tm.deltaSubtraction duration preludeTilNextTask with
  | none => .error .deltaSubtraction
  | some d => .ok d

def nowTilPreludeWSync : Except TaskFault Nat := lessPrelude c (a.nowTilSyncPoint c e)

def nowTilPreludeWFish : Except TaskFault Nat := lessPrelude c (a.nowTilFishStart c e)

-- ============================================================================
-- What is scheduled next
-- ============================================================================

def maintainSyncPeriod : Agent :=
  a.schedule e .startSyncPeriodMaintain (a.nowTilSyncPoint c e)

def radioPreludeTaskWSync : Except TaskFault Agent := do
  let delay ← a.nowTilPreludeWSync c e
  return a.schedule e .theRadioPreludeTaskWSync delay

def syncSlotAfterSyncSlot : Except TaskFault Agent := do
  require (!a.isDone) .preludeDone
  a.radioPreludeTaskWSync c e

def startSyncSlotFromPreludeStart : Agent :=
  a.schedule e .startSyncSlotAfterPrelude preludeTilNextTask

/-- The prelude is still done and need not be scheduled. -/
def startSyncSlotWithoutScheduledPrelude : Agent :=
  a.schedule e .startSyncSlotWithoutScheduledPrelude (a.nowTilSyncPoint c e)

def syncSendTask : Agent :=
  a.schedule e .sendSync (c.tm.clampedTimeDifferenceFromNow e.now
    (a.protocol.schedule.timeOfThisSyncSlotMiddleSubslot c.platform))

def deltaToThisSyncSlotEnd : Nat :=
  c.tm.clampedTimeDifferenceFromNow e.now a.protocol.schedule.timeOfThisSyncSlotEnd

def syncSlotEndFromListen : Agent :=
  a.schedule e .endSyncSlotListen (a.deltaToThisSyncSlotEnd c e)

def syncSlotEndFromSend : Agent :=
  a.schedule e .endSyncSlotSend (a.deltaToThisSyncSlotEnd c e)

/-- Sleep through the rest of the period. -/
def omitNonsyncSlot : Except TaskFault Agent := a.undo.syncSlotAfterSyncSlot c e

def radioPreludeTaskWFish : Except TaskFault Agent := do
  let delay ← a.nowTilPreludeWFish c e
  return a.schedule e .theRadioPreludeTaskWFish delay

def startFishSlotFromPreludeStart : Agent :=
  a.schedule e .fishSlotStart preludeTilNextTask

def scheduleFishSlotStart : Except TaskFault Agent := do
  require a.isDone .preludeNotDone
  return a.schedule e .fishSlotStart (a.nowTilFishStart c e)

def fishing : Except TaskFault Agent :=
  if a.isDone then a.scheduleFishSlotStart c e else a.radioPreludeTaskWFish c e

def scheduleFishSlotEnd : Agent :=
  a.schedule e .fishSlotEnd a.protocol.fishing.getFishSessionDurationTicks

/-- The three ways into the next sync slot after a slot of the non-sync period,
    which differ in what they ask whether to undo the prelude. -/
def syncSlotAfterNonsyncSlot (shouldUndo : Bool) : Except TaskFault Agent :=
  if shouldUndo then do
    let a' := a.undo
    require (!a'.isDone) .preludeDone
    a'.radioPreludeTaskWSync c e
  else
    .ok (a.startSyncSlotWithoutScheduledPrelude c e)

def syncSlotAfterFishSlot : Except TaskFault Agent :=
  a.syncSlotAfterNonsyncSlot c e a.shouldUndoAfterFishing

def merger : Except TaskFault Agent := do
  let delay ← ofProtocol (a.protocol.deltaToThisMergeStart c e)
  return a.schedule e .mergerStartAndEnd delay

def syncSlotAfterMerging : Except TaskFault Agent :=
  a.syncSlotAfterNonsyncSlot c e (a.shouldUndoAfterMerging c)

def scheduleProvisionStart : Agent := a.schedule e .provisionStart 0

def scheduleProvisionEnd : Agent := a.schedule e .provisionEnd 0

/-- The source asks the merger here too. -/
def syncSlotAfterProvisioning : Except TaskFault Agent :=
  a.syncSlotAfterNonsyncSlot c e (a.shouldUndoAfterMerging c)

-- ============================================================================
-- Sync slot
-- ============================================================================

/-- `SyncSlot::bookkeepingAtPreludeToSyncSlot` -/
def bookkeepingAtPreludeToSyncSlot : Except TaskFault Agent := do
  let p ← ofProtocol (a.protocol.bookkeepingAtPreludeToSyncSlot c e)
  return { a with protocol := p }.record e .bookkeepingAtPreludeToSyncSlot

/-- `SyncSlot::bookkeepingAtStartSyncSlot`, for the task that runs it. -/
def bookkeepingAtStartSyncSlot (task : Task) : Except TaskFault Agent := do
  let a' := { a.record e (.rollPeriodForward task) with
    protocol := a.protocol.preludeToSyncPeriod }
  require a'.radio.isNone .radioInUse
  return a'

/-- `Receiver::startWithHandler` -/
def startReceiving (handler : MessageHandler) : Agent :=
  { a with radio := some handler }.record e (.startReceiving handler)

/-- `Receiver::stop` -/
def stopReceive : Agent := { a with radio := none }

/-- Serialize and transmit synchronously. -/
def sendMessage (msg : SyncMessage) : Agent := a.record e (.transmit msg)

def dispatchSyncSlotKind : Except TaskFault Agent :=
  let (kind, p) := a.protocol.decideKind c e
  let a' := { a with kind := kind, protocol := p }
  match kind with
  | .sendControlSync => do
      let a'' := a'.syncSendTask c e
      let p' ← ofProtocol (a''.protocol.checkDoneAndEnactControl c e)
      return { a'' with protocol := p' }
  | .sendWorkSync | .sendSync => .ok (a'.syncSendTask c e)
  | .listen => .ok ((a'.startReceiving e .syncSlot).syncSlotEndFromListen c e)

/-- `SyncSlot::endListen` -/
def endListen : Except TaskFault Agent := do
  let p ← ofProtocol (a.stopReceive.protocol.endListen c e)
  return { a.stopReceive with protocol := p }

-- ============================================================================
-- Tasks
-- ============================================================================

/-- The message of a sending sync slot.  Mail stays in the mailbox until it is
    fetched here. -/
def syncSlotMessage : Except TaskFault SyncMessage :=
  match a.kind with
  | .sendWorkSync => ofProtocol (a.protocol.sendWorkSync c e (e.mail.getD 0))
  | .sendSync => ofProtocol (a.protocol.sendMasterSync c e)
  | .sendControlSync => ofProtocol (a.protocol.sendControlSync c e)
  | .listen => .error .sendWhileListening

def sendSync : Except TaskFault Agent := do
  let msg ← a.syncSlotMessage c e
  return (a.sendMessage e msg).syncSlotEndFromSend c e

/-- Not scheduled, called at the end of the sync slot. -/
def tryFishOrMerge : Except TaskFault Agent :=
  match a.protocol.role with
  | .merger => if e.mergeCoinToss then a.merger c e else a.omitNonsyncSlot c e
  | .fisher =>
      if e.isPowerForFishSlot then
        { a with protocol := a.protocol.setStartAndEndTimes }.fishing c e
      else
        a.omitNonsyncSlot c e
  | .noFishing => a.omitNonsyncSlot c e

/-- The fish slot is decided before the prelude is undone, which depends on it. -/
def scheduleNonSyncTask : Except TaskFault Agent := do
  let p ← ofProtocol a.protocol.preFishing
  let a' ← { a with protocol := p }.tryUndoAfterSyncing
  match a'.protocol.mode with
  | .syncOnly => a'.syncSlotAfterSyncSlot c e
  | .syncAndFishMerge => a'.tryFishOrMerge c e
  | .syncAndProvision =>
      if c.softdevicePresent then return a'.scheduleProvisionStart e else return a'
  | .maintain => .error .maintainMode

def endSyncSlotListen : Except TaskFault Agent := do
  let a' ← a.endListen c e
  a'.scheduleNonSyncTask c e

def endSyncSlotSend : Except TaskFault Agent := do
  require a.isDone .preludeNotDone
  a.scheduleNonSyncTask c e

def startSyncPeriodMaintain : Except TaskFault Agent := do
  require (!a.isDone) .preludeDone
  let a₁ ← a.bookkeepingAtPreludeToSyncSlot c e
  let a₂ ← a₁.bookkeepingAtStartSyncSlot e .startSyncPeriodMaintain
  if a₂.protocol.mode = .maintain then return a₂.maintainSyncPeriod c e
  else a₂.radioPreludeTaskWSync c e

/-- Run as itself or by `startSyncSlotWithoutScheduledPrelude`. -/
def startSyncSlot (task : Task) : Except TaskFault Agent := do
  require a.isDone .preludeNotDone
  let a₁ ← a.bookkeepingAtStartSyncSlot e task
  if a₁.protocol.mode = .maintain then return (a₁.maintainSyncPeriod c e).undo
  else a₁.dispatchSyncSlotKind c e

/-- The next task is scheduled before the prelude is started. -/
def theRadioPreludeTaskWSync : Except TaskFault Agent :=
  ((a.startSyncSlotFromPreludeStart e).doIt e).bookkeepingAtPreludeToSyncSlot c e

def theRadioPreludeTaskWFish : Agent := (a.startFishSlotFromPreludeStart e).doIt e

def fishSlotStart : Except TaskFault Agent := do
  require a.isDone .preludeNotDone
  return (a.scheduleFishSlotEnd e).startReceiving e .fishSlot

def fishSlotEnd : Except TaskFault Agent := do
  let a₁ := a.stopReceive
  require a₁.isDone .preludeNotDone
  let p ← ofProtocol (a₁.protocol.checkFishingDone c)
  { a₁ with protocol := p }.syncSlotAfterFishSlot c e

def mergerStartAndEnd : Except TaskFault Agent := do
  let msg ← ofProtocol (a.protocol.makeMergeMsg c e)
  let a₁ := a.sendMessage e msg
  let p ← ofProtocol a₁.protocol.mergeSyncSent
  { a₁ with protocol := p }.syncSlotAfterMerging c e

def provisionEnd : Except TaskFault Agent := a.syncSlotAfterProvisioning c e

def provisionStart : Except TaskFault Agent := do
  require a.isDone .preludeNotDone
  if e.isBLEStartedOK then return { a with isProvisioning := true }
  else a.provisionEnd c e

def runTask (task : Task) : Except TaskFault Agent :=
  match task with
  | .startSyncPeriodMaintain => a.startSyncPeriodMaintain c e
  | .theRadioPreludeTaskWSync => a.theRadioPreludeTaskWSync c e
  | .theRadioPreludeTaskWFish => .ok (a.theRadioPreludeTaskWFish e)
  | .startSyncSlotAfterPrelude => a.startSyncSlot c e .startSyncSlotAfterPrelude
  | .startSyncSlotWithoutScheduledPrelude =>
      a.startSyncSlot c e .startSyncSlotWithoutScheduledPrelude
  | .sendSync => a.sendSync c e
  | .endSyncSlotListen => a.endSyncSlotListen c e
  | .endSyncSlotSend => a.endSyncSlotSend c e
  | .fishSlotStart => a.fishSlotStart e
  | .fishSlotEnd => a.fishSlotEnd c e
  | .mergerStartAndEnd => a.mergerStartAndEnd c e
  | .provisionStart => a.provisionStart c e
  | .provisionEnd => a.provisionEnd c e

-- ============================================================================
-- Packets
-- ============================================================================

def handle (handler : MessageHandler) (msg : SyncMessage) :
    Except Fault (HandlingResult × Protocol) :=
  match handler with
  | .syncSlot => Protocol.SyncSlot.handle c e a.protocol msg
  | .fishSlot => Protocol.FishSlot.handle c e a.protocol msg

/-- The receiver is started again unless the handler has what it wants; the
    source asserts that it is off then. -/
def handleValidMessageAndSetContinuation (handler : MessageHandler) (msg : SyncMessage) :
    Except TaskFault Agent := do
  let (handlingResult, p) ← ofProtocol (a.handle c e handler msg)
  let a' := { a.record e (.handle handler msg) with protocol := p }
  if handlingResult = .keepListening then return a'.startReceiving e handler
  else do
    require a'.radio.isNone .radioInUse
    return a'

/-- `MessageDispatcher::dispatch` of a packet, `none` if its check sum is wrong. -/
def dispatch (handler : MessageHandler) (packet : Option RadioBuffer) :
    Except TaskFault Agent :=
  match packet with
  | none => .ok (a.startReceiving e handler)
  | some buffer => do
      let msg ← ofProtocol (Serializer.unserialize buffer)
      match msg with
      | none => return a.startReceiving e handler
      | some msg => a.handleValidMessageAndSetContinuation c e handler msg

-- ============================================================================
-- The provisioner
-- ============================================================================

/-- `ProvisionerCallback::fail`, and the end of `succeed` -/
def endProvisioning : Agent := { a with isProvisioning := false }.scheduleProvisionEnd e

def provisionerSucceed (provision : ProvisionedValue) : Except TaskFault Agent := do
  let p ← ofProtocol (a.protocol.provisionSucceed c provision)
  return { a with protocol := p }.endProvisioning e

-- ============================================================================
-- Boot
-- ============================================================================

/-- The state after `SSTask::checkPowerReserve` found the power to start. -/
def boot (initTime loopTime : Nat) : Agent :=
  { protocol := Protocol.boot c initTime loopTime
    prelude := none
    radio := none
    kind := .listen
    pending := []
    isProvisioning := false
    clock := loopTime
    trace := [] : Agent }.maintainSyncPeriod c (Env.quiet loopTime)

end Agent

-- ============================================================================
-- The machine
-- ============================================================================

inductive AgentEvent
  | timer (task : Task) (expiry : Nat)
  | packet (received : Option RadioBuffer)
  | provisionerSucceed (provision : ProvisionedValue)
  | provisionerFail
  deriving DecidableEq

/-- A task runs when it has expired, a packet arrives while the radio receives,
    and the provisioner calls back once. -/
def AgentEvent.Possible (a : Agent) (e : Env) : AgentEvent → Prop
  | .timer task expiry => (task, expiry) ∈ a.pending ∧ expiry ≤ e.now
  | .packet _ => a.radio ≠ none ∧
      a.protocol.schedule.startTimeOfSyncPeriod ≤ e.timeOfArrival ∧ e.timeOfArrival ≤ e.now
  | .provisionerSucceed _ | .provisionerFail => a.isProvisioning = true

def stepAgent (c : Config) (a : Agent) (e : Env) (ev : AgentEvent) : Except TaskFault Agent :=
  let a := { a with clock := e.now }
  match ev with
  | .timer task expiry =>
      Agent.runTask c e
        ({ a with pending := a.pending.erase (task, expiry) }.record e (.run task)) task
  | .packet received =>
      match a.radio with
      | none => .ok a
      | some handler => a.stopReceive.dispatch c e handler received
  | .provisionerSucceed provision => a.provisionerSucceed c e provision
  | .provisionerFail => .ok (a.endProvisioning e)

/-- One unit as its tasks run it. -/
def agentSystem (c : Config) : System Agent (Env × AgentEvent) TaskFault where
  init a := ∃ initTime loopTime, initTime ≤ loopTime ∧ a = Agent.boot c initTime loopTime
  enabled a l := a.clock ≤ l.1.now ∧ l.2.Possible a l.1
  step a l := stepAgent c a l.1 l.2

instance (a : Agent) (e : Env) : (ev : AgentEvent) → Decidable (ev.Possible a e)
  | .timer task expiry =>
      inferInstanceAs (Decidable ((task, expiry) ∈ a.pending ∧ expiry ≤ e.now))
  | .packet _ => inferInstanceAs (Decidable (a.radio ≠ none ∧
      a.protocol.schedule.startTimeOfSyncPeriod ≤ e.timeOfArrival ∧ e.timeOfArrival ≤ e.now))
  | .provisionerSucceed _ | .provisionerFail =>
      inferInstanceAs (Decidable (a.isProvisioning = true))

instance (c : Config) (a : Agent) (l : Env × AgentEvent) :
    Decidable ((agentSystem c).enabled a l) :=
  inferInstanceAs (Decidable (_ ∧ _))

end SleepSync
