import FrequencyRelay.Core.Runs
import FrequencyRelay.Core.SortedInsertion
import FrequencyRelay.Kernel.Ticks
import Mathlib.Logic.Function.Basic

/-!
# The timer service

The service task of `timers.c` with the ticks of the kernel and the tasks that send it
commands.  A step of the service goes at most as far as one access to what it shares
with them: a sample of the tick count, or a message sent to or received from the queue.
-/

namespace FrequencyRelay.Timers

open FrequencyRelay.SortedInsertion
open FrequencyRelay.Ticks

/-- What the service does with a timer on a command; a start also stands for a reset,
for the variants of both for interrupts and for `tmrCOMMAND_START_DONT_TRACE`. -/
inductive Command (Time : Type*)
  | start (xMessageValue : Time)
  | stop
  | changePeriod (xMessageValue : BitVec 32)
  | delete
  deriving DecidableEq

/-- `DaemonTaskMessage_t` -/
structure Message (Time Timer : Type*) where
  command : Command Time
  pxTimer : Timer
  deriving DecidableEq

/-- `xTIMER` -/
structure TimerControl where
  xTimerPeriodInTicks : BitVec 32
  uxAutoReload : Bool

/-- A call of a timer's callback, with the moment at which it was due. -/
structure Callback (Time Timer : Type*) where
  timer : Timer
  due : Time
  called : Time
  deriving DecidableEq

/-- The function that has called `prvSampleTimeNow`, with the data that it goes on with:
`prvProcessTimerOrBlockTask`, with the head of the list if there is one, or
`prvProcessReceivedCommands`. -/
inductive Caller (Time Timer : Type*)
  | processTimer (xNextExpireTime : Option Time)
  | receivedCommand (xMessage : Message Time Timer)

/-- Where the service task is. -/
inductive ServicePc (Time Timer : Type*)
  | nextExpireTime
  | sampleTimeNow (caller : Caller Time Timer)
  | switchTimerLists (xTimeNow : Time) (caller : Caller Time Timer)
  | switchReload (item : ListItem Time Timer) (xTimeNow : Time)
      (caller : Caller Time Timer)
  | expiredTimer (xNextExpireTime xTimeNow : Time)
  | blocked (since : Time) (xTicksToWait : BitVec 32)
  | receiveCommand
  | obeyCommand (xMessage : Message Time Timer) (xTimeNow : Time)
  | restart (pxTimer : Timer) (xMessageValue : Time)

/-- The service, the tick count, and for each sender the message that it is about to
put into the queue. -/
structure State (Time Timer Sender : Type*) where
  xTickCount : Time
  xLastTime : Time
  control : Timer → TimerControl
  pxCurrentTimerList : List (ListItem Time Timer)
  pxOverflowTimerList : List (ListItem Time Timer)
  xTimerQueue : List (Message Time Timer)
  sending : Sender → Option (Message Time Timer)
  pc : ServicePc Time Timer
  callbacks : List (Callback Time Timer)

/-- What a sender asks for. -/
inductive Request
  | start
  | stop
  | changePeriod (xNewPeriod : BitVec 32)
  | delete

inductive Action (Timer Sender : Type*)
  | tick
  | command (sender : Sender) (timer : Timer) (request : Request)
  | send (sender : Sender)
  | giveUp (sender : Sender)
  | service

variable {Time Timer Sender : Type*}

section Model

variable [TickType Time]

/-- A blocked service is readied. -/
def ServicePc.ready : ServicePc Time Timer → ServicePc Time Timer
  | .blocked _ _ => .receiveCommand
  | pc => pc

/-- A blocked service is readied if it has waited long enough. -/
def ServicePc.tick (xTickCount : Time) : ServicePc Time Timer → ServicePc Time Timer
  | .blocked since xTicksToWait =>
      if xTicksToWait ≤ shown xTickCount - shown since then .receiveCommand
      else .blocked since xTicksToWait
  | pc => pc

/-- `configTIMER_QUEUE_LENGTH` messages fit into the queue; without waiting, another one
is lost. -/
def offer (message : Message Time Timer) (queue : List (Message Time Timer)) :
    List (Message Time Timer) :=
  if queue.length < 10 then queue ++ [message] else queue

namespace State

variable (state : State Time Timer Sender)

/-- `xTimerGenericCommand` when it does not wait -/
def genericCommand (message : Message Time Timer) : State Time Timer Sender :=
  { state with xTimerQueue := offer message state.xTimerQueue }

def callCallback (timer : Timer) (due : Time) : State Time Timer Sender :=
  { state with
    callbacks := state.callbacks ++ [⟨timer, due, state.xTickCount⟩] }

/-- `prvInsertTimerInActiveList`, with its result `xProcessTimerNow` -/
def insertTimerInActiveList (timer : Timer) (xNextExpiryTime xTimeNow xCommandTime : Time) :
    Bool × State Time Timer Sender :=
  let item : ListItem Time Timer := ⟨xNextExpiryTime, timer⟩
  if shown xNextExpiryTime ≤ shown xTimeNow then
    if (state.control timer).xTimerPeriodInTicks ≤ shown xTimeNow - shown xCommandTime then
      (true, state)
    else
      (false, { state with
        pxOverflowTimerList := insertByKey itemKey item state.pxOverflowTimerList })
  else if shown xTimeNow < shown xCommandTime ∧ shown xCommandTime ≤ shown xNextExpiryTime then
    (true, state)
  else
    (false, { state with
      pxCurrentTimerList := insertByKey itemKey item state.pxCurrentTimerList })

/-- `vQueueWaitForMessageRestricted` with the scheduler suspended: the task only blocks
if the queue is empty. -/
def waitForMessage (xTimeNow : Time) (xTicksToWait : BitVec 32) : State Time Timer Sender :=
  match state.xTimerQueue with
  | [] => { state with pc := .blocked xTimeNow xTicksToWait }
  | _ :: _ => { state with pc := .receiveCommand }

/-- The rest of `prvProcessTimerOrBlockTask` when the lists have not been switched -/
def processTimerOrBlockTask (xNextExpireTime : Option Time) (xTimeNow : Time) :
    State Time Timer Sender :=
  match xNextExpireTime with
  | some expireTime =>
      if shown expireTime ≤ shown xTimeNow then
        { state with pc := .expiredTimer expireTime xTimeNow }
      else state.waitForMessage xTimeNow (shown expireTime - shown xTimeNow)
  | none => state.waitForMessage xTimeNow (0 - shown xTimeNow)

/-- `prvSampleTimeNow` returns. -/
def returnTimeNow (xTimeNow : Time) (listsWereSwitched : Bool) :
    Caller Time Timer → State Time Timer Sender
  | .processTimer xNextExpireTime =>
      if listsWereSwitched then
        { state with xLastTime := xTimeNow, pc := .receiveCommand }
      else
        { state with xLastTime := xTimeNow }.processTimerOrBlockTask
          xNextExpireTime xTimeNow
  | .receivedCommand xMessage =>
      { state with xLastTime := xTimeNow, pc := .obeyCommand xMessage xTimeNow }

def sampleTimeNow (caller : Caller Time Timer) : State Time Timer Sender :=
  if shown state.xTickCount < shown state.xLastTime then
    { state with pc := .switchTimerLists state.xTickCount caller }
  else state.returnTimeNow state.xTickCount false caller

/-- One iteration of the loop of `prvSwitchTimerLists`, up to the callback, or the switch. -/
def switchTimerLists (xTimeNow : Time) (caller : Caller Time Timer) :
    State Time Timer Sender :=
  match state.pxCurrentTimerList with
  | [] =>
      { state with
        pxCurrentTimerList := state.pxOverflowTimerList
        pxOverflowTimerList := [] }.returnTimeNow xTimeNow true caller
  | item :: rest =>
      { state with
        pxCurrentTimerList := rest
        pc :=
          if (state.control item.pvOwner).uxAutoReload then
            .switchReload item xTimeNow caller
          else .switchTimerLists xTimeNow caller }.callCallback item.pvOwner item.xItemValue

/-- The rest of the iteration for a timer that reloads -/
def switchReload (item : ListItem Time Timer) (xTimeNow : Time)
    (caller : Caller Time Timer) : State Time Timer Sender :=
  let xReloadTime :=
    later item.xItemValue (state.control item.pvOwner).xTimerPeriodInTicks
  if shown item.xItemValue < shown xReloadTime then
    { state with
      pxCurrentTimerList :=
        insertByKey itemKey ⟨xReloadTime, item.pvOwner⟩ state.pxCurrentTimerList
      pc := .switchTimerLists xTimeNow caller }
  else
    { state with pc := .switchTimerLists xTimeNow caller }.genericCommand
      ⟨.start item.xItemValue, item.pvOwner⟩

/-- `prvProcessExpiredTimer` puts a timer that reloads back into a list, or sends a
start for it if it has expired again. -/
def reloadTimer (timer : Timer) (xNextExpireTime xTimeNow : Time) :
    State Time Timer Sender :=
  let inserted := state.insertTimerInActiveList timer
    (later xNextExpireTime (state.control timer).xTimerPeriodInTicks)
    xTimeNow xNextExpireTime
  if inserted.1 then inserted.2.genericCommand ⟨.start xNextExpireTime, timer⟩
  else inserted.2

/-- `prvProcessExpiredTimer` -/
def processExpiredTimer (xNextExpireTime xTimeNow : Time) :
    Option (State Time Timer Sender) :=
  match state.pxCurrentTimerList with
  | [] => none
  | item :: rest =>
      let removed : State Time Timer Sender :=
        { state with pxCurrentTimerList := rest, pc := .receiveCommand }
      let reloaded :=
        if (state.control item.pvOwner).uxAutoReload then
          removed.reloadTimer item.pvOwner xNextExpireTime xTimeNow
        else removed
      some (reloaded.callCallback item.pvOwner item.xItemValue)

variable [DecidableEq Timer]

/-- `uxListRemove` of the item of a timer -/
def listRemove (timer : Timer) (items : List (ListItem Time Timer)) :
    List (ListItem Time Timer) :=
  items.filter fun item => item.pvOwner ≠ timer

/-- `xQueueReceive` in `prvProcessReceivedCommands`, and the removal of the timer -/
def receiveCommand : State Time Timer Sender :=
  match state.xTimerQueue with
  | [] => { state with pc := .nextExpireTime }
  | message :: messages =>
      { state with
        xTimerQueue := messages
        pxCurrentTimerList := listRemove message.pxTimer state.pxCurrentTimerList
        pxOverflowTimerList := listRemove message.pxTimer state.pxOverflowTimerList
        pc := .sampleTimeNow (.receivedCommand message) }

/-- The switch of `prvProcessReceivedCommands` -/
def obeyCommand (message : Message Time Timer) (xTimeNow : Time) : State Time Timer Sender :=
  let timer := message.pxTimer
  match message.command with
  | .start xMessageValue =>
      let due := later xMessageValue (state.control timer).xTimerPeriodInTicks
      let inserted := state.insertTimerInActiveList timer due xTimeNow xMessageValue
      if inserted.1 then
        { inserted.2 with
          pc :=
            if (state.control timer).uxAutoReload then .restart timer xMessageValue
            else .receiveCommand }.callCallback timer due
      else { inserted.2 with pc := .receiveCommand }
  | .changePeriod xNewPeriod =>
      let changed : State Time Timer Sender :=
        { state with
          control :=
            Function.update state.control timer
              ⟨xNewPeriod, (state.control timer).uxAutoReload⟩
          pc := .receiveCommand }
      (changed.insertTimerInActiveList timer (later xTimeNow xNewPeriod) xTimeNow xTimeNow).2
  | .stop | .delete => { state with pc := .receiveCommand }

/-- A step of the service task, which runs unless it is blocked. -/
def serve : Option (State Time Timer Sender) :=
  match state.pc with
  | .nextExpireTime =>
      some { state with
        pc := .sampleTimeNow (.processTimer
          (state.pxCurrentTimerList.head?.map ListItem.xItemValue)) }
  | .sampleTimeNow caller => some (state.sampleTimeNow caller)
  | .switchTimerLists xTimeNow caller => some (state.switchTimerLists xTimeNow caller)
  | .switchReload item xTimeNow caller => some (state.switchReload item xTimeNow caller)
  | .expiredTimer xNextExpireTime xTimeNow =>
      state.processExpiredTimer xNextExpireTime xTimeNow
  | .blocked _ _ => none
  | .receiveCommand => some state.receiveCommand
  | .obeyCommand message xTimeNow => some (state.obeyCommand message xTimeNow)
  | .restart timer xMessageValue =>
      some ({ state with pc := .receiveCommand }.genericCommand
        ⟨.start (later xMessageValue (state.control timer).xTimerPeriodInTicks), timer⟩)

/-- The tick interrupt -/
def tick : State Time Timer Sender :=
  { state with
    xTickCount := later state.xTickCount 1
    pc := state.pc.tick (later state.xTickCount 1) }

/-- The message of `xTimerStart`, `xTimerStop`, `xTimerChangePeriod` or `xTimerDelete`;
a start carries the tick count. -/
def request : Request → Command Time
  | .start => .start state.xTickCount
  | .stop => .stop
  | .changePeriod xNewPeriod => .changePeriod xNewPeriod
  | .delete => .delete

variable [DecidableEq Sender]

/-- The message of a sender goes into the queue when there is room for it, and the
service is readied. -/
def send (sender : Sender) : Option (State Time Timer Sender) :=
  (state.sending sender).bind fun message =>
    if state.xTimerQueue.length < 10 then
      some { state with
        xTimerQueue := state.xTimerQueue ++ [message]
        sending := Function.update state.sending sender none
        pc := state.pc.ready }
    else none

end State

/-- One step of the kernel, of a sender or of the timer service. -/
def step [DecidableEq Timer] [DecidableEq Sender] (state : State Time Timer Sender) :
    Action Timer Sender → Option (State Time Timer Sender)
  | .tick => some state.tick
  | .command sender timer request =>
      if (state.sending sender).isNone then
        some { state with
          sending :=
            Function.update state.sending sender (some ⟨state.request request, timer⟩) }
      else none
  | .send sender => state.send sender
  | .giveUp sender =>
      if (state.sending sender).isSome then
        some { state with sending := Function.update state.sending sender none }
      else none
  | .service => state.serve

/-- The scheduler starts at tick zero, with the timers that have been created. -/
def initial (zero : Time) (control : Timer → TimerControl) : State Time Timer Sender where
  xTickCount := zero
  xLastTime := zero
  control := control
  pxCurrentTimerList := []
  pxOverflowTimerList := []
  xTimerQueue := []
  sending _ := none
  pc := .nextExpireTime
  callbacks := []

end Model

end FrequencyRelay.Timers
