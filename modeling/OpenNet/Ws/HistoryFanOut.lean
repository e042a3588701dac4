import OpenNet.Subscription.EventChannel
import OpenNet.Ws.ConnectionHistory

/-!
# Fan-out of the connection history

The history of a session and the channels of its subscribers, in every interleaving of recording,
failing, subscribing and receiving.

A record changes the history and then serves the publishers one after the other while it still
holds the lock of the history: each publication, and each `prepare_fail` or `prepare_finish` that
follows it, is a section of the lock of that channel, and receivers run in between.  What a
terminal record or a failure leaves for `dispatch`, after the lock, is `deferred`.  A subscription
runs in one section of the lock of the history, on a channel nobody else knows yet.

`log` records every event that was ever recorded, `starved` that a subscriber was refused a
publication because the memory for its evicted entries could not be reserved.
-/

namespace OpenNet.Ws

open Checked LossyStream Subscription

/-! ## The system -/

/-- A channel, and whether it was starved. -/
structure Subscriber where
  channel : Channel ConnectionEvent := {}
  starved : Bool := false

/-- The thread that fans an event out under the lock. -/
structure Holding where
  /-- The event, or nothing if it was too large and is skipped. -/
  item : Option (Entry ConnectionEvent)
  closing : Bool
  remaining : List Nat
  /-- The second section for the publisher served last: `prepare_fail` or `prepare_finish`. -/
  after : Option (Nat × Option NetError) := none
  terminal : List Nat := []

/-- `ConnectionHistory`, its subscribers and lock. -/
structure FanOut where
  history : HistoryState := {}
  subscribers : List Subscriber := []
  holding : Option Holding := none
  deferred : List (Nat × Option NetError) := []
  log : List ConnectionEvent := []

inductive ReceiverOp where
  | recv (waker : WakerId)
  | tryRecv
  | closeEnded
  | unsubscribe

def ReceiverOp.toChannelOp : ReceiverOp → ChannelOp ConnectionEvent
  | .recv waker => .recv waker
  | .tryRecv => .tryRecv
  | .closeEnded => .closeEnded
  | .unsubscribe => .unsubscribe

inductive HistoryAction where
  | record (allocated : Bool) (event : ConnectionEvent)
  | fail (error : NetError)
  /-- `subscribe` with the answers of the quota, of the channel's allocation, and of the
  reservations before and after the pruning. -/
  | subscribe (quota channel pruning seeding : Bool)
  | fanOut (reserved : Bool)
  | dispatch (index : Nat)
  | receive (subscriber : Nat) (op : ReceiverOp)

/-- `EventPublication::result` when it was not admitted. -/
def refusal (publication : EventPublication ConnectionEvent) : Option NetError :=
  match publication.result with
  | .ok true => none
  | .ok false => some (.new .queueFull)
  | .error error => some error

namespace FanOut

variable (options : EventOptions)

def onChannel (s : FanOut) (i : Nat) (op : ChannelOp ConnectionEvent) : FanOut :=
  { s with subscribers := s.subscribers.modify i fun sub =>
      { sub with channel := channelStep options.registration sub.channel op } }

/-- Serve one publisher: `prepare_try_publish` or `prepare_skip(1)`. -/
def serve (reserved : Bool) (item : Option (Entry ConnectionEvent)) (sub : Subscriber) :
    Subscriber × Option NetError :=
  match item with
  | some entry =>
    let error := refusal
      (options.registration.preparePublish reserved entry sub.channel.state).2
    ({ channel := channelStep options.registration sub.channel (.publish reserved entry),
       starved := sub.starved || (!reserved && error.isSome) }, error)
  | none =>
    let error := refusal (options.registration.prepareSkip reserved 1 sub.channel.state).2
    ({ channel := channelStep options.registration sub.channel (.skip reserved 1),
       starved := sub.starved || (!reserved && error.isSome) }, error)

def following (closing : Bool) (i : Nat) : Option NetError → Option (Nat × Option NetError)
  | some error => some (i, some error)
  | none => if closing then some (i, none) else none

/-- The holder's next section; with nothing left it releases. -/
def proceed (reserved : Bool) (s : FanOut) (h : Holding) : FanOut :=
  match h.after with
  | some (i, failure) =>
    { s.onChannel options i (.finish failure) with holding := some { h with after := none } }
  | none =>
    match h.remaining with
    | [] =>
      { s with holding := none,
               deferred := s.deferred ++ h.terminal.map fun i => (i, none) }
    | i :: rest =>
      match s.subscribers[i]? with
      | none => { s with holding := some { h with remaining := rest } }
      | some sub =>
        let served := serve options reserved h.item sub
        { s with subscribers := s.subscribers.set i served.1,
                 holding := some { h with remaining := rest,
                                          after := following h.closing i served.2 } }

def isActive (s : FanOut) (i : Nat) : Bool :=
  s.subscribers[i]?.any fun sub => sub.channel.state.active

/-- `ConnectionHistory::prepare_record`, up to the fan-out. -/
def record (measure : ConnectionEvent → Except NetError Nat) (allocated : Bool)
    (event : ConnectionEvent) (s : FanOut) : FanOut :=
  match prepareRecord options measure s.isActive allocated event s.history with
  | (history, .refused _) => { s with history }
  | (history, .failed error publishers) =>
    { s with history, deferred := s.deferred ++ publishers.map fun i => (i, some error) }
  | (history, .recorded _ _ _ item publishers) =>
    { s with history, log := s.log ++ [event],
             holding := some { item, closing := event.isClosed, remaining := publishers,
                               terminal := if event.isClosed then publishers else [] } }

/-- `subscribe`, after the quota and the allocation of the channel. -/
def join (pruning seeding : Bool) (s : FanOut) : FanOut :=
  if !pruning then s
  else
    let pruned := { s with history := { s.history with
      publishers := prune s.isActive s.history.publishers } }
    if !seeding then pruned
    else
      match pruned.history.seed with
      | none => pruned
      | some seed =>
        if (options.registration.prepareSeed seed ({} : EventState ConnectionEvent)).2.accepted then
          { pruned with
            subscribers := s.subscribers ++
              [{ channel := channelStep options.registration {} (.seed seed) }]
            history := if s.history.closed then pruned.history
              else { pruned.history with
                publishers := pruned.history.publishers ++ [s.subscribers.length] } }
        else pruned

/-- One section of a lock. -/
def step (measure : ConnectionEvent → Except NetError Nat) (s : FanOut) : HistoryAction → FanOut
  | .record allocated event =>
    if s.holding.isSome then s else s.record options measure allocated event
  | .fail error =>
    if s.holding.isSome then s
    else
      let failed := prepareFail error s.history
      { s with history := failed.1,
               deferred := s.deferred ++ failed.2.map fun i => (i, some error) }
  | .subscribe quota channel pruning seeding =>
    if s.holding.isSome || !quota || !channel then s else s.join options pruning seeding
  | .fanOut reserved =>
    match s.holding with
    | none => s
    | some h => proceed options reserved s h
  | .dispatch index =>
    match s.deferred[index]? with
    | none => s
    | some (i, failure) =>
      { s.onChannel options i (.finish failure) with deferred := s.deferred.eraseIdx index }
  | .receive i op => s.onChannel options i op.toChannelOp

end FanOut

end OpenNet.Ws
