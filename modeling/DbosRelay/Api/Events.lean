import DbosRelay.Basic
import DbosRelay.Library.Channels
import DbosRelay.Library.Runs
import DbosRelay.Library.Tables
import Mathlib.Data.List.Perm.Basic

/-!
# The event broadcaster

`EventBroadcaster` of `internal/api/events.go` keeps the channels of the
subscribers by the application they listen to; those of the empty name listen to
all applications.  `Subscribe` and the cancel function it returns hold the lock
for writing.  `Publish` holds it for reading, so several of them may be under way
at once, and each sends its event to one channel after the other, in the order in
which the runtime iterates over a map.

What an event carries is passed on as it is.
-/

namespace DbosRelay.Api

open DbosRelay.Basic
open DbosRelay.Library.Channels
open DbosRelay.Library.Runs
open DbosRelay.Library.Tables

/-! ## The broadcaster -/

/-- `StreamEvent`. -/
structure StreamEvent (Data : Type) where
  type : String
  appName : String
  data : Data
  timestamp : Time
deriving DecidableEq, Repr

/-- A channel which `Subscribe` has made, with what its cancel function captures. -/
structure Subscription (Data : Type) where
  appName : String
  channel : Channel (StreamEvent Data)

/-- A `Publish` which holds the lock, and the channels it has still to send to. -/
structure Publishing (Data : Type) where
  event : StreamEvent Data
  remaining : List Nat

/--
`EventBroadcaster`, with all channels ever made, in the order of their making, and
with the calls of `Publish` which are under way.
-/
structure EventBroadcaster (Data : Type) where
  subscribers : Table String (List Nat)
  subscriptions : List (Subscription Data)
  publishing : List (Publishing Data)
  /-- A channel was closed again, or sent to when it was closed. -/
  panicked : Bool

/-- The capacity of a subscriber's channel. -/
def eventBuffer : Nat := 16

variable {Data : Type}

/-- `NewEventBroadcaster`. -/
def newEventBroadcaster : EventBroadcaster Data where
  subscribers := ∅
  subscriptions := []
  publishing := []
  panicked := false

/-- The time an event without one is published at. -/
def StreamEvent.stamped (event : StreamEvent Data) (now : Time) :
    StreamEvent Data :=
  if event.timestamp = zeroTime then { event with timestamp := now } else event

namespace EventBroadcaster

/-- `b.subscribers[appName]`, empty if there is none. -/
def listeners (broadcaster : EventBroadcaster Data) (appName : String) :
    List Nat :=
  (broadcaster.subscribers.lookup appName).getD []

/-- The channels of the first loop of `Publish`. -/
def appListeners (broadcaster : EventBroadcaster Data)
    (event : StreamEvent Data) : List Nat :=
  if event.appName ≠ "" then broadcaster.listeners event.appName else []

/-- `Subscribe`. -/
def subscribe (broadcaster : EventBroadcaster Data) (appName : String) :
    EventBroadcaster Data :=
  { broadcaster with
    subscribers :=
      broadcaster.subscribers.insert appName
        (broadcaster.listeners appName ++ [broadcaster.subscriptions.length])
    subscriptions :=
      broadcaster.subscriptions ++ [⟨appName, Channel.make eventBuffer⟩] }

/-- The deletions of a cancel function. -/
def forget (subscribers : Table String (List Nat)) (appName : String)
    (id : Nat) : Table String (List Nat) :=
  match subscribers.lookup appName with
  | none => subscribers
  | some ids =>
      if (ids.erase id).isEmpty then subscribers.erase appName
      else subscribers.insert appName (ids.erase id)

/-- The function which `Subscribe` returns. -/
def cancel (broadcaster : EventBroadcaster Data) (id : Nat) :
    Option (EventBroadcaster Data) :=
  broadcaster.subscriptions[id]?.map fun subscription =>
    let subscribers :=
      forget broadcaster.subscribers subscription.appName id
    match subscription.channel.close with
    | none =>
        { broadcaster with subscribers := subscribers, panicked := true }
    | some channel =>
        { broadcaster with
          subscribers := subscribers
          subscriptions :=
            broadcaster.subscriptions.set id
              { subscription with channel := channel } }

/-- `Publish` takes the lock and iterates over the two maps in some order. -/
def publish (broadcaster : EventBroadcaster Data) (event : StreamEvent Data)
    (now : Time) (appOrder fleetOrder : List Nat) :
    Option (EventBroadcaster Data) :=
  if appOrder.Perm (broadcaster.appListeners event) ∧
      fleetOrder.Perm (broadcaster.listeners "") then
    some
      { broadcaster with
        publishing :=
          broadcaster.publishing ++
            [⟨event.stamped now, appOrder ++ fleetOrder⟩] }
  else none

/-- The next `select` of a `Publish`: the event is dropped if the channel is full. -/
def offer (broadcaster : EventBroadcaster Data) (index : Nat) :
    Option (EventBroadcaster Data) :=
  match broadcaster.publishing[index]? with
  | some ⟨event, id :: rest⟩ =>
      broadcaster.subscriptions[id]?.map fun subscription =>
        match subscription.channel.send event with
        | .panics =>
            { broadcaster with
              publishing := broadcaster.publishing.eraseIdx index
              panicked := true }
        | .blocks =>
            { broadcaster with
              publishing :=
                broadcaster.publishing.set index ⟨event, rest⟩ }
        | .sent channel =>
            { broadcaster with
              publishing :=
                broadcaster.publishing.set index ⟨event, rest⟩
              subscriptions :=
                broadcaster.subscriptions.set id
                  { subscription with channel := channel } }
  | _ => none

/-- A `Publish` which has sent to all of its channels returns. -/
def release (broadcaster : EventBroadcaster Data) (index : Nat) :
    Option (EventBroadcaster Data) :=
  match broadcaster.publishing[index]? with
  | some ⟨_, []⟩ =>
      some
        { broadcaster with
          publishing := broadcaster.publishing.eraseIdx index }
  | _ => none

/-- A subscriber takes the next event from its channel. -/
def receive (broadcaster : EventBroadcaster Data) (id : Nat) :
    Option (EventBroadcaster Data) :=
  broadcaster.subscriptions[id]?.bind fun subscription =>
    subscription.channel.receive.map fun taken =>
      { broadcaster with
        subscriptions :=
          broadcaster.subscriptions.set id
            { subscription with channel := taken.2 } }

end EventBroadcaster

/-- One step of the goroutines which use a broadcaster. -/
inductive EventStep (Data : Type) where
  | subscribe (appName : String)
  | cancel (id : Nat)
  | publish (event : StreamEvent Data) (now : Time)
      (appOrder fleetOrder : List Nat)
  | offer (index : Nat)
  | release (index : Nat)
  | receive (id : Nat)

namespace EventBroadcaster

/-- Take a step; a writer waits for the readers. -/
def step (broadcaster : EventBroadcaster Data) :
    EventStep Data → Option (EventBroadcaster Data)
  | .subscribe appName =>
      if broadcaster.publishing.isEmpty then
        some (broadcaster.subscribe appName)
      else none
  | .cancel id =>
      if broadcaster.publishing.isEmpty then broadcaster.cancel id else none
  | .publish event now appOrder fleetOrder =>
      broadcaster.publish event now appOrder fleetOrder
  | .offer index => broadcaster.offer index
  | .release index => broadcaster.release index
  | .receive id => broadcaster.receive id

/-! ## What is seen of a step -/

/-- The subscriber listens to the events of an application. -/
def listens (broadcaster : EventBroadcaster Data) (id : Nat)
    (appName : String) : Bool :=
  match broadcaster.subscriptions[id]? with
  | none => false
  | some subscription =>
      !subscription.channel.closed &&
        (subscription.appName = "" || subscription.appName = appName)

/-- The events a subscriber has not taken yet. -/
def buffered (broadcaster : EventBroadcaster Data) (id : Nat) :
    List (StreamEvent Data) :=
  match broadcaster.subscriptions[id]? with
  | none => []
  | some subscription => subscription.channel.buffer

/-- The events which the calls of `Publish` under way have still to offer. -/
def pending (broadcaster : EventBroadcaster Data) (id : Nat) :
    List (StreamEvent Data) :=
  broadcaster.publishing.filterMap fun call =>
    if id ∈ call.remaining then some call.event else none

/-- The event is published while the subscriber listens to its application. -/
def due (id : Nat) (broadcaster : EventBroadcaster Data) :
    EventStep Data → Option (StreamEvent Data)
  | .publish event now _ _ =>
      if broadcaster.listens id event.appName then some (event.stamped now)
      else none
  | _ => none

/-- The event is offered to the subscriber. -/
def offered (id : Nat) (broadcaster : EventBroadcaster Data) :
    EventStep Data → Option (StreamEvent Data)
  | .offer index =>
      match broadcaster.publishing[index]? with
      | some ⟨event, target :: _⟩ => if target = id then some event else none
      | _ => none
  | _ => none

/-- The event is offered to the subscriber, whose channel has room. -/
def accepted (id : Nat) (broadcaster : EventBroadcaster Data)
    (step : EventStep Data) : Option (StreamEvent Data) :=
  if (broadcaster.buffered id).length < eventBuffer then
    offered id broadcaster step
  else none

/-- The event is taken by the subscriber. -/
def received (id : Nat) (broadcaster : EventBroadcaster Data) :
    EventStep Data → Option (StreamEvent Data)
  | .receive target =>
      if target = id then (broadcaster.buffered id).head? else none
  | _ => none

end EventBroadcaster

/-- The application a step subscribes to. -/
def EventStep.subscribes : EventStep Data → Option String
  | .subscribe appName => some appName
  | _ => none

/-- The subscription whose cancel function is called. -/
def EventStep.cancels : EventStep Data → Option Nat
  | .cancel id => some id
  | _ => none

/-- The applications subscribed to, by subscription. -/
def subscriptionNames (steps : List (EventStep Data)) : List String :=
  steps.filterMap EventStep.subscribes

/-- The subscriptions whose cancel functions were called, once for each call. -/
def cancellations (steps : List (EventStep Data)) : List Nat :=
  steps.filterMap EventStep.cancels

@[simp]
theorem subscriptionNames_append (steps : List (EventStep Data))
    (step : EventStep Data) :
    subscriptionNames (steps ++ [step]) =
      subscriptionNames steps ++ step.subscribes.toList := by
  cases step <;> simp [subscriptionNames, EventStep.subscribes]

@[simp]
theorem cancellations_append (steps : List (EventStep Data))
    (step : EventStep Data) :
    cancellations (steps ++ [step]) =
      cancellations steps ++ step.cancels.toList := by
  cases step <;> simp [cancellations, EventStep.cancels]

/-! ## The steps, as a relation -/

/-- What a step does, by what becomes of the channel it is about. -/
inductive Broadcasts (before : EventBroadcaster Data) :
    EventStep Data → EventBroadcaster Data → Prop where
  | subscribed (appName : String) (quiet : before.publishing = []) :
      Broadcasts before (.subscribe appName) (before.subscribe appName)
  | cancelled (id : Nat) (subscription : Subscription Data)
      (quiet : before.publishing = [])
      (present : before.subscriptions[id]? = some subscription)
      (isOpen : subscription.channel.closed = false) :
      Broadcasts before (.cancel id)
        { before with
          subscribers :=
            EventBroadcaster.forget before.subscribers
              subscription.appName id
          subscriptions :=
            before.subscriptions.set id
              { subscription with
                channel := { subscription.channel with closed := true } } }
  | cancelledAgain (id : Nat) (subscription : Subscription Data)
      (quiet : before.publishing = [])
      (present : before.subscriptions[id]? = some subscription)
      (isClosed : subscription.channel.closed = true) :
      Broadcasts before (.cancel id)
        { before with
          subscribers :=
            EventBroadcaster.forget before.subscribers
              subscription.appName id
          panicked := true }
  | published (event : StreamEvent Data) (now : Time)
      (appOrder fleetOrder : List Nat)
      (sameApp : appOrder.Perm (before.appListeners event))
      (sameFleet : fleetOrder.Perm (before.listeners "")) :
      Broadcasts before (.publish event now appOrder fleetOrder)
        { before with
          publishing :=
            before.publishing ++
              [⟨event.stamped now, appOrder ++ fleetOrder⟩] }
  | sent (front back : List (Publishing Data)) (event : StreamEvent Data)
      (id : Nat) (rest : List Nat) (subscription : Subscription Data)
      (calls : before.publishing = front ++ ⟨event, id :: rest⟩ :: back)
      (present : before.subscriptions[id]? = some subscription)
      (isOpen : subscription.channel.closed = false)
      (room : subscription.channel.buffer.length <
        subscription.channel.capacity) :
      Broadcasts before (.offer front.length)
        { before with
          publishing := front ++ ⟨event, rest⟩ :: back
          subscriptions :=
            before.subscriptions.set id
              { subscription with
                channel :=
                  { subscription.channel with
                    buffer := subscription.channel.buffer ++ [event] } } }
  | dropped (front back : List (Publishing Data)) (event : StreamEvent Data)
      (id : Nat) (rest : List Nat) (subscription : Subscription Data)
      (calls : before.publishing = front ++ ⟨event, id :: rest⟩ :: back)
      (present : before.subscriptions[id]? = some subscription)
      (isOpen : subscription.channel.closed = false)
      (full : subscription.channel.capacity ≤
        subscription.channel.buffer.length) :
      Broadcasts before (.offer front.length)
        { before with publishing := front ++ ⟨event, rest⟩ :: back }
  | failed (front back : List (Publishing Data)) (event : StreamEvent Data)
      (id : Nat) (rest : List Nat) (subscription : Subscription Data)
      (calls : before.publishing = front ++ ⟨event, id :: rest⟩ :: back)
      (present : before.subscriptions[id]? = some subscription)
      (isClosed : subscription.channel.closed = true) :
      Broadcasts before (.offer front.length)
        { before with publishing := front ++ back, panicked := true }
  | released (front back : List (Publishing Data)) (event : StreamEvent Data)
      (calls : before.publishing = front ++ ⟨event, []⟩ :: back) :
      Broadcasts before (.release front.length)
        { before with publishing := front ++ back }
  | received (id : Nat) (subscription : Subscription Data)
      (event : StreamEvent Data) (rest : List (StreamEvent Data))
      (present : before.subscriptions[id]? = some subscription)
      (waiting : subscription.channel.buffer = event :: rest) :
      Broadcasts before (.receive id)
        { before with
          subscriptions :=
            before.subscriptions.set id
              { subscription with
                channel := { subscription.channel with buffer := rest } } }

/-- The calls before and after the one at an index. -/
theorem exists_split {Value : Type} {values : List Value} {index : Nat}
    {value : Value} (present : values[index]? = some value) :
    ∃ front back, values = front ++ value :: back ∧ front.length = index := by
  obtain ⟨within, rfl⟩ := List.getElem?_eq_some_iff.mp present
  refine ⟨values.take index, values.drop (index + 1), ?_, ?_⟩
  · rw [← List.drop_eq_getElem_cons within, List.take_append_drop]
  · rw [List.length_take, Nat.min_eq_left (Nat.le_of_lt within)]

namespace EventBroadcaster

variable {before after : EventBroadcaster Data} {taken : EventStep Data}

theorem broadcasts_of_step (steps : before.step taken = some after) :
    Broadcasts before taken after := by
  cases taken with
  | subscribe appName =>
      simp only [step, List.isEmpty_iff] at steps
      split_ifs at steps with quiet
      cases steps
      exact .subscribed appName quiet
  | cancel id =>
      simp only [step, List.isEmpty_iff] at steps
      split_ifs at steps with quiet
      rcases Option.map_eq_some_iff.mp steps with ⟨subscription, present, rfl⟩
      rcases Bool.eq_false_or_eq_true subscription.channel.closed with
        isClosed | isOpen
      · rw [Channel.close, if_pos isClosed]
        exact .cancelledAgain id subscription quiet present isClosed
      · rw [Channel.close_of_open isOpen]
        exact .cancelled id subscription quiet present isOpen
  | publish event now appOrder fleetOrder =>
      simp only [step, publish] at steps
      split_ifs at steps with orders
      cases steps
      exact .published event now appOrder fleetOrder orders.1 orders.2
  | offer index =>
      simp only [step, offer] at steps
      split at steps
      · rename_i event id rest isNext
        obtain ⟨subscription, present, rfl⟩ := Option.map_eq_some_iff.mp steps
        obtain ⟨front, back, calls, rfl⟩ := exists_split isNext
        have erases : before.publishing.eraseIdx front.length =
            front ++ back := by
          rw [calls, List.eraseIdx_append_of_length_le (le_refl _),
            Nat.sub_self, List.eraseIdx_cons_zero]
        have sets : before.publishing.set front.length ⟨event, rest⟩ =
            front ++ ⟨event, rest⟩ :: back := by
          rw [calls, List.set_append_right _ _ (le_refl _), Nat.sub_self,
            List.set_cons_zero]
        rcases Bool.eq_false_or_eq_true subscription.channel.closed with
          isClosed | isOpen
        · rw [Channel.send, if_pos isClosed, erases]
          exact .failed front back event id rest subscription calls present
            isClosed
        rcases Nat.lt_or_ge subscription.channel.buffer.length
          subscription.channel.capacity with room | full
        · rw [Channel.send_of_room isOpen room, sets]
          exact .sent front back event id rest subscription calls present
            isOpen room
        · rw [Channel.send, if_neg (by simp [isOpen]),
            if_neg (Nat.not_lt_of_le full), sets]
          exact .dropped front back event id rest subscription calls present
            isOpen full
      · cases steps
  | release index =>
      simp only [step, release] at steps
      split at steps
      · rename_i event isNext
        obtain ⟨front, back, calls, rfl⟩ := exists_split isNext
        cases steps
        have erases : before.publishing.eraseIdx front.length =
            front ++ back := by
          rw [calls, List.eraseIdx_append_of_length_le (le_refl _),
            Nat.sub_self, List.eraseIdx_cons_zero]
        rw [erases]
        exact .released front back event calls
      · cases steps
  | receive id =>
      simp only [step, receive] at steps
      obtain ⟨subscription, present, steps⟩ :=
        Option.bind_eq_some_iff.mp steps
      obtain ⟨⟨event, rest⟩, takes, rfl⟩ := Option.map_eq_some_iff.mp steps
      obtain ⟨waiting, sameCapacity, sameClosed⟩ :=
        Channel.receive_eq_some.mp takes
      obtain ⟨capacity, buffer, isClosed⟩ := rest
      dsimp only at sameCapacity sameClosed
      subst sameCapacity sameClosed
      exact .received id subscription event buffer present waiting

end EventBroadcaster

/-! ## The table and the channels -/

/-- What is found after a replacement of what was found. -/
theorem getElem?_set_of_found {Value : Type} {values : List Value} {id : Nat}
    {old : Value} (present : values[id]? = some old) (new : Value)
    (other : Nat) :
    (values.set id new)[other]? =
      if other = id then some new else values[other]? := by
  by_cases same : other = id
  · rw [if_pos same, same,
      List.getElem?_set_self (List.getElem?_eq_some_iff.mp present).1]
  · rw [if_neg same, List.getElem?_set_ne (Ne.symm same)]

/-- What is found after an addition at the end. -/
theorem getElem?_append_singleton {Value : Type} (values : List Value)
    (new : Value) (other : Nat) :
    (values ++ [new])[other]? =
      if other = values.length then some new else values[other]? := by
  split_ifs with same
  · rw [same, List.getElem?_concat_length]
  · rcases Nat.lt_or_gt_of_ne same with before | after
    · exact List.getElem?_append_left before
    · rw [List.getElem?_eq_none (by simp; omega),
        List.getElem?_eq_none (by omega)]

namespace EventBroadcaster

/-- A subscription which is open. -/
def IsOpen (broadcaster : EventBroadcaster Data) (id : Nat)
    (appName : String) : Prop :=
  ∃ subscription ∈ broadcaster.subscriptions[id]?,
    subscription.appName = appName ∧ subscription.channel.closed = false

/-- The table holds the open subscriptions, and so do the calls under way. -/
structure Consistent (broadcaster : EventBroadcaster Data) : Prop where
  listed : ∀ appName id,
    id ∈ broadcaster.listeners appName ↔ broadcaster.IsOpen id appName
  distinct : ∀ appName, (broadcaster.listeners appName).Nodup
  inhabited : ∀ appName ids,
    broadcaster.subscribers.lookup appName = some ids → ids ≠ []
  reading : ∀ call ∈ broadcaster.publishing,
    call.remaining.Nodup ∧
      ∀ id ∈ call.remaining, ∃ appName, broadcaster.IsOpen id appName
  bounded : ∀ subscription ∈ broadcaster.subscriptions,
    subscription.channel.capacity = eventBuffer ∧
      subscription.channel.buffer.length ≤ eventBuffer

theorem consistent_new :
    (newEventBroadcaster : EventBroadcaster Data).Consistent where
  listed := by
    intro appName id
    simp [newEventBroadcaster, listeners, IsOpen]
  distinct := by
    intro appName
    simp [newEventBroadcaster, listeners]
  inhabited := by
    intro appName ids found
    simp [newEventBroadcaster] at found
  reading := by simp [newEventBroadcaster]
  bounded := by simp [newEventBroadcaster]

theorem getD_lookup_forget (subscribers : Table String (List Nat))
    (appName other : String) (id : Nat) :
    ((forget subscribers appName id).lookup other).getD [] =
      if other = appName then
        ((subscribers.lookup appName).getD []).erase id
      else (subscribers.lookup other).getD [] := by
  unfold forget
  cases found : subscribers.lookup appName with
  | none =>
      split_ifs with same
      · rw [same, found]
        rfl
      · rfl
  | some ids =>
      dsimp only
      split_ifs with isLast same same
      · rw [same, lookup_erase_eq, if_pos rfl, Option.getD_some,
          List.isEmpty_iff.mp isLast]
        rfl
      · rw [lookup_erase_eq, if_neg same]
      · rw [same, lookup_insert_eq, if_pos rfl]
        rfl
      · rw [lookup_insert_eq, if_neg same]

variable {before after : EventBroadcaster Data} {taken : EventStep Data}

/-- A change of the channel which leaves it open or closed. -/
theorem isOpen_set {id : Nat} {subscription : Subscription Data}
    {channel : Channel (StreamEvent Data)}
    (present : before.subscriptions[id]? = some subscription)
    (sameClosed : channel.closed = subscription.channel.closed)
    {publishing : List (Publishing Data)} (other : Nat) (appName : String) :
    IsOpen { before with
        publishing := publishing
        subscriptions :=
          before.subscriptions.set id
            { subscription with channel := channel } } other appName ↔
      before.IsOpen other appName := by
  unfold IsOpen
  rw [getElem?_set_of_found present]
  split_ifs with same
  · rw [same, present]
    simp [sameClosed]
  · rfl

/-- The bound of the channels after one of them has changed. -/
theorem bounded_set {id : Nat} {subscription new : Subscription Data}
    (bounded : ∀ subscription ∈ before.subscriptions,
      subscription.channel.capacity = eventBuffer ∧
        subscription.channel.buffer.length ≤ eventBuffer)
    (present : before.subscriptions[id]? = some subscription)
    (sameCapacity : new.channel.capacity = subscription.channel.capacity)
    (fits : new.channel.buffer.length ≤ subscription.channel.capacity) :
    ∀ subscription ∈ before.subscriptions.set id new,
      subscription.channel.capacity = eventBuffer ∧
        subscription.channel.buffer.length ≤ eventBuffer := by
  have old := bounded subscription (List.mem_of_getElem? present)
  intro other member
  rcases List.mem_or_eq_of_mem_set member with kept | rfl
  · exact bounded other kept
  · rw [sameCapacity, old.1]
    rw [old.1] at fits
    exact ⟨rfl, fits⟩

theorem Consistent.subscribe (consistent : before.Consistent)
    (quiet : before.publishing = []) (appName : String) :
    (before.subscribe appName).Consistent where
  listed := by
    intro other id
    have listed := consistent.listed other id
    have fresh : ¬ before.IsOpen before.subscriptions.length other := by
      rintro ⟨subscription, found, -⟩
      rw [List.getElem?_eq_none (le_refl _)] at found
      cases found
    unfold IsOpen at listed fresh ⊢
    simp only [EventBroadcaster.subscribe, listeners, lookup_insert_eq,
      getElem?_append_singleton]
    by_cases isNew : id = before.subscriptions.length
    · rw [← isNew] at fresh
      rw [if_pos isNew]
      by_cases same : other = appName
      · simp [same, isNew, Channel.make]
      · have notListed : id ∉ before.listeners other :=
          fun member => fresh (listed.mp member)
        simp only [if_neg same]
        constructor
        · exact fun member => absurd member notListed
        · rintro ⟨subscription, found, sameName, -⟩
          cases found
          exact absurd sameName.symm same
    · rw [if_neg isNew, ← listed]
      split_ifs with same
      · rw [same, Option.getD_some, List.mem_append, List.mem_singleton]
        exact or_iff_left isNew
      · rfl
  distinct := by
    intro other
    have fresh : before.subscriptions.length ∉ before.listeners appName := by
      intro member
      rcases (consistent.listed _ _).mp member with ⟨subscription, found, -⟩
      rw [List.getElem?_eq_none (le_refl _)] at found
      cases found
    simp only [EventBroadcaster.subscribe, listeners, lookup_insert_eq]
    split_ifs with same
    · rw [Option.getD_some]
      exact List.Nodup.append (consistent.distinct appName)
        (List.nodup_singleton _) (List.disjoint_singleton.mpr fresh)
    · exact consistent.distinct other
  inhabited := by
    intro other ids found
    rcases lookup_insert_cases rfl found with ⟨-, rfl⟩ | ⟨-, old⟩
    · simp
    · exact consistent.inhabited other ids old
  reading := by
    intro call member
    rw [show (before.subscribe appName).publishing = [] from quiet] at member
    cases member
  bounded := by
    intro subscription member
    rcases List.mem_append.mp member with old | new
    · exact consistent.bounded subscription old
    · rw [List.mem_singleton.mp new]
      exact ⟨rfl, Nat.zero_le _⟩

/-- The table after the deletions of a cancel function. -/
theorem inhabited_forget {subscribers : Table String (List Nat)}
    (inhabited : ∀ appName ids,
      subscribers.lookup appName = some ids → ids ≠ [])
    (appName : String) (id : Nat) :
    ∀ other ids, (forget subscribers appName id).lookup other = some ids →
      ids ≠ [] := by
  intro other ids found
  unfold forget at found
  split at found
  · exact inhabited other ids found
  · split_ifs at found with isLast
    · rw [lookup_erase_eq] at found
      split_ifs at found
      exact inhabited other ids found
    · rcases lookup_insert_cases rfl found with ⟨-, rfl⟩ | ⟨-, old⟩
      · exact fun isEmpty => isLast (List.isEmpty_iff.mpr isEmpty)
      · exact inhabited other ids old

theorem Consistent.cancelled (consistent : before.Consistent) {id : Nat}
    {subscription : Subscription Data} (quiet : before.publishing = [])
    (present : before.subscriptions[id]? = some subscription) :
    Consistent { before with
      subscribers :=
        forget before.subscribers subscription.appName id
      subscriptions :=
        before.subscriptions.set id
          { subscription with
            channel := { subscription.channel with closed := true } } } where
  listed := by
    intro other target
    have listed := consistent.listed other target
    unfold IsOpen at listed ⊢
    simp only [listeners, getD_lookup_forget, getElem?_set_of_found present]
    by_cases same : target = id
    · rw [if_pos same]
      have gone : target ∉ (before.listeners subscription.appName).erase id := by
        rw [same]
        exact (consistent.distinct _).not_mem_erase
      split_ifs with sameName
      · refine iff_of_false gone ?_
        simp
      · have notListed : target ∉ before.listeners other := by
          intro member
          rcases listed.mp member with ⟨found, isFound, isName, -⟩
          rw [same, present] at isFound
          cases isFound
          exact sameName isName.symm
        refine iff_of_false notListed ?_
        simp
    · rw [if_neg same, ← listed]
      split_ifs with sameName
      · rw [sameName]
        exact List.mem_erase_of_ne same
      · rfl
  distinct := by
    intro other
    simp only [listeners, getD_lookup_forget]
    split_ifs with sameName
    · exact (consistent.distinct _).erase id
    · exact consistent.distinct other
  inhabited :=
    inhabited_forget consistent.inhabited subscription.appName id
  reading := by
    intro call member
    rw [show before.publishing = [] from quiet] at member
    cases member
  bounded :=
    bounded_set consistent.bounded present rfl
      (by rw [(consistent.bounded _ (List.mem_of_getElem? present)).1]
          exact (consistent.bounded _ (List.mem_of_getElem? present)).2)

/-- A second cancellation finds nothing to delete. -/
theorem Consistent.cancelledAgain (consistent : before.Consistent) {id : Nat}
    {subscription : Subscription Data} (quiet : before.publishing = [])
    (present : before.subscriptions[id]? = some subscription)
    (isClosed : subscription.channel.closed = true) :
    Consistent { before with
      subscribers :=
        forget before.subscribers subscription.appName id
      panicked := true } := by
  have notListed : id ∉ before.listeners subscription.appName := by
    intro member
    rcases (consistent.listed _ _).mp member with ⟨found, isFound, -, isOpen⟩
    rw [present] at isFound
    cases isFound
    rw [isClosed] at isOpen
    cases isOpen
  have same : ∀ other,
      ((forget before.subscribers subscription.appName id).lookup
        other).getD [] = before.listeners other := by
    intro other
    rw [getD_lookup_forget]
    split_ifs with sameName
    · rw [sameName]
      exact List.erase_of_not_mem notListed
    · rfl
  refine ⟨?_, ?_, ?_, ?_, consistent.bounded⟩
  · intro other target
    rw [listeners, same]
    exact consistent.listed other target
  · intro other
    rw [listeners, same]
    exact consistent.distinct other
  · exact inhabited_forget consistent.inhabited subscription.appName id
  · intro call member
    rw [show before.publishing = [] from quiet] at member
    cases member

/-- Nothing changes but the calls under way and what the channels hold. -/
theorem Consistent.of_same (consistent : before.Consistent)
    (sameTable : after.subscribers = before.subscribers)
    (sameOpen : ∀ id appName,
      after.IsOpen id appName ↔ before.IsOpen id appName)
    (reading : ∀ call ∈ after.publishing,
      call.remaining.Nodup ∧
        ∀ id ∈ call.remaining, ∃ appName, before.IsOpen id appName)
    (bounded : ∀ subscription ∈ after.subscriptions,
      subscription.channel.capacity = eventBuffer ∧
        subscription.channel.buffer.length ≤ eventBuffer) :
    after.Consistent where
  listed := by
    intro appName id
    rw [sameOpen, ← consistent.listed, listeners, listeners, sameTable]
  distinct := by
    intro appName
    rw [listeners, sameTable]
    exact consistent.distinct appName
  inhabited := by
    rw [sameTable]
    exact consistent.inhabited
  reading := by
    intro call member
    refine ⟨(reading call member).1, ?_⟩
    intro id isNext
    rcases (reading call member).2 id isNext with ⟨appName, isOpen⟩
    exact ⟨appName, (sameOpen id appName).mpr isOpen⟩
  bounded := bounded

/-- The channels of the two loops of `Publish`. -/
theorem Consistent.mem_orders (consistent : before.Consistent)
    {event : StreamEvent Data} {appOrder fleetOrder : List Nat}
    (sameApp : appOrder.Perm (before.appListeners event))
    (sameFleet : fleetOrder.Perm (before.listeners "")) (id : Nat) :
    id ∈ appOrder ++ fleetOrder ↔
      before.listens id event.appName = true := by
  rw [List.mem_append, sameApp.mem_iff, sameFleet.mem_iff, consistent.listed,
    appListeners, listens]
  unfold IsOpen
  split_ifs with isNamed
  · rw [consistent.listed]
    unfold IsOpen
    cases before.subscriptions[id]? with
    | none => simp
    | some subscription =>
        simp
        grind
  · cases before.subscriptions[id]? with
    | none => simp
    | some subscription =>
        simp only [not_not] at isNamed
        simp [isNamed, and_comm]

theorem Consistent.nodup_orders (consistent : before.Consistent)
    {event : StreamEvent Data} {appOrder fleetOrder : List Nat}
    (sameApp : appOrder.Perm (before.appListeners event))
    (sameFleet : fleetOrder.Perm (before.listeners "")) :
    (appOrder ++ fleetOrder).Nodup := by
  rw [(sameApp.append sameFleet).nodup_iff, appListeners]
  split_ifs with isNamed
  · refine List.Nodup.append (consistent.distinct _)
      (consistent.distinct _) ?_
    intro id inApp inFleet
    rcases (consistent.listed _ _).mp inApp with ⟨first, found, isApp, -⟩
    rcases (consistent.listed _ _).mp inFleet with ⟨other, same, isFleet, -⟩
    rw [found] at same
    cases same
    exact isNamed (isApp.symm.trans isFleet)
  · exact consistent.distinct ""

theorem Consistent.isOpen_of_listens {id : Nat} {appName : String}
    (hears : before.listens id appName = true) :
    ∃ name, before.IsOpen id name := by
  unfold listens at hears
  split at hears
  · cases hears
  · rename_i subscription found
    rw [Bool.and_eq_true, Bool.not_eq_true'] at hears
    exact ⟨_, subscription, found, rfl, hears.1⟩

/-- The calls under way after one of them is gone. -/
theorem reading_drop (consistent : before.Consistent)
    {front back : List (Publishing Data)} {call : Publishing Data}
    (calls : before.publishing = front ++ call :: back) :
    ∀ other ∈ front ++ back, other.remaining.Nodup ∧
      ∀ id ∈ other.remaining, ∃ appName, before.IsOpen id appName := by
  intro other member
  apply consistent.reading other
  rw [calls]
  rcases List.mem_append.mp member with isFront | isBack
  · exact List.mem_append_left _ isFront
  · exact List.mem_append_right _ (List.mem_cons_of_mem _ isBack)

/-- The calls under way after one of them has gone on. -/
theorem reading_rest (consistent : before.Consistent)
    {front back : List (Publishing Data)} {event : StreamEvent Data}
    {id : Nat} {rest : List Nat}
    (calls : before.publishing = front ++ ⟨event, id :: rest⟩ :: back) :
    ∀ other ∈ front ++ ⟨event, rest⟩ :: back, other.remaining.Nodup ∧
      ∀ id ∈ other.remaining, ∃ appName, before.IsOpen id appName := by
  intro other member
  rcases List.mem_append.mp member with isFront | isRest
  · exact reading_drop consistent calls other (List.mem_append_left _ isFront)
  rcases List.mem_cons.mp isRest with rfl | isBack
  · have whole := consistent.reading ⟨event, id :: rest⟩
      (by rw [calls]; exact List.mem_append_right _ List.mem_cons_self)
    exact ⟨(List.nodup_cons.mp whole.1).2,
      fun next isNext => whole.2 next (List.mem_cons_of_mem _ isNext)⟩
  · exact reading_drop consistent calls other (List.mem_append_right _ isBack)

theorem Consistent.step (consistent : before.Consistent)
    (broadcasts : Broadcasts before taken after) : after.Consistent := by
  cases broadcasts with
  | subscribed appName quiet => exact consistent.subscribe quiet appName
  | cancelled id subscription quiet present isOpen =>
      exact consistent.cancelled quiet present
  | cancelledAgain id subscription quiet present isClosed =>
      exact consistent.cancelledAgain quiet present isClosed
  | published event now appOrder fleetOrder sameApp sameFleet =>
      refine consistent.of_same rfl (fun _ _ => Iff.rfl) ?_
        consistent.bounded
      intro call member
      rcases List.mem_append.mp member with old | new
      · exact consistent.reading call old
      · rw [List.mem_singleton.mp new]
        refine ⟨consistent.nodup_orders sameApp sameFleet, ?_⟩
        intro id isNext
        exact Consistent.isOpen_of_listens
          ((consistent.mem_orders sameApp sameFleet id).mp isNext)
  | sent front back event id rest subscription calls present isOpen room =>
      refine consistent.of_same rfl (isOpen_set present (by rfl)) ?_
        (bounded_set consistent.bounded present rfl ?_)
      · exact reading_rest consistent calls
      · rw [List.length_append, List.length_singleton]
        exact room
  | dropped front back event id rest subscription calls present isOpen full =>
      exact consistent.of_same rfl (fun _ _ => Iff.rfl)
        (reading_rest consistent calls) consistent.bounded
  | failed front back event id rest subscription calls present isClosed =>
      exact consistent.of_same rfl (fun _ _ => Iff.rfl)
        (reading_drop consistent calls) consistent.bounded
  | released front back event calls =>
      exact consistent.of_same rfl (fun _ _ => Iff.rfl)
        (reading_drop consistent calls) consistent.bounded
  | received id subscription event rest present waiting =>
      refine consistent.of_same rfl (isOpen_set present (by rfl))
        consistent.reading (bounded_set consistent.bounded present rfl ?_)
      have bounded :=
        consistent.bounded _ (List.mem_of_getElem? present)
      rw [waiting, List.length_cons] at bounded
      dsimp only
      omega

/-! ## Subscriptions and cancellations -/

/-- The channels are those subscribed to, closed as far as they were cancelled. -/
structure Recorded (steps : List (EventStep Data))
    (broadcaster : EventBroadcaster Data) : Prop where
  consistent : broadcaster.Consistent
  names : broadcaster.subscriptions.map Subscription.appName =
    subscriptionNames steps
  closed : ∀ id subscription,
    broadcaster.subscriptions[id]? = some subscription →
      (subscription.channel.closed = true ↔ id ∈ cancellations steps)
  known : ∀ id ∈ cancellations steps, id < broadcaster.subscriptions.length
  panics : broadcaster.panicked = true ↔ ¬ (cancellations steps).Nodup

/-- The channels keep their names and whether they are closed. -/
theorem Recorded.of_same {steps : List (EventStep Data)}
    (recorded : Recorded steps before) (consistent : after.Consistent)
    (noSubscribe : taken.subscribes = none) (noCancel : taken.cancels = none)
    (sameNames : after.subscriptions.map Subscription.appName =
      before.subscriptions.map Subscription.appName)
    (sameClosed : ∀ (id : Nat) (subscription : Subscription Data),
      after.subscriptions[id]? = some subscription →
        ∃ old, before.subscriptions[id]? = some old ∧
          subscription.channel.closed = old.channel.closed)
    (samePanicked : after.panicked = before.panicked) :
    Recorded (steps ++ [taken]) after := by
  have sameCancels : cancellations (steps ++ [taken]) = cancellations steps := by
    simp [noCancel]
  refine ⟨consistent, ?_, ?_, ?_, ?_⟩
  · rw [sameNames, recorded.names, subscriptionNames_append, noSubscribe]
    exact (List.append_nil _).symm
  · intro id subscription found
    rcases sameClosed id subscription found with ⟨old, isOld, same⟩
    rw [sameCancels, same]
    exact recorded.closed id old isOld
  · have sameLength : after.subscriptions.length =
        before.subscriptions.length := by
      simpa using congrArg List.length sameNames
    rw [sameCancels, sameLength]
    exact recorded.known
  · rw [sameCancels, samePanicked]
    exact recorded.panics

/-- A change of the contents of one channel. -/
theorem sameClosed_set {id : Nat} {subscription new : Subscription Data}
    (present : before.subscriptions[id]? = some subscription)
    (same : new.channel.closed = subscription.channel.closed)
    (other : Nat) (found : Subscription Data)
    (isFound : (before.subscriptions.set id new)[other]? = some found) :
    ∃ old, before.subscriptions[other]? = some old ∧
      found.channel.closed = old.channel.closed := by
  rw [getElem?_set_of_found present] at isFound
  split_ifs at isFound with isId
  · cases isFound
    exact ⟨subscription, isId ▸ present, same⟩
  · exact ⟨found, isFound, rfl⟩

theorem map_appName_set {id : Nat} {subscription new : Subscription Data}
    (present : before.subscriptions[id]? = some subscription)
    (same : new.appName = subscription.appName) :
    (before.subscriptions.set id new).map Subscription.appName =
      before.subscriptions.map Subscription.appName := by
  have mapped : (before.subscriptions.map Subscription.appName)[id]? =
      some subscription.appName := by
    rw [List.getElem?_map, present, Option.map_some]
  rw [List.map_set, same]
  apply List.ext_getElem?
  intro other
  rw [getElem?_set_of_found mapped]
  split_ifs with isId
  · rw [isId, mapped]
  · rfl

theorem Recorded.subscribed {steps : List (EventStep Data)}
    (recorded : Recorded steps before) (quiet : before.publishing = [])
    (appName : String) :
    Recorded (steps ++ [.subscribe appName]) (before.subscribe appName) := by
  have sameCancels : cancellations (steps ++ [.subscribe appName]) =
      cancellations steps :=
    (cancellations_append steps _).trans (List.append_nil _)
  refine ⟨recorded.consistent.subscribe quiet appName, ?_, ?_, ?_, ?_⟩
  · simp [EventBroadcaster.subscribe, recorded.names, EventStep.subscribes]
  · intro id subscription found
    rw [EventBroadcaster.subscribe, getElem?_append_singleton] at found
    rw [sameCancels]
    split_ifs at found with isNew
    · cases found
      refine iff_of_false (by simp [Channel.make]) ?_
      intro isCancelled
      exact absurd (recorded.known id isCancelled) (by omega)
    · exact recorded.closed id subscription found
  · intro id isCancelled
    rw [sameCancels] at isCancelled
    have known := recorded.known id isCancelled
    simp only [EventBroadcaster.subscribe, List.length_append]
    omega
  · rw [sameCancels]
    exact recorded.panics

theorem Recorded.cancelled {steps : List (EventStep Data)}
    (recorded : Recorded steps before) {id : Nat}
    {subscription : Subscription Data} (quiet : before.publishing = [])
    (present : before.subscriptions[id]? = some subscription)
    (isOpen : subscription.channel.closed = false) :
    Recorded (steps ++ [.cancel id])
      { before with
        subscribers :=
          forget before.subscribers subscription.appName id
        subscriptions :=
          before.subscriptions.set id
            { subscription with
              channel := { subscription.channel with closed := true } } } := by
  have fresh : id ∉ cancellations steps := by
    intro isCancelled
    rw [← recorded.closed id subscription present, isOpen] at isCancelled
    cases isCancelled
  have more : cancellations (steps ++ [EventStep.cancel id]) =
      cancellations steps ++ [id] :=
    cancellations_append steps _
  refine ⟨recorded.consistent.cancelled quiet present, ?_, ?_, ?_, ?_⟩
  · rw [subscriptionNames_append, ← recorded.names]
    exact (map_appName_set present (by rfl)).trans (List.append_nil _).symm
  · intro other found isFound
    rw [more, List.mem_append, List.mem_singleton]
    rw [getElem?_set_of_found present] at isFound
    split_ifs at isFound with same
    · cases isFound
      exact iff_of_true rfl (Or.inr same)
    · rw [recorded.closed other found isFound]
      exact (or_iff_left same).symm
  · intro other isCancelled
    rw [more, List.mem_append, List.mem_singleton] at isCancelled
    rw [List.length_set]
    rcases isCancelled with old | rfl
    · exact recorded.known other old
    · exact (List.getElem?_eq_some_iff.mp present).1
  · have nodup : (cancellations steps ++ [id]).Nodup ↔
        (cancellations steps).Nodup := by
      rw [List.nodup_append_comm, List.singleton_append, List.nodup_cons]
      exact and_iff_right fresh
    rw [more, nodup]
    exact recorded.panics

theorem Recorded.cancelledAgain {steps : List (EventStep Data)}
    (recorded : Recorded steps before) {id : Nat}
    {subscription : Subscription Data} (quiet : before.publishing = [])
    (present : before.subscriptions[id]? = some subscription)
    (isClosed : subscription.channel.closed = true) :
    Recorded (steps ++ [.cancel id])
      { before with
        subscribers :=
          forget before.subscribers subscription.appName id
        panicked := true } := by
  have already : id ∈ cancellations steps :=
    (recorded.closed id subscription present).mp isClosed
  have more : cancellations (steps ++ [EventStep.cancel id]) =
      cancellations steps ++ [id] :=
    cancellations_append steps _
  have sameMembers : ∀ other,
      other ∈ cancellations steps ++ [id] ↔ other ∈ cancellations steps := by
    intro other
    rw [List.mem_append, List.mem_singleton]
    exact or_iff_left_of_imp fun same => same ▸ already
  refine ⟨recorded.consistent.cancelledAgain quiet present isClosed, ?_, ?_,
    ?_, ?_⟩
  · rw [subscriptionNames_append, ← recorded.names]
    exact (List.append_nil _).symm
  · intro other found isFound
    rw [more, sameMembers]
    exact recorded.closed other found isFound
  · intro other isCancelled
    rw [more, sameMembers] at isCancelled
    exact recorded.known other isCancelled
  · rw [more]
    refine iff_of_true rfl ?_
    intro nodup
    exact (List.disjoint_of_nodup_append nodup) already
      (List.mem_singleton_self id)

theorem Recorded.step {steps : List (EventStep Data)}
    (recorded : Recorded steps before)
    (broadcasts : Broadcasts before taken after) :
    Recorded (steps ++ [taken]) after := by
  have consistent := recorded.consistent.step broadcasts
  cases broadcasts with
  | subscribed appName quiet => exact recorded.subscribed quiet appName
  | cancelled id subscription quiet present isOpen =>
      exact recorded.cancelled quiet present isOpen
  | cancelledAgain id subscription quiet present isClosed =>
      exact recorded.cancelledAgain quiet present isClosed
  | published event now appOrder fleetOrder sameApp sameFleet =>
      exact recorded.of_same consistent rfl rfl rfl
        (fun id subscription found => ⟨subscription, found, rfl⟩) rfl
  | sent front back event id rest subscription calls present isOpen room =>
      exact recorded.of_same consistent rfl rfl
        (map_appName_set present rfl) (sameClosed_set present rfl) rfl
  | dropped front back event id rest subscription calls present isOpen full =>
      exact recorded.of_same consistent rfl rfl rfl
        (fun id subscription found => ⟨subscription, found, rfl⟩) rfl
  | failed front back event id rest subscription calls present isClosed =>
      -- The lock keeps the channels of a call under way open.
      rcases (recorded.consistent.reading ⟨event, id :: rest⟩
        (by simp [calls])).2 id List.mem_cons_self with
        ⟨appName, found, isFound, -, isOpen⟩
      rw [present] at isFound
      cases isFound
      rw [isClosed] at isOpen
      cases isOpen
  | released front back event calls =>
      exact recorded.of_same consistent rfl rfl rfl
        (fun id subscription found => ⟨subscription, found, rfl⟩) rfl
  | received id subscription event rest present waiting =>
      exact recorded.of_same consistent rfl rfl
        (map_appName_set present rfl) (sameClosed_set present rfl) rfl

theorem recorded_of_run {steps : List (EventStep Data)}
    (reaches : run EventBroadcaster.step newEventBroadcaster steps =
      some after) : Recorded steps after := by
  refine run_history Recorded
    (fun _ taken recorded => recorded.step (broadcasts_of_step taken))
    reaches ?_
  refine ⟨consistent_new, rfl, ?_, ?_, ?_⟩ <;>
    simp [newEventBroadcaster, cancellations]

theorem Recorded.isOpen_iff {steps : List (EventStep Data)}
    (recorded : Recorded steps before) (id : Nat) (appName : String) :
    before.IsOpen id appName ↔
      (subscriptionNames steps)[id]? = some appName ∧
        id ∉ cancellations steps := by
  rw [← recorded.names, List.getElem?_map, Option.map_eq_some_iff]
  constructor
  · rintro ⟨subscription, found, sameName, isOpen⟩
    refine ⟨⟨subscription, found, sameName⟩, ?_⟩
    rw [← recorded.closed id subscription found, isOpen]
    exact Bool.false_ne_true
  · rintro ⟨⟨subscription, found, sameName⟩, notCancelled⟩
    refine ⟨subscription, found, sameName, ?_⟩
    rw [← recorded.closed id subscription found] at notCancelled
    exact Bool.eq_false_iff.mpr notCancelled

/--
After every interleaving of subscriptions, cancellations, publications and
receptions the table holds, under each name, exactly the subscriptions of that name
which were not cancelled, and no name without one.
-/
theorem listeners_exact (steps : List (EventStep Data))
    (reached : EventBroadcaster Data)
    (reaches : run EventBroadcaster.step newEventBroadcaster steps =
      some reached) :
    (∀ appName id, id ∈ reached.listeners appName ↔
      (subscriptionNames steps)[id]? = some appName ∧
        id ∉ cancellations steps) ∧
    ∀ appName, (reached.subscribers.lookup appName).isSome = true ↔
      ∃ id, (subscriptionNames steps)[id]? = some appName ∧
        id ∉ cancellations steps := by
  have recorded := recorded_of_run reaches
  have members : ∀ appName id, id ∈ reached.listeners appName ↔
      (subscriptionNames steps)[id]? = some appName ∧
        id ∉ cancellations steps := by
    intro appName id
    rw [recorded.consistent.listed, recorded.isOpen_iff]
  refine ⟨members, ?_⟩
  intro appName
  simp only [← members, listeners]
  cases found : reached.subscribers.lookup appName with
  | none => simp
  | some ids =>
      have inhabited := recorded.consistent.inhabited appName ids found
      simpa using List.exists_mem_of_ne_nil ids inhabited

/--
In every interleaving a channel is closed twice, or sent to when it is closed, only
if some cancel function is called twice.
-/
theorem panicked_iff_cancelled_twice (steps : List (EventStep Data))
    (reached : EventBroadcaster Data)
    (reaches : run EventBroadcaster.step newEventBroadcaster steps =
      some reached) :
    reached.panicked = true ↔ ¬ (cancellations steps).Nodup :=
  (recorded_of_run reaches).panics

/-- An event of an application. -/
def eventOf (appName : String) : StreamEvent Unit :=
  ⟨"workflow_update", appName, (), zeroTime⟩

/--
A subscriber of one application and one of all of them; the first one leaves before
an event of another application is published.
-/
def dashboards : List (EventStep Unit) :=
  [.subscribe "payments", .subscribe "",
    .publish (eventOf "payments") 5 [0] [1], .offer 0, .offer 0, .release 0,
    .receive 0, .cancel 0,
    .publish (eventOf "orders") 6 [] [1], .offer 0, .release 0, .receive 1]

theorem exists_dashboards :
    ∃ reached, run EventBroadcaster.step newEventBroadcaster dashboards =
      some reached :=
  Option.isSome_iff_exists.mp (by decide)

/-- The subscriber which has left is not listed any more. -/
theorem listeners_exact_dashboards :
    ∃ reached, run EventBroadcaster.step newEventBroadcaster dashboards =
        some reached ∧
      (reached.subscribers.lookup "payments").isSome = false ∧
      1 ∈ reached.listeners "" := by
  rcases exists_dashboards with ⟨reached, reaches⟩
  have table := listeners_exact dashboards reached reaches
  have names : subscriptionNames dashboards = ["payments", ""] := rfl
  rw [names] at table
  refine ⟨reached, reaches, ?_, (table.1 "" 1).mpr (by decide)⟩
  rw [Bool.eq_false_iff, Ne, table.2 "payments"]
  rintro ⟨id, named, notCancelled⟩
  rcases id with _ | _ | later
  · exact notCancelled (by decide)
  · exact absurd named (by decide)
  · simp at named

/-- The cancel function of the subscriber which has left is called again. -/
theorem panicked_iff_cancelled_twice_dashboards :
    ∃ reached, run EventBroadcaster.step newEventBroadcaster
        (dashboards ++ [.cancel 0]) = some reached ∧
      reached.panicked = true := by
  have ran : (run EventBroadcaster.step newEventBroadcaster
      (dashboards ++ [.cancel 0])).isSome := by
    decide
  rcases Option.isSome_iff_exists.mp ran with ⟨reached, reaches⟩
  exact ⟨reached, reaches,
    (panicked_iff_cancelled_twice _ reached reaches).mpr (by decide)⟩

/-! ## Delivery -/

theorem buffered_set {id : Nat} {subscription new : Subscription Data}
    {publishing : List (Publishing Data)}
    (present : before.subscriptions[id]? = some subscription) (other : Nat) :
    buffered { before with
        publishing := publishing
        subscriptions := before.subscriptions.set id new } other =
      if other = id then new.channel.buffer else before.buffered other := by
  unfold buffered
  rw [getElem?_set_of_found present]
  split_ifs with same <;> rfl

theorem buffered_of_found {id : Nat} {subscription : Subscription Data}
    (present : before.subscriptions[id]? = some subscription) :
    before.buffered id = subscription.channel.buffer := by
  rw [buffered, present]

/-- The event a `Publish` offers next. -/
theorem offered_of_calls {front back : List (Publishing Data)}
    {event : StreamEvent Data} {target : Nat} {rest : List Nat}
    (calls : before.publishing = front ++ ⟨event, target :: rest⟩ :: back)
    (id : Nat) :
    offered id before (.offer front.length) =
      if target = id then some event else none := by
  have isNext : before.publishing[front.length]? =
      some ⟨event, target :: rest⟩ := by
    rw [calls, List.getElem?_append_right (le_refl _), Nat.sub_self]
    rfl
  simp only [offered, isNext]

theorem pending_of_calls {front back : List (Publishing Data)}
    {call : Publishing Data} {id : Nat}
    (calls : before.publishing = front ++ call :: back) :
    before.pending id =
      (front.filterMap fun call =>
        if id ∈ call.remaining then some call.event else none) ++
      (if id ∈ call.remaining then [call.event] else []) ++
      back.filterMap fun call =>
        if id ∈ call.remaining then some call.event else none := by
  rw [pending, calls, List.filterMap_append, List.filterMap_cons,
    List.append_assoc]
  split_ifs <;> rfl

theorem accepted_of_not_offered {id : Nat}
    (notOffered : offered id before taken = none) :
    accepted id before taken = none := by
  rw [accepted, notOffered, ite_self]

/-- What a subscriber takes and still has is what its channel has accepted. -/
theorem received_append_buffered (consistent : before.Consistent)
    (broadcasts : Broadcasts before taken after) (id : Nat) :
    (received id before taken).toList ++ after.buffered id =
      before.buffered id ++ (accepted id before taken).toList := by
  have idle : ∀ {seen : Option (StreamEvent Data)}
      {now : List (StreamEvent Data)}, seen = none →
        now = before.buffered id →
          now = before.buffered id ++ seen.toList := by
    rintro seen now rfl rfl
    exact (List.append_nil _).symm
  cases broadcasts with
  | subscribed appName quiet =>
      apply idle (accepted_of_not_offered rfl)
      rw [buffered, EventBroadcaster.subscribe, getElem?_append_singleton]
      split_ifs with isNew
      · rw [buffered, isNew, List.getElem?_eq_none (le_refl _)]
        rfl
      · rfl
  | cancelled target subscription quiet present isOpen =>
      apply idle (accepted_of_not_offered rfl)
      rw [buffered, getElem?_set_of_found present]
      split_ifs with same
      · rw [same, buffered_of_found present]
        rfl
      · rfl
  | cancelledAgain => exact idle (accepted_of_not_offered rfl) rfl
  | published => exact idle (accepted_of_not_offered rfl) rfl
  | released => exact idle (accepted_of_not_offered rfl) rfl
  | sent front back event target rest subscription calls present isOpen room =>
      show buffered _ id = _
      rw [buffered_set present, accepted, offered_of_calls calls]
      rw [(consistent.bounded _ (List.mem_of_getElem? present)).1] at room
      by_cases same : id = target
      · rw [if_pos same, same, buffered_of_found present, if_pos room,
          if_pos rfl]
        rfl
      · rw [if_neg same, if_neg (Ne.symm same), ite_self]
        exact (List.append_nil _).symm
  | dropped front back event target rest subscription calls present isOpen
      full =>
      apply idle _ rfl
      rw [accepted, offered_of_calls calls]
      rw [(consistent.bounded _ (List.mem_of_getElem? present)).1] at full
      by_cases same : target = id
      · rw [← same, buffered_of_found present,
          if_neg (Nat.not_lt_of_le full)]
      · rw [if_neg same, ite_self]
  | failed front back event target rest subscription calls present isClosed =>
      rcases (consistent.reading ⟨event, target :: rest⟩
        (by simp [calls])).2 target List.mem_cons_self with
        ⟨appName, found, isFound, -, isOpen⟩
      rw [present] at isFound
      cases isFound
      rw [isClosed] at isOpen
      cases isOpen
  | received target subscription event rest present waiting =>
      rw [buffered_set present, accepted_of_not_offered rfl]
      by_cases same : id = target
      · rw [if_pos same, same, buffered_of_found present, waiting]
        simp [received, buffered_of_found present, waiting]
      · rw [if_neg same, received, if_neg (Ne.symm same)]
        exact (List.append_nil _).symm

/-- What is on its way after an offer. -/
theorem pending_rest (consistent : before.Consistent)
    {front back : List (Publishing Data)} {event : StreamEvent Data}
    {target : Nat} {rest : List Nat}
    (calls : before.publishing = front ++ ⟨event, target :: rest⟩ :: back)
    (gone : after.publishing = front ++ ⟨event, rest⟩ :: back) (id : Nat) :
    (before.pending id ++
        (due id before (.offer front.length)).toList).Perm
      ((offered id before (.offer front.length)).toList ++
        after.pending id) := by
  have distinct : target ∉ rest :=
    (List.nodup_cons.mp (consistent.reading ⟨event, target :: rest⟩
      (by simp [calls])).1).1
  rw [offered_of_calls calls, pending_of_calls calls, pending_of_calls gone]
  by_cases same : target = id
  · subst same
    simp [due, distinct]
  · simp [due, same, Ne.symm same]

/-- An event which is due is on its way to the subscriber until it is offered. -/
theorem pending_append_due (consistent : before.Consistent)
    (broadcasts : Broadcasts before taken after) (id : Nat) :
    (before.pending id ++ (due id before taken).toList).Perm
      ((offered id before taken).toList ++ after.pending id) := by
  cases broadcasts with
  | subscribed => simp [due, offered, pending, EventBroadcaster.subscribe]
  | cancelled => simp [due, offered, pending]
  | cancelledAgain => simp [due, offered, pending]
  | published event now appOrder fleetOrder sameApp sameFleet =>
      have mem_iff := consistent.mem_orders sameApp sameFleet id
      simp only [due, offered, pending, List.filterMap_append,
        List.filterMap_cons, List.filterMap_nil, mem_iff]
      split_ifs <;> simp
  | sent front back event target rest subscription calls present isOpen room =>
      exact pending_rest consistent calls rfl id
  | dropped front back event target rest subscription calls present isOpen
      full =>
      exact pending_rest consistent calls rfl id
  | failed front back event target rest subscription calls present isClosed =>
      rcases (consistent.reading ⟨event, target :: rest⟩
        (by simp [calls])).2 target List.mem_cons_self with
        ⟨appName, found, isFound, -, isOpen⟩
      rw [present] at isFound
      cases isFound
      rw [isClosed] at isOpen
      cases isOpen
  | released front back event calls =>
      simp [due, offered, pending, calls]
  | received => simp [due, offered, pending]

/-- The sums of a run: what was accepted, and what was due. -/
structure Balanced (id : Nat) (steps : List (EventStep Data))
    (broadcaster : EventBroadcaster Data) : Prop where
  consistent : broadcaster.Consistent
  taken : observed EventBroadcaster.step (received id) newEventBroadcaster
      steps ++ broadcaster.buffered id =
    observed EventBroadcaster.step (accepted id) newEventBroadcaster steps
  owed : (observed EventBroadcaster.step (offered id) newEventBroadcaster
      steps ++ broadcaster.pending id).Perm
    (observed EventBroadcaster.step (due id) newEventBroadcaster steps)

theorem balanced_of_run (id : Nat) {steps : List (EventStep Data)}
    (reaches : run EventBroadcaster.step newEventBroadcaster steps =
      some after) : Balanced id steps after := by
  refine run_history (Balanced id) ?_ reaches
    ⟨consistent_new, rfl, by simp [newEventBroadcaster, pending]⟩
  intro earlier before after label reached taken balanced
  have broadcasts := broadcasts_of_step taken
  refine ⟨balanced.consistent.step broadcasts, ?_, ?_⟩
  · rw [observed_append_singleton reached, observed_append_singleton reached,
      List.append_assoc,
      received_append_buffered balanced.consistent broadcasts,
      ← List.append_assoc, balanced.taken]
  · rw [observed_append_singleton reached, observed_append_singleton reached,
      List.append_assoc]
    apply ((pending_append_due balanced.consistent broadcasts id).symm.append_left
      _).trans
    rw [← List.append_assoc]
    exact balanced.owed.append_right _

/--
In every interleaving a subscriber is offered each event published for it while it
was subscribed, exactly once, unless the call which publishes it is still under way;
what it takes, and has not taken yet, are the events its channel had room for, in
the order of the offers.
-/
theorem delivered_at_most_once (steps : List (EventStep Data))
    (reached : EventBroadcaster Data)
    (reaches : run EventBroadcaster.step newEventBroadcaster steps =
      some reached) (id : Nat) :
    observed EventBroadcaster.step (received id) newEventBroadcaster steps ++
        reached.buffered id =
      observed EventBroadcaster.step (accepted id) newEventBroadcaster steps ∧
    (observed EventBroadcaster.step (accepted id) newEventBroadcaster
        steps).Sublist
      (observed EventBroadcaster.step (offered id) newEventBroadcaster
        steps) ∧
    (observed EventBroadcaster.step (offered id) newEventBroadcaster steps ++
        reached.pending id).Perm
      (observed EventBroadcaster.step (due id) newEventBroadcaster steps) := by
  have balanced := balanced_of_run id reaches
  refine ⟨balanced.taken, observed_sublist ?_ _ _, balanced.owed⟩
  intro broadcaster step
  rw [accepted]
  split_ifs
  · exact Or.inr rfl
  · exact Or.inl rfl

/-- The subscriber of all applications is offered both events. -/
theorem delivered_at_most_once_dashboards :
    ∃ reached, run EventBroadcaster.step newEventBroadcaster dashboards =
        some reached ∧
      (observed EventBroadcaster.step (offered 1) newEventBroadcaster
          dashboards ++ reached.pending 1).Perm
        [(eventOf "payments").stamped 5, (eventOf "orders").stamped 6] := by
  rcases exists_dashboards with ⟨reached, reaches⟩
  have owed := (delivered_at_most_once dashboards reached reaches 1).2.2
  have isDue : observed EventBroadcaster.step (due 1) newEventBroadcaster
      dashboards =
        [(eventOf "payments").stamped 5, (eventOf "orders").stamped 6] := by
    decide
  rw [isDue] at owed
  exact ⟨reached, reaches, owed⟩

/-- The calls of `Publish` come one after another, and the subscriber keeps up with them. -/
def keepsUp (id : Nat) (broadcaster : EventBroadcaster Data) :
    EventStep Data → Bool
  | .publish _ _ _ _ => broadcaster.publishing.isEmpty
  | step =>
      (offered id broadcaster step).isNone ||
        (broadcaster.buffered id).length < eventBuffer

/-- A list without a second element has one order. -/
theorem eq_of_perm_of_length_le_one {Value : Type} {values others : List Value}
    (same : values.Perm others) (short : values.length ≤ 1) :
    values = others := by
  cases values with
  | nil => exact (List.nil_perm.mp same).symm
  | cons value rest =>
      rw [List.length_cons] at short
      rw [List.eq_nil_of_length_eq_zero (by omega : rest.length = 0)] at same ⊢
      exact (List.perm_singleton.mp same.symm).symm

/-- A call of `Publish` is begun only when there is none. -/
theorem length_publishing_le_one {id : Nat}
    (alone : before.publishing.length ≤ 1)
    (broadcasts : Broadcasts before taken after)
    (allowed : keepsUp id before taken = true) :
    after.publishing.length ≤ 1 := by
  cases broadcasts with
  | subscribed => exact alone
  | cancelled => exact alone
  | cancelledAgain => exact alone
  | published event now appOrder fleetOrder sameApp sameFleet =>
      rw [keepsUp, List.isEmpty_iff] at allowed
      simp [allowed]
  | sent front back event target rest subscription calls =>
      rw [calls] at alone
      simpa using alone
  | dropped front back event target rest subscription calls =>
      rw [calls] at alone
      simpa using alone
  | failed front back event target rest subscription calls =>
      rw [calls, List.length_append, List.length_cons] at alone
      simp only [List.length_append]
      omega
  | released front back event calls =>
      rw [calls, List.length_append, List.length_cons] at alone
      simp only [List.length_append]
      omega
  | received => exact alone

/-- With one call at a time what is due is offered in its order. -/
theorem pending_append_due_of_alone {id : Nat}
    (consistent : before.Consistent)
    (alone : before.publishing.length ≤ 1)
    (broadcasts : Broadcasts before taken after)
    (allowed : keepsUp id before taken = true) :
    before.pending id ++ (due id before taken).toList =
      (offered id before taken).toList ++ after.pending id := by
  apply eq_of_perm_of_length_le_one
    (pending_append_due consistent broadcasts id)
  have few : (before.pending id).length ≤ before.publishing.length :=
    List.length_filterMap_le _ _
  rw [List.length_append]
  cases taken with
  | publish event now appOrder fleetOrder =>
      rw [keepsUp, List.isEmpty_iff] at allowed
      rw [allowed, List.length_nil] at few
      have atMost : (due id before
          (.publish event now appOrder fleetOrder)).toList.length ≤ 1 :=
        Option.length_toList_le
      omega
  | _ => exact few.trans alone

/-- What is offered to a subscriber which keeps up is accepted. -/
theorem accepted_eq_offered {id : Nat}
    (allowed : keepsUp id before taken = true) :
    accepted id before taken = offered id before taken := by
  cases taken with
  | offer index =>
      have hasRoom : ((offered id before (.offer index)).isNone ||
          decide ((before.buffered id).length < eventBuffer)) = true :=
        allowed
      rw [Bool.or_eq_true, Option.isNone_iff_eq_none, decide_eq_true_iff]
        at hasRoom
      rcases hasRoom with notOffered | room
      · rw [accepted_of_not_offered notOffered, notOffered]
      · rw [accepted, if_pos room]
  | _ => exact accepted_of_not_offered rfl

/-- The sums of a run in which the subscriber keeps up. -/
structure InOrder (id : Nat) (steps : List (EventStep Data))
    (broadcaster : EventBroadcaster Data) : Prop where
  balanced : Balanced id steps broadcaster
  alone : broadcaster.publishing.length ≤ 1
  owed : observed EventBroadcaster.step (accepted id) newEventBroadcaster
      steps ++ broadcaster.pending id =
    observed EventBroadcaster.step (due id) newEventBroadcaster steps

/--
If the calls of `Publish` come one after another and the channel of a subscriber
always has room, the subscriber takes exactly the events published for it while it
was subscribed, in the order of their publication.
-/
theorem delivered_in_order (id : Nat) (steps : List (EventStep Data))
    (reached : EventBroadcaster Data)
    (guarded : GuardedRun EventBroadcaster.step
      (fun before step => keepsUp id before step = true) newEventBroadcaster
      steps reached) :
    observed EventBroadcaster.step (received id) newEventBroadcaster steps ++
        reached.buffered id ++ reached.pending id =
      observed EventBroadcaster.step (due id) newEventBroadcaster steps := by
  have inOrder : InOrder id steps reached := by
    induction steps using List.reverseRecOn generalizing reached with
    | nil =>
        cases guarded
        exact ⟨balanced_of_run id rfl, by simp [newEventBroadcaster],
          by simp [newEventBroadcaster, pending]⟩
    | append_singleton earlier label induction =>
        rcases guarded.split with ⟨middle, toMiddle, last⟩
        cases last with
        | cons allowed taken rest =>
            cases rest
            have earlierOrder := induction middle toMiddle
            have broadcasts := broadcasts_of_step taken
            have reaches := toMiddle.run_eq
            refine ⟨balanced_of_run id guarded.run_eq,
              length_publishing_le_one earlierOrder.alone broadcasts allowed,
              ?_⟩
            rw [observed_append_singleton reaches,
              observed_append_singleton reaches, List.append_assoc,
              accepted_eq_offered allowed,
              ← pending_append_due_of_alone earlierOrder.balanced.consistent
                earlierOrder.alone broadcasts allowed,
              ← List.append_assoc, earlierOrder.owed]
  rw [inOrder.balanced.taken, inOrder.owed]

/-- The subscriber of all applications keeps up. -/
theorem delivered_in_order_dashboards :
    ∃ reached, run EventBroadcaster.step newEventBroadcaster dashboards =
        some reached ∧
      observed EventBroadcaster.step (received 1) newEventBroadcaster
          dashboards ++ reached.buffered 1 ++ reached.pending 1 =
        [(eventOf "payments").stamped 5, (eventOf "orders").stamped 6] := by
  have ran : (runGuarded EventBroadcaster.step
      (fun before step => keepsUp 1 before step = true) newEventBroadcaster
      dashboards).isSome := by
    decide
  rcases Option.isSome_iff_exists.mp ran with ⟨reached, taken⟩
  have guarded := guardedRun_of_runGuarded taken
  refine ⟨reached, guarded.run_eq, ?_⟩
  rw [delivered_in_order 1 dashboards reached guarded]
  decide

end EventBroadcaster

end DbosRelay.Api
