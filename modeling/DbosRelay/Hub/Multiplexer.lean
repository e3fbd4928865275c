import DbosRelay.Library.Channels
import DbosRelay.Library.Runs
import DbosRelay.Library.Tables
import DbosRelay.Protocol.Messages

/-!
# The response multiplexer

`Multiplexer` of `internal/hub/multiplex.go` hands a response to whoever waits for
its request.  Its map is guarded by a mutex; `RouteResponse` takes the waiter
out of the map under the mutex, and sends on the channel and closes it after it
has released the mutex.  Whoever removes a channel from the map owns it from
then on and is the only one to close it.
-/

namespace DbosRelay.Hub

open DbosRelay.Library.Channels
open DbosRelay.Library.Runs
open DbosRelay.Library.Tables
open DbosRelay.Protocol

/-! ## The map -/

/-- `Multiplexer`; a channel is known by the number it was made under. -/
structure Multiplexer where
  pending : Table String Nat
  closed : Bool

namespace Multiplexer

/-- `NewMultiplexer`. -/
def new : Multiplexer := ⟨∅, false⟩

/-- What `Register` does to the map, with a channel it has made. -/
def register (mux : Multiplexer) (requestID : String) (ch : Nat) :
    Except String Multiplexer :=
  if mux.closed then
    .error "multiplexer is closed"
  else if (mux.pending.lookup requestID).isSome then
    .error ("duplicate request id: " ++ requestID)
  else
    .ok { mux with pending := mux.pending.insert requestID ch }

/-- The map without a request. -/
def delete (mux : Multiplexer) (requestID : String) : Multiplexer :=
  { mux with pending := mux.pending.erase requestID }

end Multiplexer

/-! ## Channels and calls -/

/--
A channel of the multiplexer and the request it was made for; what was sent on
it and by which call, and what its waiter has received, is recorded beside it.
-/
structure Line where
  requestID : String
  channel : Channel Message
  sent : List (Nat × Message)
  received : List Message
deriving DecidableEq, Repr

/-- A channel of capacity one, fresh or closed at once. -/
def Line.make (requestID : String) (closed : Bool) : Line :=
  ⟨requestID, ⟨1, [], closed⟩, [], []⟩

/-- Where a call of `RouteResponse` is. -/
inductive RouteCall where
  | sending (ch : Nat) (msg : Message)
  | closing (ch : Nat)
  | returned (routed : Bool)
deriving DecidableEq, Repr

/-- The channel a call has taken out of the map and not yet closed. -/
def RouteCall.owns : RouteCall → Option Nat
  | .sending ch _ => some ch
  | .closing ch => some ch
  | .returned _ => none

/-- The panics of the channel operations. -/
inductive ChannelFault where
  | sentAfterClose (ch : Nat)
  | closedTwice (ch : Nat)
deriving DecidableEq, Repr

/--
The multiplexer, its channels, the calls of `RouteResponse`, and whether
`CancelAll` is holding the mutex.
-/
structure MuxWorld where
  mux : Multiplexer
  cancelling : Bool
  lines : Table Nat Line
  made : Nat
  calls : Table Nat RouteCall
  faults : List ChannelFault

namespace MuxWorld

def initial : MuxWorld := ⟨.new, false, ∅, 0, ∅, []⟩

/-- `close(ch)`. -/
def close (world : MuxWorld) (ch : Nat) : MuxWorld :=
  match world.lines.lookup ch with
  | none => world
  | some line =>
      match line.channel.close with
      | none => { world with faults := world.faults ++ [.closedTwice ch] }
      | some channel =>
          { world with lines := world.lines.insert ch { line with channel } }

/-- `Register`. -/
def register (world : MuxWorld) (requestID : String) : MuxWorld :=
  match world.mux.register requestID world.made with
  | .ok mux =>
      { world with
        mux
        lines := world.lines.insert world.made (.make requestID false)
        made := world.made + 1 }
  | .error _ =>
      -- Only the channel returned by a closed multiplexer exists at all.
      if world.mux.closed then
        { world with
          lines := world.lines.insert world.made (.make requestID true)
          made := world.made + 1 }
      else world

/-- The function `Register` has returned with the channel. -/
def unregister (world : MuxWorld) (ch : Nat) (requestID : String) : MuxWorld :=
  if world.mux.pending.lookup requestID = some ch then
    { world with mux := world.mux.delete requestID }.close ch
  else world

/-- `RouteResponse` up to the release of the mutex. -/
def route (world : MuxWorld) (id : Nat) (msg : Message) : MuxWorld :=
  match world.mux.pending.lookup msg.requestID with
  | none =>
      { world with calls := world.calls.insert id (.returned false) }
  | some ch =>
      { world with
        mux := world.mux.delete msg.requestID
        calls := world.calls.insert id (.sending ch msg) }

/-- `ch <- msg`, if it does not block. -/
def send (world : MuxWorld) (id ch : Nat) (msg : Message) : Option MuxWorld :=
  match world.lines.lookup ch with
  | none => none
  | some line =>
      match line.channel.send msg with
      | .panics =>
          some { world with faults := world.faults ++ [.sentAfterClose ch] }
      | .blocks => none
      | .sent channel =>
          some
            { world with
              lines :=
                world.lines.insert ch
                  { line with channel, sent := line.sent ++ [(id, msg)] }
              calls := world.calls.insert id (.closing ch) }

end MuxWorld

/-- The steps of the goroutines around a multiplexer. -/
inductive MuxLabel where
  | register (requestID : String)
  | unregister (ch : Nat)
  | route (id : Nat) (msg : Option Message)
  | send (id : Nat)
  | close (id : Nat)
  | receive (ch : Nat)
  | cancelAll
  | cancelNext (requestID : String)
  | cancelReturn
deriving DecidableEq, Repr

namespace MuxWorld

/--
One step.  What is done under the mutex waits while `CancelAll` holds it; the
steps of `CancelAll` visit the map in any order.
-/
def step (world : MuxWorld) : MuxLabel → Option MuxWorld
  | .register requestID =>
      if world.cancelling then none else some (world.register requestID)
  | .unregister ch =>
      if world.cancelling then none
      else (world.lines.lookup ch).map fun line =>
        world.unregister ch line.requestID
  | .route id msg =>
      if id ∈ world.calls then none
      else
        match msg with
        | none =>
            some { world with calls := world.calls.insert id (.returned false) }
        | some msg =>
            if msg.requestID = "" then
              some
                { world with calls := world.calls.insert id (.returned false) }
            else if world.cancelling then none
            else some (world.route id msg)
  | .send id =>
      match world.calls.lookup id with
      | some (.sending ch msg) => world.send id ch msg
      | _ => none
  | .close id =>
      match world.calls.lookup id with
      | some (.closing ch) =>
          some
            ({ world with
              calls := world.calls.insert id (.returned true) }.close ch)
      | _ => none
  | .receive ch =>
      (world.lines.lookup ch).bind fun line =>
        line.channel.receive.map fun taken =>
          { world with
            lines :=
              world.lines.insert ch
                { line with
                  channel := taken.2
                  received := line.received ++ [taken.1] } }
  | .cancelAll =>
      if world.cancelling then none
      else
        some
          { world with
            mux := { world.mux with closed := true }
            cancelling := true }
  | .cancelNext requestID =>
      if world.cancelling then
        (world.mux.pending.lookup requestID).map fun ch =>
          { world with mux := world.mux.delete requestID }.close ch
      else none
  | .cancelReturn =>
      if world.cancelling ∧ world.mux.pending.entries = [] then
        some { world with cancelling := false }
      else none

end MuxWorld

/-! ## Soundness -/

/--
What the multiplexer promises: no channel is closed twice or sent on after it
has been closed, the send of `RouteResponse` finds room, a waiter receives at
most one message, which was sent to it and carries its request, no call of
`RouteResponse` delivers its message to two waiters, and nothing is pending or
registered any more once `CancelAll` has returned.  A multiplexer which is closed
and not cancelling is one whose `CancelAll` has returned (`cancelled_iff`).
-/
structure MuxWorld.Sound (world : MuxWorld) : Prop where
  noFault : world.faults = []
  neverBlocks : ∀ {id ch msg},
    world.calls.lookup id = some (.sending ch msg) →
      ∃ line channel, world.lines.lookup ch = some line ∧
        line.channel.send msg = .sent channel
  atMostOne : ∀ {ch line}, world.lines.lookup ch = some line →
    line.received.length ≤ 1
  ownRequest : ∀ {ch line msg}, world.lines.lookup ch = some line →
    msg ∈ line.received →
      msg.requestID = line.requestID ∧ msg ∈ line.sent.map Prod.snd
  oneWaiter : ∀ {id ch other line otherLine},
    world.lines.lookup ch = some line →
      world.lines.lookup other = some otherLine →
        id ∈ line.sent.map Prod.fst → id ∈ otherLine.sent.map Prod.fst →
          other = ch
  cancelled : world.mux.closed = true → world.cancelling = false →
    (∀ requestID, world.mux.pending.lookup requestID = none) ∧
      ∀ requestID ch,
        world.mux.register requestID ch = .error "multiplexer is closed"

/-! ## Ownership -/

/-- Open, and nothing sent on it yet. -/
structure Line.Untouched (line : Line) : Prop where
  isOpen : line.channel.closed = false
  sent : line.sent = []

/-- What is received was sent, at most one message, of the line's request. -/
structure Line.Sound (line : Line) : Prop where
  capacity : line.channel.capacity = 1
  flow : line.received ++ line.channel.buffer = line.sent.map Prod.snd
  atMostOne : line.sent.length ≤ 1
  own : ∀ entry ∈ line.sent, entry.2.requestID = line.requestID

theorem Line.sound_make (requestID : String) (closed : Bool) :
    (Line.make requestID closed).Sound :=
  ⟨rfl, rfl, Nat.zero_le 1, nofun⟩

/-- An untouched line has room for a message. -/
theorem Line.Sound.room {line : Line} (sound : line.Sound)
    (untouched : line.Untouched) :
    line.channel.buffer.length < line.channel.capacity := by
  have flow := congrArg List.length sound.flow
  rw [untouched.sent, List.length_append] at flow
  simp only [List.map_nil, List.length_nil] at flow
  rw [sound.capacity]
  omega

/-- The one message of the line's request is sent. -/
theorem Line.Sound.send {line : Line} (sound : line.Sound)
    (untouched : line.Untouched) {id : Nat} {msg : Message}
    (request : line.requestID = msg.requestID) :
    Line.Sound
      { line with
        channel := { line.channel with buffer := line.channel.buffer ++ [msg] }
        sent := line.sent ++ [(id, msg)] } := by
  refine ⟨sound.capacity, ?_, ?_, ?_⟩
  · show line.received ++ (line.channel.buffer ++ [msg]) = _
    rw [← List.append_assoc, sound.flow, List.map_append]
    rfl
  · simp [untouched.sent]
  · intro entry member
    rw [untouched.sent] at member
    cases List.mem_singleton.mp member
    exact request.symm

/--
A channel is in the map, or taken out of it by one call of `RouteResponse`, or
closed.
-/
structure MuxInvariant (world : MuxWorld) : Prop where
  noFault : world.faults = []
  made : ∀ {ch line}, world.lines.lookup ch = some line → ch < world.made
  lines : ∀ {ch line}, world.lines.lookup ch = some line → line.Sound
  pending : ∀ {requestID ch}, world.mux.pending.lookup requestID = some ch →
    ∃ line, world.lines.lookup ch = some line ∧
      line.requestID = requestID ∧ line.Untouched
  sending : ∀ {id ch msg}, world.calls.lookup id = some (.sending ch msg) →
    ∃ line, world.lines.lookup ch = some line ∧
      line.requestID = msg.requestID ∧ line.Untouched
  closing : ∀ {id ch}, world.calls.lookup id = some (.closing ch) →
    ∃ line, world.lines.lookup ch = some line ∧ line.channel.closed = false
  owned : ∀ {id call ch}, world.calls.lookup id = some call →
    call.owns = some ch → ∀ requestID,
      world.mux.pending.lookup requestID ≠ some ch
  alone : ∀ {id other call otherCall ch},
    world.calls.lookup id = some call → call.owns = some ch →
      world.calls.lookup other = some otherCall →
        otherCall.owns = some ch → other = id
  senders : ∀ {ch line id}, world.lines.lookup ch = some line →
    id ∈ line.sent.map Prod.fst →
      ∃ call, world.calls.lookup id = some call ∧
        ∀ other msg, call ≠ .sending other msg
  oneLine : ∀ {id ch other line otherLine},
    world.lines.lookup ch = some line →
      world.lines.lookup other = some otherLine →
        id ∈ line.sent.map Prod.fst → id ∈ otherLine.sent.map Prod.fst →
          other = ch
  cancelled : world.mux.closed = true → world.cancelling = false →
    ∀ requestID, world.mux.pending.lookup requestID = none

theorem muxInvariant_initial : MuxInvariant MuxWorld.initial := by
  constructor <;> simp [MuxWorld.initial, Multiplexer.new]

namespace MuxInvariant

variable {world after : MuxWorld}

/-- The invariant makes the multiplexer sound. -/
theorem sound (invariant : MuxInvariant world) : world.Sound where
  noFault := invariant.noFault
  neverBlocks := by
    intro id ch msg present
    obtain ⟨line, found, -, untouched⟩ := invariant.sending present
    have room := (invariant.lines found).room untouched
    exact ⟨line, _, found, Channel.send_of_room untouched.isOpen room msg⟩
  atMostOne := by
    intro ch line found
    have sound := invariant.lines found
    have flow := congrArg List.length sound.flow
    rw [List.length_append, List.length_map] at flow
    have atMostOne := sound.atMostOne
    omega
  ownRequest := by
    intro ch line msg found received
    have sound := invariant.lines found
    have sent : msg ∈ line.sent.map Prod.snd := by
      rw [← sound.flow]
      exact List.mem_append_left _ received
    obtain ⟨entry, member, rfl⟩ := List.mem_map.mp sent
    exact ⟨sound.own entry member, sent⟩
  oneWaiter := invariant.oneLine
  cancelled := by
    intro closed returned
    refine ⟨invariant.cancelled closed returned, fun requestID ch => ?_⟩
    rw [Multiplexer.register, if_pos closed]

/-- Taking a request out of the map. -/
theorem delete (invariant : MuxInvariant world) (requestID : String) :
    MuxInvariant { world with mux := world.mux.delete requestID } := by
  have before : ∀ {other ch},
      (world.mux.delete requestID).pending.lookup other = some ch →
        world.mux.pending.lookup other = some ch := by
    intro other ch present
    rw [Multiplexer.delete, lookup_erase_eq] at present
    split_ifs at present
    exact present
  exact
    { noFault := invariant.noFault
      made := invariant.made
      lines := invariant.lines
      pending := fun present => invariant.pending (before present)
      sending := invariant.sending
      closing := invariant.closing
      owned := fun present owns other found =>
        invariant.owned present owns other (before found)
      alone := invariant.alone
      senders := invariant.senders
      oneLine := invariant.oneLine
      cancelled := fun closed returned other => by
        rw [Multiplexer.delete, lookup_erase_eq]
        split_ifs
        · rfl
        · exact invariant.cancelled closed returned other }

/-- A channel still has one owner after a call has gone on. -/
theorem alone_insert (invariant : MuxInvariant world) {id : Nat}
    {new : RouteCall}
    (unshared : ∀ {key call ch}, world.calls.lookup key = some call →
      call.owns = some ch → new.owns = some ch → key = id)
    {key other : Nat} {call otherCall : RouteCall} {ch : Nat}
    (present : (world.calls.insert id new).lookup key = some call)
    (owns : call.owns = some ch)
    (otherPresent : (world.calls.insert id new).lookup other = some otherCall)
    (otherOwns : otherCall.owns = some ch) : other = key := by
  rcases lookup_insert_cases rfl present with ⟨rfl, rfl⟩ | ⟨-, before⟩
  · rcases lookup_insert_cases rfl otherPresent with
      ⟨rfl, -⟩ | ⟨-, otherBefore⟩
    · rfl
    · exact unshared otherBefore otherOwns owns
  · rcases lookup_insert_cases rfl otherPresent with
      ⟨rfl, rfl⟩ | ⟨-, otherBefore⟩
    · exact (unshared before owns otherOwns).symm
    · exact invariant.alone before owns otherBefore otherOwns

/-- A call which is about to send has sent nothing. -/
theorem unsent (invariant : MuxInvariant world) {id ch other : Nat}
    {msg : Message} {line : Line}
    (current : world.calls.lookup id = some (.sending ch msg))
    (present : world.lines.lookup other = some line) :
    id ∉ line.sent.map Prod.fst := by
  intro sent
  obtain ⟨call, was, notSending⟩ := invariant.senders present sent
  cases current.symm.trans was
  exact notSending ch msg rfl

/-- A call returns. -/
theorem returns (invariant : MuxInvariant world) (id : Nat) (routed : Bool) :
    MuxInvariant
      { world with calls := world.calls.insert id (.returned routed) } := by
  refine
    { noFault := invariant.noFault
      made := invariant.made
      lines := invariant.lines
      pending := invariant.pending
      sending := ?_
      closing := ?_
      owned := ?_
      alone := ?_
      senders := ?_
      oneLine := invariant.oneLine
      cancelled := invariant.cancelled }
  · intro key ch msg present
    rcases lookup_insert_cases rfl present with ⟨-, same⟩ | ⟨-, before⟩
    · cases same
    · exact invariant.sending before
  · intro key ch present
    rcases lookup_insert_cases rfl present with ⟨-, same⟩ | ⟨-, before⟩
    · cases same
    · exact invariant.closing before
  · intro key call ch present owns
    rcases lookup_insert_cases rfl present with ⟨-, rfl⟩ | ⟨-, before⟩
    · cases owns
    · exact invariant.owned before owns
  · exact invariant.alone_insert fun _ _ none => by cases none
  · intro ch line key found sent
    obtain ⟨call, present, notSending⟩ := invariant.senders found sent
    by_cases same : key = id
    · exact ⟨.returned routed, by rw [same, AList.lookup_insert], nofun⟩
    · exact ⟨call, by rw [AList.lookup_insert_ne same]; exact present,
        notSending⟩

section Replace

variable {ch : Nat} {line new : Line}
variable (found : world.lines.lookup ch = some line)

include found

/-- What was sent on a line stays what it was. -/
theorem sent_before (sent : new.sent = line.sent) {other : Nat}
    {otherLine : Line}
    (present : (world.lines.insert ch new).lookup other = some otherLine) :
    ∃ old, world.lines.lookup other = some old ∧
      old.sent = otherLine.sent := by
  rcases lookup_insert_cases rfl present with ⟨rfl, rfl⟩ | ⟨-, before⟩
  · exact ⟨line, found, sent.symm⟩
  · exact ⟨otherLine, before, rfl⟩

/-- A line which can be reached keeps its request and its state. -/
theorem kept_replaced (request : new.requestID = line.requestID)
    (sent : new.sent = line.sent) {other : Nat} {otherLine : Line}
    (before : world.lines.lookup other = some otherLine)
    (state : other = ch → new.channel.closed = line.channel.closed) :
    ∃ now, (world.lines.insert ch new).lookup other = some now ∧
      now.requestID = otherLine.requestID ∧
        now.channel.closed = otherLine.channel.closed ∧
          now.sent = otherLine.sent := by
  by_cases same : other = ch
  · subst same
    cases found.symm.trans before
    exact ⟨new, AList.lookup_insert _, request, state rfl, sent⟩
  · exact ⟨otherLine, (AList.lookup_insert_ne same).trans before,
      rfl, rfl, rfl⟩

end Replace

/--
A line is replaced by one for the same request with the same sends, which is
still open as long as somebody can reach it.
-/
theorem replace (invariant : MuxInvariant world) {ch : Nat} {line new : Line}
    (found : world.lines.lookup ch = some line)
    (request : new.requestID = line.requestID) (sent : new.sent = line.sent)
    (sound : new.Sound)
    (pending : ∀ {requestID}, world.mux.pending.lookup requestID = some ch →
      new.channel.closed = line.channel.closed)
    (owned : ∀ {id call}, world.calls.lookup id = some call →
      call.owns = some ch → new.channel.closed = line.channel.closed) :
    MuxInvariant { world with lines := world.lines.insert ch new } := by
  refine
    { noFault := invariant.noFault
      made := ?_
      lines := ?_
      pending := ?_
      sending := ?_
      closing := ?_
      owned := invariant.owned
      alone := invariant.alone
      senders := ?_
      oneLine := ?_
      cancelled := invariant.cancelled }
  · intro other otherLine present
    obtain ⟨old, before, -⟩ := sent_before found sent present
    exact invariant.made before
  · intro other otherLine present
    rcases lookup_insert_cases rfl present with ⟨-, rfl⟩ | ⟨-, before⟩
    · exact sound
    · exact invariant.lines before
  · intro requestID other present
    obtain ⟨old, before, sameID, untouched⟩ := invariant.pending present
    obtain ⟨now, after, sameRequest, sameState, sameSent⟩ :=
      kept_replaced found request sent before fun same => pending (same ▸ present)
    exact ⟨now, after, sameRequest.trans sameID,
      sameState.trans untouched.isOpen, sameSent.trans untouched.sent⟩
  · intro id other msg present
    obtain ⟨old, before, sameID, untouched⟩ := invariant.sending present
    obtain ⟨now, after, sameRequest, sameState, sameSent⟩ :=
      kept_replaced found request sent before fun same =>
        owned present (congrArg some same)
    exact ⟨now, after, sameRequest.trans sameID,
      sameState.trans untouched.isOpen, sameSent.trans untouched.sent⟩
  · intro id other present
    obtain ⟨old, before, isOpen⟩ := invariant.closing present
    obtain ⟨now, after, -, sameState, -⟩ :=
      kept_replaced found request sent before fun same =>
        owned present (congrArg some same)
    exact ⟨now, after, sameState.trans isOpen⟩
  · intro other otherLine id present wasSent
    obtain ⟨old, before, same⟩ := sent_before found sent present
    exact invariant.senders before (same ▸ wasSent)
  · intro id other another otherLine anotherLine present anotherPresent wasSent
      anotherSent
    obtain ⟨old, before, same⟩ := sent_before found sent present
    obtain ⟨anotherOld, anotherBefore, anotherSame⟩ :=
      sent_before found sent anotherPresent
    exact invariant.oneLine before anotherBefore (same ▸ wasSent)
      (anotherSame ▸ anotherSent)

/-- Closing an open channel which nobody can reach any more. -/
theorem close (invariant : MuxInvariant world) {ch : Nat} {line : Line}
    (found : world.lines.lookup ch = some line)
    (isOpen : line.channel.closed = false)
    (unreachable : ∀ requestID, world.mux.pending.lookup requestID ≠ some ch)
    (unowned : ∀ {id call}, world.calls.lookup id = some call →
      call.owns ≠ some ch) :
    MuxInvariant (world.close ch) := by
  have closed : world.close ch =
      { world with
        lines :=
          world.lines.insert ch
            { line with channel := { line.channel with closed := true } } } := by
    rw [MuxWorld.close]
    simp only [found, Channel.close_of_open isOpen]
  rw [closed]
  have sound := invariant.lines found
  refine invariant.replace found rfl rfl
    ⟨sound.capacity, sound.flow, sound.atMostOne, sound.own⟩ ?_ ?_
  · intro requestID present
    exact (unreachable requestID present).elim
  · intro id call present owns
    exact (unowned present owns).elim

/-- The number of the next channel is unused. -/
theorem ne_made (invariant : MuxInvariant world) {ch : Nat} {line : Line}
    (found : world.lines.lookup ch = some line) : ch ≠ world.made :=
  Nat.ne_of_lt (invariant.made found)

theorem lookup_make (invariant : MuxInvariant world) {ch : Nat} {line : Line}
    (found : world.lines.lookup ch = some line) (new : Line) :
    (world.lines.insert world.made new).lookup ch = some line := by
  rw [AList.lookup_insert_ne (invariant.ne_made found)]
  exact found

/-- Making a channel nobody waits on yet. -/
theorem make (invariant : MuxInvariant world) (requestID : String)
    (closed : Bool) :
    MuxInvariant
      { world with
        lines := world.lines.insert world.made (.make requestID closed)
        made := world.made + 1 } := by
  refine
    { noFault := invariant.noFault
      made := ?_
      lines := ?_
      pending := ?_
      sending := ?_
      closing := ?_
      owned := invariant.owned
      alone := invariant.alone
      senders := ?_
      oneLine := ?_
      cancelled := invariant.cancelled }
  · intro ch line present
    rcases lookup_insert_cases rfl present with ⟨rfl, -⟩ | ⟨-, before⟩
    · exact Nat.lt_succ_self _
    · exact Nat.lt_succ_of_lt (invariant.made before)
  · intro ch line present
    rcases lookup_insert_cases rfl present with ⟨-, rfl⟩ | ⟨-, before⟩
    · exact Line.sound_make requestID closed
    · exact invariant.lines before
  · intro request ch present
    obtain ⟨line, before, facts⟩ := invariant.pending present
    exact ⟨line, invariant.lookup_make before _, facts⟩
  · intro id ch msg present
    obtain ⟨line, before, facts⟩ := invariant.sending present
    exact ⟨line, invariant.lookup_make before _, facts⟩
  · intro id ch present
    obtain ⟨line, before, isOpen⟩ := invariant.closing present
    exact ⟨line, invariant.lookup_make before _, isOpen⟩
  · intro ch line id present sent
    rcases lookup_insert_cases rfl present with ⟨-, rfl⟩ | ⟨-, before⟩
    · cases sent
    · exact invariant.senders before sent
  · intro id ch other line otherLine present otherPresent sent otherSent
    rcases lookup_insert_cases rfl present with ⟨-, rfl⟩ | ⟨-, before⟩
    · cases sent
    · rcases lookup_insert_cases rfl otherPresent with
        ⟨-, rfl⟩ | ⟨-, otherBefore⟩
      · cases otherSent
      · exact invariant.oneLine before otherBefore sent otherSent

/-- `Register` with a request nobody waits for. -/
theorem registers (invariant : MuxInvariant world) {requestID : String}
    (notClosed : world.mux.closed = false) :
    MuxInvariant
      { world with
        mux :=
          { world.mux with
            pending := world.mux.pending.insert requestID world.made }
        lines := world.lines.insert world.made (.make requestID false)
        made := world.made + 1 } := by
  have made := invariant.make requestID false
  refine
    { noFault := made.noFault
      made := made.made
      lines := made.lines
      pending := ?_
      sending := made.sending
      closing := made.closing
      owned := ?_
      alone := made.alone
      senders := made.senders
      oneLine := made.oneLine
      cancelled := ?_ }
  · intro request ch present
    rcases lookup_insert_cases rfl present with ⟨rfl, rfl⟩ | ⟨-, before⟩
    · exact ⟨.make request false, AList.lookup_insert _, rfl, rfl, rfl⟩
    · exact made.pending before
  · intro id call ch present owns request found
    rcases lookup_insert_cases rfl found with ⟨-, rfl⟩ | ⟨-, before⟩
    · -- A call owns only channels made earlier.
      cases call with
      | sending other msg =>
          cases owns
          obtain ⟨line, earlier, -⟩ := invariant.sending present
          exact invariant.ne_made earlier rfl
      | closing other =>
          cases owns
          obtain ⟨line, earlier, -⟩ := invariant.closing present
          exact invariant.ne_made earlier rfl
      | returned routed => cases owns
    · exact invariant.owned present owns request before
  · intro closed
    rw [notClosed] at closed
    cases closed

theorem register (invariant : MuxInvariant world) (requestID : String) :
    MuxInvariant (world.register requestID) := by
  unfold MuxWorld.register Multiplexer.register
  by_cases closed : world.mux.closed = true
  · rw [if_pos closed]
    simp only [if_pos closed]
    exact invariant.make requestID true
  · rw [if_neg closed]
    by_cases waiting : (world.mux.pending.lookup requestID).isSome = true
    · rw [if_pos waiting]
      simp only [if_neg closed]
      exact invariant
    · rw [if_neg waiting]
      exact invariant.registers (Bool.eq_false_iff.mpr closed)

/-- Taking a request out of the map and closing its channel. -/
theorem deleteAndClose (invariant : MuxInvariant world) {requestID : String}
    {ch : Nat} (waiting : world.mux.pending.lookup requestID = some ch) :
    MuxInvariant
      ({ world with mux := world.mux.delete requestID }.close ch) := by
  obtain ⟨line, found, request, untouched⟩ := invariant.pending waiting
  refine (invariant.delete requestID).close found untouched.isOpen ?_ ?_
  · intro other present
    rw [Multiplexer.delete, lookup_erase_eq] at present
    split_ifs at present with same
    -- Two requests never share a channel.
    obtain ⟨otherLine, otherFound, otherRequest, -⟩ :=
      invariant.pending present
    cases found.symm.trans otherFound
    exact same (otherRequest.symm.trans request)
  · intro id call present owns
    exact invariant.owned present owns requestID waiting

theorem unregister (invariant : MuxInvariant world) (ch : Nat)
    (requestID : String) : MuxInvariant (world.unregister ch requestID) := by
  unfold MuxWorld.unregister
  split_ifs with waiting
  · exact invariant.deleteAndClose waiting
  · exact invariant

/-- `RouteResponse` takes over the channel of a waiter. -/
theorem takes (invariant : MuxInvariant world) {id ch : Nat} {msg : Message}
    (fresh : id ∉ world.calls)
    (waiting : world.mux.pending.lookup msg.requestID = some ch) :
    MuxInvariant
      { world with
        mux := world.mux.delete msg.requestID
        calls := world.calls.insert id (.sending ch msg) } := by
  have deleted := invariant.delete msg.requestID
  have unowned : ∀ {key call}, world.calls.lookup key = some call →
      call.owns ≠ some ch := fun present owns =>
    invariant.owned present owns msg.requestID waiting
  obtain ⟨line, found, request, untouched⟩ := invariant.pending waiting
  refine
    { noFault := deleted.noFault
      made := deleted.made
      lines := deleted.lines
      pending := deleted.pending
      sending := ?_
      closing := ?_
      owned := ?_
      alone := ?_
      senders := ?_
      oneLine := deleted.oneLine
      cancelled := deleted.cancelled }
  · intro key other otherMsg present
    rcases lookup_insert_cases rfl present with ⟨-, same⟩ | ⟨-, before⟩
    · cases same
      exact ⟨line, found, request, untouched⟩
    · exact deleted.sending before
  · intro key other present
    rcases lookup_insert_cases rfl present with ⟨-, same⟩ | ⟨-, before⟩
    · cases same
    · exact deleted.closing before
  · intro key call other present owns
    rcases lookup_insert_cases rfl present with ⟨-, rfl⟩ | ⟨-, before⟩
    · cases owns
      intro otherRequest stillWaiting
      rw [Multiplexer.delete, lookup_erase_eq] at stillWaiting
      split_ifs at stillWaiting with same
      obtain ⟨otherLine, otherFound, lineRequest, -⟩ :=
        invariant.pending stillWaiting
      cases found.symm.trans otherFound
      exact same (lineRequest.symm.trans request)
    · exact deleted.owned before owns
  · refine deleted.alone_insert fun present owns same => ?_
    cases same
    exact (unowned present owns).elim
  · intro other otherLine key present sent
    obtain ⟨call, before, notSending⟩ := invariant.senders present sent
    refine ⟨call, ?_, notSending⟩
    rw [AList.lookup_insert_ne]
    · exact before
    · rintro rfl
      exact fresh (AList.lookup_isSome.mp (Option.isSome_of_eq_some before))

theorem route (invariant : MuxInvariant world) {id : Nat} (msg : Message)
    (fresh : id ∉ world.calls) : MuxInvariant (world.route id msg) := by
  unfold MuxWorld.route
  split
  · exact invariant.returns id false
  · rename_i ch waiting
    exact invariant.takes fresh waiting

section Sends

variable {id ch : Nat} {msg : Message} {line : Line}

/-- Whoever waits for another channel finds it as it was. -/
theorem lookup_send (invariant : MuxInvariant world)
    (current : world.calls.lookup id = some (.sending ch msg)) (sentLine : Line)
    {requestID : String} {other : Nat}
    (waiting : world.mux.pending.lookup requestID = some other) :
    (world.lines.insert ch sentLine).lookup other =
      world.lines.lookup other := by
  rw [AList.lookup_insert_ne]
  rintro rfl
  exact invariant.owned current rfl requestID waiting

/-- Every other call still has the channel it owns. -/
theorem lookup_send_of_owns (invariant : MuxInvariant world)
    (current : world.calls.lookup id = some (.sending ch msg)) (sentLine : Line)
    {key other : Nat} {call : RouteCall} (different : key ≠ id)
    (present : world.calls.lookup key = some call)
    (owns : call.owns = some other) :
    (world.lines.insert ch sentLine).lookup other =
      world.lines.lookup other := by
  rw [AList.lookup_insert_ne]
  rintro rfl
  exact different (invariant.alone current rfl present owns)

/-- The call which has sent is closing, and the earlier ones have not gone back. -/
theorem senders_send (invariant : MuxInvariant world)
    (untouched : line.Untouched) {other key : Nat} {otherLine : Line}
    {channel : Channel Message}
    (present : (world.lines.insert ch
      { line with channel, sent := line.sent ++ [(id, msg)] }).lookup other =
        some otherLine)
    (sent : key ∈ otherLine.sent.map Prod.fst) :
    ∃ call, (world.calls.insert id (.closing ch)).lookup key = some call ∧
      ∀ target otherMsg, call ≠ .sending target otherMsg := by
  by_cases same : key = id
  · refine ⟨.closing ch, ?_, nofun⟩
    rw [same]
    exact AList.lookup_insert _
  · have earlier : ∃ call, world.calls.lookup key = some call ∧
        ∀ target otherMsg, call ≠ .sending target otherMsg := by
      rcases lookup_insert_cases rfl present with ⟨-, rfl⟩ | ⟨-, before⟩
      · rw [untouched.sent] at sent
        cases List.mem_singleton.mp sent
        exact (same rfl).elim
      · exact invariant.senders before sent
    rcases earlier with ⟨call, was, notSending⟩
    refine ⟨call, ?_, notSending⟩
    rw [AList.lookup_insert_ne same]
    exact was

/-- A call which is sending has sent on no other channel. -/
theorem oneLine_send (invariant : MuxInvariant world)
    (current : world.calls.lookup id = some (.sending ch msg))
    (untouched : line.Untouched) {key other another : Nat}
    {otherLine anotherLine : Line} {channel : Channel Message}
    (present : (world.lines.insert ch
      { line with channel, sent := line.sent ++ [(id, msg)] }).lookup other =
        some otherLine)
    (anotherPresent : (world.lines.insert ch
      { line with channel, sent := line.sent ++ [(id, msg)] }).lookup another =
        some anotherLine)
    (sent : key ∈ otherLine.sent.map Prod.fst)
    (anotherSent : key ∈ anotherLine.sent.map Prod.fst) : another = other := by
  rcases lookup_insert_cases rfl present with ⟨rfl, rfl⟩ | ⟨-, before⟩ <;>
    rcases lookup_insert_cases rfl anotherPresent with
      ⟨rfl, rfl⟩ | ⟨-, anotherBefore⟩
  · rfl
  · rw [untouched.sent] at sent
    cases List.mem_singleton.mp sent
    exact (invariant.unsent current anotherBefore anotherSent).elim
  · rw [untouched.sent] at anotherSent
    cases List.mem_singleton.mp anotherSent
    exact (invariant.unsent current before sent).elim
  · exact invariant.oneLine before anotherBefore sent anotherSent

/-- `RouteResponse` sends. -/
theorem send (invariant : MuxInvariant world)
    (current : world.calls.lookup id = some (.sending ch msg))
    (sends : world.send id ch msg = some after) : MuxInvariant after := by
  rcases invariant.sending current with ⟨line, found, request, untouched⟩
  have sound := invariant.lines found
  unfold MuxWorld.send at sends
  simp only [found, Channel.send_of_room untouched.isOpen (sound.room untouched),
    Option.some.injEq] at sends
  subst sends
  refine
    { noFault := invariant.noFault
      made := ?_
      lines := ?_
      pending := ?_
      sending := ?_
      closing := ?_
      owned := ?_
      alone := ?_
      senders := invariant.senders_send untouched
      oneLine := invariant.oneLine_send current untouched
      cancelled := invariant.cancelled }
  · intro other otherLine present
    rcases lookup_insert_cases rfl present with ⟨rfl, -⟩ | ⟨-, before⟩
    · exact invariant.made found
    · exact invariant.made before
  · intro other otherLine present
    rcases lookup_insert_cases rfl present with ⟨-, rfl⟩ | ⟨-, before⟩
    · exact sound.send untouched request
    · exact invariant.lines before
  · intro requestID other present
    rw [invariant.lookup_send current _ present]
    exact invariant.pending present
  · intro key other otherMsg present
    rcases lookup_insert_cases rfl present with ⟨-, same⟩ | ⟨different, was⟩
    · cases same
    · rw [invariant.lookup_send_of_owns current _ different was rfl]
      exact invariant.sending was
  · intro key other present
    rcases lookup_insert_cases rfl present with ⟨-, same⟩ | ⟨different, was⟩
    · cases same
      exact ⟨_, AList.lookup_insert _, untouched.isOpen⟩
    · rw [invariant.lookup_send_of_owns current _ different was rfl]
      exact invariant.closing was
  · intro key call other present owns
    rcases lookup_insert_cases rfl present with ⟨-, rfl⟩ | ⟨-, before⟩
    · cases owns
      exact invariant.owned current rfl
    · exact invariant.owned before owns
  · refine invariant.alone_insert fun present owns same => ?_
    cases same
    exact invariant.alone current rfl present owns

end Sends

/-- A waiter receives. -/
theorem receive (invariant : MuxInvariant world) {ch : Nat} {line : Line}
    {msg : Message} {rest : Channel Message}
    (found : world.lines.lookup ch = some line)
    (taken : line.channel.receive = some (msg, rest)) :
    MuxInvariant
      { world with
        lines :=
          world.lines.insert ch
            { line with
              channel := rest
              received := line.received ++ [msg] } } := by
  obtain ⟨buffer, capacity, closed⟩ := Channel.receive_eq_some.mp taken
  have sound := invariant.lines found
  refine invariant.replace found rfl rfl
    ⟨capacity.trans sound.capacity, ?_, sound.atMostOne, sound.own⟩
    (fun _ => closed) (fun _ _ => closed)
  rw [← sound.flow, buffer]
  exact List.append_assoc _ _ _

/-- `RouteResponse` closes the channel it has sent on, and returns. -/
theorem closes (invariant : MuxInvariant world) {id ch : Nat}
    (current : world.calls.lookup id = some (.closing ch)) :
    MuxInvariant
      ({ world with
        calls := world.calls.insert id (.returned true) }.close ch) := by
  obtain ⟨line, found, isOpen⟩ := invariant.closing current
  refine (invariant.returns id true).close found isOpen ?_ ?_
  · exact invariant.owned current rfl
  · intro key call present owns
    rcases lookup_insert_cases rfl present with ⟨-, rfl⟩ | ⟨different, before⟩
    · cases owns
    · exact different (invariant.alone current rfl before owns)

/-- `CancelAll` takes the mutex. -/
theorem cancelAll (invariant : MuxInvariant world) :
    MuxInvariant
      { world with
        mux := { world.mux with closed := true }
        cancelling := true } :=
  { noFault := invariant.noFault
    made := invariant.made
    lines := invariant.lines
    pending := invariant.pending
    sending := invariant.sending
    closing := invariant.closing
    owned := invariant.owned
    alone := invariant.alone
    senders := invariant.senders
    oneLine := invariant.oneLine
    cancelled := nofun }

/-- `CancelAll` has emptied the map and releases the mutex. -/
theorem cancelReturn (invariant : MuxInvariant world)
    (emptied : world.mux.pending.entries = []) :
    MuxInvariant { world with cancelling := false } :=
  { noFault := invariant.noFault
    made := invariant.made
    lines := invariant.lines
    pending := invariant.pending
    sending := invariant.sending
    closing := invariant.closing
    owned := invariant.owned
    alone := invariant.alone
    senders := invariant.senders
    oneLine := invariant.oneLine
    cancelled := fun _ _ requestID => by
      have keys : world.mux.pending.keys = [] := by
        rw [AList.keys, emptied]
        rfl
      rw [AList.lookup_eq_none]
      intro waiting
      rw [AList.mem_keys, keys] at waiting
      cases waiting }

/-- Every step keeps each channel with its owner. -/
theorem step (invariant : MuxInvariant world) {label : MuxLabel}
    (taken : world.step label = some after) : MuxInvariant after := by
  cases label with
  | register requestID =>
      simp only [MuxWorld.step] at taken
      split_ifs at taken
      cases taken
      exact invariant.register requestID
  | unregister ch =>
      simp only [MuxWorld.step] at taken
      split_ifs at taken
      obtain ⟨line, -, rfl⟩ := Option.map_eq_some_iff.mp taken
      exact invariant.unregister ch line.requestID
  | route id msg =>
      cases msg with
      | none =>
          simp only [MuxWorld.step] at taken
          split_ifs at taken
          cases taken
          exact invariant.returns id false
      | some msg =>
          simp only [MuxWorld.step] at taken
          split_ifs at taken with used
          · cases taken
            exact invariant.returns id false
          · cases taken
            exact invariant.route msg used
  | send id =>
      simp only [MuxWorld.step] at taken
      split at taken
      · rename_i ch msg current
        exact invariant.send current taken
      · cases taken
  | close id =>
      simp only [MuxWorld.step] at taken
      split at taken
      · rename_i ch current
        cases taken
        exact invariant.closes current
      · cases taken
  | receive ch =>
      obtain ⟨line, found, rest⟩ := Option.bind_eq_some_iff.mp taken
      obtain ⟨⟨msg, channel⟩, received, rfl⟩ := Option.map_eq_some_iff.mp rest
      exact invariant.receive found received
  | cancelAll =>
      simp only [MuxWorld.step] at taken
      split_ifs at taken
      cases taken
      exact invariant.cancelAll
  | cancelNext requestID =>
      simp only [MuxWorld.step] at taken
      split_ifs at taken
      obtain ⟨ch, waiting, rfl⟩ := Option.map_eq_some_iff.mp taken
      exact invariant.deleteAndClose waiting
  | cancelReturn =>
      simp only [MuxWorld.step] at taken
      split_ifs at taken with emptied
      cases taken
      exact invariant.cancelReturn emptied.2

end MuxInvariant

/-! ## The flags -/

namespace MuxWorld

variable {before after : MuxWorld}

@[simp]
theorem mux_close (world : MuxWorld) (ch : Nat) :
    (world.close ch).mux = world.mux := by
  unfold close
  split
  · rfl
  · split <;> rfl

@[simp]
theorem cancelling_close (world : MuxWorld) (ch : Nat) :
    (world.close ch).cancelling = world.cancelling := by
  unfold close
  split
  · rfl
  · split <;> rfl

/-- `CancelAll` alone sets the flags. -/
theorem flags_of_step {label : MuxLabel}
    (taken : before.step label = some after) (other : label ≠ .cancelAll)
    (another : label ≠ .cancelReturn) :
    after.mux.closed = before.mux.closed ∧
      after.cancelling = before.cancelling := by
  cases label with
  | register requestID =>
      simp only [step] at taken
      split_ifs at taken
      cases taken
      unfold register Multiplexer.register
      by_cases closed : before.mux.closed = true
      · rw [if_pos closed]
        simp only [if_pos closed, and_self]
      · rw [if_neg closed]
        split_ifs <;> exact ⟨rfl, rfl⟩
  | unregister ch =>
      simp only [step] at taken
      split_ifs at taken
      rcases Option.map_eq_some_iff.mp taken with ⟨line, -, rfl⟩
      unfold unregister
      split_ifs
      · simp [Multiplexer.delete]
      · exact ⟨rfl, rfl⟩
  | route id msg =>
      cases msg with
      | none =>
          simp only [step] at taken
          split_ifs at taken
          cases taken
          exact ⟨rfl, rfl⟩
      | some msg =>
          simp only [step] at taken
          split_ifs at taken
          · cases taken
            exact ⟨rfl, rfl⟩
          · cases taken
            unfold route
            split <;> exact ⟨rfl, rfl⟩
  | send id =>
      simp only [step] at taken
      split at taken
      · unfold send at taken
        split at taken
        · cases taken
        · split at taken <;> cases taken <;> exact ⟨rfl, rfl⟩
      · cases taken
  | close id =>
      simp only [step] at taken
      split at taken
      · cases taken
        simp
      · cases taken
  | receive ch =>
      rcases Option.bind_eq_some_iff.mp taken with ⟨line, -, rest⟩
      rcases Option.map_eq_some_iff.mp rest with ⟨received, -, rfl⟩
      exact ⟨rfl, rfl⟩
  | cancelAll => exact absurd rfl other
  | cancelNext requestID =>
      simp only [step] at taken
      split_ifs at taken
      rcases Option.map_eq_some_iff.mp taken with ⟨ch, -, rfl⟩
      simp [Multiplexer.delete]
  | cancelReturn => exact absurd rfl another

/-- `CancelAll` closes the multiplexer before anything else. -/
theorem closed_of_cancelling {labels : List MuxLabel} {world : MuxWorld}
    (taken : run step initial labels = some world)
    (cancelling : world.cancelling = true) : world.mux.closed = true := by
  refine run_invariant (fun world => world.cancelling = true →
    world.mux.closed = true) ?_ taken nofun cancelling
  intro before after label stepTaken held running
  by_cases starts : label = .cancelAll
  · subst starts
    simp only [step] at stepTaken
    split_ifs at stepTaken
    cases stepTaken
    rfl
  · by_cases returns : label = .cancelReturn
    · subst returns
      simp only [step] at stepTaken
      split_ifs at stepTaken
      cases stepTaken
      cases running
    · rcases flags_of_step stepTaken starts returns with ⟨closed, same⟩
      rw [closed]
      exact held (same ▸ running)

end MuxWorld

/--
The multiplexer is closed and not cancelling exactly when a `CancelAll` has
returned and no other has begun since.
-/
theorem cancelled_iff {labels : List MuxLabel} {world : MuxWorld}
    (taken : run MuxWorld.step MuxWorld.initial labels = some world) :
    world.mux.closed = true ∧ world.cancelling = false ↔
      ∃ earlier event later, labels = earlier ++ event :: later ∧
        event = .cancelReturn ∧ ∀ next ∈ later, next ≠ .cancelAll := by
  refine run_history (fun labels world =>
    world.mux.closed = true ∧ world.cancelling = false ↔
      ∃ earlier event later, labels = earlier ++ event :: later ∧
        event = .cancelReturn ∧ ∀ next ∈ later, next ≠ .cancelAll)
    ?_ taken (by simp [MuxWorld.initial, Multiplexer.new])
  intro earlier before after label reaches stepTaken held
  rw [exists_since_append_singleton, ← held]
  by_cases starts : label = .cancelAll
  · subst starts
    simp only [MuxWorld.step] at stepTaken
    split_ifs at stepTaken
    cases stepTaken
    simp
  · by_cases returns : label = .cancelReturn
    · subst returns
      simp only [MuxWorld.step] at stepTaken
      split_ifs at stepTaken with emptied
      cases stepTaken
      simp [MuxWorld.closed_of_cancelling reaches emptied.1]
    · rcases MuxWorld.flags_of_step stepTaken starts returns with
        ⟨closed, same⟩
      rw [closed, same]
      simp [starts, returns]

/-! ## Every run -/

/-- In every run of its callers the multiplexer keeps its promises. -/
theorem multiplexer_sound {labels : List MuxLabel} {world : MuxWorld}
    (taken : run MuxWorld.step MuxWorld.initial labels = some world) :
    world.Sound := by
  have invariant : MuxInvariant world :=
    run_invariant MuxInvariant (fun stepTaken before => before.step stepTaken)
      taken muxInvariant_initial
  exact invariant.sound

/-- A response to a request which is registered again while it is sent. -/
def registersAgain : List MuxLabel :=
  [.register "req-1", .route 0 (some ⟨.cancel, "req-1", []⟩),
    .register "req-1", .unregister 0, .send 0, .receive 0, .cancelAll,
    .close 0, .cancelNext "req-1", .cancelReturn, .unregister 1]

theorem multiplexer_sound_registersAgain :
    ∃ world, run MuxWorld.step MuxWorld.initial registersAgain = some world ∧
      (world.lines.lookup 0).map Line.received =
        some [⟨.cancel, "req-1", []⟩] ∧ world.Sound := by
  have reached :
      (run MuxWorld.step MuxWorld.initial registersAgain).map
          (fun world => (world.lines.lookup 0).map Line.received) =
        some (some [⟨.cancel, "req-1", []⟩]) := by
    decide
  obtain ⟨world, taken, received⟩ := Option.map_eq_some_iff.mp reached
  exact ⟨world, taken, received, multiplexer_sound taken⟩

end DbosRelay.Hub
