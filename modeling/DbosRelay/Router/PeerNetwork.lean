import DbosRelay.Router.PeerForward

/-!
# The network between peers

Peers which share a secret sign requests, and one of them receives what the
network brings.  The network may lose, delay, repeat, reorder and alter requests
and bring requests of its own, but it cannot compute a signature: a request whose
signature is right has the components of one which a peer has signed.
-/

namespace DbosRelay.Router

open DbosRelay.Basic
open DbosRelay.Library.Results
open DbosRelay.Library.Runs

/-- The receiver, and the requests which have been signed. -/
structure Network where
  receiver : Receiver
  sent : List ForwardRequest

/-- A peer signs a request, or a call of the receiver moves. -/
inductive NetworkEvent (Message : Type) where
  | sends (sender : Sender) (target : Bytes × Bytes) (body : Bytes)
      (deadline : Time)
  | receives (step : ForwardStep Message)

/-- The step of the receiver. -/
def NetworkEvent.received {Message : Type} :
    NetworkEvent Message → Option (ForwardStep Message)
  | .sends _ _ _ _ => none
  | .receives step => some step

section Network

variable {Message : Type} (primitives : Primitives Message)
variable (config : ForwardConfig)

/-- The request a peer sends. -/
def signedRequest (sender : Sender) (target : Bytes × Bytes) (body : Bytes)
    (deadline : Time) : ForwardRequest :=
  sender.signRequest primitives (forwardRequest target body) body
    config.secret 0 deadline

/-- One step of the network. -/
def Network.step (network : Network) :
    NetworkEvent Message → Option Network
  | .sends sender target body deadline =>
      some
        { network with
          sent := network.sent ++
            [signedRequest primitives config sender target body deadline] }
  | .receives step =>
      (network.receiver.step primitives config step).map fun receiver =>
        { network with receiver := receiver }

/-- What the receiver dispatches in a step, with the request it came in. -/
def Network.dispatched (network : Network) :
    NetworkEvent Message → Option (ForwardRequest × DispatchCall Message)
  | .sends _ _ _ _ => none
  | .receives step => network.receiver.dispatched primitives config step

/--
What can happen.  A request line and a header are one line, the path is the one of
the request URI, and a right signature has been computed by a peer before the
receiver verifies it.
-/
def Network.Allows (pathOf : Bytes → Bytes) (network : Network) :
    NetworkEvent Message → Prop
  | .sends sender target _ deadline =>
      target.1 = pathOf target.2 ∧ 10 ∉ target.2 ∧
        10 ∉ sender.formatRFC3339Nano deadline
  | .receives step =>
      ∀ request appID now,
        network.receiver.calls.lookup step.call =
            some (.reading request appID now) →
          (SignedComponents.received request request.body).SingleLine ∧
            request.path = pathOf request.requestURI ∧
            (request.signature =
                expectedSignature primitives config.secret request
                  request.body →
              ∃ original ∈ network.sent,
                (SignedComponents.received request request.body).payload =
                  (SignedComponents.received original original.body).payload)

/-- The network before the first request, with a receiver created then. -/
def Network.initial (created : Time) : Network where
  receiver := newForwardHandler created
  sent := []

/-! ## What peers sign -/

/-- A request which a peer with the secret has signed. -/
structure ForwardRequest.Genuine (pathOf : Bytes → Bytes)
    (request : ForwardRequest) : Prop where
  lines : (SignedComponents.received request request.body).SingleLine
  path : request.path = pathOf request.requestURI
  signature : request.signature =
    expectedSignature primitives config.secret request request.body

theorem ten_not_mem_formatDigits (n : Nat) : 10 ∉ formatDigits n := by
  unfold formatDigits
  split_ifs
  · decide
  · intro member
    rw [List.mem_reverse, List.mem_map] at member
    rcases member with ⟨digit, among, isTen⟩
    have small := (digit_byte digit (Nat.digits_lt_base (by decide) among)).1
    rw [isTen] at small
    exact absurd small (by decide)

theorem ten_not_mem_formatInt (n : Int) : 10 ∉ formatInt n := by
  unfold formatInt
  split_ifs
  · rw [List.mem_cons, not_or]
    exact ⟨by decide, ten_not_mem_formatDigits _⟩
  · exact ten_not_mem_formatDigits _

/-- A hexadecimal digit is no newline. -/
theorem encodeToString_digit_ne_ten {value : UInt8} (small : value.toNat < 16) :
    encodeToString.digit value ≠ 10 := by
  unfold encodeToString.digit
  intro same
  have sameNat := congrArg UInt8.toNat same
  split_ifs at sameNat with below
  · rw [UInt8.toNat_add] at sameNat
    simp at sameNat
    omega
  · rw [UInt8.toNat_add] at sameNat
    simp at sameNat
    omega

theorem ten_not_mem_encodeToString (bytes : Bytes) :
    10 ∉ encodeToString bytes := by
  intro member
  rcases List.mem_flatMap.mp member with ⟨byte, -, written⟩
  have fits := byte.toNat_lt
  rcases List.mem_pair.mp written with isHigh | isLow
  · exact encodeToString_digit_ne_ten (by simp; omega) isHigh.symm
  · exact encodeToString_digit_ne_ten (by simp; omega) isLow.symm

variable {primitives config}
variable {sender : Sender} {target : Bytes × Bytes} {body : Bytes}
variable {deadline : Time} {pathOf : Bytes → Bytes}

/-- A request is received with the components it is signed with. -/
theorem received_signedRequest :
    SignedComponents.received
        (signedRequest primitives config sender target body deadline) body =
      sender.components (forwardRequest target body) body 0 deadline := by
  by_cases given : deadline = zeroTime
  · subst given
    simp [SignedComponents.received, signedRequest, Sender.signRequest,
      Sender.components, forwardRequest]
  · exact received_signRequest primitives sender (forwardRequest target body)
      body config.secret 0 given

/-- What a peer signs is genuine. -/
theorem genuine_signedRequest (path : target.1 = pathOf target.2)
    (uri : 10 ∉ target.2) (ends : 10 ∉ sender.formatRFC3339Nano deadline) :
    (signedRequest primitives config sender target body deadline).Genuine
      primitives config pathOf where
  lines := by
    show (SignedComponents.received
      (signedRequest primitives config sender target body deadline)
      body).SingleLine
    rw [received_signedRequest]
    intro line member
    simp only [SignedComponents.lines, Sender.components, forwardRequest,
      if_true, List.mem_cons, List.not_mem_nil, or_false] at member
    rcases member with rfl | rfl | rfl | rfl | rfl | rfl
    · exact ten_not_mem_formatInt _
    · exact ten_not_mem_formatInt _
    · decide
    · exact uri
    · exact ten_not_mem_encodeToString _
    · split_ifs
      · exact List.not_mem_nil
      · exact ends
  path := path
  signature := by
    show encodeToString (primitives.hmacSHA256 config.secret
      (sender.components (forwardRequest target body) body 0
        deadline).payload) =
      encodeToString (primitives.hmacSHA256 config.secret
        (SignedComponents.received
          (signedRequest primitives config sender target body deadline)
          body).payload)
    rw [received_signedRequest]

/-- Genuine requests with one payload are one request. -/
theorem ForwardRequest.Genuine.eq {first second : ForwardRequest}
    (firstGenuine : first.Genuine primitives config pathOf)
    (secondGenuine : second.Genuine primitives config pathOf)
    (samePayload :
      (SignedComponents.received first first.body).payload =
        (SignedComponents.received second second.body).payload) :
    first = second := by
  have same := (SignedComponents.payload_inj firstGenuine.lines
    secondGenuine.lines).mp samePayload
  have signatures : first.signature = second.signature := by
    rw [firstGenuine.signature, secondGenuine.signature, expectedSignature,
      expectedSignature, samePayload]
  have paths := firstGenuine.path
  have otherPaths := secondGenuine.path
  cases first
  cases second
  simp only [SignedComponents.received, SignedComponents.mk.injEq] at same
  rcases same with ⟨rfl, rfl, rfl, rfl, rfl, rfl, rfl⟩
  simp only at signatures paths otherPaths
  simp only [ForwardRequest.mk.injEq, true_and, and_true]
  exact ⟨paths.trans otherPaths.symm, signatures⟩

/-! ## Agreement -/

variable (primitives config pathOf) in
/-- All requests which were sent are genuine. -/
def Network.Genuine (network : Network) : Prop :=
  ∀ request ∈ network.sent, request.Genuine primitives config pathOf

theorem Network.Genuine.step {before after : Network}
    {event : NetworkEvent Message}
    (allowed : before.Allows primitives config pathOf event)
    (taken : before.step primitives config event = some after)
    (genuine : before.Genuine primitives config pathOf) :
    after.Genuine primitives config pathOf := by
  cases event with
  | sends sender target body deadline =>
      cases taken
      intro request member
      rcases List.mem_append.mp member with earlier | last
      · exact genuine request earlier
      · rw [List.mem_singleton.mp last]
        exact genuine_signedRequest allowed.1 allowed.2.1 allowed.2.2
  | receives step =>
      rcases Option.map_eq_some_iff.mp taken with ⟨receiver, -, rfl⟩
      exact genuine

/-- What is sent stays sent. -/
theorem Network.sent_step {before after : Network}
    {event : NetworkEvent Message} {request : ForwardRequest}
    (taken : before.step primitives config event = some after)
    (member : request ∈ before.sent) : request ∈ after.sent := by
  cases event with
  | sends sender target body deadline =>
      cases taken
      exact List.mem_append_left _ member
  | receives step =>
      rcases Option.map_eq_some_iff.mp taken with ⟨receiver, -, rfl⟩
      exact member

/-- A verified request is genuine, and was sent by a peer. -/
theorem Network.verified_sent {network : Network}
    {step : ForwardStep Message} {request : ForwardRequest} {appID : UUID}
    {now deadline : Time} {bodyComplete : Bool}
    (allowed : network.Allows primitives config pathOf (.receives step))
    (genuine : network.Genuine primitives config pathOf)
    (reading : network.receiver.calls.lookup step.call =
      some (.reading request appID now))
    (verified : verifyBody primitives config request bodyComplete step.time =
      .ok deadline) :
    request ∈ network.sent := by
  rcases verifyBody_ok_iff.mp verified with ⟨-, hop, verifies⟩
  rcases verifyRequest_ok verifies with ⟨-, -, -, -, -, -, signature⟩
  rcases allowed request appID now reading with ⟨lines, path, unforged⟩
  rcases unforged signature with ⟨original, isSent, samePayload⟩
  have isOriginal : request = original :=
    ForwardRequest.Genuine.eq ⟨lines, path, signature⟩
      (genuine original isSent) samePayload
  exact isOriginal ▸ isSent

variable (primitives) in
/-- A call names the application of its path, and a verified one was sent. -/
def Network.Sound (network : Network) : ForwardStage → Prop
  | .reading request appID _ =>
      forwardApplication primitives request.path = .ok appID
  | .verified request appID _ _ =>
      forwardApplication primitives request.path = .ok appID ∧
        request ∈ network.sent

variable (primitives config pathOf) in
/-- What was sent is genuine, and the calls under way are sound. -/
structure Network.Trusted (network : Network) : Prop where
  genuine : network.Genuine primitives config pathOf
  sound : ∀ call stage, network.receiver.calls.lookup call = some stage →
    network.Sound primitives stage

theorem Network.Sound.mono {before after : Network} {stage : ForwardStage}
    (grows : ∀ request ∈ before.sent, request ∈ after.sent)
    (sound : before.Sound primitives stage) :
    after.Sound primitives stage := by
  cases stage with
  | reading request appID now => exact sound
  | verified request appID now deadline =>
      exact ⟨sound.1, grows request sound.2⟩

theorem Network.Trusted.step {before after : Network}
    {event : NetworkEvent Message}
    (allowed : before.Allows primitives config pathOf event)
    (taken : before.step primitives config event = some after)
    (trusted : before.Trusted primitives config pathOf) :
    after.Trusted primitives config pathOf where
  genuine := trusted.genuine.step allowed taken
  sound := by
    intro call stage found
    have grows : ∀ request ∈ before.sent, request ∈ after.sent :=
      fun _ => Network.sent_step taken
    cases event with
    | sends sender target body deadline =>
        cases taken
        exact (trusted.sound call stage found).mono grows
    | receives step =>
        rcases Option.map_eq_some_iff.mp taken with ⟨receiver, moves, rfl⟩
        rcases Receiver.stage_step moves found with
          kept | ⟨request, appID, -, checked, rfl⟩ |
          ⟨bodyComplete, request, appID, now, deadline, -, rfl, reading,
            verified, rfl⟩
        · exact (trusted.sound call stage kept).mono grows
        · exact (checkRequest_ok_iff.mp checked).2.2.1
        · have isSent : request ∈ before.sent :=
            Network.verified_sent allowed trusted.genuine reading verified
          exact ⟨trusted.sound step.call _ reading, isSent⟩

theorem Network.trusted_initial (created : Time) :
    (Network.initial created).Trusted primitives config pathOf where
  genuine := by
    intro request absent
    cases absent
  sound := by
    intro call stage absent
    cases absent

/-- A dispatched request is one that was sent, with its message and application. -/
theorem Network.dispatched_sent {network : Network}
    {event : NetworkEvent Message} {request : ForwardRequest}
    {call : DispatchCall Message}
    (trusted : network.Trusted primitives config pathOf)
    (dispatched : network.dispatched primitives config event =
      some (request, call)) :
    request ∈ network.sent ∧
      forwardApplication primitives request.path = .ok call.appID ∧
      primitives.decode request.body = .ok call.message := by
  cases event with
  | sends sender target body deadline => cases dispatched
  | receives step =>
      simp only [Network.dispatched, Receiver.dispatched] at dispatched
      split at dispatched
      next answer asked appID now deadline move found =>
        rcases Option.map_eq_some_iff.mp dispatched with ⟨call, isCall, same⟩
        cases same
        rcases admit_dispatched_iff.mp isCall with ⟨-, decodes, named, -⟩
        rcases trusted.sound _ _ found with ⟨names, isSent⟩
        exact ⟨isSent, named ▸ names, decodes⟩
      · cases dispatched

/-- What the network brings is dispatched as in a run of the receiver. -/
theorem Network.observed_dispatched {source target : Network}
    {events : List (NetworkEvent Message)}
    (taken : run (Network.step primitives config) source events =
      some target) :
    observed (Network.step primitives config)
        (Network.dispatched primitives config) source events =
      observed (Receiver.step primitives config)
        (Receiver.dispatched primitives config) source.receiver
        (events.filterMap NetworkEvent.received) := by
  refine observed_filterMap Network.receiver NetworkEvent.received ?_ ?_ taken
  · intro before event unseen
    cases event with
    | sends sender target body deadline =>
        refine ⟨rfl, fun after stepTaken => ?_⟩
        cases stepTaken
        rfl
    | receives step => cases unseen
  · intro before event own seen
    cases event with
    | sends sender target body deadline => cases seen
    | receives step =>
        cases seen
        refine ⟨rfl, fun after stepTaken => ?_⟩
        rcases Option.map_eq_some_iff.mp stepTaken with ⟨receiver, moves, rfl⟩
        exact moves

/-- The receiver runs along its own steps. -/
theorem Network.run_receiver {source target : Network}
    {events : List (NetworkEvent Message)}
    (taken : run (Network.step primitives config) source events =
      some target) :
    run (Receiver.step primitives config) source.receiver
        (events.filterMap NetworkEvent.received) = some target.receiver := by
  refine run_filterMap Network.receiver NetworkEvent.received ?_ ?_ taken
  · intro before after event stepTaken unseen
    cases event with
    | sends sender target body deadline =>
        cases stepTaken
        rfl
    | receives step => cases unseen
  · intro before after event own stepTaken seen
    cases event with
    | sends sender target body deadline => cases seen
    | receives step =>
        cases seen
        rcases Option.map_eq_some_iff.mp stepTaken with ⟨receiver, moves, rfl⟩
        exact moves

/--
Injective agreement between the peers.  In every run, with any number of calls of
the receiver under way, what the receiver dispatches has been sent by a peer with
the secret, to the same application and with the same message; and if the copies
of each request that pass the other checks ask the nonce cache at most `maxDrift`
after the first of them has arrived, no request is dispatched twice.
-/
theorem injective_agreement (primitives : Primitives Message)
    (config : ForwardConfig) (pathOf : Bytes → Bytes) (created : Time)
    (events : List (NetworkEvent Message)) (network : Network)
    (guarded : GuardedRun (Network.step primitives config)
      (Network.Allows primitives config pathOf) (.initial created) events
      network) :
    (∀ request call, (request, call) ∈
        observed (Network.step primitives config)
          (Network.dispatched primitives config) (.initial created) events →
      request ∈ network.sent ∧
        forwardApplication primitives request.path = .ok call.appID ∧
        primitives.decode request.body = .ok call.message) ∧
    ((∀ request, Prompt config.drift
        (admissions primitives config created request
          (events.filterMap NetworkEvent.received))) →
      ((observed (Network.step primitives config)
        (Network.dispatched primitives config) (.initial created)
          events).map Prod.fst).Nodup) := by
  constructor
  · intro request call member
    rcases exists_of_mem_observed member with
      ⟨earlier, event, later, before, rfl, reaches, dispatched⟩
    have trusted := (guarded.at_position (Network.Trusted primitives config
      pathOf) Network.Trusted.step (Network.trusted_initial created)
        reaches).1
    rcases Network.dispatched_sent trusted dispatched with
      ⟨isSent, names, decodes⟩
    exact ⟨(guarded.from_position reaches).2.invariant
      (fun state => request ∈ state.sent)
      (fun _ taken sent => Network.sent_step taken sent) isSent, names,
      decodes⟩
  · intro prompt
    rw [List.nodup_iff_count_le_one, Network.observed_dispatched
      guarded.run_eq]
    intro request
    exact (progress_of_run (Network.run_receiver guarded.run_eq)
      (prompt request)).le_one

/-! ## A network without forgeries -/

/-- The network brings only requests which a peer has sent. -/
def Network.Relays (pathOf : Bytes → Bytes) (network : Network) :
    NetworkEvent Message → Prop
  | .sends sender target _ deadline =>
      target.1 = pathOf target.2 ∧ 10 ∉ target.2 ∧
        10 ∉ sender.formatRFC3339Nano deadline
  | .receives ⟨_, _, .arrives request⟩ => request ∈ network.sent
  | .receives _ => True

instance (network : Network) :
    ∀ event : NetworkEvent Message, Decidable (network.Relays pathOf event)
  | .sends _ _ _ _ => inferInstanceAs (Decidable (_ ∧ _ ∧ _))
  | .receives ⟨_, _, .arrives _⟩ => inferInstanceAs (Decidable (_ ∈ _))
  | .receives ⟨_, _, .verifies _⟩ => isTrue trivial
  | .receives ⟨_, _, .admits _⟩ => isTrue trivial

/-- What such a network does can happen. -/
theorem Network.allows_of_relays {source target : Network}
    {events : List (NetworkEvent Message)}
    (genuine : source.Genuine primitives config pathOf)
    (readings : ∀ call request appID now,
      source.receiver.calls.lookup call = some (.reading request appID now) →
        request ∈ source.sent)
    (guarded : GuardedRun (Network.step primitives config)
      (Network.Relays pathOf) source events target) :
    GuardedRun (Network.step primitives config)
      (Network.Allows primitives config pathOf) source events target := by
  induction guarded with
  | nil network => exact .nil network
  | @cons before after target event events relays taken rest induction =>
      have allowed : before.Allows primitives config pathOf event := by
        cases event with
        | sends sender target body deadline => exact relays
        | receives step =>
            intro request appID now reading
            have isSent := readings step.call request appID now reading
            exact ⟨(genuine request isSent).lines, (genuine request isSent).path,
              fun _ => ⟨request, isSent, rfl⟩⟩
      refine .cons allowed taken (induction (genuine.step allowed taken) ?_)
      intro call request appID now found
      cases event with
      | sends sender target body deadline =>
          cases taken
          exact List.mem_append_left _ (readings call request appID now found)
      | receives step =>
          rcases Option.map_eq_some_iff.mp taken with ⟨receiver, moves, rfl⟩
          rcases Receiver.stage_step moves found with
            kept | ⟨arrived, named, move, -, same⟩ |
            ⟨bodyComplete, verified, named, read, deadline, -, -, -, -, same⟩
          · exact readings call request appID now kept
          · cases same
            rcases step with ⟨asked, time, next⟩
            cases move
            exact relays
          · cases same

end Network

/-! ## A request and its replay -/

/-- A request of a peer. -/
def replayed : ForwardRequest :=
  signedRequest peerPrimitives samplePeer.config sampleSender
    (applicationPath, applicationPath) executorInfo 1030500000000

/-- It is sent; two copies arrive, and the second one waits for its body. -/
def replayedEvents : List (NetworkEvent Unit) :=
  [.sends sampleSender (applicationPath, applicationPath) executorInfo
      1030500000000,
    .receives ⟨0, 1001 * second, .arrives replayed⟩,
    .receives ⟨1, 1002 * second, .arrives replayed⟩,
    .receives ⟨0, 1003 * second, .verifies true⟩,
    .receives ⟨0, 1003 * second, .admits (.ok ())⟩,
    .receives ⟨1, 1011 * second, .verifies true⟩,
    .receives ⟨1, 1011 * second, .admits (.ok ())⟩]

theorem injective_agreement_replayed :
    ∃ network, GuardedRun (Network.step peerPrimitives samplePeer.config)
        (Network.Allows peerPrimitives samplePeer.config id) (.initial 0)
        replayedEvents network ∧
      ((observed (Network.step peerPrimitives samplePeer.config)
        (Network.dispatched peerPrimitives samplePeer.config) (.initial 0)
          replayedEvents).map Prod.fst).Nodup := by
  have relayed : (runGuarded (Network.step peerPrimitives samplePeer.config)
      (Network.Relays id) (.initial 0) replayedEvents).isSome = true := by
    decide
  rcases Option.isSome_iff_exists.mp relayed with ⟨network, reaches⟩
  have guarded : GuardedRun (Network.step peerPrimitives samplePeer.config)
      (Network.Allows peerPrimitives samplePeer.config id) (.initial 0)
      replayedEvents network :=
    Network.allows_of_relays (Network.trusted_initial 0).genuine
      (fun call request appID now absent => by cases absent)
      (guardedRun_of_runGuarded reaches)
  refine ⟨network, guarded, (injective_agreement peerPrimitives
    samplePeer.config id 0 replayedEvents network guarded).2 ?_⟩
  intro request
  have copies : observed (Receiver.step peerPrimitives samplePeer.config)
      (Receiver.admission peerPrimitives) (newForwardHandler 0)
      (replayedEvents.filterMap NetworkEvent.received) =
        [⟨replayed, 1001 * second, 1003 * second⟩,
          ⟨replayed, 1002 * second, 1011 * second⟩] := by
    decide
  rw [admissions, copies]
  by_cases same : replayed = request
  · subst same
    decide
  · simp only [same, List.filter_cons, decide_false, Bool.false_eq_true,
      if_false, List.filter_nil]
    trivial

end DbosRelay.Router
