import DbosRelay.Router.Dispatch
import DbosRelay.Router.Freshness
import DbosRelay.Router.Replay

/-!
# A forward and its outcome

`Forwarder.Forward` of `internal/router/forward.go` and the handler of
`NewForwardHandler` at the two ends of an HTTP exchange.  What the router is told
of the exchange is sound: a response is the answer of the peer's dispatcher to the
message that was sent, and a failure which rules out that the message has been
applied does so rightly.  If the peers share a secret and their clocks, the
message is dispatched and answered.
-/

namespace DbosRelay.Router

open DbosRelay.Basic
open DbosRelay.Library.Results

/-! ## The forwarder -/

/-- The bytes of a text. -/
def utf8 (text : String) : Bytes := text.toUTF8.toList

/-- The errors of `Forward`. -/
inductive ForwardError where
  | encoding (cause : String)
  | creating (cause : String)
  | dispatching (cause : String)
  | reading (cause : String)
  | returned (status : Nat) (body : Bytes)
  | decoding (cause : String)
deriving DecidableEq, Repr

/-- `Error`. -/
def ForwardError.text : ForwardError → Bytes
  | .encoding cause =>
      utf8 "encoding protocol message for forward: " ++ utf8 cause
  | .creating cause => utf8 cause
  | .dispatching cause => utf8 "dispatching forward request: " ++ utf8 cause
  | .reading cause => utf8 "reading forward response: " ++ utf8 cause
  | .returned status body =>
      utf8 "forward peer returned status " ++ formatInt status ++
        utf8 ": " ++ body
  | .decoding cause => utf8 "decoding forward response: " ++ utf8 cause

/-- What `Do` of an HTTP client comes to; the body is read afterwards. -/
abbrev HttpResult := Except String (Nat × Except String Bytes)

/-- What `Forward` takes from outside. -/
structure Forwarder (Message : Type) where
  secret : Bytes
  sender : Sender
  /-- `time.Now`, when the context has no deadline. -/
  startedAt : Time
  /-- The path and the request URI of a URL, as `NewRequestWithContext` finds them. -/
  parseURL : Bytes → Except String (Bytes × Bytes)
  /-- `protocol.DecodeResponse`. -/
  decodeResponse : Bytes → Except String Message

/-- The request before it is signed. -/
def forwardRequest (target : Bytes × Bytes) (body : Bytes) :
    ForwardRequest where
  method := ascii "POST"
  path := target.1
  requestURI := target.2
  signature := []
  timestamp := []
  hop := []
  nonce := []
  deadline := []
  body := body

section Forwarding

variable {Message : Type} (primitives : Primitives Message)
variable (forwarder : Forwarder Message)

/-- The deadline of the context, or half a minute. -/
def Forwarder.deadline (ctxDeadline : Option Time) : Time :=
  ctxDeadline.getD (forwarder.startedAt + 30 * second)

/-- The request as it is sent. -/
def Forwarder.signed (ctxDeadline : Option Time) (target : Bytes × Bytes)
    (body : Bytes) : ForwardRequest :=
  forwarder.sender.signRequest primitives (forwardRequest target body) body
    forwarder.secret 0 (forwarder.deadline ctxDeadline)

/-- What `Forward` makes of an answer. -/
def Forwarder.receive (status : Nat) (respBody : Except String Bytes) :
    Except ForwardError Message := do
  let respBody ← respBody.mapError .reading
  if status < 200 ∨ 300 ≤ status then .error (.returned status respBody)
  else (forwarder.decodeResponse respBody).mapError .decoding

/-- `Forwarder.Forward`. -/
def Forwarder.forward (ctxDeadline : Option Time) (targetURL : Bytes)
    (exchange : ForwardRequest → HttpResult) (msg : Message) :
    Except ForwardError Message := do
  let body ← (primitives.encode msg).mapError .encoding
  let target ← (forwarder.parseURL targetURL).mapError .creating
  let (status, respBody) ←
    (exchange (forwarder.signed primitives ctxDeadline target body)).mapError
      .dispatching
  forwarder.receive status respBody

/-! ## The exchange -/

/-- The status and the body of an answer; `http.Error` ends a text with a newline. -/
def Response.http : Response → Nat × Bytes
  | .error text status => (status, utf8 text ++ [10])
  | .ok body => (200, body)

/-- What the peer meets when the request arrives. -/
structure PeerMoment (Message : Type) where
  config : ForwardConfig
  cache : NonceCache
  now : Time
  verifiedAt : Time
  bodyComplete : Bool
  answer : Except String Message

/-- The request arrives at the peer. -/
def PeerMoment.arrival (peer : PeerMoment Message) (request : ForwardRequest) :
    Arrival Message where
  request := request
  now := peer.now
  verifiedAt := peer.verifiedAt
  bodyComplete := peer.bodyComplete
  answer := peer.answer

/-- What the handler does with it. -/
def PeerMoment.handled (peer : PeerMoment Message) (request : ForwardRequest) :
    Handled Message :=
  (handleForward primitives peer.config peer.cache (peer.arrival request)).1

/-- How far an exchange gets. -/
inductive Exchange (Message : Type) where
  /-- The request does not arrive. -/
  | unreachable (cause : String)
  /-- It arrives, but no answer comes back. -/
  | cutOff (peer : PeerMoment Message) (cause : String)
  /-- The answer ends in its body. -/
  | truncated (peer : PeerMoment Message) (cause : String)
  | answered (peer : PeerMoment Message)

/-- What the client sees of the exchange. -/
def Exchange.http (exchange : Exchange Message) (request : ForwardRequest) :
    HttpResult :=
  match exchange with
  | .unreachable cause => .error cause
  | .cutOff _ cause => .error cause
  | .truncated peer cause =>
      .ok ((peer.handled primitives request).response.http.1, .error cause)
  | .answered peer =>
      .ok ((peer.handled primitives request).response.http.1,
        .ok (peer.handled primitives request).response.http.2)

/-- The call of the peer's dispatcher, if it comes to one. -/
def Exchange.dispatched (exchange : Exchange Message)
    (request : ForwardRequest) : Option (DispatchCall Message) :=
  match exchange with
  | .unreachable _ => none
  | .cutOff peer _ => (peer.handled primitives request).dispatched
  | .truncated peer _ => (peer.handled primitives request).dispatched
  | .answered peer => (peer.handled primitives request).dispatched

/-! ## What is passed on -/

variable {primitives forwarder}
variable {config : ForwardConfig} {arrival : Arrival Message}
variable {appID : UUID} {deadline : Time}

/-- A request is authentic if it passes every check. -/
theorem authenticate_ok_iff :
    authenticate primitives config arrival = .ok (appID, deadline) ↔
      arrival.request.method = ascii "POST" ∧ config.secret ≠ [] ∧
        forwardApplication primitives arrival.request.path = .ok appID ∧
        checkHeaders primitives arrival.request config.drift arrival.now =
          .ok () ∧
        readBody arrival.request.body arrival.bodyComplete =
          .ok arrival.request.body ∧
        ∃ hop, verifyRequest primitives arrival.request arrival.request.body
          config.secret config.drift arrival.verifiedAt =
            .ok (hop, deadline) := by
  simp only [authenticate, bind_ok_iff, checkRequest_ok_iff, verifyBody_ok_iff]
  constructor
  · rintro ⟨found, ⟨posted, configured, names, checks⟩, ends,
      ⟨reads, hop, verified⟩, same⟩
    cases same
    exact ⟨posted, configured, names, checks, reads, hop, verified⟩
  · rintro ⟨posted, configured, names, checks, reads, hop, verified⟩
    exact ⟨appID, ⟨posted, configured, names, checks⟩, deadline,
      ⟨reads, hop, verified⟩, rfl⟩

/-- A dispatched request is authentic and new, and its body is the message. -/
theorem handleForward_dispatched_iff {cache : NonceCache}
    {call : DispatchCall Message} :
    (handleForward primitives config cache arrival).1.dispatched = some call ↔
      authenticate primitives config arrival = .ok (call.appID, call.deadline) ∧
        (cache.checkAndRecord arrival.request.nonce arrival.now
          config.drift).1 = true ∧
        primitives.decode arrival.request.body = .ok call.message := by
  unfold handleForward
  cases authenticate primitives config arrival with
  | error response => simp
  | ok authenticated =>
      rcases authenticated with ⟨appID, deadline⟩
      rw [admit_dispatched_iff, Except.ok.injEq, Prod.mk.injEq,
        eq_comm (a := appID), eq_comm (a := deadline)]
      tauto

/-- What is dispatched is answered by the dispatcher or with a status of its own. -/
theorem handleForward_response {cache : NonceCache}
    {call : DispatchCall Message}
    (dispatched : (handleForward primitives config cache arrival).1.dispatched =
      some call) :
    (handleForward primitives config cache arrival).1.response =
      (dispatchMessage primitives arrival.answer call).response := by
  rcases handleForward_dispatched_iff.mp dispatched with
    ⟨authentic, isNew, decodes⟩
  simp only [handleForward, admitRequest, authentic, isNew, if_true, decodes]

/-- An answer of the handler's own, or of the router in front of it. -/
def Response.Refuses (response : Response) : Prop :=
  ∃ text status, response = .error text status ∧ 400 ≤ status ∧ status < 500

theorem forwardApplication_refuses {path : Bytes} {response : Response}
    (refused : forwardApplication primitives path = .error response) :
    response.Refuses := by
  unfold forwardApplication at refused
  dsimp only at refused
  split at refused
  · split_ifs at refused
    · split at refused
      · cases refused
        exact ⟨_, _, rfl, by decide, by decide⟩
      · cases refused
    · cases refused
      exact ⟨_, _, rfl, by decide, by decide⟩
  · cases refused
    exact ⟨_, _, rfl, by decide, by decide⟩

theorem checkHeaders_refuses {req : ForwardRequest} {maxDrift : Duration}
    {now : Time} {response : Response}
    (refused : checkHeaders primitives req maxDrift now = .error response) :
    response.Refuses := by
  unfold checkHeaders at refused
  repeat' split at refused
  all_goals cases refused
  all_goals exact ⟨_, _, rfl, by decide, by decide⟩

theorem readBody_refuses {body : Bytes} {complete : Bool}
    {response : Response}
    (refused : readBody body complete = .error response) :
    response.Refuses := by
  unfold readBody at refused
  split_ifs at refused
  · cases refused
    exact ⟨_, _, rfl, by decide, by decide⟩
  · cases refused
    exact ⟨_, _, rfl, by decide, by decide⟩

theorem checkRequest_refuses {req : ForwardRequest} {now : Time}
    {response : Response}
    (refused : checkRequest primitives config req now = .error response) :
    response.Refuses := by
  unfold checkRequest at refused
  by_cases posted : req.method = ascii "POST"
  · by_cases configured : config.secret = []
    · simp only [posted, configured, ne_eq, not_true_eq_false, if_false,
        if_true] at refused
      cases refused
      exact ⟨_, _, rfl, by decide, by decide⟩
    · simp only [posted, configured, ne_eq, not_true_eq_false, if_false,
        bind_error_iff] at refused
      rcases refused with unnamed | ⟨_, _, unchecked | ⟨_, _, refused⟩⟩
      · exact forwardApplication_refuses unnamed
      · exact checkHeaders_refuses unchecked
      · cases refused
  · simp only [posted, ne_eq, not_false_eq_true, if_true] at refused
    cases refused
    exact ⟨_, _, rfl, by decide, by decide⟩

theorem verifyBody_refuses {req : ForwardRequest} {bodyComplete : Bool}
    {verifiedAt : Time} {response : Response}
    (refused : verifyBody primitives config req bodyComplete verifiedAt =
      .error response) :
    response.Refuses := by
  simp only [verifyBody, bind_error_iff] at refused
  rcases refused with unread | ⟨_, _, refused⟩
  · exact readBody_refuses unread
  · split at refused
    · cases refused
      exact ⟨_, _, rfl, by decide, by decide⟩
    · cases refused
      exact ⟨_, _, rfl, by decide, by decide⟩
    · cases refused

/-- A request which is not authentic is refused. -/
theorem authenticate_refuses {response : Response}
    (refused : authenticate primitives config arrival = .error response) :
    response.Refuses := by
  simp only [authenticate, bind_error_iff] at refused
  rcases refused with unchecked | ⟨_, _, unverified | ⟨_, _, refused⟩⟩
  · exact checkRequest_refuses unchecked
  · exact verifyBody_refuses unverified
  · cases refused

/-- What is not dispatched is refused. -/
theorem handleForward_refuses {cache : NonceCache}
    (undispatched :
      (handleForward primitives config cache arrival).1.dispatched = none) :
    (handleForward primitives config cache arrival).1.response.Refuses := by
  unfold handleForward at undispatched ⊢
  cases outcome : authenticate primitives config arrival with
  | error response => exact authenticate_refuses outcome
  | ok authenticated =>
      rcases authenticated with ⟨appID, deadline⟩
      simp only [outcome, admitRequest] at undispatched ⊢
      split_ifs at undispatched ⊢
      · split at undispatched
        · exact ⟨_, _, rfl, by decide, by decide⟩
        · cases undispatched
      · exact ⟨_, _, rfl, by decide, by decide⟩

/-! ## The outcome -/

/-- What a failure leaves open. -/
def ForwardError.mayHaveApplied : ForwardError → Bool
  | .encoding _ => false
  | .creating _ => false
  | .dispatching _ => true
  | .reading _ => true
  | .returned status _ => status = 500 || status = 502
  | .decoding _ => true

/-- The outcome of a forward as the router is told. -/
def forwardOutcome :
    Except ForwardError Protocol.Message → ForwardOutcome
  | .ok response => .answers response
  | .error error => .fails error.mayHaveApplied

variable {ctxDeadline : Option Time} {targetURL : Bytes} {msg : Message}
variable {exchange : Exchange Message} {peer : PeerMoment Message}
variable {request : ForwardRequest}

theorem receive_ok_iff {status : Nat} {respBody : Except String Bytes}
    {response : Message} :
    forwarder.receive status respBody = .ok response ↔
      ∃ bytes, respBody = .ok bytes ∧ (200 ≤ status ∧ status < 300) ∧
        forwarder.decodeResponse bytes = .ok response := by
  have fine : (200 ≤ status ∧ status < 300) ↔
      ¬(status < 200 ∨ 300 ≤ status) := by
    omega
  unfold Forwarder.receive
  rw [bind_ok_iff]
  apply exists_congr
  intro bytes
  rw [mapError_ok_iff, fine]
  split_ifs with failed
  · simp [failed]
  · rw [mapError_ok_iff]
    simp [failed]

/-- `Forward` once the request is made. -/
theorem forward_eq {http : ForwardRequest → HttpResult} {body : Bytes}
    {target : Bytes × Bytes} (encodes : primitives.encode msg = .ok body)
    (parses : forwarder.parseURL targetURL = .ok target) :
    forwarder.forward primitives ctxDeadline targetURL http msg =
      ((http (forwarder.signed primitives ctxDeadline target body)).mapError
        .dispatching).bind fun answer =>
          forwarder.receive answer.1 answer.2 := by
  unfold Forwarder.forward
  rw [encodes, parses]
  rfl

/-- An answer of 200 is the dispatcher's. -/
theorem handled_answered {status : Nat} {bytes : Bytes}
    (http : (peer.handled primitives request).response.http = (status, bytes))
    (fine : 200 ≤ status ∧ status < 300) :
    ∃ call result, (peer.handled primitives request).dispatched = some call ∧
      peer.answer = .ok result ∧ primitives.encode result = .ok bytes := by
  cases dispatched : (peer.handled primitives request).dispatched with
  | none =>
      rcases handleForward_refuses dispatched with
        ⟨text, code, refuses, atLeast, -⟩
      have same : (peer.handled primitives request).response.http.1 = code :=
        congrArg (fun response => (Response.http response).1) refuses
      rw [http] at same
      simp only at same
      omega
  | some call =>
      have responds : (peer.handled primitives request).response =
          (dispatchMessage primitives peer.answer call).response :=
        handleForward_response dispatched
      rw [responds] at http
      simp only [dispatchMessage] at http
      cases answers : peer.answer with
      | error cause =>
          rw [answers] at http
          cases http
          omega
      | ok result =>
          rw [answers] at http
          simp only at http
          cases encodes : primitives.encode result with
          | error cause =>
              rw [encodes] at http
              cases http
              omega
          | ok written =>
              rw [encodes] at http
              cases http
              exact ⟨call, result, rfl, rfl, encodes⟩

/-- Only a forward which is answered returns a response. -/
theorem http_ok {status : Nat} {bytes : Bytes}
    (http : exchange.http primitives request = .ok (status, .ok bytes)) :
    ∃ peer, exchange = .answered peer ∧
      (peer.handled primitives request).response.http = (status, bytes) := by
  cases exchange with
  | unreachable cause => cases http
  | cutOff peer cause => cases http
  | truncated peer cause => cases http
  | answered peer =>
      have same := Prod.ext_iff.mp (Except.ok.inj http)
      exact ⟨peer, rfl, Prod.ext same.1 (Except.ok.inj same.2)⟩

/-- A response is the answer of the peer's dispatcher to the message. -/
theorem forward_ok {response : Message}
    (returns : forwarder.forward primitives ctxDeadline targetURL
      (exchange.http primitives) msg = .ok response) :
    ∃ peer body target call result bytes, exchange = .answered peer ∧
      primitives.encode msg = .ok body ∧
      forwarder.parseURL targetURL = .ok target ∧
      exchange.dispatched primitives
        (forwarder.signed primitives ctxDeadline target body) = some call ∧
      forwardApplication primitives target.1 = .ok call.appID ∧
      primitives.decode body = .ok call.message ∧
      peer.answer = .ok result ∧ primitives.encode result = .ok bytes ∧
      forwarder.decodeResponse bytes = .ok response := by
  unfold Forwarder.forward at returns
  simp only [bind_ok_iff, mapError_ok_iff] at returns
  rcases returns with
    ⟨body, encodes, target, parses, ⟨status, respBody⟩, http, received⟩
  rcases receive_ok_iff.mp received with ⟨bytes, rfl, fine, decodes⟩
  rcases http_ok http with ⟨peer, rfl, answers⟩
  rcases handled_answered answers fine with
    ⟨call, result, dispatched, answer, written⟩
  rcases handleForward_dispatched_iff.mp dispatched with
    ⟨authentic, -, isMessage⟩
  exact ⟨peer, body, target, call, result, bytes, rfl, encodes, parses,
    dispatched, (authenticate_ok_iff.mp authentic).2.2.1, isMessage, answer,
    written, decodes⟩

/-- What has been dispatched is answered with one of three statuses. -/
theorem handled_status {call : DispatchCall Message}
    (dispatched : (peer.handled primitives request).dispatched = some call) :
    (peer.handled primitives request).response.http.1 = 200 ∨
      (peer.handled primitives request).response.http.1 = 500 ∨
      (peer.handled primitives request).response.http.1 = 502 := by
  have responds : (peer.handled primitives request).response =
      (dispatchMessage primitives peer.answer call).response :=
    handleForward_response dispatched
  rw [responds]
  simp only [dispatchMessage]
  cases peer.answer with
  | error cause => exact .inr (.inr rfl)
  | ok result =>
      simp only
      cases primitives.encode result with
      | error cause => exact .inr (.inl rfl)
      | ok bytes => exact .inl rfl

/-- A failure which rules out that the message has been applied does so rightly. -/
theorem forward_error {error : ForwardError}
    (fails : forwarder.forward primitives ctxDeadline targetURL
      (exchange.http primitives) msg = .error error)
    (excluded : error.mayHaveApplied = false) {body : Bytes}
    {target : Bytes × Bytes} (encodes : primitives.encode msg = .ok body)
    (parses : forwarder.parseURL targetURL = .ok target) :
    exchange.dispatched primitives
      (forwarder.signed primitives ctxDeadline target body) = none := by
  rw [forward_eq encodes parses] at fails
  generalize forwarder.signed primitives ctxDeadline target body = request
    at fails ⊢
  cases exchange with
  | unreachable cause => rfl
  | cutOff peer cause =>
      cases fails
      cases excluded
  | truncated peer cause =>
      cases fails
      cases excluded
  | answered peer =>
      cases dispatched : (peer.handled primitives request).dispatched with
      | none => exact dispatched
      | some call =>
          have received : forwarder.receive
              (peer.handled primitives request).response.http.1
              (.ok (peer.handled primitives request).response.http.2) =
                .error error := fails
          rcases handled_status dispatched with status | status | status
          · rw [status] at received
            rcases mapError_error_iff.mp received with ⟨cause, -, rfl⟩
            cases excluded
          · rw [status] at received
            cases received
            cases excluded
          · rw [status] at received
            cases received
            cases excluded

/--
What the router is told of a forward is sound.  A response is the answer which the
dispatcher of the peer gave to the message, for the application of the target; and
if the failure rules out that the message has been applied, it was not dispatched.
-/
theorem forwardOutcome_sound (primitives : Primitives Protocol.Message)
    (forwarder : Forwarder Protocol.Message) (ctxDeadline : Option Time)
    (targetURL : Bytes) (exchange : Exchange Protocol.Message)
    (msg : Protocol.Message) :
    (∀ response,
      forwardOutcome (forwarder.forward primitives ctxDeadline targetURL
          (exchange.http primitives) msg) = .answers response →
        ∃ peer body target call result bytes, exchange = .answered peer ∧
          primitives.encode msg = .ok body ∧
          forwarder.parseURL targetURL = .ok target ∧
          exchange.dispatched primitives
            (forwarder.signed primitives ctxDeadline target body) =
              some call ∧
          forwardApplication primitives target.1 = .ok call.appID ∧
          primitives.decode body = .ok call.message ∧
          peer.answer = .ok result ∧ primitives.encode result = .ok bytes ∧
          forwarder.decodeResponse bytes = .ok response) ∧
    (forwardOutcome (forwarder.forward primitives ctxDeadline targetURL
          (exchange.http primitives) msg) = .fails false →
        ∀ body target, primitives.encode msg = .ok body →
          forwarder.parseURL targetURL = .ok target →
            exchange.dispatched primitives
              (forwarder.signed primitives ctxDeadline target body) = none) := by
  constructor
  · intro response told
    cases outcome : forwarder.forward primitives ctxDeadline targetURL
        (exchange.http primitives) msg with
    | error error =>
        rw [outcome] at told
        cases told
    | ok answer =>
        rw [outcome] at told
        cases told
        exact forward_ok outcome
  · intro told body target encodes parses
    cases outcome : forwarder.forward primitives ctxDeadline targetURL
        (exchange.http primitives) msg with
    | error error =>
        rw [outcome] at told
        exact forward_error outcome (ForwardOutcome.fails.inj told) encodes
          parses
    | ok answer =>
        rw [outcome] at told
        cases told

/-! ## Peers which agree -/

variable (primitives forwarder ctxDeadline) in
/--
The peers share a secret, their clocks show that the request is fresh when it is
received, its deadline is one `VerifyRequest` honours, and its nonce is new.
-/
structure Agree (peer : PeerMoment Message) (target : Bytes × Bytes)
    (body : Bytes) : Prop where
  complete : forwarder.sender.Complete primitives
    (forwarder.deadline ctxDeadline)
  shared : peer.config.secret = forwarder.secret
  configured : forwarder.secret ≠ []
  given : forwarder.deadline ctxDeadline ≠ zeroTime
  clock : unixSeconds forwarder.sender.now =
    forwarder.sender.now / 1000000000
  sent : forwarder.sender.now ≤ peer.verifiedAt
  before : peer.verifiedAt < forwarder.deadline ctxDeadline
  later : forwarder.sender.now / 1000000000 <
    forwarder.deadline ctxDeadline / 1000000000
  unrounded : ¬(peer.verifiedAt / 1000000000 =
      forwarder.sender.now / 1000000000 ∧
    forwarder.deadline ctxDeadline / 1000000000 =
      forwarder.sender.now / 1000000000 + 60 ∧
    peer.verifiedAt % 1000000000 <
      forwarder.deadline ctxDeadline % 1000000000)
  checked : drift peer.now (unixSeconds forwarder.sender.now) ≤
    peer.config.drift
  verified : drift peer.verifiedAt (unixSeconds forwarder.sender.now) ≤
    peer.config.drift
  whole : peer.bodyComplete = true
  small : body.length ≤ maxForwardBodyBytes
  isNew : (peer.cache.checkAndRecord
    (forwarder.signed primitives ctxDeadline target body).nonce peer.now
    peer.config.drift).1 = true

variable {target : Bytes × Bytes} {body : Bytes}

/-- Peers which agree take the request for authentic, with a deadline it can meet. -/
theorem Agree.authentic (fourDigits : primitives.FourDigitYears)
    (agree : Agree primitives forwarder ctxDeadline peer target body)
    (names : forwardApplication primitives target.1 = .ok appID) :
    ∃ accepted, peer.verifiedAt < accepted ∧
      accepted ≤ peer.verifiedAt + 60 * second ∧
      authenticate primitives peer.config
        (peer.arrival (forwarder.signed primitives ctxDeadline target body)) =
          .ok (appID, accepted) := by
  have honoured : DeadlineHonoured primitives
      (forwarder.signed primitives ctxDeadline target body) body
      forwarder.secret peer.config.drift peer.verifiedAt :=
    (deadlineHonoured_iff fourDigits agree.complete agree.configured
      agree.given agree.clock (lt_of_le_of_lt agree.sent agree.before)
      agree.sent agree.before agree.verified).mpr
        ⟨agree.later, agree.unrounded⟩
  have hops := hop_signRequest primitives forwarder.sender
    (forwardRequest target body) body forwarder.secret
    (forwarder.deadline ctxDeadline)
  have stamped := timestamp_signRequest primitives forwarder.sender
    (forwardRequest target body) body forwarder.secret 0
    (forwarder.deadline ctxDeadline)
  have signed := signed_signRequest agree.complete (forwardRequest target body)
    body forwarder.secret 0
  have unexpired := honoured.checked
  unfold Forwarder.signed at unexpired
  rw [checkHeaders_eq signed stamped agree.verified hops (by decide),
    deadline_signRequest primitives forwarder.sender _ body forwarder.secret 0
      agree.given] at unexpired
  have checks : checkHeaders primitives
      (forwarder.signed primitives ctxDeadline target body) peer.config.drift
      peer.now = .ok () := by
    unfold Forwarder.signed
    rw [checkHeaders_eq signed stamped agree.checked hops (by decide),
      deadline_signRequest primitives forwarder.sender _ body forwarder.secret
        0 agree.given]
    rw [checkDeadline, if_neg agree.complete.formats,
      agree.complete.parses] at unexpired ⊢
    simp only at unexpired ⊢
    split_ifs at unexpired ⊢
    · exact absurd rfl unexpired
    · rfl
  rcases honoured.bounded with ⟨accepted, verifies, after, within⟩
  refine ⟨accepted, after, within, authenticate_ok_iff.mpr
    ⟨rfl, ?_, names, checks, ?_, 0, ?_⟩⟩
  · show peer.config.secret ≠ []
    rw [agree.shared]
    exact agree.configured
  · show readBody body peer.bodyComplete = .ok body
    rw [readBody, if_neg (not_lt.mpr agree.small), if_pos agree.whole]
  · show verifyRequest primitives _ body peer.config.secret _ _ = _
    rw [agree.shared]
    exact verifies

variable (primitives forwarder) in
/-- What `Forward` makes of the answer of the peer's dispatcher. -/
def Forwarder.relayed (answer : Except String Message) :
    Except ForwardError Message :=
  match answer with
  | .error cause =>
      .error (.returned 502 (utf8 ("dispatch error: " ++ cause) ++ [10]))
  | .ok result =>
      match primitives.encode result with
      | .error cause =>
          .error (.returned 500
            (utf8 ("encoding response: " ++ cause) ++ [10]))
      | .ok bytes => (forwarder.decodeResponse bytes).mapError .decoding

/--
Between peers which agree, the dispatcher of the one gets the message, the
application and a deadline at most a minute away, and the other gets its answer.
-/
theorem forward_delivers {message : Message}
    (fourDigits : primitives.FourDigitYears)
    (agree : Agree primitives forwarder ctxDeadline peer target body)
    (encodes : primitives.encode msg = .ok body)
    (parses : forwarder.parseURL targetURL = .ok target)
    (names : forwardApplication primitives target.1 = .ok appID)
    (decodes : primitives.decode body = .ok message) :
    (∃ accepted, peer.verifiedAt < accepted ∧
      accepted ≤ peer.verifiedAt + 60 * second ∧
      (Exchange.answered peer).dispatched primitives
        (forwarder.signed primitives ctxDeadline target body) =
          some ⟨appID, message, accepted⟩) ∧
    forwarder.forward primitives ctxDeadline targetURL
        ((Exchange.answered peer).http primitives) msg =
      forwarder.relayed primitives peer.answer := by
  rcases agree.authentic fourDigits names with
    ⟨accepted, after, within, authentic⟩
  have dispatched : (peer.handled primitives
      (forwarder.signed primitives ctxDeadline target body)).dispatched =
        some ⟨appID, message, accepted⟩ :=
    handleForward_dispatched_iff.mpr ⟨authentic, agree.isNew, decodes⟩
  have responds : (peer.handled primitives
      (forwarder.signed primitives ctxDeadline target body)).response = _ :=
    handleForward_response dispatched
  refine ⟨⟨accepted, after, within, dispatched⟩, ?_⟩
  rw [forward_eq encodes parses]
  show forwarder.receive (peer.handled primitives _).response.http.1
    (.ok (peer.handled primitives _).response.http.2) = _
  rw [responds]
  unfold Forwarder.relayed
  simp only [dispatchMessage, PeerMoment.arrival]
  cases peer.answer with
  | error cause => rfl
  | ok result =>
      simp only
      cases primitives.encode result with
      | error cause => rfl
      | ok bytes => rfl

end Forwarding

/-! ## Two peers -/

/-- The path of an application. -/
def applicationPath : Bytes :=
  ascii "/internal/v1/forward/00000000-0000-0000-0000-000000000007"

/-- A message. -/
def executorInfo : Bytes :=
  ascii "\x7b\"type\":\"executor_info\",\"request_id\":\"r\"\x7d"

/-- The hash, the parsers and the codec, at what the request below gives them. -/
def peerPrimitives : Primitives Unit where
  hmacSHA256 _ _ :=
    [102, 69, 128, 182, 42, 218, 53, 201, 88, 101, 16, 10,
      159, 185, 73, 115, 40, 26, 3, 216, 210, 144, 65, 127,
      116, 159, 93, 6, 223, 212, 134, 201]
  parseRFC3339Nano text :=
    if text = ascii "1970-01-01T00:17:10.5Z" then .ok 1030500000000
    else .error "cannot parse"
  numError _ _ := "invalid syntax"
  scanUUID text :=
    if text = ascii "00000000-0000-0000-0000-000000000007" then some ⟨7⟩
    else none
  decode text := if text = executorInfo then .ok () else .error "unknown"
  encode _ := .ok executorInfo

/-- The forwarder at the second 1000 of its clock. -/
def sampleForwarder : Forwarder Unit where
  secret := [42]
  sender := sampleSender
  startedAt := 1000 * second
  parseURL _ := .ok (applicationPath, applicationPath)
  decodeResponse text :=
    if text = executorInfo then .ok () else .error "unknown"

/-- The peer, a second later. -/
def samplePeer : PeerMoment Unit where
  config := ⟨[42], 30 * second⟩
  cache := newNonceCache 0
  now := 1001 * second
  verifiedAt := 1001 * second
  bodyComplete := true
  answer := .ok ()

theorem fourDigitYears_peerPrimitives : peerPrimitives.FourDigitYears := by
  intro text parsed parses
  simp only [peerPrimitives] at parses
  split_ifs at parses
  cases parses
  decide

theorem agree_samplePeer :
    Agree peerPrimitives sampleForwarder (some 1030500000000) samplePeer
      (applicationPath, applicationPath) executorInfo where
  complete := ⟨by decide, fun _ _ => rfl, by decide, by decide⟩
  shared := rfl
  configured := by decide
  given := by decide
  clock := by decide
  sent := by decide
  before := by decide
  later := by decide
  unrounded := by decide
  checked := by decide
  verified := by decide
  whole := rfl
  small := by decide
  isNew := by decide

theorem forward_delivers_samplePeer :
    Agree peerPrimitives sampleForwarder (some 1030500000000) samplePeer
        (applicationPath, applicationPath) executorInfo ∧
      sampleForwarder.forward peerPrimitives (some 1030500000000)
          (ascii "http://10.0.0.7:8080" ++ applicationPath)
          ((Exchange.answered samplePeer).http peerPrimitives) () =
        sampleForwarder.relayed peerPrimitives (.ok ()) :=
  ⟨agree_samplePeer,
    (forward_delivers fourDigitYears_peerPrimitives agree_samplePeer rfl rfl
      (by decide : forwardApplication peerPrimitives applicationPath =
        .ok ⟨7⟩)
      (by decide : peerPrimitives.decode executorInfo = .ok ())).2⟩

end DbosRelay.Router
