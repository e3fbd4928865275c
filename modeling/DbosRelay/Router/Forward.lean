import DbosRelay.Basic
import DbosRelay.Library.GenerationCache
import DbosRelay.Library.Results
import Mathlib.Data.Int.ConditionallyCompleteOrder
import Mathlib.Order.ConditionallyCompleteLattice.Basic

/-!
# Peer forwarding

The receiving side of `internal/router/forward.go`: the nonce cache, the
verification of a signed request and the handler which passes it to the
dispatcher.  The cryptographic hash, the parser of RFC 3339 times, the
identifier scanner and the protocol codec are parameters; nothing is assumed
about them.
-/

namespace DbosRelay.Router

open DbosRelay.Basic
open DbosRelay.Library.GenerationCache
open DbosRelay.Library.Results
open DbosRelay.Library.Tables

/-! ## Numbers in headers -/

/-- The value of a non-empty sequence of decimal digits. -/
def parseDigits (digits : Bytes) : Option Int :=
  if digits = [] then none
  else
    digits.foldl
      (fun value digit =>
        value.bind fun value =>
          if 48 ≤ digit ∧ digit ≤ 57 then
            some (value * 10 + (digit.toNat - 48 : Nat))
          else none)
      (some 0)

/-- `strconv.ParseInt` in base 10 with 64 bits, and `strconv.Atoi`. -/
def parseInt (text : Bytes) : Option Int :=
  let value :=
    match text with
    | 43 :: digits => parseDigits digits
    | 45 :: digits => (parseDigits digits).map fun value => -value
    | digits => parseDigits digits
  value.filter fun value => minInt64 ≤ value ∧ value ≤ maxInt64

/-- `hex.EncodeToString`. -/
def encodeToString (bytes : Bytes) : Bytes :=
  bytes.flatMap fun byte => [digit (byte / 16), digit (byte % 16)]
where
  digit (value : UInt8) : UInt8 :=
    if value < 10 then 48 + value else 87 + value

/-! ## Nonces -/

/-- A nonce is remembered for `ttl`. -/
def ttlExpiry (ttl : Duration) : Expiry Time where
  fresh recorded now := timeSub now recorded ≤ ttl
  mono := by
    intro recorded younger now earlier younger' earlier' fresh
    rw [decide_eq_true_eq] at fresh ⊢
    exact (timeSub_le_timeSub earlier' younger').trans fresh

@[simp]
theorem fresh_ttlExpiry (ttl : Duration) (recorded now : Time) :
    (ttlExpiry ttl).fresh recorded now = decide (timeSub now recorded ≤ ttl) :=
  rfl

/-- `nonceCache`. -/
abbrev NonceCache := Generations Bytes Time

/-- `newNonceCache`. -/
def newNonceCache (now : Time) : NonceCache where
  current := ∅
  previous := ∅
  lastSwap := now

/-- `nonceCache.checkAndRecord`. -/
def NonceCache.checkAndRecord (cache : NonceCache) (nonce : Bytes)
    (now : Time) (ttl : Duration) : Bool × NonceCache :=
  let cache : NonceCache :=
    if ttl < timeSub now cache.lastSwap then
      { current := ∅
        previous := cache.current
        lastSwap := now }
    else cache
  if (cache.current.lookup nonce).isSome then (false, cache)
  else
    match cache.previous.lookup nonce with
    | some recorded =>
        if timeSub now recorded ≤ ttl then (false, cache)
        else (true, { cache with current := cache.current.insert nonce now })
    | none =>
        (true, { cache with current := cache.current.insert nonce now })

/-- The nonce cache is a two-generation cache. -/
theorem NonceCache.checkAndRecord_eq (cache : NonceCache) (nonce : Bytes)
    (now : Time) (ttl : Duration) :
    cache.checkAndRecord nonce now ttl =
      Generations.checkAndRecord (ttlExpiry ttl) cache nonce now := by
  have rotated : (if ttl < timeSub now cache.lastSwap then
      (⟨∅, cache.current, now⟩ : NonceCache) else cache) =
        cache.rotate (ttlExpiry ttl) now := by
    simp only [Generations.rotate, fresh_ttlExpiry, decide_eq_true_eq]
    by_cases stale : ttl < timeSub now cache.lastSwap
    · rw [if_pos stale, if_neg (not_le.mpr stale)]
    · rw [if_neg stale, if_pos (not_lt.mp stale)]
  simp only [NonceCache.checkAndRecord, Generations.checkAndRecord]
  rw [rotated]
  cases found : (cache.rotate (ttlExpiry ttl) now).previous.lookup nonce with
  | none => simp
  | some recorded => simp

/-! ## Requests -/

/-- An incoming forward request; a missing header is empty. -/
structure ForwardRequest where
  method : Bytes
  path : Bytes
  requestURI : Bytes
  signature : Bytes
  timestamp : Bytes
  hop : Bytes
  nonce : Bytes
  deadline : Bytes
  body : Bytes
deriving DecidableEq, Repr

/-- What the receiver relies on and this model leaves open. -/
structure Primitives (Message : Type) where
  /-- HMAC with SHA-256, of a secret and a payload. -/
  hmacSHA256 : Bytes → Bytes → Bytes
  /-- `time.Parse` with the layout `RFC3339Nano`. -/
  parseRFC3339Nano : Bytes → Except String Time
  /-- The text of a `strconv.NumError`. -/
  numError : String → Bytes → String
  /-- `pgtype.UUID.Scan`. -/
  scanUUID : Bytes → Option UUID
  /-- `protocol.Decode`. -/
  decode : Bytes → Except String Message
  /-- `protocol.Encode`. -/
  encode : Message → Except String Bytes

/-- The errors of `VerifyRequest`. -/
inductive VerifyError where
  | invalidSignature
  | expiredTimestamp
  | loopDetected
  | missingHeaders
  | expiredDeadline
  | invalidTimestampHeader (cause : String)
  | invalidHopHeader (cause : String)
  | invalidDeadlineHeader (cause : String)
deriving DecidableEq, Repr

/-- `Error`. -/
def VerifyError.text : VerifyError → String
  | .invalidSignature => "invalid forward signature"
  | .expiredTimestamp => "expired forward timestamp"
  | .loopDetected => "forward loop detected"
  | .missingHeaders => "missing forward authentication headers"
  | .expiredDeadline => "expired forward deadline"
  | .invalidTimestampHeader cause => "invalid timestamp header: " ++ cause
  | .invalidHopHeader cause => "invalid hop header: " ++ cause
  | .invalidDeadlineHeader cause => "invalid deadline header: " ++ cause

/-- `buildSignaturePayload`. -/
def buildSignaturePayload
    (ts hop method uri nonce deadline body : Bytes) : Bytes :=
  ts ++ 10 :: hop ++ 10 :: method ++ 10 :: uri ++ 10 :: nonce ++
    10 :: deadline ++ 10 :: body

/-- `abs`, on `int64`. -/
def abs (n : Int) : Int := if n < 0 then int64 (-n) else n

/-- The drift between a clock and a timestamp, as the machine computes it. -/
def drift (now : Time) (ts : Int) : Duration :=
  int64 (abs (int64 (unixSeconds now - ts)) * second)

/-- `minBudget`. -/
def minBudget : Duration := 500000000

/-- `maxBudget`. -/
def maxBudget : Duration := 60 * second

/-- The deadline `VerifyRequest` derives from a parsed header. -/
def verifiedDeadline (now : Time) (ts : Int) (parsed : Time) :
    Except VerifyError Time :=
  if parsed = zeroTime then .ok zeroTime
  else
    let senderStart := timeUnix ts (parsed % second)
    let budget := timeSub parsed senderStart
    if budget ≤ 0 then .error .expiredDeadline
    else
      let clamped := min maxBudget (max minBudget budget)
      if abs (int64 (unixSeconds now - ts)) = 0 ∧ now < parsed ∧
          timeSub parsed senderStart ≤ maxBudget then
        .ok parsed
      else .ok (now + clamped)

section Receiving

variable {Message : Type} (primitives : Primitives Message)

/-- `VerifyRequest`: the hop and the deadline of an authentic request. -/
def verifyRequest (req : ForwardRequest) (body secret : Bytes)
    (maxDrift : Duration) (now : Time) : Except VerifyError (Int × Time) :=
  if secret = [] then .error .invalidSignature
  else if req.signature = [] ∨ req.timestamp = [] ∨ req.hop = [] ∨
      req.nonce = [] then
    .error .missingHeaders
  else
    match parseInt req.timestamp with
    | none =>
        .error (.invalidTimestampHeader
          (primitives.numError "ParseInt" req.timestamp))
    | some ts =>
        if maxDrift < drift now ts then .error .expiredTimestamp
        else
          match parseInt req.hop with
          | none =>
              .error (.invalidHopHeader (primitives.numError "Atoi" req.hop))
          | some hop =>
              if 1 ≤ hop then .error .loopDetected
              else do
                let deadline ←
                  if req.deadline = [] then .ok zeroTime
                  else
                    match primitives.parseRFC3339Nano req.deadline with
                    | .error cause => .error (.invalidDeadlineHeader cause)
                    | .ok parsed => verifiedDeadline now ts parsed
                let payload :=
                  buildSignaturePayload req.timestamp req.hop req.method
                    req.requestURI req.nonce req.deadline body
                let expectedSig :=
                  encodeToString (primitives.hmacSHA256 secret payload)
                if req.signature = expectedSig then .ok (hop, deadline)
                else .error .invalidSignature

/-! ## The handler -/

/-- What the handler answers. -/
inductive Response where
  | error (text : String) (status : Nat)
  | ok (body : Bytes)
deriving DecidableEq, Repr

/-- `maxForwardBodyBytes`. -/
def maxForwardBodyBytes : Nat := 10 * 1024 * 1024

/-- The configuration of a handler. -/
structure ForwardConfig where
  secret : Bytes
  maxDrift : Duration

/-- `maxDrift` with the default of `NewForwardHandler`. -/
def ForwardConfig.drift (config : ForwardConfig) : Duration :=
  if config.maxDrift ≤ 0 then 30 * second else config.maxDrift

/--
A request reaches the handler: the instant it reads from the clock at first,
the one `VerifyRequest` reads after the body, whether the body arrives whole,
and what the dispatcher would answer.
-/
structure Arrival (Message : Type) where
  request : ForwardRequest
  now : Time
  verifiedAt : Time
  bodyComplete : Bool
  answer : Except String Message

/-- The application named by the path `internal/v1/forward/{appID}`. -/
def forwardApplication (path : Bytes) : Except Response UUID :=
  let trimmed :=
    ((path.dropWhile (· = 47)).reverse.dropWhile (· = 47)).reverse
  match trimmed.splitOn 47 with
  | first :: second :: third :: appID :: _ =>
      if first = ascii "internal" ∧ second = ascii "v1" ∧
          third = ascii "forward" then
        match primitives.scanUUID appID with
        | none => .error (.error "invalid application id" 400)
        | some appID => .ok appID
      else .error (.error "invalid forward path" 400)
  | _ => .error (.error "invalid forward path" 400)

/-- The rejections which need no body. -/
def checkHeaders (req : ForwardRequest) (maxDrift : Duration) (now : Time) :
    Except Response Unit :=
  if req.signature = [] ∨ req.timestamp = [] ∨ req.hop = [] ∨
      req.nonce = [] then
    .error (.error VerifyError.missingHeaders.text 401)
  else
    match parseInt req.timestamp with
    | none => .error (.error "invalid timestamp header" 401)
    | some ts =>
        if maxDrift < drift now ts then
          .error (.error VerifyError.expiredTimestamp.text 401)
        else
          match parseInt req.hop with
          | none => .error (.error "invalid hop header" 401)
          | some hop =>
              if 1 ≤ hop then
                .error (.error VerifyError.loopDetected.text 409)
              else if req.deadline = [] then .ok ()
              else
                match primitives.parseRFC3339Nano req.deadline with
                | .error _ => .error (.error "invalid deadline header" 401)
                | .ok parsed =>
                    if parsed ≠ zeroTime ∧
                        timeSub parsed (timeUnix ts 0) ≤ 0 then
                      .error (.error VerifyError.expiredDeadline.text 401)
                    else .ok ()

/-- Reading the body through `http.MaxBytesReader`. -/
def readBody (body : Bytes) (complete : Bool) : Except Response Bytes :=
  if maxForwardBodyBytes < body.length then
    .error (.error "payload too large" 413)
  else if complete then .ok body
  else .error (.error "failed to read body" 400)

/--
The handler up to the body, with the first reading of its clock: the application
of a request which may be read.
-/
def checkRequest (config : ForwardConfig) (req : ForwardRequest)
    (now : Time) : Except Response UUID := do
  if req.method ≠ ascii "POST" then throw (.error "method not allowed" 405)
  if config.secret = [] then
    throw (.error "peer forwarding not configured" 401)
  let appID ← forwardApplication primitives req.path
  checkHeaders primitives req config.drift now
  return appID

/--
The handler from the body to the replay check, with the reading of the clock in
`VerifyRequest`: the deadline of an authentic request.
-/
def verifyBody (config : ForwardConfig) (req : ForwardRequest)
    (bodyComplete : Bool) (verifiedAt : Time) : Except Response Time := do
  let body ← readBody req.body bodyComplete
  match verifyRequest primitives req body config.secret config.drift
      verifiedAt with
  | .error .loopDetected => throw (.error VerifyError.loopDetected.text 409)
  | .error error => throw (.error error.text 401)
  | .ok (_, deadline) => return deadline

/-- The handler up to the replay check: the application and the deadline. -/
def authenticate (config : ForwardConfig) (arrival : Arrival Message) :
    Except Response (UUID × Time) := do
  let appID ← checkRequest primitives config arrival.request arrival.now
  let deadline ← verifyBody primitives config arrival.request
    arrival.bodyComplete arrival.verifiedAt
  return (appID, deadline)

/-- A call of the dispatcher. -/
structure DispatchCall (Message : Type) where
  appID : UUID
  message : Message
  deadline : Time

/-- What one request leads to. -/
structure Handled (Message : Type) where
  dispatched : Option (DispatchCall Message)
  response : Response

/-- The handler once the message is decoded, with what the dispatcher answers. -/
def dispatchMessage (answer : Except String Message)
    (call : DispatchCall Message) : Handled Message where
  dispatched := some call
  response :=
    match answer with
    | .error error => .error ("dispatch error: " ++ error) 502
    | .ok message =>
        match primitives.encode message with
        | .error error => .error ("encoding response: " ++ error) 500
        | .ok bytes => .ok bytes

/--
The handler from the replay check on.  The nonce is checked with the reading `now`
of the clock which was taken before the body was read.
-/
def admitRequest (config : ForwardConfig) (cache : NonceCache)
    (req : ForwardRequest) (now : Time) (appID : UUID) (deadline : Time)
    (answer : Except String Message) : Handled Message × NonceCache :=
  let checked := cache.checkAndRecord req.nonce now config.drift
  if checked.1 then
    match primitives.decode req.body with
    | .error error =>
        (⟨none, .error ("failed to decode message: " ++ error) 400⟩, checked.2)
    | .ok message =>
        (dispatchMessage primitives answer ⟨appID, message, deadline⟩,
          checked.2)
  else (⟨none, .error "replayed forward nonce" 401⟩, checked.2)

/-- The handler of `NewForwardHandler`, for a request it serves alone. -/
def handleForward (config : ForwardConfig) (cache : NonceCache)
    (arrival : Arrival Message) : Handled Message × NonceCache :=
  match authenticate primitives config arrival with
  | .error response => (⟨none, response⟩, cache)
  | .ok (appID, deadline) =>
      admitRequest primitives config cache arrival.request arrival.now appID
        deadline arrival.answer

/-! ## Checks and errors -/

variable {primitives} {config : ForwardConfig} {req : ForwardRequest}

theorem checkRequest_ok_iff {now : Time} {appID : UUID} :
    checkRequest primitives config req now = .ok appID ↔
      req.method = ascii "POST" ∧ config.secret ≠ [] ∧
        forwardApplication primitives req.path = .ok appID ∧
        checkHeaders primitives req config.drift now = .ok () := by
  unfold checkRequest
  by_cases posted : req.method = ascii "POST"
  · by_cases configured : config.secret = []
    · simp only [posted, configured, ne_eq, not_true_eq_false, if_false,
        if_true, false_and, and_false, iff_false]
      exact fun same => by cases same
    · simp only [posted, configured, ne_eq, not_true_eq_false, if_false,
        bind_ok_iff, not_false_eq_true, true_and]
      constructor
      · rintro ⟨found, names, checked, checks, same⟩
        cases same
        exact ⟨names, checks⟩
      · rintro ⟨names, checks⟩
        exact ⟨appID, names, (), checks, rfl⟩
  · simp only [posted, ne_eq, not_false_eq_true, if_true, false_and, iff_false]
    exact fun same => by cases same

theorem readBody_ok {body read : Bytes} {complete : Bool}
    (reads : readBody body complete = .ok read) : read = body := by
  unfold readBody at reads
  split_ifs at reads
  cases reads
  rfl

theorem verifyBody_ok_iff {bodyComplete : Bool} {verifiedAt deadline : Time} :
    verifyBody primitives config req bodyComplete verifiedAt = .ok deadline ↔
      readBody req.body bodyComplete = .ok req.body ∧
        ∃ hop, verifyRequest primitives req req.body config.secret config.drift
          verifiedAt = .ok (hop, deadline) := by
  simp only [verifyBody, bind_ok_iff]
  constructor
  · rintro ⟨body, reads, verified⟩
    cases readBody_ok reads
    split at verified
    · cases verified
    · cases verified
    · rename_i hop ends isVerified
      cases verified
      exact ⟨reads, hop, isVerified⟩
  · rintro ⟨reads, hop, verified⟩
    exact ⟨_, reads, by rw [verified]; rfl⟩

variable {cache : NonceCache} {now deadline : Time} {appID : UUID}
variable {answer : Except String Message} {call : DispatchCall Message}

/-- What is dispatched is new, and its body is the message. -/
theorem admit_dispatched_iff :
    (admitRequest primitives config cache req now appID deadline
        answer).1.dispatched = some call ↔
      (cache.checkAndRecord req.nonce now config.drift).1 = true ∧
        primitives.decode req.body = .ok call.message ∧
        call.appID = appID ∧ call.deadline = deadline := by
  simp only [admitRequest]
  split_ifs with isNew
  · cases primitives.decode req.body with
    | error cause => simp
    | ok message =>
        rcases call with ⟨callApp, callMessage, callDeadline⟩
        simp only [dispatchMessage, Option.some.injEq, DispatchCall.mk.injEq,
          Except.ok.injEq, isNew, true_and]
        tauto
  · simp [isNew]

/-- Whatever the body says, the nonce has been checked. -/
theorem cache_admit :
    (admitRequest primitives config cache req now appID deadline answer).2 =
      (cache.checkAndRecord req.nonce now config.drift).2 := by
  simp only [admitRequest]
  split_ifs
  · cases primitives.decode req.body <;> rfl
  · rfl

end Receiving

end DbosRelay.Router
