import DbosRelay.Library.Lines
import DbosRelay.Library.Results
import DbosRelay.Router.Forward
import Mathlib.Data.Nat.Digits.Defs

/-!
# Signing a forward request

The sending side of `internal/router/forward.go`: `SignRequest` computes the
signature from the values it is given, `VerifyRequest` from the headers it
receives.  Both join seven components with newlines.  Six of them are header
fields and the parts of a request line, which hold no newline, so the components
can be told from the joined text, whatever the body holds.
-/

namespace DbosRelay.Router

open DbosRelay.Basic
open DbosRelay.Library.Lines
open DbosRelay.Library.Results

/-! ## Numbers in headers -/

/-- The decimal digits of a natural number. -/
def formatDigits (n : Nat) : Bytes :=
  if n = 0 then [48]
  else ((Nat.digits 10 n).map fun digit => UInt8.ofNat (48 + digit)).reverse

/-- `strconv.FormatInt` in base 10, and `strconv.Itoa`. -/
def formatInt (n : Int) : Bytes :=
  if n < 0 then 45 :: formatDigits n.natAbs else formatDigits n.natAbs

/-- A number is read from a header only if it is an `int64`. -/
theorem parseInt_bounds {text : Bytes} {n : Int}
    (parsed : parseInt text = some n) : minInt64 ≤ n ∧ n ≤ maxInt64 := by
  unfold parseInt at parsed
  simpa using (Option.filter_eq_some_iff.mp parsed).2

/-- A decimal digit as a byte, and what `parseDigits` makes of it. -/
theorem digit_byte :
    ∀ digit < 10, 48 ≤ UInt8.ofNat (48 + digit) ∧
      UInt8.ofNat (48 + digit) ≤ 57 ∧
        (UInt8.ofNat (48 + digit)).toNat - 48 = digit := by
  decide

/-- Digits are read from the most significant one on. -/
theorem foldr_digits (digits : List Nat) (small : ∀ digit ∈ digits, digit < 10) :
    (digits.map fun digit => UInt8.ofNat (48 + digit)).foldr
        (fun digit value =>
          value.bind fun value =>
            if 48 ≤ digit ∧ digit ≤ 57 then
              some (value * 10 + (digit.toNat - 48 : Nat))
            else none)
        (some (0 : Int)) = some ((Nat.ofDigits 10 digits : Nat) : Int) := by
  induction digits with
  | nil => rfl
  | cons digit digits induction =>
      obtain ⟨atLeast, atMost, value⟩ := digit_byte digit
        (small digit List.mem_cons_self)
      have rest := induction fun other member =>
        small other (List.mem_cons_of_mem digit member)
      rw [List.map_cons, List.foldr_cons, rest, Option.bind_some,
        if_pos ⟨atLeast, atMost⟩, value, Nat.ofDigits_cons]
      push_cast
      ring_nf

theorem parseDigits_formatDigits (n : Nat) :
    parseDigits (formatDigits n) = some (n : Int) := by
  unfold formatDigits
  split_ifs with zero
  · rw [zero]
    rfl
  · have digits : ((Nat.digits 10 n).map fun digit =>
        UInt8.ofNat (48 + digit)).reverse ≠ [] := by
      simpa [Nat.digits_ne_nil_iff_ne_zero] using zero
    rw [parseDigits, if_neg digits, List.foldl_reverse, foldr_digits]
    · rw [Nat.ofDigits_digits]
    · intro digit member
      exact Nat.digits_lt_base (by decide) member

/-- A number starts with a digit, so with no sign. -/
theorem formatDigits_eq_cons (n : Nat) :
    ∃ first rest, formatDigits n = first :: rest ∧ first ≠ 43 ∧ first ≠ 45 := by
  have digits : ∀ byte ∈ formatDigits n, 48 ≤ byte := by
    intro byte member
    unfold formatDigits at member
    split_ifs at member with zero
    · rw [List.mem_singleton.mp member]
      decide
    · rw [List.mem_reverse, List.mem_map] at member
      obtain ⟨digit, among, rfl⟩ := member
      exact (digit_byte digit (Nat.digits_lt_base (by decide) among)).1
  cases written : formatDigits n with
  | nil =>
      have parsed := parseDigits_formatDigits n
      rw [written] at parsed
      cases parsed
  | cons first rest =>
      rw [written] at digits
      have atLeast := digits first List.mem_cons_self
      refine ⟨first, rest, rfl, ?_, ?_⟩
      · rintro rfl
        exact absurd atLeast (by decide)
      · rintro rfl
        exact absurd atLeast (by decide)

/-- An `int64` is read back as it was written. -/
theorem parseInt_formatInt {n : Int} (lower : minInt64 ≤ n)
    (upper : n ≤ maxInt64) : parseInt (formatInt n) = some n := by
  have inRange : (some n).filter (fun value =>
      minInt64 ≤ value ∧ value ≤ maxInt64) = some n := by
    simp [lower, upper]
  unfold formatInt
  split_ifs with negative
  · have magnitude : -(n.natAbs : Int) = n := by omega
    simp only [parseInt, parseDigits_formatDigits, Option.map_some, magnitude]
    exact inRange
  · have magnitude : (n.natAbs : Int) = n := by omega
    obtain ⟨first, rest, written, noPlus, noMinus⟩ :=
      formatDigits_eq_cons n.natAbs
    have parsed := parseDigits_formatDigits n.natAbs
    rw [written] at parsed ⊢
    rw [magnitude] at parsed
    unfold parseInt
    split
    · rename_i same
      exact absurd (List.cons.inj same).1 noPlus
    · rename_i same
      exact absurd (List.cons.inj same).1 noMinus
    · rw [parsed]
      exact inRange

/-! ## The payload -/

/-- What a signature covers. -/
structure SignedComponents where
  timestamp : Bytes
  hop : Bytes
  method : Bytes
  uri : Bytes
  nonce : Bytes
  deadline : Bytes
  body : Bytes
deriving DecidableEq, Repr

namespace SignedComponents

/-- The text the components are joined to. -/
def payload (components : SignedComponents) : Bytes :=
  buildSignaturePayload components.timestamp components.hop components.method
    components.uri components.nonce components.deadline components.body

/-- The components which stand in headers and in the request line. -/
def lines (components : SignedComponents) : List Bytes :=
  [components.timestamp, components.hop, components.method, components.uri,
    components.nonce, components.deadline]

/-- None of them holds a newline. -/
def SingleLine (components : SignedComponents) : Prop :=
  ∀ line ∈ components.lines, 10 ∉ line

/-- The components `VerifyRequest` takes from a request. -/
def received (req : ForwardRequest) (body : Bytes) : SignedComponents where
  timestamp := req.timestamp
  hop := req.hop
  method := req.method
  uri := req.requestURI
  nonce := req.nonce
  deadline := req.deadline
  body := body

theorem payload_eq_joined (components : SignedComponents) :
    components.payload = joined 10 components.lines components.body := by
  simp [payload, buildSignaturePayload, joined, lines]

/-- The components can be told from the payload. -/
theorem payload_inj {first second : SignedComponents}
    (firstLines : first.SingleLine) (secondLines : second.SingleLine) :
    first.payload = second.payload ↔ first = second := by
  rw [payload_eq_joined, payload_eq_joined,
    joined_inj (by rfl) firstLines secondLines]
  cases first
  cases second
  simp only [lines, List.cons.injEq, mk.injEq]
  tauto

end SignedComponents

/-- No header the checks ask for is missing. -/
def ForwardRequest.Signed (req : ForwardRequest) : Prop :=
  ¬(req.signature = [] ∨ req.timestamp = [] ∨ req.hop = [] ∨ req.nonce = [])

instance (req : ForwardRequest) : Decidable req.Signed :=
  inferInstanceAs (Decidable (¬_))

section Signing

variable {Message : Type} (primitives : Primitives Message)

/-- What signing takes from outside. -/
structure Sender where
  /-- `time.Now`. -/
  now : Time
  /-- `rand.Read`. -/
  raw : Bytes
  /-- `Time.Format` with the layout `RFC3339Nano`, in the zone of the deadline. -/
  formatRFC3339Nano : Time → Bytes

/-- The components `SignRequest` signs. -/
def Sender.components (sender : Sender) (req : ForwardRequest)
    (body : Bytes) (hop : Int) (deadline : Time) : SignedComponents where
  timestamp := formatInt (unixSeconds sender.now)
  hop := formatInt hop
  method := req.method
  uri := req.requestURI
  nonce := if req.nonce = [] then encodeToString sender.raw else req.nonce
  deadline :=
    if deadline = zeroTime then [] else sender.formatRFC3339Nano deadline
  body := body

/-- `SignRequest`. -/
def Sender.signRequest (sender : Sender) (req : ForwardRequest)
    (body secret : Bytes) (hop : Int) (deadline : Time) : ForwardRequest :=
  let components := sender.components req body hop deadline
  { req with
    nonce := components.nonce
    timestamp := components.timestamp
    hop := components.hop
    -- Without a deadline the header is left alone.
    deadline :=
      if deadline = zeroTime then req.deadline else components.deadline
    signature :=
      encodeToString (primitives.hmacSHA256 secret components.payload) }

/-- What the deadline header comes to. -/
def headerDeadline (now : Time) (ts : Int) (deadline : Bytes) :
    Except VerifyError Time :=
  if deadline = [] then .ok zeroTime
  else
    match primitives.parseRFC3339Nano deadline with
    | .error cause => .error (.invalidDeadlineHeader cause)
    | .ok parsed => verifiedDeadline now ts parsed

/-- The signature `VerifyRequest` expects of what it has received. -/
def expectedSignature (secret : Bytes) (req : ForwardRequest)
    (body : Bytes) : Bytes :=
  encodeToString
    (primitives.hmacSHA256 secret (SignedComponents.received req body).payload)

variable {primitives}
variable {req : ForwardRequest} {body secret : Bytes} {maxDrift : Duration}
variable {now : Time}

/-- `VerifyRequest` once the timestamp and the hop are fine. -/
theorem verifyRequest_eq {ts hop : Int} (configured : secret ≠ [])
    (present : req.Signed)
    (timestamp : parseInt req.timestamp = some ts)
    (fresh : drift now ts ≤ maxDrift) (hops : parseInt req.hop = some hop)
    (direct : hop < 1) :
    verifyRequest primitives req body secret maxDrift now =
      (headerDeadline primitives now ts req.deadline).bind fun deadline =>
        if req.signature = expectedSignature primitives secret req body then
          .ok (hop, deadline)
        else .error .invalidSignature := by
  unfold verifyRequest
  rw [if_neg configured, if_neg present]
  simp only [timestamp, hops, if_neg (not_lt.mpr fresh),
    if_neg (not_le.mpr direct)]
  unfold headerDeadline
  by_cases absent : req.deadline = []
  · rw [if_pos absent, if_pos absent]
    rfl
  · rw [if_neg absent, if_neg absent]
    cases primitives.parseRFC3339Nano req.deadline with
    | error cause => rfl
    | ok parsed => rfl

/-- A verified request has passed every check. -/
theorem verifyRequest_ok {hop : Int} {deadline : Time}
    (verified : verifyRequest primitives req body secret maxDrift now =
      .ok (hop, deadline)) :
    ∃ ts, parseInt req.timestamp = some ts ∧ drift now ts ≤ maxDrift ∧
      parseInt req.hop = some hop ∧ hop < 1 ∧
        headerDeadline primitives now ts req.deadline = .ok deadline ∧
          req.signature = expectedSignature primitives secret req body := by
  by_cases configured : secret = []
  · rw [verifyRequest, if_pos configured] at verified
    cases verified
  by_cases missing : req.signature = [] ∨ req.timestamp = [] ∨ req.hop = [] ∨
      req.nonce = []
  · rw [verifyRequest, if_neg configured, if_pos missing] at verified
    cases verified
  cases timestamp : parseInt req.timestamp with
  | none =>
      rw [verifyRequest, if_neg configured, if_neg missing] at verified
      simp only [timestamp] at verified
      cases verified
  | some ts =>
      by_cases drifted : maxDrift < drift now ts
      · rw [verifyRequest, if_neg configured, if_neg missing] at verified
        simp only [timestamp, if_pos drifted] at verified
        cases verified
      cases hops : parseInt req.hop with
      | none =>
          rw [verifyRequest, if_neg configured, if_neg missing] at verified
          simp only [timestamp, if_neg drifted, hops] at verified
          cases verified
      | some count =>
          by_cases looping : 1 ≤ count
          · rw [verifyRequest, if_neg configured, if_neg missing] at verified
            simp only [timestamp, if_neg drifted, hops, if_pos looping]
              at verified
            cases verified
          · rw [verifyRequest_eq configured missing timestamp
              (not_lt.mp drifted) hops (not_le.mp looping)] at verified
            obtain ⟨found, ends, checked⟩ := bind_ok_iff.mp verified
            split_ifs at checked with matching
            cases checked
            exact ⟨ts, rfl, not_lt.mp drifted, rfl, not_le.mp looping, ends,
              matching⟩

/-! ## Signing and verifying -/

/-- A request with a deadline is received with the components it is signed with. -/
theorem received_signRequest (primitives : Primitives Message)
    (sender : Sender) (req : ForwardRequest) (body secret : Bytes) (hop : Int)
    {deadline : Time} (given : deadline ≠ zeroTime) :
    SignedComponents.received
        (sender.signRequest primitives req body secret hop deadline) body =
      sender.components req body hop deadline := by
  simp only [SignedComponents.received, Sender.signRequest,
    if_neg given, Sender.components]

theorem encodeToString_ne_nil {bytes : Bytes} (nonempty : bytes ≠ []) :
    encodeToString bytes ≠ [] := by
  cases bytes with
  | nil => exact absurd rfl nonempty
  | cons byte bytes => exact List.cons_ne_nil _ _

theorem formatInt_ne_nil (n : Int) : formatInt n ≠ [] := by
  obtain ⟨first, rest, written, -⟩ := formatDigits_eq_cons n.natAbs
  unfold formatInt
  rw [written]
  split_ifs
  · exact List.cons_ne_nil _ _
  · exact List.cons_ne_nil _ _

/-- The seconds of a clock are an `int64`. -/
theorem unixSeconds_bounds (time : Time) :
    minInt64 ≤ unixSeconds time ∧ unixSeconds time ≤ maxInt64 := by
  obtain ⟨turns, -, lower, upper⟩ := exists_int64_eq (time / second)
  unfold unixSeconds minInt64 maxInt64
  omega

/-- The sender's random bytes, the hash and the deadline's text are not empty. -/
structure Sender.Complete (sender : Sender) (primitives : Primitives Message)
    (deadline : Time) : Prop where
  raw : sender.raw.length = 16
  hmac : ∀ key payload, (primitives.hmacSHA256 key payload).length = 32
  parses : primitives.parseRFC3339Nano (sender.formatRFC3339Nano deadline) =
    .ok deadline
  formats : sender.formatRFC3339Nano deadline ≠ []

section SignRequest

variable {sender : Sender} {deadline accepted : Time}

theorem signed_signRequest (complete : sender.Complete primitives deadline)
    (req : ForwardRequest) (body secret : Bytes) (hop : Int) :
    (sender.signRequest primitives req body secret hop deadline).Signed := by
  rintro (absent | absent | absent | absent)
  · refine encodeToString_ne_nil ?_ absent
    intro empty
    have size := complete.hmac secret
      (sender.components req body hop deadline).payload
    rw [empty] at size
    cases size
  · exact formatInt_ne_nil (unixSeconds sender.now) absent
  · exact formatInt_ne_nil hop absent
  · have named : (if req.nonce = [] then encodeToString sender.raw
        else req.nonce) = [] := absent
    split_ifs at named with unnamed
    · refine encodeToString_ne_nil ?_ named
      intro empty
      have size := complete.raw
      rw [empty] at size
      cases size
    · exact unnamed named

theorem timestamp_signRequest (primitives : Primitives Message)
    (sender : Sender) (req : ForwardRequest) (body secret : Bytes) (hop : Int)
    (deadline : Time) :
    parseInt
        (sender.signRequest primitives req body secret hop deadline).timestamp =
      some (unixSeconds sender.now) :=
  parseInt_formatInt (unixSeconds_bounds sender.now).1
    (unixSeconds_bounds sender.now).2

theorem hop_signRequest (primitives : Primitives Message) (sender : Sender)
    (req : ForwardRequest) (body secret : Bytes) (deadline : Time) :
    parseInt (sender.signRequest primitives req body secret 0 deadline).hop =
      some 0 := by
  have zero : minInt64 ≤ 0 ∧ (0 : Int) ≤ maxInt64 := by decide
  exact parseInt_formatInt zero.1 zero.2

theorem deadline_signRequest (primitives : Primitives Message)
    (sender : Sender) (req : ForwardRequest) (body secret : Bytes) (hop : Int)
    (given : deadline ≠ zeroTime) :
    (sender.signRequest primitives req body secret hop deadline).deadline =
      sender.formatRFC3339Nano deadline := by
  simp only [Sender.signRequest, Sender.components, if_neg given]

/-- Once the drift is fine, a signed request is verified up to its deadline. -/
theorem verifyRequest_signRequest
    (complete : sender.Complete primitives deadline)
    (configured : secret ≠ []) (given : deadline ≠ zeroTime)
    (fresh : drift now (unixSeconds sender.now) ≤ maxDrift) :
    verifyRequest primitives
        (sender.signRequest primitives req body secret 0 deadline) body secret
        maxDrift now =
      (verifiedDeadline now (unixSeconds sender.now) deadline).map
        fun accepted => (0, accepted) := by
  have signature :
      (sender.signRequest primitives req body secret 0 deadline).signature =
        expectedSignature primitives secret
          (sender.signRequest primitives req body secret 0 deadline) body := by
    rw [expectedSignature,
      received_signRequest primitives sender req body secret 0 given]
    rfl
  rw [verifyRequest_eq configured
    (signed_signRequest complete req body secret 0)
    (timestamp_signRequest primitives sender req body secret 0 deadline) fresh
    (hop_signRequest primitives sender req body secret deadline) (by decide),
    deadline_signRequest primitives sender req body secret 0 given,
    headerDeadline, if_neg complete.formats, complete.parses]
  simp only [if_pos signature]
  rfl

end SignRequest

/--
The components can be told from their payload.  A request signed with hop 0, a
secret and a deadline is verified from the payload it is signed with, and
accepted at any time its drift and its deadline are; with any component changed
it would be verified from another payload.  `VerifyRequest` accepts a request
only with the signature of the payload of what it received.
-/
theorem signature_integrity (sender : Sender) (deadline accepted : Time)
    (complete : sender.Complete primitives deadline)
    (configured : secret ≠ []) (given : deadline ≠ zeroTime)
    (fresh : drift now (unixSeconds sender.now) ≤ maxDrift)
    (timely : verifiedDeadline now (unixSeconds sender.now) deadline =
      .ok accepted) :
    (∀ first second : SignedComponents, first.SingleLine →
      second.SingleLine → first.payload = second.payload → first = second) ∧
    (SignedComponents.received
        (sender.signRequest primitives req body secret 0 deadline)
        body).payload = (sender.components req body 0 deadline).payload ∧
    verifyRequest primitives
        (sender.signRequest primitives req body secret 0 deadline) body secret
        maxDrift now = .ok (0, accepted) ∧
    (∀ (altered : ForwardRequest) (alteredBody : Bytes),
      (sender.components req body 0 deadline).SingleLine →
        (SignedComponents.received altered alteredBody).SingleLine →
          SignedComponents.received altered alteredBody ≠
              sender.components req body 0 deadline →
            (SignedComponents.received altered alteredBody).payload ≠
              (sender.components req body 0 deadline).payload) ∧
    ∀ (arrived : ForwardRequest) (arrivedBody key : Bytes)
      (allowed : Duration) (arrivedAt : Time) (verified : Int × Time),
      verifyRequest primitives arrived arrivedBody key allowed arrivedAt =
          .ok verified →
        arrived.signature =
          encodeToString (primitives.hmacSHA256 key
            (SignedComponents.received arrived arrivedBody).payload) := by
  refine ⟨?_, ?_, ?_, ?_, ?_⟩
  · intro first second firstLines secondLines same
    exact (SignedComponents.payload_inj firstLines secondLines).mp same
  · rw [received_signRequest primitives sender req body secret 0 given]
  · rw [verifyRequest_signRequest complete configured given fresh, timely]
    rfl
  · intro altered alteredBody lines alteredLines different same
    exact different
      ((SignedComponents.payload_inj alteredLines lines).mp same)
  · rintro arrived arrivedBody key allowed arrivedAt ⟨hop, ends⟩ verified
    rcases verifyRequest_ok verified with ⟨-, -, -, -, -, -, signature⟩
    exact signature

end Signing

/-! ## A signed request -/

/-- The hash and the parser, at what the request below gives them. -/
def signingPrimitives : Primitives Unit where
  hmacSHA256 _ _ :=
    [251, 232, 247, 121, 185, 249, 178, 13, 192, 133, 233,
      122, 79, 6, 89, 200, 68, 100, 94, 191, 151, 143,
      143, 48, 174, 213, 188, 153, 97, 240, 62, 128]
  parseRFC3339Nano text :=
    if text = ascii "1970-01-01T00:17:10.5Z" then .ok 1030500000000
    else .error "cannot parse"
  numError _ _ := "invalid syntax"
  scanUUID _ := some ⟨7⟩
  decode _ := .ok ()
  encode _ := .ok []

/-- A sender at the second 1000 of its clock. -/
def sampleSender : Sender where
  now := 1000 * second
  raw := List.replicate 16 0
  formatRFC3339Nano _ := ascii "1970-01-01T00:17:10.5Z"

/-- A request before it is signed. -/
def unsignedRequest : ForwardRequest where
  method := ascii "POST"
  path := ascii "/internal/v1/forward/7"
  requestURI := ascii "/internal/v1/forward/7"
  signature := []
  timestamp := []
  hop := []
  nonce := []
  deadline := []
  body := ascii "\x7b\x7d"

theorem complete_sampleSender :
    sampleSender.Complete signingPrimitives 1030500000000 :=
  ⟨by decide, fun _ _ => rfl, by decide, by decide⟩

theorem signature_integrity_sample :
    sampleSender.Complete signingPrimitives 1030500000000 ∧
      verifyRequest signingPrimitives
        (sampleSender.signRequest signingPrimitives unsignedRequest
          (ascii "\x7b\x7d") [42] 0 1030500000000) (ascii "\x7b\x7d") [42]
        (30 * second) (1001 * second) = .ok (0, 1031 * second) := by
  refine ⟨complete_sampleSender, ?_⟩
  exact (signature_integrity sampleSender 1030500000000 (1031 * second)
    complete_sampleSender (by decide) (by decide) (by decide) (by decide)).2.2.1

end DbosRelay.Router
