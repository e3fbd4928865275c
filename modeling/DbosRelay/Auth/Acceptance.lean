import DbosRelay.Auth.Availability
import DbosRelay.Auth.Validate
import DbosRelay.Library.Results

/-!
# Accepted tokens

What `Validate` has checked when it returns the claims of a token.  A token
without an expiry, or with one which is not positive, does not expire.
-/

namespace DbosRelay.Auth

open DbosRelay.Basic
open DbosRelay.Library.GoJson
open DbosRelay.Library.Programs
open DbosRelay.Library.Results
open DbosRelay.Library.Runs
open DbosRelay.Library.Tables

/-! ## The checks -/

section Checks

variable {libraries : Libraries} {config : OIDCConfig} {claims result : Claims}

theorem verifySignature_ok {pub : PublicKey} {alg : String}
    {content sig : Bytes}
    (verified : verifySignature libraries pub alg content sig = .ok ()) :
    ∃ hash, signatureHash alg = some hash ∧
      libraries.verifyPKCS1v15 pub hash (libraries.sum hash content) sig =
        true := by
  unfold verifySignature at verified
  split at verified
  · cases verified
  · rename_i hash found
    split_ifs at verified with verifies
    exact ⟨hash, found, verifies⟩

/-- There are three algorithms. -/
theorem mem_of_signatureHash {alg : String} {hash : Hash}
    (found : signatureHash alg = some hash) :
    alg ∈ ["RS256", "RS384", "RS512"] := by
  unfold signatureHash at found
  split_ifs at found with first second third
  · rw [first]
    decide
  · rw [second]
    decide
  · rw [third]
    decide

theorem verifiedClaims_ok {key : PublicKey} {alg : String}
    {header payload signature : Bytes}
    (verified : verifiedClaims libraries key alg header payload signature =
      .ok claims) :
    decodeClaims libraries payload = .ok claims ∧
      ∃ sig, decodeString signature = some sig ∧
        verifySignature libraries key alg (header ++ ascii "." ++ payload) sig =
          .ok () := by
  unfold verifiedClaims at verified
  split at verified
  · cases verified
  · rename_i sig decoded
    split at verified
    · cases verified
    · rename_i checked
      exact ⟨verified, sig, decoded, checked⟩

theorem checkParties_ok (checked : checkParties config claims = .ok result) :
    result = claims ∧ claims.issuer = config.issuer ∧ config.audience ≠ "" ∧
      config.audience ∈ claims.audience := by
  unfold checkParties at checked
  split_ifs at checked with issuer audience
  cases checked
  obtain ⟨given, listed⟩ := not_or.mp audience
  exact ⟨rfl, not_not.mp issuer, given, not_not.mp listed⟩

/-- The machine's sum is not above the exact one, unless that is too small. -/
theorem int64_le {value : Int} (lower : minInt64 ≤ value) :
    int64 value ≤ value := by
  obtain ⟨turns, same, -, below⟩ := exists_int64_eq value
  unfold minInt64 at lower
  omega

theorem minInt64_le_unixSeconds (time : Time) :
    minInt64 ≤ unixSeconds time := by
  obtain ⟨turns, same, least, -⟩ := exists_int64_eq (time / second)
  exact least

/--
A positive expiry is not more than the leeway ago, and a not-before not more
than the leeway ahead; before 1970 only a positive one is looked at.
-/
structure InTime (claims : Claims) (now : Int) : Prop where
  expiry : 0 < claims.expiresAt.toInt →
    now ≤ claims.expiresAt.toInt + leeway
  notBefore : 0 < claims.notBefore.toInt ∨ 0 ≤ now →
    claims.notBefore.toInt ≤ now + leeway

theorem checkTimes_ok {now : Int} (lower : minInt64 ≤ now)
    (checked : checkTimes claims now = .ok result) :
    result = claims ∧ InTime claims now := by
  unfold checkTimes at checked
  split_ifs at checked with expired early
  cases checked
  refine ⟨rfl, fun positive => ?_, fun looked => ?_⟩
  · have notExpired := not_and.mp expired positive
    have sum : int64 (claims.expiresAt.toInt + leeway) ≤
        claims.expiresAt.toInt + leeway :=
      int64_le (by unfold minInt64 leeway; omega)
    omega
  · by_cases positive : 0 < claims.notBefore.toInt
    · have notEarly := not_and.mp early positive
      have sum : int64 (now + leeway) ≤ now + leeway :=
        int64_le (by unfold minInt64 leeway at *; omega)
      omega
    · have clock := looked.resolve_left positive
      unfold leeway
      omega

end Checks

/-! ## One validation -/

/-- The answer is one of the validator's. -/
def Genuine (event : KeyEvent) : Prop :=
  ∃ fetch, event.reply = (perform fetch event.request event.before).1

/-- After one of the statements the key was in the set, under the identifier. -/
def HadKey (trace : List KeyEvent) (kid : String) (key : PublicKey) : Prop :=
  ∃ event ∈ trace, ∃ fetch,
    event.reply = (perform fetch event.request event.before).1 ∧
      (perform fetch event.request event.before).2.keys.lookup kid = some key

/-- The claims were in time when one of the statements read the clock. -/
def ReadInTime (trace : List KeyEvent) (claims : Claims) : Prop :=
  ∃ event ∈ trace, event.request = .now ∧
    InTime claims (unixSeconds event.before.now)

/-- What is checked of an accepted token. -/
structure Accepted (libraries : Libraries) (config : OIDCConfig)
    (rawToken : Bytes) (claims : Claims) (trace : List KeyEvent)
    (header payload signature : Bytes) (decoded : Header) (key : PublicKey) :
    Prop where
  parts : rawToken.splitOn 46 = [header, payload, signature]
  headed : decodeHeader libraries header = .ok decoded
  algorithm : decoded.alg ∈ ["RS256", "RS384", "RS512"]
  known : HadKey trace decoded.kid key
  signed : ∃ sig, decodeString signature = some sig ∧
    verifySignature libraries key decoded.alg
      (header ++ ascii "." ++ payload) sig = .ok ()
  read : decodeClaims libraries payload = .ok claims
  issuer : claims.issuer = config.issuer
  audience : config.audience ≠ "" ∧ config.audience ∈ claims.audience
  inTime : ReadInTime trace claims

section Validations

variable {libraries : Libraries} {config : OIDCConfig}

theorem getKey_hadKey (kid : String) :
    (getKey kid).Keeps Genuine Program.record (fun _ _ => True)
      (fun trace answer => ∀ key, answer = .ok key → HadKey trace kid key) [] := by
  refine (getKey_given Genuine kid).mono fun trace answer given key same => ?_
  obtain ⟨earlier, event, rfl, ⟨fetch, genuine⟩, gives⟩ := given key same
  rw [genuine] at gives
  exact ⟨event, List.mem_append_right _ (List.mem_singleton_self _), fetch,
    genuine, lookup_of_gives gives⟩

/-- Once the key is found, claims which are returned were checked. -/
theorem acceptClaims_keeps {key : PublicKey} {decoded : Header}
    {rawToken header payload signature : Bytes} {trace : List KeyEvent}
    (parts : rawToken.splitOn 46 = [header, payload, signature])
    (headed : decodeHeader libraries header = .ok decoded)
    (had : HadKey trace decoded.kid key) :
    (acceptClaims libraries config key decoded.alg header payload
      signature).Keeps Genuine Program.record (fun _ _ => True)
        (fun trace answer => ∀ claims, answer = .ok claims →
          Accepted libraries config rawToken claims trace header payload
            signature decoded key) trace := by
  unfold acceptClaims
  split
  · exact nofun
  · rename_i claims checked
    obtain ⟨read, verified, parties⟩ := bind_ok_iff.mp checked
    obtain ⟨rfl, issuer, audience⟩ := checkParties_ok parties
    obtain ⟨decodes, sig, decodedSig, signed⟩ := verifiedClaims_ok verified
    obtain ⟨hash, found, -⟩ := verifySignature_ok signed
    refine ⟨trivial, ?_⟩
    rintro now before ⟨fetch, answered⟩ claims inTime
    have answered : now = before.now := answered
    obtain ⟨rfl, timely⟩ := checkTimes_ok (minInt64_le_unixSeconds now) inTime
    rw [answered] at timely
    refine ⟨parts, headed, mem_of_signatureHash found, ?_, ⟨sig, decodedSig,
      signed⟩, decodes, issuer, audience, ?_⟩
    · obtain ⟨event, member, rest⟩ := had
      exact ⟨event, List.mem_append_left _ member, rest⟩
    · exact ⟨_, List.mem_append_right _ (List.mem_singleton_self _), rfl,
        timely⟩

/-- Claims which a validation returns were checked. -/
theorem validate_keeps (rawToken : Bytes) :
    (validate libraries config rawToken).Keeps Genuine Program.record
      (fun _ _ => True)
      (fun trace answer => ∀ claims, answer = .ok claims →
        ∃ header payload signature decoded key,
          Accepted libraries config rawToken claims trace header payload
            signature decoded key) [] := by
  unfold validate
  split
  · rename_i header payload signature parts
    split
    · exact nofun
    · rename_i decoded headed
      refine Program.keeps_bind ((getKey_hadKey decoded.kid).mono ?_)
      intro trace answer had
      cases answer with
      | error error => exact nofun
      | ok key =>
          exact (acceptClaims_keeps parts headed (had key rfl)).mono
            fun _ _ accepted claims same =>
              ⟨_, _, _, _, _, accepted claims same⟩
  · exact nofun

end Validations

/--
In every run of validations on one validator, claims which are returned were
checked: three parts, the signature under a key the set had for the identifier
and with one of the three algorithms, the issuer, the audience, the not-before,
and the expiry if it is positive.
-/
theorem validate_accepted {libraries : Libraries} {config : OIDCConfig}
    {state : KeyState} {steps : List (PoolStep KeyStatement FetchJWKS Bytes)}
    {pool : Pool KeyStatement KeyStatement.Reply KeyState Bytes
      (Except TokenError Claims)}
    {thread : Nat} {rawToken : Bytes} {claims : Claims}
    (ran : run (Pool.step perform (validate libraries config))
      (Pool.idle state) steps = some pool)
    (returned : pool.threads[thread]? = some (rawToken, .done (.ok claims))) :
    ∃ header payload signature decoded key,
      Accepted libraries config rawToken claims (pool.trace thread) header
        payload signature decoded key := by
  have genuine : pool.Faithful (validate libraries config) ∧
      pool.Observed fun _ event => Genuine event :=
    Pool.observed_of_run (guardedRun_true_iff.mpr ran)
      fun _ _ choice _ _ _ _ _ => ⟨choice, rfl⟩
  obtain ⟨faithful, observed⟩ := genuine
  exact faithful.keeps returned (observed thread _ _ returned)
    (validate_keeps rawToken) claims rfl

/-! ## A validation alone -/

/-- A program which is at a request has it performed. -/
theorem step_advance {Label Value : Type} {fetch : FetchJWKS}
    {body : Label → KeyProgram Value} {label : Label}
    {statement : KeyStatement} {next : statement.Reply → KeyProgram Value}
    {pool : Pool KeyStatement KeyStatement.Reply KeyState Label Value}
    {thread : Nat} {reply : statement.Reply} {state : KeyState}
    (running : pool.threads[thread]? = some (label, .call statement next))
    (answered : perform fetch statement pool.state = (reply, state)) :
    pool.step perform body (.advance thread fetch) =
      some ((pool.performed (some thread) statement (reply, state)).resume
        thread label (next reply)) := by
  simp only [Pool.step, running, answered]

/-- A validation alone, while the key of the token is fresh. -/
theorem run_validate {libraries : Libraries} {config : OIDCConfig}
    {state : KeyState} {rawToken header payload signature : Bytes}
    {decoded : Header} {key : PublicKey} {claims : Claims}
    (parts : rawToken.splitOn 46 = [header, payload, signature])
    (headed : decodeHeader libraries header = .ok decoded)
    (found : state.cached decoded.kid = some (.ok key))
    (checked : verifiedClaims libraries key decoded.alg header payload
      signature >>= checkParties config = .ok claims) (fetch : FetchJWKS) :
    ∃ pool, run (Pool.step perform (validate libraries config))
        (Pool.idle state)
        [.start rawToken, .advance 0 fetch, .advance 0 fetch] = some pool ∧
      pool.threads[0]? =
        some (rawToken, .done (checkTimes claims (unixSeconds state.now))) := by
  obtain ⟨rest, first, goesOn⟩ : ∃ rest,
      validate libraries config rawToken = getKey decoded.kid >>= rest ∧
        rest (.ok key) = acceptClaims libraries config key decoded.alg header
          payload signature := by
    unfold validate
    rw [parts]
    dsimp only
    generalize decodeHeader libraries header = read at headed ⊢
    cases headed
    exact ⟨_, rfl, rfl⟩
  have accepts : rest (.ok key) = ask .now >>= fun now =>
      return checkTimes claims (unixSeconds now) := by
    rw [goesOn]
    unfold acceptClaims
    rw [checked]
  have answered : perform fetch (.cached decoded.kid) state =
      (some (.ok key), state) := Prod.ext found rfl
  -- The call looks for the key, then reads the clock.
  have looked : Pool.step perform (validate libraries config)
      ⟨state, [(rawToken, validate libraries config rawToken)], []⟩
        (.advance 0 fetch) = some _ :=
    step_advance (congrArg (fun program => some (rawToken, program)) first)
      answered
  have clocked : Pool.step perform (validate libraries config)
      ⟨state, [(rawToken, rest (.ok key))],
        [(some 0, ⟨.cached decoded.kid, some (.ok key), state⟩)]⟩
        (.advance 0 fetch) = some _ :=
    step_advance (congrArg (fun program => some (rawToken, program)) accepts)
      rfl
  exact ⟨_, run_cons_eq_some.mpr ⟨_, rfl, run_cons_eq_some.mpr ⟨_, looked,
    run_cons_eq_some.mpr ⟨_, clocked, rfl⟩⟩⟩, rfl⟩

/-! ## A signed token -/

/-- The letter of a value in the URL alphabet. -/
def letterOf (value : Nat) : UInt8 :=
  if value < 26 then .ofNat (value + 65)
  else if value < 52 then .ofNat (value + 71)
  else if value < 62 then .ofNat (value - 4)
  else if value = 62 then 45
  else 95

/-- `base64.RawURLEncoding.EncodeToString`. -/
def encodeToString : Bytes → Bytes
  | [] => []
  | [first] =>
      [letterOf (first.toNat / 4), letterOf (first.toNat % 4 * 16)]
  | [first, second] =>
      [letterOf (first.toNat / 4),
        letterOf (first.toNat % 4 * 16 + second.toNat / 16),
        letterOf (second.toNat % 16 * 4)]
  | first :: second :: third :: rest =>
      letterOf (first.toNat / 4) ::
        letterOf (first.toNat % 4 * 16 + second.toNat / 16) ::
          letterOf (second.toNat % 16 * 4 + third.toNat / 64) ::
            letterOf (third.toNat % 64) :: encodeToString rest

/-- The number some bytes write, the most significant first. -/
def bigEndian (bytes : Bytes) : Nat :=
  bytes.foldl (fun number byte => number * 256 + byte.toNat) 0

/-- The last bytes of a number, as many as given. -/
def bytesOf : Nat → Nat → Bytes
  | 0, _ => []
  | width + 1, number => bytesOf width (number / 256) ++ [.ofNat number]

/-- The number some words of 256 bits write, the most significant first. -/
def ofWords (words : List Nat) : Nat :=
  words.foldl (fun number word => number * 2 ^ 256 + word) 0

/-- A power modulo a number, for exponents of at most as many bits as given. -/
def powMod (modulus : Nat) : Nat → Nat → Nat → Nat
  | 0, _, _ => 1
  | bits + 1, base, exponent =>
      let rest := powMod modulus bits (base * base % modulus) (exponent / 2)
      if exponent % 2 = 1 then base * rest % modulus else rest

/-- The encoding of a SHA-256 digest which RSA signs, in as many bytes. -/
def encodedDigest (size : Nat) (digest : Bytes) : Bytes :=
  [0, 1] ++ List.replicate (size - digest.length - 22) 255 ++
    [0, 48, 49, 48, 13, 6, 9, 96, 134, 72, 1, 101, 3, 4, 2, 1, 5, 0, 4, 32] ++
      digest

/-- The key of the identity provider. -/
def idpKey : PublicKey where
  n := ofWords [
    0xd12a9c9063ca860a36cc3f1239f43451ff19bb067bb77478f2fbff522ad3abd8,
    0x6b6e1e0e3296b887d321d70c1047bc98bf59d7a0b45d193c6169a595c0bcc6dc,
    0x8864c77be6c6c71ee60738dc76d4e63b362df0d44ad6429162487580c3281a87,
    0x7b59436398c00d1507f98b6d412a50c3616e8373b636c9a4a8b27b6e11bc634d]
  e := 65537

/-- The texts of the tokens below: a header and two payloads. -/
def rs256JSON : Bytes := ascii "\x7b\"alg\":\"RS256\",\"kid\":\"k1\"\x7d"

def expiringJSON : Bytes :=
  ascii "\x7b\"iss\":\"https://idp\",\"aud\":\"relay\",\"exp\":4000000000\x7d"

def endlessJSON : Bytes :=
  ascii "\x7b\"iss\":\"https://idp\",\"aud\":\"relay\"\x7d"

/-- What is signed of a token. -/
def signedContent (payloadJSON : Bytes) : Bytes :=
  encodeToString rs256JSON ++ ascii "." ++ encodeToString payloadJSON

/-- The signatures the identity provider made. -/
def expiringSignature : Bytes :=
  bytesOf 128 (ofWords [
    0x931397e3efe8d04e1b869bc07cf0ce1d4694878f4bb0606f5fd3b26a8cf7363d,
    0xc1a3aea25a4bef3254bd7d7eb169a98b9e4913fbdeaa5993b5912260192dd8cc,
    0xced1c3c14c2d4027f5ef3c65f0120ca1c65338e5c07ddd44a4e3ca57ca62c8f9,
    0x7d20c70b938c280ebedcac755e95304b8b6c6fb39d1b98d4d035075447ed33a5])

def endlessSignature : Bytes :=
  bytesOf 128 (ofWords [
    0x57a36f891f6d2fbbe333b916277e05ea2ed3c6d56aed87d5935fc6673fafe629,
    0x1d11c73bdc2b87c95355823504afb97083af8eb8121e78093792bb9fadaf3df6,
    0x18ae6efa5834837ab140273e6040c40a17ff97676f273f1836e76e10d8af1057,
    0x18cdabdafe7ea035388da8d5fae221933319549c30f931d0dfc95dbceab3154a])

/-- A token. -/
def idpToken (payloadJSON signature : Bytes) : Bytes :=
  signedContent payloadJSON ++ ascii "." ++ encodeToString signature

/-- What the libraries compute for the tokens. -/
def idpLibraries : Libraries where
  scan text :=
    if text = rs256JSON then
      some (.object [("alg", .string "RS256"), ("kid", .string "k1")])
    else if text = expiringJSON then
      some (.object [("iss", .string "https://idp"), ("aud", .string "relay"),
        ("exp", .number (.integer 4000000000))])
    else if text = endlessJSON then
      some (.object [("iss", .string "https://idp"), ("aud", .string "relay")])
    else none
  sum _ content :=
    if content = signedContent expiringJSON then
      bytesOf 32
        0xf9e078dc619d30e7f8a04eccba9d03cd496264f5efd76d457936c21548a9121b
    else if content = signedContent endlessJSON then
      bytesOf 32
        0x271a646e555e7d64da5cdb4bba5d35fc32461ef9293c481999f741fedfbc3006
    else []
  verifyPKCS1v15 pub hash digest sig :=
    hash = .sha256 && digest.length = 32 &&
      powMod pub.n 17 (bigEndian sig) pub.e.toNat =
        bigEndian (encodedDigest sig.length digest)

/-- The issuer and the audience of the tokens. -/
def idpConfig : OIDCConfig := ⟨"https://idp", "relay"⟩

/-- A validator which has the key, at the beginning of 2026. -/
def idpState : KeyState where
  jwksURI := "https://idp/keys"
  keys := (∅ : KeySet).insert "k1" idpKey
  fetchedAt := 1767225600 * second
  lastAttemptAt := 1767225600 * second
  cacheTTL := 600 * second
  negCache := ∅
  now := 1767225600 * second

/-- The claims of the tokens. -/
def idpClaims (expiresAt : Int64) : Claims where
  subject := ""
  email := ""
  preferredUsername := ""
  name := ""
  issuer := "https://idp"
  audience := ["relay"]
  expiresAt := expiresAt
  notBefore := 0

/-- The validation of a token of the identity provider. -/
theorem run_idpToken (payloadJSON signature : Bytes) (claims : Claims)
    (parts : (idpToken payloadJSON signature).splitOn 46 =
      [encodeToString rs256JSON, encodeToString payloadJSON,
        encodeToString signature])
    (checked : verifiedClaims idpLibraries idpKey "RS256"
      (encodeToString rs256JSON) (encodeToString payloadJSON)
        (encodeToString signature) >>= checkParties idpConfig = .ok claims)
    (timely : checkTimes claims (unixSeconds idpState.now) = .ok claims) :
    ∃ pool, run (Pool.step perform (validate idpLibraries idpConfig))
        (Pool.idle idpState)
        [.start (idpToken payloadJSON signature), .advance 0 outage,
          .advance 0 outage] = some pool ∧
      pool.threads[0]? =
        some (idpToken payloadJSON signature, .done (.ok claims)) := by
  have headed : decodeHeader idpLibraries (encodeToString rs256JSON) =
      .ok ⟨"RS256", "k1"⟩ := by decide +kernel
  rw [← timely]
  exact run_validate parts headed rfl checked outage

theorem validate_accepted_expiring :
    ∃ pool, run (Pool.step perform (validate idpLibraries idpConfig))
        (Pool.idle idpState)
        [.start (idpToken expiringJSON expiringSignature), .advance 0 outage,
          .advance 0 outage] = some pool ∧
      ∃ header payload signature decoded key,
        Accepted idpLibraries idpConfig
          (idpToken expiringJSON expiringSignature) (idpClaims 4000000000)
          (pool.trace 0) header payload signature decoded key := by
  obtain ⟨pool, ran, returned⟩ := run_idpToken expiringJSON expiringSignature
    (idpClaims 4000000000) (by decide +kernel) (by decide +kernel)
      (by decide +kernel)
  exact ⟨pool, ran, validate_accepted ran returned⟩

/-- A token without an expiry is accepted. -/
theorem validate_endless :
    ∃ pool, run (Pool.step perform (validate idpLibraries idpConfig))
        (Pool.idle idpState)
        [.start (idpToken endlessJSON endlessSignature), .advance 0 outage,
          .advance 0 outage] = some pool ∧
      pool.threads[0]? =
          some (idpToken endlessJSON endlessSignature,
            .done (.ok (idpClaims 0))) ∧
        ∃ members, idpLibraries.scan endlessJSON = some (.object members) ∧
          member members "exp" = none ∧
          ¬unixSeconds idpState.now ≤ (idpClaims 0).expiresAt.toInt + leeway := by
  obtain ⟨pool, ran, returned⟩ := run_idpToken endlessJSON endlessSignature
    (idpClaims 0) (by decide +kernel) (by decide +kernel) (by decide +kernel)
  exact ⟨pool, ran, returned, _, rfl, by decide +kernel, by decide +kernel⟩

end DbosRelay.Auth
