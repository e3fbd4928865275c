import DbosRelay.Auth.Keys
import DbosRelay.Library.GoJson

/-!
# The validation of tokens

`Validate` and `verifySignature` of `internal/auth/oidc.go`.  The scan of a JSON
text, the digests and the RSA verification are those of the libraries.
-/

namespace DbosRelay.Auth

open DbosRelay.Basic
open DbosRelay.Library.GoJson
open DbosRelay.Library.Programs

/-! ## Base64 -/

/-- The value of a letter of the URL alphabet. -/
def sextet (letter : UInt8) : Option Nat :=
  if 65 ≤ letter ∧ letter ≤ 90 then some (letter.toNat - 65)
  else if 97 ≤ letter ∧ letter ≤ 122 then some (letter.toNat - 71)
  else if 48 ≤ letter ∧ letter ≤ 57 then some (letter.toNat + 4)
  else if letter = 45 then some 62
  else if letter = 95 then some 63
  else none

/-- Four letters make three bytes; the last ones may be fewer. -/
def bytesOfSextets : List Nat → Option Bytes
  | [] => some []
  | [_] => none
  | [first, second] => some [.ofNat (first * 4 + second / 16)]
  | [first, second, third] =>
      some [.ofNat (first * 4 + second / 16),
        .ofNat (second % 16 * 16 + third / 4)]
  | first :: second :: third :: fourth :: rest =>
      (bytesOfSextets rest).map fun bytes =>
        .ofNat (first * 4 + second / 16) ::
          .ofNat (second % 16 * 16 + third / 4) ::
            .ofNat (third % 4 * 64 + fourth) :: bytes

/-- `base64.RawURLEncoding.DecodeString`, which passes over line ends. -/
def decodeString (text : Bytes) : Option Bytes :=
  ((text.filter fun letter => letter ≠ 10 ∧ letter ≠ 13).mapM sextet).bind
    bytesOfSextets

/-! ## The libraries -/

/-- `crypto.Hash`, as far as it is used. -/
inductive Hash where
  | sha256
  | sha384
  | sha512
deriving DecidableEq, Repr

/-- What `encoding/json`, the hashes and `crypto/rsa` compute. -/
structure Libraries where
  scan : Bytes → Option Json
  sum : Hash → Bytes → Bytes
  verifyPKCS1v15 : PublicKey → Hash → Bytes → Bytes → Bool

/-! ## Headers and claims -/

/-- The types of the members of a token. -/
inductive TokenLeaf where
  | text
  | audience
  | integer

/-- The strings of an array, `null` being the empty one. -/
def stringElements (elements : List Json) : Option (List String) :=
  elements.mapM (stringCodec.decode "")

/-- `Audience`, with `UnmarshalJSON`. -/
def audienceCodec : Codec (List String) where
  zero := []
  isEmpty value := value = []
  encode value := some (.array (value.map .string))
  decode
    | _, .string single => some [single]
    | _, .null => some [""]
    | _, .array elements => stringElements elements
    | _, _ => none

/-- The types of the members with their codecs. -/
@[reducible]
def tokenLeaves : Leaves TokenLeaf where
  Value
    | .text => String
    | .audience => List String
    | .integer => Int64
  codec
    | .text => stringCodec
    | .audience => audienceCodec
    | .integer => int64Codec

/-- The header of a token. -/
structure Header where
  alg : String
  kid : String
deriving DecidableEq, Repr

/-- The fields of the header. -/
@[reducible]
def headerFields : Fields TokenLeaf :=
  .cons "alg" false (.leaf .text) (.cons "kid" false (.leaf .text) .nil)

/-- `Claims`. -/
structure Claims where
  subject : String
  email : String
  preferredUsername : String
  name : String
  issuer : String
  audience : List String
  expiresAt : Int64
  notBefore : Int64
deriving DecidableEq, Repr

/-- The fields of `Claims`. -/
@[reducible]
def claimsFields : Fields TokenLeaf :=
  .cons "sub" false (.leaf .text)
    (.cons "email" false (.leaf .text)
      (.cons "preferred_username" false (.leaf .text)
        (.cons "name" false (.leaf .text)
          (.cons "iss" false (.leaf .text)
            (.cons "aud" false (.leaf .audience)
              (.cons "exp" false (.leaf .integer)
                (.cons "nbf" false (.leaf .integer) .nil)))))))

/-- `Unmarshal` of a text into a struct; `none` is an error. -/
def Libraries.unmarshal (libraries : Libraries) (fields : Fields TokenLeaf)
    (text : Bytes) : Option (fields.Values tokenLeaves) :=
  (libraries.scan text).bind fun json =>
    let decoded := (GoType.struct fields).decode tokenLeaves
      (fields.zero tokenLeaves) json
    if decoded.2 then some decoded.1 else none

/-- The header in the first part of a token. -/
def Libraries.unmarshalHeader (libraries : Libraries) (text : Bytes) :
    Option Header :=
  (libraries.unmarshal headerFields text).map fun values =>
    ⟨values.1, values.2.1⟩

/-- The claims in the second part. -/
def Libraries.unmarshalClaims (libraries : Libraries) (text : Bytes) :
    Option Claims :=
  (libraries.unmarshal claimsFields text).map
    fun (subject, email, preferredUsername, name, issuer, audience, expiresAt,
        notBefore, _) =>
      ⟨subject, email, preferredUsername, name, issuer, audience, expiresAt,
        notBefore⟩

/-! ## Validation -/

/-- The issuer and the audience an `OIDCValidator` is made with. -/
structure OIDCConfig where
  issuer : String
  audience : String
deriving DecidableEq, Repr

/-- The errors of `Validate`; `detail` is what is added to `ErrInvalidToken`. -/
inductive TokenError where
  | invalidToken (detail : String)
  | key (error : KeyError)
  | issuerMismatch (got want : String)
  | audienceMismatch (want : String) (got : List String)
  | tokenExpired
  | tokenNotYetValid
deriving DecidableEq, Repr

/-- The leeway for clock skew, in seconds. -/
def leeway : Int := 60

/-- The hash of an algorithm. -/
def signatureHash (alg : String) : Option Hash :=
  if alg = "RS256" then some .sha256
  else if alg = "RS384" then some .sha384
  else if alg = "RS512" then some .sha512
  else none

/-- `verifySignature`. -/
def verifySignature (libraries : Libraries) (pub : PublicKey) (alg : String)
    (content sig : Bytes) : Except String Unit :=
  match signatureHash alg with
  | none => .error ("unsupported algorithm " ++ alg.quote)
  | some hash =>
      if libraries.verifyPKCS1v15 pub hash (libraries.sum hash content) sig then
        .ok ()
      else .error "crypto/rsa: verification error"

/-- The header of a token, which names an algorithm. -/
def decodeHeader (libraries : Libraries) (part : Bytes) :
    Except TokenError Header :=
  match decodeString part with
  | none => .error (.invalidToken "decoding header")
  | some headerJSON =>
      match libraries.unmarshalHeader headerJSON with
      | none => .error (.invalidToken "unmarshaling header")
      | some header =>
          if header.alg = "" ∨ header.alg.toLower = "none" then
            .error (.invalidToken "'none' algorithm is not allowed")
          else .ok header

/-- The claims of a token. -/
def decodeClaims (libraries : Libraries) (part : Bytes) :
    Except TokenError Claims :=
  match decodeString part with
  | none => .error (.invalidToken "decoding payload")
  | some payloadJSON =>
      match libraries.unmarshalClaims payloadJSON with
      | none => .error (.invalidToken "unmarshaling payload")
      | some claims => .ok claims

/-- The signature is checked, then the claims are read. -/
def verifiedClaims (libraries : Libraries) (key : PublicKey) (alg : String)
    (header payload signature : Bytes) : Except TokenError Claims :=
  match decodeString signature with
  | none => .error (.invalidToken "decoding signature")
  | some sig =>
      match verifySignature libraries key alg (header ++ ascii "." ++ payload)
          sig with
      | .error error => .error (.invalidToken error)
      | .ok () => decodeClaims libraries payload

/-- The issuer and the audience are the configured ones. -/
def checkParties (config : OIDCConfig) (claims : Claims) :
    Except TokenError Claims :=
  if claims.issuer ≠ config.issuer then
    .error (.issuerMismatch claims.issuer config.issuer)
  else if config.audience = "" ∨ config.audience ∉ claims.audience then
    .error (.audienceMismatch config.audience claims.audience)
  else .ok claims

/-- The token is in time, at a number of seconds since 1970. -/
def checkTimes (claims : Claims) (now : Int) : Except TokenError Claims :=
  if 0 < claims.expiresAt.toInt ∧
      int64 (claims.expiresAt.toInt + leeway) < now then
    .error .tokenExpired
  else if 0 < claims.notBefore.toInt ∧
      int64 (now + leeway) < claims.notBefore.toInt then
    .error .tokenNotYetValid
  else .ok claims

/-- The claims of a token, once the key of its header is found. -/
def acceptClaims (libraries : Libraries) (config : OIDCConfig)
    (key : PublicKey) (alg : String) (header payload signature : Bytes) :
    KeyProgram (Except TokenError Claims) :=
  match verifiedClaims libraries key alg header payload signature >>=
      checkParties config with
  | .error error => .done (.error error)
  | .ok claims => do
      let now ← ask .now
      return checkTimes claims (unixSeconds now)

/-- `Validate`. -/
def validate (libraries : Libraries) (config : OIDCConfig) (rawToken : Bytes) :
    KeyProgram (Except TokenError Claims) :=
  match rawToken.splitOn 46 with
  | [header, payload, signature] =>
      match decodeHeader libraries header with
      | .error error => .done (.error error)
      | .ok decoded => do
          match ← getKey decoded.kid with
          | .error error => return .error (.key error)
          | .ok key =>
              acceptClaims libraries config key decoded.alg header payload
                signature
  | _ => .done (.error (.invalidToken "expected 3 dot-separated parts"))

end DbosRelay.Auth
