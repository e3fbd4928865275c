import DbosRelay.Basic
import DbosRelay.Library.Programs
import DbosRelay.Library.Tables

/-!
# The key set

`OIDCValidator` of `internal/auth/oidc.go` as far as its keys go.  Requests share
one validator.  What `getKey` does under the read or the write lock is one
statement, and so is a reading of the clock; the fetch of the key set happens
between two statements and comes out as the choice says.  The fetch lock is not
modelled: without it more interleavings are possible.
-/

namespace DbosRelay.Auth

open DbosRelay.Basic
open DbosRelay.Library.Programs
open DbosRelay.Library.Tables

/-! ## Keys -/

/-- `rsa.PublicKey`. -/
structure PublicKey where
  n : Nat
  e : Int
deriving DecidableEq, Repr

/-- Keys by their identifiers. -/
abbrev KeySet := Table String PublicKey

/--
`fetchJWKS`, with the address of the key set if it is known: the address and the
keys, or an error.
-/
abbrev FetchJWKS := String → Except String (String × KeySet)

/-- Why a key is not found. -/
inductive UnknownKey where
  | negativeCache
  | throttled
  | absent
deriving DecidableEq, Repr

/-- The errors of `getKey`. -/
inductive KeyError where
  | unknownKey (kid : String) (reason : UnknownKey)
  | keySetUnavailable (cause : String)
deriving DecidableEq, Repr

/-- What `getKey` answers with. -/
abbrev KeyAnswer := Except KeyError PublicKey

/-- What a request does after its second look. -/
inductive Recheck where
  | answered (answer : KeyAnswer)
  | fetch (cachedJwksURI : String)

/-! ## The validator -/

/-- The fields of `OIDCValidator` its lock protects, and the clock. -/
structure KeyState where
  jwksURI : String
  keys : KeySet
  fetchedAt : Time
  lastAttemptAt : Time
  cacheTTL : Duration
  negCache : Table String Time
  now : Time

/-- The validator `NewOIDCValidator` makes. -/
def newOIDCValidator (now : Time) : KeyState where
  jwksURI := ""
  keys := ∅
  fetchedAt := zeroTime
  lastAttemptAt := zeroTime
  cacheTTL := 600 * second
  negCache := ∅
  now := now

/-- `negTTL`. -/
def negTTL : Duration := 30 * second

/-- The time between two attempts to fetch the keys. -/
def attemptInterval : Duration := 5 * second

namespace KeyState

/-- `Init`. -/
def init (state : KeyState) (fetch : FetchJWKS) : Except String KeyState :=
  match fetch "" with
  | .error error => .error error
  | .ok (jwksURI, newKeys) =>
      .ok { state with
        jwksURI := jwksURI
        keys := newKeys
        fetchedAt := state.now
        lastAttemptAt := state.now }

/-- `SetCacheTTL`. -/
def setCacheTTL (state : KeyState) (ttl : Duration) : KeyState :=
  { state with cacheTTL := ttl }

/-- The keys are not older than the cache may be. -/
def fresh (state : KeyState) : Bool :=
  timeSub state.now state.fetchedAt < state.cacheTTL

/-- The identifier was not found a short time ago. -/
def negFresh (state : KeyState) (kid : String) : Bool :=
  (state.negCache.lookup kid).any fun negTime =>
    timeSub state.now negTime < negTTL

/-- The last attempt to fetch the keys was a short time ago. -/
def throttled (state : KeyState) : Bool :=
  timeSub state.now state.lastAttemptAt < attemptInterval

/-- What the keys at hand decide. -/
def cached (state : KeyState) (kid : String) : Option KeyAnswer :=
  match state.keys.lookup kid, state.fresh with
  | some key, true => some (.ok key)
  | _, _ =>
      if state.negFresh kid then
        some (.error (.unknownKey kid .negativeCache))
      else none

/-- The second look, once the fetch lock is held. -/
def recheck (state : KeyState) (kid : String) : Recheck :=
  match state.cached kid with
  | some answer => .answered answer
  | none =>
      if state.throttled then .answered (.error (.unknownKey kid .throttled))
      else .fetch state.jwksURI

/-- The state once the key set was fetched. -/
def fetched (state : KeyState) (outcome : Except String (String × KeySet)) :
    KeyState :=
  match outcome with
  | .error _ => { state with lastAttemptAt := state.now }
  | .ok (newJwksURI, newKeys) =>
      { state with
        lastAttemptAt := state.now
        jwksURI := newJwksURI
        keys := newKeys
        fetchedAt := state.now
        negCache := ∅ }

/-- The update once the key set was fetched. -/
def refresh (state : KeyState) (kid : String)
    (outcome : Except String (String × KeySet)) : KeyAnswer × KeyState :=
  let updated := state.fetched outcome
  match updated.keys.lookup kid with
  | some key => (.ok key, updated)
  | none =>
      let noted :=
        { updated with negCache := updated.negCache.insert kid updated.now }
      match outcome with
      | .error error =>
          if noted.keys.entries = [] then
            (.error (.keySetUnavailable error), noted)
          else (.error (.unknownKey kid .absent), noted)
      | .ok _ => (.error (.unknownKey kid .absent), noted)

end KeyState

/-! ## Statements -/

/-- What requests do to the validator in one piece. -/
inductive KeyStatement where
  | cached (kid : String)
  | recheck (kid : String)
  | refresh (kid cachedJwksURI : String)
  | now
  | wait (duration : Nat)
deriving DecidableEq, Repr

/-- What a statement answers with. -/
@[reducible]
def KeyStatement.Reply : KeyStatement → Type
  | .cached _ => Option KeyAnswer
  | .recheck _ => Recheck
  | .refresh _ _ => KeyAnswer
  | .now => Time
  | .wait _ => Unit

/-- Perform a statement; a fetch before it comes out as `fetch` says. -/
def perform (fetch : FetchJWKS) (statement : KeyStatement) (state : KeyState) :
    statement.Reply × KeyState :=
  match statement with
  | .cached kid => (state.cached kid, state)
  | .recheck kid => (state.recheck kid, state)
  | .refresh kid cachedJwksURI => state.refresh kid (fetch cachedJwksURI)
  | .now => (state.now, state)
  | .wait duration => ((), { state with now := state.now + duration })

/-- Code which uses the validator. -/
abbrev KeyProgram (Value : Type) :=
  Program KeyStatement KeyStatement.Reply Value

/-- Perform one statement. -/
def ask (statement : KeyStatement) : KeyProgram statement.Reply :=
  Program.ask statement

/-- `getKey`. -/
def getKey (kid : String) : KeyProgram KeyAnswer := do
  match ← ask (.cached kid) with
  | some answer => return answer
  | none =>
      match ← ask (.recheck kid) with
      | .answered answer => return answer
      | .fetch cachedJwksURI => ask (.refresh kid cachedJwksURI)

end DbosRelay.Auth
