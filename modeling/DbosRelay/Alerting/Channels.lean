import DbosRelay.Alerting.Evaluation

/-!
# Notification channels

`fireAlert` of `internal/alerting/alerting.go`, which decodes the destinations of a
rule from its metadata, and `Dispatch` of `internal/alerting/dispatch.go`, which
makes a request of each.  Errors of the dispatchers are only logged; the log is
left out, as is the transport.  What `fmt` makes of a value which is neither `nil`
nor a string and what `net/url` makes of an address are parameters.
-/

namespace DbosRelay.Alerting

open DbosRelay.Api (Any AnyMap ParseURL ParsedURL)
open DbosRelay.Basic

/-! ## Destinations -/

/-- `ChannelDestination`. -/
structure ChannelDestination where
  type : Bytes
  url : Bytes
  secret : Bytes
  routingKey : Bytes
deriving DecidableEq

/-- `AlertNotification`. -/
structure AlertNotification where
  ruleID : Bytes
  ruleType : Bytes
  appName : Bytes
  message : Bytes
  metadata : AlertMeta
  firedAt : Time
deriving DecidableEq

/-- `fmt.Sprint` of a map's value; a missing key has the value `nil`. -/
def sprint (format : Any → Bytes) : Option Any → Bytes
  | none => ascii "<nil>"
  | some .null => ascii "<nil>"
  | some (.string text) => text
  | some value => format value

/-- `value, _ := m[key].(string)`. -/
def asString : Option Any → Bytes
  | some (.string text) => text
  | _ => []

/-- The destination `fireAlert` makes of a map. -/
def decodeDestination (format : Any → Bytes) (entries : AnyMap) :
    ChannelDestination where
  type := sprint format (entries "type")
  url := sprint format (entries "url")
  secret := asString (entries "secret")
  routingKey := asString (entries "routing_key")

/-- The elements of the destinations; what is not a map is skipped. -/
def decodeElement (format : Any → Bytes) : Any → Option ChannelDestination
  | .map entries => some (decodeDestination format entries)
  | _ => none

/-- The destinations of a rule's metadata. -/
def decodeDestinations (format : Any → Bytes) (metadata : AnyMap) :
    List ChannelDestination :=
  match metadata "destinations" with
  | some (.slice elements) => elements.filterMap (decodeElement format)
  | _ => []

/-! ## `fireAlert` -/

/-- The columns of a rule which are read; metadata which is no map is `none`. -/
structure FiredRule where
  id : Bytes
  applicationID : Bytes
  receivingApplicationID : Option Bytes
  ruleType : Bytes
  ruleMetadata : Option AnyMap

/-- `protocol.AlertRequest`, less the identifier of the request. -/
structure AlertRequest where
  name : Bytes
  message : Bytes
  metadata : AlertMeta
deriving DecidableEq

/-- The answer of `claimRule`, the clock, and which dispatchers there are. -/
structure Firing where
  claimed : Except Bytes Bool
  now : Time
  hasDispatcher : Bool
  hasChannelDispatch : Bool

/-- A call of one of the dispatchers. -/
inductive AlertCall where
  | executor (appID : Bytes) (request : AlertRequest)
  | channel (destination : ChannelDestination)
      (notification : AlertNotification)
deriving DecidableEq

/-- The message of an alert. -/
def alertMessage (ruleType : Bytes) : Bytes :=
  if ruleType = ascii "WorkflowFailure" then
    ascii "Workflow failure threshold exceeded"
  else ruleType ++ ascii " alert triggered"

/-- The notification of an alert; its application is named by its identifier. -/
def notificationOf (firing : Firing) (rule : FiredRule)
    (alert : AlertMeta) : AlertNotification where
  ruleID := rule.id
  ruleType := rule.ruleType
  appName := rule.applicationID
  message := alertMessage rule.ruleType
  metadata := alert
  firedAt := firing.now

/-- The calls `fireAlert` makes, in their order. -/
def fireAlert (format : Any → Bytes) (firing : Firing) (rule : FiredRule)
    (alert : AlertMeta) : List AlertCall :=
  match firing.claimed with
  | .error _ => []
  | .ok false => []
  | .ok true =>
      (match rule.receivingApplicationID with
      | some appID =>
          if firing.hasDispatcher then
            [.executor appID
              ⟨rule.ruleType, alertMessage rule.ruleType, alert⟩]
          else []
      | none => []) ++
      match rule.ruleMetadata with
      | some metadata =>
          if firing.hasChannelDispatch then
            (decodeDestinations format metadata).map fun destination =>
              .channel destination (notificationOf firing rule alert)
          else []
      | none => []

/-- The destinations the channel dispatcher is handed. -/
def handedDestinations (calls : List AlertCall) : List ChannelDestination :=
  calls.filterMap fun call =>
    match call with
    | .executor _ _ => none
    | .channel destination _ => some destination

/-! ## `Dispatch` -/

/-- The requests of the channels. -/
inductive ChannelRequest where
  | webhook (url : Bytes) (secret : Bytes) (notification : AlertNotification)
  | slack (url text : Bytes)
  | pagerDuty (url routingKey summary : Bytes) (timestamp : Time)
      (customDetails : AlertMeta)
deriving DecidableEq

/-- `validateDestinationURL`. -/
def validateDestinationURL (parse : ParseURL) (rawURL : Bytes) :
    Except String ParsedURL :=
  match parse rawURL with
  | none => .error "parsing destination URL"
  | some parsed =>
      if parsed.scheme ≠ ascii "http" ∧ parsed.scheme ≠ ascii "https" then
        .error "unsupported destination scheme: only http and https are permitted"
      else if parsed.host = [] then .error "destination URL missing host"
      else .ok parsed

/-- `dispatchWebhook`, up to the request. -/
def dispatchWebhook (parse : ParseURL) (destination : ChannelDestination)
    (notification : AlertNotification) : Except String ChannelRequest := do
  let _ ← validateDestinationURL parse destination.url
  return .webhook destination.url destination.secret notification

/-- `dispatchSlack`, up to the request. -/
def dispatchSlack (parse : ParseURL) (destination : ChannelDestination)
    (notification : AlertNotification) : Except String ChannelRequest := do
  let _ ← validateDestinationURL parse destination.url
  return .slack destination.url
    ("⚠️ *[Relay Alert: ".toUTF8.toList ++ notification.ruleType ++
      ascii "]*: " ++ notification.message ++ ascii " (Application: `" ++
        notification.appName ++ ascii "`)")

/-- The routing key of PagerDuty, by default the secret. -/
def pagerDutyRoutingKey (destination : ChannelDestination) : Bytes :=
  if destination.routingKey = [] then destination.secret
  else destination.routingKey

/-- The default endpoint of PagerDuty. -/
def pagerDutyEndpoint : Bytes :=
  ascii "https://events.pagerduty.com/v2/enqueue"

/-- The endpoint of PagerDuty. -/
def pagerDutyTarget (destination : ChannelDestination) : Bytes :=
  if destination.url = [] then pagerDutyEndpoint else destination.url

/-- `dispatchPagerDuty`, up to the request. -/
def dispatchPagerDuty (parse : ParseURL) (destination : ChannelDestination)
    (notification : AlertNotification) : Except String ChannelRequest := do
  let _ ← validateDestinationURL parse (pagerDutyTarget destination)
  return .pagerDuty (pagerDutyTarget destination)
    (pagerDutyRoutingKey destination)
    (notification.ruleType ++ ascii ": " ++ notification.message ++
      ascii " (" ++ notification.appName ++ ascii ")")
    notification.firedAt notification.metadata

/-- `Dispatch`. -/
def dispatchChannel (parse : ParseURL) (destination : ChannelDestination)
    (notification : AlertNotification) : Except String ChannelRequest :=
  if destination.type = ascii "slack" then
    dispatchSlack parse destination notification
  else if destination.type = ascii "pagerduty" then
    dispatchPagerDuty parse destination notification
  else if destination.type = ascii "webhook" then
    dispatchWebhook parse destination notification
  else .error "unsupported channel type"

/-! ## What is stored -/

/-- A destination as it is stored, any of its fields absent; others may follow. -/
structure StoredDestination where
  type : Option Bytes
  url : Option Bytes
  secret : Option Bytes
  routingKey : Option Bytes
  others : AnyMap

/-- The map which is stored. -/
def StoredDestination.entries (stored : StoredDestination) : AnyMap := fun key =>
  if key = "type" then stored.type.map Any.string
  else if key = "url" then stored.url.map Any.string
  else if key = "secret" then stored.secret.map Any.string
  else if key = "routing_key" then stored.routingKey.map Any.string
  else stored.others key

/-- The destination which is meant: an absent field is empty. -/
def StoredDestination.meant (stored : StoredDestination) :
    ChannelDestination where
  type := stored.type.getD []
  url := stored.url.getD []
  secret := stored.secret.getD []
  routingKey := stored.routingKey.getD []

/-- A rule with the given destinations among its metadata. -/
def FiredRule.withDestinations (rule : FiredRule) (metadata : AnyMap)
    (stored : List StoredDestination) : FiredRule :=
  { rule with
    ruleMetadata := some (metadata.set "destinations"
      (.slice (stored.map fun destination => .map destination.entries))) }

/-- A firing which is claimed and has a channel dispatcher. -/
def Firing.channels (firing : Firing) : Firing :=
  { firing with claimed := .ok true, hasChannelDispatch := true }

theorem sprint_string (format : Any → Bytes) (text : Option Bytes) :
    sprint format (text.map Any.string) = text.getD (ascii "<nil>") := by
  cases text with
  | none => rfl
  | some text => rfl

theorem asString_string (text : Option Bytes) :
    asString (text.map Any.string) = text.getD [] := by
  cases text with
  | none => rfl
  | some text => rfl

/-- What is decoded, field by field. -/
theorem decodeDestination_entries (format : Any → Bytes)
    (stored : StoredDestination) :
    decodeDestination format stored.entries =
      { stored.meant with
        type := stored.type.getD (ascii "<nil>")
        url := stored.url.getD (ascii "<nil>") } := by
  show ChannelDestination.mk (sprint format (stored.type.map Any.string))
    (sprint format (stored.url.map Any.string))
    (asString (stored.secret.map Any.string))
    (asString (stored.routingKey.map Any.string)) = _
  rw [sprint_string, sprint_string, asString_string, asString_string]
  rfl

/-- A field is what is meant unless it is printed and absent. -/
theorem getD_nil_eq_iff (field : Option Bytes) :
    field.getD (ascii "<nil>") = field.getD [] ↔ field.isSome := by
  cases field with
  | none => exact iff_of_false (by decide) Bool.false_ne_true
  | some text => exact iff_of_true rfl rfl

theorem decodeDestination_eq_meant_iff (format : Any → Bytes)
    (stored : StoredDestination) :
    decodeDestination format stored.entries = stored.meant ↔
      stored.type.isSome ∧ stored.url.isSome := by
  rw [decodeDestination_entries, ← getD_nil_eq_iff, ← getD_nil_eq_iff,
    ChannelDestination.mk.injEq]
  constructor
  · rintro ⟨sameType, sameURL, -⟩
    exact ⟨sameType, sameURL⟩
  · rintro ⟨sameType, sameURL⟩
    exact ⟨sameType, sameURL, rfl, rfl⟩

/-- The dispatcher is handed every stored destination as it is decoded. -/
theorem handedDestinations_fireAlert (format : Any → Bytes) (firing : Firing)
    (rule : FiredRule) (metadata : AnyMap)
    (stored : List StoredDestination) (alert : AlertMeta) :
    handedDestinations (fireAlert format firing.channels
        (rule.withDestinations metadata stored) alert) =
      stored.map fun destination =>
        decodeDestination format destination.entries := by
  have decoded : decodeDestinations format (metadata.set "destinations"
      (.slice (stored.map fun destination => .map destination.entries))) =
        stored.map fun destination =>
          decodeDestination format destination.entries := by
    show (stored.map _).filterMap _ = _
    rw [List.filterMap_map]
    exact congrFun List.filterMap_eq_map' stored
  have executors (request : AlertRequest) :
      handedDestinations (match rule.receivingApplicationID with
        | some appID =>
            if firing.hasDispatcher then [.executor appID request] else []
        | none => []) = [] := by
    cases rule.receivingApplicationID with
    | none => rfl
    | some appID =>
        dsimp only
        split_ifs
        · rfl
        · rfl
  have channels (destinations : List ChannelDestination)
      (notification : AlertNotification) :
      handedDestinations (destinations.map fun destination =>
        .channel destination notification) = destinations := by
    unfold handedDestinations
    rw [List.filterMap_map]
    exact List.filterMap_some
  rw [← decoded]
  show handedDestinations (_ ++ _) = _
  rw [handedDestinations, List.filterMap_append]
  exact congrArg₂ _ (executors _) (channels _ _)

/-- What the destinations of a rule promise, when it fires. -/
structure DestinationsKept (format : Any → Bytes) (firing : Firing)
    (rule : FiredRule) (metadata : AnyMap)
    (stored : List StoredDestination) (alert : AlertMeta) : Prop where
  /-- In their order, the fields as they are stored. -/
  handed : handedDestinations (fireAlert format firing.channels
    (rule.withDestinations metadata stored) alert) =
      stored.map StoredDestination.meant
  /-- PagerDuty without an address has the default endpoint. -/
  endpoint : ∀ destination ∈ stored,
    destination.type = some (ascii "pagerduty") → destination.url = none →
    pagerDutyTarget (decodeDestination format destination.entries) =
      pagerDutyEndpoint
  /-- PagerDuty with only a secret has it for its routing key. -/
  routingKey : ∀ destination ∈ stored,
    destination.type = some (ascii "pagerduty") →
    destination.routingKey = none →
    pagerDutyRoutingKey (decodeDestination format destination.entries) =
      destination.secret.getD []

/--
The destinations are kept when every one of them has a type and an address, and
only then.
-/
theorem destinationsKept_iff (format : Any → Bytes) (firing : Firing)
    (rule : FiredRule) (metadata : AnyMap)
    (stored : List StoredDestination) (alert : AlertMeta) :
    DestinationsKept format firing rule metadata stored alert ↔
      ∀ destination ∈ stored,
        destination.type.isSome ∧ destination.url.isSome := by
  have decoded : (handedDestinations (fireAlert format firing.channels
      (rule.withDestinations metadata stored) alert) =
        stored.map StoredDestination.meant) ↔
      ∀ destination ∈ stored,
        destination.type.isSome ∧ destination.url.isSome := by
    rw [handedDestinations_fireAlert, List.map_inj_left]
    apply forall₂_congr
    intro destination _
    exact decodeDestination_eq_meant_iff format destination
  constructor
  · intro kept
    exact decoded.mp kept.handed
  · intro present
    refine ⟨decoded.mpr present, ?_, ?_⟩
    · intro destination member _ absent
      have isSome := (present destination member).2
      rw [absent] at isSome
      cases isSome
    · intro destination _ _ absent
      rw [decodeDestination_entries]
      unfold pagerDutyRoutingKey StoredDestination.meant
      rw [absent]
      exact if_pos rfl

/-- A PagerDuty destination with a routing key and no address. -/
def pagerDutyByKey : StoredDestination where
  type := some (ascii "pagerduty")
  url := none
  secret := none
  routingKey := some (ascii "key")
  others _ := none

/-- What `net/url` makes of the default endpoint, and of an address without scheme. -/
def parseExamples : ParseURL := fun text =>
  if text = pagerDutyEndpoint then
    some ⟨ascii "https", ascii "events.pagerduty.com"⟩
  else some ⟨[], []⟩

/-- It is handed the address `<nil>`, and no request is made. -/
theorem fireAlert_pagerDutyByKey :
    handedDestinations (fireAlert (fun _ => [])
        ⟨.ok true, 0, false, true⟩
        ⟨[], [], none, ascii "SlowQueue",
          some (AnyMap.set (fun _ => none) "destinations"
            (.slice [.map pagerDutyByKey.entries]))⟩ []) =
      [⟨ascii "pagerduty", ascii "<nil>", [], ascii "key"⟩] ∧
    pagerDutyByKey.meant = ⟨ascii "pagerduty", [], [], ascii "key"⟩ ∧
    dispatchChannel parseExamples
        ⟨ascii "pagerduty", ascii "<nil>", [], ascii "key"⟩
        ⟨[], [], [], [], [], 0⟩ =
      .error
        "unsupported destination scheme: only http and https are permitted" ∧
    dispatchChannel parseExamples pagerDutyByKey.meant ⟨[], [], [], [], [], 0⟩ =
      .ok (.pagerDuty pagerDutyEndpoint (ascii "key") (ascii ":  ()") 0 []) := by
  refine ⟨by decide, by decide, by decide, by decide⟩

end DbosRelay.Alerting
