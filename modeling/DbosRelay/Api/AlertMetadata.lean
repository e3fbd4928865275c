import DbosRelay.Basic
import Mathlib.Data.List.Forall2
import Mathlib.Data.Rat.Defs

/-!
# Redaction of alert metadata

`sanitizeAlertMetadata` of `internal/api/apps.go`, which the read endpoints
apply to the metadata of an alert rule before they return it.  Metadata is
untyped JSON; its destinations carry the credentials.  What `net/url` makes of
an address is a parameter.
-/

namespace DbosRelay.Api

open DbosRelay.Basic

/-! ## Untyped values -/

/-- A Go `any` as `encoding/json` fills it.  A map is its lookup function. -/
inductive Any where
  | null
  | bool (value : Bool)
  | float64 (value : ℚ)
  | string (value : Bytes)
  | nilSlice
  | slice (elements : List Any)
  | map (entries : String → Option Any)

/-- `map[string]any`. -/
abbrev AnyMap := String → Option Any

/-- `m[key] = value`. -/
def AnyMap.set (entries : AnyMap) (key : String) (value : Any) : AnyMap :=
  fun other => if other = key then some value else entries other

/-- `delete(m, key)`. -/
def AnyMap.delete (entries : AnyMap) (key : String) : AnyMap :=
  fun other => if other = key then none else entries other

/-! ## The sanitizer -/

/-- The parts of a `url.URL` which are kept. -/
structure ParsedURL where
  scheme : Bytes
  host : Bytes
deriving DecidableEq

/-- `url.Parse`, without a result where it fails. -/
abbrev ParseURL := Bytes → Option ParsedURL

/-- The scheme and the host, when there is a host. -/
def parsedHost (parse : ParseURL) (url : Bytes) : Option ParsedURL :=
  (parse url).filter fun parsed => parsed.host ≠ []

/-- `"[REDACTED]"`. -/
def redacted : Any := .string (ascii "[REDACTED]")

/-- What is left of a routing key. -/
def redactRoutingKey (key : Bytes) : Any :=
  if 4 < key.length then
    .string (ascii "xxxx..." ++ key.drop (key.length - 4))
  else redacted

/-- What is left of an address. -/
def redactURL (parse : ParseURL) (url : Bytes) : Any :=
  match parsedHost parse url with
  | none => redacted
  | some parsed =>
      .string (parsed.scheme ++ ascii "://" ++ parsed.host ++ ascii "/...")

/-- `t, _ := m["type"].(string)`. -/
def destinationType (entries : AnyMap) : Bytes :=
  match entries "type" with
  | some (.string value) => value
  | _ => []

/-- The types whose address is redacted. -/
def HasSecretURL (entries : AnyMap) : Prop :=
  destinationType entries = ascii "slack" ∨
    destinationType entries = ascii "webhook"

instance (entries : AnyMap) : Decidable (HasSecretURL entries) :=
  inferInstanceAs (Decidable (_ ∨ _))

/-- A secret is redacted when there is one. -/
def sanitizeSecret (entries : AnyMap) : AnyMap :=
  if (entries "secret").isSome then AnyMap.set entries "secret" redacted
  else entries

/-- A routing key is redacted when it is a string which is not empty. -/
def sanitizeRoutingKey (entries : AnyMap) : AnyMap :=
  match entries "routing_key" with
  | some (.string key) =>
      if key ≠ [] then AnyMap.set entries "routing_key" (redactRoutingKey key)
      else entries
  | _ => entries

/-- An address is redacted when it is a string which is not empty, by type. -/
def sanitizeURL (parse : ParseURL) (entries : AnyMap) : AnyMap :=
  match entries "url" with
  | some (.string url) =>
      if url ≠ [] ∧ HasSecretURL entries then
        AnyMap.set entries "url" (redactURL parse url)
      else entries
  | _ => entries

/-- The body of the loop, for a destination which is a map. -/
def sanitizeDestination (parse : ParseURL) (entries : AnyMap) : AnyMap :=
  AnyMap.delete
    (sanitizeURL parse (sanitizeRoutingKey (sanitizeSecret entries)))
    "secret_from"

/-- One element of the destinations. -/
def sanitizeElement (parse : ParseURL) : Any → Any
  | .map entries => .map (sanitizeDestination parse entries)
  | other => other

/-- `sanitizeAlertMetadata`.  Appending nothing leaves a slice which is `nil`. -/
def sanitizeAlertMetadata (parse : ParseURL) (metadata : Any) : Any :=
  match metadata with
  | .map entries =>
      match entries "destinations" with
      | some .nilSlice => .map (AnyMap.set entries "destinations" .nilSlice)
      | some (.slice []) => .map (AnyMap.set entries "destinations" .nilSlice)
      | some (.slice elements) =>
          .map (AnyMap.set entries "destinations"
            (.slice (elements.map (sanitizeElement parse))))
      | _ => metadata
  | _ => metadata

/-! ## Which metadata is alike -/

/-- The routing keys agree, or are both longer than four bytes with the same end. -/
def SameRoutingKey (first second : Option Any) : Prop :=
  first = second ∨
    ∃ key other, first = some (.string key) ∧ second = some (.string other) ∧
      4 < key.length ∧ 4 < other.length ∧
        key.drop (key.length - 4) = other.drop (other.length - 4)

/-- Two addresses have the same scheme and host, or neither has a host. -/
def SameHost (parse : ParseURL) (url other : Bytes) : Prop :=
  parsedHost parse url = parsedHost parse other

section Alike

variable (sameURL : Bytes → Bytes → Prop)

/-- Two destinations which differ in secrets only. -/
structure SameDestination (first second : AnyMap) : Prop where
  secret : (first "secret").isSome = (second "secret").isSome
  routingKey : SameRoutingKey (first "routing_key") (second "routing_key")
  url : first "url" = second "url" ∨
    HasSecretURL first ∧ ∃ url other, first "url" = some (.string url) ∧
      second "url" = some (.string other) ∧ sameURL url other
  others : ∀ key, key ∉ ["secret", "secret_from", "routing_key", "url"] →
    first key = second key

/-- Two elements of the destinations which differ in secrets only. -/
inductive SameElement : Any → Any → Prop where
  | refl (element : Any) : SameElement element element
  | map {first second : AnyMap} (same : SameDestination sameURL first second) :
      SameElement (.map first) (.map second)

/-- Two metadata values which differ in the secrets of their destinations only. -/
inductive SameMetadata : Any → Any → Prop where
  | refl (metadata : Any) : SameMetadata metadata metadata
  | destinations {first second : AnyMap} {elements others : List Any}
      (firstList : first "destinations" = some (.slice elements))
      (secondList : second "destinations" = some (.slice others))
      (same : List.Forall₂ (SameElement sameURL) elements others)
      (rest : ∀ key, key ≠ "destinations" → first key = second key) :
      SameMetadata (.map first) (.map second)

end Alike

/-! ## Noninterference -/

/-- The value of a routing key, sanitized. -/
def routingKeyValue : Any → Any
  | .string [] => .string []
  | .string key => redactRoutingKey key
  | other => other

/-- The value of an address, sanitized. -/
def urlValue (parse : ParseURL) (hasSecret : Bool) : Any → Any
  | .string [] => .string []
  | .string url => if hasSecret then redactURL parse url else .string url
  | other => other

theorem sanitizeSecret_apply (entries : AnyMap) (key : String) :
    sanitizeSecret entries key =
      if key = "secret" then (entries "secret").map fun _ => redacted
      else entries key := by
  rw [sanitizeSecret]
  by_cases isKey : key = "secret"
  · subst isKey
    cases present : entries "secret" <;> simp [AnyMap.set, present]
  · split_ifs <;> simp [AnyMap.set, isKey]

theorem sanitizeRoutingKey_apply (entries : AnyMap) (key : String) :
    sanitizeRoutingKey entries key =
      if key = "routing_key" then
        (entries "routing_key").map routingKeyValue
      else entries key := by
  rw [sanitizeRoutingKey]
  by_cases isKey : key = "routing_key"
  · subst isKey
    rcases present : entries "routing_key" with
      _ | (_ | _ | _ | (_ | _) | _ | _ | _) <;>
      simp [AnyMap.set, routingKeyValue, present]
  · rw [if_neg isKey]
    rcases entries "routing_key" with _ | value
    · rfl
    · cases value with
      | string key => dsimp only; split_ifs <;> simp [AnyMap.set, isKey]
      | _ => rfl

theorem sanitizeURL_apply (parse : ParseURL) (entries : AnyMap)
    (key : String) :
    sanitizeURL parse entries key =
      if key = "url" then
        (entries "url").map (urlValue parse (HasSecretURL entries))
      else entries key := by
  rw [sanitizeURL]
  by_cases isKey : key = "url"
  · subst isKey
    rcases present : entries "url" with
      _ | (_ | _ | _ | (_ | _) | _ | _ | _) <;>
      by_cases hasSecret : HasSecretURL entries <;>
        simp [AnyMap.set, urlValue, present, hasSecret]
  · rw [if_neg isKey]
    rcases entries "url" with _ | value
    · rfl
    · cases value with
      | string url => dsimp only; split_ifs <;> simp [AnyMap.set, isKey]
      | _ => rfl

/-- The sanitizer field by field. -/
theorem sanitizeDestination_apply (parse : ParseURL) (entries : AnyMap)
    (key : String) :
    sanitizeDestination parse entries key =
      if key = "secret_from" then none
      else if key = "url" then
        (entries "url").map (urlValue parse (HasSecretURL entries))
      else if key = "routing_key" then
        (entries "routing_key").map routingKeyValue
      else if key = "secret" then (entries "secret").map fun _ => redacted
      else entries key := by
  have sameType :
      HasSecretURL (sanitizeRoutingKey (sanitizeSecret entries)) ↔
        HasSecretURL entries := by
    simp [HasSecretURL, destinationType, sanitizeRoutingKey_apply,
      sanitizeSecret_apply]
  simp [sanitizeDestination, AnyMap.delete, sanitizeURL_apply,
    sanitizeRoutingKey_apply, sanitizeSecret_apply, sameType]

theorem routingKeyValue_eq {first second : Option Any}
    (same : SameRoutingKey first second) :
    first.map routingKeyValue = second.map routingKeyValue := by
  rcases same with rfl | ⟨key, other, rfl, rfl, long, otherLong, sameEnd⟩
  · rfl
  · have longValue : ∀ {key : Bytes}, 4 < key.length →
        routingKeyValue (.string key) =
          .string (ascii "xxxx..." ++ key.drop (key.length - 4)) := by
      intro key long
      cases key with
      | nil => cases long
      | cons head tail => exact if_pos long
    rw [Option.map_some, Option.map_some, longValue long, longValue otherLong,
      sameEnd]

theorem urlValue_eq {parse : ParseURL} {url other : Bytes}
    (notEmpty : url ≠ [] ∧ other ≠ []) (same : SameHost parse url other) :
    urlValue parse true (.string url) = urlValue parse true (.string other) := by
  have redactedValue : ∀ {url : Bytes}, url ≠ [] →
      urlValue parse true (.string url) = redactURL parse url := by
    intro url notEmpty
    cases url with
    | nil => exact (notEmpty rfl).elim
    | cons head tail => rfl
  have sameHost : parsedHost parse url = parsedHost parse other := same
  rw [redactedValue notEmpty.1, redactedValue notEmpty.2, redactURL, redactURL,
    sameHost]

/-- The addresses are not empty and have the same scheme and host, or no host. -/
def SameSecretURL (parse : ParseURL) (url other : Bytes) : Prop :=
  (url ≠ [] ∧ other ≠ []) ∧ SameHost parse url other

theorem sanitizeDestination_eq {parse : ParseURL} {first second : AnyMap}
    (same : SameDestination (SameSecretURL parse) first second) :
    sanitizeDestination parse first = sanitizeDestination parse second := by
  have sameType : HasSecretURL first ↔ HasSecretURL second := by
    rw [HasSecretURL, HasSecretURL, destinationType, destinationType,
      same.others "type" (by decide)]
  funext key
  rw [sanitizeDestination_apply, sanitizeDestination_apply]
  by_cases isSource : key = "secret_from"
  · rw [if_pos isSource, if_pos isSource]
  rw [if_neg isSource, if_neg isSource]
  by_cases isURL : key = "url"
  · rw [if_pos isURL, if_pos isURL]
    rcases same.url with equal | ⟨hasSecret, url, other, isFirst, isSecond, alike⟩
    · simp only [equal, sameType]
    · rw [isFirst, isSecond, Option.map_some, Option.map_some,
        decide_eq_true hasSecret, decide_eq_true (sameType.mp hasSecret),
        urlValue_eq alike.1 alike.2]
  rw [if_neg isURL, if_neg isURL]
  by_cases isKey : key = "routing_key"
  · rw [if_pos isKey, if_pos isKey, routingKeyValue_eq same.routingKey]
  rw [if_neg isKey, if_neg isKey]
  by_cases isSecret : key = "secret"
  · rw [if_pos isSecret, if_pos isSecret]
    have presence := same.secret
    cases isFirst : first "secret" <;> cases isSecond : second "secret" <;>
      simp_all
  · rw [if_neg isSecret, if_neg isSecret]
    exact same.others key (by simp [isSource, isURL, isKey, isSecret])

theorem sanitizeElement_eq {parse : ParseURL} {first second : Any}
    (same : SameElement (SameSecretURL parse) first second) :
    sanitizeElement parse first = sanitizeElement parse second := by
  cases same with
  | refl element => rfl
  | map same => rw [sanitizeElement, sanitizeElement, sanitizeDestination_eq same]

theorem map_sanitizeElement_eq {parse : ParseURL} {elements others : List Any}
    (same : List.Forall₂ (SameElement (SameSecretURL parse)) elements others) :
    elements.map (sanitizeElement parse) =
      others.map (sanitizeElement parse) := by
  induction same with
  | nil => rfl
  | cons sameHead _ induction =>
      rw [List.map_cons, List.map_cons, sanitizeElement_eq sameHead, induction]

/-- The sanitizer on metadata with a list of destinations. -/
theorem sanitizeAlertMetadata_of_slice {parse : ParseURL} {entries : AnyMap}
    {elements : List Any}
    (listed : entries "destinations" = some (.slice elements)) :
    sanitizeAlertMetadata parse (.map entries) =
      .map (AnyMap.set entries "destinations"
        (match elements.map (sanitizeElement parse) with
          | [] => .nilSlice
          | sanitized => .slice sanitized)) := by
  rw [sanitizeAlertMetadata, listed]
  cases elements with
  | nil => rfl
  | cons head tail => rfl

/--
Metadata which differs only in what its destinations keep secret is sanitized
to the same: in a secret or its source, in the leading bytes of a routing key,
and in the parts other than scheme and host of a webhook or Slack address.
-/
theorem sanitizeAlertMetadata_noninterfering (parse : ParseURL)
    (first second : Any)
    (same : SameMetadata (SameSecretURL parse) first second) :
    sanitizeAlertMetadata parse first = sanitizeAlertMetadata parse second := by
  cases same with
  | refl metadata => rfl
  | destinations firstList secondList same rest =>
      rw [sanitizeAlertMetadata_of_slice firstList,
        sanitizeAlertMetadata_of_slice secondList, map_sanitizeElement_eq same]
      congr 1
      funext key
      by_cases isList : key = "destinations"
      · rw [AnyMap.set, AnyMap.set, if_pos isList, if_pos isList]
      · rw [AnyMap.set, AnyMap.set, if_neg isList, if_neg isList]
        exact rest key isList

/-- Metadata with a single destination. -/
def metadataOf (destination : List (String × Any)) : Any :=
  .map fun key =>
    if key = "destinations" then
      some (.slice [.map fun field => destination.lookup field])
    else none

theorem sameMetadata_metadataOf {sameURL : Bytes → Bytes → Prop}
    {first second : List (String × Any)}
    (same : SameDestination sameURL (fun field => first.lookup field)
      fun field => second.lookup field) :
    SameMetadata sameURL (metadataOf first) (metadataOf second) := by
  refine .destinations rfl rfl (.cons (.map same) .nil) ?_
  intro key isOther
  rw [if_neg isOther, if_neg isOther]

/-- A webhook at the given address. -/
def webhookAt (url : String) : List (String × Any) :=
  [("type", .string (ascii "webhook")), ("url", .string (ascii url))]

/-- Addresses without a host, such as the empty one and `x`. -/
def hostless : ParseURL := fun _ => some ⟨[], []⟩

/-- An empty address is left as it is, and tells itself from any other. -/
theorem emptyURL_interferes :
    ¬ ∀ (parse : ParseURL) (first second : Any),
      SameMetadata (SameHost parse) first second →
        sanitizeAlertMetadata parse first =
          sanitizeAlertMetadata parse second := by
  intro always
  have same : SameMetadata (SameHost hostless) (metadataOf (webhookAt ""))
      (metadataOf (webhookAt "x")) := by
    apply sameMetadata_metadataOf
    refine ⟨rfl, Or.inl rfl, Or.inr ⟨by decide, _, _, rfl, rfl, rfl⟩, ?_⟩
    intro key isOther
    have notURL : key ≠ "url" := by
      rintro rfl
      simp at isOther
    by_cases isType : key = "type"
    · rw [isType]
      rfl
    · simp [webhookAt, List.lookup_cons, beq_false_of_ne notURL,
        beq_false_of_ne isType]
  have equal := always hostless _ _ same
  have lists := congrFun (Any.map.inj equal) "destinations"
  have urls := congrFun
    (Any.map.inj (List.cons.inj (Any.slice.inj (Option.some.inj lists))).1) "url"
  have bytes := Any.string.inj (Option.some.inj urls)
  exact absurd bytes (by decide)

/-- What `net/url` finds in an address at one host. -/
def oneHost : ParseURL := fun _ => some ⟨ascii "https", ascii "hooks"⟩

/-- A webhook with a secret and a routing key. -/
def webhookWith (url secret routingKey : String) : List (String × Any) :=
  [("type", .string (ascii "webhook")), ("url", .string (ascii url)),
    ("secret", .string (ascii secret)),
    ("routing_key", .string (ascii routingKey))]

theorem lookup_webhookWith (url secret routingKey : String) :
    (webhookWith url secret routingKey).lookup "type" =
        some (.string (ascii "webhook")) ∧
      (webhookWith url secret routingKey).lookup "url" =
        some (.string (ascii url)) ∧
      (webhookWith url secret routingKey).lookup "secret" =
        some (.string (ascii secret)) ∧
      (webhookWith url secret routingKey).lookup "routing_key" =
        some (.string (ascii routingKey)) :=
  ⟨rfl, rfl, rfl, rfl⟩

theorem lookup_webhookWith_eq_none {field : String}
    (other : field ∉ ["type", "url", "secret", "routing_key"])
    (url secret routingKey : String) :
    (webhookWith url secret routingKey).lookup field = none := by
  simp only [List.mem_cons, List.not_mem_nil, or_false, not_or] at other
  obtain ⟨notType, notURL, notSecret, notKey⟩ := other
  simp [webhookWith, List.lookup_cons, beq_false_of_ne notType,
    beq_false_of_ne notURL, beq_false_of_ne notSecret, beq_false_of_ne notKey]

/-- Webhooks with the same end of their routing keys differ in secrets only. -/
theorem sameDestination_webhookWith {sameURL : Bytes → Bytes → Prop}
    {url other secret otherSecret routingKey otherKey : String}
    (keys : SameRoutingKey (some (.string (ascii routingKey)))
      (some (.string (ascii otherKey))))
    (urls : sameURL (ascii url) (ascii other)) :
    SameDestination sameURL
      (fun field => (webhookWith url secret routingKey).lookup field)
      fun field => (webhookWith other otherSecret otherKey).lookup field := by
  obtain ⟨typeOf, urlOf, secretOf, keyOf⟩ :=
    lookup_webhookWith url secret routingKey
  obtain ⟨otherType, otherURL, otherSecretOf, otherKeyOf⟩ :=
    lookup_webhookWith other otherSecret otherKey
  constructor
  · show (List.lookup _ _).isSome = (List.lookup _ _).isSome
    rw [secretOf, otherSecretOf]
    rfl
  · show SameRoutingKey (List.lookup _ _) (List.lookup _ _)
    rw [keyOf, otherKeyOf]
    exact keys
  · right
    refine ⟨Or.inr ?_, ascii url, ascii other, urlOf, otherURL, urls⟩
    simp only [destinationType, typeOf]
  · intro key isOther
    show List.lookup _ _ = List.lookup _ _
    by_cases isType : key = "type"
    · rw [isType, typeOf, otherType]
    · have fresh : key ∉ ["type", "url", "secret", "routing_key"] := by
        simp only [List.mem_cons, List.not_mem_nil, or_false, not_or]
          at isOther ⊢
        exact ⟨isType, isOther.2.2.2, isOther.1, isOther.2.2.1⟩
      rw [lookup_webhookWith_eq_none fresh, lookup_webhookWith_eq_none fresh]

theorem webhookWith_noninterfering :
    sanitizeAlertMetadata oneHost
        (metadataOf (webhookWith "https://u:p@hooks/a?t=1" "s1" "key-1234")) =
      sanitizeAlertMetadata oneHost
        (metadataOf (webhookWith "https://hooks/b" "s2" "other-1234")) := by
  apply sanitizeAlertMetadata_noninterfering
  apply sameMetadata_metadataOf
  apply sameDestination_webhookWith
  · exact Or.inr ⟨_, _, rfl, rfl, by decide, by decide, by decide⟩
  · exact ⟨⟨by decide, by decide⟩, rfl⟩

end DbosRelay.Api
