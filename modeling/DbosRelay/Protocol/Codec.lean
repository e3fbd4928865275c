import DbosRelay.Protocol.Schema

/-!
# The wire codec

`internal/protocol/codec.go`.  `Encode` writes the struct of a message;
`DecodeRequest` and `DecodeResponse` choose the struct by the `type` member and
fill it; `Decode` first guesses the direction from the members which are present.

A request and a response of one type may have members in common, so the guess
goes by members no request of that type has.  That is what makes `Decode` find a
forwarded request to be one.
-/

namespace DbosRelay.Protocol

open DbosRelay.Library.GoJson

/-! ## Messages -/

/-- The struct `DecodeRequest` fills for a type. -/
def requestFields : MessageType → List Field
  | .executorInfo => Schema.executorInfoRequest
  | .recovery => Schema.recoveryRequest
  | .cancel => Schema.cancelWorkflowRequest
  | .resume => Schema.resumeWorkflowRequest
  | .listWorkflows => Schema.listWorkflowsRequest
  | .listQueuedWorkflows => Schema.listWorkflowsRequest
  | .listSteps => Schema.listStepsRequest
  | .getWorkflow => Schema.getWorkflowRequest
  | .forkWorkflow => Schema.forkWorkflowRequest
  | .rewindWorkflow => Schema.rewindWorkflowRequest
  | .forkFromFailure => Schema.forkFromFailureRequest
  | .existPendingWorkflows => Schema.existPendingWorkflowsRequest
  | .retention => Schema.retentionRequest
  | .getMetrics => Schema.getMetricsRequest
  | .exportWorkflow => Schema.exportWorkflowRequest
  | .importWorkflow => Schema.importWorkflowRequest
  | .delete => Schema.deleteWorkflowRequest
  | .alert => Schema.alertRequest
  | .listSchedules => Schema.listSchedulesRequest
  | .getSchedule => Schema.getScheduleRequest
  | .pauseSchedule => Schema.pauseScheduleRequest
  | .resumeSchedule => Schema.resumeScheduleRequest
  | .backfillSchedule => Schema.backfillScheduleRequest
  | .triggerSchedule => Schema.triggerScheduleRequest
  | .getWorkflowEvents => Schema.getWorkflowEventsRequest
  | .getWorkflowNotifications => Schema.getWorkflowNotificationsRequest
  | .getWorkflowStreams => Schema.getWorkflowStreamsRequest
  | .getWorkflowAggregates => Schema.getWorkflowAggregatesRequest
  | .getStepAggregates => Schema.getStepAggregatesRequest
  | .listApplicationVersions => Schema.listApplicationVersionsRequest
  | .setLatestApplicationVersion => Schema.setLatestApplicationVersionRequest
  | .listQueues => Schema.listQueuesRequest
  | .getQueue => Schema.getQueueRequest
  | .other _ => []

/-- The struct `DecodeResponse` fills for a type. -/
def responseFields : MessageType → List Field
  | .executorInfo => Schema.executorInfoResponse
  | .recovery => Schema.recoveryResponse
  | .cancel => Schema.cancelWorkflowResponse
  | .resume => Schema.resumeWorkflowResponse
  | .listWorkflows => Schema.listWorkflowsResponse
  | .listQueuedWorkflows => Schema.listWorkflowsResponse
  | .listSteps => Schema.listStepsResponse
  | .getWorkflow => Schema.getWorkflowResponse
  | .forkWorkflow => Schema.forkWorkflowResponse
  | .rewindWorkflow => Schema.rewindWorkflowResponse
  | .forkFromFailure => Schema.forkFromFailureResponse
  | .existPendingWorkflows => Schema.existPendingWorkflowsResponse
  | .retention => Schema.retentionResponse
  | .getMetrics => Schema.getMetricsResponse
  | .exportWorkflow => Schema.exportWorkflowResponse
  | .importWorkflow => Schema.importWorkflowResponse
  | .delete => Schema.deleteWorkflowResponse
  | .alert => Schema.alertResponse
  | .listSchedules => Schema.listSchedulesResponse
  | .getSchedule => Schema.getScheduleResponse
  | .pauseSchedule => Schema.pauseScheduleResponse
  | .resumeSchedule => Schema.resumeScheduleResponse
  | .backfillSchedule => Schema.backfillScheduleResponse
  | .triggerSchedule => Schema.triggerScheduleResponse
  | .getWorkflowEvents => Schema.getWorkflowEventsResponse
  | .getWorkflowNotifications => Schema.getWorkflowNotificationsResponse
  | .getWorkflowStreams => Schema.getWorkflowStreamsResponse
  | .getWorkflowAggregates => Schema.getWorkflowAggregatesResponse
  | .getStepAggregates => Schema.getStepAggregatesResponse
  | .listApplicationVersions => Schema.listApplicationVersionsResponse
  | .setLatestApplicationVersion => Schema.setLatestApplicationVersionResponse
  | .listQueues => Schema.listQueuesResponse
  | .getQueue => Schema.getQueueResponse
  | .other _ => []

/-- The fields of a message after its envelope. -/
def bodyFields (isResponse : Bool) (messageType : MessageType) : List Field :=
  if isResponse then responseFields messageType else requestFields messageType

/-- The fields of a message: those of `Envelope`, and its own. -/
def messageFields (fields : List Field) : Fields FieldKind :=
  .cons "type" false (.leaf .string)
    (.cons "request_id" false (.leaf .string)
      (.cons "error_message" true (.pointer (.leaf .string))
        (fieldsOf fields)))

/-- The values of a message. -/
@[reducible]
def MessageValues (types : StandardTypes) (isResponse : Bool)
    (messageType : MessageType) : Type :=
  (messageFields (bodyFields isResponse messageType)).Values types.leaves

/-- A pointer to one of the structs, for a message of the given type. -/
structure WireMessage (types : StandardTypes) where
  isResponse : Bool
  messageType : MessageType
  values : MessageValues types isResponse messageType

/-- A request: its `Type` is that of its struct, and it has no error message. -/
structure Request (types : StandardTypes) (messageType : MessageType) where
  values : MessageValues types false messageType
  type : values.1 = messageType.text
  errorMessage : values.2.2.1 = none

/-- A response: its `Type` is that of its struct. -/
structure Response (types : StandardTypes) (messageType : MessageType) where
  values : MessageValues types true messageType
  type : values.1 = messageType.text

/-! ## The codec -/

/-- What the decoders return instead of a message. -/
inductive DecodeError where
  | malformedMessage
  | malformedType
  | missingType
  | unknownMessageType (isResponse : Bool) (name : String)
  | malformedPayload (messageType : MessageType)
deriving DecidableEq, Repr

/-- The types with a struct of their own. -/
def knownTypes : List MessageType :=
  [.executorInfo, .recovery, .cancel, .resume, .listWorkflows,
    .listQueuedWorkflows, .listSteps, .getWorkflow, .forkWorkflow,
    .rewindWorkflow, .forkFromFailure, .existPendingWorkflows, .retention,
    .getMetrics, .exportWorkflow, .importWorkflow, .delete, .alert,
    .listSchedules, .getSchedule, .pauseSchedule, .resumeSchedule,
    .backfillSchedule, .triggerSchedule, .getWorkflowEvents,
    .getWorkflowNotifications, .getWorkflowStreams, .getWorkflowAggregates,
    .getStepAggregates, .listApplicationVersions,
    .setLatestApplicationVersion, .listQueues, .getQueue]

/-- The conversion `MessageType(typeStr)`. -/
def MessageType.ofText (name : String) : MessageType :=
  (knownTypes.find? fun messageType => messageType.text = name).getD
    (.other name)

/-- `Encode`. -/
def WireMessage.encode {types : StandardTypes} (message : WireMessage types) :
    Option Json :=
  (GoType.struct
    (messageFields
      (bodyFields message.isResponse message.messageType))).encode
    types.leaves message.values

/-- The document as a `map[string]json.RawMessage`. -/
def rawMembers : Json → Option (List (String × Json))
  | .null => some []
  | .object members => some members
  | _ => none

/-- The type of a message. -/
def peekType (raw : List (String × Json)) : Except DecodeError MessageType :=
  match member raw "type" with
  | none => .error .missingType
  | some json =>
      match stringCodec.decode "" json with
      | none => .error .malformedType
      | some name => .ok (.ofText name)

/-- The guess of `Decode`. -/
def looksLikeResponse (raw : List (String × Json))
    (messageType : MessageType) : Bool :=
  let has (key : String) : Bool := (member raw key).isSome
  if has "error_message" then true
  else if has "success" then true
  else if has "output" then true
  else
    match messageType with
    | .executorInfo => has "executor_id"
    | .forkWorkflow => has "new_workflow_id" && !has "body"
    | .forkFromFailure => has "forked_workflow_ids"
    | .existPendingWorkflows => has "exist"
    | .getMetrics => has "metrics"
    | .exportWorkflow => has "serialized_workflow" && !has "export_children"
    | .backfillSchedule => has "workflow_ids"
    | .triggerSchedule => has "workflow_id" && !has "schedule_name"
    | .getWorkflowEvents => has "events"
    | .getWorkflowNotifications => has "notifications"
    | .getWorkflowStreams => has "streams"
    | _ => false

/-- The members and the type of a document. -/
def peek (json : Json) :
    Except DecodeError (List (String × Json) × MessageType) :=
  match rawMembers json with
  | none => .error .malformedMessage
  | some raw => (peekType raw).map fun messageType => (raw, messageType)

section Decoding

variable (types : StandardTypes)

/-- `decodeWithDirection`. -/
def decodeWithDirection (json : Json) (isResponse : Bool) :
    Except DecodeError (WireMessage types) :=
  match peek json with
  | .error error => .error error
  | .ok (_, .other name) => .error (.unknownMessageType isResponse name)
  | .ok (_, messageType) =>
      let fields := messageFields (bodyFields isResponse messageType)
      let decoded :=
        (GoType.struct fields).decode types.leaves (fields.zero types.leaves)
          json
      if decoded.2 then .ok ⟨isResponse, messageType, decoded.1⟩
      else .error (.malformedPayload messageType)

/-- `DecodeRequest`. -/
def decodeRequest (json : Json) : Except DecodeError (WireMessage types) :=
  decodeWithDirection types json false

/-- `DecodeResponse`. -/
def decodeResponse (json : Json) : Except DecodeError (WireMessage types) :=
  decodeWithDirection types json true

/-- `Decode`. -/
def decode (json : Json) : Except DecodeError (WireMessage types) :=
  match peek json with
  | .error error => .error error
  | .ok (raw, messageType) =>
      decodeWithDirection types json (looksLikeResponse raw messageType)

end Decoding

/-- What a message is read back as: `nil` for what `omitempty` leaves out. -/
def WireMessage.canonical {types : StandardTypes}
    (message : WireMessage types) : WireMessage types :=
  { message with
    values :=
      (messageFields
        (bodyFields message.isResponse message.messageType)).canonical
        types.leaves message.values }

/-! ## The tables -/

theorem ofText_text {messageType : MessageType}
    (known : messageType ∈ knownTypes) :
    MessageType.ofText messageType.text = messageType := by
  revert messageType
  decide +kernel

/-- No struct has two fields of one name. -/
theorem wellFormed_messageFields {messageType : MessageType}
    (known : messageType ∈ knownTypes) (isResponse : Bool) :
    (messageFields (bodyFields isResponse messageType)).wellFormed = true := by
  revert messageType isResponse
  decide +kernel

/-- The members `Decode` takes for those of a response. -/
def responseKeys : MessageType → List String
  | .executorInfo => ["success", "output", "executor_id"]
  | .forkWorkflow => ["success", "output", "new_workflow_id"]
  | .forkFromFailure => ["success", "output", "forked_workflow_ids"]
  | .existPendingWorkflows => ["success", "output", "exist"]
  | .getMetrics => ["success", "output", "metrics"]
  | .exportWorkflow => ["success", "output", "serialized_workflow"]
  | .backfillSchedule => ["success", "output", "workflow_ids"]
  | .triggerSchedule => ["success", "output", "workflow_id"]
  | .getWorkflowEvents => ["success", "output", "events"]
  | .getWorkflowNotifications => ["success", "output", "notifications"]
  | .getWorkflowStreams => ["success", "output", "streams"]
  | _ => ["success", "output"]

/-- No request has a field of such a name. -/
theorem responseKeys_not_request {messageType : MessageType}
    (known : messageType ∈ knownTypes) :
    ∀ key ∈ responseKeys messageType,
      key ∉ (messageFields (bodyFields false messageType)).names := by
  revert messageType
  decide +kernel

/-! ## What is written -/

section Encoding

variable {types : StandardTypes} {isResponse : Bool} {messageType : MessageType}
variable {values : MessageValues types isResponse messageType}
variable {members : List (String × Json)}

/-- The names which are not those of the envelope. -/
theorem fresh_envelope (known : messageType ∈ knownTypes) :
    "type" ∉ (messageFields (bodyFields isResponse messageType)).names.tail ∧
      "error_message" ∉ (fieldsOf (bodyFields isResponse messageType)).names := by
  revert messageType isResponse
  decide +kernel

/-- The type of a message is read back. -/
theorem peekType_encode (known : messageType ∈ knownTypes)
    (type : values.1 = messageType.text)
    (encoded : (messageFields (bodyFields isResponse messageType)).encode
      types.leaves values = some members) :
    peekType members = .ok messageType := by
  have written : member members "type" = some (.string values.1) :=
    Fields.member_encode_self (fresh_envelope known).1 encoded
  rw [peekType, written]
  show Except.ok (MessageType.ofText values.1) = _
  rw [type, ofText_text known]

theorem peek_encode (known : messageType ∈ knownTypes)
    (type : values.1 = messageType.text)
    (encoded : (messageFields (bodyFields isResponse messageType)).encode
      types.leaves values = some members) :
    peek (.object members) = .ok (members, messageType) := by
  show (peekType members).map _ = _
  rw [peekType_encode known type encoded]
  rfl

/-- Without an error message nothing looks like a response. -/
theorem looksLikeResponse_encode
    {values : MessageValues types false messageType}
    (known : messageType ∈ knownTypes) (errorMessage : values.2.2.1 = none)
    (encoded : (messageFields (bodyFields false messageType)).encode
      types.leaves values = some members) :
    looksLikeResponse members messageType = false := by
  have noError : member members "error_message" = none := by
    obtain ⟨afterType, encodedRest, same⟩ :=
      Fields.member_encode_of_ne encoded
    obtain ⟨afterID, encodedBody, sameRest⟩ :=
      Fields.member_encode_of_ne encodedRest
    rw [same _ (by decide), sameRest _ (by decide),
      Fields.member_encode_self (fresh_envelope known).2 encodedBody,
      errorMessage]
    rfl
  have absent : ∀ key ∈ responseKeys messageType,
      member members key = none := by
    intro key isKey
    apply member_eq_none
    intro json written
    exact responseKeys_not_request known key isKey
      (Fields.mem_names_of_encode encoded written)
  cases messageType <;> simp [responseKeys] at absent <;>
    simp [looksLikeResponse, noError, absent]

/-- Decoding in the right direction reads a message back. -/
theorem decodeWithDirection_encode (roundTrip : types.RoundTrip)
    (known : messageType ∈ knownTypes) (type : values.1 = messageType.text) :
    ∃ members,
      (messageFields (bodyFields isResponse messageType)).encode types.leaves
          values = some members ∧
        decodeWithDirection types (.object members) isResponse =
          .ok (WireMessage.canonical ⟨isResponse, messageType, values⟩) := by
  obtain ⟨members, encoded, decoded⟩ :=
    Fields.decode_encode roundTrip.leaves _
      (wellFormed_messageFields known isResponse) values _
      (fun _ member => member)
  refine ⟨members, encoded, ?_⟩
  have filled : (GoType.struct
      (messageFields (bodyFields isResponse messageType))).decode types.leaves
        ((messageFields (bodyFields isResponse messageType)).zero types.leaves)
        (.object members) =
      ((messageFields (bodyFields isResponse messageType)).canonical
        types.leaves values, true) := decoded
  rw [decodeWithDirection, peek_encode known type encoded]
  cases messageType with
  | other name => simp [knownTypes] at known
  | _ =>
      simp only [filled, if_true]
      rfl

end Encoding

/-! ## Round trips -/

/--
Every request is written, and both `Decode` and `DecodeRequest` read that
request back; every response is written, and `DecodeResponse` reads it back: up
to `nil` for what `omitempty` leaves out, and as far as `encoding/json` reads
back the standard types.
-/
theorem decode_encode_messages (types : StandardTypes)
    (roundTrip : types.RoundTrip) :
    (∀ messageType ∈ knownTypes, ∀ request : Request types messageType,
      ∃ json,
        WireMessage.encode ⟨false, messageType, request.values⟩ = some json ∧
          decode types json =
            .ok (WireMessage.canonical ⟨false, messageType, request.values⟩) ∧
          decodeRequest types json =
            .ok (WireMessage.canonical ⟨false, messageType, request.values⟩)) ∧
      ∀ messageType ∈ knownTypes, ∀ response : Response types messageType,
        ∃ json,
          WireMessage.encode ⟨true, messageType, response.values⟩ =
              some json ∧
            decodeResponse types json =
              .ok (WireMessage.canonical
                ⟨true, messageType, response.values⟩) := by
  constructor
  · intro messageType known request
    obtain ⟨members, encoded, decoded⟩ :=
      decodeWithDirection_encode roundTrip known request.type
    refine ⟨.object members, ?_, ?_, decoded⟩
    · show ((messageFields _).encode _ _).map _ = _
      rw [encoded]
      rfl
    · rw [decode, peek_encode known request.type encoded]
      show decodeWithDirection types _ (looksLikeResponse members messageType) = _
      rw [looksLikeResponse_encode known request.errorMessage encoded]
      exact decoded
  · intro messageType known response
    obtain ⟨members, encoded, decoded⟩ :=
      decodeWithDirection_encode roundTrip known response.type
    refine ⟨.object members, ?_, decoded⟩
    show ((messageFields _).encode _ _).map _ = _
    rw [encoded]
    rfl

/-- Maps by their members. -/
def mapCodec : Codec (Option (List (String × Json))) where
  zero := none
  isEmpty value := (value.getD []).isEmpty
  encode
    | none => some .null
    | some members => some (.object members)
  decode
    | _, .null => some none
    | _, .object members => some (some members)
    | _, _ => none

theorem mapCodec_roundTrip : mapCodec.RoundTrip
  | none => ⟨_, rfl, rfl⟩
  | some _ => ⟨_, rfl, rfl⟩

/-- Floats by their literals. -/
def literalCodec : Codec Number where
  zero := .integer 0
  isEmpty value := value = .integer 0
  encode value := some (.number value)
  decode
    | _, .number value => some value
    | old, .null => some old
    | _, _ => none

/-- Floats by their literals, times by their texts and maps by their members. -/
def literalTypes : StandardTypes where
  Float64 := Number
  Time := String
  AnyMap := Option (List (String × Json))
  StringMap := Option (List (String × Json))
  PointerMap := Option (List (String × Json))
  float64 := literalCodec
  time := stringCodec
  anyMap := mapCodec
  stringMap := mapCodec
  pointerMap := mapCodec

theorem literalTypes_roundTrip : literalTypes.RoundTrip where
  float64 := fun _ => ⟨_, rfl, rfl⟩
  time := stringCodec_roundTrip
  anyMap := mapCodec_roundTrip
  stringMap := mapCodec_roundTrip
  pointerMap := mapCodec_roundTrip

/-- A `CancelWorkflowRequest`. -/
def cancelRequest : Request literalTypes .cancel where
  values := ("cancel", "req-1", none, true, "wf-1", some ["wf-1", "wf-2"], ())
  type := rfl
  errorMessage := rfl

theorem decode_encode_cancelRequest :
    ∃ json,
      WireMessage.encode ⟨false, .cancel, cancelRequest.values⟩ = some json ∧
        decode literalTypes json =
          .ok ⟨false, .cancel, cancelRequest.values⟩ := by
  obtain ⟨json, encoded, decoded, -⟩ :=
    (decode_encode_messages literalTypes literalTypes_roundTrip).1 .cancel
      (by decide) cancelRequest
  exact ⟨json, encoded, decoded⟩

end DbosRelay.Protocol
