import MatrixSdk.Rust.Bytes

/-!
# Outgoing requests

`requests.rs` gathers what the crypto machine asks the client to send – key uploads
and queries, to-device messages, signature uploads and room messages – in one sum
type, `OutgoingRequests`, and pairs each with the identifier the client hands back
with the response, in `OutgoingRequest`.

The one computation on identifiers is that of a verification request: its request
id is the transaction id of the message it sends, to-device or in the room, so that
the echo of the message and the response of the call can be matched to one
another, and `From<OutgoingVerificationRequest> for OutgoingRequest` takes it as the
id of the request it builds. A to-device request made by `ToDeviceRequest::new`
holds one message under the id drawn, or the call panics on a content that does not
serialize (`MatrixSdk.Requests.ToDeviceRequest.new_messageCount`).

## Where the model stops

The requests of `ruma` (key upload, signature upload) are carried as they are: they
are type parameters, and nothing here reads them. Event contents, and the
borrowed responses of `IncomingResponse`, are read by no modelled function and are
left out. A `Uuid` is its 128 bits; `Uuid::new_v4` is an input: the id it drew.
`BTreeMap`s are association lists, which is what `ToDeviceRequest::new` builds and
`message_count` reads.
-/

namespace MatrixSdk

namespace Requests

open Outcome

/-- A `Uuid`: 128 bits. -/
abbrev Uuid := BitVec 128

/-- `DeviceIdOrAllDevices`. -/
inductive DeviceIdOrAllDevices where
  /-- One device of the user. -/
  | deviceId (id : String)
  /-- Every device of the user. -/
  | allDevices
deriving DecidableEq, Repr

/-- `ToDeviceRequest`: an event of one type, for devices of users, under a
transaction id. -/
structure ToDeviceRequest where
  /-- The type of the event sent to each device. -/
  eventType : String
  /-- The transaction id. -/
  txnId : Uuid
  /-- For each user, the serialized content for each of their devices. -/
  messages : List (String × List (DeviceIdOrAllDevices × String))
deriving DecidableEq, Repr

/-- `ToDeviceRequest::new`: one content, serialized, for one device of one user,
under the id `txnId` that `Uuid::new_v4` drew. `serialized` is what
`serde_json::value::to_raw_value` made of the content, and `eventType` its
`event_type()`. -/
def ToDeviceRequest.new (txnId : Uuid) (recipient : String)
    (recipientDevice : DeviceIdOrAllDevices) (eventType : String) (serialized : Option String) :
    Outcome ToDeviceRequest := do
  let raw ← expect serialized "Can't serialize to-device content"
  return { txnId, eventType, messages := [(recipient, [(recipientDevice, raw)])] }

/-- `ToDeviceRequest::message_count`: the number of messages, over all users. -/
def ToDeviceRequest.messageCount (r : ToDeviceRequest) : Nat :=
  (r.messages.map fun d => d.2.length).sum

/-- `ToDeviceRequest::new` builds a request of one message, under the id drawn,
whenever the content serializes, and panics otherwise. -/
theorem ToDeviceRequest.new_messageCount (txnId : Uuid) (recipient : String)
    (recipientDevice : DeviceIdOrAllDevices) (eventType : String) (serialized : Option String) :
    (∀ raw, serialized = some raw → ∃ r, new txnId recipient recipientDevice eventType
      serialized = returns r ∧ r.txnId = txnId ∧ r.messageCount = 1) ∧
    (serialized = none → new txnId recipient recipientDevice eventType serialized =
      panics "Can't serialize to-device content") := by
  constructor
  · rintro raw rfl
    exact ⟨_, rfl, rfl, rfl⟩
  · rintro rfl
    rfl

/-- `KeysQueryRequest`. -/
structure KeysQueryRequest where
  /-- The time to wait for remote servers, in milliseconds. -/
  timeout : Option Nat
  /-- The users whose keys are queried, with the devices of each (none: all). -/
  deviceKeys : List (String × List String)
  /-- The sync token the query follows. -/
  token : Option String
deriving DecidableEq, Repr

/-- `KeysQueryRequest::new`: no timeout, and no token. -/
def KeysQueryRequest.new (deviceKeys : List (String × List String)) : KeysQueryRequest :=
  { timeout := none, deviceKeys, token := none }

/-- `RoomMessageRequest`, without its content. -/
structure RoomMessageRequest where
  /-- The room the event goes to. -/
  roomId : String
  /-- The transaction id of the event. -/
  txnId : Uuid
deriving DecidableEq, Repr

/-- `OutgoingRequests`, over the `ruma` requests of key and signature uploads. -/
inductive OutgoingRequests (KeysUpload SignatureUpload : Type) where
  /-- Upload of device and one-time keys. -/
  | keysUpload (r : KeysUpload)
  /-- Query of the keys of other users. -/
  | keysQuery (r : KeysQueryRequest)
  /-- A to-device message. -/
  | toDeviceRequest (r : ToDeviceRequest)
  /-- Upload of signatures. -/
  | signatureUpload (r : SignatureUpload)
  /-- A message in a room. -/
  | roomMessage (r : RoomMessageRequest)

variable {KeysUpload SignatureUpload : Type}

/-- `OutgoingRequests::to_device`: the to-device message, if the request is one. -/
def OutgoingRequests.toDevice :
    OutgoingRequests KeysUpload SignatureUpload → Option ToDeviceRequest
  | .toDeviceRequest r => some r
  | _ => none

/-- `OutgoingVerificationRequest`. -/
inductive OutgoingVerificationRequest where
  /-- A verification by to-device messages. -/
  | toDevice (r : ToDeviceRequest)
  /-- A verification in a room. -/
  | inRoom (r : RoomMessageRequest)
deriving DecidableEq, Repr

/-- `OutgoingVerificationRequest::request_id`. -/
def OutgoingVerificationRequest.requestId : OutgoingVerificationRequest → Uuid
  | .toDevice t => t.txnId
  | .inRoom r => r.txnId

/-- `From<OutgoingVerificationRequest> for OutgoingRequests`. -/
def OutgoingVerificationRequest.toOutgoingRequests :
    OutgoingVerificationRequest → OutgoingRequests KeysUpload SignatureUpload
  | .toDevice r => .toDeviceRequest r
  | .inRoom r => .roomMessage r

/-- `OutgoingRequest`: a request and its id. -/
structure OutgoingRequest (KeysUpload SignatureUpload : Type) where
  /-- The id the response is matched with. -/
  requestId : Uuid
  /-- The request. -/
  request : OutgoingRequests KeysUpload SignatureUpload

/-- `From<OutgoingVerificationRequest> for OutgoingRequest`. -/
def OutgoingRequest.ofVerification (r : OutgoingVerificationRequest) :
    OutgoingRequest KeysUpload SignatureUpload :=
  { requestId := r.requestId, request := r.toOutgoingRequests }

/-- `From<SignatureUploadRequest> for OutgoingRequest`, under the id `requestId` that
`Uuid::new_v4` drew. -/
def OutgoingRequest.ofSignatureUpload (requestId : Uuid) (r : SignatureUpload) :
    OutgoingRequest KeysUpload SignatureUpload :=
  { requestId, request := .signatureUpload r }

end Requests

end MatrixSdk
