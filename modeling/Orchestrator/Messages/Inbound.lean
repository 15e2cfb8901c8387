import Orchestrator.Messages.Dispatch

/-!
# Inbound messages and their replies

`handle_json_inbound_message` for a message that is not null.
-/

namespace Orchestrator.Messages

open Lib Handler Server State Alloc

/-! ## Replies -/

/-- `send_json_to_client` -/
def sendJsonToClient (root : Json) (clientFd : Int) : Esp Unit := do
  match ← (allocate (cJSONPrintUnformatted root) : Handler (Option Json)) with
  | none => throw EspErr.espFail
  | some json => websocketSendMessageToClient clientFd json

/-- The object that `send_protocol_error` sends. -/
def protocolErrorObject (code message : String) : Alloc (Option Json) := do
  match ← cJSONCreateObject, ← cJSONCreateObject with
  | some root, some error =>
      let root ← addFields root [(CStr.lit "type", .string (CStr.lit "error"))]
      let error ← addFields error
        [(CStr.lit "code", .string (CStr.lit code)),
         (CStr.lit "message", .string (CStr.lit message))]
      return some (← addFields root [(CStr.lit "error", error)])
  | _, _ => return none

/-- The rest of a function that sends what it has built. -/
def sendBuilt (object : Alloc (Option Json)) (clientFd : Int) : Esp Unit := do
  match ← (allocate object : Handler (Option Json)) with
  | none => throw EspErr.noMem
  | some root => sendJsonToClient root clientFd

/-- `send_protocol_error` -/
def sendProtocolError (clientFd : Int) (code message : String) : Esp Unit :=
  sendBuilt (protocolErrorObject code message) clientFd

/-- `error_code_for_result` -/
def errorCodeForResult (p : Platform) (err : EspErr) (unknownAction : Bool) : CStr :=
  if unknownAction then CStr.lit "UNKNOWN_ACTION" else p.espErrToName err

/-- The message of a failed result, for which the name of its error stands in. -/
def errorMessageForResult (p : Platform) (err : EspErr) (message : CStr) : CStr :=
  if message.isEmpty then p.espErrToName err else message

/-- The members of every `command_result`. -/
def resultHeader (requestId action : CStr) (ok : Bool) : List (CStr × Json) :=
  [(CStr.lit "type", .string (CStr.lit "command_result")),
   (CStr.lit "request_id", .string requestId),
   (CStr.lit "action", .string action),
   (CStr.lit "ok", .bool ok)]

/-- The members of the error of a failed result. -/
def resultError (p : Platform) (err : EspErr) (result : CommandExecutionResult) :
    List (CStr × Json) :=
  [(CStr.lit "code", .string (errorCodeForResult p err result.unknownAction)),
   (CStr.lit "message", .string (errorMessageForResult p err result.errorMessage.toCStr))]

/-- The object that `send_command_result` sends. -/
def commandResultObject (p : Platform) (requestId action : CStr)
    (result : CommandExecutionResult) : Alloc (Option Json) := do
  match ← cJSONCreateObject with
  | none => return none
  | some root =>
      match result.err with
      | .ok _ =>
          let root ← addFields root (resultHeader requestId action true)
          match ← payloadOrEmpty result.payload with
          | none => return none
          | some payload => return some (← addFields root [(CStr.lit "payload", payload)])
      | .error err =>
          let root ← addFields root (resultHeader requestId action false)
          match ← createObject (resultError p err result) with
          | none => return none
          | some error => return some (← addFields root [(CStr.lit "error", error)])

/-- `send_command_result` -/
def sendCommandResult (p : Platform) (clientFd : Int) (requestId action : CStr)
    (result : CommandExecutionResult) : Esp Unit :=
  sendBuilt (commandResultObject p requestId action result) clientFd

/-! ## Envelopes -/

/-- What a command message has been checked for. -/
structure Envelope where
  requestId : CStr
  action : CStr
  payload : Json

/-- The code and the message of a protocol error. -/
structure ProtocolError where
  code : String
  message : String

/-- The checks on a message in the order of the source. -/
def checkEnvelope (root : Option Json) : Except ProtocolError Envelope :=
  match root with
  | none => .error ⟨"INVALID_JSON", "Message is not valid JSON"⟩
  | some root =>
      match Json.string? (root.getObjectItemCaseSensitive (CStr.lit "type")) with
      | none => .error ⟨"MISSING_TYPE", "Missing required field: type"⟩
      | some type =>
          if type ≠ CStr.lit "command" then
            .error ⟨"UNSUPPORTED_TYPE", "Unsupported message type"⟩
          else
            match nonEmptyString (root.getObjectItemCaseSensitive (CStr.lit "request_id")) with
            | none => .error ⟨"MISSING_REQUEST_ID", "Command messages require request_id"⟩
            | some requestId =>
                match nonEmptyString (root.getObjectItemCaseSensitive (CStr.lit "action")) with
                | none => .error ⟨"MISSING_ACTION", "Command messages require action"⟩
                | some action =>
                    match root.getObjectItemCaseSensitive (CStr.lit "payload") with
                    | some (.object members) =>
                        .ok { requestId, action, payload := .object members }
                    | _ => .error ⟨"INVALID_PAYLOAD", "Command payload must be an object"⟩

/-- `cJSON_Parse`, which also fails when memory runs out. -/
def cJSONParse (p : Platform) (text : CStr) : Alloc (Option Json) := do
  if ← next then return p.cJSONParse text else return none

/-- `handle_json_inbound_message` -/
def handleJsonInboundMessage (cfg : Config) (p : Platform) (inboundMessage : CStr)
    (clientFd : Int) : Esp Unit := do
  match checkEnvelope (← (allocate (cJSONParse p inboundMessage) : Handler (Option Json))) with
  | .error error => sendProtocolError clientFd error.code error.message
  | .ok envelope =>
      let result ← (processCommandMessage cfg p envelope.action envelope.payload :
        Handler CommandExecutionResult)
      sendCommandResult p clientFd envelope.requestId envelope.action result

end Orchestrator.Messages
