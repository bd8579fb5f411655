/-
  StakeRelay.Chain.RelayEndpoint — the destination chain behind a relay.

  An update is posted as a JSON object with the call and its records. The relay answers
  with an object, or with an array of the three parts in order: whether the update was
  accepted, any result, and the reason of a refusal. The numbers in the result have to be
  within double precision. Only the answer's body counts.
-/

import StakeRelay.Dialogue
import StakeRelay.Json.Range
import StakeRelay.Json.Records

namespace StakeRelay.RelayEndpoint

/-- The first line of the request for an update. -/
def requestLine (path : String) : String := s!"POST {path} HTTP/1.1"

/-- The type of the request's body. -/
def contentType : String := "application/json"

/-- The body of the request for an update. -/
def requestBody (update : Update) : Json :=
  .object [("method", .string update.call),
    ("params", .object [("stake_infos", recordsToJson update.payload)])]

/-- What a relay answers. -/
structure Response where
  success : Bool
  /-- The reason of a refusal. -/
  reason : Option String
  deriving Repr, DecidableEq

/-- A truth value. -/
def success? : Json → Option Bool
  | .bool b => some b
  | _ => none

/-- A reason, which may be null. -/
def reason? : Json → Option (Option String)
  | .null => some none
  | .string s => some (some s)
  | _ => none

/-- The response of the three parts, where the result and the reason may be missing. -/
def ofParts? (success : Json) (result reason : Option Json) : Option Response :=
  if result.all Json.isInRange then do
    return ⟨← success? success, ← reason? (reason.getD .null)⟩
  else none

/-- The response in a value. No part of an object may stand twice; its other fields do
    not count. -/
def response? : Json → Option Response
  | .array [success, result, reason] => ofParts? success (some result) (some reason)
  | .object fields =>
    match Json.fieldsNamed "success" fields, Json.fieldsNamed "result" fields,
      Json.fieldsNamed "error" fields with
    | [success], [], [] => ofParts? success none none
    | [success], [result], [] => ofParts? success (some result) none
    | [success], [], [reason] => ofParts? success none (some reason)
    | [success], [result], [reason] => ofParts? success (some result) (some reason)
    | _, _, _ => none
  | _ => none

/-- The answer to an update, given the body of the relay's answer, if there is one. -/
def answerOf (body : Option Bytes) : Except Failure Unit :=
  match body with
  | none => .error (.submission .noAnswer)
  | some bs =>
    match (Json.readBytes? bs).bind response? with
    | none => .error (.submission .unreadableAnswer)
    | some r =>
      if r.success then .ok ()
      else
        match r.reason with
        | some reason => .error (.submission (.reported reason))
        | none => .error (.submission .unexplained)

end StakeRelay.RelayEndpoint
