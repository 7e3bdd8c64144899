import Roster.Message
import Roster.Wire.Entity

/-! The JSON forms of messages. A message is an object with its kind as the member `type`; a user
info inside a message lies flat beside the kind. -/

namespace Roster

def UserInfo.members (i : UserInfo) : List (String × Json) :=
  [("identifier", .str i.identifier), ("status", Wire.toJson i.mask),
    ("away", .ofOption .bool i.away), ("status_message", .strOrNull i.statusMessage)]

def UserInfo.shape : Shape UserInfo :=
  UserInfo.mk
  <$> .required "identifier" Doc.readString
  <*> .required "status" Wire.read
  <*> .optional "away" Doc.readBool
  <*> .optional "status_message" Doc.readString

instance : Wire UserInfo where
  toJson i := .obj i.members
  read := UserInfo.shape.read

def Command.members : Command → List (String × Json)
  | setExtendedStatus mask => [("type", .str "SET_EXTENDED_STATUS"), ("mask", Wire.toJson mask)]
  | setStatusMessage message => [("type", .str "SET_STATUS_MESSAGE"), ("message", .str message)]
  | setVisibility visible => [("type", .str "SET_VISIBILITY"), ("visible", .bool visible)]
  | setAwayMessage message => [("type", .str "SET_AWAY_MESSAGE"), ("message", .strOrNull message)]
  | grantFutureAuthorization identifier reason =>
    [("type", .str "GRANT_FUTURE_AUTHORIZATION"), ("identifier", .str identifier),
      ("reason", .str reason)]
  | requestAuthorization identifier reason =>
    [("type", .str "REQUEST_AUTHORIZATION"), ("identifier", .str identifier),
      ("reason", .str reason)]
  | authorizationReply identifier accepted reason =>
    [("type", .str "AUTHORIZATION_REPLY"), ("identifier", .str identifier),
      ("accepted", .bool accepted), ("reason", .strOrNull reason)]

def Command.tagged : Tagged Command where
  tag := "type"
  variants :=
    [("SET_EXTENDED_STATUS", setExtendedStatus <$> .required "mask" Wire.read),
      ("SET_STATUS_MESSAGE", setStatusMessage <$> .required "message" Doc.readString),
      ("SET_VISIBILITY", setVisibility <$> .required "visible" Doc.readBool),
      ("SET_AWAY_MESSAGE", setAwayMessage <$> .optional "message" Doc.readString),
      ("GRANT_FUTURE_AUTHORIZATION", grantFutureAuthorization
        <$> .required "identifier" Doc.readString <*> .required "reason" Doc.readString),
      ("REQUEST_AUTHORIZATION", requestAuthorization
        <$> .required "identifier" Doc.readString <*> .required "reason" Doc.readString),
      ("AUTHORIZATION_REPLY", authorizationReply
        <$> .required "identifier" Doc.readString <*> .required "accepted" Doc.readBool
        <*> .optional "reason" Doc.readString)]

instance : Wire Command where
  toJson c := .obj c.members
  read := Command.tagged.read 1

def Request.members : Request → List (String × Json)
  | userInfo identifier => [("type", .str "USER_INFO"), ("identifier", .str identifier)]

def Request.tagged : Tagged Request where
  tag := "type"
  variants := [("USER_INFO", userInfo <$> .required "identifier" Doc.readString)]

instance : Wire Request where
  toJson r := .obj r.members
  read := Request.tagged.read 1

def Response.members : Response → List (String × Json)
  | userInfo info => ("type", .str "USER_INFO") :: info.members
  | error code message =>
    [("type", .str "ERROR"), ("code", .nat code.toNat), ("message", .str message)]

def Response.tagged : Tagged Response where
  tag := "type"
  variants :=
    [("USER_INFO", userInfo <$> UserInfo.shape),
      ("ERROR", error
        <$> .required "code" Doc.readUInt16 <*> .required "message" Doc.readString)]

instance : Wire Response where
  toJson r := .obj r.members
  read := Response.tagged.read 1

def bytesJson (bytes : List UInt8) : Json := .arr (bytes.map fun b => .nat b.toNat)

def ServerEvent.members : ServerEvent → List (String × Json)
  | ownInfo info => ("type", .str "OWN_INFO") :: info.members
  | ownExtraInfo statusMessage =>
    [("type", .str "OWN_EXTRA_INFO"), ("status_message", .strOrNull statusMessage)]
  | buddyStatus info => ("type", .str "BUDDY_STATUS") :: info.members
  | buddyOffline identifier => [("type", .str "BUDDY_OFFLINE"), ("identifier", .str identifier)]
  | buddyIcon identifier icon =>
    [("type", .str "BUDDY_ICON"), ("identifier", .str identifier),
      ("icon", .ofOption bytesJson icon)]
  | authorizationRequestReceived identifier reason =>
    [("type", .str "AUTHORIZATION_REQUEST_RECEIVED"), ("identifier", .str identifier),
      ("reason", .str reason)]
  | authorizationAccepted identifier reason =>
    [("type", .str "AUTHORIZATION_ACCEPTED"), ("identifier", .str identifier),
      ("reason", .strOrNull reason)]
  | authorizationDenied identifier reason =>
    [("type", .str "AUTHORIZATION_DENIED"), ("identifier", .str identifier),
      ("reason", .strOrNull reason)]
  | futureAuthorizationGranted identifier reason =>
    [("type", .str "FUTURE_AUTHORIZATION_GRANTED"), ("identifier", .str identifier),
      ("reason", .str reason)]
  | youWereAdded identifier => [("type", .str "YOU_WERE_ADDED"), ("identifier", .str identifier)]

def ServerEvent.tagged : Tagged ServerEvent where
  tag := "type"
  variants :=
    [("OWN_INFO", ownInfo <$> UserInfo.shape),
      ("OWN_EXTRA_INFO", ownExtraInfo <$> .optional "status_message" Doc.readString),
      ("BUDDY_STATUS", buddyStatus <$> UserInfo.shape),
      ("BUDDY_OFFLINE", buddyOffline <$> .required "identifier" Doc.readString),
      ("BUDDY_ICON", buddyIcon
        <$> .required "identifier" Doc.readString
        <*> .optional "icon" (Doc.readList Doc.readUInt8)),
      ("AUTHORIZATION_REQUEST_RECEIVED", authorizationRequestReceived
        <$> .required "identifier" Doc.readString <*> .required "reason" Doc.readString),
      ("AUTHORIZATION_ACCEPTED", authorizationAccepted
        <$> .required "identifier" Doc.readString <*> .optional "reason" Doc.readString),
      ("AUTHORIZATION_DENIED", authorizationDenied
        <$> .required "identifier" Doc.readString <*> .optional "reason" Doc.readString),
      ("FUTURE_AUTHORIZATION_GRANTED", futureAuthorizationGranted
        <$> .required "identifier" Doc.readString <*> .required "reason" Doc.readString),
      ("YOU_WERE_ADDED", youWereAdded <$> .required "identifier" Doc.readString)]

instance : Wire ServerEvent where
  toJson e := .obj e.members
  read := ServerEvent.tagged.read 1

end Roster
