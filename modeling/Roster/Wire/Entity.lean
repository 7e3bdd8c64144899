import Roster.Account
import Roster.Authorization
import Roster.Contact
import Roster.Json.Shape
import Roster.Timestamp

/-! The JSON forms of statuses, masks, contacts, groups and the values of the handshake. An image
is not part of the form of a contact. -/

namespace Roster

instance : Wire Status where
  toJson s := .str s.key
  read := Doc.readName (Status.all.map fun s => (s.key, s))

instance : Wire AccountMode where
  toJson m := .str m.key
  read := Doc.readName ([AccountMode.extended, .basic].map fun m => (m.key, m))

instance : Wire Registration where
  toJson r := .str r.key
  read := Doc.readName ([Registration.registering, .registered, .unregistering, .unregistered,
    .authenticationFailed, .connectionFailed].map fun r => (r.key, r))

instance : Wire Verdict where
  toJson v := .str v.key
  read := Doc.readName ([Verdict.accept, .reject, .ignore].map fun v => (v.key, v))

instance : Wire Mask where
  toJson m := .int m.toInt
  read d := do return Mask.ofInt (← d.readInt (-Word.half) (Word.half - 1))

instance : Wire Petition where
  toJson p := .obj [("reason", .str p.reason)]
  read := Shape.read (Petition.mk <$> .required "reason" Doc.readString)

instance : Wire Decision where
  toJson d := .obj [("code", Wire.toJson d.verdict), ("reason", .strOrNull d.reason)]
  read := Shape.read
    (Decision.mk <$> .required "code" Wire.read <*> .optional "reason" Doc.readString)

instance : Wire Contact where
  toJson c := .obj
    [("identifier", .str c.identifier), ("presence_status", Wire.toJson c.status),
      ("persistent", .bool c.persistent), ("resolved", .bool c.resolved),
      ("awaiting_authorization", .bool c.awaitingAuthorization),
      ("structural_parent", .strOrNull c.structuralParent),
      ("persistent_data", .strOrNull c.persistentData)]
  read := Shape.read <|
    (fun id status persistent resolved awaiting parent data =>
      (⟨id, status, persistent, resolved, awaiting, parent, data, none⟩ : Contact))
    <$> .required "identifier" Doc.readString
    <*> .required "presence_status" Wire.read
    <*> .required "persistent" Doc.readBool
    <*> .required "resolved" Doc.readBool
    <*> .required "awaiting_authorization" Doc.readBool
    <*> .optional "structural_parent" Doc.readString
    <*> .optional "persistent_data" Doc.readString

instance : Wire Group where
  toJson g := .obj
    [("name", .str g.name), ("persistent", .bool g.persistent), ("resolved", .bool g.resolved),
      ("can_contain_subgroups", .bool g.canContainSubgroups)]
  read := Shape.read <|
    Group.mk
    <$> .required "name" Doc.readString
    <*> .required "persistent" Doc.readBool
    <*> .required "resolved" Doc.readBool
    <*> .required "can_contain_subgroups" Doc.readBool

instance : Wire Timestamp where
  toJson t := .str t.text
  read d := do
    match Timestamp.parse? (← d.readString) with
    | some t => return t
    | none => throw .misshapen

end Roster
