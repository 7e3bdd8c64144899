import Roster.Notice
import Roster.Wire.Entity

/-! The JSON forms of what listeners are told. On the wire a change carries the moment it
happened. -/

namespace Roster

def SubscriptionKind.members : SubscriptionKind → List (String × Json)
  | created => [("kind", .str "CREATED")]
  | removed => [("kind", .str "REMOVED")]
  | resolved => [("kind", .str "RESOLVED")]
  | failed code reason =>
    [("kind", .str "FAILED"), ("code", .nat code.toNat), ("reason", .str reason)]

def SubscriptionKind.tagged : Tagged SubscriptionKind where
  tag := "kind"
  variants :=
    [("CREATED", .unit created), ("REMOVED", .unit removed), ("RESOLVED", .unit resolved),
      ("FAILED", failed
        <$> .required "code" Doc.readUInt16 <*> .required "reason" Doc.readString)]

instance : Wire SubscriptionKind where
  toJson k := .obj k.members
  read := SubscriptionKind.tagged.read 1

instance : Wire GroupChangeKind where
  toJson k := .str k.key
  read := Doc.readName ([GroupChangeKind.created, .removed, .renamed, .resolved,
    .creationFailed].map fun k => (k.key, k))

/-- A change and the moment it happened. Whatever keeps the time can say what a moment is. -/
structure Stamped (α : Type) (τ : Type := Timestamp) where
  change : α
  occurredAt : τ
  deriving DecidableEq, Repr

/-- Records that can carry a moment behind their own members. -/
class Stampable (α : Type) where
  members : α → List (String × Json)
  shape : Shape α

instance {α τ : Type} [Stampable α] [Wire τ] : Wire (Stamped α τ) where
  toJson s :=
    .obj (Stampable.members s.change ++ [("occurred_at", Wire.toJson s.occurredAt)])
  read := Shape.read (Stamped.mk <$> Stampable.shape <*> .required "occurred_at" Wire.read)

instance : Stampable ContactPresenceChange where
  members c :=
    [("contact", Wire.toJson c.contact), ("parent_group", .ofOption Wire.toJson c.parentGroup),
      ("old_status", Wire.toJson c.oldStatus), ("new_status", Wire.toJson c.newStatus)]
  shape :=
    ContactPresenceChange.mk
    <$> .required "contact" Wire.read
    <*> .optional "parent_group" Wire.read
    <*> .required "old_status" Wire.read
    <*> .required "new_status" Wire.read

/-- Inside a change the kind lies one container deeper. -/
instance : Stampable SubscriptionChange where
  members c :=
    [("kind", Wire.toJson c.kind), ("contact", Wire.toJson c.contact),
      ("parent_group", .ofOption Wire.toJson c.parentGroup)]
  shape :=
    SubscriptionChange.mk
    <$> .required "kind" (SubscriptionKind.tagged.read 2)
    <*> .required "contact" Wire.read
    <*> .optional "parent_group" Wire.read

instance : Stampable ContactMove where
  members m :=
    [("contact", Wire.toJson m.contact), ("old_parent", Wire.toJson m.oldParent),
      ("new_parent", Wire.toJson m.newParent)]
  shape :=
    ContactMove.mk
    <$> .required "contact" Wire.read
    <*> .required "old_parent" Wire.read
    <*> .required "new_parent" Wire.read

instance : Stampable ContactEdit where
  members e :=
    [("contact", Wire.toJson e.contact), ("property", .str e.property),
      ("old_value", .strOrNull e.oldValue), ("new_value", .strOrNull e.newValue)]
  shape :=
    ContactEdit.mk
    <$> .required "contact" Wire.read
    <*> .required "property" Doc.readString
    <*> .optional "old_value" Doc.readString
    <*> .optional "new_value" Doc.readString

instance : Stampable OwnStatusChange where
  members c := [("old_status", Wire.toJson c.oldStatus), ("new_status", Wire.toJson c.newStatus)]
  shape :=
    OwnStatusChange.mk
    <$> .required "old_status" Wire.read <*> .required "new_status" Wire.read

instance : Stampable StatusMessageChange where
  members c := [("old_message", .str c.oldMessage), ("new_message", .str c.newMessage)]
  shape :=
    StatusMessageChange.mk
    <$> .required "old_message" Doc.readString <*> .required "new_message" Doc.readString

instance : Stampable GroupChange where
  members c :=
    [("kind", Wire.toJson c.kind), ("group", Wire.toJson c.group),
      ("parent_group", .ofOption Wire.toJson c.parentGroup)]
  shape :=
    GroupChange.mk
    <$> .required "kind" Wire.read
    <*> .required "group" Wire.read
    <*> .optional "parent_group" Wire.read

namespace Notice

/-- The name of the kind of a notice. -/
def kind : Notice → String
  | contactPresence _ => "contact_presence"
  | subscription _ => "subscription"
  | moved _ => "moved"
  | modified _ => "modified"
  | ownStatus _ => "provider_status"
  | statusMessage _ => "status_message"
  | group _ => "group"

def members : Notice → List (String × Json)
  | contactPresence c => Stampable.members c
  | subscription c => Stampable.members c
  | moved m => Stampable.members m
  | modified e => Stampable.members e
  | ownStatus c => Stampable.members c
  | statusMessage c => Stampable.members c
  | group c => Stampable.members c

end Notice

end Roster
