import Roster.Proofs.Wire.Changes
import Roster.Proofs.Wire.Text

/-! What is written as JSON is read back: messages, entities and the changes that listeners are told. The
members of an object may come in another order, with others between them; where a tag decides how the
others are read, those others have to be such that they can be set aside. -/

namespace Roster

/-- What holds of the texts of a type. Of a value that is read back `kept` is what is left, and `fits` are
the documents that can be read. -/
structure RoundTrips (α : Type) [Wire α] (kept : α → α) (fits : Doc → Prop) : Prop where
  /-- A value is read back from the text it is written as. -/
  back : ∀ a : α, Wire.deserialize (Wire.serialize a) = .ok (kept a)
  /-- So it is from the other texts that spell it, if they fit. -/
  varied : ∀ (a : α) (text : String) (d : Doc), Doc.ofText text = (d, true) →
    d.Spells (Wire.toJson a) → (Wire.deserialize text = .ok (kept a) ↔ fits d)
  /-- To read and write a text a second time changes nothing. -/
  settled : ∀ text t : String, (Wire.deserialize text : Reading α).map Wire.serialize = .ok t →
    (Wire.deserialize t : Reading α).map Wire.serialize = .ok t

section

variable {α : Type} [Wire α] {kept : α → α} {fits : Doc → Prop}

theorem deserialize_of_ofText {text : String} {d : Doc} (h : Doc.ofText text = (d, true)) :
    (Wire.deserialize text : Reading α) = Wire.read d := by
  rw [Wire.deserialize, h]
  cases hr : (Wire.read d : Reading α) <;> simp [hr]

theorem read_of_deserialize {text : String} {a : α} (h : Wire.deserialize text = .ok a) :
    ∃ d, Wire.read d = .ok a := by
  refine ⟨(Doc.ofText text).1, ?_⟩
  simp only [Wire.deserialize] at h
  split at h
  · rename_i b hb
    split at h
    · cases h
      exact hb
    · cases h
  · cases h

theorem RoundTrips.of_reads (reads : ∀ a : α, Reads Wire.read fits (Wire.toJson a) (kept a))
    (written : ∀ a : α, fits (Doc.ofJson (Wire.toJson a)))
    (read : ∀ (d : Doc) (a : α), Wire.read d = .ok a → kept a = a) : RoundTrips α kept fits := by
  have varied : ∀ (a : α) (text : String) (d : Doc), Doc.ofText text = (d, true) →
      d.Spells (Wire.toJson a) → (Wire.deserialize text = .ok (kept a) ↔ fits d) := by
    intro a text d ht hd
    rw [deserialize_of_ofText ht]
    exact ⟨(reads a).fits hd, (reads a).ok hd (Doc.isWhole_of_ofText ht)⟩
  have back : ∀ a : α, Wire.deserialize (Wire.serialize a) = .ok (kept a) := fun a =>
    (varied a _ _ (Doc.ofText_render _) (Doc.spells_ofJson _)).2 (written a)
  refine ⟨back, varied, fun text t h => ?_⟩
  cases ha : (Wire.deserialize text : Reading α) with
  | error e => rw [ha] at h; cases h
  | ok a =>
    rw [ha] at h
    cases h
    -- whatever was read has nothing left to lose
    obtain ⟨d, hd⟩ := read_of_deserialize ha
    rw [back a, read d a hd]
    rfl

/-- A type of which everything is kept. -/
theorem RoundTrips.of_exact (reads : ∀ a : α, Reads Wire.read fits (Wire.toJson a) a)
    (written : ∀ a : α, fits (Doc.ofJson (Wire.toJson a))) : RoundTrips α id fits :=
  .of_reads reads written fun _ _ _ => rfl

/-- A change that everything fits, of a type that has no image or none in what is read. -/
theorem RoundTrips.of_takes {β τ : Type} [Stampable β] [Wire τ] {kept : β → β}
    (takes : ∀ c : β, Stampable.shape.Takes (fun _ _ => True) (Stampable.members c) (kept c))
    (nodup : ∀ c : β, ((Stampable.members c).map Prod.fst ++ ["occurred_at"]).Nodup)
    (yields : (Stampable.shape : Shape β).Yields fun c => kept c = c)
    (moments : ∀ t : τ, Reads Wire.read (fun _ => True) (Wire.toJson t) t) :
    RoundTrips (Stamped β τ) (fun s => ⟨kept s.change, s.occurredAt⟩) fun _ => True :=
  .of_reads (fun s => reads_stamped (takes s.change) (moments s.occurredAt) (nodup s.change))
    (fun _ => trivial) fun d s hs => by rw [yields_stamped yields hs]

end

/-- A moment is written as a text that is read as the same moment. -/
theorem reads_moment {τ : Type} [Wire τ] {t : τ}
    (h : ∃ s : String, Wire.toJson t = .str s ∧ Wire.read (.str (some s)) = .ok t) :
    Reads Wire.read (fun _ => True) (Wire.toJson t) t := by
  obtain ⟨s, hs, hr⟩ := h
  refine .of_ok fun d hd _ => ?_
  rw [hs, Doc.spells_str] at hd
  rw [hd, hr]

theorem type_lookup_serverEvent (e : ServerEvent) :
    ∃ ms, Wire.toJson e = .obj ms ∧ ms.lookup "type" = some (.str e.kind) :=
  ⟨e.members, rfl, by cases e <;> rfl⟩

theorem fits_written_subscription {τ : Type} [Wire τ] (s : Stamped SubscriptionChange τ) (kind : Doc)
    (h : (Doc.ofJson (Wire.toJson s)).HasMember "kind" kind) : kind.isBufferable 1 = true := by
  change (Doc.obj (Doc.ofMembers _) true).HasMember "kind" kind at h
  rw [Doc.ofMembers_eq, Doc.hasMember_named] at h
  obtain rfl : kind = Doc.ofJson (Wire.toJson s.change.kind) := by
    simpa [Stampable.members] using h
  exact isBufferable_kind _ (by decide)

/-- The JSON forms of messages, entities and changes, for whatever keeps the time. -/
structure WireForms (τ : Type) [Wire τ] : Prop where
  command : RoundTrips Command id fun d => d.isBufferable 0 = true
  event : RoundTrips ServerEvent id fun d => d.isBufferable 0 = true
  request : RoundTrips Request id fun d => d.isBufferable 0 = true
  response : RoundTrips Response id fun d => d.isBufferable 0 = true
  subscriptionKind : RoundTrips SubscriptionKind id fun d => d.isBufferable 0 = true
  userInfo : RoundTrips UserInfo id fun _ => True
  decision : RoundTrips Decision id fun _ => True
  group : RoundTrips Group id fun _ => True
  contact : RoundTrips Contact Contact.imageless fun _ => True
  contactPresence : RoundTrips (Stamped ContactPresenceChange τ)
    (fun s => ⟨s.change.imageless, s.occurredAt⟩) fun _ => True
  subscription : RoundTrips (Stamped SubscriptionChange τ)
    (fun s => ⟨s.change.imageless, s.occurredAt⟩)
    fun d => ∀ kind, d.HasMember "kind" kind → kind.isBufferable 1 = true
  moved : RoundTrips (Stamped ContactMove τ)
    (fun s => ⟨s.change.imageless, s.occurredAt⟩) fun _ => True
  modified : RoundTrips (Stamped ContactEdit τ)
    (fun s => ⟨s.change.imageless, s.occurredAt⟩) fun _ => True
  ownStatus : RoundTrips (Stamped OwnStatusChange τ) id fun _ => True
  statusMessage : RoundTrips (Stamped StatusMessageChange τ) id fun _ => True
  groupChange : RoundTrips (Stamped GroupChange τ) id fun _ => True
  /-- The tag of an event is the name of its kind. -/
  tag : ∀ e : ServerEvent, ∃ ms, Wire.toJson e = .obj ms ∧ ms.lookup "type" = some (.str e.kind)

theorem wire_forms_round_trip (τ : Type) [Wire τ]
    (moments : ∀ t : τ, ∃ s : String, Wire.toJson t = .str s ∧ Wire.read (.str (some s)) = .ok t) :
    WireForms τ where
  command := .of_exact reads_command isBufferable_command
  event := .of_exact reads_serverEvent isBufferable_serverEvent
  request := .of_exact reads_request isBufferable_request
  response := .of_exact reads_response isBufferable_response
  subscriptionKind := .of_exact (fun k => k.reads (by decide)) fun k => isBufferable_kind k (by decide)
  userInfo := .of_exact reads_userInfo fun _ => trivial
  decision := .of_exact reads_decision fun _ => trivial
  group := .of_exact reads_group fun _ => trivial
  contact := .of_reads reads_contact (fun _ => trivial) fun _ _ => imageless_of_read
  contactPresence := .of_takes ContactPresenceChange.takes (fun _ => by simp [Stampable.members])
    yields_contactPresenceChange fun t => reads_moment (moments t)
  subscription := .of_reads (fun s => reads_stampedSubscription (reads_moment (moments s.occurredAt)))
    fits_written_subscription fun _ _ hs => by rw [yields_stamped yields_subscriptionChange hs]
  moved := .of_takes ContactMove.takes (fun _ => by simp [Stampable.members])
    yields_contactMove fun t => reads_moment (moments t)
  modified := .of_takes ContactEdit.takes (fun _ => by simp [Stampable.members])
    yields_contactEdit fun t => reads_moment (moments t)
  ownStatus := .of_takes OwnStatusChange.takes (fun _ => by simp [Stampable.members])
    (fun _ _ _ => rfl) fun t => reads_moment (moments t)
  statusMessage := .of_takes StatusMessageChange.takes (fun _ => by simp [Stampable.members])
    (fun _ _ _ => rfl) fun t => reads_moment (moments t)
  groupChange := .of_takes GroupChange.takes (fun _ => by simp [Stampable.members])
    (fun _ _ _ => rfl) fun t => reads_moment (moments t)
  tag := type_lookup_serverEvent

/-- A change of the own status whose members come in reverse, behind one that is none of its. -/
theorem reversed_change_with_added_member :
    (∀ t : Timestamp, ∃ s : String, Wire.toJson t = .str s ∧ Wire.read (.str (some s)) = .ok t) ∧
      Wire.deserialize (Json.obj [("x", .arr [.null]), ("occurred_at", .str "2024-01-02T03:04:05Z"),
          ("new_status", .str "away"), ("old_status", .str "offline")]).render =
        .ok (⟨⟨.offline, .away⟩, ⟨⟨2024, 1, 2, 3, 4, 5⟩, rfl⟩⟩ : Stamped OwnStatusChange) := by
  have order := List.reverse_perm [("old_status", Json.str "offline"), ("new_status", .str "away"),
    ("occurred_at", .str "2024-01-02T03:04:05Z"), ("x", .arr [.null])]
  exact ⟨Timestamp.read_toJson,
    ((wire_forms_round_trip Timestamp Timestamp.read_toJson).ownStatus.varied
      ⟨⟨.offline, .away⟩, ⟨⟨2024, 1, 2, 3, 4, 5⟩, rfl⟩⟩ _ _ (Doc.ofText_render _)
      (@Doc.spells_of_perm [("old_status", .str "offline"), ("new_status", .str "away"),
        ("occurred_at", .str "2024-01-02T03:04:05Z")] [("x", .arr [.null])] _ order
        (by simp))).2 trivial⟩

/-- So many lists, each the only item of the one around it. -/
def Json.nested : Nat → Json
  | 0 => .null
  | n + 1 => .arr [nested n]

/-- A request is not read if a member of another name is too deep to be set aside. -/
theorem deep_member_refused :
    ¬ ∀ (r : Request) (k : String) (x : Json), k ∉ r.members.map Prod.fst →
      Wire.deserialize (Json.obj (r.members ++ [(k, x)])).render = .ok r := by
  intro h
  let r : Request := .userInfo "5"
  have h := h r "x" (.nested 127) (by simp [r, Request.members])
  rw [deserialize_of_ofText (Doc.ofText_render _)] at h
  have hs := Doc.spells_of_perm (.refl (r.members ++ [("x", .nested 127)]))
    (by simp [r, Request.members])
  have hf := (reads_request r).fits hs h
  revert hf
  decide +kernel

end Roster
