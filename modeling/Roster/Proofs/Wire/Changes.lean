import Roster.Proofs.Wire.Messages
import Roster.Proofs.Wire.Text
import Roster.Wire.Notice

/-! How the changes that listeners are told are read back, together with the moment they happened. The
contact in a change comes back without its image. -/

namespace Roster

open Shape

def ContactPresenceChange.imageless (c : ContactPresenceChange) : ContactPresenceChange :=
  { c with contact := c.contact.imageless }

def SubscriptionChange.imageless (c : SubscriptionChange) : SubscriptionChange :=
  { c with contact := c.contact.imageless }

def ContactMove.imageless (m : ContactMove) : ContactMove :=
  { m with contact := m.contact.imageless }

def ContactEdit.imageless (e : ContactEdit) : ContactEdit :=
  { e with contact := e.contact.imageless }

theorem reads_optionalGroup (o : Option Group) :
    Reads (Doc.readOption Wire.read) (fun _ => True) (.ofOption Wire.toJson o) o :=
  reads_readOption reads_group (fun _ h => (by cases h)) o

theorem reads_groupChangeKind (k : GroupChangeKind) :
    Reads Wire.read (fun _ => True) (Wire.toJson k) k :=
  reads_name (by cases k <;> rfl)

theorem ContactPresenceChange.takes (c : ContactPresenceChange) :
    Stampable.shape.Takes (fun _ _ => True) (Stampable.members c) c.imageless :=
  ((((takes_required (reads_contact c.contact)).map ContactPresenceChange.mk).seq
    (takes_optional (reads_optionalGroup c.parentGroup))).seq
    (takes_required (reads_status c.oldStatus))).seq
    (takes_required (reads_status c.newStatus))

theorem ContactMove.takes (m : ContactMove) :
    Stampable.shape.Takes (fun _ _ => True) (Stampable.members m) m.imageless :=
  (((takes_required (reads_contact m.contact)).map ContactMove.mk).seq
    (takes_required (reads_group m.oldParent))).seq
    (takes_required (reads_group m.newParent))

theorem ContactEdit.takes (e : ContactEdit) :
    Stampable.shape.Takes (fun _ _ => True) (Stampable.members e) e.imageless :=
  ((((takes_required (reads_contact e.contact)).map ContactEdit.mk).seq
    (takes_required (reads_string e.property))).seq
    (takes_optional (reads_optionalString e.oldValue))).seq
    (takes_optional (reads_optionalString e.newValue))

theorem OwnStatusChange.takes (c : OwnStatusChange) :
    Stampable.shape.Takes (fun _ _ => True) (Stampable.members c) c :=
  ((takes_required (reads_status c.oldStatus)).map OwnStatusChange.mk).seq
    (takes_required (reads_status c.newStatus))

theorem StatusMessageChange.takes (c : StatusMessageChange) :
    Stampable.shape.Takes (fun _ _ => True) (Stampable.members c) c :=
  ((takes_required (reads_string c.oldMessage)).map StatusMessageChange.mk).seq
    (takes_required (reads_string c.newMessage))

theorem GroupChange.takes (c : GroupChange) :
    Stampable.shape.Takes (fun _ _ => True) (Stampable.members c) c :=
  (((takes_required (reads_groupChangeKind c.kind)).map GroupChange.mk).seq
    (takes_required (reads_group c.group))).seq
    (takes_optional (reads_optionalGroup c.parentGroup))

/-- In the change of a subscription the kind has to be set aside, one container deep. -/
def SubscriptionChange.fits (name : String) (d : Doc) : Prop :=
  name = "kind" → d.isBufferable 1 = true

theorem Reads.beside_kind {α : Type} {read : Doc → Reading α} {x : Json} {a : α} {name : String}
    (h : Reads read (fun _ => True) x a) (hn : name ≠ "kind") :
    Reads read (SubscriptionChange.fits name) x a :=
  h.congr fun _ => by simp [SubscriptionChange.fits, hn]

theorem SubscriptionChange.takes (c : SubscriptionChange) :
    Stampable.shape.Takes SubscriptionChange.fits (Stampable.members c) c.imageless :=
  (((takes_required ((c.kind.reads (by decide)).congr fun _ => by simp [fits])).map
    SubscriptionChange.mk).seq
    (takes_required ((reads_contact c.contact).beside_kind (by decide)))).seq
    (takes_optional ((reads_optionalGroup c.parentGroup).beside_kind (by decide)))

namespace Moment

theorem number?_two {n : Nat} (h : n < 100) : number? (two n) = some n := by
  have ht : n / 10 < 10 := by omega
  have ho : n % 10 < 10 := by omega
  simp [number?, two, Decimal.value, Decimal.isDigit_digit, Decimal.toNat_digit, ht, ho]
  omega

theorem number?_four {n : Nat} (h : n < 10000) :
    number? (two (n / 100) ++ two (n % 100)) = some n := by
  have h1 : n / 100 / 10 < 10 := by omega
  have h2 : n / 100 % 10 < 10 := by omega
  have h3 : n % 100 / 10 < 10 := by omega
  have h4 : n % 100 % 10 < 10 := by omega
  simp only [number?, two, Decimal.value, List.cons_append, List.nil_append, List.all_cons,
    List.all_nil, List.foldl_cons, List.foldl_nil, Decimal.isDigit_digit, Decimal.toNat_digit, h1, h2,
    h3, h4]
  simp
  omega

theorem ofChars?_chars {m : Moment} (h : m.isValid = true) : ofChars? m.chars = some m := by
  obtain ⟨year, month, day, hour, minute, second⟩ := m
  simp only [isValid, decide_eq_true_eq] at h
  have hday : daysIn year month < 100 := by
    unfold daysIn
    split
    · split <;> omega
    all_goals omega
  have hy := number?_four h.1
  have hmo : number? (two month) = some month := number?_two (by omega)
  have hd : number? (two day) = some day := number?_two (by omega)
  have hh : number? (two hour) = some hour := number?_two (by omega)
  have hmi : number? (two minute) = some minute := number?_two (by omega)
  have hs : number? (two second) = some second := number?_two (by omega)
  simp only [two, List.cons_append, List.nil_append] at hy hmo hd hh hmi hs
  simp only [chars, two, List.cons_append, List.nil_append, ofChars?, hy, hmo, hd, hh, hmi, hs]
  rfl

end Moment

theorem Timestamp.parse?_text (t : Timestamp) : Timestamp.parse? t.text = some t := by
  simp [parse?, text, Moment.ofChars?_chars t.property, t.property]

/-- A moment of the calendar is written as a text that is read as the same moment. -/
theorem Timestamp.read_toJson (t : Timestamp) :
    ∃ s : String, Wire.toJson t = .str s ∧ Wire.read (.str (some s)) = .ok t := by
  refine ⟨t.text, rfl, ?_⟩
  simp only [Wire.read, Doc.readString, bind, Except.bind, Timestamp.parse?_text]
  rfl

section Stamped

variable {α τ : Type} [Stampable α] [Wire τ] {fits : String → Doc → Prop} {c c' : α} {t : τ}

theorem Stamped.takes (hc : Stampable.shape.Takes fits (Stampable.members c) c')
    (ht : Reads Wire.read (fits "occurred_at") (Wire.toJson t) t) :
    (Stamped.mk <$> Stampable.shape <*> .required "occurred_at" Wire.read).Takes fits
      (Stampable.members c ++ [("occurred_at", Wire.toJson t)]) (⟨c', t⟩ : Stamped α τ) :=
  (hc.map Stamped.mk).seq (takes_required ht)

theorem reads_stamped (hc : Stampable.shape.Takes (fun _ _ => True) (Stampable.members c) c')
    (ht : Reads Wire.read (fun _ => True) (Wire.toJson t) t)
    (nodup : ((Stampable.members c).map Prod.fst ++ ["occurred_at"]).Nodup) :
    Reads Wire.read (fun _ => True) (Wire.toJson (⟨c, t⟩ : Stamped α τ))
      (⟨c', t⟩ : Stamped α τ) :=
  (Stamped.takes hc ht).reads_record (by rwa [List.map_append])

theorem reads_stampedSubscription {c : SubscriptionChange}
    (ht : Reads Wire.read (fun _ => True) (Wire.toJson t) t) :
    Reads Wire.read (fun d => ∀ e, d.HasMember "kind" e → e.isBufferable 1 = true)
      (Wire.toJson (⟨c, t⟩ : Stamped SubscriptionChange τ))
      (⟨c.imageless, t⟩ : Stamped SubscriptionChange τ) := by
  have h := (Stamped.takes c.takes (ht.beside_kind (by decide))).reads
    (by simp [Stampable.members]) (fun k hk d hn => by simp [hn, Stampable.members] at hk) .malformed
  refine h.congr fun d => ⟨fun hd e he => hd "kind" e he rfl, fun hd k e he hk => hd e (hk ▸ he)⟩

theorem yields_stamped {P : α → Prop} (h : (Stampable.shape : Shape α).Yields P) {d : Doc}
    {s : Stamped α τ} (hs : Wire.read d = .ok s) : P s.change := by
  refine Yields.read (P := fun s : Stamped α τ => P s.change) ?_ hs
  exact (yields_any _).seq (h.map fun c hc t _ => hc)

end Stamped

theorem yields_contact : (required "contact" (Wire.read : Doc → Reading Contact)).Yields
    fun c => c.imageless = c := yields_required fun _ _ => imageless_of_read

theorem yields_contactPresenceChange :
    (Stampable.shape : Shape ContactPresenceChange).Yields fun c => c.imageless = c :=
  (yields_any _).seq <| (yields_any _).seq <| (yields_any _).seq <|
    yields_contact.map fun _ hc group _ old _ new _ =>
      congrArg (ContactPresenceChange.mk · group old new) hc

theorem yields_subscriptionChange :
    (Stampable.shape : Shape SubscriptionChange).Yields fun c => c.imageless = c :=
  (yields_any _).seq <| yields_contact.seq <| (yields_any _).map fun kind _ _ hc group _ =>
    congrArg (SubscriptionChange.mk kind · group) hc

theorem yields_contactMove :
    (Stampable.shape : Shape ContactMove).Yields fun m => m.imageless = m :=
  (yields_any _).seq <| (yields_any _).seq <| yields_contact.map fun _ hc old _ new _ =>
    congrArg (ContactMove.mk · old new) hc

theorem yields_contactEdit :
    (Stampable.shape : Shape ContactEdit).Yields fun e => e.imageless = e :=
  (yields_any _).seq <| (yields_any _).seq <| (yields_any _).seq <|
    yields_contact.map fun _ hc property _ old _ new _ =>
      congrArg (ContactEdit.mk · property old new) hc

end Roster
