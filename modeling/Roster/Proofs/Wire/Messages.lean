import Roster.Proofs.Wire.Entities
import Roster.Proofs.Wire.Tags
import Roster.Wire.Message
import Roster.Wire.Notice

/-! How messages are read back, and that a message as it is written can be set aside. -/

namespace Roster

open Shape

/-- A value of at most one container, of numbers that 64 bits hold: it can be set aside wherever there is
room for one container more. -/
def Json.Shallow (x : Json) : Prop :=
  ∀ around < Doc.maxDepth, (Doc.ofJson x).isBufferable around = true

namespace Json

theorem isBufferable_of_scalar {x : Json} {around : Nat} (hs : (Doc.ofJson x).isSound = true)
    (hd : (Doc.ofJson x).depth = 0) (ha : around ≤ Doc.maxDepth) :
    (Doc.ofJson x).isBufferable around = true := by
  rw [Doc.isBufferable_iff, hd]
  exact ⟨hs, by omega⟩

theorem Shallow.of_scalar {x : Json} (hs : (Doc.ofJson x).isSound = true)
    (hd : (Doc.ofJson x).depth = 0) : Shallow x :=
  fun _ ha => isBufferable_of_scalar hs hd (Nat.le_of_lt ha)

@[simp] theorem shallow_null : Shallow .null := .of_scalar rfl rfl

@[simp] theorem shallow_bool (b : Bool) : Shallow (.bool b) := .of_scalar rfl rfl

@[simp] theorem shallow_str (s : String) : Shallow (.str s) := .of_scalar rfl rfl

theorem isSound_int {i : Int} (hl : -(Word.half : Int) ≤ i) (hh : i < Word.bound) :
    (Doc.ofJson (.int i)).isSound = true := by
  simp [Doc.ofJson, Doc.isSound, Numeral.overflows, toInt?_ofInt hl hh]

theorem half_lt_bound : (Word.half : Int) < Word.bound := by decide

theorem isSound_nat {n : Nat} (h : n < Word.half) : (Doc.ofJson (.nat n)).isSound = true := by
  have hb := half_lt_bound
  exact isSound_int (by omega) (by omega)

@[simp] theorem shallow_mask (m : Mask) : Shallow (Wire.toJson m) := by
  have hl : -(Word.half : Int) ≤ m.toInt := m.word.le_toInt
  have hh : m.toInt < Word.half := m.word.toInt_lt
  exact .of_scalar (isSound_int hl (Int.lt_trans hh half_lt_bound)) rfl

@[simp] theorem shallow_uInt16 (c : UInt16) : Shallow (.nat c.toNat) :=
  .of_scalar (isSound_nat (Nat.lt_of_lt_of_le c.toNat_lt (by decide))) rfl

theorem shallow_ofOption {α : Type} {f : α → Json} (h : ∀ a, Shallow (f a)) (o : Option α) :
    Shallow (.ofOption f o) := by
  cases o with
  | none => exact shallow_null
  | some a => exact h a

@[simp] theorem shallow_strOrNull (o : Option String) : Shallow (.strOrNull o) :=
  shallow_ofOption shallow_str o

@[simp] theorem shallow_boolOrNull (o : Option Bool) : Shallow (.ofOption .bool o) :=
  shallow_ofOption shallow_bool o

@[simp] theorem shallow_bytes (o : Option (List UInt8)) : Shallow (.ofOption bytesJson o) := by
  refine shallow_ofOption (fun bytes around ha => ?_) o
  rw [bytesJson, Doc.ofJson, Doc.ofItems_eq]
  refine Doc.isBufferable_arr ha fun d hd => ?_
  simp only [List.map_map, List.mem_map] at hd
  obtain ⟨b, -, rfl⟩ := hd
  exact isBufferable_of_scalar (isSound_nat (Nat.lt_of_lt_of_le b.toNat_lt (by decide))) rfl ha

theorem isBufferable_ofJson_obj {ms : List (String × Json)} {around : Nat}
    (ha : around + 1 < Doc.maxDepth) (h : ∀ m ∈ ms, Shallow m.2) :
    (Doc.ofJson (.obj ms)).isBufferable around = true := by
  rw [Doc.ofJson, Doc.ofMembers_eq, Doc.isBufferable_named (by omega)]
  intro m hm
  obtain ⟨n, hn, rfl⟩ := List.mem_map.1 hm
  exact h n hn (around + 1) ha

end Json

theorem UserInfo.takes (i : UserInfo) : UserInfo.shape.Takes (fun _ _ => True) i.members i :=
  ((((takes_required (reads_string i.identifier)).map UserInfo.mk).seq
    (takes_required (reads_mask i.mask))).seq
    (takes_optional (reads_optionalBool i.away))).seq
    (takes_optional (reads_optionalString i.statusMessage))

theorem reads_userInfo (i : UserInfo) : Reads Wire.read (fun _ => True) (Wire.toJson i) i :=
  i.takes.reads_record (by simp [UserInfo.members])

theorem reads_command (c : Command) :
    Reads Wire.read (fun d => d.isBufferable 0 = true) (Wire.toJson c) c := by
  change Reads (Command.tagged.read 1) _ (.obj c.members) c
  cases c with
  | setExtendedStatus mask =>
    exact Tagged.reads_alone ((takes_required (reads_mask mask)).map _) rfl (by simp [Command.tagged])
  | setStatusMessage message =>
    exact Tagged.reads_alone ((takes_required (reads_string message)).map _) rfl
      (by simp [Command.tagged])
  | setVisibility visible =>
    exact Tagged.reads_alone ((takes_required (reads_bool visible)).map _) rfl
      (by simp [Command.tagged])
  | setAwayMessage message =>
    exact Tagged.reads_alone ((takes_optional (reads_optionalString message)).map _) rfl
      (by simp [Command.tagged])
  | grantFutureAuthorization identifier reason =>
    exact Tagged.reads_alone (((takes_required (reads_string identifier)).map _).seq
      (takes_required (reads_string reason))) rfl (by simp [Command.tagged])
  | requestAuthorization identifier reason =>
    exact Tagged.reads_alone (((takes_required (reads_string identifier)).map _).seq
      (takes_required (reads_string reason))) rfl (by simp [Command.tagged])
  | authorizationReply identifier accepted reason =>
    exact Tagged.reads_alone ((((takes_required (reads_string identifier)).map _).seq
      (takes_required (reads_bool accepted))).seq
      (takes_optional (reads_optionalString reason))) rfl (by simp [Command.tagged])

theorem reads_request (r : Request) :
    Reads Wire.read (fun d => d.isBufferable 0 = true) (Wire.toJson r) r := by
  change Reads (Request.tagged.read 1) _ (.obj r.members) r
  cases r with
  | userInfo identifier =>
    exact Tagged.reads_alone ((takes_required (reads_string identifier)).map _) rfl
      (by simp [Request.tagged])

theorem reads_response (r : Response) :
    Reads Wire.read (fun d => d.isBufferable 0 = true) (Wire.toJson r) r := by
  change Reads (Response.tagged.read 1) _ (.obj r.members) r
  cases r with
  | userInfo info =>
    exact Tagged.reads_alone (info.takes.map _) rfl (by simp [Response.tagged, UserInfo.members])
  | error code message =>
    exact Tagged.reads_alone (((takes_required (reads_uInt16 code)).map _).seq
      (takes_required (reads_string message))) rfl (by simp [Response.tagged])

theorem reads_bytes (o : Option (List UInt8)) :
    Reads (Doc.readOption (Doc.readList Doc.readUInt8)) (fun _ => True) (.ofOption bytesJson o) o :=
  reads_readOption (reads_list reads_uInt8) (fun _ h => (by cases h)) o

theorem reads_serverEvent (e : ServerEvent) :
    Reads Wire.read (fun d => d.isBufferable 0 = true) (Wire.toJson e) e := by
  change Reads (ServerEvent.tagged.read 1) _ (.obj e.members) e
  cases e with
  | ownInfo info =>
    exact Tagged.reads_alone (info.takes.map _) rfl (by simp [ServerEvent.tagged, UserInfo.members])
  | ownExtraInfo statusMessage =>
    exact Tagged.reads_alone ((takes_optional (reads_optionalString statusMessage)).map _) rfl
      (by simp [ServerEvent.tagged])
  | buddyStatus info =>
    exact Tagged.reads_alone (info.takes.map _) rfl (by simp [ServerEvent.tagged, UserInfo.members])
  | buddyOffline identifier =>
    exact Tagged.reads_alone ((takes_required (reads_string identifier)).map _) rfl
      (by simp [ServerEvent.tagged])
  | buddyIcon identifier icon =>
    exact Tagged.reads_alone (((takes_required (reads_string identifier)).map _).seq
      (takes_optional (reads_bytes icon))) rfl (by simp [ServerEvent.tagged])
  | authorizationRequestReceived identifier reason =>
    exact Tagged.reads_alone (((takes_required (reads_string identifier)).map _).seq
      (takes_required (reads_string reason))) rfl (by simp [ServerEvent.tagged])
  | authorizationAccepted identifier reason =>
    exact Tagged.reads_alone (((takes_required (reads_string identifier)).map _).seq
      (takes_optional (reads_optionalString reason))) rfl (by simp [ServerEvent.tagged])
  | authorizationDenied identifier reason =>
    exact Tagged.reads_alone (((takes_required (reads_string identifier)).map _).seq
      (takes_optional (reads_optionalString reason))) rfl (by simp [ServerEvent.tagged])
  | futureAuthorizationGranted identifier reason =>
    exact Tagged.reads_alone (((takes_required (reads_string identifier)).map _).seq
      (takes_required (reads_string reason))) rfl (by simp [ServerEvent.tagged])
  | youWereAdded identifier =>
    exact Tagged.reads_alone ((takes_required (reads_string identifier)).map _) rfl
      (by simp [ServerEvent.tagged])

/-- A kind stands alone or inside a change. -/
theorem SubscriptionKind.reads (k : SubscriptionKind) {around : Nat} (ha : around < Doc.maxDepth) :
    Reads (SubscriptionKind.tagged.read (around + 1)) (fun d => d.isBufferable around = true)
      (Wire.toJson k) k := by
  cases k with
  | created => exact Tagged.reads (takes_unit _) rfl (by simp) ha
  | removed => exact Tagged.reads (takes_unit _) rfl (by simp) ha
  | resolved => exact Tagged.reads (takes_unit _) rfl (by simp) ha
  | failed code reason =>
    exact Tagged.reads (((takes_required (reads_uInt16 code)).map _).seq
      (takes_required (reads_string reason))) rfl (by simp [SubscriptionKind.tagged]) ha

theorem isBufferable_command (c : Command) : (Doc.ofJson (Wire.toJson c)).isBufferable 0 = true :=
  Json.isBufferable_ofJson_obj (by decide) (by cases c <;> simp [Command.members])

theorem isBufferable_request (r : Request) : (Doc.ofJson (Wire.toJson r)).isBufferable 0 = true :=
  Json.isBufferable_ofJson_obj (by decide) (by cases r; simp [Request.members])

theorem isBufferable_response (r : Response) : (Doc.ofJson (Wire.toJson r)).isBufferable 0 = true :=
  Json.isBufferable_ofJson_obj (by decide)
    (by cases r <;> simp [Response.members, UserInfo.members])

theorem isBufferable_serverEvent (e : ServerEvent) :
    (Doc.ofJson (Wire.toJson e)).isBufferable 0 = true :=
  Json.isBufferable_ofJson_obj (by decide)
    (by cases e <;> simp [ServerEvent.members, UserInfo.members])

theorem isBufferable_kind (k : SubscriptionKind) {around : Nat} (ha : around + 1 < Doc.maxDepth) :
    (Doc.ofJson (Wire.toJson k)).isBufferable around = true :=
  Json.isBufferable_ofJson_obj ha (by cases k <;> simp [SubscriptionKind.members])

end Roster
