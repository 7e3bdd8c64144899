import Roster.Proofs.Wire.Records
import Roster.Wire.Entity

/-! How texts, flags, integers and names are read back, and the entities made of them: decisions, contacts,
groups and moments. -/

namespace Roster

theorem reads_string (s : String) : Reads Doc.readString (fun _ => True) (.str s) s :=
  .of_ok fun d hd _ => by rw [Doc.spells_str.1 hd]; rfl

theorem reads_bool (b : Bool) : Reads Doc.readBool (fun _ => True) (.bool b) b :=
  .of_ok fun d hd _ => by rw [Doc.spells_bool.1 hd]; rfl

theorem toInt?_ofInt {i : Int} (hl : -(Word.half : Int) ≤ i) (hh : i < Word.bound) :
    (Numeral.ofInt i).toInt? = some i := by
  cases i with
  | ofNat n =>
    change (if n < Word.bound then some (n : Int) else none) = _
    rw [if_pos (Int.ofNat_lt.1 hh)]
    rfl
  | negSucc n =>
    change (if n + 1 = 0 ∨ n + 1 > Word.half then none else some (-((n + 1 : Nat) : Int))) = _
    rw [if_neg (by omega)]
    rfl

/-- An integer between bounds that 64 bits hold. -/
theorem reads_int (low high i : Int) (hl : low ≤ i) (hh : i ≤ high) (hlow : -(Word.half : Int) ≤ low)
    (hhigh : high < Word.bound) : Reads (Doc.readInt low high) (fun _ => True) (.int i) i := by
  have hi := toInt?_ofInt (Int.le_trans hlow hl) (Int.lt_of_le_of_lt hh hhigh)
  refine .of_ok fun d hd _ => ?_
  rw [Doc.spells_int.1 hd]
  simp [Doc.readInt, hi, hl, hh]

theorem reads_uInt8 (b : UInt8) : Reads Doc.readUInt8 (fun _ => True) (.nat b.toNat) b := by
  have hb := b.toNat_lt
  have h := (reads_int 0 255 b.toNat (by omega) (by omega) (by decide)
    (by decide)).map fun i => UInt8.ofNat i.toNat
  rw [Int.toNat_natCast, UInt8.ofNat_toNat] at h
  exact h

theorem reads_uInt16 (c : UInt16) : Reads Doc.readUInt16 (fun _ => True) (.nat c.toNat) c := by
  have hc := c.toNat_lt
  have h := (reads_int 0 65535 c.toNat (by omega) (by omega) (by decide)
    (by decide)).map fun i => UInt16.ofNat i.toNat
  rw [Int.toNat_natCast, UInt16.ofNat_toNat] at h
  exact h

theorem reads_name {α : Type} {names : List (String × α)} {s : String} {a : α}
    (h : names.lookup s = some a) : Reads (Doc.readName names) (fun _ => True) (.str s) a := by
  refine .of_ok fun d hd _ => ?_
  rw [Doc.spells_str.1 hd]
  simp [Doc.readName, h]

theorem reads_list {α : Type} {read : Doc → Reading α} {f : α → Json}
    (h : ∀ a, Reads read (fun _ => True) (f a) a) (as : List α) :
    Reads (Doc.readList read) (fun _ => True) (.arr (as.map f)) as := by
  have hitems : ∀ ds, Doc.SpellItems ds (as.map f) → Doc.itemsWhole ds = true →
      Doc.readItems read ds = .ok as := by
    induction as with
    | nil => intro ds hd _; cases hd; rfl
    | cons a as ih =>
      intro ds hd hw
      cases hd with
      | cons head tail =>
        rw [Doc.itemsWhole, Bool.and_eq_true] at hw
        rw [Doc.readItems, (h a).ok head hw.1 trivial, ih _ tail hw.2]
        rfl
  refine .of_ok fun d hd hw => ?_
  cases hd with
  | arr items =>
    rw [Doc.isWhole, Bool.and_true] at hw
    rw [Doc.readList, hitems _ items hw]
    rfl

theorem reads_optionalString (o : Option String) :
    Reads (Doc.readOption Doc.readString) (fun _ => True) (.strOrNull o) o :=
  Shape.reads_readOption reads_string (fun _ h => (by cases h)) o

theorem reads_optionalBool (o : Option Bool) :
    Reads (Doc.readOption Doc.readBool) (fun _ => True) (.ofOption .bool o) o :=
  Shape.reads_readOption reads_bool (fun _ h => (by cases h)) o

theorem reads_status (s : Status) : Reads Wire.read (fun _ => True) (Wire.toJson s) s :=
  reads_name (by cases s <;> rfl)

theorem reads_verdict (v : Verdict) : Reads Wire.read (fun _ => True) (Wire.toJson v) v :=
  reads_name (by cases v <;> rfl)

theorem reads_mask (m : Mask) : Reads Wire.read (fun _ => True) (Wire.toJson m) m := by
  have hl : -(Word.half : Int) ≤ m.toInt := m.word.le_toInt
  have hh : m.toInt < Word.half := m.word.toInt_lt
  have h := (reads_int (-Word.half) (Word.half - 1) m.toInt hl (by omega) (by decide)
    (by decide)).map Mask.ofInt
  have hm : Mask.ofInt m.toInt = m := by simp [Mask.ofInt, Mask.toInt]
  rw [hm] at h
  exact h

theorem reads_decision (d : Decision) : Reads Wire.read (fun _ => True) (Wire.toJson d) d :=
  (((Shape.takes_required (reads_verdict d.verdict)).map Decision.mk).seq
    (Shape.takes_optional (reads_optionalString d.reason))).reads_record (by simp)

theorem reads_group (g : Group) : Reads Wire.read (fun _ => True) (Wire.toJson g) g :=
  (((((Shape.takes_required (reads_string g.name)).map Group.mk).seq
    (Shape.takes_required (reads_bool g.persistent))).seq
    (Shape.takes_required (reads_bool g.resolved))).seq
    (Shape.takes_required (reads_bool g.canContainSubgroups))).reads_record (by simp)

/-- A contact as others see it: without its image. -/
def Contact.imageless (c : Contact) : Contact := { c with image := none }

theorem reads_contact (c : Contact) :
    Reads Wire.read (fun _ => True) (Wire.toJson c) c.imageless :=
  ((((((((Shape.takes_required (reads_string c.identifier)).map _).seq
    (Shape.takes_required (reads_status c.status))).seq
    (Shape.takes_required (reads_bool c.persistent))).seq
    (Shape.takes_required (reads_bool c.resolved))).seq
    (Shape.takes_required (reads_bool c.awaitingAuthorization))).seq
    (Shape.takes_optional (reads_optionalString c.structuralParent))).seq
    (Shape.takes_optional (reads_optionalString c.persistentData))).reads_record (by simp)

/-- No text gives a contact an image. -/
theorem imageless_of_read {d : Doc} {c : Contact} (h : Wire.read d = .ok c) : c.imageless = c := by
  refine Shape.Yields.read (P := fun c : Contact => c.imageless = c) ?_ h
  exact (Shape.yields_any _).seq <| (Shape.yields_any _).seq <| (Shape.yields_any _).seq <|
    (Shape.yields_any _).seq <| (Shape.yields_any _).seq <| (Shape.yields_any _).seq <|
    (Shape.yields_any _).map (by intros; rfl)

end Roster
