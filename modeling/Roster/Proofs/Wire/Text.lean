import Roster.Json.Doc
import Mathlib.Data.List.Basic
import Mathlib.Data.List.TakeDrop

/-! What is written as JSON text is read back as the document of the value that was written, and a text
that is read to its end is a document without a break. -/

namespace Roster

namespace Decimal

theorem isDigit_digit : ∀ d < 10, (digit d).isDigit = true := by decide

theorem toNat_digit : ∀ d < 10, (digit d).toNat = 48 + d := by decide

theorem digits_ne_nil (n : Nat) : digits n ≠ [] := by
  rw [digits]
  split <;> simp

theorem isDigit_of_mem_digits (n : Nat) : ∀ c ∈ digits n, c.isDigit = true := by
  fun_induction digits n with
  | case1 n h => simpa using isDigit_digit n h
  | case2 n h ih =>
    intro c hc
    obtain hc | rfl : c ∈ digits (n / 10) ∨ c = digit (n % 10) := by simpa using hc
    · exact ih c hc
    · exact isDigit_digit _ (by omega)

theorem value_concat (cs : List Char) (c : Char) :
    value (cs ++ [c]) = 10 * value cs + (c.toNat - 48) := by
  simp [value]

theorem value_digits (n : Nat) : value (digits n) = n := by
  fun_induction digits n with
  | case1 n h => simp [value, toNat_digit n h]
  | case2 n h ih =>
    rw [value_concat, ih, toNat_digit (n % 10) (by omega)]
    omega

theorem digit_ne_zero : ∀ d < 10, 0 < d → digit d ≠ '0' := by decide

theorem head?_digits {n : Nat} (h : 0 < n) : (digits n).head? ≠ some '0' := by
  fun_induction digits n with
  | case1 n hn => simpa using digit_ne_zero n hn h
  | case2 n hn ih =>
    rw [List.head?_append_of_ne_nil _ (digits_ne_nil _)]
    exact ih (by omega)

/-- No number is written with a zero in front of other digits. -/
theorem leadingZero_digits (n : Nat) :
    ((digits n).head? == some '0' && decide ((digits n).length > 1)) = false := by
  cases n with
  | zero => simp [digits]
  | succ n => simp [head?_digits (Nat.succ_pos n)]

end Decimal

namespace Doc

/-- What can follow a value inside a text: nothing, a comma or a closing bracket. -/
def Closes : List Char → Prop
  | [] => True
  | c :: _ => c = ',' ∨ c = ']' ∨ c = '\x7d'

theorem Closes.digits {rest : List Char} (h : Closes rest) : Doc.digits rest = ([], rest) := by
  match rest, h with
  | [], _ => rfl
  | _ :: _, h => rcases h with rfl | rfl | rfl <;> rfl

theorem Closes.fraction? {rest : List Char} (h : Closes rest) :
    Doc.fraction? rest = some ([], rest) := by
  match rest, h with
  | [], _ => rfl
  | _ :: _, h => rcases h with rfl | rfl | rfl <;> rfl

theorem Closes.exponent? {rest : List Char} (h : Closes rest) :
    Doc.exponent? rest = some (none, rest) := by
  match rest, h with
  | [], _ => rfl
  | _ :: _, h => rcases h with rfl | rfl | rfl <;> rfl

theorem digits_append {ds rest : List Char} (hd : ∀ c ∈ ds, c.isDigit = true) (h : Closes rest) :
    digits (ds ++ rest) = (ds, rest) := by
  have hr := h.digits
  rw [digits, List.span_eq_takeWhile_dropWhile] at hr ⊢
  rw [List.takeWhile_append_of_pos hd, List.dropWhile_append_of_pos hd, (Prod.mk.inj hr).1,
    (Prod.mk.inj hr).2, List.append_nil]

theorem digits_digits (n : Nat) {rest : List Char} (h : Closes rest) :
    digits (Decimal.digits n ++ rest) = (Decimal.digits n, rest) :=
  digits_append (Decimal.isDigit_of_mem_digits n) h

theorem head_digits (n : Nat) (rest : List Char) :
    ∃ c r, Decimal.digits n ++ rest = c :: r ∧ c.isDigit = true := by
  obtain ⟨c, r, hc⟩ := List.exists_cons_of_ne_nil (Decimal.digits_ne_nil n)
  exact ⟨c, r ++ rest, by simp [hc], Decimal.isDigit_of_mem_digits n c (by simp [hc])⟩

theorem numeral?_intDigits (i : Int) {rest : List Char} (h : Closes rest) :
    numeral? (Decimal.intDigits i ++ rest) = some (Numeral.ofInt i, rest) := by
  cases i with
  | ofNat n =>
    have hs : ∀ r, Decimal.digits n ++ rest ≠ '-' :: r := by
      intro r hr
      obtain ⟨c, r', hc, hd⟩ := head_digits n rest
      rw [hr] at hc
      obtain ⟨rfl, -⟩ := List.cons.inj hc
      cases hd
    simp [numeral?, Decimal.intDigits, digits_digits n h, h.fraction?, h.exponent?,
      Decimal.value_digits, Numeral.ofInt, Decimal.digits_ne_nil, Decimal.leadingZero_digits]
  | negSucc n =>
    simp [numeral?, Decimal.intDigits, digits_digits (n + 1) h, h.fraction?, h.exponent?,
      Decimal.value_digits, Numeral.ofInt, Decimal.digits_ne_nil, Decimal.leadingZero_digits]

theorem hex_escape : ∀ n < 32,
    Hex.value? ['0', '0', Json.hexDigit (n / 16), Json.hexDigit (n % 16)] = some n := by decide

theorem units_shorthand {c e : Char} (h : Json.shorthand? c = some e) (r : List Char) :
    units ('\\' :: e :: r) = (units r).map fun p => (c.toNat :: p.1, p.2) := by
  have he : e ≠ 'u' ∧ shortEscape? e = some c := by
    unfold Json.shorthand? at h
    split at h <;> cases h <;> decide
  rw [units.eq_4 e r (fun _ _ _ _ _ hu _ => he.1 hu), he.2]

theorem units_escape (c : Char) (r : List Char) :
    units (Json.escape c ++ r) = (units r).map fun p => (c.toNat :: p.1, p.2) := by
  unfold Json.escape
  split
  · rename_i e h
    exact units_shorthand h r
  · rename_i h
    have hq : c ≠ '"' := by rintro rfl; cases h
    have hb : c ≠ '\\' := by rintro rfl; cases h
    split
    · rename_i hc
      simp [units, hex_escape c.toNat hc]
    · rename_i hc
      simp [units, hb, hc]

theorem units_quoted (cs r : List Char) :
    units (cs.flatMap Json.escape ++ '"' :: r) = some (cs.map Char.toNat, r) := by
  induction cs with
  | nil => rfl
  | cons c cs ih =>
    rw [List.flatMap_cons, List.append_assoc, units_escape, ih]
    rfl

/-- No character is half a surrogate pair. -/
theorem not_isSurrogate (c : Char) :
    isHighSurrogate c.toNat = false ∧ isLowSurrogate c.toNat = false := by
  have h := c.valid
  simp only [UInt32.isValidChar, Nat.isValidChar] at h
  simp only [isHighSurrogate, isLowSurrogate, Char.toNat, Bool.and_eq_false_iff, decide_eq_false_iff_not]
  omega

theorem joinUnits_map_toNat (cs : List Char) : joinUnits (cs.map Char.toNat) = some cs := by
  induction cs with
  | nil => rfl
  | cons c cs ih =>
    obtain ⟨hh, hl⟩ := not_isSurrogate c
    rw [List.map_cons, joinUnits.eq_def]
    simp [hh, hl, ih]

theorem text?_quoted (s : String) (r : List Char) :
    text? (s.toList.flatMap Json.escape ++ '"' :: r) = some (some s, r) := by
  simp [text?, units_quoted, joinUnits_map_toNat]

theorem quote_append (s : String) (r : List Char) :
    Json.quote s ++ r = '"' :: (s.toList.flatMap Json.escape ++ '"' :: r) := by
  simp [Json.quote]

theorem isBlank_of_isDigit {c : Char} (h : c.isDigit = true) : isBlank c = false := by
  simp only [isBlank, Bool.or_eq_false_iff, decide_eq_false_iff_not]
  refine ⟨⟨⟨?_, ?_⟩, ?_⟩, ?_⟩ <;> rintro rfl <;> cases h

theorem skipBlanks_of_numeral {c : Char} (h : c = '-' ∨ c.isDigit = true) (r : List Char) :
    skipBlanks (c :: r) = c :: r := by
  obtain rfl | h := h
  · rfl
  · simp [skipBlanks, isBlank_of_isDigit h]

/-- What starts with a sign or a digit is read as a number. -/
theorem value_of_numeral {c : Char} {cs rest : List Char} {n : Numeral}
    (hc : c = '-' ∨ c.isDigit = true) (h : numeral? (c :: cs) = some (n, rest)) (fuel : Nat) :
    value (fuel + 1) (c :: cs) = (num n, some rest) := by
  rw [value, skipBlanks_of_numeral hc]
  split
  case h_7 => rw [h]
  all_goals
    rename_i heq
    obtain ⟨rfl, -⟩ := List.cons.inj heq
    rcases hc with hc | hc <;> cases hc

theorem head_intDigits (i : Int) (r : List Char) :
    ∃ c cs, Decimal.intDigits i ++ r = c :: cs ∧ (c = '-' ∨ c.isDigit = true) := by
  cases i with
  | ofNat n =>
    obtain ⟨c, cs, hc, hd⟩ := head_digits n r
    exact ⟨c, cs, hc, .inr hd⟩
  | negSucc n => exact ⟨'-', _, rfl, .inl rfl⟩

theorem chars_int (i : Int) : (Json.int i).chars = Decimal.intDigits i := rfl

theorem chars_str (s : String) : (Json.str s).chars = Json.quote s := rfl

theorem chars_arr (x : Json) (xs : List Json) :
    (Json.arr (x :: xs)).chars = '[' :: (x.chars ++ Json.itemChars xs) := rfl

theorem chars_obj (k : String) (x : Json) (ms : List (String × Json)) :
    (Json.obj ((k, x) :: ms)).chars =
      '\x7b' :: (Json.quote k ++ ':' :: (x.chars ++ Json.memberChars ms)) := rfl

/-- How a value can start. -/
theorem head_chars (j : Json) (r : List Char) :
    ∃ c cs, j.chars ++ r = c :: cs ∧ isBlank c = false ∧ c ≠ ']' := by
  cases j with
  | null => exact ⟨'n', _, rfl, rfl, by decide⟩
  | bool b =>
    cases b with
    | false => exact ⟨'f', _, rfl, rfl, by decide⟩
    | true => exact ⟨'t', _, rfl, rfl, by decide⟩
  | int i =>
    obtain ⟨c, cs, hc, rfl | hd⟩ := head_intDigits i r
    · exact ⟨'-', cs, hc, rfl, by decide⟩
    · exact ⟨c, cs, hc, isBlank_of_isDigit hd, by rintro rfl; cases hd⟩
  | str s => exact ⟨'"', _, rfl, rfl, by decide⟩
  | arr xs => cases xs <;> exact ⟨'[', _, rfl, rfl, by decide⟩
  | obj ms => cases ms <;> exact ⟨'\x7b', _, rfl, rfl, by decide⟩

theorem skipBlanks_chars (j : Json) (r : List Char) : skipBlanks (j.chars ++ r) = j.chars ++ r := by
  obtain ⟨c, cs, hc, hb, -⟩ := head_chars j r
  simp [hc, skipBlanks, hb]

theorem length_chars_pos (j : Json) : 0 < j.chars.length := by
  obtain ⟨c, cs, hc, -⟩ := head_chars j []
  have := congrArg List.length hc
  simp at this
  omega

theorem closes_itemChars (xs : List Json) (r : List Char) : Closes (Json.itemChars xs ++ r) := by
  cases xs with
  | nil => exact .inr (.inl rfl)
  | cons => exact .inl rfl

theorem closes_memberChars (ms : List (String × Json)) (r : List Char) :
    Closes (Json.memberChars ms ++ r) := by
  cases ms with
  | nil => exact .inr (.inr rfl)
  | cons => exact .inl rfl

/-- So much fuel is enough for the values, items and members that it has two units a character for: one
for a value and one for its place in a container. -/
structure Suffices (fuel : Nat) : Prop where
  value : ∀ (j : Json) (rest : List Char), Closes rest → 2 * j.chars.length ≤ fuel →
    value fuel (j.chars ++ rest) = (ofJson j, some rest)
  items : ∀ (x : Json) (xs : List Json) (rest : List Char),
    2 * (x.chars ++ Json.itemChars xs).length ≤ fuel + 1 →
    items fuel (x.chars ++ (Json.itemChars xs ++ rest)) = (ofItems (x :: xs), some rest)
  members : ∀ (k : String) (x : Json) (ms : List (String × Json)) (rest : List Char),
    2 * (Json.quote k ++ ':' :: (x.chars ++ Json.memberChars ms)).length ≤ fuel + 1 →
    members fuel (Json.quote k ++ ':' :: (x.chars ++ (Json.memberChars ms ++ rest))) =
      (ofMembers ((k, x) :: ms), some rest)

theorem Suffices.value_succ {fuel : Nat} (h : Suffices fuel) (j : Json) {rest : List Char}
    (hr : Closes rest) (hf : 2 * j.chars.length ≤ fuel + 1) :
    Doc.value (fuel + 1) (j.chars ++ rest) = (ofJson j, some rest) := by
  cases j with
  | null => rfl
  | bool b => cases b <;> rfl
  | int i =>
    obtain ⟨c, cs, hc, hd⟩ := head_intDigits i rest
    have hn := numeral?_intDigits i hr
    rw [hc] at hn
    rw [chars_int, hc, value_of_numeral hd hn, ofJson]
  | str s =>
    rw [chars_str, quote_append]
    simp [Doc.value, skipBlanks, isBlank, text?_quoted, ofJson]
  | arr xs =>
    cases xs with
    | nil => rfl
    | cons x xs =>
      rw [chars_arr] at hf ⊢
      have hi := h.items x xs rest (by simp at hf ⊢; omega)
      have hb : ∀ r, x.chars ++ (Json.itemChars xs ++ rest) ≠ ']' :: r := by
        intro r hr
        obtain ⟨c, cs, hc, -, hne⟩ := head_chars x (Json.itemChars xs ++ rest)
        exact hne (List.cons.inj (hc.symm.trans hr)).1
      have hs : skipBlanks ('[' :: (x.chars ++ (Json.itemChars xs ++ rest))) =
          '[' :: (x.chars ++ (Json.itemChars xs ++ rest)) := rfl
      simp [Doc.value, hs, skipBlanks_chars, hi, ofJson]
  | obj ms =>
    cases ms with
    | nil => rfl
    | cons m ms =>
      obtain ⟨k, x⟩ := m
      rw [chars_obj] at hf ⊢
      have hm := h.members k x ms rest (by simp at hf ⊢; omega)
      rw [quote_append] at hm
      simp [quote_append, Doc.value, skipBlanks, isBlank, hm, ofJson]

theorem Suffices.items_succ {fuel : Nat} (h : Suffices fuel) (x : Json) (xs : List Json)
    (rest : List Char) (hf : 2 * (x.chars ++ Json.itemChars xs).length ≤ fuel + 2) :
    Doc.items (fuel + 1) (x.chars ++ (Json.itemChars xs ++ rest)) =
      (ofItems (x :: xs), some rest) := by
  have hv := h.value x _ (closes_itemChars xs rest)
  cases xs with
  | nil =>
    rw [Doc.items, hv (by simp [Json.itemChars] at hf ⊢; omega)]
    rfl
  | cons y ys =>
    have hi := h.items y ys rest (by simp [Json.itemChars] at hf ⊢; omega)
    rw [Doc.items, hv (by simp [Json.itemChars] at hf ⊢; omega)]
    simp [Json.itemChars, skipBlanks, isBlank, hi, ofItems]

theorem Suffices.members_succ {fuel : Nat} (h : Suffices fuel) (k : String) (x : Json)
    (ms : List (String × Json)) (rest : List Char)
    (hf : 2 * (Json.quote k ++ ':' :: (x.chars ++ Json.memberChars ms)).length ≤ fuel + 2) :
    Doc.members (fuel + 1) (Json.quote k ++ ':' :: (x.chars ++ (Json.memberChars ms ++ rest))) =
      (ofMembers ((k, x) :: ms), some rest) := by
  have hv := h.value x _ (closes_memberChars ms rest)
  rw [quote_append]
  cases ms with
  | nil =>
    have hx := hv (by simp [Json.memberChars] at hf ⊢; omega)
    simp only [Json.memberChars, List.cons_append, List.nil_append] at hx ⊢
    simp [Doc.members, skipBlanks, isBlank, text?_quoted, hx, ofMembers]
  | cons m ms =>
    obtain ⟨l, y⟩ := m
    have hx := hv (by simp [Json.memberChars] at hf ⊢; omega)
    have hm := h.members l y ms rest (by simp [Json.memberChars] at hf ⊢; omega)
    simp only [Json.memberChars, List.cons_append, List.append_assoc] at hx ⊢
    simp [Doc.members, skipBlanks, isBlank, text?_quoted, hx, hm, ofMembers]

theorem suffices_fuel (fuel : Nat) : Suffices fuel := by
  induction fuel with
  | zero =>
    -- no value is written without a character, so none asks for so little
    refine ⟨fun j _ _ hf => ?_, fun x xs _ hf => ?_, fun k x ms _ hf => ?_⟩
    · have := length_chars_pos j
      omega
    · have := length_chars_pos x
      simp at hf
      omega
    · have := length_chars_pos x
      simp at hf
      omega
  | succ fuel ih => exact ⟨fun j _ => ih.value_succ j, ih.items_succ, ih.members_succ⟩

theorem ofText_render (j : Json) : ofText j.render = (ofJson j, true) := by
  have h := (suffices_fuel (2 * j.chars.length + 2)).value j [] trivial (by omega)
  rw [List.append_nil] at h
  simp [ofText, Json.render, h, skipBlanks]

/-- What is read to its end with so much fuel is whole. -/
structure Unbroken (fuel : Nat) : Prop where
  value : ∀ {cs d r}, value fuel cs = (d, some r) → d.isWhole = true
  items : ∀ {cs ds r}, items fuel cs = (ds, some r) → itemsWhole ds = true
  members : ∀ {cs ds r}, members fuel cs = (ds, some r) → membersWhole ds = true

theorem Unbroken.value_succ {fuel : Nat} (h : Unbroken fuel) {cs r : List Char} {d : Doc}
    (hd : Doc.value (fuel + 1) cs = (d, some r)) : d.isWhole = true := by
  rw [Doc.value] at hd
  split at hd
  · cases hd; rfl
  · cases hd; rfl
  · cases hd; rfl
  · split at hd
    · cases hd; rfl
    · cases hd
  · split at hd
    · cases hd; rfl
    · obtain ⟨rfl, hr⟩ := Prod.mk.inj hd
      simp [isWhole, hr, h.items (Prod.ext rfl hr)]
  · split at hd
    · cases hd; rfl
    · obtain ⟨rfl, hr⟩ := Prod.mk.inj hd
      simp [isWhole, hr, h.members (Prod.ext rfl hr)]
  · split at hd
    · cases hd; rfl
    · cases hd

theorem Unbroken.items_succ {fuel : Nat} (h : Unbroken fuel) {cs r : List Char} {ds : List Doc}
    (hd : Doc.items (fuel + 1) cs = (ds, some r)) : itemsWhole ds = true := by
  rw [Doc.items] at hd
  split at hd
  · cases hd
  · rename_i x r' hx
    have hw := h.value hx
    split at hd
    · cases hd
      simp [itemsWhole, hw]
    · obtain ⟨rfl, hr⟩ := Prod.mk.inj hd
      simp [itemsWhole, hw, h.items (Prod.ext rfl hr)]
    · cases hd

theorem Unbroken.members_succ {fuel : Nat} (h : Unbroken fuel) {cs r : List Char}
    {ds : List (Option String × Doc)} (hd : Doc.members (fuel + 1) cs = (ds, some r)) :
    membersWhole ds = true := by
  rw [Doc.members] at hd
  split at hd
  · split at hd
    · cases hd
    · split at hd
      · split at hd
        · cases hd
        · rename_i x r' hx
          have hw := h.value hx
          split at hd
          · cases hd
            simp [membersWhole, hw]
          · obtain ⟨rfl, hr⟩ := Prod.mk.inj hd
            simp [membersWhole, hw, h.members (Prod.ext rfl hr)]
          · cases hd
      · cases hd
  · cases hd

theorem unbroken_fuel (fuel : Nat) : Unbroken fuel := by
  induction fuel with
  | zero => exact ⟨fun h => (by cases h), fun h => (by cases h), fun h => (by cases h)⟩
  | succ fuel ih => exact ⟨ih.value_succ, ih.items_succ, ih.members_succ⟩

theorem isWhole_of_ofText {text : String} {d : Doc} (h : ofText text = (d, true)) :
    d.isWhole = true := by
  unfold ofText at h
  dsimp only at h
  split at h
  · rename_i hv
    obtain ⟨rfl, -⟩ := Prod.mk.inj h
    exact (unbroken_fuel _).value hv
  · cases h

end Doc

end Roster
