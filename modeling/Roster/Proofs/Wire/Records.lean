import Roster.Proofs.Wire.Spelling
import Mathlib.Data.List.Basic

/-! How records take the spellings of what was written: whatever the order of the members and whatever
stands between them, a record finds its own. What a field takes makes up what a shape takes, along the
combinators that shapes are built with. -/

namespace Roster

variable {α β : Type}

/-- Reads each spelling of a written value as one value if the spelling fits, and not at all if it does
not. -/
structure Reads (read : Doc → Reading α) (fits : Doc → Prop) (x : Json) (a : α) : Prop where
  ok : ∀ {d : Doc}, d.Spells x → d.isWhole = true → fits d → read d = .ok a
  fits : ∀ {d : Doc} {b : α}, d.Spells x → read d = .ok b → fits d

theorem Reads.map {read : Doc → Reading α} {fits : Doc → Prop} {x : Json} {a : α}
    (h : Reads read fits x a) (f : α → β) :
    Reads (fun d => do return f (← read d)) fits x (f a) where
  ok hd hw hf := by rw [h.ok hd hw hf]; rfl
  fits {d b} hd hb := by
    cases hr : read d with
    | ok c => exact h.fits hd hr
    | error e => rw [hr] at hb; cases hb

theorem Reads.congr {read : Doc → Reading α} {fits fits' : Doc → Prop} {x : Json} {a : α}
    (h : Reads read fits x a) (hf : ∀ d, fits d ↔ fits' d) : Reads read fits' x a :=
  ⟨fun hd hw h' => h.ok hd hw ((hf _).2 h'), fun hd hb => (hf _).1 (h.fits hd hb)⟩

theorem Reads.of_ok {read : Doc → Reading α} {x : Json} {a : α}
    (h : ∀ d : Doc, d.Spells x → d.isWhole = true → read d = .ok a) :
    Reads read (fun _ => True) x a :=
  ⟨fun hd hw _ => h _ hd hw, fun _ _ => trivial⟩

/-- A field and the member it is for. -/
structure Field.Takes (fits : String → Doc → Prop) (f : Field) (m : String × Json) : Prop where
  name : f.name = m.1
  check : Reads f.check (fits m.1) m.2 ()

namespace Shape

variable {fits : String → Doc → Prop}

/-- The fields take the members one by one, and what is found under their names makes the value. -/
structure Takes (s : Shape α) (fits : String → Doc → Prop) (ms : List (String × Json)) (a : α) :
    Prop where
  fields : List.Forall₂ (Field.Takes fits) s.fields ms
  build : ∀ got : List (String × Doc),
    (∀ m ∈ ms, ∃ d, got.lookup m.1 = some d ∧ d.Spells m.2 ∧ d.isWhole = true ∧ fits m.1 d) →
      s.build got = .ok a

theorem takes_unit (a : α) : (unit a).Takes fits [] a := ⟨.nil, fun _ _ => rfl⟩

theorem takes_required {name : String} {read : Doc → Reading α} {x : Json} {a : α}
    (h : Reads read (fits name) x a) : (required name read).Takes fits [(name, x)] a where
  fields := .cons ⟨rfl, h.map fun _ => ()⟩ .nil
  build got hg := by
    obtain ⟨d, hl, hd, hw, hf⟩ := hg (name, x) List.mem_cons_self
    simp only [required, hl]
    exact h.ok hd hw hf

theorem reads_readOption {read : Doc → Reading α} {f : α → Json}
    (h : ∀ a, Reads read (fun _ => True) (f a) a) (hn : ∀ a, f a ≠ .null) (o : Option α) :
    Reads (Doc.readOption read) (fun _ => True) (.ofOption f o) o := by
  refine .of_ok fun d hd hw => ?_
  cases o with
  | none =>
    obtain rfl := Doc.spells_null.1 hd
    rfl
  | some a =>
    have hr := (h a).ok hd hw trivial
    have hd' : d ≠ .null := by
      rintro rfl
      generalize hx : Json.ofOption f (some a) = x at hd
      cases hd
      exact hn a hx
    cases d <;> simp_all [Doc.readOption, Except.map]

theorem takes_optional {name : String} {read : Doc → Reading α} {x : Json} {o : Option α}
    (h : Reads (Doc.readOption read) (fits name) x o) :
    (optional name read).Takes fits [(name, x)] o where
  fields := .cons ⟨rfl, h.map fun _ => ()⟩ .nil
  build got hg := by
    obtain ⟨d, hl, hd, hw, hf⟩ := hg (name, x) List.mem_cons_self
    simp only [optional, hl]
    exact h.ok hd hw hf

theorem Takes.map {s : Shape α} {ms : List (String × Json)} {a : α} (h : s.Takes fits ms a)
    (f : α → β) : (f <$> s).Takes fits ms (f a) where
  fields := h.fields
  build got hg := by
    change (s.build got).map f = _
    rw [h.build got hg]
    rfl

theorem Takes.seq {s : Shape (α → β)} {t : Shape α} {ms ns : List (String × Json)} {f : α → β} {a : α}
    (hs : s.Takes fits ms f) (ht : t.Takes fits ns a) : (s <*> t).Takes fits (ms ++ ns) (f a) where
  fields := List.rel_append hs.fields ht.fields
  build got hg := by
    have hms := hs.build got fun m hm => hg m (List.mem_append_left _ hm)
    have hns := ht.build got fun m hm => hg m (List.mem_append_right _ hm)
    change (do return (← s.build got) (← t.build got)) = _
    rw [hms, hns]
    rfl

/-- Has a name that one of the fields has. -/
def known (fields : List Field) (m : String × Doc) : Bool :=
  (fields.find? fun f => f.name == m.1).isSome

theorem collect_named (fields : List Field) {es : List (String × Doc)} (got : List (String × Doc))
    (check : ∀ m ∈ es, ∀ f, fields.find? (fun f => f.name == m.1) = some f → f.check m.2 = .ok ())
    (whole : ∀ m ∈ es, m.2.isWhole = true)
    (nodup : ((es.filter (known fields)).map Prod.fst ++ got.map Prod.fst).Nodup) :
    collect fields got (Doc.named es) = .ok ((es.filter (known fields)).reverse ++ got) := by
  induction es generalizing got with
  | nil => rfl
  | cons m es ih =>
    obtain ⟨k, d⟩ := m
    have ih := fun got => ih got (fun m hm => check m (List.mem_cons_of_mem _ hm))
      (fun m hm => whole m (List.mem_cons_of_mem _ hm))
    rw [Doc.named_cons, collect]
    cases hf : fields.find? (fun f => f.name == k) with
    | none =>
      have hk : known fields (k, d) = false := by simp [known, hf]
      simp only [List.filter_cons, hk] at nodup ⊢
      have hd := whole (k, d) List.mem_cons_self
      simp only at hd
      simpa [hd] using ih got nodup
    | some f =>
      have hk : known fields (k, d) = true := by simp [known, hf]
      simp only [List.filter_cons, hk, if_true, List.map_cons, List.cons_append] at nodup ⊢
      -- a second member of this name would be refused
      have hg : got.any (fun p => p.1 == k) = false := by
        have hk := (List.nodup_cons.1 nodup).1
        simp only [List.mem_append, not_or] at hk
        simp only [List.any_eq_false, beq_iff_eq]
        rintro p hp rfl
        exact hk.2 (List.mem_map_of_mem hp)
      have hc := check (k, d) List.mem_cons_self f hf
      simp only at hc
      have hi := ih ((k, d) :: got) (List.nodup_middle.2 nodup)
      rw [hg, hc]
      change collect fields ((k, d) :: got) (Doc.named es) = _
      rw [hi, List.reverse_cons, List.append_assoc]
      rfl

/-- Nothing is read unless each field accepts what stands under its name. -/
theorem check_of_collect {fields : List Field} {es got got' : List (String × Doc)}
    (h : collect fields got (Doc.named es) = .ok got') :
    ∀ m ∈ es, ∀ f, fields.find? (fun f => f.name == m.1) = some f → f.check m.2 = .ok () := by
  induction es generalizing got with
  | nil => intro m hm; cases hm
  | cons m es ih =>
    obtain ⟨k, d⟩ := m
    rw [Doc.named_cons, collect] at h
    rw [List.forall_mem_cons]
    split at h
    · rename_i f hf
      split at h
      · cases h
      · cases hc : f.check d with
        | error e => rw [hc] at h; cases h
        | ok u =>
          rw [hc] at h
          refine ⟨fun g hg => ?_, ih h⟩
          cases hf.symm.trans hg
          exact hc
    · rename_i hf
      split at h
      · exact ⟨fun g hg => (by rw [hf] at hg; cases hg), ih h⟩
      · cases h

theorem lookup_of_mem {l : List (String × Doc)} (h : (l.map Prod.fst).Nodup) {m : String × Doc}
    (hm : m ∈ l) : l.lookup m.1 = some m.2 := by
  induction l with
  | nil => cases hm
  | cons n l ih =>
    obtain ⟨k, d⟩ := n
    obtain ⟨hk, h⟩ := List.nodup_cons.1 h
    obtain rfl | hm := List.mem_cons.1 hm
    · exact List.lookup_cons_self
    · have hne : m.1 ≠ k := fun he => hk (List.mem_map.2 ⟨m, hm, he⟩)
      rw [List.lookup_cons, beq_eq_false_iff_ne.2 hne]
      exact ih h hm

/-- The field of a name, if it is the name of a member. -/
theorem find?_takes {fields : List Field} {ms : List (String × Json)}
    (h : List.Forall₂ (Field.Takes fits) fields ms) (k : String) :
    (k ∉ ms.map Prod.fst ∧ fields.find? (fun f => f.name == k) = none) ∨
      ∃ f x, (k, x) ∈ ms ∧ fields.find? (fun f => f.name == k) = some f ∧ f.Takes fits (k, x) := by
  induction h with
  | nil => exact .inl ⟨by simp, rfl⟩
  | @cons f m fields ms hm _ ih =>
    by_cases hk : m.1 = k
    · subst hk
      exact .inr ⟨f, m.2, List.mem_cons_self, by simp [hm.name], hm⟩
    · have hf : (f.name == k) = false := by simpa [hm.name] using hk
      obtain ⟨hn, hf'⟩ | ⟨g, x, hx, hg, ht⟩ := ih
      · refine .inl ⟨?_, by rw [List.find?_cons, hf, hf']⟩
        simpa [hn] using Ne.symm hk
      · exact .inr ⟨g, x, List.mem_cons_of_mem _ hx, by rw [List.find?_cons, hf, hg], ht⟩

theorem known_iff {fields : List Field} {ms : List (String × Json)}
    (h : List.Forall₂ (Field.Takes fits) fields ms) (m : String × Doc) :
    known fields m = true ↔ m.1 ∈ ms.map Prod.fst := by
  obtain ⟨hn, hf⟩ | ⟨f, x, hx, hf, -⟩ := find?_takes h m.1
  · simp [known, hf, hn]
  · simp only [known, hf, Option.isSome_some, true_iff]
    exact List.mem_map_of_mem hx

/-- Whatever the order, the record keeps its own members. -/
theorem filter_known {fields : List Field} {ms : List (String × Json)}
    {own added es : List (String × Doc)} (h : List.Forall₂ (Field.Takes fits) fields ms)
    (members : Doc.SpellMembers own ms) (order : es.Perm (own ++ added))
    (fresh : ∀ m ∈ added, m.1 ∉ ms.map Prod.fst) : (es.filter (known fields)).Perm own := by
  have hown : own.filter (known fields) = own := by
    rw [List.filter_eq_self]
    intro m hm
    rw [known_iff h, ← members.keys]
    exact List.mem_map_of_mem hm
  have hadded : added.filter (known fields) = [] := by
    rw [List.filter_eq_nil_iff]
    intro m hm
    rw [known_iff h]
    exact fresh m hm
  have hp := order.filter (known fields)
  rwa [List.filter_append, hown, hadded, List.append_nil] at hp

theorem Takes.reads {s : Shape α} {ms : List (String × Json)} {a : α} (h : s.Takes fits ms a)
    (nodup : (ms.map Prod.fst).Nodup) (other : ∀ k ∉ ms.map Prod.fst, ∀ d, fits k d) (extra : Fault) :
    Reads (s.readAs extra) (fun d => ∀ k e, d.HasMember k e → fits k e) (.obj ms) a where
  ok {d} hd hw hf := by
    cases hd with
    | @obj own added es _ members order fresh =>
      have hp := filter_known h.fields members order fresh
      have hwhole := Doc.isWhole_named.1 hw
      have hfits : ∀ m ∈ es, fits m.1 m.2 := fun m hm => hf m.1 m.2 (Doc.hasMember_named.2 hm)
      have hkeys : ((es.filter (known s.fields)).map Prod.fst).Nodup := by
        rw [(hp.map Prod.fst).nodup_iff, members.keys]
        exact nodup
      have hcheck : ∀ m ∈ es, ∀ f, s.fields.find? (fun f => f.name == m.1) = some f →
          f.check m.2 = .ok () := by
        intro m hm f hf
        obtain ⟨-, hn⟩ | ⟨g, x, hx, hg, ht⟩ := find?_takes h.fields m.1
        · rw [hn] at hf; cases hf
        · cases hg.symm.trans hf
          exact ht.check.ok (members.spells order fresh nodup hm hx) (hwhole m hm) (hfits m hm)
      have hc := collect_named s.fields [] hcheck hwhole (by simpa using hkeys)
      simp only [readAs, hc]
      -- the members found lie in reverse, but no two under one name
      refine h.build _ fun m hm => ?_
      obtain ⟨e, he, hs⟩ := members.of_mem hm
      have hme := hp.mem_iff.2 he
      have hes := (List.mem_filter.1 hme).1
      refine ⟨e, ?_, hs, hwhole _ hes, hfits _ hes⟩
      refine lookup_of_mem ?_ (List.mem_append_left _ (List.mem_reverse.2 hme))
      simpa [List.map_reverse, List.nodup_reverse] using hkeys
  fits {d b} hd hb := by
    cases hd with
    | @obj own added es _ members order fresh =>
      simp only [readAs] at hb
      cases hc : collect s.fields [] (Doc.named es) with
      | error e => rw [hc] at hb; cases hb
      | ok got =>
        intro k e hm
        have hm := Doc.hasMember_named.1 hm
        obtain ⟨hn, -⟩ | ⟨f, x, hx, hf, ht⟩ := find?_takes h.fields k
        · exact other k hn e
        · exact ht.check.fits (members.spells order fresh nodup hm hx)
            (check_of_collect hc (k, e) hm f hf)

/-- A record whose fields take whatever spells their members. -/
theorem Takes.reads_record {s : Shape α} {ms : List (String × Json)} {a : α}
    (h : s.Takes (fun _ _ => True) ms a) (nodup : (ms.map Prod.fst).Nodup) :
    Reads s.read (fun _ => True) (.obj ms) a :=
  (h.reads nodup (fun _ _ _ => trivial) .malformed).congr fun _ => by simp

/-- Makes only such values, whatever was found. -/
def Yields (s : Shape α) (P : α → Prop) : Prop := ∀ got a, s.build got = .ok a → P a

theorem yields_required {name : String} {read : Doc → Reading α} {P : α → Prop}
    (h : ∀ d a, read d = .ok a → P a) : (required name read).Yields P := by
  intro got a ha
  simp only [required] at ha
  split at ha
  · exact h _ a ha
  · cases ha

theorem Yields.map {s : Shape α} {P : α → Prop} {Q : β → Prop} (h : s.Yields P) {f : α → β}
    (hf : ∀ a, P a → Q (f a)) : (f <$> s).Yields Q := by
  intro got b hb
  change (s.build got).map f = .ok b at hb
  cases ha : s.build got with
  | error e => rw [ha] at hb; cases hb
  | ok a =>
    rw [ha] at hb
    cases hb
    exact hf a (h got a ha)

theorem Yields.seq {s : Shape (α → β)} {t : Shape α} {P : α → Prop} {Q : β → Prop} (ht : t.Yields P)
    (hs : s.Yields fun f => ∀ a, P a → Q (f a)) : (s <*> t).Yields Q := by
  intro got b hb
  change (do return (← s.build got) (← t.build got)) = _ at hb
  cases hf : s.build got with
  | error e => rw [hf] at hb; cases hb
  | ok f =>
    cases ha : t.build got with
    | error e => rw [hf, ha] at hb; cases hb
    | ok a =>
      rw [hf, ha] at hb
      cases hb
      exact hs got f hf a (ht got a ha)

theorem yields_any (s : Shape α) : s.Yields fun _ => True := fun _ _ _ => trivial

theorem Yields.read {s : Shape α} {P : α → Prop} (h : s.Yields P) {d : Doc} {a : α}
    (ha : s.read d = .ok a) : P a := by
  cases d with
  | obj ms closed =>
    simp only [Shape.read, readAs] at ha
    cases hc : collect s.fields [] ms with
    | error e => rw [hc] at ha; cases ha
    | ok got =>
      rw [hc] at ha
      cases closed
      · cases ha
      · exact h got a ha
  | arr xs closed =>
    simp only [Shape.read, readAs] at ha
    cases hc : deal .malformed closed s.fields xs with
    | error e => rw [hc] at ha; cases ha
    | ok got => rw [hc] at ha; exact h got a ha
  | null => cases ha
  | bool => cases ha
  | num => cases ha
  | str => cases ha
  | broken => cases ha

end Shape

end Roster
