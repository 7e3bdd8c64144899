import Roster.Proofs.Wire.Records

/-! Records whose shape a tag decides. The tag may stand anywhere among the members; the members before
and behind it are set aside first, so a spelling is read exactly if the whole of it can be set aside. -/

namespace Roster

namespace Tagged

open Doc (named)

variable {α : Type}

/-- Members that can be set aside are kept, and the search for the tag goes on behind them. -/
theorem split_append (t : Tagged α) {around : Nat} {es : List (String × Doc)}
    (h : ∀ m ∈ es, m.1 ≠ t.tag ∧ m.2.isBufferable around = true) (found : Option String)
    (rest : List (Option String × Doc)) :
    t.split around found (named es ++ rest) =
      (t.split around found rest).map fun r => (r.1, named es ++ r.2) := by
  induction es with
  | nil => cases hr : t.split around found rest <;> simp [hr, Except.map]
  | cons m es ih =>
    obtain ⟨k, d⟩ := m
    obtain ⟨⟨hk, hd⟩, h⟩ := List.forall_mem_cons.1 h
    rw [Doc.named_cons, List.cons_append, split, if_neg hk, if_pos hd, ih h]
    cases t.split around found rest <;> rfl

/-- The tag is found wherever it stands, and the other members are kept in order. -/
theorem split_tag (t : Tagged α) {around : Nat} {name : String} {pre post : List (String × Doc)}
    (hn : (t.variants.lookup name).isSome = true)
    (hpre : ∀ m ∈ pre, m.1 ≠ t.tag ∧ m.2.isBufferable around = true)
    (hpost : ∀ m ∈ post, m.1 ≠ t.tag ∧ m.2.isBufferable around = true) :
    t.split around none (named (pre ++ (t.tag, .str (some name)) :: post)) =
      .ok (some name, named (pre ++ post)) := by
  have ht : t.readTag (.str (some name)) = .ok name := by
    change (if (t.variants.lookup name).isSome then Except.ok name else Except.error Fault.misshapen) = _
    rw [if_pos hn]
  have hs := split_append t hpost (some name) []
  rw [List.append_nil] at hs
  rw [Doc.named_append, split_append t hpre, Doc.named_cons, split, if_pos rfl, ht]
  change (t.split around (some name) (named post)).map _ = _
  rw [hs]
  simp [split, Except.map]

/-- The search ends only if each member but the tag could be set aside. -/
theorem isBufferable_of_split {t : Tagged α} {around : Nat} {found : Option String}
    {es : List (String × Doc)} {r : Option String × List (Option String × Doc)}
    (h : t.split around found (named es) = .ok r) :
    ∀ m ∈ es, m.1 ≠ t.tag → m.2.isBufferable around = true := by
  induction es generalizing found r with
  | nil => intro m hm; cases hm
  | cons m es ih =>
    obtain ⟨k, d⟩ := m
    rw [Doc.named_cons, split] at h
    rw [List.forall_mem_cons]
    split at h
    · rename_i hk
      split at h
      · cases h
      · cases ht : t.readTag d with
        | error e => rw [ht] at h; cases h
        | ok name =>
          rw [ht] at h
          exact ⟨fun hne => absurd hk hne, ih h⟩
    · split at h
      · rename_i hd
        cases hs : t.split around found (named es) with
        | error e => rw [hs] at h; cases h
        | ok r' => exact ⟨fun _ => hd, ih hs⟩
      · cases h

/-- A spelling of a record with a tag is a spelling of the record without it, with the tag somewhere in
it. -/
theorem exists_around_tag {d : Doc} {tag name : String} {ms : List (String × Json)}
    (hd : d.Spells (.obj ((tag, .str name) :: ms))) (fresh : tag ∉ ms.map Prod.fst) :
    ∃ pre post, d = .obj (named (pre ++ (tag, .str (some name)) :: post)) true ∧
      (Doc.obj (named (pre ++ post)) true).Spells (.obj ms) ∧ ∀ m ∈ pre ++ post, m.1 ≠ tag := by
  cases hd with
  | @obj own added es _ members order others =>
    cases members with
    | @cons _ d _ own _ head tail =>
      obtain rfl := Doc.spells_str.1 head
      obtain ⟨pre, post, rfl⟩ := List.append_of_mem (order.mem_iff.2 List.mem_cons_self)
      have hp : (pre ++ post).Perm (own ++ added) :=
        (List.perm_cons _).1 (List.perm_middle.symm.trans order)
      have others : ∀ m ∈ added, m.1 ≠ tag ∧ m.1 ∉ ms.map Prod.fst := by simpa using others
      refine ⟨pre, post, rfl, .obj tail hp fun m hm => (others m hm).2, fun m hm he => ?_⟩
      obtain hm | hm := List.mem_append.1 (hp.mem_iff.1 hm)
      · exact fresh (he ▸ tail.keys ▸ List.mem_map_of_mem hm)
      · exact (others m hm).1 he

/-- A spelling is read as the variant its tag names, if the whole of it can be set aside, and else not at
all. -/
theorem reads {t : Tagged α} {around : Nat} {name : String} {s : Shape α}
    {ms : List (String × Json)} {a : α} (hs : s.Takes (fun _ _ => True) ms a)
    (hl : t.variants.lookup name = some s) (nodup : (t.tag :: ms.map Prod.fst).Nodup)
    (ha : around < Doc.maxDepth) :
    Reads (t.read (around + 1)) (fun d => d.isBufferable around = true)
      (.obj ((t.tag, .str name) :: ms)) a where
  ok {d} hd hw hf := by
    obtain ⟨fresh, nodup⟩ := List.nodup_cons.1 nodup
    obtain ⟨pre, post, rfl, hspells, htag⟩ := exists_around_tag hd fresh
    have hmem : ∀ m ∈ pre ++ post, m ∈ pre ++ (t.tag, .str (some name)) :: post := by
      intro m hm
      rw [List.perm_middle.mem_iff]
      exact List.mem_cons_of_mem _ hm
    have hbuf : ∀ m ∈ pre ++ post, m.1 ≠ t.tag ∧ m.2.isBufferable (around + 1) = true :=
      fun m hm => ⟨htag m hm, (Doc.isBufferable_named ha).1 hf m (hmem m hm)⟩
    -- what is left without the tag is what the variant reads
    have hwhole : (Doc.obj (named (pre ++ post)) true).isWhole = true :=
      Doc.isWhole_named.2 fun m hm => Doc.isWhole_named.1 hw m (hmem m hm)
    have hsplit := t.split_tag (by rw [hl]; rfl)
      (fun m hm => hbuf m (List.mem_append_left _ hm))
      (fun m hm => hbuf m (List.mem_append_right _ hm))
    simp only [read, hsplit]
    change t.finish name _ = _
    simp only [finish, hl]
    exact (hs.reads nodup (fun _ _ _ => trivial) .misshapen).ok hspells hwhole fun _ _ _ => trivial
  fits {d b} hd hb := by
    obtain ⟨pre, post, rfl, -, htag⟩ := exists_around_tag hd (List.nodup_cons.1 nodup).1
    simp only [read] at hb
    cases hr : t.split (around + 1) none (named (pre ++ (t.tag, .str (some name)) :: post)) with
    | error e => rw [hr] at hb; cases hb
    | ok r =>
      rw [Doc.isBufferable_named ha]
      intro m hm
      obtain rfl | hm' := List.mem_cons.1 (List.perm_middle.mem_iff.1 hm)
      · rw [Doc.isBufferable_iff]
        exact ⟨rfl, by simp only [Doc.depth]; omega⟩
      · exact isBufferable_of_split hr m hm (htag m hm')

/-- A record with a tag that lies in no other container. -/
theorem reads_alone {t : Tagged α} {name : String} {s : Shape α} {ms : List (String × Json)} {a : α}
    (hs : s.Takes (fun _ _ => True) ms a) (hl : t.variants.lookup name = some s)
    (nodup : (t.tag :: ms.map Prod.fst).Nodup) :
    Reads (t.read 1) (fun d => d.isBufferable 0 = true) (.obj ((t.tag, .str name) :: ms)) a :=
  reads hs hl nodup (by decide)

end Tagged

end Roster
