import Mathlib.Data.List.Induction
import ProcessTitle.Proc.Environ

/-!
# Reading environments
-/

namespace ProcessTitle

/-! ### Byte order and cutting -/

namespace Bytes

theorem lexLt_iff_lt (a b : Bytes) : lexLt a b = true ↔ a < b := by
  induction a generalizing b with
  | nil => cases b <;> simp [lexLt, List.nil_lt_cons, List.lt_irrefl]
  | cons x a ih =>
    cases b with
    | nil => simp [lexLt, List.not_lt_nil]
    | cons y b => simp [lexLt, List.cons_lt_cons_iff, ih]

theorem lexLt_irrefl (a : Bytes) : lexLt a a = false :=
  Bool.eq_false_iff.mpr fun below => List.lt_irrefl a ((lexLt_iff_lt a a).mp below)

theorem lexLt_trans {a b c : Bytes} (first : lexLt a b = true) (second : lexLt b c = true) :
    lexLt a c = true := by
  rw [lexLt_iff_lt] at *
  exact List.lt_trans first second

theorem lexLt_or_lexLt {a b : Bytes} (different : a ≠ b) : lexLt a b = true ∨ lexLt b a = true := by
  rw [lexLt_iff_lt, lexLt_iff_lt]
  by_cases below : a < b
  · exact .inl below
  · rcases List.le_iff_lt_or_eq.mp (List.not_lt.mp below) with above | same
    · exact .inr above
    · exact absurd same.symm different

theorem cut_cons (b c : UInt8) (s : Bytes) :
    cut b (c :: s) = if c = b then some ([], s) else (cut b s).map fun kv => (c :: kv.1, kv.2) := by
  unfold cut
  rw [List.findIdx?_cons]
  by_cases separator : c = b
  · simp [separator]
  · cases s.findIdx? (· == b) <;> simp [separator]

theorem cut_eq_some_iff {b : UInt8} {s k v : Bytes} :
    cut b s = some (k, v) ↔ s = k ++ b :: v ∧ b ∉ k := by
  induction s generalizing k with
  | nil => simp [cut]
  | cons c s ih =>
    rw [cut_cons]
    by_cases separator : c = b
    · -- the first byte is the separator: nothing comes before it
      subst separator
      cases k with
      | nil => simp
      | cons x k =>
        simp only [if_true, Option.some.injEq, Prod.mk.injEq, reduceCtorEq, false_and, false_iff,
          List.cons_append, List.cons.injEq, List.mem_cons, not_and, not_or]
        intro same
        simp [same]
    · -- the first byte starts what comes before the separator
      cases k with
      | nil => simp [separator]
      | cons x k =>
        simp only [separator, if_false, Option.map_eq_some_iff, Prod.exists, Prod.mk.injEq,
          List.cons.injEq, List.cons_append, List.mem_cons, not_or]
        constructor
        · rintro ⟨k', v', found, ⟨rfl, rfl⟩, rfl⟩
          obtain ⟨rest, clean⟩ := ih.mp found
          exact ⟨⟨rfl, rest⟩, Ne.symm separator, clean⟩
        · rintro ⟨⟨rfl, rest⟩, -, clean⟩
          exact ⟨k, v, ih.mpr ⟨rest, clean⟩, ⟨rfl, rfl⟩, rfl⟩

theorem cut_eq_none_iff {b : UInt8} {s : Bytes} : cut b s = none ↔ b ∉ s := by
  induction s with
  | nil => simp [cut]
  | cons c s ih =>
    rw [cut_cons]
    by_cases separator : c = b
    · simp [separator]
    · simp [separator, ih, Ne.symm separator]

end Bytes

namespace Environ

/-- An environment is ordered when its names strictly increase in byte order, so that each name
is bound once. -/
def Ordered (e : Environ) : Prop := e.entries.Pairwise fun a b => Bytes.lexLt a.1 b.1

/-! ### Entries -/

theorem entry?_eq_some_iff {raw k v : Bytes} :
    entry? raw = some (k, v) ↔ k ≠ [] ∧ raw = k ++ Bytes.byte '=' :: v ∧ Bytes.byte '=' ∉ k := by
  rw [← Bytes.cut_eq_some_iff, entry?]
  rcases Bytes.cut (Bytes.byte '=') raw with _ | ⟨k', v'⟩
  · simp
  · by_cases empty : k' = []
    · simp only [empty, List.isEmpty_nil, if_true, Option.some.injEq, Prod.mk.injEq]
      simp only [reduceCtorEq, false_iff, not_and]
      rintro filled rfl
      exact absurd rfl filled
    · simp only [List.isEmpty_iff, empty, if_false, Option.some.injEq, Prod.mk.injEq]
      constructor
      · rintro ⟨rfl, rfl⟩
        exact ⟨empty, rfl, rfl⟩
      · rintro ⟨-, same⟩
        exact same

theorem entry?_eq_none_iff {raw : Bytes} :
    entry? raw = none ↔ Bytes.byte '=' ∉ raw ∨ raw.head? = some (Bytes.byte '=') := by
  unfold entry?
  rcases found : Bytes.cut (Bytes.byte '=') raw with _ | ⟨k, v⟩
  · simp [Bytes.cut_eq_none_iff.mp found]
  · obtain ⟨rfl, clean⟩ := Bytes.cut_eq_some_iff.mp found
    cases k with
    | nil => simp
    | cons c k =>
      -- the name is not empty, so the entry has an `=` and does not start with it
      have differs : c ≠ Bytes.byte '=' := fun same => clean (same ▸ List.mem_cons_self)
      simp [differs]

theorem isPrefixOf_name_iff {k raw : Bytes} (named : k ≠ []) (clean : Bytes.byte '=' ∉ k) :
    (k ++ [Bytes.byte '=']).isPrefixOf raw = true ↔ ∃ v, entry? raw = some (k, v) := by
  rw [List.isPrefixOf_iff_prefix]
  constructor
  · rintro ⟨v, rfl⟩
    exact ⟨v, entry?_eq_some_iff.mpr ⟨named, by simp, clean⟩⟩
  · rintro ⟨v, bound⟩
    obtain ⟨-, rfl, -⟩ := entry?_eq_some_iff.mp bound
    exact ⟨v, by simp⟩

def bindingEntry (kv : Bytes × Bytes) : Bytes := kv.1 ++ Bytes.byte '=' :: kv.2

theorem filterMap_entry?_bindingEntry {l : List (Bytes × Bytes)}
    (wellNamed : ∀ kv ∈ l, kv.1 ≠ [] ∧ Bytes.byte '=' ∉ kv.1) :
    (l.map bindingEntry).filterMap entry? = l := by
  induction l with
  | nil => rfl
  | cons kv rest ih =>
    obtain ⟨named, clean⟩ := wellNamed kv List.mem_cons_self
    have bound : entry? (bindingEntry kv) = some kv :=
      entry?_eq_some_iff.mpr ⟨named, rfl, clean⟩
    rw [List.map_cons, List.filterMap_cons_some bound,
      ih fun kv' member => wellNamed kv' (List.mem_cons_of_mem _ member)]

/-! ### Binding one name -/

theorem lookup_cons_eq_ite (k v name : Bytes) (rest : List (Bytes × Bytes)) :
    ((k, v) :: rest).lookup name = if name = k then some v else rest.lookup name := by
  by_cases named : name = k
  · simp [named]
  · rw [List.lookup_cons, beq_eq_false_iff_ne.mpr named, if_neg named]

theorem lookup_insertSorted (k v name : Bytes) (l : List (Bytes × Bytes)) :
    (insertSorted k v l).lookup name = if name = k then some v else l.lookup name := by
  induction l with
  | nil => simp [insertSorted]
  | cons entry rest ih =>
    obtain ⟨k', v'⟩ := entry
    by_cases same : k = k'
    · -- the old value of the name is replaced
      subst same
      by_cases named : name = k <;> simp [insertSorted, lookup_cons_eq_ite, named]
    · by_cases before : Bytes.lexLt k k' = true
      · simp [insertSorted, same, before, lookup_cons_eq_ite]
      · -- the name goes further on, past `k'`
        simp only [insertSorted, beq_iff_eq, same, if_false, before, Bool.false_eq_true,
          lookup_cons_eq_ite, ih]
        by_cases named : name = k
        · subst named
          simp [same]
        · simp [named]

theorem mem_insertSorted {k v : Bytes} {l : List (Bytes × Bytes)} {p : Bytes × Bytes}
    (member : p ∈ insertSorted k v l) : p = (k, v) ∨ p ∈ l := by
  induction l with
  | nil => simpa [insertSorted] using member
  | cons entry rest ih =>
    obtain ⟨k', v'⟩ := entry
    by_cases same : k = k'
    · subst same
      simp only [insertSorted, BEq.rfl, if_true, List.mem_cons] at member ⊢
      rcases member with rfl | member
      · exact .inl rfl
      · exact .inr (.inr member)
    · by_cases before : Bytes.lexLt k k' = true
      · simpa [insertSorted, same, before] using member
      · simp only [insertSorted, beq_iff_eq, same, if_false, before, Bool.false_eq_true,
          List.mem_cons] at member ⊢
        rcases member with rfl | member
        · exact .inr (.inl rfl)
        · rcases ih member with rfl | member
          · exact .inl rfl
          · exact .inr (.inr member)

theorem pairwise_insertSorted (k v : Bytes) {l : List (Bytes × Bytes)}
    (ordered : l.Pairwise fun a b => Bytes.lexLt a.1 b.1) :
    (insertSorted k v l).Pairwise fun a b => Bytes.lexLt a.1 b.1 := by
  induction l with
  | nil => simp [insertSorted]
  | cons entry rest ih =>
    obtain ⟨k', v'⟩ := entry
    obtain ⟨above, tail⟩ := List.pairwise_cons.mp ordered
    by_cases same : k = k'
    · subst same
      simpa [insertSorted] using List.pairwise_cons.mpr ⟨above, tail⟩
    · by_cases before : Bytes.lexLt k k' = true
      · simp only [insertSorted, beq_iff_eq, same, if_false, before, if_true]
        refine List.pairwise_cons.mpr ⟨?_, ordered⟩
        intro p member
        rcases List.mem_cons.mp member with rfl | member
        · exact before
        · exact Bytes.lexLt_trans before (above p member)
      · simp only [insertSorted, beq_iff_eq, same, if_false, before, Bool.false_eq_true]
        refine List.pairwise_cons.mpr ⟨?_, ih tail⟩
        intro p member
        rcases mem_insertSorted member with rfl | member
        · exact (Bytes.lexLt_or_lexLt same).resolve_left before
        · exact above p member

/-! ### Reading a list of entries -/

theorem ofEntries_append_bound {raw : List Bytes} {r k v : Bytes} (bound : entry? r = some (k, v)) :
    ofEntries (raw ++ [r]) = (ofEntries raw).insert k v := by
  simp [ofEntries, List.foldl_append, bound]

theorem ofEntries_append_malformed {raw : List Bytes} {r : Bytes} (malformed : entry? r = none) :
    ofEntries (raw ++ [r]) = ofEntries raw := by
  simp [ofEntries, List.foldl_append, malformed]

theorem ofEntries_erase_malformed (pre post : List Bytes) {r : Bytes} (malformed : entry? r = none) :
    ofEntries (pre ++ r :: post) = ofEntries (pre ++ post) := by
  simp [ofEntries, List.foldl_append, malformed]

theorem get?_ofEntries (raw : List Bytes) (name : Bytes) :
    (ofEntries raw).get? name = (raw.reverse.filterMap entry?).lookup name := by
  induction raw using List.reverseRecOn with
  | nil => rfl
  | append_singleton raw r ih =>
    rcases bound : entry? r with _ | ⟨k, v⟩
    · rw [ofEntries_append_malformed bound, ih]
      simp [bound]
    · rw [ofEntries_append_bound bound]
      simp only [get?, insert, lookup_insertSorted, List.reverse_append, List.reverse_cons,
        List.reverse_nil, List.nil_append, List.singleton_append, List.filterMap_cons, bound,
        lookup_cons_eq_ite]
      rw [← get?, ih]

theorem ordered_ofEntries (raw : List Bytes) : (ofEntries raw).Ordered := by
  induction raw using List.reverseRecOn with
  | nil => exact List.Pairwise.nil
  | append_singleton raw r ih =>
    rcases bound : entry? r with _ | ⟨k, v⟩
    · rwa [ofEntries_append_malformed bound]
    · rw [ofEntries_append_bound bound]
      exact pairwise_insertSorted k v ih

theorem lookup_filterMap_entry?_eq_some_iff (entries : List Bytes) {k v : Bytes} (named : k ≠ [])
    (clean : Bytes.byte '=' ∉ k) :
    (entries.filterMap entry?).lookup k = some v ↔
      entries.find? ((k ++ [Bytes.byte '=']).isPrefixOf ·) = some (k ++ Bytes.byte '=' :: v) := by
  induction entries with
  | nil => simp
  | cons r rest ih =>
    rcases bound : entry? r with _ | ⟨k', v'⟩
    · -- a skipped entry does not start with the name either
      have unnamed : (k ++ [Bytes.byte '=']).isPrefixOf r = false := by
        rw [Bool.eq_false_iff, ne_eq, isPrefixOf_name_iff named clean]
        rintro ⟨w, binds⟩
        rw [bound] at binds
        cases binds
      rw [List.filterMap_cons_none bound, List.find?_cons_of_neg (by simp [unnamed]), ih]
    · rw [List.filterMap_cons_some bound, lookup_cons_eq_ite]
      by_cases same : k = k'
      · subst same
        obtain ⟨-, rfl, -⟩ := entry?_eq_some_iff.mp bound
        rw [if_pos rfl, List.find?_cons_of_pos (by simp)]
        simp
      · have unnamed : (k ++ [Bytes.byte '=']).isPrefixOf r = false := by
          rw [Bool.eq_false_iff, ne_eq, isPrefixOf_name_iff named clean]
          rintro ⟨w, binds⟩
          rw [bound] at binds
          exact same (Prod.mk.inj (Option.some.inj binds)).1.symm
        rw [if_neg same, List.find?_cons_of_neg (by simp [unnamed]), ih]

theorem lookup_filterMap_entry?_of_malformed_name (entries : List Bytes) {k : Bytes}
    (malformed : k = [] ∨ Bytes.byte '=' ∈ k) : (entries.filterMap entry?).lookup k = none := by
  rw [List.lookup_eq_none_iff]
  intro p member
  obtain ⟨r, -, bound⟩ := List.mem_filterMap.mp member
  obtain ⟨named, -, clean⟩ := entry?_eq_some_iff.mp bound
  rw [bne_iff_ne]
  rintro rfl
  rcases malformed with empty | holds
  · exact named empty
  · exact clean holds

theorem get?_ofEntries_eq_some_iff (raw : List Bytes) (k v : Bytes) :
    (ofEntries raw).get? k = some v ↔ k ≠ [] ∧ Bytes.byte '=' ∉ k ∧
      raw.reverse.find? ((k ++ [Bytes.byte '=']).isPrefixOf ·) = some (k ++ Bytes.byte '=' :: v) := by
  rw [get?_ofEntries]
  by_cases wellNamed : k ≠ [] ∧ Bytes.byte '=' ∉ k
  · rw [lookup_filterMap_entry?_eq_some_iff _ wellNamed.1 wellNamed.2]
    simp [wellNamed]
  · have malformed : k = [] ∨ Bytes.byte '=' ∈ k := by
      by_cases empty : k = []
      · exact .inl empty
      · exact .inr (by simpa [empty] using wellNamed)
    rw [lookup_filterMap_entry?_of_malformed_name _ malformed]
    simp only [reduceCtorEq, false_iff, not_and]
    intro named clean
    exact absurd ⟨named, clean⟩ wellNamed

/-! ### Ordered environments -/

theorem lookup_eq_some_iff_mem {l : List (Bytes × Bytes)} (distinct : (l.map Prod.fst).Nodup)
    {k v : Bytes} : l.lookup k = some v ↔ (k, v) ∈ l := by
  induction l with
  | nil => simp
  | cons entry rest ih =>
    obtain ⟨k', v'⟩ := entry
    obtain ⟨fresh, restDistinct⟩ := List.nodup_cons.mp distinct
    rw [lookup_cons_eq_ite, List.mem_cons]
    by_cases same : k = k'
    · subst same
      -- the name is bound nowhere in the rest
      have unbound : (k, v) ∉ rest := fun member => fresh (List.mem_map.mpr ⟨_, member, rfl⟩)
      simp [unbound, eq_comm]
    · simp [same, ih restDistinct]

theorem lookup_eq_of_perm {l l' : List (Bytes × Bytes)} (perm : l.Perm l')
    (distinct : (l.map Prod.fst).Nodup) (k : Bytes) : l.lookup k = l'.lookup k := by
  have distinct' : (l'.map Prod.fst).Nodup := (perm.map Prod.fst).nodup_iff.mp distinct
  apply Option.ext
  intro v
  rw [lookup_eq_some_iff_mem distinct, lookup_eq_some_iff_mem distinct']
  exact perm.mem_iff

theorem nodup_of_pairwise {l : List (Bytes × Bytes)}
    (ordered : l.Pairwise fun a b => Bytes.lexLt a.1 b.1) : (l.map Prod.fst).Nodup := by
  rw [List.Nodup, List.pairwise_map]
  refine ordered.imp fun {a b} below same => ?_
  rw [same, Bytes.lexLt_irrefl] at below
  cases below

theorem lookup_eq_none_of_below {l : List (Bytes × Bytes)} {k : Bytes}
    (below : ∀ p ∈ l, Bytes.lexLt k p.1 = true) : l.lookup k = none := by
  rw [List.lookup_eq_none_iff]
  intro p member
  rw [bne_iff_ne]
  rintro rfl
  have self := below p member
  rw [Bytes.lexLt_irrefl] at self
  cases self

theorem lookup_eq_none_of_lexLt_head {q : Bytes × Bytes} {rest : List (Bytes × Bytes)} {k : Bytes}
    (ordered : (q :: rest).Pairwise fun a b => Bytes.lexLt a.1 b.1)
    (below : Bytes.lexLt k q.1 = true) : (q :: rest).lookup k = none :=
  lookup_eq_none_of_below fun r member => by
    rcases List.mem_cons.mp member with rfl | member
    · exact below
    · exact Bytes.lexLt_trans below ((List.pairwise_cons.mp ordered).1 r member)

theorem eq_of_pairwise_of_lookup {l l' : List (Bytes × Bytes)}
    (ordered : l.Pairwise fun a b => Bytes.lexLt a.1 b.1)
    (ordered' : l'.Pairwise fun a b => Bytes.lexLt a.1 b.1)
    (same : ∀ k, l.lookup k = l'.lookup k) : l = l' := by
  induction l generalizing l' with
  | nil =>
    cases l' with
    | nil => rfl
    | cons q rest' => simpa using (same q.1).symm
  | cons p rest ih =>
    cases l' with
    | nil => simpa using same p.1
    | cons q rest' =>
      obtain ⟨k, v⟩ := p
      obtain ⟨k', v'⟩ := q
      by_cases sameName : k = k'
      · -- the first bindings agree, and so do the rest, where neither binds that name
        subst sameName
        have sameValue : v = v' := by
          simpa [lookup_cons_eq_ite] using same k
        have sameRest : ∀ name, rest.lookup name = rest'.lookup name := by
          intro name
          by_cases first : name = k
          · subst first
            rw [lookup_eq_none_of_below (List.pairwise_cons.mp ordered).1,
              lookup_eq_none_of_below (List.pairwise_cons.mp ordered').1]
          · simpa [lookup_cons_eq_ite, first] using same name
        rw [sameValue, ih (List.pairwise_cons.mp ordered).2 (List.pairwise_cons.mp ordered').2 sameRest]
      · -- the smaller of the two first names is bound in one list only
        exfalso
        rcases Bytes.lexLt_or_lexLt sameName with before | after
        · have found := same k
          rw [lookup_eq_none_of_lexLt_head ordered' before, lookup_cons_eq_ite, if_pos rfl] at found
          cases found
        · have found := same k'
          rw [lookup_eq_none_of_lexLt_head ordered after, lookup_cons_eq_ite, if_pos rfl] at found
          cases found

theorem eq_of_ordered {e e' : Environ} (ordered : e.Ordered) (ordered' : e'.Ordered)
    (same : ∀ k, e.get? k = e'.get? k) : e = e' := by
  obtain ⟨entries⟩ := e
  obtain ⟨entries'⟩ := e'
  exact congrArg Environ.mk (eq_of_pairwise_of_lookup ordered ordered' same)

/-- Reading `NAME=value` entries binds each well-formed name to its last entry's value, so an
environment written out in any order reads back as itself. -/
theorem ofEntries_binds_last_entry (raw : List Bytes) :
    (∀ k v : Bytes, (ofEntries raw).get? k = some v ↔ k ≠ [] ∧ Bytes.byte '=' ∉ k ∧
      raw.reverse.find? ((k ++ [Bytes.byte '=']).isPrefixOf ·) = some (k ++ Bytes.byte '=' :: v)) ∧
    (∀ (pre post : List Bytes) (r : Bytes), raw = pre ++ r :: post →
      (Bytes.byte '=' ∉ r ∨ r.head? = some (Bytes.byte '=')) → ofEntries raw = ofEntries (pre ++ post)) ∧
    (∀ M : Environ, M.Ordered → (∀ kv ∈ M.toList, kv.1 ≠ [] ∧ Bytes.byte '=' ∉ kv.1) →
      raw.Perm (M.toList.map bindingEntry) → ofEntries raw = M) ∧
    (∀ raw' : List Bytes, raw.Perm raw' → ((raw.filterMap entry?).map Prod.fst).Nodup →
      ofEntries raw = ofEntries raw') := by
  refine ⟨get?_ofEntries_eq_some_iff raw, ?_, ?_, ?_⟩
  · rintro pre post r rfl malformed
    exact ofEntries_erase_malformed pre post (entry?_eq_none_iff.mpr malformed)
  · intro M ordered wellNamed enumerates
    -- the entries read from the list are the bindings of the environment, in another order
    have readBack : (raw.reverse.filterMap entry?).Perm M.toList := by
      have perm := (List.reverse_perm raw).trans enumerates
      rw [← filterMap_entry?_bindingEntry wellNamed]
      exact perm.filterMap entry?
    refine eq_of_ordered (ordered_ofEntries raw) ordered fun k => ?_
    rw [get?_ofEntries, get?]
    exact (lookup_eq_of_perm readBack.symm (nodup_of_pairwise ordered) k).symm
  · intro raw' perm distinct
    have readBoth : (raw.reverse.filterMap entry?).Perm (raw'.reverse.filterMap entry?) :=
      ((List.reverse_perm raw).trans (perm.trans (List.reverse_perm raw').symm)).filterMap entry?
    have distinctRead : ((raw.reverse.filterMap entry?).map Prod.fst).Nodup := by
      rw [List.filterMap_reverse, List.map_reverse]
      exact (List.reverse_perm _).nodup_iff.mpr distinct
    refine eq_of_ordered (ordered_ofEntries raw) (ordered_ofEntries raw') fun k => ?_
    rw [get?_ofEntries, get?_ofEntries]
    exact lookup_eq_of_perm readBoth distinctRead k

/-- A name given twice takes its last value, past entries without `=` or with an empty name,
and two entries with different names read the same in either order. -/
theorem ofEntries_binds_last_entry_repeated :
    (ofEntries [Bytes.ofString "K=x=y", Bytes.ofString "NOEQUALS", Bytes.ofString "=V",
        Bytes.ofString "K=z"]).get? (Bytes.ofString "K") = some (Bytes.ofString "z") ∧
      ofEntries [Bytes.ofString "A=1", Bytes.ofString "B=2"] =
        ofEntries [Bytes.ofString "B=2", Bytes.ofString "A=1"] := by
  refine ⟨?_, ?_⟩
  · refine ((ofEntries_binds_last_entry _).1 _ _).mpr ⟨by decide +kernel, by decide +kernel, ?_⟩
    decide +kernel
  · exact (ofEntries_binds_last_entry _).2.2.2 _ (List.Perm.swap _ _ []) (by decide +kernel)

end Environ

end ProcessTitle
