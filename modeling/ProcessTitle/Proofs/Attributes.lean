import Mathlib.Data.List.Forall2
import ProcessTitle.Config.Telemetry
import ProcessTitle.Proofs.Environment
import ProcessTitle.Proofs.Decoding

/-!
# Resource attributes
-/

namespace ProcessTitle

namespace Bytes

/-! ### Splitting at one byte -/

theorem indexOf?_go_singleton (b : UInt8) (s : Bytes) (i : Nat) :
    indexOf?.go [b] s i = (s.findIdx? (· == b)).map (· + i) := by
  induction s generalizing i with
  | nil => rfl
  | cons c s ih =>
    rw [indexOf?.go, List.findIdx?_cons]
    by_cases found : c = b
    · simp [found]
    · have shifted : ((fun x => x + i) ∘ fun x => x + 1) = fun x => x + (i + 1) := by
        funext x
        simp only [Function.comp_apply]
        omega
      simp [found, Ne.symm found, ih, shifted]

theorem indexOf?_singleton (b : UInt8) (s : Bytes) : indexOf? s [b] = s.findIdx? (· == b) := by
  rw [indexOf?, indexOf?_go_singleton]
  simp

theorem cut_of_findIdx? {b : UInt8} {s : Bytes} {m : Nat} (found : s.findIdx? (· == b) = some m) :
    cut b s = some (s.take m, s.drop (m + 1)) := by
  simp [cut, found]

theorem findIdx?_eq_none_iff_not_mem {b : UInt8} {s : Bytes} :
    s.findIdx? (· == b) = none ↔ b ∉ s := by
  rw [← cut_eq_none_iff]
  unfold cut
  cases s.findIdx? (· == b) <;> simp

theorem count_drop_of_findIdx? {b : UInt8} {rest : Bytes} {m : Nat}
    (found : rest.findIdx? (· == b) = some m) :
    List.count b rest = List.count b (rest.drop (m + 1)) + 1 := by
  obtain ⟨split, clean⟩ := cut_eq_some_iff.mp (cut_of_findIdx? found)
  conv_lhs => rw [split]
  rw [List.count_append, List.count_eq_zero.mpr clean, List.count_cons_self]
  omega

theorem count_go_singleton (b : UInt8) (fuel : Nat) (rest : Bytes) (n : Nat)
    (room : List.count b rest ≤ fuel) : count.go [b] fuel rest n = n + List.count b rest := by
  induction fuel generalizing rest n with
  | zero =>
    rw [count.go, Nat.le_zero.mp room, Nat.add_zero]
  | succ fuel ih =>
    rw [count.go, indexOf?_singleton]
    rcases found : rest.findIdx? (· == b) with _ | m
    · rw [List.count_eq_zero.mpr (findIdx?_eq_none_iff_not_mem.mp found), Nat.add_zero]
      rfl
    · have counted := count_drop_of_findIdx? found
      dsimp only
      rw [List.length_singleton, ih _ _ (by omega), counted]
      omega

theorem count_singleton (s : Bytes) (b : UInt8) : count s [b] = List.count b s := by
  rw [count, if_neg (by simp), count_go_singleton b _ s 0 (List.count_le_length), Nat.zero_add]

theorem cutPieces_singleton (s : Bytes) (b : UInt8) (k : Nat) (rest : Bytes)
    (room : List.count b rest ≤ k) : cutPieces s [b] 0 k rest = rest.splitOn b := by
  induction k generalizing rest with
  | zero =>
    rw [cutPieces, List.splitOn_eq_singleton (List.count_eq_zero.mp (Nat.le_zero.mp room))]
  | succ k ih =>
    rw [cutPieces, indexOf?_singleton]
    rcases found : rest.findIdx? (· == b) with _ | m
    · rw [List.splitOn_eq_singleton (findIdx?_eq_none_iff_not_mem.mp found)]
    · obtain ⟨split, clean⟩ := cut_eq_some_iff.mp (cut_of_findIdx? found)
      have counted := count_drop_of_findIdx? found
      dsimp only
      rw [Nat.add_zero, List.length_singleton, ih _ (by omega)]
      conv_rhs => rw [split]
      rw [List.splitOn_append_cons_self_of_not_mem clean]

theorem split_singleton (s : Bytes) (b : UInt8) : split s [b] = s.splitOn b := by
  have fits : List.count b s + 1 ≤ s.length + 1 := Nat.succ_le_succ List.count_le_length
  simp only [split, splitWith, count_singleton]
  simp [Nat.min_eq_left fits, cutPieces_singleton s b _ s (Nat.le_refl _)]

end Bytes

namespace Config

namespace TelemetrySettings

/-! ### Reading one piece -/

/-- The attribute one comma-separated piece gives: the trimmed piece cut at its first `=`, with
the key and the value trimmed, unless the key is empty. -/
def attributeOf (piece : Bytes) : Option (Bytes × Bytes) :=
  match Bytes.cut 61 (Blank.trim piece) with
  | none => none
  | some (k, v) =>
    let key := Blank.trim k
    if key.isEmpty then none else some (key, Blank.trim v)

theorem attributeOf_nil : attributeOf [] = none := by
  rw [attributeOf, Blank.trim_nil]
  rfl

theorem attributes_eq_filterMap (c : TelemetrySettings) :
    c.attributes = (c.resourceAttributes.splitOn (Bytes.byte ',')).filterMap attributeOf := by
  unfold attributes
  split
  · next empty =>
    rw [List.isEmpty_iff.mp empty, List.splitOn_nil, List.filterMap_cons, List.filterMap_nil,
      attributeOf_nil]
  · rw [Bytes.split_singleton]
    rfl

theorem attributeOf_eq_some_iff (piece k' v' : Bytes) :
    attributeOf piece = some (k', v') ↔ ∃ k v, Blank.trim piece = k ++ Bytes.byte '=' :: v ∧
      Bytes.byte '=' ∉ k ∧ Blank.trim k ≠ [] ∧ k' = Blank.trim k ∧ v' = Blank.trim v := by
  unfold attributeOf
  rcases cutAt : Bytes.cut 61 (Blank.trim piece) with _ | ⟨k, v⟩
  · -- no `=` in the trimmed piece, so it is not written around one
    have noSign := Bytes.cut_eq_none_iff.mp cutAt
    simp only [reduceCtorEq, false_iff, not_exists, not_and]
    intro k v written
    rw [written] at noSign
    exact absurd (List.mem_append_right k List.mem_cons_self) noSign
  · -- a key free of `=` can only end at the first one
    obtain ⟨written, clean⟩ := Bytes.cut_eq_some_iff.mp cutAt
    dsimp only
    constructor
    · intro found
      by_cases emptyKey : Blank.trim k = []
      · rw [emptyKey] at found
        simp at found
      · rw [if_neg (by simpa using emptyKey)] at found
        obtain ⟨rfl, rfl⟩ := Prod.mk.inj (Option.some.inj found)
        exact ⟨k, v, written, clean, emptyKey, rfl, rfl⟩
    · rintro ⟨k2, v2, written2, clean2, nonempty, rfl, rfl⟩
      have same : Bytes.cut 61 (Blank.trim piece) = some (k2, v2) :=
        Bytes.cut_eq_some_iff.mpr ⟨written2, clean2⟩
      rw [cutAt] at same
      obtain ⟨rfl, rfl⟩ := Prod.mk.inj (Option.some.inj same)
      rw [if_neg (by simpa using nonempty)]

example : (TelemetrySettings.mk [] (Bytes.ofString "team=infra, env = prod,malformed,=novalue") [] []).attributes =
    [(Bytes.ofString "team", Bytes.ofString "infra"), (Bytes.ofString "env", Bytes.ofString "prod")] := by
  decide +kernel

/-! ### Written pairs -/

/-- A pair that can be written as `key=value`: the key is not empty and holds no `,` or `=`, the
value holds no `,`, and neither starts or ends with a blank character. -/
def Writable (kv : Bytes × Bytes) : Prop :=
  kv.1 ≠ [] ∧ Bytes.byte ',' ∉ kv.1 ∧ Bytes.byte '=' ∉ kv.1 ∧ Bytes.byte ',' ∉ kv.2 ∧
    Blank.trim kv.1 = kv.1 ∧ Blank.trim kv.2 = kv.2

/-- `piece` writes the pair `kv` as `key=value`, with blank characters around it and on either
side of the `=`. -/
def Written (kv : Bytes × Bytes) (piece : Bytes) : Prop :=
  ∃ w1 w2 w3 w4 : List Char, (∀ c ∈ w1 ++ w2 ++ w3 ++ w4, Blank.isBlank c = true) ∧
    piece = Utf8.encode w1 ++ kv.1 ++ Utf8.encode w2 ++
      Bytes.byte '=' :: (Utf8.encode w3 ++ kv.2 ++ Utf8.encode w4)

theorem trim_written {k v : Bytes} {w1 w2 w3 w4 : List Char}
    (blank : ∀ c ∈ w1 ++ w2 ++ w3 ++ w4, Blank.isBlank c = true) (nonempty : k ≠ [])
    (trimK : Blank.trim k = k) (trimV : Blank.trim v = v) :
    Blank.trim (Utf8.encode w1 ++ k ++ Utf8.encode w2 ++
        Bytes.byte '=' :: (Utf8.encode w3 ++ v ++ Utf8.encode w4)) =
      k ++ Utf8.encode w2 ++ Bytes.byte '=' :: (if v = [] then [] else Utf8.encode w3 ++ v) := by
  simp only [List.forall_mem_append] at blank
  obtain ⟨⟨⟨blank1, blank2⟩, blank3⟩, blank4⟩ := blank
  -- an empty value leaves its padding on the right of the `=` to be trimmed with the rest
  have around : Utf8.encode w1 ++ k ++ Utf8.encode w2 ++
      Bytes.byte '=' :: (Utf8.encode w3 ++ v ++ Utf8.encode w4) =
      Utf8.encode w1 ++ (k ++ Utf8.encode w2 ++
        Bytes.byte '=' :: (if v = [] then [] else Utf8.encode w3 ++ v)) ++
          Utf8.encode (if v = [] then w3 ++ w4 else w4) := by
    by_cases emptyValue : v = [] <;> simp [emptyValue, Utf8.encode_append]
  have blankRight : ∀ c ∈ (if v = [] then w3 ++ w4 else w4), Blank.isBlank c = true := by
    split
    · exact List.forall_mem_append.mpr ⟨blank3, blank4⟩
    · exact blank4
  rw [around, Blank.trim_encode_around _ _ _ (List.forall_mem_append.mpr ⟨blank1, blankRight⟩),
    Blank.trim_eq_self_iff]
  -- the pieces run from the key's first piece to the value's last, or to the `=`
  have sign : ∀ R : Bytes, Bytes.byte '=' :: R = String.utf8EncodeChar '=' ++ R := fun _ => rfl
  have signBoundary : ∀ R : Bytes, ∀ x ∈ (Bytes.byte '=' :: R).head?, Utf8.isCont x = false := by
    intro R x first
    obtain rfl : Bytes.byte '=' = x := Option.some.inj (Option.mem_def.mp first)
    rfl
  rw [Utf8.decode_append _ _ (signBoundary _),
    Utf8.decode_append_encode, sign, Utf8.decode_utf8EncodeChar_append, List.append_assoc]
  apply Blank.unpadded_append (Utf8.decode_ne_nil nonempty) (by simp)
    ((Blank.trim_eq_self_iff k).mp trimK).1
  rw [List.getLast?_append_of_ne_nil _ (List.cons_ne_nil _ _)]
  by_cases emptyValue : v = []
  · rw [if_pos emptyValue, Utf8.decode_nil]
    intro p last
    obtain rfl : Utf8Piece.char '=' = p := Option.some.inj (Option.mem_def.mp last)
    rfl
  · rw [if_neg emptyValue, Utf8.decode_encode_append, ← List.cons_append,
      List.getLast?_append_of_ne_nil _ (Utf8.decode_ne_nil emptyValue)]
    exact ((Blank.trim_eq_self_iff v).mp trimV).2

theorem attributeOf_written {kv : Bytes × Bytes} {piece : Bytes} (writable : Writable kv)
    (written : Written kv piece) : attributeOf piece = some kv := by
  obtain ⟨k, v⟩ := kv
  obtain ⟨nonempty, -, noSign, -, trimK, trimV⟩ := writable
  obtain ⟨w1, w2, w3, w4, blank, rfl⟩ := written
  have blank2 : ∀ c ∈ w2, Blank.isBlank c = true := fun c mem => blank c (by simp [mem])
  have blank3 : ∀ c ∈ w3, Blank.isBlank c = true := fun c mem => blank c (by simp [mem])
  -- the key ends at the first `=`, since neither it nor blank characters hold one
  have cutAt : Bytes.cut 61 (Blank.trim (Utf8.encode w1 ++ k ++ Utf8.encode w2 ++
      Bytes.byte '=' :: (Utf8.encode w3 ++ v ++ Utf8.encode w4))) =
      some (k ++ Utf8.encode w2, if v = [] then [] else Utf8.encode w3 ++ v) := by
    rw [trim_written blank nonempty trimK trimV]
    refine Bytes.cut_eq_some_iff.mpr ⟨rfl, fun inKey => ?_⟩
    rcases List.mem_append.mp inKey with inK | inPadding
    · exact noSign inK
    · exact Blank.not_mem_encode_of_isBlank blank2 ⟨by decide, by decide⟩ inPadding
  have key : Blank.trim (k ++ Utf8.encode w2) = k := by
    have around := Blank.trim_encode_around [] k w2 (by simpa using blank2)
    rwa [Utf8.encode_nil, List.nil_append, trimK] at around
  have value : Blank.trim (if v = [] then [] else Utf8.encode w3 ++ v) = v := by
    by_cases emptyValue : v = []
    · rw [if_pos emptyValue, Blank.trim_nil, emptyValue]
    · rw [if_neg emptyValue]
      have around := Blank.trim_encode_around w3 v [] (by simpa using blank3)
      rwa [Utf8.encode_nil, List.append_nil, trimV] at around
  unfold attributeOf
  rw [cutAt]
  dsimp only
  rw [key, value, if_neg (by simpa using nonempty)]

theorem comma_not_mem_of_written {kv : Bytes × Bytes} {piece : Bytes} (writable : Writable kv)
    (written : Written kv piece) : Bytes.byte ',' ∉ piece := by
  obtain ⟨-, commaK, -, commaV, -, -⟩ := writable
  obtain ⟨w1, w2, w3, w4, blank, rfl⟩ := written
  have padding : ∀ w : List Char, (∀ c ∈ w, Blank.isBlank c = true) →
      Bytes.byte ',' ∉ Utf8.encode w := fun w blankW =>
    Blank.not_mem_encode_of_isBlank blankW ⟨by decide, by decide⟩
  simp only [List.forall_mem_append] at blank
  obtain ⟨⟨⟨blank1, blank2⟩, blank3⟩, blank4⟩ := blank
  simp only [List.mem_append, List.mem_cons, not_or]
  exact ⟨⟨⟨padding w1 blank1, commaK⟩, padding w2 blank2⟩, by decide,
    ⟨padding w3 blank3, commaV⟩, padding w4 blank4⟩

theorem filterMap_attributeOf_written {ps : List (Bytes × Bytes)} {pieces : List Bytes}
    (writable : ∀ kv ∈ ps, Writable kv) (written : List.Forall₂ Written ps pieces) :
    pieces.filterMap attributeOf = ps := by
  induction written with
  | nil => rfl
  | @cons kv piece ps pieces first rest ih =>
    rw [List.filterMap_cons, attributeOf_written (writable kv List.mem_cons_self) first,
      ih (fun kv mem => writable kv (List.mem_cons_of_mem _ mem))]

theorem comma_not_mem_of_forall₂ {ps : List (Bytes × Bytes)} {pieces : List Bytes}
    (writable : ∀ kv ∈ ps, Writable kv) (written : List.Forall₂ Written ps pieces) :
    ∀ piece ∈ pieces, Bytes.byte ',' ∉ piece := by
  induction written with
  | nil => simp
  | @cons kv piece ps pieces first rest ih =>
    intro piece' mem
    rcases List.mem_cons.mp mem with rfl | later
    · exact comma_not_mem_of_written (writable kv List.mem_cons_self) first
    · exact ih (fun kv mem => writable kv (List.mem_cons_of_mem _ mem)) piece' later

/-- Pairs written `key=value`, with blanks around each piece and each `=`, and joined by commas,
read back as exactly those pairs. -/
theorem attributes_read_written_pairs (c : TelemetrySettings) :
    c.attributes = (c.resourceAttributes.splitOn (Bytes.byte ',')).filterMap attributeOf ∧
    (∀ piece k' v' : Bytes, attributeOf piece = some (k', v') ↔
      ∃ k v, Blank.trim piece = k ++ Bytes.byte '=' :: v ∧ Bytes.byte '=' ∉ k ∧
        Blank.trim k ≠ [] ∧ k' = Blank.trim k ∧ v' = Blank.trim v) ∧
    (∀ (ps : List (Bytes × Bytes)) (pieces : List Bytes), (∀ kv ∈ ps, Writable kv) →
      List.Forall₂ Written ps pieces → c.resourceAttributes = Bytes.join [Bytes.byte ','] pieces →
      c.attributes = ps) := by
  refine ⟨attributes_eq_filterMap c, attributeOf_eq_some_iff, ?_⟩
  intro ps pieces writable written text
  rw [attributes_eq_filterMap, text]
  by_cases noPieces : pieces = []
  · -- nothing written: the empty text has one empty piece, which gives nothing
    subst noPieces
    rw [List.forall₂_nil_right_iff.mp written]
    show List.filterMap attributeOf (List.splitOn _ []) = []
    rw [List.splitOn_nil, List.filterMap_cons, attributeOf_nil, List.filterMap_nil]
  · rw [Bytes.join, List.splitOn_intercalate _ (comma_not_mem_of_forall₂ writable written) noPieces,
      filterMap_attributeOf_written writable written]

/-- `team=infra, env = prod` reads as its two pairs, with the blanks around the second piece
and around its `=` trimmed away. -/
theorem attributes_read_written_pairs_padded :
    (TelemetrySettings.mk [] (Bytes.ofString "team=infra, env = prod") [] []).attributes =
      [(Bytes.ofString "team", Bytes.ofString "infra"), (Bytes.ofString "env", Bytes.ofString "prod")] := by
  have writable : ∀ kv ∈ [(Bytes.ofString "team", Bytes.ofString "infra"),
      (Bytes.ofString "env", Bytes.ofString "prod")], Writable kv := by
    unfold Writable
    decide +kernel
  have first : Written (Bytes.ofString "team", Bytes.ofString "infra") (Bytes.ofString "team=infra") :=
    ⟨[], [], [], [], by simp, by decide +kernel⟩
  have spaces : ∀ c ∈ [' '] ++ [' '] ++ [' '] ++ ([] : List Char), Blank.isBlank c = true := by
    intro c mem
    obtain rfl : c = ' ' := by simpa using mem
    rfl
  have second : Written (Bytes.ofString "env", Bytes.ofString "prod") (Bytes.ofString " env = prod") :=
    ⟨[' '], [' '], [' '], [], spaces, by decide +kernel⟩
  exact (attributes_read_written_pairs _).2.2 _ _ writable (.cons first (.cons second .nil))
    (by decide +kernel)

end TelemetrySettings

end Config

end ProcessTitle
