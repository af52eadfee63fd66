import Mathlib.Data.List.TakeWhile
import ProcessTitle.Proc.Record

/-!
# Reading command-line buffers
-/

namespace ProcessTitle

namespace Bytes

theorem trimRight_append_of_forall (b : UInt8) (s t : Bytes) (pad : ∀ c ∈ t, c = b) :
    trimRight b (s ++ t) = trimRight b s := by
  have dropped : ∀ c ∈ t.reverse, (c == b) = true := fun c member => by
    simp [pad c (List.mem_reverse.mp member)]
  simp only [trimRight, List.reverse_append, List.dropWhile_append_of_pos dropped]

theorem trimRight_of_getLast? {b : UInt8} {s : Bytes} (last : s.getLast? ≠ some b) :
    trimRight b s = s := by
  rcases List.eq_nil_or_concat s with rfl | ⟨init, c, rfl⟩
  · rfl
  · have different : c ≠ b := by simpa using last
    simp [trimRight, different]

theorem join_splitOnByte (b sep : UInt8) (s : Bytes) :
    join [sep] (splitOnByte b s) = s.map fun c => if c = b then sep else c := by
  induction s with
  | nil => rfl
  | cons c s ih =>
    simp only [join, splitOnByte] at ih ⊢
    rw [List.splitOn_cons_eq_if_modifyHead]
    by_cases separator : c = b
    · simp [separator, List.intercalate_cons_of_ne_nil, ih]
    · -- the first piece grows by `c`; open it to see the join
      obtain ⟨first, pieces, split⟩ := List.exists_cons_of_ne_nil (List.splitOn_ne_nil b s)
      rw [split] at ih
      simp [separator, split, ih]

theorem trimRight_eq_nil_iff (b : UInt8) (s : Bytes) : trimRight b s = [] ↔ ∀ c ∈ s, c = b := by
  simp [trimRight, List.dropWhile_eq_nil_iff]

theorem getLast?_trimRight_ne (b : UInt8) (s : Bytes) : (trimRight b s).getLast? ≠ some b := by
  have kept := List.head?_dropWhile_not (· == b) s.reverse
  rw [trimRight, List.getLast?_reverse]
  intro ends
  rw [ends] at kept
  simp at kept

theorem not_mem_of_mem_splitOnByte {b : UInt8} {s part : Bytes} (piece : part ∈ splitOnByte b s) :
    b ∉ part := by
  induction s generalizing part with
  | nil =>
    rw [splitOnByte, List.splitOn_nil, List.mem_singleton] at piece
    simp [piece]
  | cons c s ih =>
    rw [splitOnByte, List.splitOn_cons_eq_if_modifyHead] at piece
    by_cases separator : c = b
    · simp only [separator, BEq.rfl, if_true, List.mem_cons] at piece
      rcases piece with rfl | piece
      · simp
      · exact ih piece
    · -- `c` joins the first piece of the rest
      obtain ⟨first, pieces, split⟩ := List.exists_cons_of_ne_nil (List.splitOn_ne_nil b s)
      have firstClean : b ∉ first := ih (by rw [splitOnByte, split]; exact List.mem_cons_self)
      simp only [separator, beq_iff_eq, if_false, split, List.modifyHead_cons,
        List.mem_cons] at piece
      rcases piece with rfl | piece
      · simp [firstClean, Ne.symm separator]
      · exact ih (by rw [splitOnByte, split]; exact List.mem_cons_of_mem _ piece)

theorem join_append_nil (x : UInt8) (parts : List Bytes) (nonempty : parts ≠ []) :
    join [x] (parts ++ [[]]) = join [x] parts ++ [x] := by
  induction parts with
  | nil => contradiction
  | cons part parts ih =>
    cases parts with
    | nil => simp [join]
    | cons next rest =>
      have rest_joined := ih (List.cons_ne_nil _ _)
      simp only [join, List.cons_append, List.intercalate_cons_cons] at rest_joined ⊢
      rw [rest_joined]
      simp

theorem getLast?_splitOnByte_ne_nil {b : UInt8} {s : Bytes} (filled : s ≠ [])
    (unterminated : s.getLast? ≠ some b) : (splitOnByte b s).getLast? ≠ some [] := by
  intro ends
  obtain ⟨init, pieces⟩ := List.getLast?_eq_some_iff.mp ends
  have rejoined : join [b] (splitOnByte b s) = s := List.intercalate_splitOn b
  rw [pieces] at rejoined
  cases init with
  | nil => exact filled (by simpa [join] using rejoined.symm)
  | cons part rest =>
    rw [join_append_nil b _ (List.cons_ne_nil _ _)] at rejoined
    exact unterminated (by rw [← rejoined]; simp)

theorem map_join (f : UInt8 → UInt8) (x : UInt8) (parts : List Bytes) :
    (join [x] parts).map f = join [f x] (parts.map (List.map f)) := by
  induction parts with
  | nil => rfl
  | cons part parts ih =>
    cases parts with
    | nil => simp [join]
    | cons next parts => simp_all [join]

theorem join_append_sep (x : UInt8) (part : Bytes) (parts : List Bytes) :
    join [x] (part :: parts) ++ [x] = (part :: parts).flatMap (· ++ [x]) := by
  induction parts generalizing part with
  | nil => simp [join]
  | cons next parts ih =>
    have step : join [x] (part :: next :: parts) = part ++ [x] ++ join [x] (next :: parts) := by
      simp [join]
    rw [step, List.append_assoc, ih]
    simp

theorem length_join (x y : UInt8) (parts : List Bytes) :
    (join [x] parts).length = (join [y] parts).length := by
  induction parts with
  | nil => rfl
  | cons part parts ih => cases parts <;> simp_all [join]

theorem getLast?_join (x : UInt8) (parts : List Bytes) (last : Bytes) (nonempty : last ≠ [])
    (ends : parts.getLast? = some last) : (join [x] parts).getLast? = last.getLast? := by
  induction parts with
  | nil => cases ends
  | cons part parts ih =>
    cases parts with
    | nil => simp_all [join]
    | cons next rest =>
      have tail := ih (by simpa using ends)
      have step : join [x] (part :: next :: rest) = part ++ [x] ++ join [x] (next :: rest) := by
        simp [join]
      obtain ⟨b, lastByte⟩ : ∃ b, last.getLast? = some b := by
        cases ending : last.getLast? with
        | none => exact absurd (List.getLast?_eq_none_iff.mp ending) nonempty
        | some b => exact ⟨b, rfl⟩
      rw [step, List.getLast?_append, tail, lastByte, Option.some_or]

end Bytes

namespace Cmdline

theorem args_eq (raw : Bytes) :
    args raw = if Bytes.trimRight Bytes.nul raw = [] then []
      else Bytes.splitOnByte Bytes.nul (Bytes.trimRight Bytes.nul raw) := by
  simp only [args, split]
  by_cases empty : Bytes.trimRight Bytes.nul raw = [] <;> simp [empty]

theorem full_eq (raw : Bytes) :
    full raw = (Bytes.trimRight Bytes.nul raw).map fun c => if c = Bytes.nul then Bytes.space else c := by
  rw [full, parse, args_eq]
  by_cases empty : Bytes.trimRight Bytes.nul raw = []
  · simp [empty, Bytes.join]
  · simp only [empty, if_false]
    exact Bytes.join_splitOnByte _ _ _

theorem args_append_nuls (raw pad : Bytes) (nuls : ∀ c ∈ pad, c = Bytes.nul) :
    args (raw ++ pad) = args raw := by
  rw [args_eq, args_eq, Bytes.trimRight_append_of_forall _ _ _ nuls]

theorem full_append_nuls (raw pad : Bytes) (nuls : ∀ c ∈ pad, c = Bytes.nul) :
    full (raw ++ pad) = full raw := by
  rw [full_eq, full_eq, Bytes.trimRight_append_of_forall _ _ _ nuls]

theorem full_join_space (parts : List Bytes) (last : Bytes) (ends : parts.getLast? = some last)
    (filled : last ≠ []) (unterminated : last.getLast? ≠ some Bytes.nul) :
    full (Bytes.join [Bytes.space] parts ++ [Bytes.nul]) =
      full (Bytes.join [Bytes.nul] parts ++ [Bytes.nul]) := by
  have trailing : ∀ x, (Bytes.join [x] parts).getLast? ≠ some Bytes.nul := fun x => by
    rw [Bytes.getLast?_join x parts last filled ends]
    exact unterminated
  have nul : ∀ c ∈ [Bytes.nul], c = Bytes.nul := fun c member => List.eq_of_mem_singleton member
  rw [full_append_nuls _ _ nul, full_append_nuls _ _ nul, full_eq, full_eq,
    Bytes.trimRight_of_getLast? (trailing _), Bytes.trimRight_of_getLast? (trailing _),
    Bytes.map_join, Bytes.map_join]
  -- NUL and space are both shown as a space
  rfl

theorem full_of_nul_free {raw : Bytes} (noNul : Bytes.nul ∉ raw) : full raw = raw := by
  have untrimmed : Bytes.trimRight Bytes.nul raw = raw :=
    Bytes.trimRight_of_getLast? fun ends => noNul (List.mem_of_getLast? ends)
  have kept : ∀ c ∈ raw, (if c = Bytes.nul then Bytes.space else c) = id c :=
    fun c member => if_neg fun (same : c = Bytes.nul) => noNul (same ▸ member)
  rw [full_eq, untrimmed, List.map_congr_left kept, List.map_id]

/-! ### Splitting, and laying arguments out again -/

theorem split_eq_none_iff (raw : Bytes) : split raw = none ↔ ∀ c ∈ raw, c = Bytes.nul := by
  rw [← Bytes.trimRight_eq_nil_iff]
  by_cases empty : Bytes.trimRight Bytes.nul raw = [] <;> simp [split, empty]

theorem split_eq_some {raw : Bytes} {parts : List Bytes} (split_raw : split raw = some parts) :
    Bytes.trimRight Bytes.nul raw ≠ [] ∧
      parts = Bytes.splitOnByte Bytes.nul (Bytes.trimRight Bytes.nul raw) := by
  by_cases empty : Bytes.trimRight Bytes.nul raw = []
  · simp [split, empty] at split_raw
  · simp only [split, List.isEmpty_iff, empty, if_false, Option.some.injEq] at split_raw
    exact ⟨empty, split_raw.symm⟩

theorem split_pieces {raw : Bytes} {parts : List Bytes} (split_raw : split raw = some parts) :
    (∀ part ∈ parts, Bytes.nul ∉ part) ∧ parts ≠ [] ∧ parts.getLast? ≠ some [] ∧
      Bytes.join [Bytes.nul] parts = Bytes.trimRight Bytes.nul raw := by
  obtain ⟨body, rfl⟩ := split_eq_some split_raw
  exact ⟨fun _ piece => Bytes.not_mem_of_mem_splitOnByte piece, List.splitOn_ne_nil _ _,
    Bytes.getLast?_splitOnByte_ne_nil body (Bytes.getLast?_trimRight_ne _ _),
    List.intercalate_splitOn _⟩

theorem split_join_nuls (xs : List Bytes) (k : Nat) (nonempty : xs ≠ [])
    (filled : xs.getLast? ≠ some []) (noNul : ∀ x ∈ xs, Bytes.nul ∉ x) :
    split (Bytes.join [Bytes.nul] xs ++ List.replicate k Bytes.nul) = some xs := by
  have ends : xs.getLast? = some (xs.getLast nonempty) := List.getLast?_eq_some_getLast nonempty
  have lastFilled : xs.getLast nonempty ≠ [] := fun empty => filled (empty ▸ ends)
  have lastByte : (Bytes.join [Bytes.nul] xs).getLast? = (xs.getLast nonempty).getLast? :=
    Bytes.getLast?_join _ xs _ lastFilled ends
  have untrimmed : Bytes.trimRight Bytes.nul (Bytes.join [Bytes.nul] xs) = Bytes.join [Bytes.nul] xs :=
    Bytes.trimRight_of_getLast? fun endsNul =>
      noNul _ (List.getLast_mem nonempty) (List.mem_of_getLast? (lastByte ▸ endsNul))
  have joinFilled : Bytes.join [Bytes.nul] xs ≠ [] := fun empty => by
    rw [empty, List.getLast?_nil, eq_comm, List.getLast?_eq_none_iff] at lastByte
    exact lastFilled lastByte
  have pad : ∀ c ∈ List.replicate k Bytes.nul, c = Bytes.nul := fun _ => List.eq_of_mem_replicate
  rw [split, Bytes.trimRight_append_of_forall _ _ _ pad, untrimmed]
  simp only [List.isEmpty_iff, joinFilled, if_false, Bytes.splitOnByte]
  rw [Bytes.join, List.splitOn_intercalate _ noNul nonempty]

theorem args_eq_getD (raw : Bytes) : args raw = (split raw).getD [] := by
  simp [args]

/-- Splitting decodes the kernel's layout of arguments, whatever NULs follow it. -/
theorem split_decodes_layout (raw : Bytes) (xs : List Bytes) (k : Nat) :
    (split raw = none ↔ ∀ c ∈ raw, c = Bytes.nul) ∧
    (∀ parts, split raw = some parts →
      (∀ part ∈ parts, Bytes.nul ∉ part) ∧ parts ≠ [] ∧ parts.getLast? ≠ some [] ∧
        Bytes.join [Bytes.nul] parts = Bytes.trimRight Bytes.nul raw) ∧
    (args raw = (split raw).getD [] ∧ full raw = Bytes.join [Bytes.space] ((split raw).getD [])) ∧
    (xs ≠ [] → xs.getLast? ≠ some [] → (∀ x ∈ xs, Bytes.nul ∉ x) →
      split (Bytes.join [Bytes.nul] xs ++ List.replicate k Bytes.nul) = some xs ∧
      args (Bytes.join [Bytes.nul] xs ++ List.replicate k Bytes.nul) = xs ∧
      full (Bytes.join [Bytes.nul] xs ++ List.replicate k Bytes.nul) = Bytes.join [Bytes.space] xs) := by
  refine ⟨split_eq_none_iff raw, fun _ => split_pieces, ⟨args_eq_getD raw, ?_⟩, ?_⟩
  · rw [full, parse, args_eq_getD]
  · intro nonempty filled noNul
    have decoded := split_join_nuls xs k nonempty filled noNul
    refine ⟨decoded, by rw [args_eq_getD, decoded]; rfl, ?_⟩
    rw [full, parse, args_eq_getD, decoded]
    rfl

/-- An empty argument inside the command line survives, and the NULs after the last one go. -/
theorem split_decodes_layout_inner_empty :
    split (Bytes.join [Bytes.nul] [Bytes.ofString "app", [], Bytes.ofString "x"] ++ List.replicate 2 Bytes.nul) =
        some [Bytes.ofString "app", [], Bytes.ofString "x"] ∧
      full (Bytes.join [Bytes.nul] [Bytes.ofString "app", [], Bytes.ofString "x"] ++ List.replicate 2 Bytes.nul) =
        Bytes.ofString "app  x" := by
  obtain ⟨-, -, -, layout⟩ := split_decodes_layout [] [Bytes.ofString "app", [], Bytes.ofString "x"] 2
  obtain ⟨decoded, -, shown⟩ := layout (by simp) (by decide +kernel) (by decide +kernel)
  exact ⟨decoded, shown.trans (by decide +kernel)⟩

end Cmdline

end ProcessTitle
