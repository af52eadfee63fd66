import Mathlib
import ProcessTitle.Proofs.ArgArea
import ProcessTitle.Proofs.Cmdline

/-!
# How a process finds its argument area

`ArgSlot.Placed` is where the kernel put the arguments' data; on every such placement the walk
of `ArgArea.locate` finds the area `ArgArea.capture` gives.
-/

namespace ProcessTitle

namespace ArgSlot

/-- Where a kernel-style layout puts the arguments' data, for a block that spans addresses
`lo` to `hi`, the final NUL at `hi - 1`: an argument in the block starts at `next`, right after
the NUL that ends the one before; a detached one has its data outside the block and not right
after it, or has no data at all (address 0). -/
inductive Placed (lo hi : Nat) : Nat → List ArgSlot → List Nat → Prop
  | nil (next : Nat) : Placed lo hi next [] []
  | inBlock {a : ArgSlot} {rest : List ArgSlot} {addrs : List Nat} {next : Nat}
      (inBlock : a.detached = false) (tail : Placed lo hi (next + a.bytes.length + 1) rest addrs) :
      Placed lo hi next (a :: rest) (next :: addrs)
  | detached {a : ArgSlot} {rest : List ArgSlot} {addrs : List Nat} {next data : Nat}
      (away : a.detached = true) (outside : data = 0 ∨ data < lo ∨ hi < data)
      (tail : Placed lo hi next rest addrs) :
      Placed lo hi next (a :: rest) (data :: addrs)

theorem layout_append (xs ys : List ArgSlot) : layout (xs ++ ys) = layout xs ++ layout ys := by
  simp [layout, List.filter_append, List.flatMap_append]

theorem layout_of_inBlock {xs : List ArgSlot} (inBlock : ∀ a ∈ xs, a.detached = false) :
    layout xs = xs.flatMap fun a => a.bytes ++ [Bytes.nul] := by
  induction xs with
  | nil => rfl
  | cons a rest ih =>
    rw [layout_cons, if_neg (by simp [inBlock a (by simp)]),
      ih (fun b mem => inBlock b (by simp [mem])), List.flatMap_cons]

theorem length_layout_of_inBlock {a : ArgSlot} (rest : List ArgSlot) (inBlock : a.detached = false) :
    (layout (a :: rest)).length = a.bytes.length + 1 + (layout rest).length := by
  simp [layout_cons, inBlock]; omega

theorem length_layout_of_detached {a : ArgSlot} (rest : List ArgSlot) (away : a.detached = true) :
    (layout (a :: rest)).length = (layout rest).length := by
  simp [layout_cons, away]

theorem layout_eq_nil_iff (xs : List ArgSlot) : layout xs = [] ↔ ∀ a ∈ xs, a.detached = true := by
  induction xs with
  | nil => simp
  | cons a rest ih => cases detached : a.detached <;> simp [layout_cons, detached, ih]

theorem runLength_eq_sum (args : List ArgSlot) :
    runLength args = ((args.takeWhile fun a => !a.detached).map fun a => a.bytes.length + 1).sum := by
  induction args with
  | nil => rfl
  | cons a rest ih =>
    cases detached : a.detached
    · simp [runLength, detached, ih]; omega
    · simp [runLength, detached]

theorem layout_run {a0 : ArgSlot} (rest : List ArgSlot) (inBlock : a0.detached = false) :
    layout (a0 :: rest) =
      Bytes.join [Bytes.nul] ((a0 :: rest.takeWhile fun a => !a.detached).map (·.bytes)) ++ [Bytes.nul] ++
        layout (rest.dropWhile fun a => !a.detached) := by
  have runInBlock : ∀ a ∈ a0 :: rest.takeWhile (fun a => !a.detached), a.detached = false := by
    intro a mem
    rcases List.mem_cons.mp mem with rfl | taken
    · exact inBlock
    · simpa using List.mem_takeWhile_imp taken
  have split : a0 :: rest =
      (a0 :: rest.takeWhile fun a => !a.detached) ++ rest.dropWhile fun a => !a.detached := by
    rw [List.cons_append, List.takeWhile_append_dropWhile]
  rw [split, layout_append, layout_of_inBlock runInBlock, List.map_cons, Bytes.join_append_sep,
    ← List.map_cons, List.flatMap_map]

/-- The arguments as a process holds them: each with the address of its data. -/
def withData (addrs : List Nat) (args : List ArgSlot) : List (Nat × Bytes) :=
  addrs.zip (args.map (·.bytes))

end ArgSlot

namespace ArgArea

open ArgSlot

theorem scan_placed {lo hi next : Nat} {args : List ArgSlot} {addrs : List Nat}
    (placed : Placed lo hi next args addrs) (stop : Nat) (after : next = stop + 1)
    (inside : lo ≤ stop) (fits : next + (layout args).length = hi) :
    scan stop ((withData addrs args).map fun (data, bytes) => (data, bytes.length)) =
      stop + runLength args := by
  induction placed generalizing stop with
  | nil => rfl
  | @inBlock a rest addrs next inBlock tail ih =>
    have taken : scan stop ((withData (next :: addrs) (a :: rest)).map fun (data, bytes) => (data, bytes.length)) =
        scan (next + a.bytes.length) ((withData addrs rest).map fun (data, bytes) => (data, bytes.length)) := by
      simp [withData, scan, after]
    have length := length_layout_of_inBlock rest inBlock
    rw [taken, ih (next + a.bytes.length) (by omega) (by omega) (by omega)]
    simp only [runLength, inBlock, Bool.false_eq_true, if_false]
    omega
  | @detached a rest addrs next data away outside tail ih =>
    -- the next argument in the block would start at `stop + 1`, which lies in the block
    have apart : data ≠ stop + 1 := by
      have := length_layout_of_detached rest away
      omega
    simp [withData, scan, apart, runLength, away]

theorem locate_placed {base : Nat} {args : List ArgSlot} {addrs : List Nat}
    (placed : Placed base (base + (layout args).length) base args addrs)
    (firstInBlock : ∀ a ∈ args.head?, a.detached = false) :
    locate (withData addrs args) = (capture args).1.map (base, ·) := by
  cases placed with
  | nil _ => rfl
  | @inBlock a rest addrs _ inBlock tail =>
    by_cases empty : a.bytes = []
    · simp [withData, locate, capture, empty]
    · have length := length_layout_of_inBlock rest inBlock
      have stop := scan_placed tail (base + a.bytes.length) rfl (by omega) (by omega)
      simp only [withData] at stop
      simp only [withData, locate, capture, List.map_cons, List.zip_cons_cons, List.isEmpty_iff, empty,
        if_false, stop, Option.map_some]
      rw [Nat.add_assoc, Nat.add_sub_cancel_left]
  | detached away _ _ =>
    have inBlock := firstInBlock _ rfl
    simp [away] at inBlock

/-- What a process captures from every kernel-style placement of its arguments: the leading run of
arguments in the block, joined by NULs, never the NUL after it. -/
theorem locate_finds_leading_run (args : List ArgSlot) (base : Nat) (addrs : List Nat)
    (placed : Placed base (base + (layout args).length) base args addrs)
    (firstInBlock : ∀ a ∈ args.head?, a.detached = false) :
    locate (withData addrs args) = (capture args).1.map (base, ·) ∧
    (locate (withData addrs args) = none ↔ args = [] ∨ ∃ a0 rest, args = a0 :: rest ∧ a0.bytes = []) ∧
    ∀ a0 rest, args = a0 :: rest → a0.bytes ≠ [] →
      let run := a0 :: rest.takeWhile fun a => !a.detached
      ∃ area, locate (withData addrs args) = some (base, area) ∧ area.first = a0.bytes ∧
        area.size + 1 = (run.map fun a => a.bytes.length + 1).sum ∧
        (layout args).take area.size = Bytes.join [Bytes.nul] (run.map (·.bytes)) ∧
        (layout args).drop area.size = Bytes.nul :: layout (rest.dropWhile fun a => !a.detached) ∧
        area.size < (layout args).length ∧
        (area.size + 1 = (layout args).length ↔
          ∀ a ∈ rest.dropWhile (fun a => !a.detached), a.detached = true) ∧
        ∀ block, read block (capture args).2 = read (layout args) args := by
  have located := locate_placed placed firstInBlock
  refine ⟨located, ?_, ?_⟩
  · rw [located]
    rcases args with _ | ⟨a0, rest⟩
    · simp [capture]
    · by_cases empty : a0.bytes = [] <;> simp [capture, empty]
  · intro a0 rest listed nonempty run
    subst listed
    have inBlock := firstInBlock a0 rfl
    obtain ⟨area, captured⟩ : ∃ area, (capture (a0 :: rest)).1 = some area :=
      ⟨⟨a0.bytes.length + runLength rest, a0.bytes⟩, by simp [capture, nonempty]⟩
    obtain ⟨-, size, first, copies⟩ := capture_cons captured
    have sum : area.size + 1 = (run.map fun a => a.bytes.length + 1).sum := by
      simp only [run, size, runLength_eq_sum, List.map_cons, List.sum_cons]
      omega
    -- the block is the run joined by NULs, its NUL, and what lies past the gap
    have split := layout_run rest inBlock
    have joined : (Bytes.join [Bytes.nul] (run.map (·.bytes))).length = area.size := by
      have ended := congrArg List.length
        (Bytes.join_append_sep Bytes.nul a0.bytes ((rest.takeWhile fun a => !a.detached).map (·.bytes)))
      simp only [List.length_append, List.length_flatMap, List.map_cons, List.map_map,
        List.length_singleton, Function.comp_def, List.sum_cons] at ended
      simp only [run, List.map_cons, List.sum_cons] at sum ⊢
      omega
    have drop := drop_size_layout inBlock captured
    have length : (layout (a0 :: rest)).length =
        area.size + 1 + (layout (rest.dropWhile fun a => !a.detached)).length := by
      rw [split, List.length_append, List.length_append, joined]; rfl
    refine ⟨area, by rw [located, captured]; rfl, first, sum, ?_, drop, by omega, ?_,
      fun block => by rw [copies, read_detachAll, read_layout]⟩
    · rw [split, List.append_assoc, List.take_left' joined]
    · rw [← layout_eq_nil_iff, ← List.length_eq_zero_iff]
      omega

/-- `ab` and an empty argument in the block from address 100, `d` detached at address 7, and `e`
in the block after it: the process finds three bytes from address 100, `ab` and the NUL before
the empty argument, and leaves `e` out. -/
theorem locate_finds_leading_run_past_gap :
    let args : List ArgSlot := [⟨[97, 98], false⟩, ⟨[], false⟩, ⟨[100], true⟩, ⟨[101], false⟩]
    ArgSlot.Placed 100 106 100 args [100, 103, 7, 104] ∧
      ArgArea.locate (ArgSlot.withData [100, 103, 7, 104] args) = some (100, ⟨3, [97, 98]⟩) := by
  intro args
  have placed : ArgSlot.Placed 100 (100 + (ArgSlot.layout args).length) 100 args [100, 103, 7, 104] :=
    .inBlock rfl (.inBlock rfl (.detached rfl (by decide) (.inBlock rfl (.nil _))))
  have found := (locate_finds_leading_run args 100 _ placed (by decide)).1
  exact ⟨placed, by rw [found]; decide⟩

end ArgArea

end ProcessTitle
