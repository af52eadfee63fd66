import ProcessTitle.Titler

/-!
# Runs of writes over the argument area
-/

namespace ProcessTitle

/-! ### Layouts and captures -/

namespace ArgSlot

@[simp] theorem layout_nil : layout [] = [] := rfl

theorem layout_cons (a : ArgSlot) (rest : List ArgSlot) :
    layout (a :: rest) = (if a.detached then [] else a.bytes ++ [Bytes.nul]) ++ layout rest := by
  cases detached : a.detached <;> simp [layout, detached]

theorem drop_runLength (args : List ArgSlot) :
    (Bytes.nul :: layout args).drop (runLength args) =
      Bytes.nul :: layout (args.dropWhile fun a => !a.detached) := by
  induction args with
  | nil => rfl
  | cons a rest ih =>
    cases detached : a.detached
    · have step : runLength (a :: rest) = (a.bytes.length + 1) + runLength rest := by
        simp [runLength, detached]; omega
      rw [step, ← List.drop_drop, layout_cons]
      simpa [detached] using ih
    · simp [runLength, detached]

theorem read_layout (args : List ArgSlot) : read (layout args) args = args.map (·.bytes) := by
  induction args with
  | nil => rfl
  | cons a rest ih => cases detached : a.detached <;> simp [read, layout_cons, detached, ih]

theorem read_detachAll (block : Bytes) (args : List ArgSlot) :
    read block (detachAll args) = args.map (·.bytes) := by
  induction args with
  | nil => rfl
  | cons a rest ih => simpa [detachAll, read] using ih

end ArgSlot

namespace ArgArea

theorem capture_cons {a : ArgSlot} {rest : List ArgSlot} {area : ArgArea}
    (captured : (capture (a :: rest)).1 = some area) :
    a.bytes ≠ [] ∧ area.size = a.bytes.length + ArgSlot.runLength rest ∧ area.first = a.bytes ∧
      (capture (a :: rest)).2 = ArgSlot.detachAll (a :: rest) := by
  simp only [capture] at captured ⊢
  split at captured
  · cases captured
  · rename_i nonempty
    cases captured
    exact ⟨by simpa using nonempty, rfl, rfl, by simp [nonempty]⟩

theorem drop_size_layout {a : ArgSlot} {rest : List ArgSlot} {area : ArgArea}
    (inBlock : a.detached = false) (captured : (capture (a :: rest)).1 = some area) :
    (ArgSlot.layout (a :: rest)).drop area.size =
      Bytes.nul :: ArgSlot.layout (rest.dropWhile fun a => !a.detached) := by
  obtain ⟨-, size, -, -⟩ := capture_cons captured
  rw [size, ArgSlot.layout_cons, if_neg (by simp [inBlock]), ← List.drop_drop,
    List.append_assoc, List.drop_left, List.singleton_append]
  exact ArgSlot.drop_runLength rest

theorem size_lt_layout {a : ArgSlot} {rest : List ArgSlot} {area : ArgArea}
    (inBlock : a.detached = false) (captured : (capture (a :: rest)).1 = some area) :
    area.size < (ArgSlot.layout (a :: rest)).length := by
  have tail := congrArg List.length (drop_size_layout inBlock captured)
  simp only [List.length_drop, List.length_cons] at tail
  omega

/-! ### One write -/

theorem fill_congr (s : Bytes) {region region' : Bytes} (same : region.length = region'.length) :
    fill s region = fill s region' := by
  rw [fill_eq, fill_eq, same]

theorem take_write (a : ArgArea) (block s : Bytes) :
    (a.write block s).take a.size = fill s (block.take a.size) := by
  have filled : (fill s (block.take a.size)).length = min a.size block.length := by simp
  rw [write, List.take_append, List.take_of_length_le (by omega), filled]
  by_cases fits : a.size ≤ block.length
  · simp [Nat.min_eq_left fits]
  · simp [List.drop_eq_nil_of_le (show block.length ≤ a.size by omega)]

theorem drop_write (a : ArgArea) (block s : Bytes) :
    (a.write block s).drop a.size = block.drop a.size := by
  have filled : (fill s (block.take a.size)).length = min a.size block.length := by simp
  rw [write, List.drop_append, List.drop_eq_nil_of_le (by omega), filled, List.nil_append]
  by_cases fits : a.size ≤ block.length
  · simp [Nat.min_eq_left fits]
  · simp [List.drop_eq_nil_of_le (show block.length ≤ a.size by omega)]

theorem write_write (a : ArgArea) (block s t : Bytes) :
    a.write (a.write block s) t = a.write block t := by
  rw [write, take_write, drop_write, fill_congr t (length_fill s _), write]

theorem write_eq (a : ArgArea) (block s : Bytes) (fits : a.size ≤ block.length) :
    a.write block s =
      s.take a.size ++ List.replicate (a.size - s.length) Bytes.nul ++ block.drop a.size := by
  rw [write, fill_eq, List.length_take_of_le fits]

end ArgArea

/-! ### Runs of steps -/

namespace AreaStep

theorem block_perform (a : ArgArea) (fx : Effects) (step : AreaStep) :
    (step.perform a fx).block = a.write fx.block (step.text a.first) := by
  cases step <;> rfl

end AreaStep

namespace ArgArea

theorem block_run_append (a : ArgArea) (fx : Effects) (steps : List AreaStep) (last : AreaStep) :
    (a.run fx (steps ++ [last])).block = a.write fx.block (last.text a.first) := by
  induction steps generalizing fx with
  | nil => exact AreaStep.block_perform a fx last
  | cons step steps ih =>
    rw [List.cons_append, run, ih, AreaStep.block_perform, write_write]

theorem drop_block_run (a : ArgArea) (fx : Effects) (steps : List AreaStep) :
    (a.run fx steps).block.drop a.size = fx.block.drop a.size := by
  rcases List.eq_nil_or_concat steps with rfl | ⟨steps, last, rfl⟩
  · rfl
  · rw [List.concat_eq_append, block_run_append, drop_write]

/-! ### The block after any run -/

/-- Whatever steps a process performs on its captured area, the block is the last step's bytes cut
to the area, then the original block. -/
theorem run_block_eq_last_write (a0 : ArgSlot) (rest : List ArgSlot) (area : ArgArea)
    (inBlock : a0.detached = false) (captured : (ArgArea.capture (a0 :: rest)).1 = some area)
    (fx : Effects) (laidOut : fx.block = ArgSlot.layout (a0 :: rest)) :
    (area.run fx []).block = ArgSlot.layout (a0 :: rest) ∧
    (∀ steps last,
      (area.run fx (steps ++ [last])).block =
        (last.text a0.bytes).take area.size ++
          List.replicate (area.size - (last.text a0.bytes).length) Bytes.nul ++
          (ArgSlot.layout (a0 :: rest)).drop area.size ∧
      (area.run fx (steps ++ [last])).block = (area.run fx [last]).block) ∧
    (∀ steps, (area.run fx steps).block.drop area.size =
      Bytes.nul :: ArgSlot.layout (rest.dropWhile fun a => !a.detached)) ∧
    (∀ steps, ArgSlot.read (area.run fx steps).block (ArgArea.capture (a0 :: rest)).2 =
      ArgSlot.read (ArgSlot.layout (a0 :: rest)) (a0 :: rest)) ∧
    (∀ (args : List ArgSlot) (startup : Option ArgArea) (titles : List Title) (start : Effects),
      (ArgArea.capture args).1 = none →
      titles.foldl (fun fx t => Titler.apply (.argv (ArgArea.capture args).1 startup) t fx) start =
        start) := by
  obtain ⟨-, -, first, copies⟩ := ArgArea.capture_cons captured
  have fits : area.size ≤ fx.block.length := by
    rw [laidOut]; exact Nat.le_of_lt (ArgArea.size_lt_layout inBlock captured)
  refine ⟨laidOut, fun steps last => ⟨?_, ?_⟩, fun steps => ?_, fun steps => ?_, ?_⟩
  · rw [ArgArea.block_run_append, ArgArea.write_eq _ _ _ fits, first, laidOut]
  · rw [ArgArea.block_run_append, ← List.nil_append [last], ArgArea.block_run_append]
  · rw [ArgArea.drop_block_run, laidOut, ArgArea.drop_size_layout inBlock captured]
  · rw [copies, ArgSlot.read_detachAll, ArgSlot.read_layout]
  · intro args startup titles start nothing
    rw [nothing]
    -- the setter without an area returns the effects it is given
    induction titles generalizing start with
    | nil => rfl
    | cons t titles ih => exact ih start

/-- Arguments `ab` and `c` in the block, `d` detached and `e` in the block after it: the area
holds `ab c`, and after a long raw write and a title `q` the block reads `ab q`, the NUL, and
`e` untouched. -/
theorem run_block_eq_last_write_past_gap :
    let args : List ArgSlot := [⟨[97, 98], false⟩, ⟨[99], false⟩, ⟨[100], true⟩, ⟨[101], false⟩]
    let fx : Effects := { block := ArgSlot.layout args, comm := [] }
    (ArgArea.capture args).1 = some ⟨4, [97, 98]⟩ ∧ ArgSlot.layout args = [97, 98, 0, 99, 0, 101, 0] ∧
      ((⟨4, [97, 98]⟩ : ArgArea).run fx
        [.raw [120, 121, 122, 119, 49, 50], .setTitle ⟨[113], []⟩]).block =
        [97, 98, 32, 113, 0, 101, 0] := by
  intro args fx
  have captured : (ArgArea.capture args).1 = some ⟨4, [97, 98]⟩ := by decide
  obtain ⟨-, lastWrite, -⟩ := run_block_eq_last_write ⟨[97, 98], false⟩ _ _ rfl captured fx rfl
  refine ⟨captured, by decide, ?_⟩
  rw [show [AreaStep.raw [120, 121, 122, 119, 49, 50], .setTitle ⟨[113], []⟩] =
    [.raw [120, 121, 122, 119, 49, 50]] ++ [.setTitle ⟨[113], []⟩] from rfl, (lastWrite _ _).1]
  decide

end ArgArea

end ProcessTitle
