import ProcessTitle.Proofs.ArgArea
import ProcessTitle.Proofs.Cmdline
import ProcessTitle.Proc.Started

/-!
# The command line a process shows after a title
-/

namespace ProcessTitle

/-! ### Titles without an executable -/

namespace Title

@[simp] theorem stripDeleted_nil : stripDeleted [] = [] := by
  simp [stripDeleted, Bytes.dropSuffix]

theorem display_build_unresolved (a0 : Bytes) (rest : List Bytes) :
    (build (a0 :: rest) []).display a0 =
      if rest = [[]] then a0 else Bytes.join [Bytes.space] (a0 :: rest) := by
  have built : build (a0 :: rest) [] = ⟨Bytes.join [Bytes.space] rest, []⟩ := by
    simp [build]
  rw [built, display, hasProgram]
  rcases rest with _ | ⟨arg, _ | ⟨next, rest⟩⟩
  · simp [Bytes.join]
  · by_cases empty : arg = [] <;> simp [Bytes.join, empty]
  · simp [Bytes.join]

end Title

/-! ### Processes laid out in one run -/

namespace Proc

theorem slots_cons {p : Proc} {a0 : Bytes} {rest : List Bytes} (args : p.args = a0 :: rest) :
    p.slots = { bytes := a0 } :: rest.map fun a => { bytes := a } := by
  simp [slots, args]

theorem layout_slots (p : Proc) : ArgSlot.layout p.slots = p.args.flatMap (· ++ [Bytes.nul]) := by
  rw [slots]
  induction p.args with
  | nil => rfl
  | cons a rest ih => rw [List.map_cons, ArgSlot.layout_cons, if_neg (by simp), ih, List.flatMap_cons]

theorem layout_slots_eq_join {p : Proc} {a0 : Bytes} {rest : List Bytes} (args : p.args = a0 :: rest) :
    ArgSlot.layout p.slots = Bytes.join [Bytes.nul] p.args ++ [Bytes.nul] := by
  rw [layout_slots, args, Bytes.join_append_sep]

theorem runLength_slots (rest : List Bytes) :
    ArgSlot.runLength (rest.map fun a => { bytes := a }) = (rest.flatMap (· ++ [Bytes.nul])).length := by
  induction rest with
  | nil => rfl
  | cons a rest ih => simp [ArgSlot.runLength, ih]; omega

theorem startupArea_eq {p : Proc} {a0 : Bytes} {rest : List Bytes} (args : p.args = a0 :: rest)
    (nonempty : a0 ≠ []) :
    p.startupArea = some ⟨(ArgSlot.layout p.slots).length - 1, a0⟩ := by
  have size : a0.length + ArgSlot.runLength (rest.map fun a => { bytes := a }) =
      (ArgSlot.layout p.slots).length - 1 := by
    rw [runLength_slots, layout_slots, args]
    simp
  simp [startupArea, slots_cons args, ArgArea.capture, nonempty, size]

theorem drop_layout_slots {p : Proc} {a0 : Bytes} {rest : List Bytes} (args : p.args = a0 :: rest) :
    (ArgSlot.layout p.slots).drop ((ArgSlot.layout p.slots).length - 1) = [Bytes.nul] := by
  rw [layout_slots_eq_join args]
  simp

theorem block_run {p : Proc} {a0 : Bytes} {rest : List Bytes} (args : p.args = a0 :: rest)
    (steps : List AreaStep) (last : AreaStep) :
    (ArgArea.run ⟨(ArgSlot.layout p.slots).length - 1, a0⟩ p.initial (steps ++ [last])).block =
      (last.text a0).take ((ArgSlot.layout p.slots).length - 1) ++
        List.replicate ((ArgSlot.layout p.slots).length - 1 - (last.text a0).length + 1) Bytes.nul := by
  have fits : (ArgSlot.layout p.slots).length - 1 ≤ p.initial.block.length := by
    simp [Proc.initial]
  rw [ArgArea.block_run_append, ArgArea.write_eq _ _ _ fits, Proc.initial, drop_layout_slots args,
    List.append_assoc, List.replicate_succ']

theorem block_unresolved_title {p : Proc} {a0 : Bytes} {rest : List Bytes}
    (args : p.args = a0 :: rest) (nonempty : a0 ≠ []) (startup : Option ArgArea) :
    (Titler.apply (.argv p.startupArea startup) (Title.build p.args []) p.initial).block =
      if rest = [[]] then ArgSlot.layout p.slots
      else Bytes.join [Bytes.space] p.args ++ [Bytes.nul] := by
  have layout := layout_slots_eq_join args
  have written : (Titler.apply (.argv p.startupArea startup) (Title.build p.args []) p.initial).block =
      ArgArea.write ⟨(ArgSlot.layout p.slots).length - 1, a0⟩ (ArgSlot.layout p.slots)
        ((Title.build p.args []).display a0) := by
    simp only [startupArea_eq args nonempty]
    rfl
  have fits : (ArgSlot.layout p.slots).length - 1 ≤ (ArgSlot.layout p.slots).length := by omega
  rw [written, ArgArea.write_eq _ _ _ fits, drop_layout_slots args, args,
    Title.display_build_unresolved]
  split
  · -- the area is the first argument and the NUL after it, which the padding rewrites
    rename_i single
    subst single
    have joined : Bytes.join [Bytes.nul] [a0, []] = a0 ++ [Bytes.nul] := by simp [Bytes.join]
    have size : (ArgSlot.layout p.slots).length - 1 = a0.length + 1 := by
      rw [layout, args, joined]
      simp only [List.length_append, List.length_singleton]
      omega
    rw [size, List.take_of_length_le (Nat.le_add_right _ 1),
      show a0.length + 1 - a0.length = 1 by omega, layout, args, joined]
    rfl
  · -- the display fills the area exactly
    have length : (Bytes.join [Bytes.space] (a0 :: rest)).length =
        (ArgSlot.layout p.slots).length - 1 := by
      rw [Bytes.length_join Bytes.space Bytes.nul, layout, args]
      simp
    rw [List.take_of_length_le (Nat.le_of_eq length), length, Nat.sub_self, List.replicate_zero,
      List.append_nil]

theorem inspect_cmdline (p : Proc) (fx : Effects) :
    (p.inspect fx).args = Cmdline.args fx.block ∧ (p.inspect fx).cmdlineFull = Cmdline.full fx.block := by
  simp [inspect, ProcRecord.read, files]

end Proc

/-! ### Any run of writes -/

/-- After any run of writes the process file system shows the last write cut to the area, its
trailing NULs dropped and its other NULs shown as spaces. -/
theorem inspect_after_run (p : Proc) (a0 : Bytes) (rest : List Bytes) (args : p.args = a0 :: rest)
    (nonempty : a0 ≠ []) :
    ∃ area, p.startupArea = some area ∧ area.size + 1 = (ArgSlot.layout p.slots).length ∧
      ∀ steps last,
        let s := last.text a0
        let shown := Bytes.trimRight Bytes.nul (s.take area.size)
        let record := p.inspect (area.run p.initial (steps ++ [last]))
        record.cmdlineFull = shown.map (fun c => if c = Bytes.nul then Bytes.space else c) ∧
        record.args = (if shown = [] then [] else Bytes.splitOnByte Bytes.nul shown) ∧
        (Bytes.nul ∉ s → record.cmdlineFull = s.take area.size) ∧
        (Bytes.nul ∉ s → s.length ≤ area.size → record.cmdlineFull = s) := by
  have captured := Proc.startupArea_eq args nonempty
  have positive : 0 < (ArgSlot.layout p.slots).length := by
    rw [Proc.layout_slots_eq_join args, List.length_append, List.length_singleton]
    omega
  refine ⟨_, captured, Nat.sub_add_cancel positive, fun steps last => ?_⟩
  intro s shown record
  -- the block is the written bytes cut to the area, then NULs only
  have nuls : ∀ c ∈ List.replicate ((ArgSlot.layout p.slots).length - 1 - s.length + 1) Bytes.nul,
      c = Bytes.nul := fun c member => List.eq_of_mem_replicate member
  obtain ⟨shownArgs, shownFull⟩ := Proc.inspect_cmdline p (ArgArea.run _ p.initial (steps ++ [last]))
  have full : record.cmdlineFull = Cmdline.full (s.take ((ArgSlot.layout p.slots).length - 1)) := by
    rw [shownFull, Proc.block_run args, Cmdline.full_append_nuls _ _ nuls]
  have plain : Bytes.nul ∉ s → record.cmdlineFull = s.take ((ArgSlot.layout p.slots).length - 1) :=
    fun noNul => full.trans (Cmdline.full_of_nul_free fun member => noNul (List.mem_of_mem_take member))
  refine ⟨full.trans (Cmdline.full_eq _), ?_, plain,
    fun noNul fits => (plain noNul).trans (List.take_of_length_le fits)⟩
  rw [shownArgs, Proc.block_run args, Cmdline.args_append_nuls _ _ nuls, Cmdline.args_eq]

/-- A process started as `ab c` captures four bytes; a write of `xy`, NUL, `zwv` is cut to them
and read back as the arguments `xy` and `z`. -/
theorem inspect_after_run_cut :
    let p : Proc := { args := [[97, 98], [99]], exe := [], environ := [], pid := 1, links := [] }
    p.args = [97, 98] :: [[99]] ∧ ([97, 98] : Bytes) ≠ [] ∧ p.startupArea = some ⟨4, [97, 98]⟩ ∧
      (p.inspect ((⟨4, [97, 98]⟩ : ArgArea).run p.initial
        [.raw [120, 121, 0, 122, 119, 118]])).args = [[120, 121], [122]] := by
  intro p
  obtain ⟨area, captured, -, shows⟩ := inspect_after_run p [97, 98] [[99]] rfl (by decide)
  have known : area = ⟨4, [97, 98]⟩ := Option.some.inj (captured.symm.trans (by decide))
  subst known
  refine ⟨rfl, by decide, captured, ?_⟩
  rw [← List.nil_append [AreaStep.raw _], (shows [] _).2.1]
  decide +kernel

/-! ### A title without an executable -/

/-- A title built without an executable turns each NUL between two arguments into a space, so the
command line reads back unchanged. -/
theorem unresolved_title_block (p : Proc) (a0 : Bytes) (rest : List Bytes)
    (args : p.args = a0 :: rest) (nonempty : a0 ≠ []) (startup : Option ArgArea) :
    let titled := Titler.apply (.argv p.startupArea startup) (Title.build p.args []) p.initial
    ArgSlot.layout p.slots = Bytes.join [Bytes.nul] p.args ++ [Bytes.nul] ∧
    titled.block = (if rest = [[]] then ArgSlot.layout p.slots
      else Bytes.join [Bytes.space] p.args ++ [Bytes.nul]) ∧
    ∀ last, p.args.getLast? = some last → last ≠ [] → last.getLast? ≠ some Bytes.nul →
      (p.inspect titled).cmdlineFull = (p.inspect p.initial).cmdlineFull := by
  intro titled
  have block := Proc.block_unresolved_title args nonempty startup
  refine ⟨Proc.layout_slots_eq_join args, block, fun last ends filled unterminated => ?_⟩
  -- the last argument is not empty, so the arguments are not the first and one empty argument
  have notSingle : rest ≠ [[]] := by
    rintro rfl
    rw [args] at ends
    exact filled (Option.some.inj ends).symm
  obtain ⟨-, after⟩ := Proc.inspect_cmdline p titled
  obtain ⟨-, before⟩ := Proc.inspect_cmdline p p.initial
  rw [after, before, block, if_neg notSingle, Proc.initial, Proc.layout_slots_eq_join args]
  exact Cmdline.full_join_space p.args last ends filled unterminated

/-- A process started as `ab c` shows `ab c` in its block after a title without an executable. -/
theorem unresolved_title_block_ab_c :
    let p : Proc := { args := [[97, 98], [99]], exe := [], environ := [], pid := 1, links := [] }
    p.args = [97, 98] :: [[99]] ∧ ([97, 98] : Bytes) ≠ [] ∧
      (Titler.apply (.argv p.startupArea none) (Title.build p.args []) p.initial).block =
        [97, 98, 32, 99, 0] := by
  intro p
  obtain ⟨-, block, -⟩ := unresolved_title_block p [97, 98] [[99]] rfl (by decide) none
  refine ⟨rfl, by decide, ?_⟩
  rw [block]
  decide

end ProcessTitle
