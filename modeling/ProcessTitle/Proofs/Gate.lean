import ProcessTitle.ArgvSetter
import ProcessTitle.Library
import ProcessTitle.Proofs.Capture
import ProcessTitle.Proofs.Readback

/-!
# Which vectors the setter captures

`ArgvState.Good` is what every state of a run keeps, and `ArgvState.setter` is the library's
view of a state, which `library_setter_refined` shows the library keeps.
-/

namespace ProcessTitle

namespace Proc

theorem layout_take_add_le (args : List Bytes) {i : Nat} (inside : i < args.length) :
    (ArgSlot.layout ((args.map fun a => ({ bytes := a } : ArgSlot)).take i)).length +
      (args.getD i []).length + 1 ≤ (ArgSlot.layout (args.map fun a => { bytes := a })).length := by
  induction args generalizing i with
  | nil => simp at inside
  | cons a rest ih =>
    cases i with
    | zero => simp [ArgSlot.layout_cons]
    | succ i =>
      have tail := ih (by simpa using inside)
      simp only [List.map_cons, List.take_succ_cons, ArgSlot.layout_cons, List.length_append,
        List.getD_cons_succ] at tail ⊢
      simp only [Bool.false_eq_true, if_false, List.length_append, List.length_singleton]
      omega

theorem slot_add_le (p : Proc) {i : Nat} (inside : i < p.args.length) :
    p.slot i + (p.args.getD i []).length ≤ p.initial.block.length := by
  have ends := layout_take_add_le p.args inside
  simp only [slot, initial, slots]
  omega

end Proc

namespace Held

/-- An element that is a slice of the kernel's argument lies within that argument. -/
def Fits (args : List Bytes) : Held → Prop
  | kernel arg off len => arg < args.length ∧ off + len ≤ (args.getD arg []).length
  | owned _ => True

theorem length_bytes_kernel {args : List Bytes} {arg off len : Nat}
    (fits : (kernel arg off len).Fits args) : ((kernel arg off len).bytes args).length = len := by
  simp only [Fits] at fits
  simp only [bytes, List.length_take, List.length_drop]
  omega

theorem end_le {p : Proc} {h : Held} (fits : h.Fits p.args) (placed : h.addr p ≠ 0) :
    h.addr p + (h.bytes p.args).length ≤ p.initial.block.length := by
  cases h with
  | kernel arg off len =>
    obtain ⟨inside, within⟩ := fits
    have ends := p.slot_add_le inside
    rw [length_bytes_kernel ⟨inside, within⟩]
    simp only [addr]
    omega
  | owned bytes => exact absurd rfl placed

theorem fits_slice {args : List Bytes} {h h' : Held} {lo hi : Nat} (fits : h.Fits args)
    (sliced : h.slice lo hi = some h') : h'.Fits args := by
  cases h with
  | kernel arg off len =>
    simp only [slice] at sliced
    split at sliced
    · cases sliced
      obtain ⟨inside, within⟩ := fits
      refine ⟨inside, ?_⟩
      split <;> omega
    · cases sliced
  | owned bytes =>
    simp only [slice] at sliced
    split at sliced
    · cases sliced
      trivial
    · cases sliced

end Held

namespace ArgArea

theorem scan_le {bound stop : Nat} {data : List (Nat × Nat)}
    (ends : ∀ d ∈ data, d.1 = 0 ∨ d.1 + d.2 ≤ bound) (within : stop ≤ bound) :
    scan stop data ≤ bound := by
  induction data generalizing stop with
  | nil => exact within
  | cons d rest ih =>
    obtain ⟨addr, len⟩ := d
    simp only [scan]
    split
    · -- data right after the NUL at `stop` is not away from the block
      have inBlock := (ends (addr, len) List.mem_cons_self).resolve_left (by omega)
      exact ih (fun d mem => ends d (List.mem_cons_of_mem _ mem)) inBlock
    · exact within

end ArgArea

namespace ArgvState

variable (p : Proc)

/-- What every state of a run keeps: one element per argument, each slice of the kernel's
argument within it; the capture has run exactly when there is an area; the block is as the
kernel laid it out while nothing is captured; an area ends before the block's final NUL and
everything from its end on is as the kernel laid it out. -/
structure Good (s : ArgvState) : Prop where
  held_length : s.held.length = p.args.length
  fits : ∀ h ∈ s.held, h.Fits p.args
  done_eq : s.done = s.area.isSome
  untouched : s.area = none → s.block = p.initial.block
  confined : ∀ area, s.area = some area →
    area.size < p.initial.block.length ∧ s.block.drop area.size = p.initial.block.drop area.size

theorem good_start : Good p (start p) where
  held_length := by simp [start]
  fits := by
    intro h mem
    obtain ⟨i, inside, rfl⟩ := List.mem_mapIdx.1 mem
    simp [Held.Fits, inside, List.getD_eq_getElem?_getD]
  done_eq := rfl
  untouched := fun _ => rfl
  confined := by simp [start]

theorem accepts_iff (s : ArgvState) (v : ArgVec p.args.length) :
    s.accepts p v = true ↔ ∃ slice, v = .own slice ∧ 0 < slice.len ∧ slice.start = 0 ∧
      (∃ first, p.args.head? = some first ∧ first ≠ []) ∧
      ∃ h, s.held.head? = some h ∧ h.addr p = p.slot 0 ∧ h.bytes p.args ≠ [] := by
  rcases v with slice | _
  · simp only [accepts, Bool.and_eq_true, bne_iff_ne, ne_eq, beq_iff_eq, ArgVec.own.injEq,
      exists_eq_left', Nat.pos_iff_ne_zero]
    rcases p.args.head? with _ | first <;> rcases s.held.head? with _ | h <;> simp [and_assoc]
  · simp [accepts]

theorem accepted {s : ArgvState} {slice : VecSlice p.args.length}
    (taken : s.accepts p (.own slice) = true) :
    0 < slice.len ∧ ∃ h rest, s.held = h :: rest ∧ h.addr p = 1 ∧ h.bytes p.args ≠ [] := by
  obtain ⟨_, ⟨⟩, pos, -, -, h, head, at1, nonempty⟩ := (accepts_iff p s _).1 taken
  obtain ⟨rest, held⟩ := List.head?_eq_some_iff.1 head
  exact ⟨pos, h, rest, held, at1, nonempty⟩

section Steps

variable {p} {s : ArgvState}

theorem captured_of_accepted (good : Good p s) {slice : VecSlice p.args.length}
    (taken : s.accepts p (.own slice) = true) :
    ∃ area, (ArgArea.locate (s.data p slice.len)).map (·.2) = some area ∧
      area.size < p.initial.block.length := by
  obtain ⟨pos, h, rest, held, at1, nonempty⟩ := accepted p taken
  obtain ⟨k, len⟩ : ∃ k, slice.len = k + 1 := ⟨slice.len - 1, by omega⟩
  have headEnd := Held.end_le (good.fits h (by simp [held])) (by omega)
  have ends : ∀ d ∈ ((rest.take k).map fun h => (h.addr p, h.bytes p.args)).map
      (fun x => (x.1, x.2.length)), d.1 = 0 ∨ d.1 + d.2 ≤ p.initial.block.length := by
    intro d mem
    obtain ⟨_, data, rfl⟩ := List.mem_map.1 mem
    obtain ⟨h', mem', rfl⟩ := List.mem_map.1 data
    by_cases away : h'.addr p = 0
    · exact .inl away
    · exact .inr (Held.end_le (good.fits h' (by simp [held, List.mem_of_mem_take mem'])) away)
  have scanned := @ArgArea.scan_le _ (1 + (h.bytes p.args).length) _ ends (by omega)
  simp only [data, held, len, List.take_succ_cons, List.map_cons, ArgArea.locate, at1]
  rw [if_neg (by simpa using nonempty)]
  refine ⟨_, rfl, ?_⟩
  dsimp only
  omega

theorem area_none_of_fresh (good : Good p s) (fresh : s.done = false) : s.area = none := by
  have captured := good.done_eq
  rw [fresh] at captured
  cases area : s.area
  · rfl
  · simp [area] at captured

theorem good_init (good : Good p s) (v : ArgVec p.args.length) : Good p (s.init p v) := by
  rcases v with slice | _
  · simp only [init]
    split
    · rename_i go
      obtain ⟨taken, fresh⟩ : s.accepts p (.own slice) = true ∧ s.done = false := by simpa using go
      have untouched := good.untouched (area_none_of_fresh good fresh)
      constructor
      · have := good.held_length
        have := slice.fits
        simp only [List.length_append, List.length_map, List.length_take, List.length_drop]
        omega
      · intro h mem
        rcases List.mem_append.1 mem with copied | kept
        · obtain ⟨_, -, rfl⟩ := List.mem_map.1 copied
          trivial
        · exact good.fits h (List.mem_of_mem_drop kept)
      · obtain ⟨area, found, -⟩ := captured_of_accepted good taken
        simp [found]
      · exact fun _ => untouched
      · intro area found
        obtain ⟨area', found', small⟩ := captured_of_accepted good taken
        obtain rfl : area' = area := Option.some.inj (found'.symm.trans found)
        exact ⟨small, by rw [untouched]⟩
    · exact good
  · exact good

theorem good_setTitle (good : Good p s) (t : Title) : Good p (s.setTitle t) := by
  rcases captured : s.area with _ | area
  · simpa [setTitle, captured] using good
  · simp only [setTitle, captured]
    exact {
      held_length := good.held_length
      fits := good.fits
      done_eq := by rw [good.done_eq, captured]
      untouched := by simp
      confined := by
        intro area' found
        simp only [Option.some.injEq] at found
        subst found
        obtain ⟨small, kept⟩ := good.confined area captured
        exact ⟨small, by rw [ArgArea.drop_write, kept]⟩ }

theorem good_set (good : Good p s) (i : Nat) {h : Held} (fits : h.Fits p.args) :
    Good p { s with held := s.held.set i h } where
  held_length := by simp [good.held_length]
  fits := by
    intro h' mem
    rcases List.mem_or_eq_of_mem_set mem with old | rfl
    · exact good.fits h' old
    · exact fits
  done_eq := good.done_eq
  untouched := good.untouched
  confined := good.confined

theorem Good.step (good : Good p s) (e : ArgvStep p.args.length) : Good p (s.step p e) := by
  cases e with
  | init v => exact good_init good v
  | setTitle t => exact good_setTitle good t
  | store i bytes => exact good_set good i trivial
  | reslice i j lo hi =>
    simp only [ArgvState.step]
    split
    · rename_i h sliced
      obtain ⟨h0, found, sliced⟩ := Option.bind_eq_some_iff.1 sliced
      exact good_set good i (Held.fits_slice (good.fits h0 (List.mem_of_getElem? found)) sliced)
    · exact good

theorem Good.run (good : Good p s) (steps : List (ArgvStep p.args.length)) :
    Good p (s.run p steps) := by
  induction steps generalizing s with
  | nil => exact good
  | cons e steps ih => exact ih (good.step e)

theorem area_step (good : Good p s) (e : ArgvStep p.args.length) :
    (s.step p e).area = match e with
      | .init (.own slice) =>
        if s.area.isNone && s.accepts p (.own slice) then
          (ArgArea.locate (s.data p slice.len)).map (·.2)
        else s.area
      | _ => s.area := by
  cases e with
  | init v =>
    rcases v with slice | _
    · have fresh : (!s.done) = s.area.isNone := by rw [good.done_eq]; cases s.area <;> rfl
      simp only [step, init, fresh, Bool.and_comm]
      split <;> rfl
    · rfl
  | setTitle t =>
    simp only [step, setTitle]
    split <;> rfl
  | store i bytes => rfl
  | reslice i j lo hi =>
    simp only [step]
    split <;> rfl

theorem area_step_of_captured (good : Good p s) (captured : s.area.isSome)
    (e : ArgvStep p.args.length) : (s.step p e).area = s.area := by
  rw [area_step good e]
  have taken : s.area.isNone = false := by simpa using captured
  cases e with
  | init v => rcases v with slice | _ <;> simp [taken]
  | _ => rfl

/-- After `app` alone is captured, a slice of `app` that element 1 still holds, put back in
element 0, makes the whole vector pass again; the area stays. -/
example :
    let p : Proc := ⟨[[97, 112, 112], [120]], [], [], 1, []⟩
    let s := (start p).run p [.reslice 1 0 0 3, .init (.own ⟨0, 1, by decide⟩), .reslice 0 1 0 3]
    s.accepts p (.whole _) = true ∧ (s.step p (.init (.whole _))).area = some ⟨3, [97, 112, 112]⟩ := by
  decide

theorem block_setTitle_of_none (nothing : s.area = none) (t : Title) :
    (s.step p (.setTitle t)).block = s.block := by
  simp [step, setTitle, nothing]

end Steps

theorem placed_layout (lo hi : Nat) (args : List Bytes) (base : Nat) :
    ArgSlot.Placed lo hi base (args.map fun a => { bytes := a })
      (args.mapIdx fun i _ => base + (ArgSlot.layout ((args.map fun a => { bytes := a }).take i)).length) := by
  induction args generalizing base with
  | nil => exact .nil base
  | cons a rest ih =>
    rw [List.map_cons, List.mapIdx_cons]
    have shifted : (rest.mapIdx fun i _ => base +
        (ArgSlot.layout (({ bytes := a } :: rest.map fun a => { bytes := a }).take (i + 1))).length) =
        rest.mapIdx fun i _ => (base + a.length + 1) +
          (ArgSlot.layout ((rest.map fun a => { bytes := a }).take i)).length := by
      congr 1
      funext i _
      simp only [List.take_succ_cons, ArgSlot.layout_cons, Bool.false_eq_true, if_false,
        List.length_append, List.length_singleton]
      omega
    simp only [List.take_zero, ArgSlot.layout_nil, List.length_nil, Nat.add_zero]
    rw [shifted]
    exact .inBlock rfl (ih (base + a.length + 1))

/-- The setter the library sees in a state of the process: the area captured, and the area of
the process's own vector until a capture has run. -/
def setter (s : ArgvState) : Setter := .argv s.area (if s.done then none else p.startupArea)

/-- What the library's calls keep: until a capture has run, every element is its whole
argument. -/
def Pristine (s : ArgvState) : Prop := s.done = false → s.held = (start p).held

section Library

variable {p} {s : ArgvState}

theorem data_of_kernel (kernel : s.held = (start p).held) :
    s.data p p.args.length = ArgSlot.withData (p.args.mapIdx fun i _ => p.slot i) p.slots := by
  apply List.ext_getElem
  · simp [data, kernel, start, ArgSlot.withData, Proc.slots]
  · intro i inside _
    have bound : i < p.args.length := by simpa [data, kernel, start] using inside
    simp [data, kernel, start, ArgSlot.withData, Proc.slots, Held.addr, Held.bytes,
      List.getD_eq_getElem?_getD, List.getElem?_eq_getElem bound]

theorem locate_of_kernel (kernel : s.held = (start p).held) :
    ArgArea.locate (s.data p p.args.length) = p.startupArea.map (1, ·) := by
  rw [data_of_kernel kernel, Proc.startupArea]
  exact ArgArea.locate_placed (placed_layout _ _ p.args 1) (by simp [Proc.slots])

theorem accepts_whole_of_kernel (kernel : s.held = (start p).held) :
    s.accepts p (.whole _) = p.startupArea.isSome := by
  simp only [accepts, ArgVec.whole, kernel, start, Proc.startupArea, Proc.slots]
  rcases p.args with _ | ⟨a, rest⟩
  · rfl
  · by_cases empty : a = [] <;> simp [ArgArea.capture, empty, Held.addr, Held.bytes]

theorem init_whole_of_kernel (good : Good p s) (fresh : s.done = false)
    (kernel : s.held = (start p).held) :
    (s.init p (.whole _)).area = p.startupArea ∧ (s.init p (.whole _)).done = p.startupArea.isSome ∧
      (s.init p (.whole _)).block = s.block := by
  have taken := accepts_whole_of_kernel kernel
  simp only [ArgVec.whole] at taken ⊢
  simp only [init, taken, fresh, Bool.not_false, Bool.and_true]
  rcases captured : p.startupArea with _ | area
  · exact ⟨area_none_of_fresh good fresh, fresh, rfl⟩
  · simp [locate_of_kernel kernel, captured]

theorem init_of_not_done {v : ArgVec p.args.length} (fresh : (s.init p v).done = false) :
    s.init p v = s := by
  rcases v with slice | _
  · revert fresh
    simp only [init]
    split
    · simp
    · exact fun _ => rfl
  · rfl

theorem pristine_step (pristine : Pristine p s) (c : SetterStep) :
    Pristine p (s.step p (c.argvStep _)) := by
  cases c with
  | init =>
    intro fresh
    have kept : s.init p (.whole _) = s := init_of_not_done fresh
    have unchanged : s.done = false := by rw [← kept]; exact fresh
    simp only [SetterStep.argvStep, step, kept]
    exact pristine unchanged
  | setTitle t =>
    simp only [SetterStep.argvStep, step, setTitle]
    split
    · exact pristine
    · exact pristine

theorem perform_setter (good : Good p s) (pristine : Pristine p s) (c : SetterStep)
    (fx : Effects) (same : fx.block = s.block) :
    c.perform p (s.setter p, fx) =
      ((s.step p (c.argvStep _)).setter p, { fx with block := (s.step p (c.argvStep _)).block }) := by
  cases c with
  | init =>
    simp only [SetterStep.perform, SetterStep.argvStep, step, setter, Setter.init]
    cases fresh : s.done
    · obtain ⟨area, done, block⟩ := init_whole_of_kernel good fresh (pristine fresh)
      simp only [area_none_of_fresh good fresh, area, done, block, ← same]
      cases p.startupArea <;> rfl
    · have kept : s.init p (.whole _) = s := by
        simp [init, ArgVec.whole, fresh]
      simp [kept, fresh, ← same]
  | setTitle t =>
    show (s.setter p, Titler.apply (s.setter p) t fx) =
      ((s.setTitle t).setter p, { fx with block := (s.setTitle t).block })
    rcases Option.eq_none_or_eq_some s.area with nothing | ⟨area, found⟩
    · simp [setTitle, setter, nothing, Titler.apply, ← same]
    · simp [setTitle, setter, found, Titler.apply, same]

theorem run_setter (good : Good p s) (pristine : Pristine p s) (calls : List SetterStep)
    (fx : Effects) (same : fx.block = s.block) :
    SetterStep.run p (s.setter p, fx) calls =
      let s' := s.run p (calls.map (·.argvStep _))
      (s'.setter p, { fx with block := s'.block }) := by
  induction calls generalizing s fx with
  | nil => simp [SetterStep.run, run, ← same]
  | cons c calls ih =>
    simp only [SetterStep.run, List.map_cons, run]
    rw [perform_setter good pristine c fx same]
    exact ih (good.step _) (pristine_step pristine c) _ rfl

end Library

/-- The library's argument-block setter is the process's own, seen through `setter`, over every
sequence of initializations and titles. -/
theorem library_setter_refined (p : Proc) (calls : List SetterStep) :
    SetterStep.run p ((Library.start p).setter, p.initial) calls =
      let s := (start p).run p (calls.map (·.argvStep _))
      (s.setter p, { p.initial with block := s.block }) :=
  run_setter (good_start p) (fun _ => rfl) calls p.initial rfl

/-- Over every run of a program that uses the setter, the area is set once, by the first vector
the setter takes, and nothing from its end on is ever written. -/
theorem captures_only_process_vector (p : Proc) (steps : List (ArgvStep p.args.length))
    (e : ArgvStep p.args.length) :
    let s := (start p).run p steps
    (s.step p e).area = (match e with
      | .init (.own slice) =>
        if s.area.isNone && s.accepts p (.own slice) then
          (ArgArea.locate (s.data p slice.len)).map (·.2)
        else s.area
      | _ => s.area) ∧
    (∀ v, s.accepts p v = true ↔ ∃ slice, v = .own slice ∧ 0 < slice.len ∧ slice.start = 0 ∧
      (∃ first, p.args.head? = some first ∧ first ≠ []) ∧
      ∃ h, s.held.head? = some h ∧ h.addr p = p.slot 0 ∧ h.bytes p.args ≠ []) ∧
    (s.area.isSome → (s.step p e).area = s.area) ∧
    (s.area = none → s.block = p.initial.block ∧ ∀ t, (s.step p (.setTitle t)).block = s.block) ∧
    (∀ area, s.area = some area → area.size < p.initial.block.length ∧
      s.block.drop area.size = p.initial.block.drop area.size) := by
  intro s
  have good : Good p s := (good_start p).run steps
  exact ⟨area_step good e, accepts_iff p s, fun captured => area_step_of_captured good captured e,
    fun nothing => ⟨good.untouched nothing, block_setTitle_of_none nothing⟩, good.confined⟩

/-- Handed the first element of the vector of `app x` alone, the setter takes it and captures
the area of `app`, where the whole vector gives the area of `app x`. -/
theorem captures_first_element_alone :
    let p : Proc := ⟨[[97, 112, 112], [120]], [], [], 1, []⟩
    ((start p).step p (.init (.own ⟨0, 1, by decide⟩))).area = some ⟨3, [97, 112, 112]⟩ ∧
      ((start p).step p (.init (.own ⟨0, 2, by decide⟩))).area = some ⟨5, [97, 112, 112]⟩ := by
  intro p
  have alone := (captures_only_process_vector p [] (.init (.own ⟨0, 1, by decide⟩))).1
  have whole := (captures_only_process_vector p [] (.init (.own ⟨0, 2, by decide⟩))).1
  exact ⟨alone.trans (by decide), whole.trans (by decide)⟩

/-- After `argv[0]` is cut to `ap` in place, the setter still takes the vector of `app x`, and
captures the two bytes of `ap`. -/
example :
    let p : Proc := ⟨[[97, 112, 112], [120]], [], [], 1, []⟩
    ((start p).run p [.reslice 0 0 0 2, .init (.own ⟨0, 2, by decide⟩)]).area =
      some ⟨2, [97, 112]⟩ := by
  decide

end ArgvState

end ProcessTitle
