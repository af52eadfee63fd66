import ProcessTitle.Titler

/-!
# Building titles through a titler
-/

namespace ProcessTitle

/-! ### The deleted mark -/

namespace Title

theorem deletedMark_ne_nil : deletedMark ≠ [] := by decide +kernel

theorem stripDeleted_append (path : Bytes) : stripDeleted (path ++ deletedMark) = path := by
  simp [stripDeleted, Bytes.dropSuffix]

theorem stripDeleted_of_not_suffix {target : Bytes} (unmarked : ¬ deletedMark <:+ target) :
    stripDeleted target = target := by
  simp [stripDeleted, Bytes.dropSuffix, unmarked]

theorem stripDeleted_stripDeleted_eq_iff (target : Bytes) :
    stripDeleted (stripDeleted target) = stripDeleted target ↔
      ¬ deletedMark ++ deletedMark <:+ target := by
  by_cases marked : deletedMark <:+ target
  · obtain ⟨path, rfl⟩ := marked
    rw [stripDeleted_append, List.suffix_append_self_iff]
    by_cases twice : deletedMark <:+ path
    · obtain ⟨base, rfl⟩ := twice
      have longer : base ≠ base ++ deletedMark :=
        fun same => deletedMark_ne_nil (List.self_eq_append_right.mp same)
      simp [stripDeleted_append, longer]
    · simp [stripDeleted_of_not_suffix twice, twice]
  · have notTwice : ¬ deletedMark ++ deletedMark <:+ target :=
      fun twice => marked ((List.suffix_append _ _).trans twice)
    simp [stripDeleted_of_not_suffix marked, notTwice]

theorem build_eq_build_iff (args : List Bytes) (exe exe' : Bytes) :
    build args exe = build args exe' ↔ stripDeleted exe = stripDeleted exe' := by
  constructor
  · intro same
    exact congrArg Title.program same
  · intro same
    simp [build, same]

theorem stripDeleted_cases (exe : Bytes) :
    (∃ path, exe = path ++ deletedMark ∧ stripDeleted exe = path) ∨
      (¬ deletedMark <:+ exe ∧ stripDeleted exe = exe) := by
  by_cases marked : deletedMark <:+ exe
  · obtain ⟨path, rfl⟩ := marked
    exact .inl ⟨path, rfl, stripDeleted_append path⟩
  · exact .inr ⟨marked, stripDeleted_of_not_suffix marked⟩

end Title

/-! ### Titles of a command line -/

namespace Bytes

theorem join_cons (x : UInt8) (part : Bytes) (rest : List Bytes) :
    join [x] (part :: rest) = part ++ rest.flatMap (x :: ·) := by
  induction rest generalizing part with
  | nil => simp [join]
  | cons next rest ih =>
    rw [join, List.intercalate_cons_cons, ← join, ih]
    simp

end Bytes

namespace Title

theorem program_build (args : List Bytes) (exe : Bytes) :
    (build args exe).program = stripDeleted exe := rfl

theorem text_build (args : List Bytes) (exe : Bytes) :
    (build args exe).text = Bytes.join [Bytes.space]
      ((if stripDeleted exe = [] then [] else [stripDeleted exe]) ++ args.drop 1) := by
  simp [build]

theorem text_build_of_program {args : List Bytes} {exe : Bytes} (named : stripDeleted exe ≠ []) :
    (build args exe).text = stripDeleted exe ++ (args.drop 1).flatMap (Bytes.space :: ·) := by
  rw [text_build, if_neg named, List.singleton_append, Bytes.join_cons]

/-- The title of a command line: the program, when there is one, and the arguments after the first,
joined by single spaces. -/
theorem build_joins_program_and_tail (args : List Bytes) (exe : Bytes) :
    ((∃ path, exe = path ++ deletedMark ∧ (build args exe).program = path) ∨
      (¬ deletedMark <:+ exe ∧ (build args exe).program = exe)) ∧
    (build args exe).text = Bytes.join [Bytes.space]
      ((if (build args exe).program = [] then [] else [(build args exe).program]) ++ args.drop 1) ∧
    (∀ args' : List Bytes, args'.drop 1 = args.drop 1 → build args' exe = build args exe) ∧
    ((build args exe).program ≠ [] →
      (build args exe).program <+: (build args exe).text ∧
      ((build args exe).text = (build args exe).program ↔ args.length ≤ 1)) := by
  refine ⟨stripDeleted_cases exe, text_build args exe, fun args' sameTail => ?_, fun named => ?_⟩
  · simp [build, sameTail]
  · rw [program_build] at named ⊢
    rw [text_build_of_program named]
    refine ⟨List.prefix_append _ _, ?_⟩
    -- every argument after the first adds at least its space
    rw [List.append_right_eq_self, List.flatMap_eq_nil_iff, ← List.drop_eq_nil_iff]
    constructor
    · intro spaced
      apply List.eq_nil_iff_forall_not_mem.mpr
      intro arg member
      exact List.cons_ne_nil _ _ (spaced arg member)
    · intro none arg member
      simp [none] at member

/-- A deleted executable and an empty argument: the program loses its mark, the empty argument
leaves a doubled space, and another first argument gives the same title. -/
theorem build_joins_program_and_tail_deleted :
    build [Bytes.ofString "sh", [], Bytes.ofString "x"] (Bytes.ofString "/bin/app (deleted)") =
        build [Bytes.ofString "app", [], Bytes.ofString "x"] (Bytes.ofString "/bin/app (deleted)") ∧
      (build [Bytes.ofString "app", [], Bytes.ofString "x"] (Bytes.ofString "/bin/app (deleted)")).program <+:
        (build [Bytes.ofString "app", [], Bytes.ofString "x"] (Bytes.ofString "/bin/app (deleted)")).text ∧
      (build [Bytes.ofString "app", [], Bytes.ofString "x"] (Bytes.ofString "/bin/app (deleted)")).text ≠
        (build [Bytes.ofString "app", [], Bytes.ofString "x"] (Bytes.ofString "/bin/app (deleted)")).program := by
  obtain ⟨-, -, sameTitle, named⟩ :=
    build_joins_program_and_tail [Bytes.ofString "app", [], Bytes.ofString "x"] (Bytes.ofString "/bin/app (deleted)")
  obtain ⟨starts, whole⟩ := named (by decide +kernel)
  exact ⟨sameTitle _ rfl, starts, fun same => absurd (whole.mp same) (by decide)⟩

end Title

/-! ### Resolving the link -/

namespace Executable

variable (readLink : Bytes → Option Bytes) (link : Bytes)

theorem getD_resolve {target : Bytes} (linked : link ≠ []) (reads : readLink link = some target) :
    (resolve readLink link).getD [] = Title.stripDeleted target := by
  by_cases empty : Title.stripDeleted target = [] <;> simp [resolve, linked, reads, empty]

theorem resolve_of_unreadable (unreadable : readLink link = none) : resolve readLink link = none := by
  by_cases empty : link = []
  · simp [resolve, empty]
  · simp [resolve, empty, unreadable]

end Executable

/-! ### Titles a titler builds -/

namespace Titler

theorem build_unformatted {t : Titler} (host : Host) (args : List Bytes)
    (unformatted : t.format = none) :
    (t.build host args).1 = Title.build args ((Executable.resolve host.readLink t.exeLink).getD []) := by
  simp [build, unformatted]

/-- A titler without a format builds the title of its link's target with one deleted mark removed. -/
theorem build_unformatted_eq (t : Titler) (host : Host) (args : List Bytes)
    (unformatted : t.format = none) (emptyPath : host.readLink [] = none) :
    (∀ target, host.readLink t.exeLink = some target →
      (t.build host args).1 = Title.build args (Title.stripDeleted target) ∧
      ((t.build host args).1 = Title.build args target ↔
        ¬ Title.deletedMark ++ Title.deletedMark <:+ target)) ∧
    (host.readLink t.exeLink = none → (t.build host args).1 = Title.build args []) := by
  refine ⟨fun target reads => ?_, fun unreadable => ?_⟩
  · have linked : t.exeLink ≠ [] := by
      intro empty
      rw [empty, emptyPath] at reads
      cases reads
    rw [build_unformatted host args unformatted, Executable.getD_resolve _ _ linked reads]
    refine ⟨rfl, ?_⟩
    rw [Title.build_eq_build_iff, Title.stripDeleted_stripDeleted_eq_iff]
  · rw [build_unformatted host args unformatted, Executable.resolve_of_unreadable _ _ unreadable]
    rfl

/-- A link to a target that carried the mark before it was deleted: the titler drops both
marks, while the title of the raw target keeps one. -/
theorem build_unformatted_eq_twice_marked :
    let target := Bytes.ofString "/x (deleted) (deleted)"
    let host : Host :=
      { readLink := Executable.linkTable [(Bytes.ofString "/l", target)], environ := [], pid := 0,
        evaluate := Expr.Program.machine }
    let t : Titler := { exeLink := Bytes.ofString "/l" }
    host.readLink [] = none ∧ host.readLink t.exeLink = some target ∧
      (t.build host [Bytes.ofString "app"]).1.program = Bytes.ofString "/x" ∧
      (Title.build [Bytes.ofString "app"] target).program = Bytes.ofString "/x (deleted)" ∧
      (t.build host [Bytes.ofString "app"]).1 ≠ Title.build [Bytes.ofString "app"] target := by
  intro target host t
  have emptyPath : host.readLink [] = none := by decide +kernel
  have reads : host.readLink t.exeLink = some target := by decide +kernel
  have twice : Title.deletedMark ++ Title.deletedMark <:+ target := ⟨Bytes.ofString "/x", by decide +kernel⟩
  obtain ⟨built, agrees⟩ := (build_unformatted_eq t host [Bytes.ofString "app"] rfl emptyPath).1 target reads
  refine ⟨emptyPath, reads, ?_, by decide +kernel, fun same => agrees.mp same twice⟩
  rw [built]
  decide +kernel

/-! ### Formats -/

variable (t : Titler) (host : Host) (args : List Bytes)

/-- The title a titler builds before its format applies: the title of the resolved link. -/
def unformatted : Title := Title.build args ((Executable.resolve host.readLink t.exeLink).getD [])

/-- What a format sees: the arguments, the program and text of the title built without it, the
environment and the process id. -/
def formatEnv : Expr.TitleEnv :=
  { args := args, exe := (t.unformatted host args).program, title := (t.unformatted host args).text,
    environ := Environ.ofEntries host.environ, pid := host.pid }

theorem build_format (F : Expr.Program) (formatted : t.format = some F) :
    (t.build host args).1 = match F.eval host.evaluate (t.formatEnv host args) with
      | .ok text => { t.unformatted host args with text := text }
      | .error _ => t.unformatted host args := by
  rcases ran : F.eval host.evaluate (t.formatEnv host args) with msg | text
  all_goals
    simp only [formatEnv, unformatted] at ran
    simp [build, formatted, ran, unformatted]

theorem build_program : (t.build host args).1.program = (t.unformatted host args).program := by
  rcases format : t.format with _ | F
  · rw [build_unformatted host args format]; rfl
  · rw [build_format t host args F format]
    split <;> rfl

theorem build_text : (t.build host args).1.text = match t.format with
    | none => (t.unformatted host args).text
    | some F => match host.evaluate F (t.formatEnv host args) with
      | .ok .nil | .error _ => (t.unformatted host args).text
      | .ok v => v.print := by
  rcases format : t.format with _ | F
  · rw [build_unformatted host args format]; rfl
  · rw [build_format t host args F format]
    dsimp only
    unfold Expr.Program.eval
    -- a string value is its own writing, so every non-nil value is written out
    rcases host.evaluate F (t.formatEnv host args) with e | v
    · rfl
    · cases v <;> simp [Expr.Value.print]

/-- A format can only replace the text of the title built without it, and a failing one changes
nothing. -/
theorem build_format_rewrites_text (t : Titler) (host : Host) (args : List Bytes) :
    let U := unformatted t host args
    let T := (build t host args).1
    T.program = U.program ∧ T.shortName = U.shortName ∧ T.hasProgram = U.hasProgram ∧
      T.text = match t.format with
        | none => U.text
        | some F => match host.evaluate F (formatEnv t host args) with
          | .ok .nil | .error _ => U.text
          | .ok v => v.print := by
  intro U T
  have program : T.program = U.program := build_program t host args
  refine ⟨program, ?_, ?_, build_text t host args⟩
  · simp only [Title.shortName, program]
  · simp only [Title.hasProgram, program]

end Titler

end ProcessTitle
