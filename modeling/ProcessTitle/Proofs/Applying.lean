import ProcessTitle.Titler

/-!
# Applying a title through a setter
-/

namespace ProcessTitle

namespace Setter

/-- A setter handling one call: it takes the arguments, applies a title, or sets a short name. -/
def receive : Setter × Effects → SetterCall → Setter × Effects
  | (setter, fx), .init args =>
    let (setter, calls) := setter.init args fx.calls
    (setter, { fx with calls := calls })
  | (setter, fx), .setTitle text program => (setter, Titler.apply setter ⟨text, program⟩ fx)
  | (setter, fx), .setShortName name => (setter, Titler.applyShortName setter name fx)

@[simp] theorem name_init (setter : Setter) (args : List Bytes) (calls : List SetterCall) :
    (setter.init args calls).1.name = setter.name := by
  rcases setter with ⟨_ | _, _⟩ | ⟨_, _⟩ <;> rfl

@[simp] theorem isShortNamer_init (setter : Setter) (args : List Bytes) (calls : List SetterCall) :
    (setter.init args calls).1.isShortNamer = setter.isShortNamer := by
  rcases setter with ⟨_ | _, _⟩ | ⟨_, _⟩ <;> rfl

theorem init_of_not_initializer {setter : Setter} (ignores : setter.isInitializer = false)
    (args : List Bytes) (calls : List SetterCall) : setter.init args calls = (setter, calls) := by
  rcases setter with ⟨_ | _, _⟩ | ⟨_, _⟩
  · rfl
  · cases ignores
  · cases ignores

theorem receive_log (state : Setter × Effects) (call : SetterCall) (log : List Bytes) :
    receive (state.1, { state.2 with log := log }) call =
      ((receive state call).1, { (receive state call).2 with log := log }) := by
  obtain ⟨setter, fx⟩ := state
  rcases call with _ | _ | _ <;> rcases setter with ⟨_ | _, _⟩ | ⟨_ | _, _⟩ <;> rfl

theorem spans_receive (state : Setter × Effects) (call : SetterCall) :
    (receive state call).2.spans = state.2.spans := by
  obtain ⟨setter, fx⟩ := state
  rcases call with _ | _ | _ <;> rcases setter with ⟨_ | _, _⟩ | ⟨_ | _, _⟩ <;> rfl

theorem foldl_receive_log (calls : List SetterCall) (state : Setter × Effects) (log : List Bytes) :
    calls.foldl receive (state.1, { state.2 with log := log }) =
      ((calls.foldl receive state).1, { (calls.foldl receive state).2 with log := log }) ∧
    (calls.foldl receive state).2.spans = state.2.spans := by
  induction calls generalizing state with
  | nil => exact ⟨rfl, rfl⟩
  | cons call calls ih =>
    obtain ⟨moved, kept⟩ := ih (receive state call)
    simp only [List.foldl_cons]
    refine ⟨?_, by rw [kept, spans_receive]⟩
    rw [receive_log, moved]

end Setter

namespace Titler

/-- The calls a titler makes to apply the title `T` for `args`, in order: the arguments when the
setter takes them, the title, and the short name when the setter keeps one and the title has a
program. -/
def setterCalls (setter : Setter) (args : List Bytes) (T : Title) : List SetterCall :=
  (if setter.isInitializer then [.init args] else []) ++ [.setTitle T.text T.program] ++
    (if setter.isShortNamer && T.hasProgram then [.setShortName T.shortName] else [])

/-- The span a titler records for a title applied through a setter: the short name is the one
the setter was handed, or empty. -/
def setSpan (setter : Setter) (T : Title) : Span :=
  { name := "proctitle.set",
    attrs := [("proctitle.title", T.text), ("proctitle.program", T.program),
      ("proctitle.short_name", if setter.isShortNamer && T.hasProgram then T.shortName else []),
      ("proctitle.setter", Bytes.ofString setter.name)] }

theorem receive_setterCalls (setter : Setter) (args : List Bytes) (T : Title) (fx : Effects) :
    (setterCalls setter args T).foldl Setter.receive (setter, fx) =
      let (setter', calls) := setter.init args fx.calls
      let fx' := apply setter' T { fx with calls := calls }
      (setter', if setter.isShortNamer && T.hasProgram then applyShortName setter' T.shortName fx'
        else fx') := by
  have took : (if setter.isInitializer then [SetterCall.init args] else []).foldl Setter.receive
      (setter, fx) = ((setter.init args fx.calls).1, { fx with calls := (setter.init args fx.calls).2 }) := by
    cases initializer : setter.isInitializer
    · simp [Setter.init_of_not_initializer initializer]
    · simp [Setter.receive]
  rw [setterCalls, List.foldl_append, List.foldl_append, took]
  by_cases named : (setter.isShortNamer && T.hasProgram) = true
  · simp [named, Setter.receive]
  · simp [named, Setter.receive]

theorem calls_apply_argv (area startup : Option ArgArea) (T : Title) (fx : Effects) :
    (apply (.argv area startup) T fx).calls = fx.calls := by
  cases area <;> rfl

theorem calls_receive_setterCalls (setter : Setter) (args : List Bytes) (T : Title) (fx : Effects) :
    ((setterCalls setter args T).foldl Setter.receive (setter, fx)).2.calls = match setter with
      | .recorder _ _ => fx.calls ++ setterCalls setter args T
      | .argv _ _ => fx.calls := by
  rw [receive_setterCalls]
  rcases setter with ⟨initializer, shortNamer⟩ | ⟨area, startup⟩
  · by_cases named : T.hasProgram = true <;> cases initializer <;> cases shortNamer <;>
      simp [named, setterCalls, Setter.init, Setter.isInitializer, Setter.isShortNamer, apply,
        applyShortName]
  · dsimp only [Setter.init]
    split <;> simp [calls_apply_argv, applyShortName]

theorem setFromCommandLine_enabled (t : Titler) (setter : Setter) (host : Host)
    (args : List Bytes) (fx : Effects) (enabled : t.disabled = false) :
    let T := (t.build host args).1
    let D := (setterCalls setter args T).foldl Setter.receive
      (setter, { fx with log := fx.log ++ (t.build host args).2 })
    ∃ log, t.setFromCommandLine setter host args fx =
      (T, D.1, { D.2 with log := log, spans := D.2.spans ++ [setSpan setter T] }) := by
  intro T D
  refine ⟨D.2.log ++ t.debugMessage (Bytes.ofString "title set to " ++ Quoted.quote T.text ++
    Bytes.ofString " via " ++ Bytes.ofString setter.name), ?_⟩
  simp only [D, receive_setterCalls]
  by_cases named : (setter.isShortNamer && T.hasProgram) = true
  · simp [setFromCommandLine, enabled, named, T, setSpan]
  · simp [setFromCommandLine, enabled, named, T, setSpan]

/-- Setting the title from a command line hands the setter the calls of `setterCalls` in order and
records one span; a disabled titler does nothing. -/
theorem setFromCommandLine_calls_in_order (t : Titler) (setter : Setter) (host : Host)
    (args : List Bytes) (fx : Effects) :
    let r := t.setFromCommandLine setter host args fx
    let T := (t.build host args).1
    let calls := setterCalls setter args T
    let delivered := calls.foldl Setter.receive (setter, fx)
    if t.disabled then r = (Title.empty, setter, fx)
    else
      r.1 = T ∧ r.2.1 = delivered.1 ∧ r.2.2.block = delivered.2.block ∧
        r.2.2.comm = delivered.2.comm ∧ r.2.2.calls = delivered.2.calls ∧
        r.2.2.spans = fx.spans ++ [setSpan setter T] ∧
        r.2.2.calls = (match setter with
          | .recorder _ _ => fx.calls ++ calls
          | .argv _ _ => fx.calls) := by
  dsimp only
  split
  · exact setFromCommandLine_disabled t setter host args fx ‹_›
  · rename_i enabled
    let T := (t.build host args).1
    obtain ⟨log, applied⟩ := setFromCommandLine_enabled t setter host args fx (by simpa using enabled)
    -- the build's log went in before the calls; handing them over carries it through untouched
    obtain ⟨moved, kept⟩ :=
      Setter.foldl_receive_log (setterCalls setter args T) (setter, fx) (fx.log ++ (t.build host args).2)
    dsimp only at applied moved kept
    rw [applied, moved]
    exact ⟨rfl, rfl, rfl, rfl, rfl, by rw [kept], calls_receive_setterCalls setter args T fx⟩

/-- A recording setter that takes the arguments and keeps a short name, under a titler whose link
does not resolve: it is handed the arguments and the title, and no short name. -/
example :
    ((Titler.mk [47, 108] none false false).setFromCommandLine (.recorder true true)
      ⟨fun _ => none, [], 7, Expr.Program.machine⟩ [[97], [98]] { block := [], comm := [] }).2.2.calls =
      [.init [[97], [98]], .setTitle [98] []] := by
  decide +kernel

end Titler

end ProcessTitle
