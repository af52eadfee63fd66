import Mathlib.Data.List.TakeWhile
import ProcessTitle.Titler

/-!
# Setting the thread name
-/

namespace ProcessTitle

namespace ThreadName

theorem stored_take (name : Bytes) : stored (name.take limit) = stored name := by
  simp only [stored, List.take_take, Nat.min_self]

theorem stored_of_nul_free {name : Bytes} (free : Bytes.nul ∉ name) :
    stored name = name.take limit := by
  apply List.takeWhile_eq_self_iff.2
  intro b mem
  have other : b ≠ Bytes.nul := fun same => free (same ▸ List.mem_of_mem_take mem)
  simpa using other

namespace Os.Documented

-- a name `PR_SET_NAME` accepts holds no NUL, so cutting it at the first NUL changes nothing
theorem viaPrctl_eq {os : Os} (documented : os.Documented) {name n : Bytes}
    (renamed : os.viaPrctl name = some n) : n = stored name := by
  obtain ⟨p, made, named⟩ := Option.bind_eq_some_iff.1 renamed
  obtain rfl : p = name := documented.cString_copies name p made
  have free : Bytes.nul ∉ p := fun nul => by
    rw [documented.cString_refuses_nul p nul] at made
    cases made
  rw [documented.prctlSetName_take p n free named, stored_of_nul_free free]

theorem viaPrctl_agrees {os : Os} (documented : os.Documented) {name n : Bytes}
    (renamed : os.viaPrctl name = some n) : os.writeComm name = some n := by
  rw [documented.writeComm_stored, documented.viaPrctl_eq renamed]

theorem setShortName_eq {os : Os} (documented : os.Documented) (onMain : Bool)
    (current name : Bytes) :
    setShortName os onMain current name = if name.isEmpty then current else stored name := by
  unfold setShortName
  split
  · rfl
  · dsimp only
    -- the name is cut before either route sees it, and the cut is stored as the name is
    rw [← stored_take name]
    cases renamed : (if onMain then os.viaPrctl (name.take limit) else none) with
    | none => rw [Option.getD_none, documented.writeComm_stored, Option.getD_some]
    | some n =>
      have via : os.viaPrctl (name.take limit) = some n := by
        split at renamed
        · exact renamed
        · cases renamed
      rw [Option.getD_some, documented.viaPrctl_eq via]

end Os.Documented

theorem Os.linux_documented : Os.linux.Documented where
  cString_refuses_nul _ nul := if_pos nul
  cString_copies s p made := by
    simp only [Os.linux] at made
    split at made
    · cases made
    · exact (Option.some.inj made).symm
  prctlSetName_take _ _ free named := by
    rw [← Option.some.inj named]
    exact stored_of_nul_free free
  writeComm_stored _ := rfl

theorem set_eq (current name : Bytes) :
    set current name = if name.isEmpty then current else stored name :=
  Os.linux_documented.setShortName_eq true current name

theorem set_of_ne_nil {name : Bytes} (named : name ≠ []) (current : Bytes) :
    set current name = stored name := by
  rw [set_eq, if_neg (by simpa using named)]

end ThreadName

namespace Path

theorem base_ne_nil (p : Bytes) : base p ≠ [] := by
  unfold base
  split
  · simp
  · dsimp only
    split
    · simp
    · rename_i trimmed
      -- past the trailing slashes, the last byte belongs to the last element
      rw [Bytes.trimRight] at trimmed
      rw [Bytes.trimRight, List.reverse_reverse]
      have kept : p.reverse.dropWhile (· == slash) ≠ [] := by simpa using trimmed
      obtain ⟨b, rest, split⟩ := List.exists_cons_of_ne_nil kept
      have last : b ≠ slash := by
        simpa [split] using List.head_dropWhile_not (· == slash) kept
      simp [split, last]

end Path

namespace Title

theorem shortName_of_hasProgram {T : Title} (named : T.hasProgram = true) :
    T.shortName = Path.base T.program := by
  simp_all [shortName, hasProgram]

end Title

namespace Titler

theorem comm_apply (setter : Setter) (T : Title) (fx : Effects) :
    (apply setter T fx).comm = fx.comm := by
  rcases setter with ⟨_, _⟩ | ⟨_ | _, _⟩ <;> rfl

theorem comm_setFromCommandLine_argv (t : Titler) (area startup : Option ArgArea) (host : Host)
    (args : List Bytes) (fx : Effects) :
    let r := t.setFromCommandLine (.argv area startup) host args fx
    r.2.2.comm = if r.1.hasProgram then ThreadName.stored (Path.base r.1.program) else fx.comm := by
  cases disabled : t.disabled
  · simp only [setFromCommandLine, disabled, Bool.false_eq_true, if_false, Setter.init,
      Setter.isShortNamer, Bool.true_and]
    -- the setter sees the title only through its program, whatever the build logged
    generalize t.build host args = built
    obtain ⟨T, log⟩ := built
    cases named : T.hasProgram
    · simp [comm_apply]
    · have renamed := ThreadName.set_of_ne_nil (Path.base_ne_nil T.program) fx.comm
      simp [comm_apply, applyShortName, Title.shortName_of_hasProgram named, renamed]
  · simp [setFromCommandLine_disabled t _ host args fx disabled, Title.empty, Title.hasProgram]

end Titler

namespace ThreadName

/-- Setting a short name on a system that keeps its documented promises stores `stored name`,
whichever route it takes, and a titler with the argument-block setter names the thread after its
title's program. -/
theorem setShortName_stores_cut (os : Os) (documented : os.Documented) :
    (∀ onMain current name, setShortName os onMain current name =
      if name.isEmpty then current else stored name) ∧
    (∀ name n, os.viaPrctl name = some n → os.writeComm name = some n) ∧
    (∀ (t : Titler) (area startup : Option ArgArea) (host : Host) (args : List Bytes)
        (fx : Effects),
      let r := t.setFromCommandLine (.argv area startup) host args fx
      r.2.2.comm = if r.1.hasProgram then stored (Path.base r.1.program) else fx.comm) :=
  ⟨documented.setShortName_eq, fun _ _ renamed => documented.viaPrctl_agrees renamed,
    Titler.comm_setFromCommandLine_argv⟩

theorem setShortName_stores_cut_inside_character :
    Os.linux.Documented ∧
      setShortName Os.linux true (Bytes.ofString "init") (Bytes.ofString "éééééééé") =
        (Bytes.ofString "éééééééé").take 15 := by
  refine ⟨Os.linux_documented, ?_⟩
  rw [(setShortName_stores_cut Os.linux Os.linux_documented).1]
  decide +kernel

end ThreadName

end ProcessTitle
