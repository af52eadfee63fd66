import ProcessTitle.Text.Bytes

/-!
The thread name. From the main thread a name goes to `PR_SET_NAME`, from any other it is written
to `/proc/self/comm`; what the system does with either is the parameter `Os`.
-/

namespace ProcessTitle

namespace ThreadName

/-- The longest thread name the kernel keeps, in bytes. -/
def limit : Nat := 15

/-- The name as the kernel stores it: at most `limit` bytes, up to the first NUL. -/
def stored (name : Bytes) : Bytes := (name.take limit).takeWhile (· != Bytes.nul)

/-- What naming a thread asks of the system. Each request gives `none` when it is refused. -/
structure Os where
  /-- A copy of a name as a C string: the bytes before its terminator. -/
  cString : Bytes → Option Bytes
  /-- `prctl(PR_SET_NAME)` on a C string: the calling thread's new name. -/
  prctlSetName : Bytes → Option Bytes
  /-- A write of the bytes to `/proc/self/comm`: the thread-group leader's new name. -/
  writeComm : Bytes → Option Bytes

namespace Os

/-- The name `PR_SET_NAME` gives for `name`, when `name` can be passed as a C string and the
call succeeds. -/
def viaPrctl (os : Os) (name : Bytes) : Option Bytes := (os.cString name).bind os.prctlSetName

/-- What the system promises of the three requests. -/
structure Documented (os : Os) : Prop where
  /-- A C string ends at its first NUL, so a name that holds one is refused. -/
  cString_refuses_nul : ∀ s, Bytes.nul ∈ s → os.cString s = none
  /-- A C string that is made holds the bytes of the name. -/
  cString_copies : ∀ s p, os.cString s = some p → p = s
  /-- `PR_SET_NAME` keeps at most `limit` bytes: where it renames, the name is the first
  `limit` bytes of the C string. -/
  prctlSetName_take : ∀ p n, Bytes.nul ∉ p → os.prctlSetName p = some n → n = p.take limit
  /-- Of what is written to `comm`, the kernel keeps the bytes before the first NUL, at most
  `limit` of them. -/
  writeComm_stored : ∀ w, os.writeComm w = some (stored w)

/-- Linux: a C string is refused exactly when the name holds a NUL, and both `PR_SET_NAME` and
a write to `comm` store the name as `stored` cuts it. -/
def linux : Os where
  cString s := if Bytes.nul ∈ s then none else some s
  prctlSetName p := some (stored p)
  writeComm w := some (stored w)

end Os

/-- The thread name after setting the short name `name`, from the main thread (`onMain`) or
another: an empty name is ignored, and any other is cut to `limit` bytes first. From the main
thread the cut name goes to `PR_SET_NAME`; where that is refused, and always from another
thread, it is written to `comm`. A refused write leaves the name as it was. -/
def setShortName (os : Os) (onMain : Bool) (current name : Bytes) : Bytes :=
  if name.isEmpty then current
  else
    let cut := name.take limit
    let renamed := if onMain then os.viaPrctl cut else none
    renamed.getD ((os.writeComm cut).getD current)

/-- The thread name after setting the short name `name` from the main thread of a Linux
process. -/
def set (current name : Bytes) : Bytes := setShortName Os.linux true current name

end ThreadName

end ProcessTitle
