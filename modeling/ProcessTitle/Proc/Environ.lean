import ProcessTitle.Text.Bytes

/-!
Environments: names bound to values. An environment is read from `NAME=value` entries: each
entry is cut at its first `=`, entries without `=` or with an empty name are skipped, and when a
name repeats the last value wins. Names are kept in byte order, which is the order in which an
environment is shown.
-/

namespace ProcessTitle

/-- Names bound to values, each name once, in byte order of the names. -/
structure Environ where
  entries : List (Bytes × Bytes)
deriving DecidableEq, Repr, Inhabited

namespace Environ

def empty : Environ := ⟨[]⟩

/-- Inserts a binding into a list in byte order, replacing a binding of the same name. -/
def insertSorted (k v : Bytes) : List (Bytes × Bytes) → List (Bytes × Bytes)
  | [] => [(k, v)]
  | (k', v') :: rest =>
    if k == k' then (k, v) :: rest
    else if Bytes.lexLt k k' then (k, v) :: (k', v') :: rest
    else (k', v') :: insertSorted k v rest

def insert (e : Environ) (k v : Bytes) : Environ := ⟨insertSorted k v e.entries⟩

def get? (e : Environ) (k : Bytes) : Option Bytes := e.entries.lookup k

def toList (e : Environ) : List (Bytes × Bytes) := e.entries

def size (e : Environ) : Nat := e.entries.length

/-- One `NAME=value` entry, cut at its first `=`; `none` without `=` or with an empty name. -/
def entry? (raw : Bytes) : Option (Bytes × Bytes) :=
  match Bytes.cut (Bytes.byte '=') raw with
  | some (k, v) => if k.isEmpty then none else some (k, v)
  | none => none

/-- The environment of a list of entries: malformed entries are skipped, the last value of a
name wins. -/
def ofEntries (raw : List Bytes) : Environ :=
  raw.foldl (fun e r => match entry? r with
    | some (k, v) => e.insert k v
    | none => e) empty

def ofPairs (ps : List (Bytes × Bytes)) : Environ :=
  ps.foldl (fun e p => e.insert p.1 p.2) empty

end Environ

end ProcessTitle
