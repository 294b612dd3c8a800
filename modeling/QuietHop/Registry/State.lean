import QuietHop.Registry.Verify

namespace QuietHop
namespace Registry

open Lib

/-!
# The state file behind rollback protection

`load` and `store` on a directory with two files in it: the state file and the
temporary one that is renamed over it.  Reading can fail for reasons other than
a missing file, and `store` can be cut short at any of its system calls, by an
error or by the end of the process.  What the directory holds afterwards is
`StateDir.leave`.
-/

/-- The two files of a state directory; `path` only names it in messages. -/
structure StateDir where
  path : String
  registry : Option Bytes
  tmp : Option Bytes

/-- `Path::join` with a relative name. -/
def joinPath (dir name : String) : String :=
  if dir = "" then name else if dir.endsWith "/" then dir ++ name else dir ++ "/" ++ name

def statePath (dir : StateDir) : String := joinPath dir.path "registry.json"

def tmpPath (dir : StateDir) : String := joinPath dir.path "registry.json.tmp"

variable (lib : External)

/-- Read the stored state.  `fault` is the message of a read that fails for any
reason but a missing file. -/
def load (dir : StateDir) (fault : Option String) : Except RegistryError (Option RegistryState) :=
  match fault with
  | some e => .error (.state s!"{statePath dir} is not readable: {e}")
  | none =>
      match dir.registry with
      | none => .ok none
      | some raw =>
          match lib.parseState raw with
          | .error e => .error (.state s!"{statePath dir} is corrupt and will not be ignored: {e}")
          | .ok state =>
              if state.highestVersion ≤ 0 then
                .error (.state s!"{statePath dir} records a non-positive version")
              else .ok (some state)

/-- The system calls of `store`, in order, with what was done of the one that was
cut short. -/
inductive StorePoint where
  | createDir
  | openTmp (truncated : Bool)
  | writeAll (written : Nat)
  | syncAll
  | rename (replaced : Bool)

/-- How a system call can fail to return normally. -/
inductive Interruption where
  | ioError (text : String)
  | crash

structure StoreFault where
  point : StorePoint
  how : Interruption

/-- What a call returns, or nothing when the process ends inside it. -/
abbrev Outcome (Result : Type) := Option (Except RegistryError Result)

/-- The directory when `store` stops at a point, having encoded `body`.  The
rename either replaces the state file as a whole or does nothing. -/
def StateDir.leave (dir : StateDir) (body : Bytes) : StorePoint -> StateDir
  | .createDir => dir
  | .openTmp truncated => if truncated then { dir with tmp := some [] } else dir
  | .writeAll written => { dir with tmp := some (body.take written) }
  | .syncAll => { dir with tmp := some body }
  | .rename replaced =>
      if replaced then { dir with registry := some body, tmp := none } else { dir with tmp := some body }

def StorePoint.message (dir : StateDir) (e : String) : StorePoint -> String
  | .createDir => s!"cannot create {dir.path}: {e}"
  | .openTmp _ => s!"cannot open {tmpPath dir}: {e}"
  | .writeAll _ => s!"cannot write {tmpPath dir}: {e}"
  | .syncAll => s!"cannot sync {tmpPath dir}: {e}"
  | .rename _ => s!"cannot replace {statePath dir} with {tmpPath dir}: {e}"

def StoreFault.outcome (dir : StateDir) (fault : StoreFault) : Outcome Unit :=
  match fault.how with
  | .ioError e => some (.error (.state (fault.point.message dir e)))
  | .crash => none

/-- Write the state atomically. -/
def store (dir : StateDir) (state : RegistryState) (fault : Option StoreFault) : Outcome Unit × StateDir :=
  match fault with
  | some ⟨.createDir, how⟩ => (StoreFault.outcome dir ⟨.createDir, how⟩, dir)
  | _ =>
      match lib.encodeState state with
      | .error e => (some (.error (.state s!"cannot encode state: {e}")), dir)
      | .ok body =>
          match fault with
          | some fault => (fault.outcome dir, dir.leave body fault.point)
          | none => (some (.ok ()), dir.leave body (.rename true))

theorem registry_leave (dir : StateDir) (body : Bytes) (point : StorePoint) :
    (dir.leave body point).registry = dir.registry ∨ (dir.leave body point).registry = some body := by
  cases point with
  | createDir => exact Or.inl rfl
  | openTmp truncated =>
      cases truncated with
      | false => exact Or.inl rfl
      | true => exact Or.inl rfl
  | writeAll written => exact Or.inl rfl
  | syncAll => exact Or.inl rfl
  | rename replaced =>
      cases replaced with
      | false => exact Or.inl rfl
      | true => exact Or.inr rfl

theorem outcome_ne_ok (dir : StateDir) (fault : StoreFault) : fault.outcome dir ≠ some (.ok ()) := by
  cases how : fault.how with
  | ioError e => simp [StoreFault.outcome, how]
  | crash => simp [StoreFault.outcome, how]

/-- However `store` ends, the state file is untouched or holds the whole new
state; when it returns normally it holds the new state. -/
theorem store_spec (dir : StateDir) (state : RegistryState) (fault : Option StoreFault) :
    (((store lib dir state fault).2.registry = dir.registry ∧
        (store lib dir state fault).1 ≠ some (.ok ())) ∨
      ∃ body, lib.encodeState state = .ok body ∧ (store lib dir state fault).2.registry = some body) := by
  unfold store
  split
  · exact Or.inl ⟨rfl, outcome_ne_ok dir _⟩
  · cases encoded : lib.encodeState state with
    | error e => exact Or.inl ⟨rfl, by simp⟩
    | ok body =>
        cases fault with
        | none => exact Or.inr ⟨body, rfl, rfl⟩
        | some fault =>
            rcases registry_leave dir body fault.point with kept | replaced
            · exact Or.inl ⟨kept, outcome_ne_ok dir fault⟩
            · exact Or.inr ⟨body, rfl, replaced⟩

/-- A rename that fails leaves the state file as it was. -/
def RenameKeeps (fault : Option StoreFault) : Prop :=
  ∀ found ∈ fault, found.point ≠ .rename true

/-- Where `store` stops short of the rename, only the temporary file has changed. -/
theorem leave_eq {point : StorePoint} (short : point ≠ .rename true) (dir : StateDir) (body : Bytes) :
    ∃ tmp, dir.leave body point = { dir with tmp := tmp } := by
  cases point with
  | createDir => exact ⟨dir.tmp, rfl⟩
  | openTmp truncated =>
      cases truncated with
      | false => exact ⟨dir.tmp, rfl⟩
      | true => exact ⟨some [], rfl⟩
  | writeAll written => exact ⟨some (body.take written), rfl⟩
  | syncAll => exact ⟨some body, rfl⟩
  | rename replaced =>
      cases replaced with
      | false => exact ⟨some body, rfl⟩
      | true => exact absurd rfl short

theorem store_error {dir after : StateDir} {state : RegistryState} {fault : Option StoreFault} {e : RegistryError}
    (keeps : RenameKeeps fault) (failed : store lib dir state fault = (some (.error e), after)) :
    ∃ tmp, after = { dir with tmp := tmp } := by
  unfold store at failed
  split at failed
  · exact ⟨dir.tmp, (Prod.mk.inj failed).2.symm⟩
  cases encoded : lib.encodeState state with
  | error reason =>
      rw [encoded] at failed
      cases failed
      exact ⟨dir.tmp, rfl⟩
  | ok body =>
      rw [encoded] at failed
      cases fault with
      | none => cases failed
      | some found =>
          rcases leave_eq (keeps found rfl) dir body with ⟨tmp, same⟩
          exact ⟨tmp, (Prod.mk.inj failed).2.symm.trans same⟩

theorem store_of_encodes {dir : StateDir} {state : RegistryState} {raw : Bytes}
    (encoded : lib.encodeState state = .ok raw) :
    store lib dir state none = (some (.ok ()), { dir with registry := some raw, tmp := none }) := by
  simp only [store, encoded]
  rfl

/-- The temporary file is never read. -/
@[simp] theorem load_tmp (dir : StateDir) (tmp : Option Bytes) (fault : Option String) :
    load lib { dir with tmp := tmp } fault = load lib dir fault := rfl

/-- A read that succeeds did not fail, and what it found stands. -/
theorem load_ok {dir : StateDir} {fault : Option String} {previous : Option RegistryState}
    (loaded : load lib dir fault = .ok previous) :
    load lib dir none = .ok previous ∧ ∀ state ∈ previous, 0 < state.highestVersion := by
  cases fault with
  | some e => simp [load] at loaded
  | none =>
      refine ⟨loaded, ?_⟩
      rintro state rfl
      unfold load at loaded
      simp only at loaded
      split at loaded
      · cases loaded
      · split at loaded
        · cases loaded
        · split_ifs at loaded with positive
          cases loaded
          exact not_le.mp positive

end Registry
end QuietHop
