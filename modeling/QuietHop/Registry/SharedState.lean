import QuietHop.Lib.Threads
import QuietHop.Registry.Cache

namespace QuietHop
namespace Registry

open Lib Lib.Threads

/-!
# Two processes on one state directory

Nothing keeps two processes from using the same state directory, and both write through the
same temporary name.  Here `accept_body` is taken apart into its steps, and steps of different
calls interleave.  Files are inodes: opening the temporary name empties the file that is there,
a descriptor keeps writing to its file after a rename, and the rename moves whatever file has
the name by then.

Both things the state file is for can be lost: a slow writer replaces a later version by its
own, and a writer can put in place the file another one has just emptied.  Both need two calls
between the second load and the rename at once.
-/

structure Disk where
  path : String
  registry : Option Nat
  tmp : Option Nat
  contents : (inode : Nat) -> Bytes
  fresh : Nat

namespace Disk

/-- The files by their names. -/
def dir (disk : Disk) : StateDir :=
  ⟨disk.path, disk.registry.map disk.contents, disk.tmp.map disk.contents⟩

/-- `open` with `create` and `truncate` on the temporary name, with the file it opened. -/
def openTmp (disk : Disk) : Disk × Nat :=
  match disk.tmp with
  | some inode => ({ disk with contents := Function.update disk.contents inode [] }, inode)
  | none =>
      ({ disk with tmp := some disk.fresh, contents := Function.update disk.contents disk.fresh [],
                   fresh := disk.fresh + 1 }, disk.fresh)

/-- `write_all` and `sync_all` from the start of an open file. -/
def writeAll (disk : Disk) (inode : Nat) (body : Bytes) : Disk :=
  { disk with contents := Function.update disk.contents inode (body ++ (disk.contents inode).drop body.length) }

/-- `rename` of the temporary name, which fails when there is no such file. -/
def rename (disk : Disk) : Option Disk :=
  disk.tmp.map fun inode => { disk with registry := some inode, tmp := none }

end Disk

/-- Where a call of `accept_body` stands. -/
inductive AcceptPhase where
  | loading
  | verifying (previous : Option RegistryState)
  | reloading (verified : Verified)
  | opening (state : RegistryState)
  | writing (inode : Nat) (raw : Bytes)
  | replacing
  | done (result : Except RegistryError Unit)

/-- From the second load to the rename. -/
def AcceptPhase.isStoring : AcceptPhase -> Bool
  | .opening _ => true
  | .writing _ _ => true
  | .replacing => true
  | _ => false

structure Acceptance where
  pinned : List PinnedKey
  threshold : Nat
  body : Bytes
  now : Int
  phase : AcceptPhase

variable (lib : External)

/-- The next step of a call. -/
def acceptStep (disk : Disk) (call : Acceptance) (_ : Unit) : Disk × Acceptance :=
  match call.phase with
  | .loading =>
      match load lib disk.dir none with
      | .error e => (disk, { call with phase := .done (.error e) })
      | .ok previous => (disk, { call with phase := .verifying previous })
  | .verifying previous =>
      match verify lib call.body call.pinned call.threshold call.now previous with
      | .error e => (disk, { call with phase := .done (.error e) })
      | .ok verified => (disk, { call with phase := .reloading verified })
  | .reloading verified =>
      let state := baseline lib verified call.body
      match load lib disk.dir none with
      | .error e => (disk, { call with phase := .done (.error e) })
      | .ok (some prev) =>
          if prev.highestVersion ≥ state.highestVersion then (disk, { call with phase := .done (.ok ()) })
          else (disk, { call with phase := .opening state })
      | .ok none => (disk, { call with phase := .opening state })
  | .opening state =>
      match lib.encodeState state with
      | .error e => (disk, { call with phase := .done (.error (.state s!"cannot encode state: {e}")) })
      | .ok raw => (disk.openTmp.1, { call with phase := .writing disk.openTmp.2 raw })
  | .writing inode raw => (disk.writeAll inode raw, { call with phase := .replacing })
  | .replacing =>
      match disk.rename with
      | some replaced => (replaced, { call with phase := .done (.ok ()) })
      | none =>
          (disk, { call with phase := .done (.error (.state
            (StorePoint.message disk.dir "No such file or directory (os error 2)" (.rename false)))) })
  | .done _ => (disk, call)

/-- Calls begin with their first load. -/
def Enters : Move Acceptance Unit -> Prop
  | .spawn call => call.phase = .loading
  | .advance _ _ => True

/-- A directory without files. -/
def emptyDisk (path : String) : Disk := ⟨path, none, none, fun _ => [], 0⟩

variable {lib}

/-! ## Files and names -/

namespace Disk

/-- The two names stand for different files, both of them created before. -/
structure WellFormed (disk : Disk) : Prop where
  apart : ∀ inode ∈ disk.registry, disk.tmp ≠ some inode
  registryOld : ∀ inode ∈ disk.registry, inode < disk.fresh
  tmpOld : ∀ inode ∈ disk.tmp, inode < disk.fresh

/-- A write to a file other than the state file does not show in it. -/
theorem map_update_of_ne {registry : Option Nat} {contents : (inode : Nat) -> Bytes} {inode : Nat} (raw : Bytes)
    (other : ∀ target ∈ registry, target ≠ inode) :
    registry.map (Function.update contents inode raw) = registry.map contents := by
  cases registry with
  | none => rfl
  | some target => exact congrArg some (Function.update_of_ne (other target rfl) ..)

theorem openTmp_some {disk : Disk} {inode : Nat} (named : disk.tmp = some inode) :
    disk.openTmp = ({ disk with contents := Function.update disk.contents inode [] }, inode) := by
  simp only [openTmp, named]

theorem openTmp_none {disk : Disk} (unnamed : disk.tmp = none) :
    disk.openTmp = ({ disk with tmp := some disk.fresh, contents := Function.update disk.contents disk.fresh [],
                                fresh := disk.fresh + 1 }, disk.fresh) := by
  simp only [openTmp, unnamed]

/-- What a call has once it has opened the temporary file: the name and the file are its own,
and the file is empty. -/
structure Opened (before after : Disk) (inode : Nat) : Prop where
  formed : after.WellFormed
  path : after.path = before.path
  named : after.tmp = some inode
  empty : after.contents inode = []
  registry : after.dir.registry = before.dir.registry

/-- Opening empties the temporary file and leaves the state file alone. -/
theorem openTmp_opened {disk : Disk} (formed : disk.WellFormed) :
    Opened disk disk.openTmp.1 disk.openTmp.2 := by
  cases named : disk.tmp with
  | some inode =>
      rw [openTmp_some named]
      refine ⟨⟨formed.apart, formed.registryOld, formed.tmpOld⟩, rfl, named, Function.update_self .., ?_⟩
      apply map_update_of_ne
      rintro target held rfl
      exact formed.apart target held named
  | none =>
      rw [openTmp_none named]
      have older : ∀ target ∈ disk.registry, target ≠ disk.fresh := fun target held =>
        Nat.ne_of_lt (formed.registryOld target held)
      refine ⟨⟨?_, ?_, ?_⟩, rfl, rfl, Function.update_self .., map_update_of_ne [] older⟩
      · intro target held same
        exact older target held (Option.some.inj same).symm
      · intro target held
        exact Nat.lt_succ_of_lt (formed.registryOld target held)
      · rintro target ⟨⟩
        exact Nat.lt_succ_self _

/-- Writing the empty file of the temporary name leaves the state file alone. -/
theorem writeAll_spec {disk : Disk} (formed : disk.WellFormed) {inode : Nat} (named : disk.tmp = some inode)
    (empty : disk.contents inode = []) (raw : Bytes) :
    (disk.writeAll inode raw).WellFormed ∧ (disk.writeAll inode raw).contents inode = raw ∧
      (disk.writeAll inode raw).dir.registry = disk.dir.registry := by
  refine ⟨⟨formed.apart, formed.registryOld, formed.tmpOld⟩, by simp [writeAll, empty], ?_⟩
  apply map_update_of_ne
  rintro target held rfl
  exact formed.apart target held named

/-- The rename puts the file of the temporary name in place. -/
theorem rename_spec {disk : Disk} (formed : disk.WellFormed) {inode : Nat} (named : disk.tmp = some inode) :
    ∃ replaced, disk.rename = some replaced ∧ replaced.WellFormed ∧
      replaced.dir = ⟨disk.path, some (disk.contents inode), none⟩ := by
  refine ⟨{ disk with registry := some inode, tmp := none }, by simp [rename, named], ?_, rfl⟩
  refine ⟨by simp, ?_, by simp⟩
  rintro target ⟨⟩
  exact formed.tmpOld inode named

end Disk

/-! ## A call that runs alone -/

variable (lib)

/-- The next steps of one call. -/
def steps : (count : Nat) -> Disk -> Acceptance -> Disk × Acceptance
  | 0, disk, call => (disk, call)
  | count + 1, disk, call => steps count (acceptStep lib disk call ()).1 (acceptStep lib disk call ()).2

/-- The steps of a call end with an outcome and a directory. -/
def Ends (count : Nat) (disk : Disk) (call : Acceptance) (outcome : Outcome Unit) (dir : StateDir) : Prop :=
  ∃ result, (steps lib count disk call).2.phase = .done result ∧ some result = outcome ∧
    (steps lib count disk call).1.dir = dir

variable {lib}

theorem steps_done (count : Nat) {disk : Disk} {call : Acceptance} {result : Except RegistryError Unit}
    (isDone : call.phase = .done result) : steps lib count disk call = (disk, call) := by
  induction count with
  | zero => rfl
  | succ count ih => simp only [steps, acceptStep, isDone, ih]

theorem Ends.of_done (count : Nat) {disk : Disk} {call : Acceptance} {result : Except RegistryError Unit}
    (isDone : call.phase = .done result) : Ends lib count disk call (some result) disk.dir := by
  refine ⟨result, ?_, rfl, ?_⟩
  · rw [steps_done count isDone, isDone]
  · rw [steps_done count isDone]

theorem Ends.succ {count : Nat} {disk : Disk} {call : Acceptance} {outcome : Outcome Unit} {dir : StateDir}
    (ends : Ends lib count (acceptStep lib disk call ()).1 (acceptStep lib disk call ()).2 outcome dir) :
    Ends lib (count + 1) disk call outcome dir := ends

/-- Opening, writing and renaming are `store`. -/
theorem ends_store {disk : Disk} (formed : disk.WellFormed) {call : Acceptance} {state : RegistryState}
    (isOpening : call.phase = .opening state) :
    Ends lib 3 disk call (store lib disk.dir state none).1 (store lib disk.dir state none).2 := by
  apply Ends.succ
  cases encoded : lib.encodeState state with
  | error e =>
      simp only [acceptStep, isOpening, store, encoded]
      exact Ends.of_done 2 rfl
  | ok raw =>
      have opened := Disk.openTmp_opened formed
      rcases Disk.writeAll_spec opened.formed opened.named opened.empty raw with ⟨written, holds, -⟩
      rcases Disk.rename_spec written opened.named with ⟨replaced, renamed, -, inPlace⟩
      have left : disk.dir.leave raw (.rename true) = replaced.dir := by
        rw [inPlace, holds, Disk.writeAll, opened.path]
        rfl
      simp only [acceptStep, isOpening, store, encoded]
      apply Ends.succ
      simp only [acceptStep]
      apply Ends.succ
      simp only [acceptStep, renamed, left]
      exact Ends.of_done 0 rfl

/-- The second load and what follows are `remember`. -/
theorem ends_remember {disk : Disk} (formed : disk.WellFormed) {call : Acceptance} {verified : Verified}
    (isReloading : call.phase = .reloading verified) :
    Ends lib 4 disk call (remember lib disk.dir verified call.body none none).1
      (remember lib disk.dir verified call.body none none).2 := by
  apply Ends.succ
  simp only [acceptStep, isReloading, remember]
  cases load lib disk.dir none with
  | error e => exact Ends.of_done 3 rfl
  | ok stored =>
      cases stored with
      | none => exact ends_store formed rfl
      | some prev =>
          dsimp only
          split_ifs with stale
          · exact Ends.of_done 3 rfl
          · exact ends_store formed rfl

/-- A call that runs alone is `accept_body` when nothing fails. -/
theorem ends_acceptBody {disk : Disk} (formed : disk.WellFormed) (cache : RegistryCache) (body : Bytes)
    (now : Int) :
    Ends lib 6 disk ⟨cache.pinned, cache.threshold, body, now, .loading⟩
      (cache.acceptBody lib disk.dir body now ⟨none, none, none⟩).1
      (cache.acceptBody lib disk.dir body now ⟨none, none, none⟩).2.2 := by
  apply Ends.succ
  simp only [acceptStep, RegistryCache.acceptBody]
  cases load lib disk.dir none with
  | error e => exact Ends.of_done 5 rfl
  | ok previous =>
      apply Ends.succ
      simp only [acceptStep]
      cases verify lib body cache.pinned cache.threshold now previous with
      | error e => exact Ends.of_done 4 rfl
      | ok verified =>
          have remembered := @ends_remember lib disk formed
            ⟨cache.pinned, cache.threshold, body, now, .reloading verified⟩ verified rfl
          dsimp only at remembered ⊢
          generalize remember lib disk.dir verified body none none = answer at remembered ⊢
          -- the outcome decides what the cache holds, not what is returned
          rcases answer with ⟨_ | e | ⟨⟨⟩⟩, dir⟩
          · exact remembered
          · exact remembered
          · exact remembered

/-! ## Calls that store one at a time -/

variable (lib)

/-- The state file, if there is one, can be parsed. -/
def Readable (disk : Disk) : Prop := ∀ raw ∈ disk.dir.registry, ∃ state, lib.parseState raw = .ok state

/-- The `highest_version` on disk. -/
def recorded (disk : Disk) : Option Int :=
  match disk.dir.registry with
  | none => none
  | some raw =>
      match lib.parseState raw with
      | .ok state => some state.highestVersion
      | .error _ => none

/-- A version is there when it was, and is not lower. -/
def NotBelow (floor version : Option Int) : Prop := ∀ low ∈ floor, ∃ high ∈ version, low ≤ high

/-- What is asked of the directory at every moment. -/
structure Kept (floor : Option Int) (disk : Disk) : Prop where
  formed : disk.WellFormed
  readable : Readable lib disk
  above : NotBelow floor (recorded lib disk)

/-- A state that advances the version on disk. -/
def Newer (disk : Disk) (state : RegistryState) : Prop :=
  ∀ version ∈ recorded lib disk, version < state.highestVersion

/-- What a call relies on while it stores: its state advances the version on disk, and the
temporary file is as it left it. -/
def Prepared (disk : Disk) (call : Acceptance) : Prop :=
  match call.phase with
  | .opening state => Newer lib disk state
  | .writing inode raw => disk.tmp = some inode ∧ disk.contents inode = [] ∧
      ∃ state, lib.encodeState state = .ok raw ∧ Newer lib disk state
  | .replacing => ∃ inode state, disk.tmp = some inode ∧ lib.encodeState state = .ok (disk.contents inode) ∧
      Newer lib disk state
  | _ => True

def storing (call : Acceptance) : Bool := call.phase.isStoring

variable {lib}

theorem recorded_congr {before after : Disk} (same : after.dir.registry = before.dir.registry) :
    recorded lib after = recorded lib before := by
  rw [recorded, recorded, same]

theorem Newer.congr {before after : Disk} {state : RegistryState} (newer : Newer lib before state)
    (same : after.dir.registry = before.dir.registry) : Newer lib after state := by
  rw [Newer, recorded_congr same]
  exact newer

theorem Kept.congr {floor : Option Int} {before after : Disk} (kept : Kept lib floor before)
    (formed : after.WellFormed) (same : after.dir.registry = before.dir.registry) : Kept lib floor after := by
  refine ⟨formed, ?_, ?_⟩
  · rw [Readable, same]
    exact kept.readable
  · rw [recorded_congr same]
    exact kept.above

/-- `load` reads the version on disk. -/
theorem recorded_of_load {disk : Disk} {stored : Option RegistryState} (loaded : load lib disk.dir none = .ok stored) :
    recorded lib disk = stored.map RegistryState.highestVersion := by
  rw [load] at loaded
  rw [recorded]
  cases file : disk.dir.registry with
  | none =>
      rw [file] at loaded
      cases loaded
      rfl
  | some raw =>
      rw [file] at loaded
      dsimp only at loaded ⊢
      cases parsed : lib.parseState raw with
      | error e =>
          rw [parsed] at loaded
          cases loaded
      | ok state =>
          rw [parsed] at loaded
          dsimp only at loaded
          split_ifs at loaded
          cases loaded
          rfl

/-- An encoded state in place is the version on disk. -/
theorem recorded_of_registry (roundTrips : lib.RoundTrips) {disk : Disk} {state : RegistryState} {raw : Bytes}
    (encoded : lib.encodeState state = .ok raw) (inPlace : disk.dir.registry = some raw) :
    recorded lib disk = some state.highestVersion := by
  simp only [recorded, inPlace, roundTrips.state state raw encoded]

/-- Putting a newer state in place keeps the directory as it has to be. -/
theorem Kept.replace (roundTrips : lib.RoundTrips) {floor : Option Int} {before after : Disk}
    {state : RegistryState} {raw : Bytes} (kept : Kept lib floor before) (newer : Newer lib before state)
    (encoded : lib.encodeState state = .ok raw) (formed : after.WellFormed)
    (inPlace : after.dir.registry = some raw) : Kept lib floor after := by
  have version := recorded_of_registry roundTrips encoded inPlace
  refine ⟨formed, ?_, ?_⟩
  · intro file held
    rw [inPlace] at held
    cases held
    exact ⟨state, roundTrips.state state raw encoded⟩
  · intro low inFloor
    rcases kept.above low inFloor with ⟨high, onDisk, below⟩
    exact ⟨state.highestVersion, version, below.trans (newer high onDisk).le⟩

/-- Before the second load has advanced, and after the end, a call changes nothing. -/
theorem acceptStep_quiet {disk : Disk} {call : Acceptance} (quiet : storing call = false) :
    (acceptStep lib disk call ()).1 = disk := by
  unfold acceptStep
  cases phase : call.phase with
  | opening state => simp [storing, phase, AcceptPhase.isStoring] at quiet
  | writing inode raw => simp [storing, phase, AcceptPhase.isStoring] at quiet
  | replacing => simp [storing, phase, AcceptPhase.isStoring] at quiet
  | done result => rfl
  | loading => cases load lib disk.dir none <;> rfl
  | verifying previous =>
      dsimp only
      cases verify lib call.body call.pinned call.threshold call.now previous <;> rfl
  | reloading verified =>
      dsimp only
      cases load lib disk.dir none with
      | error e => rfl
      | ok stored =>
          cases stored with
          | none => rfl
          | some prev =>
              dsimp only
              split <;> rfl

theorem Prepared.of_quiet {disk : Disk} {call : Acceptance} (quiet : storing call = false) :
    Prepared lib disk call := by
  unfold Prepared
  cases phase : call.phase with
  | opening state => simp [storing, phase, AcceptPhase.isStoring] at quiet
  | writing inode raw => simp [storing, phase, AcceptPhase.isStoring] at quiet
  | replacing => simp [storing, phase, AcceptPhase.isStoring] at quiet
  | _ => trivial

theorem reloading_prepared {disk : Disk} {call : Acceptance} {verified : Verified}
    (isReloading : call.phase = .reloading verified) : Prepared lib disk (acceptStep lib disk call ()).2 := by
  simp only [acceptStep, isReloading]
  cases loaded : load lib disk.dir none with
  | error e => trivial
  | ok stored =>
      have onDisk := recorded_of_load loaded
      cases stored with
      | none =>
          intro version held
          rw [onDisk] at held
          cases held
      | some prev =>
          dsimp only
          split_ifs with stale
          · trivial
          · intro version held
            rw [onDisk] at held
            cases held
            exact not_le.mp stale

theorem acceptStep_keeps (roundTrips : lib.RoundTrips) {floor : Option Int} {disk : Disk} {call : Acceptance}
    (kept : Kept lib floor disk) (prepared : Prepared lib disk call) :
    Kept lib floor (acceptStep lib disk call ()).1 ∧
      Prepared lib (acceptStep lib disk call ()).1 (acceptStep lib disk call ()).2 := by
  cases phase : call.phase with
  | loading =>
      simp only [acceptStep, phase]
      cases load lib disk.dir none <;> exact ⟨kept, trivial⟩
  | verifying previous =>
      simp only [acceptStep, phase]
      cases verify lib call.body call.pinned call.threshold call.now previous <;> exact ⟨kept, trivial⟩
  | reloading verified =>
      have same := @acceptStep_quiet lib disk call (by rw [storing, phase]; rfl)
      rw [same]
      exact ⟨kept, reloading_prepared phase⟩
  | opening state =>
      rw [Prepared, phase] at prepared
      simp only [acceptStep, phase]
      cases encoded : lib.encodeState state with
      | error e => exact ⟨kept, trivial⟩
      | ok raw =>
          have opened := Disk.openTmp_opened kept.formed
          exact ⟨kept.congr opened.formed opened.registry, opened.named, opened.empty, state, encoded,
            prepared.congr opened.registry⟩
  | writing inode raw =>
      rw [Prepared, phase] at prepared
      rcases prepared with ⟨named, empty, state, encoded, newer⟩
      rcases Disk.writeAll_spec kept.formed named empty raw with ⟨formed, holds, same⟩
      simp only [acceptStep, phase]
      refine ⟨kept.congr formed same, inode, state, named, ?_, newer.congr same⟩
      rw [holds]
      exact encoded
  | replacing =>
      rw [Prepared, phase] at prepared
      rcases prepared with ⟨inode, state, named, encoded, newer⟩
      rcases Disk.rename_spec kept.formed named with ⟨replaced, renamed, formed, inPlace⟩
      simp only [acceptStep, phase, renamed]
      exact ⟨kept.replace roundTrips newer encoded formed (by rw [inPlace]), trivial⟩
  | done result =>
      simp only [acceptStep, phase]
      exact ⟨kept, prepared⟩

theorem acceptStep_guarded (roundTrips : lib.RoundTrips) (floor : Option Int) :
    Guarded (acceptStep lib) storing (Kept lib floor) (Prepared lib) where
  keeps disk call _ kept prepared := acceptStep_keeps roundTrips kept prepared
  stable disk call _ other kept prepared otherPrepared apart := by
    cases busy : storing call with
    | true => exact Prepared.of_quiet (apart busy)
    | false =>
        rw [acceptStep_quiet busy]
        exact otherPrepared

theorem load_of_corrupt {dir : StateDir} {raw : Bytes} {e : String} (file : dir.registry = some raw)
    (corrupt : lib.parseState raw = .error e) :
    load lib dir none = .error (.state s!"{statePath dir} is corrupt and will not be ignored: {e}") := by
  simp only [load, file, corrupt]

/-- Of a file that parses `load` can only refuse the version. -/
theorem load_of_readable {disk : Disk} (readable : Readable lib disk) {e : RegistryError}
    (failed : load lib disk.dir none = .error e) :
    e = .state s!"{statePath disk.dir} records a non-positive version" := by
  rw [load] at failed
  cases file : disk.dir.registry with
  | none =>
      rw [file] at failed
      cases failed
  | some raw =>
      rcases readable raw file with ⟨state, parsed⟩
      simp only [file, parsed] at failed
      split_ifs at failed
      cases failed
      rfl

variable (lib)

/-- The directory and the calls after some moves. -/
def shared (disk : Disk) (moves : List (Move Acceptance Unit)) : Pool Disk Acceptance :=
  Threads.run (acceptStep lib) ⟨disk, []⟩ moves

/-- Where calls store one at a time, at every moment the state file can be read, and from any
moment on the version on disk does not decrease. -/
theorem shared_state_kept (roundTrips : lib.RoundTrips) (disk : Disk) (formed : disk.WellFormed)
    (readable : Readable lib disk) (before after : List (Move Acceptance Unit))
    (enters : ∀ next ∈ before ++ after, Enters next)
    (alone : Obeys (acceptStep lib) (EntersAlone (acceptStep lib) storing) ⟨disk, []⟩ (before ++ after)) :
    (forall e, load lib (shared lib disk before).shared.dir none = .error e ->
      e = .state s!"{statePath (shared lib disk before).shared.dir} records a non-positive version") ∧
    NotBelow (recorded lib (shared lib disk before).shared)
      (recorded lib (shared lib disk (before ++ after)).shared) := by
  have starts : Obeys (acceptStep lib) (StartsAlone (acceptStep lib) storing (Prepared lib)) ⟨disk, []⟩
      (before ++ after) := by
    refine obeys_and (obeys_of_forall ?_ _) alone
    intro pool next member
    cases next with
    | advance index input => trivial
    | spawn call =>
        apply Prepared.of_quiet
        have isLoading : call.phase = .loading := enters _ member
        rw [storing, isLoading]
        rfl
  rcases obeys_append.mp starts with ⟨startsBefore, startsAfter⟩
  have initially : Sound (Kept lib none) (Prepared lib) ⟨disk, []⟩ :=
    ⟨⟨formed, readable, by simp [NotBelow]⟩, by simp⟩
  rcases run_guarded (acceptStep_guarded roundTrips none) initially (by simp [AtMostOne]) startsBefore with
    ⟨⟨kept, owned⟩, single⟩
  have floor : NotBelow (recorded lib (shared lib disk before).shared)
      (recorded lib (shared lib disk before).shared) := fun low onDisk => ⟨low, onDisk, le_rfl⟩
  have onward := run_guarded (acceptStep_guarded roundTrips (recorded lib (shared lib disk before).shared))
    ⟨⟨kept.formed, kept.readable, floor⟩, owned⟩ single startsAfter
  refine ⟨fun e failed => load_of_readable kept.readable failed, ?_⟩
  rw [shared, shared, Threads.run_append]
  exact onward.1.1.above

/-! ## Two calls that store at once -/

/-- The next steps of a call, as moves. -/
def proceed (index count : Nat) : List (Move Acceptance Unit) := List.replicate count (.advance index ())

/-- A call that begins on a document which verifies on first use and whose state encodes. -/
structure Brings (call : Acceptance) (verified : Verified) (raw : Bytes) : Prop where
  isLoading : call.phase = .loading
  verifies : verify lib call.body call.pinned call.threshold call.now none = .ok verified
  encodes : lib.encodeState (baseline lib verified call.body) = .ok raw

/-- The early call is past its second load when the late one runs as a whole. -/
def lateWhole (early late : Acceptance) : List (Move Acceptance Unit) :=
  [.spawn early, .spawn late] ++ proceed 0 3 ++ proceed 1 6

/-- Both calls are past their second load; the late one opens the temporary file between the
write and the rename of the early one. -/
def opensBetween (early late : Acceptance) : List (Move Acceptance Unit) :=
  [.spawn early, .spawn late] ++ proceed 0 3 ++ proceed 1 3 ++ proceed 0 2 ++ proceed 1 1 ++ proceed 0 1

/-- The calls load and verify side by side and store one after the other. -/
def takeTurns (early late : Acceptance) : List (Move Acceptance Unit) :=
  [.spawn early, .spawn late] ++ proceed 0 2 ++ proceed 1 2 ++ proceed 0 4

variable {lib}

/-- The late document is on disk first and the early one afterwards. -/
theorem lateWhole_registry {path : String} {early late : Acceptance} {verified lateVerified : Verified}
    {raw lateRaw : Bytes} (first : Brings lib early verified raw) (second : Brings lib late lateVerified lateRaw) :
    (shared lib (emptyDisk path) (lateWhole early late)).shared.dir.registry = some lateRaw ∧
      (shared lib (emptyDisk path) (lateWhole early late ++ proceed 0 3)).shared.dir.registry = some raw := by
  constructor <;>
    simp [shared, lateWhole, proceed, List.replicate, Threads.run, move, acceptStep, load, emptyDisk, Disk.dir,
      Disk.openTmp, Disk.writeAll, Disk.rename, first.isLoading, first.verifies, first.encodes, second.isLoading,
      second.verifies, second.encodes]

/-- The file in place is the one the late call will still write. -/
theorem opensBetween_registry {path : String} {early late : Acceptance} {verified lateVerified : Verified}
    {raw lateRaw : Bytes} (first : Brings lib early verified raw) (second : Brings lib late lateVerified lateRaw) :
    (shared lib (emptyDisk path) (opensBetween early late)).shared.dir.registry = some [] := by
  simp [shared, opensBetween, proceed, List.replicate, Threads.run, move, acceptStep, load, emptyDisk, Disk.dir,
    Disk.openTmp, Disk.writeAll, Disk.rename, first.isLoading, first.verifies, first.encodes, second.isLoading,
    second.verifies, second.encodes]

theorem takeTurns_alone (roundTrips : lib.RoundTrips) (path : String) {early late : Acceptance}
    {verified lateVerified : Verified} {raw lateRaw : Bytes} (first : Brings lib early verified raw)
    (second : Brings lib late lateVerified lateRaw) (positive : 0 < verified.document.version)
    (advances : verified.document.version < lateVerified.document.version) :
    Obeys (acceptStep lib) (EntersAlone (acceptStep lib) storing) ⟨emptyDisk path, []⟩
      (takeTurns early late ++ proceed 1 4) := by
  have parsed := roundTrips.state _ _ first.encodes
  have version : (baseline lib verified early.body).highestVersion = verified.document.version := rfl
  have lateVersion : (baseline lib lateVerified late.body).highestVersion = lateVerified.document.version := rfl
  simp [Obeys, EntersAlone, storing, AcceptPhase.isStoring, takeTurns, proceed, List.replicate, move, acceptStep, load,
    emptyDisk, Disk.dir, Disk.openTmp, Disk.writeAll, Disk.rename, first.isLoading, first.verifies, first.encodes,
    second.isLoading, second.verifies, second.encodes, parsed, version, lateVersion, not_le.mpr positive,
    not_le.mpr advances]

namespace Sample

/-- A process that fetched at the end of the hour, and one that does so in the next. -/
def earlyCall : Acceptance := ⟨[pinnedKey], 1, body, 1791471599, .loading⟩

def lateCall : Acceptance := ⟨[pinnedKey], 1, nextBody, 1791471600, .loading⟩

theorem earlyCall_brings : Brings external earlyCall ⟨document, documentBytes, ["fe812c12f3ab4ce6"]⟩
    (stateText "497630" documentBytes signature) where
  isLoading := rfl
  verifies := by decide +kernel
  encodes := encodes_body

theorem lateCall_brings : Brings external lateCall ⟨nextDocument, nextDocumentBytes, ["fe812c12f3ab4ce6"]⟩
    (stateText "497631" nextDocumentBytes nextSignature) where
  isLoading := rfl
  verifies := by decide +kernel
  encodes := encodes_nextBody

end Sample

/-- The version on disk goes down from one hour to the one before; and a load can meet a state
file that is corrupt. -/
theorem shared_state_lost :
    (∀ next ∈ lateWhole Sample.earlyCall Sample.lateCall ++ proceed 0 3, Enters next) ∧
      recorded Sample.external (shared Sample.external (emptyDisk "/var/lib/quiethop")
        (lateWhole Sample.earlyCall Sample.lateCall)).shared = some 497631 ∧
      recorded Sample.external (shared Sample.external (emptyDisk "/var/lib/quiethop")
        (lateWhole Sample.earlyCall Sample.lateCall ++ proceed 0 3)).shared = some 497630 ∧
      (∀ next ∈ opensBetween Sample.earlyCall Sample.lateCall, Enters next) ∧
      ∃ (dir : StateDir) (e : String), dir = (shared Sample.external (emptyDisk "/var/lib/quiethop")
          (opensBetween Sample.earlyCall Sample.lateCall)).shared.dir ∧
        load Sample.external dir none =
          .error (.state s!"{statePath dir} is corrupt and will not be ignored: {e}") := by
  have early := Sample.earlyCall_brings
  have late := Sample.lateCall_brings
  rcases @lateWhole_registry Sample.external "/var/lib/quiethop" _ _ _ _ _ _ early late with ⟨higher, lower⟩
  have emptied := @opensBetween_registry Sample.external "/var/lib/quiethop" _ _ _ _ _ _ early late
  have corrupt : Sample.external.parseState [] = .error "expected value at line 1 column 1" := by decide +kernel
  refine ⟨?_, recorded_of_registry roundTrips_sample late.encodes higher,
    recorded_of_registry roundTrips_sample early.encodes lower, ?_, _, _, rfl,
    load_of_corrupt emptied corrupt⟩
  · simp [lateWhole, proceed, Sample.earlyCall, Sample.lateCall, Enters]
  · simp [opensBetween, proceed, Sample.earlyCall, Sample.lateCall, Enters]

theorem shared_state_kept_take_turns :
    Obeys (acceptStep Sample.external) (EntersAlone (acceptStep Sample.external) storing)
        ⟨emptyDisk "/var/lib/quiethop", []⟩ (takeTurns Sample.earlyCall Sample.lateCall ++ proceed 1 4) ∧
      NotBelow
        (recorded Sample.external (shared Sample.external (emptyDisk "/var/lib/quiethop")
          (takeTurns Sample.earlyCall Sample.lateCall)).shared)
        (recorded Sample.external (shared Sample.external (emptyDisk "/var/lib/quiethop")
          (takeTurns Sample.earlyCall Sample.lateCall ++ proceed 1 4)).shared) := by
  have formed : (emptyDisk "/var/lib/quiethop").WellFormed :=
    ⟨by simp [emptyDisk], by simp [emptyDisk], by simp [emptyDisk]⟩
  have readable : Readable Sample.external (emptyDisk "/var/lib/quiethop") := by
    simp [Readable, emptyDisk, Disk.dir]
  have enters : ∀ next ∈ takeTurns Sample.earlyCall Sample.lateCall ++ proceed 1 4, Enters next := by
    simp [takeTurns, proceed, Sample.earlyCall, Sample.lateCall, Enters]
  have alone := takeTurns_alone roundTrips_sample "/var/lib/quiethop" Sample.earlyCall_brings Sample.lateCall_brings
    (by decide) (by decide)
  exact ⟨alone, (shared_state_kept Sample.external roundTrips_sample _ formed readable _ _ enters alone).2⟩

end Registry
end QuietHop
