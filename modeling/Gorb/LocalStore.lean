import Gorb.Health
import Mathlib.Data.Char
import Mathlib.Data.List.Infix
import Mathlib.Data.List.Lex
import Mathlib.Data.List.Sort

/-!
# The local store

`LocalStore` keeps the store in files: a key is a path, its value the bytes of the file. The model
is the file system as a map from paths, by their components, to nodes, a directory or a file with
its bytes, and each method as the `os` calls it makes: `put` is `MkdirAll` of the parent, then
`OpenFile(key, O_CREATE|O_WRONLY)` and `Write`; `get` is `ReadFile`; `delete` is `Remove`;
`deleteTree` is `RemoveAll`; `list` is `ReadDir`, then `get` of each entry that is no directory.
`path.Dir` drops the last component and `path.Join` appends one.

A file system as the kernel keeps it is a tree (`Tree`): every entry lies in directories all the way
down from the root. Each call keeps it and changes the files as `Op.written` says (`writes_put`,
`writes_delete`, `writes_deleteTree`); a call that fails writes nothing. `localStore_writes_over`
follows a run of calls: `get` and `list` afterwards read what the calls that succeeded wrote. The
file is opened without `O_TRUNC`, so a `put` writes over the start of what its key held, and a
shorter value leaves the old tail (`shorter_rewrite_keeps_tail`).

The methods take `LocalStore.mutex` around these bodies. With one call at a time the locks change
nothing, except in `Put`: it holds the write lock while `ensureDirExist` asks `Exists` for a read
lock, which waits for that write lock forever (`Put_blocks`). The runs above are of the bodies,
as the package's tests call them.
-/

namespace Gorb

namespace LocalStore

/-- A byte string. -/
abbrev Bytes := List UInt8

/-- A path, by its components from the root. -/
abbrev Path := List String

/-- What the file system holds at a path. -/
inductive Node
  | file (data : Bytes)
  | dir
  deriving DecidableEq, Repr

/-- The errors of the `os` calls (`ENOENT`, `EEXIST`, `ENOTDIR`, `EISDIR` and `ENOTEMPTY`), and
`blocked`: the call waits on `LocalStore.mutex` for an unlock that never comes. -/
inductive FsError
  | notExist
  | exist
  | notDir
  | isDir
  | notEmpty
  | blocked
  deriving DecidableEq, Repr

/-- The file system: the node at each path that exists, the root apart. -/
abbrev FS := AList fun _ : Path => Node

/-- A computation on the file system, with the error of the `os` call that failed. -/
abbrev FsM := ExceptT FsError (StateM FS)

/-- A computation run from `fs`: its result and the file system afterwards. -/
def FsM.exec {α : Type} (m : FsM α) (fs : FS) : Except FsError α × FS :=
  m.run.run fs

section Exec

variable {α β : Type} (fs : FS)

@[simp] theorem exec_bind (m : FsM α) (f : α → FsM β) :
    (m >>= f).exec fs = match m.exec fs with
      | (.ok a, fs') => (f a).exec fs'
      | (.error e, fs') => (.error e, fs') := by
  simp only [FsM.exec, ExceptT.run_bind, StateT.run_bind]
  rcases StateT.run (ExceptT.run m) fs with ⟨r, fs'⟩
  cases r <;> rfl

@[simp] theorem exec_map (f : α → β) (m : FsM α) :
    (f <$> m).exec fs = match m.exec fs with
      | (.ok a, fs') => (.ok (f a), fs')
      | (.error e, fs') => (.error e, fs') := by
  simp only [FsM.exec, ExceptT.run_map, StateT.run_map]
  rcases StateT.run (ExceptT.run m) fs with ⟨r, fs'⟩
  cases r <;> rfl

@[simp] theorem exec_pure (a : α) : (pure a : FsM α).exec fs = (.ok a, fs) := rfl
@[simp] theorem exec_getThe : (getThe FS : FsM FS).exec fs = (.ok fs, fs) := rfl
@[simp] theorem exec_set (fs' : FS) : (set fs' : FsM PUnit).exec fs = (.ok ⟨⟩, fs') := rfl
@[simp] theorem exec_modify (f : FS → FS) : (modify f : FsM PUnit).exec fs = (.ok ⟨⟩, f fs) := rfl
@[simp] theorem exec_throw (e : FsError) : (throw e : FsM α).exec fs = (.error e, fs) := rfl

end Exec

/-- Whether a directory on the way to `p` is a file. -/
def underFile (fs : FS) (p : Path) : Bool :=
  p.dropLast.inits.any fun q => match fs.lookup q with
    | some (.file _) => true
    | _ => false

/-- `os.Stat`: the root is a directory; a file on the way is `ENOTDIR`. -/
def stat (fs : FS) (p : Path) : Except FsError Node :=
  if p = [] then .ok .dir
  else if underFile fs p then .error .notDir
  else match fs.lookup p with
    | some n => .ok n
    | none => .error .notExist

/-- `LocalStore.exists`: a missing path is no error. -/
def pathExists (p : Path) : FsM Bool := do
  match stat (← getThe FS) p with
  | .ok _ => pure true
  | .error .notExist => pure false
  | .error e => throw e

/-- `os.Mkdir`: a new directory in an existing one. -/
def mkdir (p : Path) : FsM Unit := do
  let fs ← getThe FS
  match stat fs p with
  | .ok _ => throw .exist
  | .error .notExist =>
    match stat fs p.dropLast with
    | .ok .dir => set (fs.insert p .dir)
    | .ok (.file _) => throw .notDir
    | .error e => throw e
  | .error e => throw e

/-- `os.MkdirAll` of the path whose components, last first, are given: a path that is a directory
already is done, a file is `ENOTDIR`, and otherwise the parent is made, then the path. The check
`MkdirAll` makes after a failed `Mkdir` concerns paths ending in `.`, which no path of components
has. -/
def mkdirAllRev : List String → FsM Unit
  | [] => pure ()
  | c :: rev => do
    match stat (← getThe FS) (rev.reverse ++ [c]) with
    | .ok .dir => pure ()
    | .ok (.file _) => throw .notDir
    | .error _ =>
      mkdirAllRev rev
      mkdir (rev.reverse ++ [c])

/-- `os.MkdirAll`. -/
def mkdirAll (p : Path) : FsM Unit :=
  mkdirAllRev p.reverse

/-- Whether the goroutine that runs a method holds `LocalStore.mutex` for writing. -/
inductive Held
  | free
  | writing
  deriving DecidableEq, Repr

/-- `LocalStore.Exists`: `exists` under a read lock. A goroutine that holds the write lock itself
waits for its own unlock. -/
def lockedExists (held : Held) (key : Path) : FsM Bool :=
  match held with
  | .free => pathExists key
  | .writing => throw .blocked

/-- `LocalStore.ensureDirExist`, which asks `Exists`. -/
def ensureDirExist (held : Held) (dirPath : Path) : FsM Unit := do
  if !(← lockedExists held dirPath) then mkdirAll dirPath

/-- `LocalStore.put`: `os.OpenFile(key, O_CREATE|O_WRONLY, 0644)`, which keeps what the file held,
then `Write(value)` at its start; the error of `Write` is ignored. -/
def put (held : Held) (key : Path) (value : Bytes) : FsM Unit := do
  ensureDirExist held key.dropLast
  match stat (← getThe FS) key with
  | .ok .dir => throw .isDir
  | .ok (.file old) => modify (·.insert key (.file (value ++ old.drop value.length)))
  | .error .notExist =>
    match stat (← getThe FS) key.dropLast with
    | .ok .dir => modify (·.insert key (.file value))
    | .ok (.file _) => throw .notDir
    | .error e => throw e
  | .error e => throw e

/-- `LocalStore.Put`: `put` under the write lock. -/
def Put (key : Path) (value : Bytes) : FsM Unit :=
  put .writing key value

/-- `LocalStore.get`: `os.ReadFile(key)`. -/
def get (key : Path) : FsM Bytes := do
  match stat (← getThe FS) key with
  | .ok (.file data) => pure data
  | .ok .dir => throw .isDir
  | .error e => throw e

/-- `LocalStore.delete`: `os.Remove(key)`, of a file or of an empty directory. -/
def delete (key : Path) : FsM Unit := do
  let fs ← getThe FS
  match stat fs key with
  | .ok (.file _) => set (fs.erase key)
  | .ok .dir =>
    if fs.keys.any fun q => key <+: q && q != key then throw .notEmpty else set (fs.erase key)
  | .error e => throw e

/-- `LocalStore.deleteTree`: `os.RemoveAll(directory)`; a missing path is no error. -/
def deleteTree (directory : Path) : FsM Unit := do
  let fs ← getThe FS
  if underFile fs directory then throw .notDir
  else set (fs.keys.foldl (fun m q => if directory <+: q then m.erase q else m) fs)

/-- The names of the entries directly under `directory`, sorted as `os.ReadDir` sorts them. -/
def readDirNames (fs : FS) (directory : Path) : List String :=
  (fs.keys.filterMap fun q => if q.dropLast = directory then q.getLast? else none).insertionSort
    fun a b => a.data ≤ b.data

/-- The loop of `LocalStore.list` over the entries: each one not a directory is read with `get`. -/
def listFiles (directory : Path) : List String → FsM (List (Path × Bytes))
  | [] => pure []
  | n :: ns => do
    if (← getThe FS).lookup (directory ++ [n]) = some .dir then listFiles directory ns
    else
      let data ← get (directory ++ [n])
      return (directory ++ [n], data) :: (← listFiles directory ns)

/-- `LocalStore.list`: `os.ReadDir(directory)`, then the files under it. -/
def list (directory : Path) : FsM (List (Path × Bytes)) := do
  let fs ← getThe FS
  match stat fs directory with
  | .ok .dir => listFiles directory (readDirNames fs directory)
  | .ok (.file _) => throw .notDir
  | .error e => throw e

/-- The calls of the store that change the files. -/
inductive Op
  | put (key : Path) (value : Bytes)
  | delete (key : Path)
  | deleteTree (directory : Path)
  deriving DecidableEq, Repr

/-- A call as the store's methods run it, with the mutex free. -/
def Op.run : Op → FsM Unit
  | .put key value => LocalStore.put .free key value
  | .delete key => LocalStore.delete key
  | .deleteTree directory => LocalStore.deleteTree directory

/-- The calls run one after another, each on the file system the one before left, whatever it
returned: what each returned, and the file system at the end. -/
def runCalls : List Op → FS → List (Except FsError Unit) × FS
  | [], fs => ([], fs)
  | op :: ops, fs =>
    let step := op.run.exec fs
    let rest := runCalls ops step.2
    (step.1 :: rest.1, rest.2)

/-! ### The file system as a tree -/

/-- The bytes of a file; a directory has none. -/
def Node.bytes? : Node → Option Bytes
  | .file data => some data
  | .dir => none

/-- The bytes of the file at `p`, if `p` is a file. -/
def fileAt (fs : FS) (p : Path) : Option Bytes :=
  (fs.lookup p).bind Node.bytes?

/-- A file system as the kernel keeps it: the root is no entry, and every entry lies in directories
all the way down from the root. -/
structure Tree (fs : FS) : Prop where
  root : fs.lookup [] = none
  parent : ∀ p n, fs.lookup p = some n → ∀ q, q <+: p → q ≠ p → q ≠ [] → fs.lookup q = some .dir

theorem tree_empty : Tree ∅ :=
  ⟨rfl, fun _ _ h => nomatch h⟩

theorem underFile_eq_false {fs : FS} {p : Path}
    (h : ∀ q, q <+: p.dropLast → q ≠ [] → fs.lookup q = some .dir) (hroot : fs.lookup [] = none) :
    underFile fs p = false := by
  rw [underFile, List.any_eq_false]
  intro q hq
  rw [List.mem_inits] at hq
  by_cases hq0 : q = []
  · subst hq0
    rw [hroot]
    decide
  · rw [h q hq hq0]
    decide

theorem prefix_dropLast_ne {q p : Path} (h : q <+: p.dropLast) (hp : p ≠ []) : q <+: p ∧ q ≠ p := by
  refine ⟨h.trans (List.dropLast_prefix p), fun hqp => ?_⟩
  have := h.length_le
  rw [hqp, List.length_dropLast] at this
  have := List.length_pos.2 hp
  omega

namespace Tree

variable {fs : FS} (ht : Tree fs)
include ht

/-- The root is no entry. -/
theorem ne_nil_of_lookup {p : Path} {n : Node} (hp : fs.lookup p = some n) : p ≠ [] := by
  rintro rfl
  rw [ht.root] at hp
  cases hp

theorem underFile_of_lookup {p : Path} {n : Node} (hp : fs.lookup p = some n) :
    underFile fs p = false := by
  have hp0 := ht.ne_nil_of_lookup hp
  exact underFile_eq_false (fun q hq hq0 =>
    ht.parent p n hp q (prefix_dropLast_ne hq hp0).1 (prefix_dropLast_ne hq hp0).2 hq0) ht.root

theorem stat_of_lookup {p : Path} {n : Node} (hp : fs.lookup p = some n) : stat fs p = .ok n := by
  simp [stat, ht.ne_nil_of_lookup hp, ht.underFile_of_lookup hp, hp]

theorem parent_of_lookup {p : Path} {n : Node} (hp : fs.lookup p = some n) :
    p.dropLast = [] ∨ fs.lookup p.dropLast = some .dir := by
  have hp0 := ht.ne_nil_of_lookup hp
  by_cases hd : p.dropLast = []
  · exact .inl hd
  · exact .inr (ht.parent p n hp _ (List.dropLast_prefix p)
      (prefix_dropLast_ne (List.prefix_refl _) hp0).2 hd)

end Tree

theorem stat_ok_iff {fs : FS} {p : Path} {n : Node} :
    stat fs p = .ok n ↔ p = [] ∧ n = .dir ∨ p ≠ [] ∧ underFile fs p = false ∧ fs.lookup p = some n := by
  unfold stat
  split_ifs with hp hu
  · simp [hp, @eq_comm _ Node.dir]
  · simp [hp, hu]
  · rcases hl : fs.lookup p with _ | n' <;> simp [hp, hu, hl]

theorem lookup_of_stat_notExist {fs : FS} {p : Path} (h : stat fs p = .error .notExist) :
    p ≠ [] ∧ fs.lookup p = none := by
  unfold stat at h
  split_ifs at h with hp hu
  · cases h
  · rcases hl : fs.lookup p with _ | n <;> simp [hl, hp] at h ⊢

/-- A proper prefix of a path is a prefix of its parent. -/
theorem prefix_dropLast_of_ne {q p : Path} (h : q <+: p) (hne : q ≠ p) : q <+: p.dropLast := by
  rcases List.eq_nil_or_concat p with rfl | ⟨l, a, rfl⟩
  · exact absurd (List.prefix_nil.1 h) hne
  · rw [List.concat_eq_append] at *
    rw [List.dropLast_concat]
    exact (List.prefix_concat_iff.1 h).resolve_left hne


theorem fileAt_insert (fs : FS) (p q : Path) (n : Node) :
    fileAt (fs.insert p n) q = if q = p then n.bytes? else fileAt fs q := by
  by_cases h : q = p
  · subst h
    simp [fileAt, AList.lookup_insert]
  · simp [fileAt, AList.lookup_insert_ne h, h]

theorem fileAt_erase (fs : FS) (p q : Path) :
    fileAt (fs.erase p) q = if q = p then none else fileAt fs q := by
  by_cases h : q = p
  · subst h
    simp [fileAt, AList.lookup_erase]
  · simp [fileAt, AList.lookup_erase_ne h, h]

theorem fileAt_insert_dir {fs : FS} {p : Path} (h : fs.lookup p = none) :
    fileAt (fs.insert p .dir) = fileAt fs := by
  funext q
  rw [fileAt_insert]
  split_ifs with hq
  · rw [hq, fileAt, h]
    rfl
  · rfl

theorem dir_of_stat_dir {fs : FS} {p : Path} (h : stat fs p = .ok .dir) :
    p = [] ∨ fs.lookup p = some .dir := by
  rcases stat_ok_iff.1 h with ⟨hp, -⟩ | ⟨-, -, hl⟩
  · exact .inl hp
  · exact .inr hl

namespace Tree

variable {fs : FS} (ht : Tree fs)
include ht

/-- A new node in a directory keeps the tree, unless it is a file in the place of a directory. -/
theorem insert {p : Path} {n : Node} (hp : p ≠ [])
    (hpar : p.dropLast = [] ∨ fs.lookup p.dropLast = some .dir)
    (hn : n = .dir ∨ fs.lookup p ≠ some .dir) : Tree (fs.insert p n) where
  root := by rw [AList.lookup_insert_ne hp.symm, ht.root]
  parent p' n' hp' q hq hqp' hq0 := by
    by_cases hpp : p' = p
    · subst hpp
      have hq' := prefix_dropLast_of_ne hq hqp'
      rw [AList.lookup_insert_ne hqp']
      by_cases hqd : q = p'.dropLast
      · subst hqd
        exact hpar.resolve_left hq0
      · exact ht.parent _ _ (hpar.resolve_left fun h => hq0 (List.prefix_nil.1 (h ▸ hq'))) q hq' hqd hq0
    · rw [AList.lookup_insert_ne hpp] at hp'
      have hdir := ht.parent p' n' hp' q hq hqp' hq0
      by_cases hqe : q = p
      · subst hqe
        rw [AList.lookup_insert]
        rcases hn with rfl | hn
        · rfl
        · exact absurd hdir hn
      · rwa [AList.lookup_insert_ne hqe]

/-- Removing a node with nothing under it keeps the tree. -/
theorem erase {p : Path} (hleaf : ∀ q n, fs.lookup q = some n → p <+: q → q = p) :
    Tree (fs.erase p) where
  root := by
    rcases eq_or_ne [] p with h | h
    · rw [h, AList.lookup_erase]
    · rw [AList.lookup_erase_ne h, ht.root]
  parent p' n' hp' q hq hqp' hq0 := by
    have hpp : p' ≠ p := fun h => by subst h; rw [AList.lookup_erase] at hp'; cases hp'
    rw [AList.lookup_erase_ne hpp] at hp'
    rw [AList.lookup_erase_ne fun (h : q = p) => hpp (hleaf p' n' hp' (h ▸ hq))]
    exact ht.parent p' n' hp' q hq hqp' hq0

/-- Nothing lies under a file. -/
theorem leaf_of_file {p : Path} {data : Bytes} (hp : fs.lookup p = some (.file data)) :
    ∀ q n, fs.lookup q = some n → p <+: q → q = p := by
  intro q n hq hpq
  by_contra hne
  have := ht.parent q n hq p hpq (Ne.symm hne) (ht.ne_nil_of_lookup hp)
  rw [hp] at this
  cases this

end Tree

/-! ### What each call does to the files -/

/-- What the file at `k` holds after a call that succeeded, from what it held before: a `put` to `k`
writes its bytes over the start of the old ones, a `delete` of `k` or a `deleteTree` above it
removes it. -/
def Op.written (k : Path) (old : Option Bytes) : Op → Option Bytes
  | .put key value => if key = k then some (value ++ (old.getD []).drop value.length) else old
  | .delete key => if key = k then none else old
  | .deleteTree directory => if directory <+: k then none else old

/-- What the file at `k` holds after calls that returned `rs`: a failed call writes nothing. -/
def filesAfter (k : Path) : List Op → List (Except FsError Unit) → Option Bytes → Option Bytes
  | op :: ops, r :: rs, old =>
    filesAfter k ops rs (match r with
      | .ok _ => op.written k old
      | .error _ => old)
  | _, _, old => old

/-- A computation run from the tree `fs` leaves a tree, and each file `k` holds `w k` of its old
bytes if the computation succeeded, and its old bytes if it failed. -/
def WritesFrom {α : Type} (m : FsM α) (w : Path → Option Bytes → Option Bytes) (fs : FS) : Prop :=
  Tree (m.exec fs).2 ∧ ∀ k, fileAt (m.exec fs).2 k = match (m.exec fs).1 with
    | .ok _ => w k (fileAt fs k)
    | .error _ => fileAt fs k

/-- A computation that writes `w` from every tree. -/
def Writes {α : Type} (m : FsM α) (w : Path → Option Bytes → Option Bytes) : Prop :=
  ∀ fs, Tree fs → WritesFrom m w fs

/-- A computation that keeps the tree and every file, whatever it returns. -/
def KeepsFiles {α : Type} (m : FsM α) : Prop :=
  Writes m fun _ old => old

section Writes

variable {α β : Type} {fs : FS} {w : Path → Option Bytes → Option Bytes}

theorem keepsFiles_iff {m : FsM α} :
    KeepsFiles m ↔ ∀ fs, Tree fs → Tree (m.exec fs).2 ∧ fileAt (m.exec fs).2 = fileAt fs := by
  refine forall₂_congr fun fs _ => and_congr_right fun _ => ?_
  rw [funext_iff]
  exact forall_congr' fun k => by split <;> rfl

theorem writesFrom_throw (ht : Tree fs) (e : FsError) : WritesFrom (throw e : FsM α) w fs :=
  ⟨ht, fun _ => rfl⟩

theorem keepsFiles_of_state {m : FsM α} (h : ∀ fs, (m.exec fs).2 = fs) : KeepsFiles m :=
  keepsFiles_iff.2 fun fs ht => by rw [h]; exact ⟨ht, rfl⟩

theorem keepsFiles_pure (a : α) : KeepsFiles (pure a : FsM α) :=
  keepsFiles_of_state fun _ => rfl

theorem writesFrom_getThe_bind {g : FS → FsM β} (h : WritesFrom (g fs) w fs) :
    WritesFrom (getThe FS >>= g) w fs := by
  simpa [WritesFrom] using h

/-- A computation that keeps the files, then one that writes `w`, write `w`. -/
theorem KeepsFiles.bind {m : FsM α} {f : α → FsM β} (hm : KeepsFiles m)
    (hf : ∀ a, Writes (f a) w) : Writes (m >>= f) w := by
  intro fs ht
  obtain ⟨ht₁, hfiles₁⟩ := keepsFiles_iff.1 hm fs ht
  unfold WritesFrom
  rw [exec_bind]
  rcases h : m.exec fs with ⟨_ | a, fs₁⟩ <;> rw [h] at ht₁ hfiles₁
  · exact ⟨ht₁, fun k => by rw [hfiles₁]⟩
  · obtain ⟨ht₂, hfiles₂⟩ := hf a fs₁ ht₁
    exact ⟨ht₂, fun k => by rw [hfiles₂, hfiles₁]⟩

end Writes

theorem keepsFiles_pathExists (p : Path) : KeepsFiles (pathExists p) :=
  keepsFiles_of_state fun fs => by
    simp only [pathExists, exec_bind, exec_getThe]
    split <;> rfl

theorem keepsFiles_mkdir (p : Path) : KeepsFiles (mkdir p) := by
  intro fs ht
  apply writesFrom_getThe_bind
  rcases hs : stat fs p with e | n
  · cases e
    case notExist =>
      obtain ⟨hp, hnone⟩ := lookup_of_stat_notExist hs
      rcases hpar : stat fs p.dropLast with e' | (data | _)
      all_goals simp only [hs, hpar]
      case ok.dir =>
        exact ⟨ht.insert hp (dir_of_stat_dir hpar) (.inl rfl),
          congrFun (fileAt_insert_dir hnone)⟩
      all_goals exact writesFrom_throw ht _
    all_goals simp only [hs]; exact writesFrom_throw ht _
  · simp only [hs]
    exact writesFrom_throw ht _

theorem keepsFiles_mkdirAllRev : ∀ rev : List String, KeepsFiles (mkdirAllRev rev)
  | [] => keepsFiles_pure ()
  | c :: rev => fun fs ht => by
    apply writesFrom_getThe_bind
    split
    · exact keepsFiles_pure () fs ht
    · exact writesFrom_throw ht _
    · exact (keepsFiles_mkdirAllRev rev).bind (fun _ => keepsFiles_mkdir _) fs ht

theorem keepsFiles_ensureDirExist (p : Path) : KeepsFiles (ensureDirExist .free p) :=
  (keepsFiles_pathExists p).bind fun b => by
    cases b
    · exact keepsFiles_mkdirAllRev _
    · exact keepsFiles_pure ()

theorem fileAt_insert_put {fs : FS} {key : Path} {value data : Bytes}
    (hdata : value ++ ((fileAt fs key).getD []).drop value.length = data) (k : Path) :
    fileAt (fs.insert key (.file data)) k = (Op.put key value).written k (fileAt fs k) := by
  rw [fileAt_insert, Op.written]
  by_cases h : k = key
  · subst h
    simp [Node.bytes?, hdata]
  · simp [h, Ne.symm h]

theorem writes_put (key : Path) (value : Bytes) :
    Writes (put .free key value) fun k old => (Op.put key value).written k old :=
  (keepsFiles_ensureDirExist _).bind fun _ fs ht => by
    apply writesFrom_getThe_bind
    rcases hs : stat fs key with e | (old | _)
    · cases e
      case notExist =>
        obtain ⟨hk, hnone⟩ := lookup_of_stat_notExist hs
        apply writesFrom_getThe_bind
        rcases hpar : stat fs key.dropLast with e' | (data | _)
        all_goals simp only [hs, hpar]
        case ok.dir =>
          refine ⟨ht.insert hk (dir_of_stat_dir hpar) (.inr (by simp [hnone])), fun k => ?_⟩
          exact fileAt_insert_put (by simp [fileAt, hnone]) k
        all_goals exact writesFrom_throw ht _
      all_goals simp only [hs]; exact writesFrom_throw ht _
    · simp only [hs]
      obtain ⟨hk, -, hl⟩ := (stat_ok_iff.1 hs).resolve_left (by simp)
      refine ⟨ht.insert hk (ht.parent_of_lookup hl) (.inr (by simp [hl])), fun k => ?_⟩
      exact fileAt_insert_put (by simp [fileAt, hl, Node.bytes?]) k
    · simp only [hs]
      exact writesFrom_throw ht _

theorem fileAt_erase_delete (fs : FS) (key k : Path) :
    fileAt (fs.erase key) k = (Op.delete key).written k (fileAt fs k) := by
  rw [fileAt_erase, Op.written]
  by_cases h : k = key
  · simp [h]
  · simp [h, Ne.symm h]

theorem writes_delete (key : Path) :
    Writes (delete key) fun k old => (Op.delete key).written k old := by
  intro fs ht
  apply writesFrom_getThe_bind
  rcases hs : stat fs key with e | (data | _)
  · simp only [hs]
    exact writesFrom_throw ht _
  · simp only [hs]
    obtain ⟨-, -, hl⟩ := (stat_ok_iff.1 hs).resolve_left (by simp)
    exact ⟨ht.erase (ht.leaf_of_file hl), fileAt_erase_delete fs key⟩
  · simp only [hs]
    split
    · exact writesFrom_throw ht _
    · rename_i hany
      simp only [List.any_eq_true, Bool.and_eq_true, decide_eq_true_eq, bne_iff_ne, ne_eq,
        not_exists, not_and, not_not] at hany
      refine ⟨ht.erase fun q n hq hkq => hany q ?_ hkq, fileAt_erase_delete fs key⟩
      exact AList.mem_keys.2 (AList.lookup_isSome.1 (by rw [hq]; rfl))

/-- `os.RemoveAll` removes exactly the paths under the directory. -/
theorem lookup_removeAll (d q : Path) : ∀ (ks : List Path) (m : FS),
    (ks.foldl (fun m q' => if d <+: q' then m.erase q' else m) m).lookup q =
      if d <+: q ∧ q ∈ ks then none else m.lookup q
  | [], m => by simp
  | k :: ks, m => by
    rw [List.foldl_cons, lookup_removeAll d q ks]
    by_cases hk : q = k
    · subst hk
      by_cases hd : d <+: q <;> simp [hd, AList.lookup_erase]
    · by_cases hd : d <+: k <;> simp [hd, hk, AList.lookup_erase_ne hk]

theorem lookup_deleteTree (fs : FS) (d q : Path) :
    (fs.keys.foldl (fun m q' => if d <+: q' then m.erase q' else m) fs).lookup q =
      if d <+: q then none else fs.lookup q := by
  rw [lookup_removeAll]
  by_cases hd : d <+: q
  · by_cases hq : q ∈ fs.keys
    · simp [hd, hq]
    · simp only [hd, hq, and_false, ite_false, true_and, ite_true]
      exact AList.lookup_eq_none.2 (mt AList.mem_keys.2 hq)
  · simp [hd]

theorem writes_deleteTree (d : Path) :
    Writes (deleteTree d) fun k old => (Op.deleteTree d).written k old := by
  intro fs ht
  apply writesFrom_getThe_bind
  split
  · exact writesFrom_throw ht _
  · have hl := lookup_deleteTree fs d
    simp only [WritesFrom, exec_set]
    refine ⟨⟨?_, fun p n hp q hq hqp hq0 => ?_⟩, fun k => ?_⟩
    · rw [hl, ht.root]
      split_ifs <;> rfl
    · rw [hl] at hp ⊢
      split_ifs at hp with hd
      rw [if_neg fun hdq => hd (hdq.trans hq)]
      exact ht.parent p n hp q hq hqp hq0
    · rw [fileAt, hl, Op.written]
      split_ifs <;> rfl

theorem Op.writes_run : ∀ op : Op, Writes op.run fun k old => op.written k old
  | .put key value => writes_put key value
  | .delete key => writes_delete key
  | .deleteTree directory => writes_deleteTree directory

/-- A run of calls from a tree leaves a tree, each file as the calls that succeeded wrote it. -/
theorem runCalls_files : ∀ (ops : List Op) (fs : FS), Tree fs →
    Tree (runCalls ops fs).2 ∧
      ∀ k, fileAt (runCalls ops fs).2 k = filesAfter k ops (runCalls ops fs).1 (fileAt fs k)
  | [], _, ht => ⟨ht, fun _ => rfl⟩
  | op :: ops, fs, ht => by
    obtain ⟨ht₁, hfiles₁⟩ := op.writes_run fs ht
    obtain ⟨ht₂, hfiles₂⟩ := runCalls_files ops _ ht₁
    refine ⟨ht₂, fun k => ?_⟩
    show fileAt (runCalls ops (op.run.exec fs).2).2 k = filesAfter k ops _ _
    rw [hfiles₂, hfiles₁]
    cases (op.run.exec fs).1 <;> rfl

/-! ### What `get` and `list` read -/

theorem fileAt_eq_some {fs : FS} {p : Path} {data : Bytes} :
    fileAt fs p = some data ↔ fs.lookup p = some (.file data) := by
  unfold fileAt
  rcases fs.lookup p with _ | (d | _) <;> simp [Node.bytes?]

theorem Tree.stat_file_iff {fs : FS} (ht : Tree fs) {p : Path} {data : Bytes} :
    stat fs p = .ok (.file data) ↔ fileAt fs p = some data := by
  rw [fileAt_eq_some]
  refine ⟨fun h => ?_, ht.stat_of_lookup⟩
  obtain ⟨-, -, hl⟩ := (stat_ok_iff.1 h).resolve_left (by simp)
  exact hl

theorem get_exec (key : Path) (fs : FS) :
    (get key).exec fs = (match stat fs key with
      | .ok (.file data) => .ok data
      | .ok .dir => .error .isDir
      | .error e => .error e, fs) := by
  simp only [get, exec_bind, exec_getThe]
  split <;> rfl

theorem Tree.get_ok_iff {fs : FS} (ht : Tree fs) (key : Path) (data : Bytes) :
    ((get key).exec fs).1 = .ok data ↔ fileAt fs key = some data := by
  rw [get_exec, ← ht.stat_file_iff]
  rcases stat fs key with e | (d | _) <;> simp

theorem mem_readDirNames {fs : FS} {d : Path} {n : String} :
    n ∈ readDirNames fs d ↔ d ++ [n] ∈ fs := by
  rw [readDirNames, List.mem_insertionSort, List.mem_filterMap]
  constructor
  · rintro ⟨q, hq, hqn⟩
    split_ifs at hqn with hd
    rw [← hd, List.dropLast_append_getLast? n hqn]
    exact AList.mem_keys.1 hq
  · intro h
    exact ⟨d ++ [n], AList.mem_keys.2 h, by simp⟩

theorem nodup_readDirNames (fs : FS) (d : Path) : (readDirNames fs d).Nodup := by
  refine (List.perm_insertionSort _ _).nodup_iff.2 (fs.keys_nodup.filterMap fun q q' n hq hq' => ?_)
  split_ifs at hq hq' with hd hd'
  · rw [← List.dropLast_append_getLast? n hq, ← List.dropLast_append_getLast? n hq', hd, hd']
  all_goals simp_all

theorem Tree.listFiles_exec {fs : FS} (ht : Tree fs) (d : Path) : ∀ ns : List String,
    (∀ n ∈ ns, d ++ [n] ∈ fs) →
    (listFiles d ns).exec fs = (.ok (ns.filterMap fun n => (fileAt fs (d ++ [n])).map (d ++ [n], ·)), fs)
  | [], _ => rfl
  | n :: ns, hns => by
    have ih := ht.listFiles_exec d ns fun m hm => hns m (List.mem_cons_of_mem _ hm)
    obtain ⟨node, hnode⟩ :=
      Option.isSome_iff_exists.1 (AList.lookup_isSome.2 (hns n (List.mem_cons_self _ _)))
    simp only [listFiles, exec_bind, exec_getThe]
    cases node with
    | dir =>
      have hfile : fileAt fs (d ++ [n]) = none := by simp [fileAt, hnode, Node.bytes?]
      simp [hnode, ih, hfile]
    | file data =>
      have hfile : fileAt fs (d ++ [n]) = some data := fileAt_eq_some.2 hnode
      simp [hnode, ih, hfile, get_exec, ht.stat_of_lookup hnode]

/-- `list` of a directory returns each file directly under it once, with its bytes. -/
theorem Tree.list_exec {fs : FS} (ht : Tree fs) {d : Path} (hd : stat fs d = .ok .dir) :
    ∃ l, (list d).exec fs = (.ok l, fs) ∧ l.Nodup ∧
      ∀ p data, (p, data) ∈ l ↔ ∃ n, p = d ++ [n] ∧ fileAt fs p = some data := by
  refine ⟨(readDirNames fs d).filterMap fun n => (fileAt fs (d ++ [n])).map (d ++ [n], ·), ?_, ?_, ?_⟩
  · simp only [list, exec_bind, exec_getThe, hd]
    exact ht.listFiles_exec d _ fun n hn => mem_readDirNames.1 hn
  · refine (nodup_readDirNames fs d).filterMap fun n n' x hx hx' => ?_
    simp only [Option.mem_def, Option.map_eq_some'] at hx hx'
    obtain ⟨_, -, rfl⟩ := hx
    obtain ⟨_, -, h⟩ := hx'
    simpa using (congrArg Prod.fst h).symm
  · intro p data
    simp only [List.mem_filterMap, Option.map_eq_some', Prod.mk.injEq, mem_readDirNames]
    constructor
    · rintro ⟨n, -, data', hdata, rfl, rfl⟩
      exact ⟨n, rfl, hdata⟩
    · rintro ⟨n, rfl, hdata⟩
      exact ⟨n, AList.lookup_isSome.1 (by rw [fileAt_eq_some.1 hdata]; rfl), data, hdata, rfl, rfl⟩

/-! ### A run of calls -/

/-- After any calls run one after another from a tree, `get` and `list` read the files as the calls
that succeeded wrote them, each `put` over the start of what its key held. -/
theorem localStore_writes_over (fs : FS) (htree : Tree fs) (ops : List Op)
    (rs : List (Except FsError Unit)) (fs' : FS) (hrun : runCalls ops fs = (rs, fs')) :
    (∀ k data, ((get k).exec fs').1 = .ok data ↔ filesAfter k ops rs (fileAt fs k) = some data) ∧
    ∀ d, stat fs' d = .ok .dir → ∃ l, (list d).exec fs' = (.ok l, fs') ∧ l.Nodup ∧
      ∀ p data, (p, data) ∈ l ↔ ∃ n, p = d ++ [n] ∧ filesAfter p ops rs (fileAt fs p) = some data := by
  obtain ⟨ht', hfiles⟩ := runCalls_files ops fs htree
  rw [hrun] at ht' hfiles
  refine ⟨fun k data => by rw [ht'.get_ok_iff, hfiles], fun d hd => ?_⟩
  obtain ⟨l, hl, hnd, hmem⟩ := ht'.list_exec hd
  exact ⟨l, hl, hnd, fun p data => by rw [hmem]; simp only [hfiles]⟩

/-- A key written with `abc`, then with `x`. -/
def shorterRewrite : List Op :=
  [.put ["store", "web"] [97, 98, 99], .put ["store", "web"] [120]]

theorem shorter_rewrite_keeps_tail :
    runCalls shorterRewrite ∅ = ([.ok (), .ok ()], (runCalls shorterRewrite ∅).2) ∧
    ((get ["store", "web"]).exec (runCalls shorterRewrite ∅).2).1 = .ok [120, 98, 99] ∧
    ((get ["store", "web"]).exec (runCalls shorterRewrite ∅).2).1 ≠ .ok [120] := by
  have hrun : runCalls shorterRewrite ∅ = ([.ok (), .ok ()], (runCalls shorterRewrite ∅).2) := rfl
  have hget := ((localStore_writes_over ∅ tree_empty shorterRewrite _ _ hrun).1 ["store", "web"]
    [120, 98, 99]).2 (by decide)
  exact ⟨hrun, hget, by rw [hget]; simp⟩

/-- `Put` never returns: `ensureDirExist` asks `Exists`, whose read lock waits for the write lock
that `Put` holds itself. -/
theorem Put_blocks (key : Path) (value : Bytes) (fs : FS) :
    (Put key value).exec fs = (.error .blocked, fs) :=
  rfl

end LocalStore

end Gorb
