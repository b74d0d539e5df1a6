import Mathlib.Data.Nat.Digits.Defs
import C2Lab.LabRuntime
import C2Lab.Lib.Dict
import C2Lab.Lib.Prog

/-! The files of the Node's workspace, the lower half of `EphemeralLabWorkspace`.

    A file is made by `NamedTemporaryFile`, so it has one handle; `files` holds both halves of it
    under the number of the file, the inode it would have. The directory maps names to inodes. Every
    call to the operating system is counted, and `Host` says which of them fail. -/

namespace C2Lab.LabRuntime

def maxWorkspaceFiles : ℕ := 5
def maxArtifactBytes : ℕ := 2048
def maxWorkspaceBytes : ℕ := 4096

/-- The characters `tempfile` makes names of. -/
def tempfileAlphabet : List Char := "abcdefghijklmnopqrstuvwxyz0123456789_".toList

/-- The random part of a name from `tempfile`. -/
structure RandomName where
  text : String
  alphabet : text.toList.length = 8 ∧ ∀ c ∈ text.toList, c ∈ tempfileAlphabet

/-- The name of a new file. -/
def memberName (pre : String) (random : RandomName) (suffix : String) : PyStr :=
  .text (pre ++ random.text ++ suffix)

/-- What the process around a workspace contributes: the random part of each new name, picked so
    that the name is not in use, and which of the calls to the operating system fail. -/
structure Host where
  pick : ℕ → String → String → List PyStr → RandomName
  pick_fresh : ∀ n pre suffix used, used.length ≤ maxWorkspaceFiles →
    memberName pre (pick n pre suffix used) suffix ∉ used
  fails : ℕ → Bool

/-- A file: what is in it, how often a directory names it, and its one handle. -/
structure File where
  contents : List ℕ
  links : ℕ
  closed : Bool
  position : ℕ
  deriving DecidableEq

/-- What a name in the directory stands for. -/
inductive EntryKind where
  | regular
  | symlink
  | directory
  deriving DecidableEq

/-- A name in the directory. -/
structure Entry where
  kind : EntryKind
  inode : ℕ
  deriving DecidableEq

/-- The temporary directory itself. -/
structure Root where
  isLink : Bool
  isDirectory : Bool
  moved : Bool

/-- The workspace and the files it works on. -/
structure Workspace where
  closed : Bool
  artifacts : Dict String PyStr
  handles : Dict PyStr ℕ
  root : Root
  entries : Dict PyStr Entry
  files : Dict ℕ File
  created : ℕ
  calls : ℕ

/-- What a step of the workspace raises: an exception of the program or of Python, or `OSError`. -/
inductive WorkspaceExc where
  | raised (e : Exc)
  | os
  deriving DecidableEq

/-- A program over the workspace. -/
abbrev Work := EStateM WorkspaceExc Workspace

/-- `WorkspaceSafetyError()`. -/
def violation : WorkspaceExc :=
  .raised (.labRuntime "ephemeral workspace boundary check failed" "workspace_violation")

variable (host : Host)

/-! ### Calls to the operating system -/

/-- One call: it fails when the host says so. -/
def osCall : Work Unit := do
  let ws ← get
  modify fun ws => { ws with calls := ws.calls + 1 }
  Prog.require (host.fails ws.calls = false) .os

/-- The file of an open handle; a closed one raises `ValueError`. -/
def openFile (handle : ℕ) : Work File := do
  let ws ← get
  match ws.files.get? handle with
  | some f => do
    Prog.require (f.closed = false) (.raised (.py .valueError))
    return f
  | none => throw .os

/-- Write back a file. -/
def setFile (handle : ℕ) (f : File) : Work Unit :=
  modify fun ws => { ws with files := ws.files.set handle f }

/-- `os.fstat(handle.fileno())`. -/
def fstat (handle : ℕ) : Work File := do
  let f ← openFile handle
  osCall host
  return f

/-- `handle.write(data)`. -/
def writeFile (handle : ℕ) (data : List ℕ) : Work Unit := do
  let f ← openFile handle
  osCall host
  setFile handle
    { f with contents := f.contents.take f.position ++ data ++
               f.contents.drop (f.position + data.length)
             position := f.position + data.length }

/-- `handle.flush()`. -/
def flushFile (handle : ℕ) : Work Unit := do
  let _ ← openFile handle
  osCall host

/-- `handle.seek(position)`. -/
def seekFile (handle position : ℕ) : Work Unit := do
  let f ← openFile handle
  osCall host
  setFile handle { f with position := position }

/-- `handle.read(size)`. -/
def readFile (handle size : ℕ) : Work (List ℕ) := do
  let f ← openFile handle
  osCall host
  let data := (f.contents.drop f.position).take size
  setFile handle { f with position := f.position + data.length }
  return data

/-- `handle.close()`. Closing is not among the calls that may fail: every write has flushed its data
    before, so there is nothing left that could. -/
def closeFile (handle : ℕ) : Work Unit :=
  modify fun ws =>
    match ws.files.get? handle with
    | some f => { ws with files := ws.files.set handle { f with closed := true } }
    | none => ws

/-- `os.remove(root / member)`. -/
def removeFile (member : PyStr) : Work Unit := do
  osCall host
  let ws ← get
  match ws.entries.get? member with
  | none => throw .os
  | some e =>
    modify fun ws =>
      { ws with
        entries := ws.entries.erase member
        files := match ws.files.get? e.inode with
          | some f => ws.files.set e.inode { f with links := f.links - 1 }
          | none => ws.files }

/-- `tempfile.NamedTemporaryFile(...)`: a new empty file under a new name, with its handle. -/
def namedTemporaryFile (pre suffix : String) : Work (PyStr × ℕ) := do
  osCall host
  let ws ← get
  let member := memberName pre (host.pick ws.created pre suffix ws.entries.keys) suffix
  modify fun ws =>
    { ws with
      entries := ws.entries.set member { kind := .regular, inode := ws.created }
      files := ws.files.set ws.created
        { contents := [], links := 1, closed := false, position := 0 }
      created := ws.created + 1 }
  return (member, ws.created)

/-! ### The boundary checks -/

/-- `_require_open`. -/
def requireOpen : Work Unit := do
  let ws ← get
  Prog.require (ws.closed = false)
    (.raised (.labRuntime "ephemeral workspace is closed" "workspace_closed"))

/-- `_assert_root`. -/
def assertRoot : Work Unit := do
  let ws ← get
  Prog.require (ws.closed = false ∧ ws.root.isLink = false ∧ ws.root.isDirectory = true ∧
    ws.root.moved = false) violation

/-- The name is its own `basename`, and no way out of the directory. -/
def isBareName (member : PyStr) : Bool :=
  !member.codes.contains 0x2F && !member.codes.contains 0x5C && member != "." && member != ".."

/-- `_safe_member_path`; `os.path.lexists` answers `False` when its call fails, and a name that is
    no link resolves inside the root. -/
def safeMemberPath (member : PyStr) : Work Unit := do
  assertRoot
  let ws ← get
  Prog.require (member ∈ ws.handles.keys ∧ isBareName member = true) violation
  modify fun ws => { ws with calls := ws.calls + 1 }
  Prog.require (host.fails ws.calls = false ∧
    ∃ e ∈ ws.entries.get? member, e.kind ≠ .symlink) violation

/-- `_handles[member]`. -/
def handleOf (member : PyStr) : Work ℕ := do
  let ws ← get
  match ws.handles.get? member with
  | some handle => return handle
  | none => throw (.raised (.py .keyError))

/-- The checks of `_assert_workspace` on one entry, and its size. -/
def assertMember (member : PyStr) (e : Entry) : Work ℕ := do
  safeMemberPath host member
  let handle ← handleOf member
  let ws ← get
  Prog.require ((∀ f ∈ ws.files.get? handle, f.closed = false) ∧ e.kind = .regular) violation
  osCall host
  let f ← fstat host handle
  Prog.require (e.inode = handle ∧ f.links = 1 ∧ f.contents.length ≤ maxArtifactBytes) violation
  return f.contents.length

/-- The loop of `_assert_workspace`, which adds the sizes up. -/
def assertMembers : List (PyStr × Entry) → Work ℕ
  | [] => return 0
  | p :: rest => do
    let size ← assertMember host p.1 p.2
    let total ← assertMembers rest
    return size + total

/-- `_assert_workspace`. -/
def assertWorkspace : Work Unit := do
  assertRoot
  osCall host
  let ws ← get
  Prog.require (ws.entries.size ≤ maxWorkspaceFiles ∧
    (∀ member ∈ ws.entries.keys, member ∈ ws.handles.keys) ∧
    ∀ member ∈ ws.handles.keys, member ∈ ws.entries.keys) violation
  let total ← assertMembers host ws.entries.entries
  Prog.require (total ≤ maxWorkspaceBytes) violation

/-! ### Artifacts -/

/-- The sizes of some handles, added up. -/
def sizeOfHandles : List ℕ → Work ℕ
  | [] => return 0
  | handle :: rest => do
    let f ← fstat host handle
    let total ← sizeOfHandles rest
    return f.contents.length + total

/-- The characters of a member name. -/
def isMemberChar (c : Char) : Bool := c.isAlphanum || c == '.' || c == '_' || c == '-'

/-- The checks on the name of a new file. -/
def isMemberName (member : PyStr) : Bool := member != "" && member.allChars isMemberChar

/-- The `try` block of `_create_member`, once the file is there. -/
def fillMember (logicalName : String) (member : PyStr) (handle : ℕ) (contents : List ℕ) :
    Work Unit := do
  Prog.require (isMemberName member = true) violation
  writeFile host handle contents
  flushFile host handle
  modify fun ws => { ws with artifacts := ws.artifacts.set logicalName member }
  modify fun ws => { ws with handles := ws.handles.set member handle }
  safeMemberPath host member

/-- What `_create_member` does before it raises again. -/
def discardMember (member : PyStr) (handle : ℕ) : Work Unit := do
  closeFile handle
  let ws ← get
  if member ∈ ws.entries.keys then
    tryCatch (removeFile host member) fun e =>
      match e with
      | .os => return
      | e => throw e
  else return

/-- `_create_member`. -/
def createMember (logicalName pre suffix : String) (contents : List ℕ) : Work Unit := do
  requireOpen
  assertRoot
  let ws ← get
  Prog.require (logicalName ∉ ws.artifacts.keys ∧ ws.artifacts.size < maxWorkspaceFiles ∧
    contents.length ≤ maxArtifactBytes) violation
  let current ← sizeOfHandles host ws.handles.values
  Prog.require (current + contents.length ≤ maxWorkspaceBytes) violation
  let (member, handle) ← namedTemporaryFile host pre suffix
  tryCatch (fillMember host logicalName member handle contents) fun e => do
    discardMember host member handle
    throw e

/-- `_read_artifact`. -/
def readArtifact (logicalName : String) : Work (List ℕ) := do
  let ws ← get
  match ws.artifacts.get? logicalName with
  | none => throw violation
  | some member => do
    safeMemberPath host member
    let handle ← handleOf member
    flushFile host handle
    seekFile host handle 0
    let contents ← readFile host handle (maxArtifactBytes + 1)
    seekFile host handle 0
    Prog.require (contents.length ≤ maxArtifactBytes) violation
    return contents

/-- `_remove_artifact`. -/
def removeArtifact (logicalName : String) : Work Bool := do
  let ws ← get
  match ws.artifacts.get? logicalName with
  | none => return false
  | some member => do
    safeMemberPath host member
    let handle ← handleOf member
    closeFile handle
    tryCatch (removeFile host member) fun e =>
      match e with
      | .os => throw (.raised (.labRuntime "lab artifact cleanup failed" "artifact_failure"))
      | e => throw e
    modify fun ws => { ws with handles := ws.handles.erase member }
    modify fun ws => { ws with artifacts := ws.artifacts.erase logicalName }
    return true

end C2Lab.LabRuntime
