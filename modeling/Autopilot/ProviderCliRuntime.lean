/-
The executable of a provider, and who can put another in its place.

The resolver looks at the directories on the canonical path of the executable, from the root of the
installation on, and at the executable itself: all of them belong to the trusted owner, and nobody
else may write to them. What it returns is not the canonical path but the configured one. Users
other than the trusted owner may do what the owners and the modes of a file tree allow them, below
and beside the root of the installation, whose ancestors are fixed.

This module is `resolveProviderCliRuntime` (`providerCliRuntime.ts`) on a POSIX platform. A file
tree is its inodes. A link text that ends in a slash or a dot is taken without it.
-/
import Autopilot.Js
import Autopilot.Lib.PathWalk
import Mathlib.Data.List.DropRight
import Mathlib.Logic.Function.Basic
import Mathlib.Logic.Relation

set_option autoImplicit false

namespace Autopilot
namespace ProviderCliRuntime

open PathWalk

/-! ## File trees -/

/-- What an inode holds. -/
inductive Content where
  | directory (entries : List (JsString × ℕ))
  | link (text : JsString)
  | file (bytes : List UInt8)

/-- An inode: its owner, its group, its mode and what it holds. -/
structure Node where
  owner : ℕ
  group : ℕ
  mode : ℕ
  content : Content

/-- A file tree, by the numbers of its inodes. -/
structure Tree where
  root : ℕ
  node : ℕ → Option Node

/-- The process that resolves. -/
structure Process where
  uid : ℕ
  groups : List ℕ

namespace Node

/-- Others than the owner may write. -/
def openToOthers (node : Node) : Bool := node.mode &&& 0o022 ≠ 0

/-- Entries are removed by their owners only. -/
def sticky (node : Node) : Bool := node.mode &&& 0o1000 ≠ 0

/-- The inode of the entry of a name. -/
def entry (node : Node) (name : JsString) : Option ℕ :=
  match node.content with
  | .directory entries => (entries.find? fun e => e.1 = name).map Prod.snd
  | _ => none

def isDirectory (node : Node) : Bool := match node.content with | .directory _ => true | _ => false

def isFile (node : Node) : Bool := match node.content with | .file _ => true | _ => false

/-- The bit of the mode that lets a process search a directory, or execute a file. -/
def executeBit (node : Node) (process : Process) : ℕ :=
  if node.owner = process.uid then 0o100
  else if node.group ∈ process.groups then 0o010
  else 0o001

/-- The superuser searches every directory. -/
def searchable (node : Node) (process : Process) : Bool :=
  process.uid = 0 || node.mode &&& node.executeBit process ≠ 0

/-- `accessSync(path, X_OK)`: for the superuser, anybody may execute the file. -/
def executable (node : Node) (process : Process) : Bool :=
  if process.uid = 0 then node.mode &&& 0o111 ≠ 0 else node.mode &&& node.executeBit process ≠ 0

end Node

/-! ## Paths -/

/-- `sep`. -/
def slash : UInt16 := 47

/-- The steps of a path. -/
def steps (path : JsString) : List (Step JsString) :=
  (path.splitOn slash).filterMap fun segment =>
    if segment = [] ∨ segment = js "." then none
    else if segment = js ".." then some .up
    else some (.name segment)

/-- `isAbsolute`. -/
def isAbsolute (path : JsString) : Bool := path.head? = some slash

/-- A path from its names. -/
def pathOf (names : List JsString) : JsString :=
  if names = [] then [slash] else names.flatMap (slash :: ·)

/-- The names of an absolute path, where `..` takes the name before it away. -/
def normalNames (path : JsString) : List JsString :=
  (steps path).foldl (fun names step => match step with
    | .up => names.dropLast
    | .name n => names ++ [n]) []

/-- `normalize` of an absolute path; a slash at the end is kept. -/
def normalize (path : JsString) : JsString :=
  pathOf (normalNames path) ++
    if path.getLast? = some slash ∧ normalNames path ≠ [] then [slash] else []

/-- `dirname`. -/
def dirname (path : JsString) : JsString :=
  let parent := ((path.rdropWhile (· = slash)).rdropWhile (· ≠ slash)).dropLast
  if parent = [] then [slash] else parent

/-- `join` of an absolute path and a name. -/
def join (path name : JsString) : JsString := normalize (path ++ slash :: name)

/-- `relative`, of the names of canonical paths. -/
def relative : List JsString → List JsString → List JsString
  | f :: source, t :: target =>
    if f = t then relative source target
    else (f :: source).map (fun _ => js "..") ++ t :: target
  | source, target => source.map (fun _ => js "..") ++ target

/-- The links that the system follows on one path. -/
def linkLimit : ℕ := 40

/-- What an inode is for a walk. -/
def Node.kind (node : Node) : Kind JsString :=
  match node.content with
  | .directory _ => .directory
  | .link text => .link ⟨isAbsolute text, steps text⟩
  | .file _ => .other

namespace Tree

variable (tree : Tree) (process : Process)

/-- The tree as a walk of the process sees it. -/
def view : View JsString ℕ where
  root := tree.root
  kind i := (tree.node i).map Node.kind
  searchable i := (tree.node i).any fun node => node.searchable process
  entry d name := (tree.node d).bind fun node => node.entry name

/-- The walk of an absolute path. -/
def walk (path : List (Step JsString)) :
    Except Failure (List (ℕ × Step JsString) × List (JsString × ℕ)) :=
  (tree.view process).walk linkLimit path []

/-- The inode that a path resolves to. -/
def resolve (path : List (Step JsString)) : Except Failure ℕ :=
  (tree.walk process path).map fun walked => (tree.view process).current walked.2

/-- `realpathSync`, as the names of the canonical path. -/
def realpath (path : JsString) : Except Failure (List JsString) :=
  (tree.walk process (steps path)).map fun walked => names walked.2

/-- `statSync`. -/
def stat (path : List (Step JsString)) : Except Failure Node := do
  let i ← tree.resolve process path
  match tree.node i with
  | some node => .ok node
  | none => .error .noEntry

end Tree

/-! ## The resolver -/

/-- `ProviderCli`. -/
inductive ProviderCli where
  | codex_cli
  | claude_cli
  | agy_cli

/-- `ProviderCliRuntimeError`. -/
inductive ProviderCliRuntimeError where
  | provider_executable_missing
  | provider_runtime_denied
  deriving DecidableEq

/-- `PROVIDER_EXECUTABLES`. -/
def providerExecutables : ProviderCli → JsString
  | .codex_cli => js "codex"
  | .claude_cli => js "claude"
  | .agy_cli => js "agy"

/-- The variables of the environment that are read. -/
structure Environment where
  AUTOPILOT_PROVIDER_CLI_BIN_DIR : Option JsString
  AUTOPILOT_PROVIDER_CLI_TEST_MODE : Option JsString
  AUTOPILOT_PROVIDER_CLI_TEST_ROOT : Option JsString

/-- `runtimePathError`. -/
def runtimePathError : Failure → ProviderCliRuntimeError
  | .noEntry | .notDirectory => .provider_executable_missing
  | .denied | .loop => .provider_runtime_denied

/-- A call of the system in a `try` block. -/
def caught {α : Type} (call : Except Failure α) : Except ProviderCliRuntimeError α :=
  call.mapError runtimePathError

/-- `return unavailable(error)`, if something is wrong. -/
def unavailableIf (wrong : Bool) (error : ProviderCliRuntimeError) :
    Except ProviderCliRuntimeError Unit :=
  if wrong then .error error else .ok ()

/-- `isContainedPath`. -/
def isContainedPath (directory candidate : List JsString) : Bool :=
  let child := relative directory candidate
  child ≠ [] && child.head? ≠ some (js "..")

/-- `containedDirectories`. -/
def containedDirectories (root directory : List JsString) : Option (List (List JsString)) :=
  let child := relative root directory
  if child = [] then some [root]
  else if isContainedPath root directory then some (child.inits.map (root ++ ·))
  else none

/-- `hasTrustedOwnershipAndMode`. -/
def hasTrustedOwnershipAndMode (metadata : Node) (expectedOwnerUid : ℕ) : Bool :=
  metadata.owner = expectedOwnerUid && !metadata.openToOthers

section resolver

variable (tree : Tree) (process : Process)

/-- `trustedOwnerUid`. -/
def trustedOwnerUid (environment : Environment) (realInstallRoot : List JsString) : ℕ :=
  if environment.AUTOPILOT_PROVIDER_CLI_TEST_MODE ≠ some (js "1") then 0
  else match environment.AUTOPILOT_PROVIDER_CLI_TEST_ROOT with
    | none => 0
    | some testRoot =>
      if testRoot = [] || !isAbsolute testRoot || normalize testRoot ≠ testRoot then 0
      else match tree.realpath process testRoot with
        | .error _ => 0
        | .ok realTestRoot => if realTestRoot ≠ realInstallRoot then 0 else process.uid

/-- The loop over the trusted directories. -/
def checkDirectories (expectedOwnerUid : ℕ) :
    List (List JsString) → Except ProviderCliRuntimeError Unit
  | [] => .ok ()
  | directory :: rest => do
    let metadata ← caught (tree.stat process (directory.map .name))
    unavailableIf (!metadata.isDirectory || !hasTrustedOwnershipAndMode metadata expectedOwnerUid)
      .provider_runtime_denied
    checkDirectories expectedOwnerUid rest

/-- The end of the resolver, about the canonical path of the executable. -/
def checkExecutable (expectedOwnerUid : ℕ) (realExecutable : List JsString) :
    Except ProviderCliRuntimeError Unit := do
  let metadata ← caught (tree.stat process (realExecutable.map .name))
  unavailableIf (!metadata.isFile) .provider_executable_missing
  unavailableIf (!hasTrustedOwnershipAndMode metadata expectedOwnerUid) .provider_runtime_denied
  unavailableIf (!metadata.executable process) .provider_executable_missing

/-- The resolver on a configured directory. -/
def configuredRuntime (environment : Environment) (basename configuredDirectory : JsString) :
    Except ProviderCliRuntimeError JsString := do
  unavailableIf (configuredDirectory = [] || !isAbsolute configuredDirectory ||
    normalize configuredDirectory ≠ configuredDirectory) .provider_runtime_denied
  let configuredInstallRoot := dirname configuredDirectory
  let metadata ← caught (tree.stat process (steps configuredDirectory))
  unavailableIf (!metadata.isDirectory) .provider_runtime_denied
  let realInstallRoot ← caught (tree.realpath process configuredInstallRoot)
  let realDirectory ← caught (tree.realpath process configuredDirectory)
  unavailableIf (configuredInstallRoot ≠ pathOf realInstallRoot ||
    !isContainedPath realInstallRoot realDirectory) .provider_runtime_denied
  let executable := join configuredDirectory basename
  let realExecutable ← caught (tree.realpath process executable)
  unavailableIf (!isContainedPath realInstallRoot realExecutable) .provider_runtime_denied
  let expectedOwnerUid := trustedOwnerUid tree process environment realInstallRoot
  match containedDirectories realInstallRoot realDirectory,
      containedDirectories realInstallRoot realExecutable.dropLast with
  | some publishedDirectories, some targetDirectories =>
    checkDirectories tree process expectedOwnerUid
      (publishedDirectories ++ targetDirectories).eraseDups
    checkExecutable tree process expectedOwnerUid realExecutable
    return executable
  | _, _ => .error .provider_runtime_denied

/-- `resolveProviderCliRuntime`: the executable, if it is available. -/
def resolveProviderCliRuntime (provider : ProviderCli) (environment : Environment)
    (platform : JsString) : Except ProviderCliRuntimeError JsString :=
  let basename := providerExecutables provider
  match environment.AUTOPILOT_PROVIDER_CLI_BIN_DIR with
  | none => .ok (if platform = js "win32" then basename ++ js ".cmd" else basename)
  | some configuredDirectory => configuredRuntime tree process environment basename
      configuredDirectory

end resolver

end ProviderCliRuntime
end Autopilot
