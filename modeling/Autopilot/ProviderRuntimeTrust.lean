/-
What users other than the trusted owner can do to the executable of a provider.

Whatever they do is put together from five edits of one inode each. None of these changes an inode
that the trusted owner has and nobody else may write to, a link, or the entry of an inode of the
trusted owner in a sticky directory of his; everything else they can change. So the path that is
resolved goes on leading to the same file exactly if every look on the way is at such a directory.
-/
import Autopilot.ProviderCliRuntime
import Mathlib.Algebra.Order.BigOperators.Group.List

set_option autoImplicit false

namespace Autopilot
namespace ProviderCliRuntime

open PathWalk

/-! ## Edits -/

/-- The owner of the root of the installation and of what is in it. -/
def trustedOwner : ℕ := 0

/-- The owner may write, whatever the mode is, since it is his to change. -/
def Node.WritableBy (node : Node) (user : ℕ) : Prop :=
  node.owner = user ∨ node.openToOthers = true

/-- An entry of a sticky directory is removed by the owner of the directory or of the inode. -/
def MayRemove (tree : Tree) (node : Node) (name : JsString) (user : ℕ) : Prop :=
  node.sticky = true → node.owner = user ∨
    ∃ i child, node.entry name = some i ∧ tree.node i = some child ∧ child.owner = user

/-- What a user can make of one inode. To create a file is to allocate it and to put an entry, and to
rename one is to put an entry and to drop those that it replaces. -/
inductive Edit (tree : Tree) (user : ℕ) : ℕ → Node → Prop
  | allocate {i : ℕ} {node : Node} (hfree : tree.node i = none) (howner : node.owner = user)
    (hempty : ∀ entries, node.content = .directory entries → entries = []) : Edit tree user i node
  | put {d : ℕ} {node : Node} {entries : List (JsString × ℕ)} (name : JsString) (i : ℕ)
    (hnode : tree.node d = some node) (hentries : node.content = .directory entries)
    (hwrite : node.WritableBy user) (hnew : node.entry name = none) :
    Edit tree user d { node with content := .directory (entries ++ [(name, i)]) }
  | drop {d : ℕ} {node : Node} {entries : List (JsString × ℕ)} (name : JsString)
    (hnode : tree.node d = some node) (hentries : node.content = .directory entries)
    (hwrite : node.WritableBy user) (hremove : MayRemove tree node name user) :
    Edit tree user d { node with content := .directory (entries.filter fun e => e.1 ≠ name) }
  | write {i : ℕ} {node : Node} {before : List UInt8} (bytes : List UInt8)
    (hnode : tree.node i = some node) (hfile : node.content = .file before)
    (hwrite : node.WritableBy user) : Edit tree user i { node with content := .file bytes }
  | chmod {i : ℕ} {node : Node} (group mode : ℕ) (hnode : tree.node i = some node)
    (hlink : ∀ text, node.content ≠ .link text) (howner : node.owner = user) :
    Edit tree user i { node with group, mode }

/-- The tree with another inode. -/
def Tree.set (tree : Tree) (i : ℕ) (node : Node) : Tree :=
  { tree with node := Function.update tree.node i (some node) }

/-- An edit by a user other than the trusted owner, of an inode that is not fixed. -/
def Edited (fixed : List ℕ) (tree tree' : Tree) : Prop :=
  ∃ user i node, user ≠ trustedOwner ∧ i ∉ fixed ∧ Edit tree user i node ∧ tree' = tree.set i node

/-- The changes that users other than the trusted owner may make. -/
def Changed (fixed : List ℕ) : Tree → Tree → Prop := Relation.ReflTransGen (Edited fixed)

/-! ## What stays -/

/-- Only the trusted owner can change an inode. -/
def Node.Guarded (node : Node) : Prop := node.owner = trustedOwner ∧ node.openToOthers = false

/-- What stays of one inode. -/
structure NodeKept (tree : Tree) (node node' : Node) : Prop where
  owner : node'.owner = node.owner
  guarded : node.Guarded → node' = node
  link : ∀ text, node.content = .link text → node' = node
  attributes : node.owner = trustedOwner → node'.group = node.group ∧ node'.mode = node.mode
  directory : node.isDirectory = true → node'.isDirectory = true
  file : node.isFile = true → node'.isFile = true
  entry : node.owner = trustedOwner → node.sticky = true → ∀ name i child,
    node.entry name = some i → tree.node i = some child → child.owner = trustedOwner →
      node'.entry name = some i

/-- What stays of a tree. -/
structure Kept (fixed : List ℕ) (tree tree' : Tree) : Prop where
  root : tree'.root = tree.root
  node : ∀ i node, tree.node i = some node → ∃ node', tree'.node i = some node' ∧
    NodeKept tree node node' ∧ (i ∈ fixed → node' = node)

theorem NodeKept.refl (tree : Tree) (node : Node) : NodeKept tree node node where
  owner := rfl
  guarded _ := rfl
  link _ _ := rfl
  attributes _ := ⟨rfl, rfl⟩
  directory h := h
  file h := h
  entry _ _ _ _ _ h _ _ := h

theorem Kept.refl (fixed : List ℕ) (tree : Tree) : Kept fixed tree tree where
  root := rfl
  node _ node h := ⟨node, h, NodeKept.refl tree node, fun _ => rfl⟩

theorem Kept.trans {fixed : List ℕ} {tree tree' tree'' : Tree} (h : Kept fixed tree tree')
    (h' : Kept fixed tree' tree'') : Kept fixed tree tree'' := by
  refine ⟨h'.root.trans h.root, fun i node hnode => ?_⟩
  obtain ⟨node', hnode', hkept, hfixed⟩ := h.node i node hnode
  obtain ⟨node'', hnode'', hkept', hfixed'⟩ := h'.node i node' hnode'
  refine ⟨node'', hnode'', ?_, fun hi => (hfixed' hi).trans (hfixed hi)⟩
  constructor
  · exact hkept'.owner.trans hkept.owner
  · intro hguarded
    have heq := hkept.guarded hguarded
    exact (hkept'.guarded (heq.symm ▸ hguarded)).trans heq
  · intro text htext
    have heq := hkept.link text htext
    exact (hkept'.link text (heq.symm ▸ htext)).trans heq
  · intro howner
    obtain ⟨hgroup, hmode⟩ := hkept.attributes howner
    obtain ⟨hgroup', hmode'⟩ := hkept'.attributes (hkept.owner.trans howner)
    exact ⟨hgroup'.trans hgroup, hmode'.trans hmode⟩
  · exact fun hdirectory => hkept'.directory (hkept.directory hdirectory)
  · exact fun hfile => hkept'.file (hkept.file hfile)
  · intro howner hsticky name i child hentry hchild hchildOwner
    obtain ⟨child', hchild', hchildKept, -⟩ := h.node i child hchild
    have hsticky' : node'.sticky = true := by
      unfold Node.sticky
      rw [(hkept.attributes howner).2]
      exact hsticky
    exact hkept'.entry (hkept.owner.trans howner) hsticky' name i child'
      (hkept.entry howner hsticky name i child hentry hchild hchildOwner) hchild'
      (hchildKept.owner.trans hchildOwner)

/-- Who may write is the owner, or the inode is not guarded. -/
theorem Node.WritableBy.not_guarded {node : Node} {user : ℕ} (h : node.WritableBy user)
    (huser : user ≠ trustedOwner) : ¬node.Guarded := by
  rintro ⟨howner, hclosed⟩
  obtain h | h := h
  · exact huser (h.symm.trans howner)
  · exact Bool.noConfusion (hclosed.symm.trans h)

theorem entry_of_directory {node : Node} {entries : List (JsString × ℕ)}
    (h : node.content = .directory entries) (name : JsString) :
    node.entry name = (entries.find? fun e => e.1 = name).map Prod.snd := by
  unfold Node.entry
  rw [h]

/-- The entries of other names than the one that is dropped. -/
theorem find_filter_ne {entries : List (JsString × ℕ)} {name name' : JsString} (h : name' ≠ name) :
    (entries.filter fun e => e.1 ≠ name).find? (fun e => e.1 = name') =
      entries.find? fun e => e.1 = name' := by
  rw [List.find?_filter]
  refine congrFun (congrArg List.find? (funext fun e => ?_)) _
  by_cases he : e.1 = name'
  · simp [he, h]
  · simp [he]

section kept

variable {tree : Tree} {user : ℕ} {node : Node} (huser : user ≠ trustedOwner)

include huser

theorem NodeKept.put {entries : List (JsString × ℕ)} (hentries : node.content = .directory entries)
    (hwrite : node.WritableBy user) (name : JsString) (i : ℕ) :
    NodeKept tree node { node with content := .directory (entries ++ [(name, i)]) } := by
  refine ⟨rfl, fun h => absurd h (hwrite.not_guarded huser), fun text htext => ?_,
    fun _ => ⟨rfl, rfl⟩, fun _ => rfl, fun hfile => ?_, ?_⟩
  · cases hentries.symm.trans htext
  · unfold Node.isFile at hfile
    rw [hentries] at hfile
    cases hfile
  · intro _ _ name' i' _ hentry _ _
    rw [entry_of_directory hentries] at hentry
    obtain ⟨e, he, rfl⟩ := Option.map_eq_some_iff.1 hentry
    rw [entry_of_directory rfl, List.find?_append, he]
    rfl

theorem NodeKept.drop {entries : List (JsString × ℕ)} {name : JsString}
    (hentries : node.content = .directory entries) (hwrite : node.WritableBy user)
    (hremove : MayRemove tree node name user) :
    NodeKept tree node
      { node with content := .directory (entries.filter fun e => e.1 ≠ name) } := by
  refine ⟨rfl, fun h => absurd h (hwrite.not_guarded huser), fun text htext => ?_,
    fun _ => ⟨rfl, rfl⟩, fun _ => rfl, fun hfile => ?_, ?_⟩
  · cases hentries.symm.trans htext
  · unfold Node.isFile at hfile
    rw [hentries] at hfile
    cases hfile
  · intro howner hsticky name' i' child hentry hchild hchildOwner
    -- what the trusted owner has in his sticky directory is not removed by the user
    have hname : name' ≠ name := by
      rintro rfl
      obtain hown | ⟨i₁, child₁, hentry₁, hchild₁, hown⟩ := hremove hsticky
      · exact huser (hown.symm.trans howner)
      · obtain rfl : i₁ = i' := Option.some.inj (hentry₁.symm.trans hentry)
        obtain rfl : child₁ = child := Option.some.inj (hchild₁.symm.trans hchild)
        exact huser (hown.symm.trans hchildOwner)
    rw [entry_of_directory hentries] at hentry
    rw [entry_of_directory rfl, find_filter_ne hname]
    exact hentry

theorem NodeKept.write {before : List UInt8} (hfile : node.content = .file before)
    (hwrite : node.WritableBy user) (bytes : List UInt8) :
    NodeKept tree node { node with content := .file bytes } := by
  refine ⟨rfl, fun h => absurd h (hwrite.not_guarded huser), fun text htext => ?_,
    fun _ => ⟨rfl, rfl⟩, fun hdirectory => ?_, fun _ => rfl, ?_⟩
  · cases hfile.symm.trans htext
  · unfold Node.isDirectory at hdirectory
    rw [hfile] at hdirectory
    cases hdirectory
  · intro _ _ name' i' _ hentry _ _
    unfold Node.entry at hentry
    rw [hfile] at hentry
    cases hentry

theorem NodeKept.chmod (hlink : ∀ text, node.content ≠ .link text) (howner : node.owner = user)
    (group mode : ℕ) : NodeKept tree node { node with group, mode } where
  owner := rfl
  guarded h := absurd h.1 (howner ▸ huser)
  link text htext := absurd htext (hlink text)
  attributes h := absurd h (howner ▸ huser)
  directory h := h
  file h := h
  entry h := absurd h (howner ▸ huser)

/-- **What stays of the inode that is edited.** -/
theorem Edit.kept {i : ℕ} {node' : Node} (h : Edit tree user i node')
    (hnode : tree.node i = some node) : NodeKept tree node node' := by
  cases h with
  | allocate hfree _ _ => cases hfree.symm.trans hnode
  | put name j hnode₁ hentries hwrite _ =>
    obtain rfl := Option.some.inj (hnode₁.symm.trans hnode)
    exact NodeKept.put huser hentries hwrite name j
  | drop name hnode₁ hentries hwrite hremove =>
    obtain rfl := Option.some.inj (hnode₁.symm.trans hnode)
    exact NodeKept.drop huser hentries hwrite hremove
  | write bytes hnode₁ hfile hwrite =>
    obtain rfl := Option.some.inj (hnode₁.symm.trans hnode)
    exact NodeKept.write huser hfile hwrite bytes
  | chmod group mode hnode₁ hlink howner =>
    obtain rfl := Option.some.inj (hnode₁.symm.trans hnode)
    exact NodeKept.chmod huser hlink howner group mode

end kept

theorem Edited.kept {fixed : List ℕ} {tree tree' : Tree} (h : Edited fixed tree tree') :
    Kept fixed tree tree' := by
  obtain ⟨user, i, node', huser, hfixed, hedit, rfl⟩ := h
  refine ⟨rfl, fun j node hnode => ?_⟩
  by_cases hj : j = i
  · subst hj
    exact ⟨node', Function.update_self _ _ _, hedit.kept huser hnode,
      fun hmem => absurd hmem hfixed⟩
  · exact ⟨node, (Function.update_of_ne hj _ _).trans hnode, NodeKept.refl tree node, fun _ => rfl⟩

/-- **What stays whatever is changed.** -/
theorem Changed.kept {fixed : List ℕ} {tree tree' : Tree} (h : Changed fixed tree tree') :
    Kept fixed tree tree' := by
  induction h with
  | refl => exact Kept.refl fixed tree
  | tail _ hedit ih => exact ih.trans hedit.kept

/-! ## Looks that are answered in the same way -/

section looks

variable {tree tree' : Tree} {process : Process} {fixed : List ℕ}

theorem isDirectory_iff {node : Node} : node.isDirectory = true ↔ node.kind = .directory := by
  unfold Node.isDirectory Node.kind
  cases node.content with
  | directory entries => exact iff_of_true rfl rfl
  | link text => exact iff_of_false Bool.noConfusion (fun h => by cases h)
  | file bytes => exact iff_of_false Bool.noConfusion (fun h => by cases h)

theorem isFile_iff {node : Node} : node.isFile = true ↔ node.kind = .other := by
  unfold Node.isFile Node.kind
  cases node.content with
  | directory entries => exact iff_of_false Bool.noConfusion (fun h => by cases h)
  | link text => exact iff_of_false Bool.noConfusion (fun h => by cases h)
  | file bytes => exact iff_of_true rfl rfl

theorem enter_of_node {d : ℕ} {node : Node} (hnode : tree.node d = some node)
    (hdirectory : node.isDirectory = true) : (tree.view process).enter d =
      if node.searchable process then .ok () else .error .denied := by
  have hkind : (tree.view process).kind d = some .directory := by
    rw [← isDirectory_iff.1 hdirectory, ← Option.map_some (f := Node.kind), ← hnode]
    rfl
  have hsearchable : (tree.view process).searchable d = node.searchable process := by
    show (tree.node d).any _ = _
    rw [hnode, Option.any_some]
  unfold View.enter
  rw [hkind, hsearchable]

theorem enter_eq_ok {d : ℕ} : (tree.view process).enter d = .ok () ↔
    ∃ node, tree.node d = some node ∧ node.isDirectory = true ∧ node.searchable process = true := by
  constructor
  · intro h
    have hkind : (tree.view process).kind d = some .directory := by
      unfold View.enter at h
      split at h
      · assumption
      · cases h
    obtain ⟨node, hnode, hnodeKind⟩ := Option.map_eq_some_iff.1 hkind
    have hdirectory := isDirectory_iff.2 hnodeKind
    refine ⟨node, hnode, hdirectory, ?_⟩
    rw [enter_of_node hnode hdirectory] at h
    by_contra hdenied
    rw [if_neg hdenied] at h
    cases h
  · rintro ⟨node, hnode, hdirectory, hsearchable⟩
    rw [enter_of_node hnode hdirectory, if_pos hsearchable]

theorem child_eq_ok {d : ℕ} {name : JsString} {i : ℕ} {kind : Kind JsString} :
    (tree.view process).child d name = .ok (i, kind) ↔ (tree.view process).enter d = .ok () ∧
      ((tree.node d).bind fun node => node.entry name) = some i ∧
      (tree.view process).kind i = some kind := by
  unfold View.child
  rw [bind_eq_ok]
  constructor
  · rintro ⟨_, henter, h⟩
    refine ⟨henter, ?_⟩
    split at h
    · rename_i found hfound
      cases h
      obtain ⟨i', hentry, hkind⟩ := Option.bind_eq_some_iff.1 hfound
      obtain ⟨kind', hkind', heq⟩ := Option.map_eq_some_iff.1 hkind
      cases heq
      exact ⟨hentry, hkind'⟩
    · cases h
  · rintro ⟨henter, hentry, hkind⟩
    refine ⟨(), henter, ?_⟩
    have hfound : (((tree.view process).entry d name).bind fun i =>
        ((tree.view process).kind i).map fun kind => (i, kind)) = some (i, kind) := by
      rw [show (tree.view process).entry d name = some i from hentry, Option.bind_some, hkind]
      rfl
    rw [hfound]

/-- The kind of an inode stays. -/
theorem NodeKept.kind {node node' : Node} (h : NodeKept tree node node') :
    node'.kind = node.kind := by
  cases hkind : node.kind with
  | directory => exact isDirectory_iff.1 (h.directory (isDirectory_iff.2 hkind))
  | other => exact isFile_iff.1 (h.file (isFile_iff.2 hkind))
  | link target =>
    have hlink : ∃ text, node.content = .link text := by
      unfold Node.kind at hkind
      split at hkind
      · cases hkind
      · exact ⟨_, ‹_›⟩
      · cases hkind
    obtain ⟨text, htext⟩ := hlink
    rw [h.link text htext]
    exact hkind

theorem Kept.kind {i : ℕ} {kind : Kind JsString} (h : Kept fixed tree tree')
    (hkind : (tree.view process).kind i = some kind) :
    (tree'.view process).kind i = some kind := by
  obtain ⟨node, hnode, rfl⟩ := Option.map_eq_some_iff.1 hkind
  obtain ⟨node', hnode', hkept, -⟩ := h.node i node hnode
  show (tree'.node i).map Node.kind = _
  rw [hnode', Option.map_some, hkept.kind]

/-- Who may search a directory stays. -/
theorem NodeKept.searchable {node node' : Node} (h : NodeKept tree node node')
    (howner : process.uid = 0 ∨ node.owner = trustedOwner) :
    node'.searchable process = node.searchable process := by
  unfold Node.searchable
  obtain huid | howner := howner
  · rw [huid]
    rfl
  · obtain ⟨hgroup, hmode⟩ := h.attributes howner
    unfold Node.executeBit
    rw [h.owner, hgroup, hmode]

/-- A look is at a directory where others than the trusted owner do not change the answer: it is
fixed; or, to go up, the superuser goes there or the trusted owner has it; or, for a name, the trusted
owner has it, and nobody else may write to it, or it is sticky and he has what stands there. -/
def Held (process : Process) (tree : Tree) (fixed : List ℕ) (look : ℕ × Step JsString) : Prop :=
  look.1 ∈ fixed ∨ ∀ node ∈ tree.node look.1, match look.2 with
    | .up => process.uid = 0 ∨ node.owner = trustedOwner
    | .name n => node.owner = trustedOwner ∧ (node.openToOthers = false ∨ node.sticky = true ∧
        ∀ i ∈ node.entry n, ∀ child ∈ tree.node i, child.owner = trustedOwner)

/-- A look that is answered and held is answered in the same way whatever is changed. -/
theorem Kept.sameLook (h : Kept fixed tree tree') {look : ℕ × Step JsString}
    (hanswered : ¬Refused (tree.view process) look) (hheld : Held process tree fixed look) :
    SameLook (tree.view process) (tree'.view process) look := by
  obtain ⟨d, s⟩ := look
  have henter : ∀ node, tree.node d = some node →
      (d ∈ fixed ∨ process.uid = 0 ∨ node.owner = trustedOwner) →
      (tree.view process).enter d = .ok () → (tree'.view process).enter d = .ok () := by
    intro node hnode hguard hok
    obtain ⟨_, hnode₁, hdirectory, hsearchable⟩ := enter_eq_ok.1 hok
    cases hnode₁.symm.trans hnode
    obtain ⟨node', hnode', hkept, hfixed⟩ := h.node d node hnode
    refine enter_eq_ok.2 ⟨node', hnode', hkept.directory hdirectory, ?_⟩
    obtain hd | howner := hguard
    · exact (hfixed hd).symm ▸ hsearchable
    · exact (hkept.searchable howner).trans hsearchable
  cases s with
  | up =>
    have hok : (tree.view process).enter d = .ok () := by
      cases henter : (tree.view process).enter d with
      | ok _ => rfl
      | error failure => exact absurd ⟨failure, henter⟩ hanswered
    obtain ⟨node, hnode, -, -⟩ := enter_eq_ok.1 hok
    refine (henter node hnode ?_ hok).trans hok.symm
    exact hheld.imp id fun hup => hup node hnode
  | name n =>
    obtain ⟨⟨i, kind⟩, hchild⟩ : ∃ found, (tree.view process).child d n = .ok found := by
      cases hchild : (tree.view process).child d n with
      | ok found => exact ⟨found, rfl⟩
      | error failure => exact absurd ⟨failure, hchild⟩ hanswered
    obtain ⟨hok, hentry, hkind⟩ := child_eq_ok.1 hchild
    obtain ⟨node, hnode, hentry⟩ := Option.bind_eq_some_iff.1 hentry
    obtain ⟨child, hchildNode, -⟩ := Option.map_eq_some_iff.1 hkind
    obtain ⟨node', hnode', hkept, hfixed⟩ := h.node d node hnode
    refine (child_eq_ok.2 ⟨henter node hnode ?_ hok, ?_, h.kind hkind⟩).trans hchild.symm
    · exact hheld.imp id fun hname => .inr (hname node hnode).1
    · rw [hnode', Option.bind_some]
      obtain hd | hname := hheld
      · rw [hfixed hd]
        exact hentry
      · obtain ⟨howner, hclosed | ⟨hsticky, hchildOwner⟩⟩ := hname node hnode
        · rw [hkept.guarded ⟨howner, hclosed⟩]
          exact hentry
        · exact hkept.entry howner hsticky n i child hentry hchildNode
            (hchildOwner i hentry child hchildNode)

end looks

/-! ## Looks that can be made fail -/

section breaks

variable {tree : Tree} {process : Process} {fixed : List ℕ}

/-- The tree can be changed so that a look is refused, and every other look that was answered is
answered as before or refused too. -/
def Breakable (process : Process) (fixed : List ℕ) (tree : Tree) (look : ℕ × Step JsString) :
    Prop :=
  ∃ tree', Changed fixed tree tree' ∧ tree'.root = tree.root ∧
    Refused (tree'.view process) look ∧ ∀ look', ¬Refused (tree.view process) look' →
      SameLook (tree.view process) (tree'.view process) look' ∨ Refused (tree'.view process) look'

theorem Tree.set_node (i : ℕ) (node : Node) : (tree.set i node).node i = some node :=
  Function.update_self _ _ _

theorem Tree.set_of_ne {i j : ℕ} (h : j ≠ i) (node : Node) :
    (tree.set i node).node j = tree.node j := Function.update_of_ne h _ _

/-- The owner of a directory locks others out of it. -/
theorem breakable_of_owner {d : ℕ} {node : Node} (hnode : tree.node d = some node)
    (hdirectory : node.isDirectory = true) (hfixed : d ∉ fixed) (huid : process.uid ≠ 0)
    (howner : node.owner ≠ trustedOwner) (s : Step JsString) :
    Breakable process fixed tree (d, s) := by
  have hlink : ∀ text, node.content ≠ .link text := by
    intro text htext
    unfold Node.isDirectory at hdirectory
    rw [htext] at hdirectory
    cases hdirectory
  let locked : Node := { node with mode := 0 }
  have hlocked : ((tree.set d locked).view process).enter d = .error .denied := by
    rw [enter_of_node (Tree.set_node d locked) hdirectory, if_neg]
    unfold Node.searchable
    rw [Nat.zero_and, Bool.or_eq_true, not_or, decide_eq_true_iff]
    exact ⟨huid, by decide⟩
  refine ⟨tree.set d locked, .single ⟨node.owner, d, locked, howner, hfixed,
    .chmod node.group 0 hnode hlink rfl, rfl⟩, rfl, refused_of_enter hlocked s, ?_⟩
  rintro ⟨d', s'⟩ _
  by_cases hd : d' = d
  · subst hd
    exact .inr (refused_of_enter hlocked s')
  · refine .inl (sameLook (fun i => ?_) ?_ fun n _ => ?_)
    · show ((tree.set d locked).node i).map Node.kind = (tree.node i).map Node.kind
      by_cases hi : i = d
      · subst hi
        rw [Tree.set_node, hnode]
        rfl
      · rw [Tree.set_of_ne hi]
    · show ((tree.set d locked).node d').any _ = (tree.node d').any _
      rw [Tree.set_of_ne hd]
    · show ((tree.set d locked).node d').bind _ = (tree.node d').bind _
      rw [Tree.set_of_ne hd]

theorem refused_of_entry {d : ℕ} {node : Node} {name : JsString} (hnode : tree.node d = some node)
    (hentry : node.entry name = none) : Refused (tree.view process) (d, .name name) := by
  cases hchild : (tree.view process).child d name with
  | error failure => exact ⟨failure, hchild⟩
  | ok found =>
    obtain ⟨-, hfound, -⟩ := child_eq_ok.1 hchild
    rw [hnode, Option.bind_some, hentry] at hfound
    cases hfound

/-- A name that a directory has no entry of. -/
theorem exists_new_name (entries : List (JsString × ℕ)) :
    ∃ name : JsString, ∀ e ∈ entries, e.1 ≠ name := by
  let size := (entries.map fun e => e.1.length).sum
  refine ⟨List.replicate (size + 1) 97, fun e he heq => ?_⟩
  have hlength : e.1.length = size + 1 := by rw [heq, List.length_replicate]
  have hle : e.1.length ≤ size :=
    List.single_le_sum (fun _ _ => Nat.zero_le _) _ (List.mem_map_of_mem he)
  omega

/-- Who may write to a directory and may remove an entry gives it another name. -/
theorem breakable_of_writable {d i user : ℕ} {node : Node} {name : JsString}
    (hnode : tree.node d = some node) (hentry : node.entry name = some i) (hfixed : d ∉ fixed)
    (huser : user ≠ trustedOwner) (hwrite : node.WritableBy user)
    (hremove : MayRemove tree node name user) : Breakable process fixed tree (d, .name name) := by
  obtain ⟨entries, hentries⟩ : ∃ entries, node.content = .directory entries := by
    unfold Node.entry at hentry
    split at hentry
    · exact ⟨_, ‹_›⟩
    · cases hentry
  obtain ⟨other, hother⟩ := exists_new_name entries
  let dropped : Node := { node with content := .directory (entries.filter fun e => e.1 ≠ name) }
  let renamed : Node :=
    { node with content := .directory ((entries.filter fun e => e.1 ≠ name) ++ [(other, i)]) }
  have hnew : dropped.entry other = none := by
    rw [entry_of_directory rfl, List.find?_eq_none.2, Option.map_none]
    intro e he
    simpa using hother e (List.mem_filter.1 he).1
  have hdropped : Edited fixed tree (tree.set d dropped) :=
    ⟨user, d, dropped, huser, hfixed, .drop name hnode hentries hwrite hremove, rfl⟩
  have hrenamed : Edited fixed (tree.set d dropped) ((tree.set d dropped).set d renamed) :=
    ⟨user, d, renamed, huser, hfixed, @Edit.put _ _ d dropped _ other i
      (Tree.set_node d dropped) rfl hwrite hnew, rfl⟩
  have hset : (tree.set d dropped).set d renamed = tree.set d renamed := by
    unfold Tree.set
    dsimp only
    rw [Function.update_idem]
  rw [hset] at hrenamed
  have hkind : ∀ j, ((tree.set d renamed).view process).kind j = (tree.view process).kind j := by
    intro j
    show ((tree.set d renamed).node j).map Node.kind = (tree.node j).map Node.kind
    by_cases hj : j = d
    · subst hj
      rw [Tree.set_node, hnode, Option.map_some, Option.map_some,
        isDirectory_iff.1 (show node.isDirectory = true by unfold Node.isDirectory; rw [hentries])]
      rfl
    · rw [Tree.set_of_ne hj]
  -- nothing stands under the name any more
  have hrefused : Refused ((tree.set d renamed).view process) (d, .name name) := by
    refine refused_of_entry (Tree.set_node d renamed) ?_
    rw [entry_of_directory rfl, List.find?_eq_none.2, Option.map_none]
    intro e he
    obtain he | he := List.mem_append.1 he
    · simpa using (List.mem_filter.1 he).2
    · rw [List.mem_singleton.1 he]
      obtain ⟨e', he', -⟩ := Option.map_eq_some_iff.1 (entry_of_directory hentries name ▸ hentry)
      have hname : e'.1 = name := by simpa using List.find?_some he'
      simpa [hname] using (hother e' (List.mem_of_find?_eq_some he')).symm
  refine ⟨tree.set d renamed, (Relation.ReflTransGen.single hdropped).tail hrenamed, rfl, hrefused,
    ?_⟩
  rintro ⟨d', s'⟩ hanswered
  by_cases hlook : d' = d ∧ s' = .name name
  · rw [hlook.1, hlook.2]
    exact .inr hrefused
  refine .inl (sameLook hkind ?_ fun n hn => ?_)
  · show ((tree.set d renamed).node d').any _ = (tree.node d').any _
    by_cases hd : d' = d
    · subst hd
      rw [Tree.set_node, hnode]
      rfl
    · rw [Tree.set_of_ne hd]
  · show ((tree.set d renamed).node d').bind _ = (tree.node d').bind _
    by_cases hd : d' = d
    · subst hd hn
      have hname : n ≠ name := fun h => hlook ⟨rfl, h ▸ rfl⟩
      have hn : n ≠ other := by
        rintro rfl
        refine hanswered (refused_of_entry hnode ?_)
        rw [entry_of_directory hentries, List.find?_eq_none.2, Option.map_none]
        intro e he
        simpa using hother e he
      rw [Tree.set_node, hnode, Option.bind_some, Option.bind_some, entry_of_directory rfl,
        entry_of_directory hentries, List.find?_append, find_filter_ne hname,
        List.find?_singleton, if_neg (by simpa using hn.symm), Option.or_none]
    · rw [Tree.set_of_ne hd]

/-- **A look that is not held can be made fail.** -/
theorem breakable_of_not_held {look : ℕ × Step JsString}
    (hanswered : ¬Refused (tree.view process) look) (hheld : ¬Held process tree fixed look) :
    Breakable process fixed tree look := by
  obtain ⟨d, s⟩ := look
  unfold Held at hheld
  push Not at hheld
  obtain ⟨hfixed, node, hnode, hopen⟩ := hheld
  cases s with
  | up =>
    obtain ⟨huid, howner⟩ := not_or.1 hopen
    have hok : (tree.view process).enter d = .ok () := by
      cases henter : (tree.view process).enter d with
      | ok _ => rfl
      | error failure => exact absurd ⟨failure, henter⟩ hanswered
    obtain ⟨_, hnode₁, hdirectory, -⟩ := enter_eq_ok.1 hok
    cases hnode₁.symm.trans hnode
    exact breakable_of_owner hnode hdirectory hfixed huid howner .up
  | name n =>
    obtain ⟨⟨i, kind⟩, hchild⟩ : ∃ found, (tree.view process).child d n = .ok found := by
      cases hchild : (tree.view process).child d n with
      | ok found => exact ⟨found, rfl⟩
      | error failure => exact absurd ⟨failure, hchild⟩ hanswered
    obtain ⟨-, hentry, hkind⟩ := child_eq_ok.1 hchild
    rw [Option.mem_def.1 hnode, Option.bind_some] at hentry
    by_cases howner : node.owner = trustedOwner
    · have hothers := fun h => hopen ⟨howner, h⟩
      have hwrite : node.openToOthers = true := by
        rw [← Bool.not_eq_false]
        exact fun h => hothers (.inl h)
      by_cases hsticky : node.sticky = true
      · -- one who has what stands there
        have hchildOwner : ∃ child, tree.node i = some child ∧ child.owner ≠ trustedOwner := by
          by_contra hnone
          push Not at hnone
          refine hothers (.inr ⟨hsticky, fun i' hi' child hchildNode => ?_⟩)
          obtain rfl : i' = i := Option.some.inj (hi'.symm.trans hentry)
          exact hnone child hchildNode
        obtain ⟨child, hchildNode, hchildOwner⟩ := hchildOwner
        exact breakable_of_writable hnode hentry hfixed hchildOwner (.inr hwrite)
          fun _ => .inr ⟨i, child, hentry, hchildNode, rfl⟩
      · -- anybody
        have hsomebody : (1 : ℕ) ≠ trustedOwner := by decide
        exact breakable_of_writable hnode hentry hfixed hsomebody (.inr hwrite)
          fun h => absurd h hsticky
    · exact breakable_of_writable hnode hentry hfixed howner (.inl rfl) fun _ => .inl rfl

end breaks

/-! ## The executable -/

section executable

variable {tree : Tree} {process : Process}

/-- The inodes of the directories above a place. -/
def Tree.ancestors (tree : Tree) (process : Process) (path : JsString) : List ℕ :=
  match tree.walk process (steps path) with
  | .ok (_, _ :: above) => tree.root :: above.map Prod.snd
  | _ => []

/-- A path leads to a file with some content. -/
def Tree.Reaches (tree : Tree) (process : Process) (path : JsString) (file : ℕ)
    (bytes : List UInt8) : Prop :=
  tree.resolve process (steps path) = .ok file ∧
    ∃ node, tree.node file = some node ∧ node.content = .file bytes

/-- A path leads to the same file with the same content in two trees. -/
def SameFile (process : Process) (tree tree' : Tree) (path : JsString) : Prop :=
  ∃ file bytes, tree.Reaches process path file bytes ∧ tree'.Reaches process path file bytes

theorem unavailableIf_eq_ok {wrong : Bool} {error : ProviderCliRuntimeError} :
    unavailableIf wrong error = .ok () ↔ wrong = false := by
  cases wrong with
  | false => exact iff_of_true rfl rfl
  | true => exact iff_of_false (fun h => by cases h) Bool.noConfusion

theorem caught_eq_ok {α : Type} {call : Except Failure α} {a : α} :
    caught call = .ok a ↔ call = .ok a := by
  cases call with
  | ok b =>
    unfold caught Except.mapError
    rw [Except.ok.injEq, Except.ok.injEq]
  | error failure => exact iff_of_false (fun h => by cases h) fun h => by cases h

theorem stat_eq_ok {path : List (Step JsString)} {node : Node} :
    tree.stat process path = .ok node ↔
      ∃ i, tree.resolve process path = .ok i ∧ tree.node i = some node := by
  unfold Tree.stat
  rw [bind_eq_ok]
  refine exists_congr fun i => and_congr_right fun _ => ?_
  cases tree.node i with
  | none => exact iff_of_false (fun h => by cases h) fun h => by cases h
  | some node' =>
    constructor
    · intro h
      cases h
      rfl
    · intro h
      cases h
      rfl

/-- The canonical path of what a path resolves to resolves to it too. -/
theorem resolve_realpath {path : JsString} {real : List JsString}
    (h : tree.realpath process path = .ok real) :
    tree.resolve process (real.map .name) = tree.resolve process (steps path) := by
  unfold Tree.realpath at h
  cases hwalk : tree.walk process (steps path) with
  | error failure =>
    rw [hwalk] at h
    cases h
  | ok walked =>
    rw [hwalk] at h
    cases h
    obtain ⟨looks, hlooks⟩ :=
      ((walk_eq_ok.1 hwalk).settled trivial).leads linkLimit
    unfold Tree.resolve
    rw [hwalk]
    unfold Tree.walk
    rw [walk_eq_ok.2 hlooks]
    rfl

/-- The owner that is expected outside test mode. -/
theorem trustedOwnerUid_eq {environment : Environment} (realInstallRoot : List JsString)
    (hmode : environment.AUTOPILOT_PROVIDER_CLI_TEST_MODE ≠ some (js "1")) :
    trustedOwnerUid tree process environment realInstallRoot = trustedOwner := if_pos hmode

/-- **What the resolver has checked about the executable.** -/
theorem reaches_of_available {environment : Environment} {basename directory executable : JsString}
    (hmode : environment.AUTOPILOT_PROVIDER_CLI_TEST_MODE ≠ some (js "1"))
    (h : configuredRuntime tree process environment basename directory = .ok executable) :
    ∃ file node bytes, tree.resolve process (steps executable) = .ok file ∧
      tree.node file = some node ∧ node.content = .file bytes ∧ node.Guarded := by
  unfold configuredRuntime at h
  obtain ⟨_, -, h⟩ := bind_eq_ok.1 h
  obtain ⟨_, -, h⟩ := bind_eq_ok.1 h
  obtain ⟨_, -, h⟩ := bind_eq_ok.1 h
  obtain ⟨realInstallRoot, -, h⟩ := bind_eq_ok.1 h
  obtain ⟨_, -, h⟩ := bind_eq_ok.1 h
  obtain ⟨_, -, h⟩ := bind_eq_ok.1 h
  obtain ⟨realExecutable, hreal, h⟩ := bind_eq_ok.1 h
  obtain ⟨_, -, h⟩ := bind_eq_ok.1 h
  dsimp only at h
  rw [trustedOwnerUid_eq realInstallRoot hmode] at h
  split at h
  · obtain ⟨_, -, h⟩ := bind_eq_ok.1 h
    obtain ⟨_, hcheck, h⟩ := bind_eq_ok.1 h
    cases h
    unfold checkExecutable at hcheck
    obtain ⟨node, hstat, hcheck⟩ := bind_eq_ok.1 hcheck
    obtain ⟨_, hfile, hcheck⟩ := bind_eq_ok.1 hcheck
    obtain ⟨_, htrusted, -⟩ := bind_eq_ok.1 hcheck
    obtain ⟨file, hresolve, hnode⟩ := stat_eq_ok.1 (caught_eq_ok.1 hstat)
    rw [resolve_realpath (caught_eq_ok.1 hreal)] at hresolve
    rw [unavailableIf_eq_ok, Bool.not_eq_false'] at hfile htrusted
    unfold hasTrustedOwnershipAndMode at htrusted
    rw [Bool.and_eq_true, decide_eq_true_iff, Bool.not_eq_true'] at htrusted
    unfold Node.isFile at hfile
    split at hfile
    · exact ⟨file, node, _, hresolve, hnode, ‹_›, htrusted⟩
    · cases hfile
  · cases h

/-- **The path of the executable leads to the same file whatever others change, exactly if every
look on the way is held.** The content of the file is checked by the resolver. -/
theorem sameFile_iff_held {provider : ProviderCli} {environment : Environment}
    {platform directory executable : JsString}
    (hdirectory : environment.AUTOPILOT_PROVIDER_CLI_BIN_DIR = some directory)
    (hmode : environment.AUTOPILOT_PROVIDER_CLI_TEST_MODE ≠ some (js "1"))
    (h : resolveProviderCliRuntime tree process provider environment platform = .ok executable) :
    (∀ tree', Changed (tree.ancestors process (dirname directory)) tree tree' →
      SameFile process tree tree' executable) ↔
    ∀ looks place, tree.walk process (steps executable) = .ok (looks, place) →
      ∀ look ∈ looks, Held process tree (tree.ancestors process (dirname directory)) look := by
  unfold resolveProviderCliRuntime at h
  rw [hdirectory] at h
  obtain ⟨file, node, bytes, hresolve, hnode, hbytes, hguarded⟩ := reaches_of_available hmode h
  generalize tree.ancestors process (dirname directory) = fixed
  constructor
  · intro hsame looks place hwalk look hlook
    by_contra hheld
    have hleads := walk_eq_ok.1 hwalk
    obtain ⟨tree', hchanged, hroot, hrefused, hothers⟩ :=
      breakable_of_not_held (hleads.answered look hlook) hheld
    obtain ⟨file', bytes', -, hreaches, -⟩ := hsame tree' hchanged
    unfold Tree.resolve at hreaches
    cases hwalk' : tree'.walk process (steps executable) with
    | error failure =>
      rw [hwalk'] at hreaches
      cases hreaches
    | ok walked =>
      exact hleads.refused hroot (fun look hlook => hothers look (hleads.answered look hlook))
        ⟨look, hlook, hrefused⟩ _ _ (walk_eq_ok.1 hwalk')
  · intro hheld tree' hchanged
    have hkept := hchanged.kept
    refine ⟨file, bytes, ⟨hresolve, node, hnode, hbytes⟩, ?_, ?_⟩
    · unfold Tree.resolve at hresolve ⊢
      cases hwalk : tree.walk process (steps executable) with
      | error failure =>
        rw [hwalk] at hresolve
        cases hresolve
      | ok walked =>
        have hleads := walk_eq_ok.1 hwalk
        have hleads' := hleads.same hkept.root fun look hlook =>
          hkept.sameLook (hleads.answered look hlook) (hheld _ _ hwalk look hlook)
        rw [hwalk] at hresolve
        have hwalk' : tree'.walk process (steps executable) = .ok walked := walk_eq_ok.2 hleads'
        rw [hwalk', ← hresolve]
        exact congrArg Except.ok (current_of_root hkept.root walked.2)
    · obtain ⟨node', hnode', hnodeKept, -⟩ := hkept.node file node hnode
      exact ⟨node', hnode', hnodeKept.guarded hguarded ▸ hbytes⟩

end executable

/-! ## An installation with a link through a home directory -/

section sample

/-- The published directory is a link to a link that a user has in his home directory, and this one
goes back into the installation. -/
def sampleNode : ℕ → Option Node
  | 0 => some ⟨0, 0, 0o755, .directory [(js "opt", 1), (js "home", 2)]⟩
  | 1 => some ⟨0, 0, 0o755, .directory [(js "autopilot", 3)]⟩
  | 2 => some ⟨1000, 1000, 0o755, .directory [(js "current", 4)]⟩
  | 3 => some ⟨0, 0, 0o755, .directory [(js "bin", 5), (js "direct", 6)]⟩
  | 4 => some ⟨1000, 1000, 0o777, .link (js "/opt/autopilot/direct")⟩
  | 5 => some ⟨0, 0, 0o777, .link (js "/home/current")⟩
  | 6 => some ⟨0, 0, 0o755, .directory [(js "codex", 7)]⟩
  | 7 => some ⟨0, 0, 0o755, .file [99]⟩
  | _ => none

def sampleTree : Tree := ⟨0, sampleNode⟩

def sampleProcess : Process := ⟨990, [990]⟩

def sampleEnvironment (directory : String) : Environment := ⟨some (js directory), none, none⟩

/-- The user puts a file of his own in a directory of his own, and this one in place of his link. -/
def swappedTree : Tree :=
  let withFile := sampleTree.set 8 ⟨1000, 1000, 0o755, .file [66]⟩
  let withDirectory := withFile.set 9 ⟨1000, 1000, 0o755, .directory []⟩
  let filled := withDirectory.set 9 ⟨1000, 1000, 0o755, .directory [(js "codex", 8)]⟩
  let emptied := filled.set 2 ⟨1000, 1000, 0o755, .directory []⟩
  emptied.set 2 ⟨1000, 1000, 0o755, .directory [(js "current", 9)]⟩

/-- An edit by the user, who has the number 1000. -/
theorem Edited.of {fixed : List ℕ} {tree : Tree} (i : ℕ) (node : Node) (hfixed : i ∉ fixed)
    (h : Edit tree 1000 i node) : Edited fixed tree (tree.set i node) :=
  ⟨1000, i, node, by decide, hfixed, h, rfl⟩

theorem ancestors_sampleTree (directory : String)
    (h : dirname (js directory) = js "/opt/autopilot") :
    sampleTree.ancestors sampleProcess (dirname (js directory)) = [0, 1] := by
  rw [h]
  decide +kernel

theorem swappedTree_changed : Changed [0, 1] sampleTree swappedTree := by
  let home : Node := ⟨1000, 1000, 0o755, .directory [(js "current", 4)]⟩
  let empty : Node := ⟨1000, 1000, 0o755, .directory []⟩
  refine .head (.of 8 ⟨1000, 1000, 0o755, .file [66]⟩ (by decide)
    (.allocate rfl rfl fun _ h => by cases h)) ?_
  refine .head (.of 9 empty (by decide)
    (.allocate rfl rfl fun _ h => (Content.directory.inj h).symm)) ?_
  refine .head (.of 9 _ (by decide)
    (@Edit.put _ _ 9 empty [] (js "codex") 8 rfl rfl (.inl rfl) rfl)) ?_
  refine .head (.of 2 _ (by decide) (@Edit.drop _ _ 2 home _ (js "current") rfl rfl (.inl rfl)
    fun _ => .inl rfl)) ?_
  exact .single (.of 2 _ (by decide)
    (@Edit.put _ _ 2 empty [] (js "current") 9 rfl rfl (.inl rfl) rfl))

/-- The resolver accepts the published directory, and then the path leads to the file of the user. -/
theorem linked_executable_swapped :
    (resolveProviderCliRuntime sampleTree sampleProcess .codex_cli
        (sampleEnvironment "/opt/autopilot/bin") (js "linux") =
          .ok (js "/opt/autopilot/bin/codex")) ∧
    Changed (sampleTree.ancestors sampleProcess (dirname (js "/opt/autopilot/bin"))) sampleTree
      swappedTree ∧
    sampleTree.Reaches sampleProcess (js "/opt/autopilot/bin/codex") 7 [99] ∧
    swappedTree.Reaches sampleProcess (js "/opt/autopilot/bin/codex") 8 [66] ∧
    ¬SameFile sampleProcess sampleTree swappedTree (js "/opt/autopilot/bin/codex") := by
  have hbefore : sampleTree.resolve sampleProcess (steps (js "/opt/autopilot/bin/codex")) = .ok 7 :=
    by decide +kernel
  have hafter : swappedTree.resolve sampleProcess (steps (js "/opt/autopilot/bin/codex")) = .ok 8 :=
    by decide +kernel
  refine ⟨by decide +kernel, ?_, ⟨hbefore, _, rfl, rfl⟩, ⟨hafter, _, rfl, rfl⟩, ?_⟩
  · rw [ancestors_sampleTree "/opt/autopilot/bin" (by decide +kernel)]
    exact swappedTree_changed
  · rintro ⟨file, _, ⟨hfile, _⟩, hfile', _⟩
    cases hbefore.symm.trans hfile
    cases hafter.symm.trans hfile'

/-- Where the published directory is the directory itself, nothing can be changed. -/
theorem direct_executable_stays :
    resolveProviderCliRuntime sampleTree sampleProcess .codex_cli
        (sampleEnvironment "/opt/autopilot/direct") (js "linux") =
      .ok (js "/opt/autopilot/direct/codex") ∧
    ∀ tree', Changed (sampleTree.ancestors sampleProcess (dirname (js "/opt/autopilot/direct")))
        sampleTree tree' →
      SameFile sampleProcess sampleTree tree' (js "/opt/autopilot/direct/codex") := by
  have hresolve : resolveProviderCliRuntime sampleTree sampleProcess .codex_cli
      (sampleEnvironment "/opt/autopilot/direct") (js "linux") =
        .ok (js "/opt/autopilot/direct/codex") := by
    decide +kernel
  refine ⟨hresolve, (@sameFile_iff_held sampleTree sampleProcess .codex_cli
    (sampleEnvironment "/opt/autopilot/direct") (js "linux") (js "/opt/autopilot/direct")
    (js "/opt/autopilot/direct/codex") rfl (by decide) hresolve).2 ?_⟩
  intro looks place hwalk look hlook
  have hlooks : (sampleTree.walk sampleProcess (steps (js "/opt/autopilot/direct/codex"))).map
      Prod.fst = .ok [(0, .name (js "opt")), (1, .name (js "autopilot")), (3, .name (js "direct")),
        (6, .name (js "codex"))] := by
    decide +kernel
  rw [hwalk] at hlooks
  obtain rfl := Except.ok.inj hlooks
  rw [ancestors_sampleTree "/opt/autopilot/direct" (by decide +kernel)]
  obtain rfl | hlook := List.mem_cons.1 hlook
  · exact .inl (by decide)
  obtain rfl | hlook := List.mem_cons.1 hlook
  · exact .inl (by decide)
  refine .inr fun node hnode => ?_
  obtain rfl | hlook := List.mem_cons.1 hlook
  · cases hnode
    exact ⟨rfl, .inl rfl⟩
  · obtain rfl := List.mem_singleton.1 hlook
    cases hnode
    exact ⟨rfl, .inl rfl⟩

end sample

end ProviderCliRuntime
end Autopilot
