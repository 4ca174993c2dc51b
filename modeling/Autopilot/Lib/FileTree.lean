/-
Trees of folders and files.

A folder is a list of named entries, and an entry is a file with its content, a folder, or
something else that is neither, such as a link. Of a tree mostly its files count, each by its
path and with its content.

There are two operations. A walk visits the folders it is let into and lists the files it is
to keep, and it comes to a selection from the files of the tree. Creating a file makes the
folders on the way and is refused where a name is taken by something of the other kind, or by
a file of the same path. Creating files one after the other, from an empty folder, goes through
if and only if no path is the beginning of another, and then the tree has just these files.
-/
import Mathlib.Data.List.Perm.Basic
import Mathlib.Data.List.Nodup
import Mathlib.Data.List.Infix
import Mathlib.Tactic.Common

set_option autoImplicit false

namespace FileTree

variable {ν β : Type}

/-- What stands under a name in a folder. -/
inductive Entry (ν β : Type) where
  | file (content : β)
  | folder (entries : List (ν × Entry ν β))
  | special

/-! ## Files -/

mutual

/-- The files at and below an entry, by their paths from it. -/
def Entry.files : Entry ν β → List (List ν × β)
  | .file content => [([], content)]
  | .folder entries => filesIn entries
  | .special => []

/-- The files below a folder with these entries. -/
def filesIn : List (ν × Entry ν β) → List (List ν × β)
  | [] => []
  | (name, entry) :: entries => entry.files.map (fun f => (name :: f.1, f.2)) ++ filesIn entries

end

/-- Neither path is the beginning of the other. -/
def Apart (p q : List ν) : Prop := ¬p <+: q ∧ ¬q <+: p

theorem Apart.symm {p q : List ν} (h : Apart p q) : Apart q p := ⟨h.2, h.1⟩

theorem apart_cons_self {name : ν} {p q : List ν} : Apart (name :: p) (name :: q) ↔ Apart p q := by
  unfold Apart
  rw [List.prefix_cons_inj, List.prefix_cons_inj]

theorem apart_cons_of_ne {name name' : ν} (h : name ≠ name') (p q : List ν) :
    Apart (name :: p) (name' :: q) := by
  constructor
  · intro hpq
    exact h (List.cons_prefix_cons.1 hpq).1
  · intro hqp
    exact h (List.cons_prefix_cons.1 hqp).1.symm

theorem mem_filesIn {entries : List (ν × Entry ν β)} {f : List ν × β} :
    f ∈ filesIn entries ↔
      ∃ e ∈ entries, ∃ path, f.1 = e.1 :: path ∧ (path, f.2) ∈ e.2.files := by
  induction entries with
  | nil => simp [filesIn]
  | cons e entries ih =>
    obtain ⟨name, entry⟩ := e
    rw [filesIn, List.mem_append, List.mem_map, ih]
    constructor
    · rintro (⟨g, hg, rfl⟩ | ⟨e, he, path, hpath, hfile⟩)
      · exact ⟨(name, entry), List.mem_cons_self .., g.1, rfl, hg⟩
      · exact ⟨e, List.mem_cons_of_mem _ he, path, hpath, hfile⟩
    · rintro ⟨e, he, path, hpath, hfile⟩
      rw [List.mem_cons] at he
      rcases he with rfl | he
      · exact .inl ⟨(path, f.2), hfile, Prod.ext hpath.symm rfl⟩
      · exact .inr ⟨e, he, path, hpath, hfile⟩

theorem filesIn_append (entries more : List (ν × Entry ν β)) :
    filesIn (entries ++ more) = filesIn entries ++ filesIn more := by
  induction entries with
  | nil => rfl
  | cons e entries ih =>
    obtain ⟨name, entry⟩ := e
    rw [List.cons_append, filesIn, filesIn, ih, List.append_assoc]

theorem path_ne_nil {entries : List (ν × Entry ν β)} {f : List ν × β} (h : f ∈ filesIn entries) :
    f.1 ≠ [] := by
  obtain ⟨e, -, path, hpath, -⟩ := mem_filesIn.1 h
  rw [hpath]
  exact List.cons_ne_nil _ _

/-! ## Names -/

mutual

/-- No folder at or below an entry has a name twice. -/
def Entry.Distinct : Entry ν β → Prop
  | .file _ => True
  | .folder entries => (entries.map Prod.fst).Nodup ∧ DistinctIn entries
  | .special => True

/-- No folder below these entries has a name twice. -/
def DistinctIn : List (ν × Entry ν β) → Prop
  | [] => True
  | (_, entry) :: entries => entry.Distinct ∧ DistinctIn entries

end

theorem distinctIn_iff {entries : List (ν × Entry ν β)} :
    DistinctIn entries ↔ ∀ e ∈ entries, e.2.Distinct := by
  induction entries with
  | nil => simp [DistinctIn]
  | cons e entries ih =>
    obtain ⟨name, entry⟩ := e
    simp [DistinctIn, ih]

/-- Folders with distinct names hold files apart from each other. -/
theorem pairwise_apart_map {name : ν} {files : List (List ν × β)}
    (h : files.Pairwise fun f g => Apart f.1 g.1) :
    (files.map fun f => (name :: f.1, f.2)).Pairwise fun f g => Apart f.1 g.1 := by
  rw [List.pairwise_map]
  exact h.imp fun hfg => apart_cons_self.2 hfg

mutual

theorem Entry.files_apart : ∀ entry : Entry ν β, entry.Distinct →
    entry.files.Pairwise fun f g => Apart f.1 g.1
  | .file _, _ => by rw [Entry.files]; exact List.pairwise_singleton _ _
  | .folder entries, h => by
    rw [Entry.Distinct] at h
    rw [Entry.files]
    exact filesIn_apart entries h.1 h.2
  | .special, _ => by rw [Entry.files]; exact List.Pairwise.nil

/-- **The paths of a tree with distinct names are apart.** -/
theorem filesIn_apart : ∀ entries : List (ν × Entry ν β), (entries.map Prod.fst).Nodup →
    DistinctIn entries → (filesIn entries).Pairwise fun f g => Apart f.1 g.1
  | [], _, _ => by rw [filesIn]; exact List.Pairwise.nil
  | (name, entry) :: entries, hnames, h => by
    rw [DistinctIn] at h
    rw [List.map_cons, List.nodup_cons] at hnames
    rw [filesIn, List.pairwise_append]
    refine ⟨pairwise_apart_map (entry.files_apart h.1), filesIn_apart entries hnames.2 h.2, ?_⟩
    intro f hf g hg
    obtain ⟨f', -, rfl⟩ := List.mem_map.1 hf
    obtain ⟨e, he, path, hpath, -⟩ := mem_filesIn.1 hg
    rw [hpath]
    refine apart_cons_of_ne (fun hname => hnames.1 ?_) _ _
    dsimp only at hname ⊢
    rw [hname]
    exact List.mem_map_of_mem he

end

/-! ## Walks -/

section walk

variable (enter : List ν → Bool) (keep : ν → Bool)

mutual

/-- The files a walk lists of an entry that stands at a path. -/
def Entry.walk (path : List ν) (name : ν) : Entry ν β → List (List ν × β)
  | .file content => if keep name then [(path ++ [name], content)] else []
  | .folder entries => if enter (path ++ [name]) then walkIn (path ++ [name]) entries else []
  | .special => []

/-- The files a walk lists of the entries of a folder at a path. -/
def walkIn (path : List ν) : List (ν × Entry ν β) → List (List ν × β)
  | [] => []
  | (name, entry) :: entries => entry.walk path name ++ walkIn path entries

end

/-- The walk gets to a file and keeps it: it enters every folder on the way. -/
def admits (path : List ν) : List ν → Bool
  | [] => false
  | [name] => keep name
  | name :: next :: rest => enter (path ++ [name]) && admits (path ++ [name]) (next :: rest)

theorem admits_cons (path : List ν) (name : ν) {rest : List ν} (h : rest ≠ []) :
    admits enter keep path (name :: rest) =
      (enter (path ++ [name]) && admits enter keep (path ++ [name]) rest) := by
  cases rest with
  | nil => exact absurd rfl h
  | cons next rest => rfl

/-- **Which files a walk keeps**, in terms of the folders on the way. -/
theorem admits_iff {path rest : List ν} :
    admits enter keep path rest = true ↔
      (∀ folder ∈ rest.inits, folder ≠ [] → folder ≠ rest → enter (path ++ folder) = true) ∧
        ∃ name, rest.getLast? = some name ∧ keep name = true := by
  induction rest generalizing path with
  | nil => simp [admits]
  | cons name rest ih =>
    cases rest with
    | nil => simp [admits]
    | cons next rest =>
      rw [admits, Bool.and_eq_true, ih, List.getLast?_cons_cons]
      constructor
      · rintro ⟨henter, hfolders, hkeep⟩
        refine ⟨fun folder hfolder hne hproper => ?_, hkeep⟩
        cases folder with
        | nil => exact absurd rfl hne
        | cons first folder =>
          obtain ⟨rfl, hbelow⟩ := List.cons_prefix_cons.1 ((List.mem_inits _ _).1 hfolder)
          cases folder with
          | nil => exact henter
          | cons second folder =>
            have hin := hfolders (second :: folder) ((List.mem_inits _ _).2 hbelow)
              (List.cons_ne_nil _ _) (fun heq => hproper (congrArg (first :: ·) heq))
            rwa [List.append_assoc, List.singleton_append] at hin
      · rintro ⟨hfolders, hkeep⟩
        refine ⟨?_, fun folder hfolder hne hproper => ?_, hkeep⟩
        · exact hfolders [name] ((List.mem_inits _ _).2 (List.prefix_append [name] _))
            (List.cons_ne_nil _ _) (by simp)
        · rw [List.append_assoc, List.singleton_append]
          refine hfolders (name :: folder) ?_ (List.cons_ne_nil _ _) ?_
          · exact (List.mem_inits _ _).2
              (List.cons_prefix_cons.2 ⟨rfl, (List.mem_inits _ _).1 hfolder⟩)
          · exact fun heq => hproper (List.cons.inj heq).2

/-- What a walk makes of a list of files. -/
def selects (path : List ν) (files : List (List ν × β)) : List (List ν × β) :=
  (files.filter fun f => admits enter keep path f.1).map fun f => (path ++ f.1, f.2)

mutual

theorem Entry.walk_eq : ∀ (entry : Entry ν β) (path : List ν) (name : ν),
    entry.walk enter keep path name =
      selects enter keep path (entry.files.map fun f => (name :: f.1, f.2))
  | .file content, path, name => by
    unfold selects
    rw [Entry.walk, Entry.files]
    by_cases hkeep : keep name
    · simp [admits, hkeep]
    · simp [admits, hkeep]
  | .folder entries, path, name => by
    rw [Entry.walk, Entry.files, walkIn_eq entries]
    unfold selects
    rw [List.filter_map, List.map_map]
    by_cases henter : enter (path ++ [name])
    · rw [if_pos henter]
      have hfilter : (filesIn entries).filter (fun f => admits enter keep (path ++ [name]) f.1) =
          (filesIn entries).filter
            ((fun f : List ν × β => admits enter keep path f.1) ∘ fun f => (name :: f.1, f.2)) := by
        apply List.filter_congr
        intro f hf
        dsimp only [Function.comp]
        rw [admits_cons enter keep path name (path_ne_nil hf), henter, Bool.true_and]
      rw [hfilter]
      apply List.map_congr_left
      intro f _
      dsimp only [Function.comp]
      rw [List.append_assoc, List.singleton_append]
    · rw [if_neg henter]
      symm
      rw [List.map_eq_nil_iff, List.filter_eq_nil_iff]
      intro f hf
      dsimp only [Function.comp]
      rw [admits_cons enter keep path name (path_ne_nil hf), Bool.eq_false_iff.2 henter]
      simp
  | .special, path, name => by
    rw [Entry.walk, Entry.files]
    rfl

/-- **A walk selects from the files of the tree.** -/
theorem walkIn_eq : ∀ (entries : List (ν × Entry ν β)) (path : List ν),
    walkIn enter keep path entries = selects enter keep path (filesIn entries)
  | [], path => by rw [walkIn, filesIn]; rfl
  | (name, entry) :: entries, path => by
    rw [walkIn, filesIn, entry.walk_eq, walkIn_eq entries]
    unfold selects
    rw [List.filter_append, List.map_append]

end

theorem selects_nil (files : List (List ν × β)) :
    selects enter keep [] files = files.filter fun f => admits enter keep [] f.1 := by
  unfold selects
  conv_rhs => rw [← List.map_id (files.filter fun f => admits enter keep [] f.1)]
  apply List.map_congr_left
  intro f _
  rfl

end walk

/-! ## Orders -/

section ordered

variable (le : ν → ν → Bool)

mutual

/-- The entry, with the entries of each folder below it in an order of their names. -/
def Entry.ordered : Entry ν β → Entry ν β
  | .file content => .file content
  | .folder entries => .folder ((orderedIn entries).mergeSort fun a b => le a.1 b.1)
  | .special => .special

/-- The entries, each with what is below it in the order. -/
def orderedIn : List (ν × Entry ν β) → List (ν × Entry ν β)
  | [] => []
  | (name, entry) :: entries => (name, entry.ordered) :: orderedIn entries

end

theorem filesIn_eq_flatMap (entries : List (ν × Entry ν β)) :
    filesIn entries = entries.flatMap fun e => e.2.files.map fun f => (e.1 :: f.1, f.2) := by
  induction entries with
  | nil => rfl
  | cons e entries ih =>
    rw [filesIn, ih]
    rfl

theorem filesIn_perm {entries others : List (ν × Entry ν β)} (h : entries.Perm others) :
    (filesIn entries).Perm (filesIn others) := by
  rw [filesIn_eq_flatMap, filesIn_eq_flatMap]
  exact h.flatMap_right _

mutual

theorem Entry.files_ordered : ∀ entry : Entry ν β, (entry.ordered le).files.Perm entry.files
  | .file _ => List.Perm.refl _
  | .folder entries => by
    rw [Entry.ordered, Entry.files, Entry.files]
    exact (filesIn_perm (List.mergeSort_perm _ _)).trans (filesIn_ordered entries)
  | .special => List.Perm.refl _

/-- An order of the entries leaves the files as they are. -/
theorem filesIn_ordered : ∀ entries : List (ν × Entry ν β),
    (filesIn (orderedIn le entries)).Perm (filesIn entries)
  | [] => List.Perm.refl _
  | (name, entry) :: entries => by
    rw [orderedIn, filesIn, filesIn]
    exact ((entry.files_ordered).map _).append (filesIn_ordered entries)

end

end ordered

/-! ## Trees that are made of files -/

mutual

/-- There are only files, and folders with something in them. -/
def Entry.Full : Entry ν β → Prop
  | .file _ => True
  | .folder entries => entries ≠ [] ∧ FullIn entries
  | .special => False

def FullIn : List (ν × Entry ν β) → Prop
  | [] => True
  | (_, entry) :: entries => entry.Full ∧ FullIn entries

end

theorem fullIn_iff {entries : List (ν × Entry ν β)} :
    FullIn entries ↔ ∀ e ∈ entries, e.2.Full := by
  induction entries with
  | nil => simp [FullIn]
  | cons e entries ih =>
    obtain ⟨name, entry⟩ := e
    simp [FullIn, ih]

mutual

theorem Entry.files_ne_nil : ∀ entry : Entry ν β, entry.Full → entry.files ≠ []
  | .file _, _ => by
    rw [Entry.files]
    exact List.cons_ne_nil _ _
  | .folder entries, h => by
    rw [Entry.Full] at h
    rw [Entry.files]
    exact filesIn_ne_nil entries h.1 h.2
  | .special, h => by
    rw [Entry.Full] at h
    exact h.elim

theorem filesIn_ne_nil : ∀ entries : List (ν × Entry ν β), entries ≠ [] → FullIn entries →
    filesIn entries ≠ []
  | [], h, _ => absurd rfl h
  | (name, entry) :: entries, _, h => by
    rw [FullIn] at h
    rw [filesIn]
    intro hnil
    exact entry.files_ne_nil h.1 (List.map_eq_nil_iff.1 (List.append_eq_nil_iff.1 hnil).1)

end

/-- A tree that is made of files: names are distinct and every folder holds a file. -/
structure Made (entries : List (ν × Entry ν β)) : Prop where
  names : (entries.map Prod.fst).Nodup
  distinct : DistinctIn entries
  full : FullIn entries

theorem Made.nil : Made ([] : List (ν × Entry ν β)) := ⟨List.nodup_nil, trivial, trivial⟩

theorem Made.inner {before after inner : List (ν × Entry ν β)} {name : ν}
    (h : Made (before ++ (name, .folder inner) :: after)) : Made inner ∧ inner ≠ [] := by
  have hmem : (name, Entry.folder inner) ∈ before ++ (name, .folder inner) :: after :=
    List.mem_append_right _ (List.mem_cons_self ..)
  have hdistinct := distinctIn_iff.1 h.distinct _ hmem
  have hfull := fullIn_iff.1 h.full _ hmem
  rw [Entry.Distinct] at hdistinct
  rw [Entry.Full] at hfull
  exact ⟨⟨hdistinct.1, hdistinct.2, hfull.2⟩, hfull.1⟩

/-! ## Creating files -/

/-- The files of a change below a folder. -/
theorem filesIn_replace {name : ν} {before after : List (ν × Entry ν β)}
    {entry entry' : Entry ν β} {path : List ν} {content : β}
    (h : entry'.files.Perm ((path, content) :: entry.files)) :
    (filesIn (before ++ (name, entry') :: after)).Perm
      ((name :: path, content) :: filesIn (before ++ (name, entry) :: after)) := by
  rw [filesIn_append, filesIn_append, filesIn, filesIn]
  have hmap := h.map fun f => (name :: f.1, f.2)
  rw [List.map_cons] at hmap
  refine ((hmap.append_right _).append_left _).trans ?_
  rw [List.cons_append]
  exact List.perm_middle

section create

variable [DecidableEq ν]

/-- Change what stands under a name in a folder, or put something there. -/
def under (name : ν) (change : Option (Entry ν β) → Option (Entry ν β)) :
    List (ν × Entry ν β) → Option (List (ν × Entry ν β))
  | [] => (change none).map fun entry => [(name, entry)]
  | (name', entry) :: entries =>
    if name' = name then (change (some entry)).map fun entry' => (name', entry') :: entries
    else (under name change entries).map fun entries' => (name', entry) :: entries'

/-- Create a file at a path below a folder, with the folders on the way. -/
def create (content : β) : List ν → List (ν × Entry ν β) → Option (List (ν × Entry ν β))
  | [] => fun _ => none
  | name :: rest => under name fun
    | none => if rest = [] then some (.file content)
      else (create content rest []).map .folder
    | some (.folder entries) => (create content rest entries).map .folder
    | some _ => none

/-- Create files one after the other. -/
def createAll (files : List (List ν × β)) (entries : List (ν × Entry ν β)) :
    Option (List (ν × Entry ν β)) :=
  files.foldlM (fun entries f => create f.2 f.1 entries) entries

/-- **What a change under a name comes to.** The name was free, or it was taken. -/
theorem under_some {name : ν} {change : Option (Entry ν β) → Option (Entry ν β)}
    {entries entries' : List (ν × Entry ν β)} (h : under name change entries = some entries') :
    (name ∉ entries.map Prod.fst ∧ ∃ entry, change none = some entry ∧
      entries' = entries ++ [(name, entry)]) ∨
    ∃ before entry after entry', entries = before ++ (name, entry) :: after ∧
      name ∉ before.map Prod.fst ∧ change (some entry) = some entry' ∧
      entries' = before ++ (name, entry') :: after := by
  induction entries generalizing entries' with
  | nil =>
    rw [under, Option.map_eq_some_iff] at h
    obtain ⟨entry, hentry, rfl⟩ := h
    exact .inl ⟨List.not_mem_nil, entry, hentry, rfl⟩
  | cons e entries ih =>
    obtain ⟨name', entry⟩ := e
    rw [under] at h
    by_cases hname : name' = name
    · rw [if_pos hname, Option.map_eq_some_iff] at h
      obtain ⟨entry', hentry, rfl⟩ := h
      subst hname
      exact .inr ⟨[], entry, entries, entry', rfl, List.not_mem_nil, hentry, rfl⟩
    · rw [if_neg hname, Option.map_eq_some_iff] at h
      obtain ⟨more, hmore, rfl⟩ := h
      rcases ih hmore with ⟨hfree, entry', hentry, rfl⟩ |
        ⟨before, entry₀, after, entry', rfl, hfree, hentry, rfl⟩
      · refine .inl ⟨?_, entry', hentry, rfl⟩
        rw [List.map_cons, List.mem_cons]
        rintro (heq | hmem)
        · exact hname heq.symm
        · exact hfree hmem
      · refine .inr ⟨(name', entry) :: before, entry₀, after, entry', rfl, ?_, hentry, rfl⟩
        rw [List.map_cons, List.mem_cons]
        rintro (heq | hmem)
        · exact hname heq.symm
        · exact hfree hmem

/-- A change under a free name. -/
theorem under_of_notMem {name : ν} (change : Option (Entry ν β) → Option (Entry ν β))
    {entries : List (ν × Entry ν β)} (h : name ∉ entries.map Prod.fst) :
    under name change entries =
      (change none).map fun entry => entries ++ [(name, entry)] := by
  induction entries with
  | nil => rfl
  | cons e entries ih =>
    obtain ⟨name', entry⟩ := e
    rw [List.map_cons, List.mem_cons, not_or] at h
    rw [under, if_neg (Ne.symm h.1), ih h.2, Option.map_map]
    rfl

/-- A change under a name that is taken. -/
theorem under_of_mem {name : ν} (change : Option (Entry ν β) → Option (Entry ν β))
    {before after : List (ν × Entry ν β)} {entry : Entry ν β}
    (h : name ∉ before.map Prod.fst) :
    under name change (before ++ (name, entry) :: after) =
      (change (some entry)).map fun entry' => before ++ (name, entry') :: after := by
  induction before with
  | nil =>
    rw [List.nil_append, under, if_pos rfl]
    rfl
  | cons e before ih =>
    obtain ⟨name', entry'⟩ := e
    rw [List.map_cons, List.mem_cons, not_or] at h
    rw [List.cons_append, under, if_neg (Ne.symm h.1), ih h.2, Option.map_map]
    rfl

/-! ### What is created -/

/-- **Creating a file adds it to the files**, and changes none. -/
theorem filesIn_create {content : β} {path : List ν} {entries entries' : List (ν × Entry ν β)}
    (h : create content path entries = some entries') :
    (filesIn entries').Perm ((path, content) :: filesIn entries) := by
  induction path generalizing entries entries' with
  | nil => cases h
  | cons name rest ih =>
    rw [create] at h
    rcases under_some h with ⟨-, entry, hentry, rfl⟩ |
      ⟨before, entry, after, entry', rfl, -, hentry, rfl⟩
    · rw [filesIn_append]
      refine List.perm_append_comm.trans ?_
      have hfiles : entry.files.Perm [(rest, content)] := by
        dsimp only at hentry
        by_cases hrest : rest = []
        · rw [if_pos hrest] at hentry
          cases hentry
          rw [Entry.files, hrest]
        · rw [if_neg hrest, Option.map_eq_some_iff] at hentry
          obtain ⟨inner, hinner, rfl⟩ := hentry
          exact ih hinner
      rw [filesIn, filesIn, List.append_nil]
      exact (hfiles.map fun f => (name :: f.1, f.2)).append_right _
    · refine filesIn_replace ?_
      cases entry with
      | file _ => cases hentry
      | special => cases hentry
      | folder inner =>
        dsimp only at hentry
        rw [Option.map_eq_some_iff] at hentry
        obtain ⟨inner', hinner, rfl⟩ := hentry
        exact ih hinner

/-- A tree that is made of files is one after a file is created. -/
theorem Made.create {content : β} {path : List ν} {entries entries' : List (ν × Entry ν β)}
    (hmade : Made entries) (h : create content path entries = some entries') :
    Made entries' ∧ entries' ≠ [] := by
  induction path generalizing entries entries' with
  | nil => cases h
  | cons name rest ih =>
    rw [FileTree.create] at h
    rcases under_some h with ⟨hfree, entry, hentry, rfl⟩ |
      ⟨before, entry, after, entry', rfl, hfree, hentry, rfl⟩
    · have hnew : entry.Distinct ∧ entry.Full := by
        dsimp only at hentry
        by_cases hrest : rest = []
        · rw [if_pos hrest] at hentry
          cases hentry
          rw [Entry.Distinct, Entry.Full]
          exact ⟨trivial, trivial⟩
        · rw [if_neg hrest, Option.map_eq_some_iff] at hentry
          obtain ⟨inner, hinner, rfl⟩ := hentry
          obtain ⟨hin, hne⟩ := ih .nil hinner
          rw [Entry.Distinct, Entry.Full]
          exact ⟨⟨hin.names, hin.distinct⟩, hne, hin.full⟩
      refine ⟨⟨?_, ?_, ?_⟩, by simp⟩
      · rw [List.map_append, List.map_cons, List.map_nil]
        exact List.nodup_append_comm.1 (List.nodup_cons.2 ⟨hfree, hmade.names⟩)
      · rw [distinctIn_iff]
        intro e he
        rw [List.mem_append, List.mem_singleton] at he
        rcases he with he | rfl
        · exact distinctIn_iff.1 hmade.distinct e he
        · exact hnew.1
      · rw [fullIn_iff]
        intro e he
        rw [List.mem_append, List.mem_singleton] at he
        rcases he with he | rfl
        · exact fullIn_iff.1 hmade.full e he
        · exact hnew.2
    · cases entry with
      | file _ => cases hentry
      | special => cases hentry
      | folder inner =>
        dsimp only at hentry
        rw [Option.map_eq_some_iff] at hentry
        obtain ⟨inner', hinner, rfl⟩ := hentry
        obtain ⟨hin, hne⟩ := ih hmade.inner.1 hinner
        have hother : ∀ e ∈ before ++ (name, Entry.folder inner') :: after,
            e ∈ before ++ (name, Entry.folder inner) :: after ∨ e = (name, .folder inner') := by
          intro e he
          rw [List.mem_append, List.mem_cons] at he ⊢
          tauto
        refine ⟨⟨?_, ?_, ?_⟩, by simp⟩
        · have hnames := hmade.names
          rw [List.map_append, List.map_cons] at hnames ⊢
          exact hnames
        · rw [distinctIn_iff]
          intro e he
          rcases hother e he with he | rfl
          · exact distinctIn_iff.1 hmade.distinct e he
          · rw [Entry.Distinct]
            exact ⟨hin.names, hin.distinct⟩
        · rw [fullIn_iff]
          intro e he
          rcases hother e he with he | rfl
          · exact fullIn_iff.1 hmade.full e he
          · rw [Entry.Full]
            exact ⟨hne, hin.full⟩

/-! ### When a file can be created -/

/-- **A file can be created where its path is apart from the others.** The induction is on the
path, and the cases are what stands under its first name. -/
theorem create_isSome_iff {content : β} {path : List ν} {entries : List (ν × Entry ν β)}
    (hmade : Made entries) :
    (create content path entries).isSome ↔
      path ≠ [] ∧ ∀ f ∈ filesIn entries, Apart f.1 path := by
  induction path generalizing entries with
  | nil => simp [create]
  | cons name rest ih =>
    rw [create]
    by_cases hname : name ∈ entries.map Prod.fst
    · obtain ⟨⟨name', entry⟩, hmem, rfl⟩ := List.mem_map.1 hname
      obtain ⟨before, after, rfl⟩ := List.append_of_mem hmem
      have hnames := hmade.names
      rw [List.map_append, List.map_cons, List.nodup_append, List.nodup_cons] at hnames
      have hbefore : name' ∉ before.map Prod.fst := fun h =>
        hnames.2.2 name' h name' (List.mem_cons_self ..) rfl
      rw [under_of_mem _ hbefore, Option.isSome_map]
      cases entry with
      | file taken =>
        refine ⟨fun h => absurd h (by simp), fun h => ?_⟩
        have hfile : ([name'], taken) ∈ filesIn (before ++ (name', Entry.file taken) :: after) :=
          mem_filesIn.2 ⟨_, hmem, [], rfl, by rw [Entry.files]; exact List.mem_cons_self ..⟩
        exact absurd (List.prefix_append [name'] rest) (h.2 _ hfile).1
      | special =>
        have hfull := fullIn_iff.1 hmade.full _ hmem
        rw [Entry.Full] at hfull
        exact hfull.elim
      | folder inner =>
        obtain ⟨hinner, hne⟩ := hmade.inner
        have hbelow : ∀ f ∈ filesIn inner,
            (name' :: f.1, f.2) ∈ filesIn (before ++ (name', Entry.folder inner) :: after) :=
          fun f hf => mem_filesIn.2 ⟨_, hmem, f.1, rfl, by rw [Entry.files]; exact hf⟩
        rw [Option.isSome_map, ih hinner]
        constructor
        · rintro ⟨hrest, happart⟩
          refine ⟨List.cons_ne_nil _ _, fun f hf => ?_⟩
          obtain ⟨e, he, path, hpath, hfile⟩ := mem_filesIn.1 hf
          rw [hpath]
          by_cases heq : e.1 = name'
          · have hentry : e = (name', .folder inner) := by
              rw [List.mem_append, List.mem_cons] at he
              rcases he with he | he | he
              · have hin : e.1 ∈ before.map Prod.fst := List.mem_map_of_mem he
                rw [heq] at hin
                exact absurd hin hbefore
              · exact he
              · have hin : e.1 ∈ after.map Prod.fst := List.mem_map_of_mem he
                rw [heq] at hin
                exact absurd hin hnames.2.1.1
            subst hentry
            rw [Entry.files] at hfile
            exact apart_cons_self.2 (happart _ hfile)
          · exact apart_cons_of_ne heq _ _
        · rintro ⟨-, happart⟩
          refine ⟨?_, fun f hf => apart_cons_self.1 (happart _ (hbelow f hf))⟩
          rintro rfl
          -- the folder is not empty, and a file of it would lie below the new one
          obtain ⟨f, hf⟩ := List.exists_mem_of_ne_nil _ (filesIn_ne_nil inner hne hinner.full)
          exact (happart _ (hbelow f hf)).2 (List.prefix_append [name'] f.1)
    · rw [under_of_notMem _ hname, Option.isSome_map]
      constructor
      · refine fun _ => ⟨List.cons_ne_nil _ _, fun f hf => ?_⟩
        obtain ⟨e, he, path, hpath, -⟩ := mem_filesIn.1 hf
        have hin : e.1 ∈ entries.map Prod.fst := List.mem_map_of_mem he
        rw [hpath]
        refine apart_cons_of_ne (fun heq => hname ?_) _ _
        rw [← heq]
        exact hin
      · intro _
        by_cases hrest : rest = []
        · rw [if_pos hrest]
          rfl
        · rw [if_neg hrest, Option.isSome_map, ih .nil]
          exact ⟨hrest, by simp [filesIn]⟩

/-- What creating files one after the other makes. -/
theorem createAll_some {files : List (List ν × β)} {entries entries' : List (ν × Entry ν β)}
    (hmade : Made entries) (h : createAll files entries = some entries') :
    (filesIn entries').Perm (files ++ filesIn entries) ∧ Made entries' := by
  induction files generalizing entries with
  | nil =>
    cases h
    exact ⟨.refl _, hmade⟩
  | cons f files ih =>
    rw [createAll, List.foldlM_cons] at h
    obtain ⟨next, hnext, hrest⟩ := Option.bind_eq_some_iff.1 h
    obtain ⟨hperm, hmade'⟩ := ih (hmade.create hnext).1 hrest
    refine ⟨hperm.trans (((filesIn_create hnext).append_left files).trans ?_), hmade'⟩
    exact List.perm_middle

/-- **Files can be created one after the other if and only if they are apart.** -/
theorem createAll_isSome_iff {files : List (List ν × β)} {entries : List (ν × Entry ν β)}
    (hmade : Made entries) :
    (createAll files entries).isSome ↔
      (∀ f ∈ files, f.1 ≠ []) ∧ files.Pairwise (fun f g => Apart f.1 g.1) ∧
        ∀ f ∈ files, ∀ g ∈ filesIn entries, Apart g.1 f.1 := by
  induction files generalizing entries with
  | nil => simp [createAll]
  | cons f files ih =>
    rw [createAll, List.foldlM_cons, List.pairwise_cons, List.forall_mem_cons,
      List.forall_mem_cons]
    cases hnext : create f.2 f.1 entries with
    | none =>
      have hcannot : ¬(create f.2 f.1 entries).isSome := by rw [hnext]; simp
      rw [create_isSome_iff hmade] at hcannot
      refine ⟨fun h => absurd h (by simp), fun h => absurd ⟨h.1.1, h.2.2.1⟩ hcannot⟩
    | some next =>
      have hcan : (create f.2 f.1 entries).isSome := by rw [hnext]; rfl
      rw [create_isSome_iff hmade] at hcan
      have hperm := filesIn_create hnext
      have hrest := ih (hmade.create hnext).1
      change (createAll files next).isSome ↔ _
      rw [hrest]
      constructor
      · rintro ⟨hne, hpairs, happart⟩
        refine ⟨⟨hcan.1, hne⟩, ⟨fun g hg => ?_, hpairs⟩, hcan.2, fun g hg e he => ?_⟩
        · exact happart g hg f (hperm.mem_iff.2 (List.mem_cons_self ..))
        · exact happart g hg e (hperm.mem_iff.2 (List.mem_cons_of_mem _ he))
      · rintro ⟨⟨-, hne⟩, ⟨hfirst, hpairs⟩, -, happart⟩
        refine ⟨hne, hpairs, fun g hg e he => ?_⟩
        rcases List.mem_cons.1 (hperm.mem_iff.1 he) with rfl | he
        · exact hfirst g hg
        · exact happart g hg e he

/-- Files that are apart make a tree, and it has just these files. -/
theorem createAll_nil_iff {files : List (List ν × β)} :
    (createAll files []).isSome ↔
      (∀ f ∈ files, f.1 ≠ []) ∧ files.Pairwise fun f g => Apart f.1 g.1 := by
  rw [createAll_isSome_iff .nil]
  simp [filesIn]

end create

end FileTree
