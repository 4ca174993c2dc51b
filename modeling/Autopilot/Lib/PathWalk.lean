/-
How a path is resolved in a file system with symbolic links.

A walk looks up one name after the other, goes up where the path says so, and takes the steps of a
link in place of the name of the link. It follows so many links and no more. Where it is it knows by
the names that have led there from the root, none of them a link, so that going up leaves the last
of them; these names are the canonical path of the place.

A walk depends on nothing but the answers it gets on its way: it ends at the same place where they
are the same, and nowhere where one of them is a refusal.
-/
import Mathlib.Tactic.Common

set_option autoImplicit false

namespace PathWalk

/-! ## Paths and file systems -/

/-- A step of a path. -/
inductive Step (ν : Type) where
  | up
  | name (n : ν)
  deriving DecidableEq

/-- What a link says: the steps from the root, or from the directory of the link. -/
structure Target (ν : Type) where
  absolute : Bool
  steps : List (Step ν)

/-- What there is under a name. -/
inductive Kind (ν : Type) where
  | directory
  | link (target : Target ν)
  | other

/-- Why a walk ends. -/
inductive Failure where
  | noEntry
  | notDirectory
  | denied
  | loop
  deriving DecidableEq

/-- A file system as a walk sees it. -/
structure View (ν ι : Type) where
  root : ι
  kind : ι → Option (Kind ν)
  searchable : ι → Bool
  entry : ι → ν → Option ι

variable {ν ι : Type}

namespace View

variable (v : View ν ι)

/-- The inode of a place, which is given by the names and inodes that lead there, the last one
first. -/
def current (place : List (ν × ι)) : ι := (place.head?.map Prod.snd).getD v.root

/-- To look into a directory it has to be one, and the walk has to be let in. -/
def enter (d : ι) : Except Failure Unit :=
  match v.kind d with
  | some .directory => if v.searchable d then .ok () else .error .denied
  | _ => .error .notDirectory

/-- What stands in a directory under a name. -/
def child (d : ι) (n : ν) : Except Failure (ι × Kind ν) := do
  v.enter d
  match (v.entry d n).bind fun i => (v.kind i).map fun kind => (i, kind) with
  | some found => .ok found
  | none => .error .noEntry

/-- Where the steps of a link start. -/
def start (target : Target ν) (place : List (ν × ι)) : List (ν × ι) :=
  if target.absolute then [] else place

/-- A walk up to the first link: its looks into directories, and the place it comes to. -/
def go (follow : List (Step ν) → List (ν × ι) →
    Except Failure (List (ι × Step ν) × List (ν × ι))) :
    List (Step ν) → List (ν × ι) → Except Failure (List (ι × Step ν) × List (ν × ι))
  | [], place => .ok ([], place)
  | .up :: rest, place => do
    v.enter (v.current place)
    let walked ← go follow rest place.tail
    return ((v.current place, .up) :: walked.1, walked.2)
  | .name n :: rest, place => do
    let found ← v.child (v.current place) n
    let walked ← (match found.2 with
      | .link target => follow (target.steps ++ rest) (start target place)
      | _ => go follow rest ((n, found.1) :: place))
    return ((v.current place, .name n) :: walked.1, walked.2)

/-- A walk that follows at most so many links. -/
def walk : ℕ → List (Step ν) → List (ν × ι) →
    Except Failure (List (ι × Step ν) × List (ν × ι))
  | 0 => v.go fun _ _ => .error .loop
  | links + 1 => v.go (walk links)

end View

/-! ## Walks that arrive -/

/-- A walk with at most so many links looks into these directories and comes to the goal. -/
inductive Leads (v : View ν ι) :
    ℕ → List (Step ν) → List (ν × ι) → List (ι × Step ν) → List (ν × ι) → Prop
  | arrived {links : ℕ} {place : List (ν × ι)} : Leads v links [] place [] place
  | up {links : ℕ} {rest : List (Step ν)} {place : List (ν × ι)} {looks : List (ι × Step ν)}
    {goal : List (ν × ι)} (hlook : v.enter (v.current place) = .ok ())
    (hrest : Leads v links rest place.tail looks goal) :
    Leads v links (.up :: rest) place ((v.current place, .up) :: looks) goal
  | down {links : ℕ} {n : ν} {rest : List (Step ν)} {place : List (ν × ι)}
    {looks : List (ι × Step ν)} {goal : List (ν × ι)} {i : ι} {kind : Kind ν}
    (hlook : v.child (v.current place) n = .ok (i, kind)) (hkind : ∀ target, kind ≠ .link target)
    (hrest : Leads v links rest ((n, i) :: place) looks goal) :
    Leads v links (.name n :: rest) place ((v.current place, .name n) :: looks) goal
  | follow {links : ℕ} {n : ν} {rest : List (Step ν)} {place : List (ν × ι)}
    {looks : List (ι × Step ν)} {goal : List (ν × ι)} {i : ι} {target : Target ν}
    (hlook : v.child (v.current place) n = .ok (i, .link target))
    (hrest : Leads v links (target.steps ++ rest) (View.start target place) looks goal) :
    Leads v (links + 1) (.name n :: rest) place ((v.current place, .name n) :: looks) goal

/-- The first look of a walk that arrives, where it goes to a name. -/
theorem Leads.first {v : View ν ι} {links : ℕ} {n : ν} {rest : List (Step ν)}
    {place goal : List (ν × ι)} {looks : List (ι × Step ν)}
    (h : Leads v links (.name n :: rest) place looks goal) :
    ∃ found looks', v.child (v.current place) n = .ok found ∧
      looks = (v.current place, .name n) :: looks' := by
  cases h with
  | down hlook _ _ => exact ⟨_, _, hlook, rfl⟩
  | follow hlook _ => exact ⟨_, _, hlook, rfl⟩

theorem bind_eq_ok {ε α β : Type} {x : Except ε α} {f : α → Except ε β} {b : β} :
    x >>= f = .ok b ↔ ∃ a, x = .ok a ∧ f a = .ok b := by
  cases x with
  | error e =>
    refine iff_of_false (fun h => ?_) ?_
    · cases h
    · rintro ⟨a, ha, _⟩
      cases ha
  | ok a =>
    constructor
    · exact fun h => ⟨a, rfl, h⟩
    · rintro ⟨b, hb, h⟩
      cases hb
      exact h

section walks

variable {v : View ν ι}

/-- What `go` gives, if what is done with the links gives what a walk would. -/
theorem go_eq_ok {links : ℕ}
    {follow : List (Step ν) → List (ν × ι) → Except Failure (List (ι × Step ν) × List (ν × ι))}
    (hfollow : ∀ (target : Target ν) rest place n i looks goal,
      v.child (v.current place) n = .ok (i, .link target) →
      (follow (target.steps ++ rest) (View.start target place) = .ok (looks, goal) ↔
        Leads v links (.name n :: rest) place ((v.current place, .name n) :: looks) goal))
    (todo : List (Step ν)) (place : List (ν × ι)) (looks : List (ι × Step ν))
    (goal : List (ν × ι)) :
    v.go follow todo place = .ok (looks, goal) ↔ Leads v links todo place looks goal := by
  induction todo generalizing place looks goal with
  | nil =>
    rw [View.go]
    constructor
    · intro h
      cases h
      exact .arrived
    · intro h
      cases h
      rfl
  | cons s rest ih =>
    cases s with
    | up =>
      rw [View.go, bind_eq_ok]
      constructor
      · rintro ⟨_, hlook, h⟩
        obtain ⟨⟨looks', goal'⟩, hrest, h⟩ := bind_eq_ok.1 h
        cases h
        exact .up hlook ((ih _ _ _).1 hrest)
      · intro h
        cases h with
        | up hlook hrest =>
          exact ⟨(), hlook, bind_eq_ok.2 ⟨_, (ih _ _ _).2 hrest, rfl⟩⟩
    | name n =>
      rw [View.go, bind_eq_ok]
      constructor
      · rintro ⟨⟨i, kind⟩, hlook, h⟩
        obtain ⟨⟨looks', goal'⟩, hrest, h⟩ := bind_eq_ok.1 h
        cases h
        cases kind with
        | link target => exact (hfollow target rest place n i _ _ hlook).1 hrest
        | directory => exact .down hlook (fun _ h => by cases h) ((ih _ _ _).1 hrest)
        | other => exact .down hlook (fun _ h => by cases h) ((ih _ _ _).1 hrest)
      · intro h
        obtain ⟨⟨i, kind⟩, looks', hlook, rfl⟩ := h.first
        refine ⟨(i, kind), hlook, bind_eq_ok.2 ⟨(looks', goal), ?_, rfl⟩⟩
        have hother : (∀ target, kind ≠ .link target) →
            v.go follow rest ((n, i) :: place) = .ok (looks', goal) := by
          intro hkind
          cases h with
          | down hlook' _ hrest =>
            cases hlook.symm.trans hlook'
            exact (ih _ _ _).2 hrest
          | follow hlook' _ =>
            cases hlook.symm.trans hlook'
            exact absurd rfl (hkind _)
        cases kind with
        | link target => exact (hfollow target rest place n i looks' goal hlook).2 h
        | directory => exact hother fun _ h => by cases h
        | other => exact hother fun _ h => by cases h

/-- The walk comes to a goal exactly if it is led there. -/
theorem walk_eq_ok {links : ℕ} {todo : List (Step ν)} {place : List (ν × ι)}
    {looks : List (ι × Step ν)} {goal : List (ν × ι)} :
    v.walk links todo place = .ok (looks, goal) ↔ Leads v links todo place looks goal := by
  induction links generalizing todo place looks goal with
  | zero =>
    refine go_eq_ok (fun target rest place n i looks goal hlook => ?_) todo place looks goal
    refine iff_of_false (fun h => by cases h) fun h => ?_
    cases h with
    | down hlook' hkind _ =>
      cases hlook.symm.trans hlook'
      exact hkind _ rfl
  | succ links ih =>
    refine go_eq_ok (fun target rest place n i looks goal hlook => ?_) todo place looks goal
    rw [ih]
    constructor
    · exact fun h => .follow hlook h
    · intro h
      cases h with
      | down hlook' hkind _ =>
        cases hlook.symm.trans hlook'
        exact absurd rfl (hkind _)
      | follow hlook' hrest =>
        cases hlook.symm.trans hlook'
        exact hrest

end walks

/-! ## What a walk depends on -/

/-- A look into a directory is answered in the other file system as in this one. -/
def SameLook (v v' : View ν ι) (look : ι × Step ν) : Prop :=
  match look.2 with
  | .up => v'.enter look.1 = v.enter look.1
  | .name n => v'.child look.1 n = v.child look.1 n

/-- A look is refused. -/
def Refused (v : View ν ι) (look : ι × Step ν) : Prop :=
  match look.2 with
  | .up => ∃ failure, v.enter look.1 = .error failure
  | .name n => ∃ failure, v.child look.1 n = .error failure

section dependence

variable {v v' : View ν ι} {links : ℕ} {todo : List (Step ν)} {place goal : List (ν × ι)}
  {looks : List (ι × Step ν)}

theorem current_of_root (hroot : v'.root = v.root) (place : List (ν × ι)) :
    v'.current place = v.current place := by
  unfold View.current
  rw [hroot]

/-- **Where all looks are answered in the same way, the walk comes to the same goal.** -/
theorem Leads.same (h : Leads v links todo place looks goal) (hroot : v'.root = v.root)
    (hsame : ∀ look ∈ looks, SameLook v v' look) : Leads v' links todo place looks goal := by
  induction h with
  | arrived => exact .arrived
  | @up links rest place looks goal hlook _ ih =>
    obtain ⟨hfirst, hrest⟩ := List.forall_mem_cons.1 hsame
    rw [← current_of_root hroot]
    refine .up ?_ (ih hrest)
    rw [current_of_root hroot]
    exact (show v'.enter _ = v.enter _ from hfirst).trans hlook
  | @down links n rest place looks goal i kind hlook hkind _ ih =>
    obtain ⟨hfirst, hrest⟩ := List.forall_mem_cons.1 hsame
    rw [← current_of_root hroot]
    refine .down ?_ hkind (ih hrest)
    rw [current_of_root hroot]
    exact (show v'.child _ n = v.child _ n from hfirst).trans hlook
  | @follow links n rest place looks goal i target hlook _ ih =>
    obtain ⟨hfirst, hrest⟩ := List.forall_mem_cons.1 hsame
    rw [← current_of_root hroot]
    refine .follow (i := i) ?_ (ih hrest)
    rw [current_of_root hroot]
    exact (show v'.child _ n = v.child _ n from hfirst).trans hlook

/-- Looks into a directory that nobody is let into are refused. -/
theorem refused_of_enter {d : ι} {failure : Failure} (h : v.enter d = .error failure)
    (s : Step ν) : Refused v (d, s) := by
  cases s with
  | up => exact ⟨failure, h⟩
  | name n =>
    refine ⟨failure, ?_⟩
    unfold View.child
    rw [h]
    rfl

/-- A look is answered from the directory, its entry, and the kinds of inodes. -/
theorem sameLook {d : ι} {s : Step ν} (hkind : ∀ i, v'.kind i = v.kind i)
    (hsearchable : v'.searchable d = v.searchable d)
    (hentry : ∀ n, s = .name n → v'.entry d n = v.entry d n) : SameLook v v' (d, s) := by
  have henter : v'.enter d = v.enter d := by
    unfold View.enter
    rw [hkind, hsearchable]
  cases s with
  | up => exact henter
  | name n =>
    show v'.child d n = v.child d n
    unfold View.child
    rw [henter, hentry n rfl]
    simp only [hkind]

theorem not_refused_of_enter {d : ι} (h : v.enter d = .ok ()) : ¬Refused v (d, .up) := by
  rintro ⟨failure, hfailure⟩
  cases hfailure.symm.trans h

theorem not_refused_of_child {d : ι} {n : ν} {found : ι × Kind ν} (h : v.child d n = .ok found) :
    ¬Refused v (d, .name n) := by
  rintro ⟨failure, hfailure⟩
  cases hfailure.symm.trans h

/-- The looks of a walk that arrives are answered. -/
theorem Leads.answered (h : Leads v links todo place looks goal) :
    ∀ look ∈ looks, ¬Refused v look := by
  induction h with
  | arrived => exact fun look h => absurd h List.not_mem_nil
  | up hlook _ ih => exact List.forall_mem_cons.2 ⟨not_refused_of_enter hlook, ih⟩
  | down hlook _ _ ih => exact List.forall_mem_cons.2 ⟨not_refused_of_child hlook, ih⟩
  | follow hlook _ ih => exact List.forall_mem_cons.2 ⟨not_refused_of_child hlook, ih⟩

/-- **Where a look is refused and the others are answered in the same way, the walk comes to no
goal.** The walk that arrives goes through the same looks up to the first that is refused. -/
theorem Leads.refused (h : Leads v links todo place looks goal) (hroot : v'.root = v.root)
    (hall : ∀ look ∈ looks, SameLook v v' look ∨ Refused v' look)
    (hsome : ∃ look ∈ looks, Refused v' look) (looks' : List (ι × Step ν))
    (goal' : List (ν × ι)) : ¬Leads v' links todo place looks' goal' := by
  intro h'
  obtain ⟨look, hmem, hrefused⟩ := hsome
  induction h generalizing looks' with
  | arrived => exact List.not_mem_nil hmem
  | @up links rest place looks goal hlook _ ih =>
    cases h' with
    | up hlook' hrest' =>
      rw [current_of_root hroot] at hlook'
      obtain rfl | hmem := List.mem_cons.1 hmem
      · exact not_refused_of_enter hlook' hrefused
      · exact ih (List.forall_mem_cons.1 hall).2 _ hrest' hmem
  | @down links n rest place looks goal i kind hlook hkind _ ih =>
    obtain ⟨hfirst, hrest⟩ := List.forall_mem_cons.1 hall
    obtain ⟨found, _, hfound, -⟩ := h'.first
    rw [current_of_root hroot] at hfound
    have hsame : v'.child (v.current place) n = .ok (i, kind) :=
      (hfirst.resolve_right (not_refused_of_child hfound)).trans hlook
    obtain rfl | hmem := List.mem_cons.1 hmem
    · exact not_refused_of_child hfound hrefused
    · cases h' with
      | down hlook' _ hrest' =>
        rw [current_of_root hroot, hsame] at hlook'
        cases hlook'
        exact ih hrest _ hrest' hmem
      | follow hlook' _ =>
        rw [current_of_root hroot, hsame] at hlook'
        cases hlook'
        exact hkind _ rfl
  | @follow links n rest place looks goal i target hlook _ ih =>
    obtain ⟨hfirst, hrest⟩ := List.forall_mem_cons.1 hall
    obtain ⟨found, _, hfound, -⟩ := h'.first
    rw [current_of_root hroot] at hfound
    have hsame : v'.child (v.current place) n = .ok (i, .link target) :=
      (hfirst.resolve_right (not_refused_of_child hfound)).trans hlook
    obtain rfl | hmem := List.mem_cons.1 hmem
    · exact not_refused_of_child hfound hrefused
    · cases h' with
      | down hlook' hkind _ =>
        rw [current_of_root hroot, hsame] at hlook'
        cases hlook'
        exact hkind _ rfl
      | follow hlook' hrest' =>
        rw [current_of_root hroot, hsame] at hlook'
        cases hlook'
        exact ih hrest _ hrest' hmem

end dependence

/-! ## Canonical paths -/

section canonical

variable {v : View ν ι} {links : ℕ} {todo : List (Step ν)} {place goal : List (ν × ι)}
  {looks : List (ι × Step ν)}

/-- The names that lead to a place, from the root. -/
def names (place : List (ν × ι)) : List ν := (place.map Prod.fst).reverse

/-- A place that is led to by its names, none of which is a link. -/
def Settled (v : View ν ι) : List (ν × ι) → Prop
  | [] => True
  | (n, i) :: rest => (∃ kind, v.child (v.current rest) n = .ok (i, kind) ∧
      ∀ target, kind ≠ .link target) ∧ Settled v rest

theorem Settled.tail (h : Settled v place) : Settled v place.tail := by
  cases place with
  | nil => exact h
  | cons _ _ => exact h.2

/-- A walk from a settled place comes to a settled place. -/
theorem Leads.settled (h : Leads v links todo place looks goal) (hplace : Settled v place) :
    Settled v goal := by
  induction h with
  | arrived => exact hplace
  | up _ _ ih => exact ih hplace.tail
  | down hlook hkind _ ih => exact ih ⟨⟨_, hlook, hkind⟩, hplace⟩
  | @follow _ _ _ place _ _ _ target _ _ ih =>
    refine ih ?_
    unfold View.start
    split
    · trivial
    · exact hplace

/-- One name more. -/
theorem Leads.snoc (h : Leads v links todo place looks goal) {n : ν} {i : ι} {kind : Kind ν}
    (hlook : v.child (v.current goal) n = .ok (i, kind)) (hkind : ∀ target, kind ≠ .link target) :
    Leads v links (todo ++ [.name n]) place (looks ++ [(v.current goal, .name n)])
      ((n, i) :: goal) := by
  induction h with
  | arrived => exact .down hlook hkind .arrived
  | up hfirst _ ih => exact .up hfirst (ih hlook)
  | down hfirst hfirstKind _ ih => exact .down hfirst hfirstKind (ih hlook)
  | follow hfirst _ ih =>
    have hsteps := ih hlook
    rw [List.append_assoc] at hsteps
    exact .follow hfirst hsteps

/-- **The canonical path of a place leads to it**, through no link. -/
theorem Settled.leads (h : Settled v place) (links : ℕ) :
    ∃ looks, Leads v links ((names place).map .name) [] looks place := by
  induction place with
  | nil => exact ⟨[], .arrived⟩
  | cons first rest ih =>
    obtain ⟨n, i⟩ := first
    obtain ⟨⟨kind, hlook, hkind⟩, hrest⟩ := h
    obtain ⟨looks, hlooks⟩ := ih hrest
    refine ⟨looks ++ [(v.current rest, .name n)], ?_⟩
    unfold names at hlooks ⊢
    rw [List.map_cons, List.reverse_cons, List.map_append]
    exact hlooks.snoc hlook hkind

end canonical

end PathWalk
