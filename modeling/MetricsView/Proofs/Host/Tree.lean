import Mathlib.Data.List.Basic
import MetricsView.Host.World

/-! # Ways through a tree of files

A way leads through directories, so it still leads to the same directory in every tree that has
these directories, whatever files come and go. -/
namespace MetricsView.FileTree

variable {tree tree' : FileTree} {position target other : List String} {steps : List String}

theorem entry?_of_ne_nil (h : position ≠ []) :
    tree.entry? position = (tree.find? fun e => e.1 = position).map (·.2) := by
  rw [FileTree.entry?, if_neg (by simpa using h)]

theorem find?_other (h : other ≠ position) (tree : FileTree) :
    (tree.filter fun old => old.1 ≠ position).find? (fun e => e.1 = other) =
      tree.find? fun e => e.1 = other := by
  rw [List.find?_filter]
  refine congrArg (List.find? · tree) (funext fun e => ?_)
  by_cases he : e.1 = other
  · simp [he, h]
  · simp [he]

theorem entry?_set (h : position ≠ []) (e : Entry) (other : List String) :
    FileTree.entry? (tree.set position e) other =
      if other = position then some e else tree.entry? other := by
  by_cases hother : other = position
  · subst hother
    rw [entry?_of_ne_nil h, if_pos rfl, set, List.find?_cons_of_pos (by simp)]
    rfl
  · rw [if_neg hother]
    rcases eq_or_ne other [] with rfl | hne
    · rfl
    · rw [entry?_of_ne_nil hne, entry?_of_ne_nil hne, set,
        List.find?_cons_of_neg (by simpa using Ne.symm hother), find?_other hother]

theorem entry?_erase (h : position ≠ []) (other : List String) :
    FileTree.entry? (tree.erase position) other =
      if other = position then none else tree.entry? other := by
  by_cases hother : other = position
  · subst hother
    rw [entry?_of_ne_nil h, if_pos rfl, erase, List.find?_eq_none.2]
    · rfl
    · intro e he
      simpa using (List.mem_filter.1 he).2
  · rw [if_neg hother]
    rcases eq_or_ne other [] with rfl | hne
    · rfl
    · rw [entry?_of_ne_nil hne, entry?_of_ne_nil hne, erase, find?_other hother]

theorem isDirectoryAt_iff : tree.isDirectoryAt position ↔ tree.entry? position = some .directory :=
  decide_eq_true_iff

/-- All directories of the first tree are in the second. -/
def DirectoriesIn (tree tree' : FileTree) : Prop :=
  ∀ position, tree.isDirectoryAt position → tree'.isDirectoryAt position

/-- A way that leads to a directory starts at one. -/
theorem isDirectoryAt_of_walk (h : tree.walk position steps = .ok target)
    (htarget : tree.isDirectoryAt target) : tree.isDirectoryAt position := by
  cases steps with
  | nil =>
    obtain rfl := Except.ok.inj h
    exact htarget
  | cons step steps =>
    by_contra hno
    rw [walk, if_pos (by simpa using hno)] at h
    cases h

theorem DirectoriesIn.walk (hin : DirectoriesIn tree tree')
    (h : tree.walk position steps = .ok target) (htarget : tree.isDirectoryAt target) :
    tree'.walk position steps = .ok target := by
  induction steps generalizing position with
  | nil => exact h
  | cons step steps ih =>
    have hhere := isDirectoryAt_of_walk h htarget
    rw [FileTree.walk, hhere] at h
    rw [FileTree.walk, hin position hhere]
    simp only [Bool.not_true, Bool.false_eq_true, if_false] at h ⊢
    by_cases hidle : Path.isIdle step
    · rw [if_pos hidle] at h ⊢
      exact ih h
    rw [if_neg hidle] at h ⊢
    by_cases hup : step = ".."
    · rw [if_pos hup] at h ⊢
      exact ih h
    rw [if_neg hup] at h ⊢
    by_cases hlong : longestName < step.utf8ByteSize
    · rw [if_pos hlong] at h
      cases h
    rw [if_neg hlong] at h ⊢
    by_cases hentry : (tree.entry? (position ++ [step])).isSome
    · rw [if_pos hentry] at h
      have hnext := hin _ (isDirectoryAt_of_walk h htarget)
      rw [isDirectoryAt_iff] at hnext
      rw [hnext, Option.isSome_some, if_pos rfl]
      exact ih h
    · rw [if_neg hentry] at h
      cases h

private theorem walk_append (tree : FileTree) (position steps more : List String) :
    tree.walk position (steps ++ more) =
      tree.walk position steps >>= fun reached => tree.walk reached more := by
  induction steps generalizing position with
  | nil => rfl
  | cons step steps ih =>
    rw [List.cons_append, walk, walk]
    simp only [ih]
    split_ifs <;> rfl

/-- The last name on the way of a file. -/
structure Ends (tree : FileTree) (directory : List String) (name : String) : Prop where
  inside : tree.isDirectoryAt directory
  proper : (Path.isIdle name || name = "..") = false
  short : name.utf8ByteSize ≤ longestName

/-- Where the path of a file leads to: to a name in a directory. -/
theorem walkToNew_eq_ok_iff : tree.walkToNew position steps = .ok target ↔
    ∃ before name directory, steps = before ++ [name] ∧ target = directory ++ [name] ∧
      tree.walk position before = .ok directory ∧ tree.Ends directory name := by
  rw [walkToNew]
  rcases List.eq_nil_or_concat' steps with rfl | ⟨before, name, rfl⟩
  · simp
  · simp only [List.getLast?_append, List.getLast?_singleton, Option.some_or, List.dropLast_concat]
    constructor
    · intro h
      cases hwalk : tree.walk position before with
      | error fault => simp [hwalk] at h
      | ok directory =>
        simp only [hwalk] at h
        split_ifs at h with hdir hname hlong
        refine ⟨before, name, directory, rfl, (Except.ok.inj h).symm, hwalk, ?_, ?_, ?_⟩
        · simpa using hdir
        · simpa using hname
        · omega
    · rintro ⟨before', name', directory, hsteps, rfl, hwalk, hdir, hname, hshort⟩
      obtain ⟨rfl, hlast⟩ := List.append_inj' hsteps rfl
      obtain rfl := List.head_eq_of_cons_eq hlast
      simp [hwalk, hdir, hname, hshort]

theorem DirectoriesIn.walkToNew (hin : DirectoriesIn tree tree')
    (h : tree.walkToNew position steps = .ok target) :
    tree'.walkToNew position steps = .ok target := by
  obtain ⟨before, name, directory, hsteps, htarget, hwalk, hends⟩ := walkToNew_eq_ok_iff.1 h
  exact walkToNew_eq_ok_iff.2 ⟨before, name, directory, hsteps, htarget,
    hin.walk hwalk hends.inside, hin _ hends.inside, hends.proper, hends.short⟩

theorem ne_nil_of_walkToNew (h : tree.walkToNew position steps = .ok target) : target ≠ [] := by
  obtain ⟨_, _, _, -, rfl, -, -⟩ := walkToNew_eq_ok_iff.1 h
  simp

/-- A way to a file is a way in the usual sense if the file is there. -/
theorem walk_of_walkToNew (h : tree.walkToNew position steps = .ok target) :
    tree.walk position steps =
      if (tree.entry? target).isSome then .ok target else .error .notFound := by
  obtain ⟨before, name, directory, rfl, rfl, hwalk, hends⟩ := walkToNew_eq_ok_iff.1 h
  obtain ⟨hidle, hup⟩ := Bool.or_eq_false_iff.1 hends.proper
  rw [walk_append, hwalk]
  change tree.walk directory [name] = _
  rw [walk, hends.inside, hidle]
  have hshort : ¬ longestName < name.utf8ByteSize := Nat.not_lt.2 hends.short
  simp [of_decide_eq_false hup, hshort, walk]

end MetricsView.FileTree
