import MetricsView.Proofs.Host.Tree

/-! # What becomes of a world

A path that leads to the place of a file goes on leading there while files are written and removed
and directories are made. What is only looked at stays as it is. -/
namespace MetricsView.World

open FileTree

variable {w w' : World} {path : String} {position other : List String} {content : Text.Octets}

theorem locateNew_eq_ok_iff : w.locateNew path = .ok position ↔
    pathFault? path = none ∧ w.files.walkToNew (w.start path) (Path.steps path) = .ok position := by
  rw [locateNew]
  cases pathFault? path <;> simp

theorem ne_nil_of_locateNew (h : w.locateNew path = .ok position) : position ≠ [] :=
  ne_nil_of_walkToNew (locateNew_eq_ok_iff.1 h).2

theorem locate_of_locateNew (h : w.locateNew path = .ok position) : w.locate path =
    if (w.files.entry? position).isSome then .ok position else .error .notFound := by
  obtain ⟨hpath, hwalk⟩ := locateNew_eq_ok_iff.1 h
  rw [locate, hpath]
  exact walk_of_walkToNew hwalk

theorem read_of_locateNew (h : w.locateNew path = .ok position) : w.read path =
    match w.files.entry? position with
    | some (.file content) => .ok content
    | some .directory => .error .isADirectory
    | none => .error .notFound := by
  rw [read, locate_of_locateNew h]
  cases hentry : w.files.entry? position with
  | none => rfl
  | some e => cases e <;> simp [hentry]

/-- The world with another entry at the position. -/
def put (w : World) (position : List String) (e : Entry) : World :=
  { w with files := w.files.set position e }

/-- The world without the entry at the position. -/
def drop (w : World) (position : List String) : World :=
  { w with files := w.files.erase position }

theorem write_of_locateNew (h : w.locateNew path = .ok position)
    (hfile : w.files.isDirectoryAt position = false) (content : Text.Octets) :
    w.write path content = .ok (w.put position (.file content)) := by
  rw [write, h]
  simp [hfile, put]

theorem remove_of_locateNew (h : w.locateNew path = .ok position)
    (hentry : w.files.entry? position = some (.file content)) :
    w.remove path = .ok (w.drop position) := by
  rw [remove, locate_of_locateNew h, hentry]
  simp [isDirectoryAt, hentry, drop]

theorem entry?_put (hne : position ≠ []) (e : Entry) (other : List String) :
    (w.put position e).files.entry? other =
      if other = position then some e else w.files.entry? other :=
  entry?_set hne e other

theorem entry?_drop (hne : position ≠ []) (other : List String) :
    (w.drop position).files.entry? other =
      if other = position then none else w.files.entry? other :=
  entry?_erase hne other

/-- Where no directory is, neither a new file nor the loss of an old one makes one. -/
theorem isDirectoryAt_put (hne : position ≠ []) (h : w.files.isDirectoryAt other = false)
    (content : Text.Octets) :
    (w.put position (.file content)).files.isDirectoryAt other = false := by
  rw [isDirectoryAt, entry?_put hne]
  split
  · rfl
  · exact h

theorem isDirectoryAt_drop (hne : position ≠ []) (h : w.files.isDirectoryAt other = false) :
    (w.drop position).files.isDirectoryAt other = false := by
  rw [isDirectoryAt, entry?_drop hne]
  split
  · rfl
  · exact h

/-- Paths start where they did, and the directories are still there. -/
structure Keeps (w w' : World) : Prop where
  workingDirectory : w'.workingDirectory = w.workingDirectory
  directories : DirectoriesIn w.files w'.files

namespace Keeps

theorem locateNew (h : w.Keeps w') (hpath : w.locateNew path = .ok position) :
    w'.locateNew path = .ok position := by
  obtain ⟨hfault, hwalk⟩ := locateNew_eq_ok_iff.1 hpath
  have hstart : w'.start path = w.start path := by rw [start, start, h.workingDirectory]
  exact locateNew_eq_ok_iff.2 ⟨hfault, hstart ▸ h.directories.walkToNew hwalk⟩

/-- What is no directory may be changed and taken away. -/
private theorem of_entry?_eq (hfiles : ∀ q, q ≠ position → w'.files.entry? q = w.files.entry? q)
    (hfile : w.files.isDirectoryAt position = false)
    (hdir : w'.workingDirectory = w.workingDirectory) : w.Keeps w' := by
  refine ⟨hdir, fun q hq => ?_⟩
  have hne : q ≠ position := by
    rintro rfl
    rw [hfile] at hq
    cases hq
  rw [isDirectoryAt_iff] at hq ⊢
  rw [hfiles q hne, hq]

theorem put (hne : position ≠ []) (hfile : w.files.isDirectoryAt position = false) (e : Entry) :
    w.Keeps (w.put position e) :=
  of_entry?_eq (fun q hq => by rw [entry?_put hne, if_neg hq]) hfile rfl

theorem drop (hne : position ≠ []) (hfile : w.files.isDirectoryAt position = false) :
    w.Keeps (w.drop position) :=
  of_entry?_eq (fun q hq => by rw [entry?_drop hne, if_neg hq]) hfile rfl

end Keeps

variable {α β : Type} {R : World → World → Prop}

theorem run_bind {x : StateM World α} {f : α → StateM World β} {a : α}
    (h : x.run w = (a, w')) : (x >>= f).run w = (f a).run w' := by
  rw [StateT.run_bind, h]
  rfl

theorem run_write (h : w.write path content = .ok w') :
    (fileSystem.write path content).run w = (.ok (), w') := by
  change attempt (·.write path content) w = _
  rw [attempt, h]

theorem run_remove (h : w.remove path = .ok w') :
    (fileSystem.remove path).run w = (.ok (), w') := by
  change attempt (·.remove path) w = _
  rw [attempt, h]

/-- The action leads from every world to one that is so related to it. -/
def Moves (R : World → World → Prop) (x : StateM World α) : Prop := ∀ w, R w (x.run w).2

namespace Moves

theorem pure (hrefl : ∀ w, R w w) (a : α) : Moves R (Pure.pure a : StateM World α) :=
  fun w => hrefl w

theorem bind (htrans : ∀ {w w' w''}, R w w' → R w' w'' → R w w'') {x : StateM World α}
    {f : α → StateM World β} (hx : Moves R x) (hf : ∀ a, Moves R (f a)) : Moves R (x >>= f) :=
  fun w => htrans (hx w) (hf (x.run w).1 (x.run w).2)

end Moves

/-- The action only looks at the world. -/
abbrev Looks (x : StateM World α) : Prop := Moves (fun w w' => w' = w) x

namespace Looks

theorem pure (a : α) : Looks (Pure.pure a : StateM World α) := fun _ => rfl

theorem bind {x : StateM World α} {f : α → StateM World β} (hx : Looks x) (hf : ∀ a, Looks (f a)) :
    Looks (x >>= f) := Moves.bind (fun h h' => h'.trans h) hx hf

theorem mapM {f : α → StateM World β} (hf : ∀ a, Looks (f a)) (as : List α) :
    Looks (as.mapM f) := by
  induction as with
  | nil =>
    rw [List.mapM_nil]
    exact pure []
  | cons a as ih =>
    rw [List.mapM_cons]
    exact (hf a).bind fun b => ih.bind fun bs => pure (b :: bs)

theorem run_eq {x : StateM World α} (h : Looks x) (w : World) : x.run w = ((x.run w).1, w) :=
  Prod.ext rfl (h w)

theorem lookUp (db : Database (StateM World)) (name : String) :
    Looks ((hostWith db).lookUp name) := fun _ => rfl

theorem look (path : String) : Looks (fileSystem.look path) := fun _ => rfl

theorem read (path : String) : Looks (fileSystem.read path) := fun _ => rfl

theorem isPresent (path : String) : Looks (fileSystem.isPresent path) :=
  (look path).bind fun _ => pure _

theorem readText (path : String) : Looks (fileSystem.readText path) := by
  refine (read path).bind fun content => ?_
  split
  · exact pure _
  · split <;> exact pure _

end Looks

/-- Some directories are there that were not there, and all else is the same. -/
structure Makes (w w' : World) : Prop where
  environment : w'.environment = w.environment
  workingDirectory : w'.workingDirectory = w.workingDirectory
  clock : w'.clock = w.clock
  entries : ∀ q, w'.files.entry? q = w.files.entry? q ∨
    w.files.entry? q = none ∧ w'.files.entry? q = some .directory

namespace Makes

theorem refl (w : World) : w.Makes w := ⟨rfl, rfl, rfl, fun _ => .inl rfl⟩

theorem trans {w'' : World} (h : w.Makes w') (h' : w'.Makes w'') : w.Makes w'' where
  environment := h'.environment.trans h.environment
  workingDirectory := h'.workingDirectory.trans h.workingDirectory
  clock := h'.clock.trans h.clock
  entries q := by
    rcases h.entries q with hq | ⟨hq, hdir⟩ <;> rcases h'.entries q with hq' | ⟨hq', hdir'⟩
    · exact .inl (hq'.trans hq)
    · exact .inr ⟨hq ▸ hq', hdir'⟩
    · exact .inr ⟨hq, hq'.trans hdir⟩
    · exact .inr ⟨hq, hdir'⟩

theorem entry?_eq (h : w.Makes w') (hfile : w'.files.isDirectoryAt position = false) :
    w'.files.entry? position = w.files.entry? position := by
  rcases h.entries position with heq | ⟨-, hdir⟩
  · exact heq
  · rw [isDirectoryAt_iff.2 hdir] at hfile
    cases hfile

private theorem of_makeDirectory (h : w.makeDirectory path = .ok w') : w.Makes w' := by
  rw [makeDirectory] at h
  split at h
  · cases h
  · next position hlocate hnew =>
    obtain rfl := Except.ok.inj h
    have hne := ne_nil_of_locateNew hnew
    have habsent : w.files.entry? position = none := by
      rw [locate_of_locateNew hnew] at hlocate
      cases hentry : w.files.entry? position with
      | none => rfl
      | some e => simp [hentry] at hlocate
    refine ⟨rfl, rfl, rfl, fun q => ?_⟩
    change FileTree.entry? (w.files.set position .directory) q = _ ∨
      _ ∧ FileTree.entry? (w.files.set position .directory) q = _
    rw [entry?_set hne]
    by_cases hq : q = position
    · subst hq
      exact .inr ⟨habsent, if_pos rfl⟩
    · exact .inl (if_neg hq)
  · cases h

end Makes

private theorem moves_makeDirectory (path : String) :
    Moves Makes (fileSystem.makeDirectory path) := by
  intro w
  change w.Makes (attempt (·.makeDirectory path) w).2
  rw [attempt]
  cases h : w.makeDirectory path with
  | ok w' => exact .of_makeDirectory h
  | error fault => exact .refl w

theorem moves_ensureDirectory (path : String) : Moves Makes (fileSystem.ensureDirectory path) := by
  refine .bind .trans (moves_makeDirectory path) fun made => ?_
  cases made with
  | ok _ => exact .pure .refl _
  | error fault =>
    refine .bind .trans (fun w => .refl w) fun kind => ?_
    split <;> exact .pure .refl _

private theorem moves_ensureDirectories (paths : List String) :
    Moves Makes (fileSystem.ensureDirectories paths) := by
  induction paths with
  | nil => exact .pure .refl _
  | cons path enclosing ih =>
    rw [FileSystem.ensureDirectories]
    split
    · exact .pure .refl _
    · refine .bind .trans (moves_ensureDirectory path) fun made => ?_
      split
      · refine .bind .trans ih fun done => ?_
        split
        · exact moves_ensureDirectory path
        · exact .pure .refl _
      · exact .pure .refl _

theorem moves_ensureEnclosing (path : String) : Moves Makes (fileSystem.ensureEnclosing path) := by
  rw [FileSystem.ensureEnclosing]
  split
  · exact .pure .refl _
  · refine .bind .trans (moves_ensureDirectories _) fun made => ?_
    split <;> exact .pure .refl _

end MetricsView.World
