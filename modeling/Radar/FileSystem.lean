import Mathlib.Logic.Function.Basic

/-!
# Directories, paths and new files

A small model of a POSIX file system: directories with entries, the walk along
the names of a path, `mkdir` and the opening of a file for appending.  A
directory is known by the names that lead to it from the root; an entry may
stand for any directory, as a symbolic link does.
-/

/-- The name of an entry. -/
abbrev FileName := List Char

/-- A directory: the names that lead to it from the root. -/
abbrev DirectoryId := List FileName

/-- What an entry stands for. -/
inductive FileNode where
  | file
  | directory (target : DirectoryId)
  deriving Repr, DecidableEq

/-- A file that has been opened: its directory and its name. -/
structure OpenedFile where
  directory : DirectoryId
  name : FileName
  deriving Repr, DecidableEq

/-- A file system with a current directory. -/
structure FileSystem where
  current : DirectoryId
  entries : DirectoryId → List (FileName × FileNode)

namespace FileSystem

/-! ## Texts of paths -/

/-- The part of a path behind its last separator. -/
def lastName (path : List Char) : FileName :=
  (path.reverse.takeWhile fun character => character ≠ '/').reverse

/-- The part of a path up to its last separator. -/
def parentPath (path : List Char) : List Char :=
  (path.reverse.dropWhile fun character => character ≠ '/').reverse

/-- The names in a path. -/
def names (path : List Char) : List FileName :=
  (path.splitOn '/').filter fun name => name ≠ []

/-- Is a path closed by a separator? -/
def Closed (path : List Char) : Prop :=
  path.getLast? = some '/'

instance (path : List Char) : Decidable (Closed path) :=
  inferInstanceAs (Decidable (_ = _))

theorem lastName_append
    (path : List Char)
    {name : FileName}
    (plain : '/' ∉ name) :
    lastName (path ++ name) = lastName path ++ name := by
  unfold lastName
  rw [List.reverse_append, List.takeWhile_append_of_pos]
  · simp
  · intro character member
    simpa using ne_of_mem_of_not_mem (List.mem_reverse.mp member) plain

theorem parentPath_append
    (path : List Char)
    {name : FileName}
    (plain : '/' ∉ name) :
    parentPath (path ++ name) = parentPath path := by
  unfold parentPath
  rw [List.reverse_append, List.dropWhile_append_of_pos]
  intro character member
  simpa using ne_of_mem_of_not_mem (List.mem_reverse.mp member) plain

theorem lastName_eq_nil_iff (path : List Char) :
    lastName path = [] ↔ path = [] ∨ Closed path := by
  rw [lastName, Closed, List.getLast?_eq_head?_reverse,
    List.reverse_eq_nil_iff, ← @List.reverse_eq_nil_iff _ path]
  cases path.reverse with
  | nil =>
      simp
  | cons last rest =>
      by_cases separator : last = '/'
      · simp [separator]
      · simp [separator]

/-! ## Walks -/

/-- What a name stands for in a directory. -/
def find
    (system : FileSystem)
    (directory : DirectoryId)
    (name : FileName) : Option FileNode :=
  if name = ".".toList then
    some (.directory directory)
  else if name = "..".toList then
    some (.directory directory.dropLast)
  else
    (system.entries directory).lookup name

/-- The directory that a name leads to. -/
def enter
    (system : FileSystem)
    (directory : DirectoryId)
    (name : FileName) : Option DirectoryId :=
  match system.find directory name with
  | some (.directory target) => some target
  | some .file | none => none

/-- The directory that names lead to one after the other. -/
def walk (system : FileSystem) :
    DirectoryId → List FileName → Option DirectoryId
  | directory, [] => some directory
  | directory, name :: rest =>
      match system.enter directory name with
      | some target => system.walk target rest
      | none => none

/-- The directory in which the last name of a path is looked up. -/
def parent (system : FileSystem) (path : List Char) : Option DirectoryId :=
  system.walk (if path.head? = some '/' then [] else system.current)
    (names (parentPath path))

/-- What a path stands for. -/
def status (system : FileSystem) (path : List Char) : Option FileNode :=
  if path = [] then
    none
  else if Closed path then
    (system.parent path).map .directory
  else
    (system.parent path).bind fun directory =>
      system.find directory (lastName path)

/-- The directory that a path stands for. -/
def directoryAt (system : FileSystem) (path : List Char) :
    Option DirectoryId :=
  match system.status path with
  | some (.directory target) => some target
  | some .file | none => none

/-- The names that a directory lists. -/
def list (system : FileSystem) (directory : DirectoryId) : List FileName :=
  (system.entries directory).map Prod.fst

theorem directoryAt_eq
    (system : FileSystem)
    {path : List Char}
    (notEmpty : path ≠ []) :
    system.directoryAt path =
      if Closed path then
        system.parent path
      else
        (system.parent path).bind fun directory =>
          system.enter directory (lastName path) := by
  rw [directoryAt, status, if_neg notEmpty]
  by_cases closed : Closed path
  · rw [if_pos closed, if_pos closed]
    cases system.parent path <;> rfl
  · rw [if_neg closed, if_neg closed]
    cases system.parent path <;> rfl

/-- A path with a separator at its end stands for the directory before it. -/
theorem directoryAt_of_closed
    (system : FileSystem)
    {path : List Char}
    (closed : Closed path) :
    system.directoryAt path = system.parent path := by
  rw [directoryAt_eq, if_pos closed]
  rintro rfl
  cases closed

/-- Names that are added to a path change nothing before its last separator. -/
theorem parent_append
    (system : FileSystem)
    {path : List Char}
    (notEmpty : path ≠ [])
    {name : FileName}
    (plain : '/' ∉ name) :
    system.parent (path ++ name) = system.parent path := by
  have sameHead : (path ++ name).head? = path.head? := by
    cases path with
    | nil =>
        exact (notEmpty rfl).elim
    | cons first rest =>
        rfl
  rw [parent, parent, parentPath_append path plain, sameHead]

/-! ## New entries -/

/-- Add an entry to a directory. -/
def addEntry
    (directory : DirectoryId)
    (name : FileName)
    (node : FileNode)
    (system : FileSystem) : FileSystem :=
  { system with
    entries :=
      Function.update system.entries directory
        ((name, node) :: system.entries directory) }

/-- May a name be given to a new entry? -/
def IsEntryName (name : FileName) : Prop :=
  name ≠ [] ∧ name ≠ ".".toList ∧ name ≠ "..".toList

instance (name : FileName) : Decidable (IsEntryName name) := by
  unfold IsEntryName
  infer_instance

/-- `mkdir`: separators at the end of the path are left out. -/
def createDirectory
    (path : List Char)
    (system : FileSystem) : Option FileSystem :=
  let trimmed :=
    (path.reverse.dropWhile fun character => character = '/').reverse
  let name := lastName trimmed
  if IsEntryName name then
    match system.parent trimmed with
    | none => none
    | some directory =>
        match system.find directory name with
        | some _ => none
        | none =>
            let made := directory ++ [name]
            let cleared :=
              { system with
                entries := Function.update system.entries made [] }
            some (cleared.addEntry directory name (.directory made))
  else
    none

/-- Open a file for appending; it is created if it is not there. -/
def openFile
    (path : List Char)
    (system : FileSystem) : Option (OpenedFile × FileSystem) :=
  let name := lastName path
  if IsEntryName name then
    match system.parent path with
    | none => none
    | some directory =>
        match system.find directory name with
        | some (.directory _) => none
        | some .file => some (⟨directory, name⟩, system)
        | none =>
            some (⟨directory, name⟩, system.addEntry directory name .file)
  else
    none

/-- Nothing but new entries that stand for files. -/
structure Extends (earlier later : FileSystem) : Prop where
  current : later.current = earlier.current
  enter : later.enter = earlier.enter
  list :
    ∀ directory, earlier.list directory ⊆ later.list directory

theorem Extends.refl (system : FileSystem) : Extends system system :=
  ⟨rfl, rfl, fun _ => List.Subset.refl _⟩

theorem Extends.trans
    {first second third : FileSystem}
    (earlier : Extends first second)
    (later : Extends second third) :
    Extends first third where
  current := later.current.trans earlier.current
  enter := later.enter.trans earlier.enter
  list directory :=
    List.Subset.trans (earlier.list directory) (later.list directory)

theorem Extends.walk
    {earlier later : FileSystem}
    (extended : Extends earlier later)
    (directory : DirectoryId)
    (path : List FileName) :
    later.walk directory path = earlier.walk directory path := by
  induction path generalizing directory with
  | nil =>
      rfl
  | cons name rest inductionHypothesis =>
      rw [FileSystem.walk, FileSystem.walk, extended.enter]
      cases earlier.enter directory name with
      | none =>
          rfl
      | some target =>
          exact inductionHypothesis target

theorem Extends.parent
    {earlier later : FileSystem}
    (extended : Extends earlier later)
    (path : List Char) :
    later.parent path = earlier.parent path := by
  rw [FileSystem.parent, FileSystem.parent, extended.current, extended.walk]

theorem Extends.directoryAt
    {earlier later : FileSystem}
    (extended : Extends earlier later)
    (path : List Char) :
    later.directoryAt path = earlier.directoryAt path := by
  by_cases empty : path = []
  · subst empty
    rfl
  · rw [directoryAt_eq later empty, directoryAt_eq earlier empty,
      extended.parent, extended.enter]

/-- An entry for a file is in nobody's way if its name has been free. -/
theorem extends_addEntry
    {system : FileSystem}
    {directory : DirectoryId}
    {name : FileName}
    (isEntryName : IsEntryName name)
    (free : system.find directory name = none) :
    Extends system (system.addEntry directory name .file) where
  current := rfl
  enter := by
    funext place other
    by_cases isNew : place = directory ∧ other = name
    · obtain ⟨rfl, rfl⟩ := isNew
      have added :
          (system.addEntry place other .file).find place other =
            some .file := by
        rw [find, if_neg isEntryName.2.1, if_neg isEntryName.2.2]
        simp [addEntry]
      rw [enter, enter, added, free]
    · have sameEntry :
          ((system.addEntry directory name .file).entries place).lookup
              other =
            (system.entries place).lookup other := by
        by_cases samePlace : place = directory
        · subst samePlace
          have otherName : (other == name) = false :=
            beq_eq_false_iff_ne.mpr fun same => isNew ⟨rfl, same⟩
          simp [addEntry, List.lookup_cons, otherName]
        · simp [addEntry, samePlace]
      rw [enter, enter, find, find, sameEntry]
  list place := by
    intro other listed
    by_cases samePlace : place = directory
    · subst samePlace
      simpa [list, addEntry] using .inr (by simpa [list] using listed)
    · simpa [list, addEntry, samePlace] using listed

/-- What opening a file has done. -/
structure Opens
    (path : List Char)
    (before : FileSystem)
    (opened : OpenedFile)
    (after : FileSystem) : Prop where
  parent : before.parent path = some opened.directory
  name : opened.name = lastName path
  listed : opened.name ∈ after.list opened.directory
  extended : Extends before after

theorem opens_of_openFile
    {path : List Char}
    {before after : FileSystem}
    {opened : OpenedFile}
    (done : before.openFile path = some (opened, after)) :
    Opens path before opened after := by
  simp only [openFile] at done
  by_cases isEntryName : IsEntryName (lastName path)
  · rw [if_pos isEntryName] at done
    split at done
    · cases done
    · next directory isParent =>
        split at done
        · cases done
        · next isFile =>
            cases done
            refine ⟨isParent, rfl, ?_, .refl _⟩
            rw [find, if_neg isEntryName.2.1, if_neg isEntryName.2.2]
              at isFile
            obtain ⟨front, back, shape, _⟩ := List.lookup_eq_some_iff.mp isFile
            simp [list, shape]
        · next free =>
            cases done
            refine ⟨isParent, rfl, ?_, extends_addEntry isEntryName free⟩
            simp [list, addEntry]
  · rw [if_neg isEntryName] at done
    cases done

end FileSystem
