import Mathlib.Logic.Function.Basic
import Radar.ConfigFailures

namespace Radar.ConfigStore

/-!
# Saving and loading a configuration

`save_config` appends the name of a file to the path, `load_config` joins the
two with a separator.  They mean the same file if the path has the separator
already, or if both texts happen to lead to one file.
-/

/--
What is documented of `operator/`: a separator is added behind a directory
that has none.  What it does with a name that begins with a separator depends
on the version of the library.
-/
def AddsSeparator (joinPath : List Char → List Char → List Char) : Prop :=
  ∀ directory file, directory ≠ [] → file ≠ [] → file.head? ≠ some '/' →
    joinPath directory file =
      if directory.getLast? = some '/' then
        directory ++ file
      else
        directory ++ '/' :: file

/--
The file system: different texts may lead to one file, as `.` and links do,
and the empty text is the path of no directory.
-/
structure Disk where
  canonical : List Char → List Char
  contents : List Char → FileStatus
  status : List Char → PathStatus
  emptyPath : status [] ≠ .directory

/-- What is read at a path. -/
def Disk.files (disk : Disk) (path : List Char) : FileStatus :=
  disk.contents (disk.canonical path)

/-- Write a file. -/
def Disk.write (disk : Disk) (path text : List Char) : Disk :=
  { disk with
    contents :=
      Function.update disk.contents (disk.canonical path) (.contents text) }

/-- `save_config` and then `load_config` with the same name. -/
def saveAndLoad
    (parser : Json.Parser)
    (joinPath : List Char → List Char → List Char)
    (write : Json → List Char)
    (disk : Disk)
    (configName : List Char)
    (store : ConfigStore) :
    Except ConfigFailure Unit × ConfigStore :=
  match store.saveConfig write none configName with
  | .error failure => (.error failure, store)
  | .ok (path, text) =>
      store.loadConfig parser joinPath (disk.write path text).files configName

/-- Both succeed and the manager has the same document. -/
def RoundTrips
    (parser : Json.Parser)
    (joinPath : List Char → List Char → List Char)
    (write : Json → List Char)
    (disk : Disk)
    (configName : List Char)
    (store : ConfigStore) :
    Prop :=
  let result := store.saveAndLoad parser joinPath write disk configName
  result.1 = .ok () ∧ result.2.jsonConfig = store.jsonConfig

/-- A file that can be read as a document. -/
def ReadsAs
    (parser : Json.Parser)
    (files : List Char → FileStatus)
    (path : List Char)
    (document : Json) :
    Prop :=
  ∃ text,
    files path = .contents text ∧
      parser.parse (Client.cString text) = some document

/-- When the document of a file is loaded. -/
theorem loadConfig_reads_iff
    {parser : Json.Parser}
    {joinPath : List Char → List Char → List Char}
    {files : List Char → FileStatus}
    {configName : List Char}
    {store : ConfigStore}
    {document : Json}
    (isObject : document.isObject = true) :
    ((store.loadConfig parser joinPath files configName).1 = .ok () ∧
        (store.loadConfig parser joinPath files configName).2.jsonConfig =
          document) ↔
      ReadsAs parser files (store.loadPath joinPath configName) document := by
  unfold loadConfig ReadsAs
  cases files (store.loadPath joinPath configName) with
  | missing => simp
  | unreadable => simp
  | failed what => simp
  | contents text =>
      simp only [FileStatus.contents.injEq, exists_eq_left']
      cases parsed : parser.parse (Client.cString text) with
      | none => simp [parseObject, parsed]
      | some temp =>
          cases object : temp.isObject with
          | true =>
              have found : parseObject parser text = some temp := by
                rw [parseObject, parsed, Option.filter_some_pos object]
              simp [found]
          | false =>
              have notFound : parseObject parser text = none := by
                rw [parseObject, parsed,
                  Option.filter_some_neg (by simp [object])]
              have other : temp ≠ document := by
                rintro rfl
                rw [isObject] at object
                cases object
              simp [notFound, other]

/-- When both functions form the same text, for a name that begins a file. -/
theorem savePath_eq_loadPath_iff
    {joinPath : List Char → List Char → List Char}
    (joins : AddsSeparator joinPath)
    {store : ConfigStore}
    (notEmpty : store.path ≠ [])
    {configName : List Char}
    (isRelative : configName.head? ≠ some '/') :
    store.savePath configName = store.loadPath joinPath configName ↔
      store.path.getLast? = some '/' := by
  have first : (fileName configName).head? ≠ some '/' := by
    cases configName with
    | nil => decide
    | cons character later => exact isRelative
  have hasName : fileName configName ≠ [] := by simp [fileName]
  rw [savePath, loadPath, joins _ _ notEmpty hasName first]
  split
  case isTrue separated => exact iff_of_true rfl separated
  case isFalse notSeparated =>
    refine iff_of_false (fun same => ?_) notSeparated
    have lengths := congrArg List.length same
    simp at lengths

/--
A configuration is saved and loaded again exactly if the path has the
separator at its end, or the paths of both functions lead to one file anyway,
or the file that is loaded happens to have the same document.
-/
theorem roundTrips_iff
    {parser : Json.Parser}
    {joinPath : List Char → List Char → List Char}
    {write : Json → List Char}
    {disk : Disk}
    {store : ConfigStore}
    (joins : AddsSeparator joinPath)
    (accepted : disk.status store.path = .directory)
    (loaded : store.configLoaded = true)
    (holdsObject : HoldsObject store)
    (inverse :
      parser.parse (Client.cString (write store.jsonConfig)) =
        some store.jsonConfig)
    (configName : List Char) :
    RoundTrips parser joinPath write disk configName store ↔
      (store.path.getLast? = some '/' ∧ configName.head? ≠ some '/') ∨
        disk.canonical (store.path ++ fileName configName) =
          disk.canonical (joinPath store.path (fileName configName)) ∨
        ReadsAs parser disk.files (joinPath store.path (fileName configName))
          store.jsonConfig := by
  have notEmpty : store.path ≠ [] := by
    intro empty
    rw [empty] at accepted
    exact disk.emptyPath accepted
  have saved :
      store.saveConfig write none configName =
        .ok
          (store.savePath configName,
            Client.cString (write store.jsonConfig)) := by
    rw [saveConfig, loaded]
    rfl
  have separated :
      store.path.getLast? = some '/' ∧ configName.head? ≠ some '/' →
        store.savePath configName = store.loadPath joinPath configName :=
    fun ⟨ends, isRelative⟩ =>
      (savePath_eq_loadPath_iff joins notEmpty isRelative).mpr ends
  change _ ↔
    _ ∨ disk.canonical (store.savePath configName) =
        disk.canonical (store.loadPath joinPath configName) ∨
      ReadsAs parser disk.files (store.loadPath joinPath configName) _
  rw [RoundTrips, saveAndLoad, saved]
  dsimp only
  rw [loadConfig_reads_iff (holdsObject loaded), ReadsAs, ReadsAs]
  unfold Disk.write Disk.files
  dsimp only
  by_cases same :
      disk.canonical (store.savePath configName) =
        disk.canonical (store.loadPath joinPath configName)
  · rw [← same, Function.update_self]
    refine iff_of_true ⟨_, rfl, ?_⟩ (.inr (.inl rfl))
    rw [Client.cString_of_nulFree (Client.nulFree_cString _), inverse]
  · rw [Function.update_of_ne (Ne.symm same)]
    have notSeparated := mt (fun ends => congrArg _ (separated ends)) same
    simp [same, notSeparated]

/-- A separator is added unless one of the two sides has one. -/
def joinTexts (directory file : List Char) : List Char :=
  if directory = [] ∨ directory.getLast? = some '/' ∨ file.head? = some '/' then
    directory ++ file
  else
    directory ++ '/' :: file

theorem addsSeparator_joinTexts : AddsSeparator joinTexts := by
  intro directory file hasDirectory _ isRelative
  simp [joinTexts, hasDirectory, isRelative]

/-- A disk with the directory `etc` and no files. -/
def etcDisk : Disk where
  canonical path := path
  contents _ := .missing
  status path :=
    if path = "etc".toList ∨ path = "etc/".toList then
      .directory
    else
      .missing
  emptyPath := by decide

/-- The text of the configuration that is saved. -/
def loggerText (_ : Json) : List Char :=
  "\x7b\n    \"logger\": true\n\x7d".toList

/-- A manager with a configuration and a path. -/
def loggerStore (path : List Char) : ConfigStore where
  jsonConfig := .object [("logger", .bool true)]
  configLoaded := true
  configName := "config01".toList
  path := path

theorem holdsObject_loggerStore (path : List Char) :
    HoldsObject (loggerStore path) :=
  fun _ => rfl

theorem document_loggerText (document : Json) :
    Json.Document (loggerText document) (.object [("logger", .bool true)]) := by
  have indent : Json.Blank "\n    ".toList := by decide
  have newline : Json.Blank "\n".toList := by decide
  have name := Json.SpellsString.plain "logger" (by simp)
  have member :=
    Json.Spells.lastMember indent name Json.Blank.nil Json.Blank.space
      Json.Spells.boolTrue newline
  exact
    Json.Document.document Json.Blank.nil (Json.Spells.object member)
      Json.Blank.nil

theorem loggerText_inverse (path : List Char) :
    Json.Parser.recursiveDescent.parse
        (Client.cString (loggerText (loggerStore path).jsonConfig)) =
      some (loggerStore path).jsonConfig := by
  have document := document_loggerText (loggerStore path).jsonConfig
  rw [Client.cString_of_nulFree document.nulFree]
  exact Json.Parser.recursiveDescent.complete document

/-- With a separator at the end of the path the configuration is loaded. -/
theorem roundTrips_etc :
    RoundTrips Json.Parser.recursiveDescent joinTexts loggerText etcDisk
      "config03".toList (loggerStore "etc/".toList) :=
  (roundTrips_iff addsSeparator_joinTexts (by decide) rfl
    (holdsObject_loggerStore _) (loggerText_inverse _) _).mpr
    (.inl ⟨by decide, by decide⟩)

/-- Without one it is written to another file. -/
theorem etc_not_roundTrips :
    ¬ ∀ (parser : Json.Parser)
        (joinPath : List Char → List Char → List Char)
        (write : Json → List Char)
        (disk : Disk)
        (store : ConfigStore)
        (configName : List Char),
      AddsSeparator joinPath →
        disk.status store.path = .directory →
        store.configLoaded = true →
        HoldsObject store →
        parser.parse (Client.cString (write store.jsonConfig)) =
            some store.jsonConfig →
          RoundTrips parser joinPath write disk configName store := by
  intro claim
  have trips :=
    claim Json.Parser.recursiveDescent joinTexts loggerText etcDisk
      (loggerStore "etc".toList) "config03".toList addsSeparator_joinTexts
      (by decide) rfl (holdsObject_loggerStore _) (loggerText_inverse _)
  have fails :
      (saveAndLoad Json.Parser.recursiveDescent joinTexts loggerText etcDisk
        "config03".toList (loggerStore "etc".toList)).1.toOption = none := by
    decide
  rw [trips.1] at fails
  cases fails

end Radar.ConfigStore
