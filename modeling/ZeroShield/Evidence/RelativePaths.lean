import ZeroShield.Evidence.Manifest
import ZeroShield.Foundation.PathGrammar

/-!
# Relative paths

The check of a relative path in both path grammars.  A path which passes stays under every absolute
directory it is joined to, except on Windows, where a path which is relative to a drive passes.
-/

namespace ZeroShield.Evidence

open Foundation Models

/-- Absolute paths, drive letters and parent segments are unsafe, in either grammar. -/
def isUnsafeRelativePathIn (flavour : Flavour) (path : LexicalPath) : Bool :=
  flavour.isAbsolute path || startsWithDriveLetter (flavour.str path).toList ||
    (match (flavour.str path).toList with
      | first :: _ => first = '/' || first = '\\'
      | [] => false) ||
    path.parts.contains ".."

/-- A text which names a drive of Windows without a root. -/
def DriveRelative (flavour : Flavour) (text : String) : Prop :=
  match flavour with
  | .posix => False
  | .windows _ => text.toList[1]? = some ':'

/-! ## POSIX -/

/-- The split form of a path of POSIX. -/
def posixPath (path : PurePath) : LexicalPath where
  drive := ""
  root := path.root
  tail := path.parts

/-- What a text is read as, once it is split. -/
theorem parsePath_of_splitroot (flavour : Flavour) {text : String} {drive root rest : List Char}
    (split : flavour.splitroot (flavour.replaceSeparators text.toList) = (drive, root, rest)) :
    flavour.parsePath text =
      { drive := String.ofList drive
        root := String.ofList (if root = [] then flavour.shareRoot drive else root)
        tail := ((rest.splitOn flavour.separator).map String.ofList).filter fun part =>
          part ≠ "" ∧ part ≠ "." } := by
  rw [Flavour.parsePath, split]

/-- Separators at the start of a text add no segment. -/
theorem segments_cons (text : List Char) :
    PurePath.segments ('/' :: text) = PurePath.segments text := by
  have split : ('/' :: text).splitOn '/' = [] :: text.splitOn '/' := by
    rw [List.splitOn, List.splitOnP_cons_eq_if_modifyHead]
    rfl
  rw [PurePath.segments, split, List.map_cons, List.filter_cons_of_neg (by simp)]
  rfl

theorem parsePath_posix (text : String) :
    Flavour.posix.parsePath text = posixPath (PurePath.ofString text) := by
  have read {root rest : List Char} (split : posixSplitroot text.toList = ([], root, rest)) :
      Flavour.posix.parsePath text = ⟨"", String.ofList root, PurePath.segments rest⟩ := by
    rw [parsePath_of_splitroot .posix split]
    cases root <;> rfl
  rw [PurePath.ofString]
  split
  next rest long =>
    have opened : posixSplitroot text.toList = ([], ['/'], '/' :: '/' :: rest) := by
      simp [posixSplitroot, long]
    rw [read opened, segments_cons, segments_cons]
    rfl
  next rest other double =>
    have opened : posixSplitroot text.toList = ([], ['/', '/'], rest) := by
      simp_all [posixSplitroot]
    rw [read opened]
    rfl
  next rest other _ single =>
    have opened : posixSplitroot text.toList = ([], ['/'], rest) := by
      simp_all [posixSplitroot]
    rw [read opened]
    rfl
  next =>
    have opened : posixSplitroot text.toList = ([], [], text.toList) := by
      simp_all [posixSplitroot]
    rw [read opened]
    rfl

theorem str_posix (path : PurePath) : Flavour.posix.str (posixPath path) = path.str := by
  have plain (text : List Char) : (Flavour.posix.splitroot text).1 = [] := by
    rw [Flavour.splitroot]
    unfold posixSplitroot
    split <;> rfl
  obtain ⟨root, parts⟩ := path
  by_cases rooted : root = ""
  · subst rooted
    cases parts with
    | nil => rfl
    | cons first rest => simp [Flavour.str, posixPath, PurePath.str, plain]; rfl
  · simp [Flavour.str, posixPath, PurePath.str, rooted]; rfl

/-- On POSIX the check is the one of the models. -/
theorem isUnsafeRelativePathIn_posix (path : PurePath) :
    isUnsafeRelativePathIn .posix (posixPath path) = isUnsafeRelativePath path := by
  rw [isUnsafeRelativePathIn, isUnsafeRelativePath, str_posix]
  by_cases rooted : path.root = ""
  · have parts : (posixPath path).parts = path.parts := by
      simp [LexicalPath.parts, posixPath, rooted]
    rw [parts]
    rfl
  · have absolute : Flavour.posix.isAbsolute (posixPath path) = true := by
      simp [Flavour.isAbsolute, posixPath, rooted]
    simp [absolute, rooted]

/-! ## Accepted paths -/

/-- A path whose drive and root start with a separator is unsafe. -/
theorem unsafe_of_anchor {flavour : Flavour} {path : LexicalPath}
    (anchor : (path.drive ++ path.root).toList.head? = some '\\') :
    isUnsafeRelativePathIn flavour path = true := by
  have anchored : path.drive ≠ "" ∨ path.root ≠ "" := by
    by_contra bare
    rw [not_or, not_not, not_not] at bare
    rw [bare.1, bare.2] at anchor
    cases anchor
  have starts : (flavour.str path).toList.head? = some '\\' := by
    rw [Flavour.str, if_pos anchored, String.toList_append, List.head?_append, anchor]
    rfl
  obtain ⟨rest, written⟩ := List.head?_eq_some_iff.mp starts
  simp [isUnsafeRelativePathIn, written]

/-- A path with parent segments is unsafe. -/
theorem unsafe_of_parent {flavour : Flavour} {path : LexicalPath} (parent : ".." ∈ path.tail) :
    isUnsafeRelativePathIn flavour path = true := by
  have listed : ".." ∈ path.parts := by
    unfold LexicalPath.parts
    split
    · exact List.mem_cons_of_mem _ parent
    · exact parent
  simp [isUnsafeRelativePathIn, listed]

theorem unsafe_of_absolute {flavour : Flavour} {path : LexicalPath}
    (absolute : flavour.isAbsolute path = true) : isUnsafeRelativePathIn flavour path = true := by
  simp [isUnsafeRelativePathIn, absolute]

/-- The anchor of a text which starts with a separator starts with it. -/
theorem anchor_windows (letters : LowerCase) {text : String} {rest : List Char}
    (starts : (Flavour.windows letters).replaceSeparators text.toList = '\\' :: rest) :
    ((((Flavour.windows letters).parsePath text).drive ++
      ((Flavour.windows letters).parsePath text).root).toList).head? = some '\\' := by
  have head := head?_ntSplitroot rest
  rcases split : ntSplitroot ('\\' :: rest) with ⟨drive, root, tail⟩
  rw [split] at head
  have read := parsePath_of_splitroot (.windows letters)
    ((congrArg ntSplitroot starts).trans split)
  rw [read, String.toList_append, String.toList_ofList, String.toList_ofList]
  by_cases bare : root = []
  · rw [bare, List.append_nil] at head
    rw [List.head?_append, head]
    rfl
  · rwa [if_neg bare]

/-- The second character is a colon before separators are replaced exactly when it is after. -/
theorem second_replaceSeparators (letters : LowerCase) (text : List Char) :
    ((Flavour.windows letters).replaceSeparators text)[1]? = some ':' ↔ text[1]? = some ':' := by
  have kept (c : Char) : (if c = '/' then '\\' else c) = ':' ↔ c = ':' := by
    split
    next slash => simp [slash]
    next => rfl
  rw [Flavour.replaceSeparators, List.getElem?_map]
  cases text[1]? with
  | none => rfl
  | some c => rw [Option.map_some, Option.some.injEq, Option.some.injEq, kept]

/-- An accepted path of Windows has no root, and a drive if its second character is a colon. -/
theorem windows_spec (letters : LowerCase) (text : String)
    (accepted : isUnsafeRelativePathIn (.windows letters)
      ((Flavour.windows letters).parsePath text) = false) :
    ((Flavour.windows letters).parsePath text).root = "" ∧
      (((Flavour.windows letters).parsePath text).drive = "" ↔ text.toList[1]? ≠ some ':') := by
  have read {drive root rest : List Char} (split : ntSplitroot
      ((Flavour.windows letters).replaceSeparators text.toList) = (drive, root, rest)) :=
    parsePath_of_splitroot (.windows letters) split
  rw [ne_eq, ← second_replaceSeparators letters]
  rcases chars : (Flavour.windows letters).replaceSeparators text.toList with
    _ | ⟨first, behind⟩
  · rw [read (congrArg ntSplitroot chars)]
    exact ⟨rfl, by simp⟩
  have name : first ≠ '\\' := by
    rintro rfl
    rw [unsafe_of_anchor (anchor_windows letters chars)] at accepted
    cases accepted
  rcases behind with _ | ⟨second, behind⟩
  · have bare : ntSplitroot [first] = ([], [], [first]) := by simp [ntSplitroot, name]
    rw [read ((congrArg ntSplitroot chars).trans bare)]
    exact ⟨rfl, by simp⟩
  by_cases colon : second = ':'
  · subst colon
    by_cases rooted : behind.head? = some '\\'
    · obtain ⟨behind, rfl⟩ := List.head?_eq_some_iff.mp rooted
      have anchored : ntSplitroot (first :: ':' :: '\\' :: behind) =
          ([first, ':'], ['\\'], behind) := by
        simp [ntSplitroot]
      rw [read ((congrArg ntSplitroot chars).trans anchored),
        unsafe_of_absolute (by simp [Flavour.isAbsolute])] at accepted
      cases accepted
    · have relative : ntSplitroot (first :: ':' :: behind) = ([first, ':'], [], behind) := by
        cases behind with
        | nil => simp [ntSplitroot]
        | cons third behind =>
            have follows : third ≠ '\\' := fun same => rooted (congrArg some same)
            simp [ntSplitroot, follows]
      have unshared : (Flavour.windows letters).shareRoot [first, ':'] = [] := by
        simp [Flavour.shareRoot, Flavour.separator, name]
      rw [read ((congrArg ntSplitroot chars).trans relative), if_pos rfl, unshared]
      exact ⟨rfl, by simp⟩
  · have bare : ntSplitroot (first :: second :: behind) = ([], [], first :: second :: behind) := by
      simp [ntSplitroot, name, colon]
    rw [read ((congrArg ntSplitroot chars).trans bare)]
    exact ⟨rfl, by simp [colon]⟩

/-- An accepted path has neither a root nor parent segments, and a drive only if it is relative to
one. -/
theorem accepted_spec {flavour : Flavour} {text : String}
    (accepted : isUnsafeRelativePathIn flavour (flavour.parsePath text) = false) :
    (flavour.parsePath text).root = "" ∧ ".." ∉ (flavour.parsePath text).tail ∧
      ((flavour.parsePath text).drive = "" ↔ ¬ DriveRelative flavour text) := by
  have plain : ".." ∉ (flavour.parsePath text).tail := by
    intro parent
    rw [unsafe_of_parent parent] at accepted
    cases accepted
  cases flavour with
  | posix =>
      refine ⟨?_, plain, ?_⟩
      · by_contra rooted
        rw [unsafe_of_absolute (by simp [Flavour.isAbsolute, rooted])] at accepted
        cases accepted
      · rw [parsePath_posix]
        simp [posixPath, DriveRelative]
  | windows letters =>
      obtain ⟨root, drive⟩ := windows_spec letters text accepted
      exact ⟨root, plain, drive⟩

/-- An accepted path stays under every absolute directory exactly when it is not relative to a
drive. -/
theorem staysUnder_iff (flavour : Flavour) (text : String)
    (accepted : isUnsafeRelativePathIn flavour (flavour.parsePath text) = false) :
    (∀ directory : String, flavour.isAbsolute (flavour.parsePath directory) = true →
      flavour.Under (flavour.parsePath directory).normalise
        (flavour.join (flavour.parsePath directory) (flavour.parsePath text)).normalise) ↔
      ¬ DriveRelative flavour text := by
  obtain ⟨root, plain, drive⟩ := accepted_spec accepted
  rw [← drive]
  constructor
  · intro under
    by_contra named
    cases flavour with
    | posix =>
        rw [parsePath_posix] at named
        exact named rfl
    | windows letters =>
        have c : (Flavour.windows letters).parsePath "C:\\" = ⟨"C:", "\\", []⟩ := rfl
        have d : (Flavour.windows letters).parsePath "D:\\" = ⟨"D:", "\\", []⟩ := rfl
        have apart : letters.convert "C:" ≠ letters.convert "D:" := by
          rw [letters.convert_ascii "C:" (by decide), letters.convert_ascii "D:" (by decide)]
          decide
        by_cases other : letters.convert ((Flavour.windows letters).parsePath text).drive =
            letters.convert "C:"
        · refine Flavour.not_under_join _ named root ?_ (under "D:\\" (by rw [d]; rfl))
          rw [d]
          exact fun same => apart (other.symm.trans same)
        · refine Flavour.not_under_join _ named root ?_ (under "C:\\" (by rw [c]; rfl))
          rwa [c]
  · exact fun bare directory _ => flavour.under_join bare root plain

/-- The path of a dataset of Windows which has no drive. -/
theorem staysUnder_iff_of_plain :
    isUnsafeRelativePathIn (.windows .ascii)
        ((Flavour.windows .ascii).parsePath "test_data\\dataset.yaml") = false ∧
      ((∀ directory : String,
        (Flavour.windows .ascii).isAbsolute ((Flavour.windows .ascii).parsePath directory) = true →
          (Flavour.windows .ascii).Under ((Flavour.windows .ascii).parsePath directory).normalise
            ((Flavour.windows .ascii).join ((Flavour.windows .ascii).parsePath directory)
              ((Flavour.windows .ascii).parsePath "test_data\\dataset.yaml")).normalise) ↔
        ¬ DriveRelative (.windows .ascii) "test_data\\dataset.yaml") := by
  have accepted : isUnsafeRelativePathIn (.windows .ascii)
      ((Flavour.windows .ascii).parsePath "test_data\\dataset.yaml") = false := by decide
  exact ⟨accepted, staysUnder_iff (.windows .ascii) "test_data\\dataset.yaml" accepted⟩

/-- A path which is relative to another drive is accepted, and leaves the directory. -/
theorem not_staysUnder_of_driveRelative :
    isUnsafeRelativePathIn (.windows .ascii)
        ((Flavour.windows .ascii).parsePath "D:dataset.yaml") = false ∧
      (Flavour.windows .ascii).isAbsolute ((Flavour.windows .ascii).parsePath "C:\\work") = true ∧
      ¬ (Flavour.windows .ascii).Under
        ((Flavour.windows .ascii).parsePath "C:\\work").normalise
        ((Flavour.windows .ascii).join ((Flavour.windows .ascii).parsePath "C:\\work")
          ((Flavour.windows .ascii).parsePath "D:dataset.yaml")).normalise :=
  ⟨by decide, by decide, fun under => absurd under.drive (by decide)⟩

/-! ## Fields -/

/-- A path of POSIX which is accepted has neither a root nor parent segments. -/
theorem posixPath_spec {path : PurePath} (accepted : isUnsafeRelativePath path = false) :
    (posixPath path).root = "" ∧ ".." ∉ (posixPath path).tail := by
  rw [← isUnsafeRelativePathIn_posix] at accepted
  constructor
  · by_contra rooted
    rw [unsafe_of_absolute (by simp [Flavour.isAbsolute, rooted])] at accepted
    cases accepted
  · intro parent
    rw [unsafe_of_parent parent] at accepted
    cases accepted

/-- The dataset of a valid definition stays under the working directory. -/
theorem datasetPath_under {definition : ExperimentDefinition} (valid : definition.errors = [])
    (directory : LexicalPath) :
    Flavour.posix.Under directory.normalise
      (Flavour.posix.join directory (posixPath definition.datasetPath)).normalise := by
  have fields := (fieldsThenModel_eq_nil.mp valid).1
  simp only [ExperimentDefinition.fieldErrors, List.append_eq_nil_iff, require_eq_nil,
    Bool.not_eq_true'] at fields
  obtain ⟨root, plain⟩ := posixPath_spec fields.1.1.2
  exact Flavour.posix.under_join rfl root plain

/-- Artefacts with accepted paths stay under the directory of the run. -/
theorem artefactPaths_under {paths : List (String × PurePath)}
    (valid : artefactPathsMustBeRelative paths = []) (directory : LexicalPath) :
    ∀ artefact ∈ paths, Flavour.posix.Under directory.normalise
      (Flavour.posix.join directory (posixPath artefact.2)).normalise := by
  intro artefact listed
  have accepted : isUnsafeRelativePath artefact.2 = false := by
    simp only [artefactPathsMustBeRelative, require_eq_nil, List.isEmpty_iff, List.map_eq_nil_iff,
      List.filter_eq_nil_iff, Bool.not_eq_true] at valid
    exact valid artefact listed
  obtain ⟨root, plain⟩ := posixPath_spec accepted
  exact Flavour.posix.under_join rfl root plain

end ZeroShield.Evidence
