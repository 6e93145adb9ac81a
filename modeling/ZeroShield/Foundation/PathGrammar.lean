import ZeroShield.Foundation.Text

/-!
# Path grammars

The rules of POSIX and of Windows split a text into a drive, a root and segments.  A path with
neither drive nor root and without parent segments stays under the directory which it is joined
to, also when parent segments are resolved.
-/

namespace ZeroShield.Foundation

/-- A conversion to lower case, on ASCII texts that of ASCII. -/
structure LowerCase where
  /-- The text in lower case. -/
  convert : String → String
  convert_ascii (text : String) (ascii : ∀ c ∈ text.toList, c.toNat < 128) :
    convert text = lower text

/-- The conversion which leaves other letters alone. -/
def LowerCase.ascii : LowerCase where
  convert := lower
  convert_ascii _ _ := rfl

/-- The grammars of paths; Windows compares drives in lower case. -/
inductive Flavour
  | posix
  | windows (letters : LowerCase)

/-- A path which is split: its drive, its root and its segments. -/
structure LexicalPath where
  /-- A letter with a colon, a shared folder or nothing. -/
  drive : String
  /-- The root, empty for a path which is relative to a directory. -/
  root : String
  /-- The segments, none of them empty or a single dot. -/
  tail : List String
  deriving DecidableEq, Repr

/-! ## Splitting -/

/-- Exactly two leading slashes are a root of their own. -/
def posixSplitroot : List Char → List Char × List Char × List Char
  | '/' :: '/' :: '/' :: tail => ([], ['/'], '/' :: '/' :: tail)
  | '/' :: '/' :: tail => ([], ['/', '/'], tail)
  | '/' :: tail => ([], ['/'], tail)
  | tail => ([], [], tail)

/-- A shared folder or a device is a drive, up to the separator behind its second name. -/
def splitShare (text : List Char) : List Char × List Char × List Char :=
  let start := if (text.take 8).map Char.toUpper = "\\\\?\\UNC\\".toList then 8 else 2
  match (text.drop start).dropWhile (· ≠ '\\') with
  | [] => (text, [], [])
  | _ :: share =>
      match share.dropWhile (· ≠ '\\') with
      | [] => (text, [], [])
      | mark :: tail => (text.take (text.length - (tail.length + 1)), [mark], tail)

/-- A character with a colon is a drive, with or without a root behind it. -/
def ntSplitroot : List Char → List Char × List Char × List Char
  | '\\' :: '\\' :: rest => splitShare ('\\' :: '\\' :: rest)
  | '\\' :: tail => ([], ['\\'], tail)
  | letter :: ':' :: '\\' :: tail => ([letter, ':'], ['\\'], tail)
  | letter :: ':' :: tail => ([letter, ':'], [], tail)
  | tail => ([], [], tail)

namespace Flavour

/-- The character between segments. -/
def separator : Flavour → Char
  | posix => '/'
  | windows _ => '\\'

/-- Write every separator in the same way. -/
def replaceSeparators : Flavour → List Char → List Char
  | posix, text => text
  | windows _, text => text.map fun c => if c = '/' then '\\' else c

/-- The drive, the root and the rest of a text. -/
def splitroot : Flavour → List Char → List Char × List Char × List Char
  | posix => posixSplitroot
  | windows _ => ntSplitroot

/-- The root of a shared folder with nothing behind it. -/
def shareRoot (flavour : Flavour) (drive : List Char) : List Char :=
  let names := drive.splitOn flavour.separator
  if drive.head? = some flavour.separator ∧ drive.getLast? ≠ some flavour.separator ∧
      (names.length = 4 ∧ names[2]? ∉ [some [], some ['?'], some ['.'], some ['?', '.']] ∨
        names.length = 6) then
    [flavour.separator]
  else
    []

/-- Read a path. -/
def parsePath (flavour : Flavour) (text : String) : LexicalPath :=
  let (drive, root, rest) := flavour.splitroot (flavour.replaceSeparators text.toList)
  let root := if root = [] then flavour.shareRoot drive else root
  { drive := String.ofList drive
    root := String.ofList root
    tail := ((rest.splitOn flavour.separator).map String.ofList).filter fun part =>
      part ≠ "" ∧ part ≠ "." }

/-- Write a path; a first segment which would be read as a drive stands behind a dot. -/
def str (flavour : Flavour) (path : LexicalPath) : String :=
  let between := String.singleton flavour.separator
  if path.drive ≠ "" ∨ path.root ≠ "" then
    path.drive ++ path.root ++ String.intercalate between path.tail
  else
    match path.tail with
    | [] => "."
    | first :: rest =>
        if (flavour.splitroot first.toList).1 ≠ [] then
          String.intercalate between ("." :: first :: rest)
        else
          String.intercalate between (first :: rest)

/-- A drive alone does not make a path absolute, nor does a root on Windows. -/
def isAbsolute (flavour : Flavour) (path : LexicalPath) : Bool :=
  match flavour with
  | posix => path.root ≠ ""
  | windows _ => path.drive ≠ "" && path.root ≠ ""

/-- The text by which drives compare. -/
def normcase : Flavour → String → String
  | posix => id
  | windows letters => letters.convert

/-- Join a path to another one: a root and a drive of another name replace what was before. -/
def join (flavour : Flavour) (path other : LexicalPath) : LexicalPath :=
  if other.root ≠ "" then
    { other with drive := if other.drive ≠ "" ∨ path.drive = "" then other.drive else path.drive }
  else if other.drive ≠ "" ∧ other.drive ≠ path.drive then
    if flavour.normcase other.drive ≠ flavour.normcase path.drive then
      other
    else
      { path with drive := other.drive, tail := path.tail ++ other.tail }
  else
    { path with tail := path.tail ++ other.tail }

/-- The path is that of the directory or lies below it. -/
structure Under (flavour : Flavour) (directory path : LexicalPath) : Prop where
  drive : flavour.normcase path.drive = flavour.normcase directory.drive
  root : path.root = directory.root
  tail : directory.tail <+: path.tail

end Flavour

namespace LexicalPath

/-- The segments, behind the drive and the root. -/
def parts (path : LexicalPath) : List String :=
  if path.drive ≠ "" ∨ path.root ≠ "" then (path.drive ++ path.root) :: path.tail else path.tail

/-- Add a segment to the segments before it, the last of them first: a parent segment removes the
last one, and there is nothing above a root. -/
def resolve (rooted : Bool) (before : List String) (part : String) : List String :=
  if part = ".." then
    match before with
    | [] => if rooted then [] else [".."]
    | last :: rest => if last = ".." then ".." :: last :: rest else rest
  else
    part :: before

/-- Resolve the parent segments. -/
def normalise (path : LexicalPath) : LexicalPath :=
  { path with tail := (path.tail.foldl (resolve (path.root ≠ "")) []).reverse }

theorem foldl_resolve {rooted : Bool} {parts : List String} (plain : ".." ∉ parts)
    (before : List String) : parts.foldl (resolve rooted) before = parts.reverse ++ before := by
  induction parts generalizing before with
  | nil => rfl
  | cons part parts ih =>
      have segment : part ≠ ".." := fun parent => plain (parent ▸ List.mem_cons_self)
      have kept : resolve rooted before part = part :: before := by simp [resolve, segment]
      rw [List.foldl_cons, kept, ih (List.not_mem_of_not_mem_cons plain), List.reverse_cons,
        List.append_assoc, List.singleton_append]

/-- Plain segments stay behind those which are resolved. -/
theorem normalise_append (path : LexicalPath) {parts : List String} (plain : ".." ∉ parts) :
    normalise { path with tail := path.tail ++ parts } =
      { path with tail := path.normalise.tail ++ parts } := by
  simp only [normalise, List.foldl_append, foldl_resolve plain, List.reverse_append,
    List.reverse_reverse]

end LexicalPath

/-! ## Joining -/

namespace Flavour

variable (flavour : Flavour) {path other : LexicalPath}

theorem join_relative (drive : other.drive = "") (root : other.root = "") :
    flavour.join path other = { path with tail := path.tail ++ other.tail } := by
  simp [join, drive, root]

/-- A path with neither drive nor root and without parent segments stays under the directory. -/
theorem under_join (drive : other.drive = "") (root : other.root = "") (plain : ".." ∉ other.tail) :
    flavour.Under path.normalise (flavour.join path other).normalise := by
  rw [flavour.join_relative drive root, path.normalise_append plain]
  exact ⟨rfl, rfl, List.prefix_append _ _⟩

/-- A path with a drive of another name is taken alone. -/
theorem not_under_join (drive : other.drive ≠ "") (root : other.root = "")
    (apart : flavour.normcase other.drive ≠ flavour.normcase path.drive) :
    ¬ flavour.Under path.normalise (flavour.join path other).normalise := by
  have different : other.drive ≠ path.drive := fun same => apart (congrArg _ same)
  have alone : flavour.join path other = other := by
    simp [join, drive, root, different, apart]
  rw [alone]
  exact fun under => apart under.drive

end Flavour

/-! ## Anchors -/

theorem dropWhile_eq_cons {chars tail : List Char} {keep : Char → Bool} {mark : Char}
    (found : chars.dropWhile keep = mark :: tail) : mark :: tail <:+ chars :=
  found ▸ List.dropWhile_suffix keep

/-- What is split off a share, and the rest, make up the text. -/
theorem splitShare_append (text : List Char) :
    (splitShare text).1 ++ ((splitShare text).2.1 ++ (splitShare text).2.2) = text := by
  unfold splitShare
  dsimp only
  split
  · simp
  next share found =>
    split
    · simp
    next mark tail rest =>
      have behind : mark :: tail <:+ text :=
        (dropWhile_eq_cons rest).trans ((List.suffix_cons _ share).trans
          ((dropWhile_eq_cons found).trans (List.drop_suffix _ text)))
      obtain ⟨front, rfl⟩ := behind
      simp

theorem splitShare_anchored {text : List Char} (present : text ≠ []) :
    (splitShare text).1 ++ (splitShare text).2.1 ≠ [] := by
  unfold splitShare
  dsimp only
  split
  · simpa using present
  · split
    · simpa using present
    · simp

/-- A text which starts with a separator has an anchor which does. -/
theorem head?_ntSplitroot (rest : List Char) :
    ((ntSplitroot ('\\' :: rest)).1 ++ (ntSplitroot ('\\' :: rest)).2.1).head? = some '\\' := by
  cases rest with
  | nil => rfl
  | cons next rest =>
      by_cases share : next = '\\'
      · subst share
        have whole := splitShare_append ('\\' :: '\\' :: rest)
        have anchored := splitShare_anchored (List.cons_ne_nil '\\' ('\\' :: rest))
        rw [← List.append_assoc] at whole
        have head := congrArg List.head? whole
        rwa [List.head?_append_of_ne_nil _ anchored] at head
      · have rooted : ntSplitroot ('\\' :: next :: rest) = ([], ['\\'], next :: rest) := by
          simp [ntSplitroot, share]
        rw [rooted]
        rfl

end ZeroShield.Foundation
