import ZeroShield.Foundation.Table

/-!
# A directory of files

The names of a directory stand for files, each of which has one name at most.  A file is written
piece by piece, and a replacement gives it another name at once.  The names are not read at once: a
file which gets a name meanwhile may be shown under it again.
-/

namespace ZeroShield.Foundation

/-- A name and the file for which it stands. -/
structure DirectoryEntry where
  name : String
  file : ℕ

/-- The file for which a name stands. -/
def fileOf (entries : Table DirectoryEntry.name) (name : String) : Option ℕ :=
  (entries.lookup name).map DirectoryEntry.file

section FileOf

variable (entries : Table DirectoryEntry.name)

theorem fileOf_upsert (entry : DirectoryEntry) (name : String) :
    fileOf (entries.upsert entry) name =
      if entry.name = name then some entry.file else fileOf entries name := by
  unfold fileOf
  split_ifs with same
  · rw [Table.lookup_upsert_of_eq same]
    rfl
  · rw [Table.lookup_upsert_ne same]

theorem fileOf_restrict (removed name : String) :
    fileOf (entries.restrict fun entry => entry.name ≠ removed) name =
      if name = removed then none else fileOf entries name := by
  unfold fileOf
  rw [Table.lookup_restrict]
  cases found : entries.lookup name with
  | none => simp
  | some entry =>
      have same : entry.name = name := Table.key_of_lookup found
      by_cases hit : name = removed
      · simp [Option.filter, same, hit]
      · simp [Option.filter, same, hit]

/-- No file has two names. -/
def Single : Prop :=
  ∀ ⦃left right file⦄, fileOf entries left = some file → fileOf entries right = some file →
    left = right

/-- The names stand for files below a number. -/
def Bounded (count : ℕ) : Prop :=
  ∀ ⦃name file⦄, fileOf entries name = some file → file < count

variable {entries}

theorem Single.upsert (single : Single entries) {entry : DirectoryEntry}
    (unnamed : ∀ name, fileOf entries name ≠ some entry.file) : Single (entries.upsert entry) := by
  intro left right file isLeft isRight
  rw [fileOf_upsert] at isLeft isRight
  split_ifs at isLeft isRight with atLeft atRight atRight
  · exact atLeft.symm.trans atRight
  · cases isLeft
    exact absurd isRight (unnamed right)
  · cases isRight
    exact absurd isLeft (unnamed left)
  · exact single isLeft isRight

theorem Bounded.upsert {count larger : ℕ} (bounded : Bounded entries count) (wider : count ≤ larger)
    {entry : DirectoryEntry} (below : entry.file < larger) :
    Bounded (entries.upsert entry) larger := by
  intro name file found
  rw [fileOf_upsert] at found
  split_ifs at found
  · cases found
    exact below
  · exact (bounded found).trans_le wider

theorem fileOf_of_restrict {removed name : String} {file : ℕ}
    (found : fileOf (entries.restrict fun entry => entry.name ≠ removed) name = some file) :
    name ≠ removed ∧ fileOf entries name = some file := by
  rw [fileOf_restrict] at found
  split_ifs at found with hit
  exact ⟨hit, found⟩

end FileOf

/-- A directory with the contents of its files, also of those without a name. -/
structure Directory where
  entries : Table DirectoryEntry.name := .empty
  contents : List (List UInt8) := []
  single : Single entries
  bounded : Bounded entries contents.length

namespace Directory

/-- A directory without files. -/
def empty : Directory where
  single := by
    intro left right file found
    cases found
  bounded := by
    intro name file found
    cases found

variable (directory : Directory)

/-- The names in a directory. -/
def names : List String :=
  directory.entries.rows.map DirectoryEntry.name

/-- The file with a name. -/
def file (name : String) : Option ℕ :=
  fileOf directory.entries name

/-- Add an empty file under a name. -/
def add (name : String) : Directory where
  entries := directory.entries.upsert ⟨name, directory.contents.length⟩
  contents := directory.contents ++ [[]]
  single := directory.single.upsert fun _ found => (directory.bounded found).false
  bounded := by
    rw [List.length_append]
    exact directory.bounded.upsert (Nat.le_add_right _ _) (Nat.lt_succ_self _)

/-- Give a file other contents. -/
def write (file : ℕ) (change : List UInt8 → List UInt8) : Directory where
  entries := directory.entries
  contents := directory.contents.modify file change
  single := directory.single
  bounded := by
    rw [List.length_modify]
    exact directory.bounded

/-- Open a file for writing: it is emptied, or added if there is none with the name. -/
def create (name : String) : ℕ × Directory :=
  match directory.file name with
  | some file => (file, directory.write file fun _ => [])
  | none => (directory.contents.length, directory.add name)

/-- Write a byte at the end of a file. -/
def append (file : ℕ) (byte : UInt8) : Directory :=
  directory.write file (· ++ [byte])

/-- Give the file of a name another name. -/
def rename (source target : String) {file : ℕ} (found : directory.file source = some file) :
    Directory where
  entries := (directory.entries.restrict fun entry => entry.name ≠ source).upsert ⟨target, file⟩
  contents := directory.contents
  single := by
    have kept : Single (directory.entries.restrict fun entry => entry.name ≠ source) := by
      intro left right other isLeft isRight
      exact directory.single (fileOf_of_restrict isLeft).2 (fileOf_of_restrict isRight).2
    refine kept.upsert fun name other => ?_
    obtain ⟨different, same⟩ := fileOf_of_restrict other
    exact different (directory.single same found)
  bounded := by
    have kept : Bounded (directory.entries.restrict fun entry => entry.name ≠ source)
        directory.contents.length := by
      intro name other isOther
      exact directory.bounded (fileOf_of_restrict isOther).2
    exact kept.upsert le_rfl (directory.bounded found)

/-- Give the file of a name another name, in place of the file which had it; there may be no
file. -/
def replace (source target : String) : Bool × Directory :=
  match found : directory.file source with
  | some _ => (true, directory.rename source target found)
  | none => (false, directory)

/-! ## What the operations leave -/

section Frame

variable {directory} {name source target : String} {bytes : List UInt8}

theorem file_add (other : String) :
    (directory.add name).file other =
      if name = other then some directory.contents.length else directory.file other :=
  fileOf_upsert _ _ _

theorem file_rename {file : ℕ} (found : directory.file source = some file) (other : String) :
    (directory.rename source target found).file other =
      if target = other then some file
      else if other = source then none else directory.file other := by
  refine (fileOf_upsert _ _ _).trans ?_
  rw [fileOf_restrict]
  rfl

theorem nodup_names : directory.names.Nodup :=
  directory.entries.distinct

theorem file_ne_none_of_mem (member : name ∈ directory.names) : directory.file name ≠ none := by
  obtain ⟨entry, isRow, rfl⟩ := List.mem_map.mp member
  unfold file fileOf
  rw [Table.mem_rows.mp isRow]
  exact nofun

/-- Only names of a kind stand for a file, which holds some bytes. -/
structure Holds (directory : Directory) (kind : String → Prop) (file : ℕ) (bytes : List UInt8) :
    Prop where
  contents : directory.contents[file]? = some bytes
  names : ∀ name, directory.file name = some file → kind name

variable {kind : String → Prop} {file : ℕ}

theorem Holds.add (holds : directory.Holds kind file bytes) :
    (directory.add name).Holds kind file bytes := by
  have below : file < directory.contents.length := (List.getElem?_eq_some_iff.mp holds.contents).1
  constructor
  · exact (List.getElem?_append_left below).trans holds.contents
  · intro other found
    rw [file_add] at found
    split_ifs at found
    · exact absurd (Option.some.inj found) below.ne'
    · exact holds.names other found

/-- Writing to a file whose name is of another kind changes no file with names of the kind. -/
theorem Holds.write {change : List UInt8 → List UInt8} {other : ℕ}
    (holds : directory.Holds kind file bytes) (found : directory.file name = some other)
    (different : ¬ kind name) : (directory.write other change).Holds kind file bytes := by
  have apart : other ≠ file := by
    rintro rfl
    exact different (holds.names name found)
  constructor
  · exact (List.getElem?_modify_ne _ _ apart).trans holds.contents
  · exact holds.names

/-- Renaming a file whose name is of another kind changes no file with names of the kind. -/
theorem Holds.rename {other : ℕ} (holds : directory.Holds kind file bytes)
    (found : directory.file source = some other) (different : ¬ kind source) :
    (directory.rename source target found).Holds kind file bytes := by
  refine ⟨holds.contents, fun name isFile => ?_⟩
  rw [file_rename] at isFile
  split_ifs at isFile
  · cases isFile
    exact absurd (holds.names source found) different
  · exact holds.names name isFile

/-- A name stands for a file with some bytes. -/
structure Links (directory : Directory) (name : String) (file : ℕ) (bytes : List UInt8) :
    Prop where
  found : directory.file name = some file
  contents : directory.contents[file]? = some bytes

/-- A file has one name, so one name of the kind is enough. -/
theorem Links.holds (links : directory.Links name file bytes) (isKind : kind name) :
    directory.Holds kind file bytes := by
  refine ⟨links.contents, fun other isFile => ?_⟩
  rw [directory.single isFile links.found]
  exact isKind

theorem create_of_none (fresh : directory.file name = none) :
    directory.create name = (directory.contents.length, directory.add name) := by
  unfold create
  rw [fresh]

theorem links_add : (directory.add name).Links name directory.contents.length [] := by
  constructor
  · rw [file_add, if_pos rfl]
  · exact (List.getElem?_append_right le_rfl).trans (by rw [Nat.sub_self]; rfl)

theorem Links.add (links : directory.Links name file bytes) {other : String}
    (fresh : directory.file other = none) : (directory.add other).Links name file bytes := by
  have below : file < directory.contents.length := directory.bounded links.found
  constructor
  · rw [file_add, if_neg, links.found]
    rintro rfl
    rw [links.found] at fresh
    cases fresh
  · exact (List.getElem?_append_left below).trans links.contents

theorem Links.write (links : directory.Links name file bytes)
    (change : List UInt8 → List UInt8) :
    (directory.write file change).Links name file (change bytes) := by
  refine ⟨links.found, ?_⟩
  exact (List.getElem?_modify_eq _ _ _).trans (congrArg (Option.map change) links.contents)

theorem Links.write_ne (links : directory.Links name file bytes) {other : ℕ} {owner : String}
    (found : directory.file owner = some other) (different : owner ≠ name)
    (change : List UInt8 → List UInt8) :
    (directory.write other change).Links name file bytes := by
  have apart : other ≠ file := by
    rintro rfl
    exact different (directory.single found links.found)
  exact ⟨links.found, (List.getElem?_modify_ne _ _ apart).trans links.contents⟩

theorem replace_of_file (found : directory.file source = some file) (target : String) :
    directory.replace source target = (true, directory.rename source target found) := by
  unfold replace
  split
  case h_1 other isFile =>
    obtain rfl : file = other := Option.some.inj (found.symm.trans isFile)
    rfl
  case h_2 isNone => cases found.symm.trans isNone

theorem Links.rename (links : directory.Links source file bytes) (target : String) :
    (directory.rename source target links.found).Links target file bytes := by
  refine ⟨?_, links.contents⟩
  rw [file_rename, if_pos rfl]

theorem Links.rename_ne (links : directory.Links name file bytes) {other : ℕ}
    (found : directory.file source = some other) (notSource : name ≠ source)
    (notTarget : name ≠ target) : (directory.rename source target found).Links name file bytes := by
  refine ⟨?_, links.contents⟩
  rw [file_rename, if_neg notTarget.symm, if_neg notSource, links.found]

end Frame

end Directory

/-! ## Listings -/

/-- A listing which has begun: the names at its beginning, and those which were given to files and
taken from them since. -/
structure DirectoryListing where
  names : List String
  placed : List String := []
  taken : List String := []
  deriving DecidableEq

namespace DirectoryListing

/-- A name is given to a file, in place of the one which had it. -/
def place (name : String) (listing : DirectoryListing) : DirectoryListing :=
  { listing with placed := name :: listing.placed }

/-- The file of a name is given another name. -/
def rename (source target : String) (listing : DirectoryListing) : DirectoryListing :=
  { listing with placed := target :: listing.placed, taken := source :: listing.taken }

/-- A name is shown once for each time at which it was given, and it is shown if nothing was done
with it. -/
structure Permits (listing : DirectoryListing) (shown : List String) : Prop where
  counted : ∀ name ∈ shown, shown.count name ≤ (listing.names ++ listing.placed).count name
  kept : ∀ name ∈ listing.names, name ∉ listing.placed → name ∉ listing.taken → name ∈ shown

instance (listing : DirectoryListing) (shown : List String) : Decidable (listing.Permits shown) :=
  decidable_of_iff
    ((∀ name ∈ shown, shown.count name ≤ (listing.names ++ listing.placed).count name) ∧
      ∀ name ∈ listing.names, name ∉ listing.placed → name ∉ listing.taken → name ∈ shown)
    ⟨fun both => ⟨both.1, both.2⟩, fun permits => ⟨permits.counted, permits.kept⟩⟩

/-- What a listing shows, which is chosen among what it may show. -/
def shown (listing : DirectoryListing) (chosen : List String) : List String :=
  if listing.Permits chosen then chosen else listing.names

variable {listing : DirectoryListing} {kind : String → Bool}

theorem permits_shown (chosen : List String) : listing.Permits (listing.shown chosen) := by
  unfold shown
  split_ifs with permitted
  · exact permitted
  · refine ⟨fun name _ => ?_, fun name member _ _ => member⟩
    rw [List.count_append]
    exact Nat.le_add_right _ _

/-- Names of a kind which were given once are shown once. -/
theorem Permits.nodup {chosen : List String} (permits : listing.Permits chosen)
    (distinct : ((listing.names ++ listing.placed).filter kind).Nodup) :
    (chosen.filter kind).Nodup := by
  rw [List.nodup_iff_count_le_one] at distinct ⊢
  intro name
  by_cases member : name ∈ chosen.filter kind
  · obtain ⟨isShown, isKind⟩ := List.mem_filter.mp member
    have once := distinct name
    rw [List.count_filter isKind] at once ⊢
    exact (permits.counted name isShown).trans once
  · exact (List.count_eq_zero_of_not_mem member).trans_le (Nat.zero_le _)

end DirectoryListing

end ZeroShield.Foundation
