import ZeroShield.Foundation.EscapedSplit
import ZeroShield.Intelligence.Normalisation

/-!
# Product names

A product is named by a text whose components are separated by colons; a colon inside a component is
escaped.  The mapper splits at every colon.
-/

namespace ZeroShield.Intelligence

open Foundation Models

/-- A product name; its attributes are version, update, edition, language, software edition, target
software, target hardware and other. -/
structure CpeName where
  part : List Char
  vendor : List Char
  product : List Char
  attributes : List (List Char)

/-- Read a name with its eleven components. -/
def readCpe (uri : String) : Option CpeName :=
  match splitUnescaped ':' '\\' uri.toList with
  | some (scheme :: binding :: part :: vendor :: product :: attributes) =>
      if scheme = "cpe".toList ∧ binding = "2.3".toList ∧
          part ∈ [['a'], ['h'], ['o'], ['*'], ['-']] ∧ vendor ≠ [] ∧ product ≠ [] ∧
            attributes.length = 8 ∧ [] ∉ attributes then
        some { part, vendor, product, attributes }
      else none
  | _ => none

/-- The fourth of at least six parts between colons, unless it is empty. -/
def fourthPart (uri : String) : Option String :=
  match (uri.toList.splitOn ':').map String.ofList with
  | _ :: _ :: _ :: part :: _ :: _ :: _ => if part = "" then none else some part
  | _ => none

section Names

variable (library : Library) (found : List (List (String × Json) × String))

/-- Every well-formed name is recorded with its vendor and product, and the vendor is that of the
first one. -/
structure FollowsSyntax (vendor : Option String)
    (products : List (String × String × Option String)) : Prop where
  records : ∃ record : List (String × Json) × String → Option (String × String × Option String),
    (∀ named ∈ found, ∀ name, readCpe named.2 = some name → record named =
      some (String.ofList name.vendor, String.ofList name.product,
        cpeVersionRange library named.1)) ∧
      products = found.filterMap record
  first : ∀ name, found.findSome? (fun named => readCpe named.2) = some name →
    vendor = some (String.ofList name.vendor)

/-- No well-formed name has an escaped colon in its vendor or its product. -/
def Unescaped : Prop :=
  ∀ named ∈ found, ∀ name, readCpe named.2 = some name → ':' ∉ name.vendor ∧ ':' ∉ name.product

/-- What stands where a vendor does in a malformed name before the first well-formed one is the
vendor of that one. -/
def Undisturbed : Prop :=
  ∀ front named back name, found = front ++ named :: back →
    (∀ other ∈ front, readCpe other.2 = none) → readCpe named.2 = some name →
      ∀ part, front.findSome? (fun other => fourthPart other.2) = some part →
        part = String.ofList name.vendor

variable {library found} {named : List (String × Json) × String} {name : CpeName}
  {product : String × String × Option String}

theorem readCpe_eq_some {uri : String} (read : readCpe uri = some name) :
    splitUnescaped ':' '\\' uri.toList = some ("cpe".toList :: "2.3".toList :: name.part ::
      name.vendor :: name.product :: name.attributes) ∧ ':' ∉ name.part ∧ name.vendor ≠ [] ∧
        name.attributes.length = 8 := by
  unfold readCpe at read
  split at read
  next scheme binding part vendor product attributes split =>
    split at read
    next formed =>
      obtain ⟨rfl, rfl, kind, nonempty, -, eight, -⟩ := formed
      cases read
      refine ⟨split, ?_, nonempty, eight⟩
      have letters : ∀ part ∈ [['a'], ['h'], ['o'], ['*'], ['-']], ':' ∉ part := by decide
      exact letters part kind
    next => cases read
  next => cases read

/-- Splitting at every colon finds vendor and product unless they contain one. -/
theorem productOf_of_readCpe (read : readCpe named.2 = some name)
    (vendor : ':' ∉ name.vendor) (product : ':' ∉ name.product) :
    productOf library named = some (String.ofList name.vendor, String.ofList name.product,
      cpeVersionRange library named.1) := by
  obtain ⟨split, part, -, eight⟩ := readCpe_eq_some read
  have more : name.attributes ≠ [] := by
    intro none
    rw [none] at eight
    cases eight
  have front : ∀ part ∈ ["cpe".toList, "2.3".toList, name.part, name.vendor, name.product],
      ':' ∉ part := by
    simp only [List.forall_mem_cons, List.not_mem_nil, false_imp_iff, implies_true, and_true]
    exact ⟨by decide, by decide, part, vendor, product⟩
  have parts := splitOn_of_splitUnescaped split
    (rfl : _ = ["cpe".toList, "2.3".toList, name.part, name.vendor, name.product] ++
      name.attributes)
    front more
  rw [productOf, parts]
  cases rest : (List.intercalate [':'] name.attributes).splitOn ':' with
  | nil => exact absurd rest (List.splitOn_ne_nil _ _)
  | cons part rest => rfl

/-- What is recorded contains no colon. -/
theorem not_colon_of_productOf (recorded : productOf library named = some product) :
    ':' ∉ product.1.toList ∧ ':' ∉ product.2.1.toList := by
  unfold productOf at recorded
  split at recorded
  next scheme binding part vendor title version rest split =>
    cases recorded
    have parted : ∀ text ∈ scheme :: binding :: part :: vendor :: title :: version :: rest,
        ':' ∉ text.toList := by
      rw [← split]
      intro text member
      obtain ⟨chars, own, rfl⟩ := List.mem_map.mp member
      rw [String.toList_ofList]
      exact not_mem_of_mem_splitOn own
    exact ⟨parted vendor (by simp), parted title (by simp)⟩
  next => cases recorded

theorem fourthPart_eq : fourthPart named.2 =
    (productOf library named).bind fun product =>
      if product.1 = "" then none else some product.1 := by
  unfold fourthPart productOf
  generalize (named.2.toList.splitOn ':').map String.ofList = parts
  rcases parts with _ | ⟨_, _ | ⟨_, _ | ⟨_, _ | ⟨_, _ | ⟨_, _ | ⟨_, _⟩⟩⟩⟩⟩⟩ <;> rfl

/-- A vendor which is found stays. -/
theorem foldl_vendor_of_truthy {vendor : Option String} (known : isTruthy vendor)
    (products : List (String × String × Option String)) :
    products.foldl (fun vendor product => orElseText vendor (some product.1)) vendor = vendor := by
  induction products with
  | nil => rfl
  | cons product products ih =>
      rw [List.foldl_cons, orElseText, if_pos known]
      exact ih

/-- The vendor is the first which is not empty. -/
theorem foldl_vendor {part : String} {vendor : Option String} (unknown : ¬isTruthy vendor)
    (first : found.findSome? (fun named => fourthPart named.2) = some part) :
    (found.filterMap (productOf library)).foldl
      (fun vendor product => orElseText vendor (some product.1)) vendor = some part := by
  induction found generalizing vendor with
  | nil => cases first
  | cons named found ih =>
      rw [List.findSome?_cons, @fourthPart_eq library _] at first
      cases recorded : productOf library named with
      | none =>
          rw [recorded] at first
          rw [List.filterMap_cons_none recorded]
          exact ih unknown first
      | some product =>
          rw [recorded, Option.bind_some] at first
          rw [List.filterMap_cons_some recorded, List.foldl_cons, orElseText, if_neg unknown]
          by_cases empty : product.1 = ""
          · rw [if_pos empty] at first
            rw [empty]
            exact ih (by decide) first
          · rw [if_neg empty] at first
            cases first
            exact foldl_vendor_of_truthy (by simpa [isTruthy] using empty) _

/-- The vendor and the product of a well-formed name which is recorded contain no colon. -/
theorem unescaped_of_records {vendor : Option String}
    (follows : FollowsSyntax library found vendor (found.filterMap (productOf library))) :
    Unescaped found := by
  intro named member name read
  obtain ⟨record, records, same⟩ := follows.records
  have own : (String.ofList name.vendor, String.ofList name.product,
      cpeVersionRange library named.1) ∈ found.filterMap (productOf library) := by
    rw [same]
    exact List.mem_filterMap.mpr ⟨named, member, records named member name read⟩
  obtain ⟨other, -, recorded⟩ := List.mem_filterMap.mp own
  obtain ⟨vendor, product⟩ := not_colon_of_productOf recorded
  rw [String.toList_ofList] at vendor product
  exact ⟨vendor, product⟩

theorem findSome?_readCpe {front back : List (List (String × Json) × String)}
    (malformed : ∀ other ∈ front, readCpe other.2 = none) (read : readCpe named.2 = some name) :
    (front ++ named :: back).findSome? (fun named => readCpe named.2) = some name := by
  rw [List.findSome?_append, List.findSome?_eq_none_iff.mpr malformed, Option.none_or,
    List.findSome?_cons, read]

/-- Where the vendor is the one of the first well-formed name, no earlier name changes it. -/
theorem undisturbed_of_first {vendor : Option String}
    {products : List (String × String × Option String)}
    (follows : FollowsSyntax library found vendor products)
    (folded : vendor = (found.filterMap (productOf library)).foldl
      (fun vendor product => orElseText vendor (some product.1)) none) :
    Undisturbed found := by
  rintro front named back name rfl malformed read part first
  have reported := follows.first name (findSome?_readCpe malformed read)
  have earlier : (front ++ named :: back).findSome? (fun named => fourthPart named.2) =
      some part := by
    rw [List.findSome?_append, first, Option.some_or]
  rw [folded, foldl_vendor (by decide) earlier] at reported
  exact Option.some_inj.mp reported

/-- The vendor of the first well-formed name is reported unless an earlier name disturbs it. -/
theorem first_of_undisturbed (unescaped : Unescaped found) (undisturbed : Undisturbed found)
    (first : found.findSome? (fun named => readCpe named.2) = some name) :
    (found.filterMap (productOf library)).foldl
      (fun vendor product => orElseText vendor (some product.1)) none =
        some (String.ofList name.vendor) := by
  obtain ⟨front, named, back, rfl, read, malformed⟩ := List.findSome?_eq_some_iff.mp first
  apply foldl_vendor (by decide)
  rw [List.findSome?_append]
  cases earlier : front.findSome? fun other => fourthPart other.2 with
  | some part =>
      rw [Option.some_or, undisturbed front named back name rfl malformed read part earlier]
  | none =>
      obtain ⟨vendor, product⟩ := unescaped named (by simp) name read
      have nonempty : String.ofList name.vendor ≠ "" := by
        intro empty
        exact (readCpe_eq_some read).2.2.1 (by simpa using congrArg String.toList empty)
      rw [Option.none_or, List.findSome?_cons, @fourthPart_eq library _,
        productOf_of_readCpe read vendor product, Option.bind_some, if_neg nonempty]

end Names

theorem extractNvdProducts_eq_ok {library : Library} {raw : List (String × Json)}
    {found : List (List (String × Json) × String)} {vendor : Option String}
    {products : List (String × String × Option String)}
    (matched : vulnerableMatches raw = .ok found)
    (extracted : extractNvdProducts library raw = .ok (vendor, products)) :
    vendor = (found.filterMap (productOf library)).foldl
      (fun vendor product => orElseText vendor (some product.1)) none ∧
        products = found.filterMap (productOf library) := by
  rw [extractNvdProducts, matched] at extracted
  cases extracted
  exact ⟨rfl, rfl⟩

/-- Products and vendor follow the names exactly when no well-formed name has an escaped colon in
its vendor or product and no malformed one disturbs the vendor. -/
theorem followsSyntax_iff {library : Library} {raw : List (String × Json)}
    {found : List (List (String × Json) × String)} {vendor : Option String}
    {products : List (String × String × Option String)}
    (matched : vulnerableMatches raw = .ok found)
    (extracted : extractNvdProducts library raw = .ok (vendor, products)) :
    FollowsSyntax library found vendor products ↔ Unescaped found ∧ Undisturbed found := by
  obtain ⟨folded, rfl⟩ := extractNvdProducts_eq_ok matched extracted
  constructor
  · intro follows
    exact ⟨unescaped_of_records follows, undisturbed_of_first follows folded⟩
  · rintro ⟨unescaped, undisturbed⟩
    refine ⟨⟨productOf library, ?_, rfl⟩, ?_⟩
    · intro named member name read
      obtain ⟨vendor, product⟩ := unescaped named member name read
      exact productOf_of_readCpe read vendor product
    · intro name first
      rw [folded]
      exact first_of_undisturbed unescaped undisturbed first

namespace CpeSample

def library : Library where
  repr _ := "None"
  datetimeFromisoformat _ := none
  dateFromisoformat _ := none

/-- A record with one vulnerable match. -/
def raw (criteria : String) : List (String × Json) :=
  [("configurations", .arr [.obj [("nodes", .arr [.obj [("cpeMatch", .arr [.obj [
    ("vulnerable", .bool true), ("criteria", .str criteria)]])]])]])]

end CpeSample

theorem followsSyntax_iff_of_sample :
    ∃ found vendor products,
      vulnerableMatches (CpeSample.raw "cpe:2.3:a:acme:gate\\-way:1.0:*:*:*:*:*:*:*") = .ok found ∧
      extractNvdProducts CpeSample.library
          (CpeSample.raw "cpe:2.3:a:acme:gate\\-way:1.0:*:*:*:*:*:*:*") =
        .ok (vendor, products) ∧
      (FollowsSyntax CpeSample.library found vendor products ↔
        Unescaped found ∧ Undisturbed found) := by
  obtain ⟨found, vendor, products, matched, extracted⟩ : ∃ found vendor products,
      vulnerableMatches (CpeSample.raw "cpe:2.3:a:acme:gate\\-way:1.0:*:*:*:*:*:*:*") = .ok found ∧
      extractNvdProducts CpeSample.library
          (CpeSample.raw "cpe:2.3:a:acme:gate\\-way:1.0:*:*:*:*:*:*:*") =
        .ok (vendor, products) := ⟨_, _, _, rfl, rfl⟩
  exact ⟨found, vendor, products, matched, extracted, followsSyntax_iff matched extracted⟩

/-- An escaped colon shifts a part of the product into the version. -/
theorem not_followsSyntax_of_escaped :
    ∃ found vendor products,
      vulnerableMatches (CpeSample.raw "cpe:2.3:a:acme:gate\\:way:1.0:*:*:*:*:*:*:*") = .ok found ∧
      extractNvdProducts CpeSample.library
          (CpeSample.raw "cpe:2.3:a:acme:gate\\:way:1.0:*:*:*:*:*:*:*") =
        .ok (vendor, products) ∧
      ¬ FollowsSyntax CpeSample.library found vendor products := by
  refine ⟨_, _, _, rfl, rfl, ?_⟩
  intro follows
  obtain ⟨name, read, escaped⟩ : ∃ name,
      readCpe "cpe:2.3:a:acme:gate\\:way:1.0:*:*:*:*:*:*:*" = some name ∧ ':' ∈ name.product :=
    ⟨_, rfl, by decide⟩
  exact (unescaped_of_records follows _ List.mem_cons_self name read).2 escaped

end ZeroShield.Intelligence
