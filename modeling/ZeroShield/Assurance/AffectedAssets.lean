import ZeroShield.Foundation.Fallible
import ZeroShield.Foundation.LikePatterns
import ZeroShield.Intelligence.Store

/-!
# Affected assets

An asset is potentially affected by a vulnerability when its vendor and its product match one of the
affected products.  The names of a product are used as patterns, in which some characters are
wildcards.
-/

namespace ZeroShield.Assurance

open Foundation Intelligence LikePattern Models

/-- An asset of the inventory. -/
structure Asset where
  assetId : String
  name : String
  vendor : String
  product : String
  version : Option String := none
  environment : String
  exposure : String
  criticality : String
  active : Bool := true
  createdAt : DateTime
  updatedAt : DateTime
  deriving DecidableEq

/-- The errors of an asset. -/
def Asset.errors (asset : Asset) : List FieldError :=
  requireText "asset_id" asset.assetId ++ requireText "name" asset.name ++
    requireText "vendor" asset.vendor ++ requireText "product" asset.product ++
    requireText "environment" asset.environment ++ requireText "exposure" asset.exposure ++
    requireText "criticality" asset.criticality

/-- The table of assets, all of which are valid. -/
structure Inventory where
  assets : Table Asset.assetId
  valid : ∀ asset ∈ assets.rows, asset.errors = []

/-- How the database compares texts without regard to case, and whether a backslash is an escape. -/
structure Collation where
  fold : Char → Char
  escapes : Bool
  keeps : KeepsSpecial fold

inductive DatabaseError
  | invalidEscapeSequence
  deriving DecidableEq

section Query

variable (collation : Collation)

/-- The characters of a text without regard to case. -/
def folded (text : String) : List Char :=
  text.toList.map collation.fold

/-- Whether a pattern matches a text without regard to case. -/
def ilike (text pattern : String) : Except DatabaseError Bool :=
  match tokens collation.escapes false (folded collation pattern) with
  | none => .error .invalidEscapeSequence
  | some parts => .ok (isMatch parts (folded collation text))

/-- Whether an asset is selected for an affected product. -/
def isSelected (vendor product : String) (asset : Asset) : Except DatabaseError Bool := do
  let sameVendor ← ilike collation asset.vendor vendor
  let sameProduct ← ilike collation asset.product ("%" ++ product ++ "%")
  return sameVendor && sameProduct

/-- The assets which are selected for an affected product. -/
def selectAssets (vendor product : String) : List Asset → Except DatabaseError (List Asset)
  | [] => return []
  | asset :: assets => do
      let selected ← isSelected collation vendor product asset
      let others ← selectAssets vendor product assets
      return if selected then asset :: others else others

/-- Add an asset unless it was seen. -/
def addUnseen (rows : List Asset) (asset : Asset) : List Asset :=
  if asset.assetId ∈ rows.map Asset.assetId then rows else rows ++ [asset]

/-- The assets which are potentially affected by a vulnerability. -/
def listPotentiallyAffectedAssets (links : Table AffectedProduct.link) (inventory : Inventory)
    (cveId : String) : Except DatabaseError (List Asset) :=
  let productPairs := (links.rows.filter (·.cveId = cveId)).map fun link => (link.vendor, link.name)
  if productPairs = [] then .ok []
  else
    productPairs.foldlM (fun rows pair => do
      let found ← selectAssets collation pair.1 pair.2 inventory.assets.rows
      return found.foldl addUnseen rows) []

/-! ## What is to be found -/

/-- The vendor of an asset is that of the product, and its product contains the name, both without
regard to case. -/
def IsAffectedBy (link : AffectedProduct) (asset : Asset) : Prop :=
  folded collation asset.vendor = folded collation link.vendor ∧
    folded collation link.name <:+: folded collation asset.product

instance (link : AffectedProduct) (asset : Asset) :
    Decidable (IsAffectedBy collation link asset) := by
  unfold IsAffectedBy
  infer_instance

/-- Exactly the assets are listed, each once, which are affected by one of the products of a
vulnerability. -/
def IsExact (links : Table AffectedProduct.link) (inventory : Inventory) (cveId : String) : Prop :=
  ∃ found, listPotentiallyAffectedAssets collation links inventory cveId = .ok found ∧
    (found.map Asset.assetId).Nodup ∧
    ∀ asset, asset ∈ found ↔ asset ∈ inventory.assets.rows ∧
      ∃ link ∈ links.rows, link.cveId = cveId ∧ IsAffectedBy collation link asset

/-- The names of a product are free of wildcards, or it has no vendor, so that it affects
nothing. -/
def IsHarmless (link : AffectedProduct) : Prop :=
  link.vendor = "" ∨
    IsPlain collation.escapes link.vendor.toList ∧ IsPlain collation.escapes link.name.toList

end Query

/-! ## Names without wildcards -/

section Plain

variable {collation : Collation}

theorem folded_contains (product : String) :
    folded collation ("%" ++ product ++ "%") = '%' :: folded collation product ++ ['%'] := by
  have percent : collation.fold '%' = '%' := (collation.keeps '%' (by decide) '%').mpr rfl
  have single : "%".toList = ['%'] := rfl
  simp only [folded, String.toList_append, single, List.map_append, List.map_cons, List.map_nil,
    percent]
  rfl

theorem isPlain_folded {text : String} :
    IsPlain collation.escapes (folded collation text) ↔ IsPlain collation.escapes text.toList :=
  isPlain_map collation.escapes collation.keeps

/-- A plain pattern matches the texts which are equal to it. -/
theorem ilike_of_plain {pattern : String} (plain : IsPlain collation.escapes pattern.toList)
    (text : String) :
    ilike collation text pattern =
      .ok (decide (folded collation text = folded collation pattern)) := by
  have read := tokens_append_of_plain (isPlain_folded.mpr plain) []
  rw [List.append_nil] at read
  rw [ilike, read]
  simp only [tokens, Option.map_some, List.append_nil]
  rw [Bool.eq_iff_iff.mpr (isMatch_chars_iff.trans (decide_eq_true_iff).symm)]

/-- A plain pattern between wildcards matches the texts which contain it. -/
theorem ilike_contains_of_plain {product : String}
    (plain : IsPlain collation.escapes product.toList) (text : String) :
    ilike collation text ("%" ++ product ++ "%") =
      .ok (decide (folded collation product <:+: folded collation text)) := by
  have read := tokens_append_of_plain (isPlain_folded.mpr plain) ['%']
  rw [ilike, folded_contains, List.cons_append, tokens, if_pos rfl, read]
  simp only [tokens, if_true, Option.map_some]
  rw [Bool.eq_iff_iff.mpr (isMatch_contains_iff.trans (decide_eq_true_iff).symm)]

/-- The pattern for a product can always be read. -/
theorem ilike_contains_isOk (text product : String) :
    ∃ matched, ilike collation text ("%" ++ product ++ "%") = .ok matched := by
  obtain ⟨parts, read, -⟩ :=
    isMatch_filled_append collation.escapes 'x' false (folded collation product)
  rw [ilike, folded_contains, List.cons_append, tokens, if_pos rfl, read]
  exact ⟨_, rfl⟩

theorem folded_eq_folded_empty {text : String} :
    folded collation text = folded collation "" ↔ text = "" := by
  rw [folded, folded]
  simp

theorem Asset.vendor_ne {asset : Asset} (valid : asset.errors = []) : asset.vendor ≠ "" := by
  simp only [Asset.errors, List.append_eq_nil_iff, requireText_eq_nil] at valid
  exact valid.1.1.1.1.2

/-- For a harmless product exactly the assets are selected which it affects. -/
theorem isSelected_of_harmless {link : AffectedProduct} {asset : Asset}
    (harmless : IsHarmless collation link) (valid : asset.errors = []) :
    isSelected collation link.vendor link.name asset =
      .ok (decide (IsAffectedBy collation link asset)) := by
  rcases harmless with none | ⟨vendor, name⟩
  · obtain ⟨matched, read⟩ := @ilike_contains_isOk collation asset.product link.name
    have plain : IsPlain collation.escapes "".toList := nofun
    have other : ¬ folded collation asset.vendor = folded collation "" :=
      fun same => asset.vendor_ne valid (folded_eq_folded_empty.mp same)
    have unaffected : ¬ IsAffectedBy collation link asset := by
      intro affected
      exact other (none ▸ affected.1)
    rw [isSelected, none, ilike_of_plain plain, read, decide_eq_false other,
      decide_eq_false unaffected]
    rfl
  · rw [isSelected, ilike_of_plain vendor, ilike_contains_of_plain name]
    exact congrArg Except.ok (Bool.decide_and _ _).symm

theorem selectAssets_of_harmless {link : AffectedProduct} (harmless : IsHarmless collation link)
    {assets : List Asset} (valid : ∀ asset ∈ assets, asset.errors = []) :
    selectAssets collation link.vendor link.name assets =
      .ok (assets.filter fun asset => IsAffectedBy collation link asset) := by
  induction assets with
  | nil => rfl
  | cons asset assets ih =>
      obtain ⟨first, others⟩ := List.forall_mem_cons.mp valid
      rw [selectAssets, isSelected_of_harmless harmless first, ih others, List.filter_cons]
      rfl

end Plain

/-! ## Collecting assets -/

section Collect

variable {assets : List Asset}
  (apart : ∀ first ∈ assets, ∀ second ∈ assets, first.assetId = second.assetId → first = second)

include apart

/-- An asset which is added is one of the assets, and is there once. -/
theorem addUnseen_spec {rows : List Asset} {asset : Asset} (known : rows ⊆ assets)
    (distinct : (rows.map Asset.assetId).Nodup) (member : asset ∈ assets) :
    ((addUnseen rows asset).map Asset.assetId).Nodup ∧
      ∀ other, other ∈ addUnseen rows asset ↔ other ∈ rows ∨ other = asset := by
  unfold addUnseen
  split_ifs with seen
  · refine ⟨distinct, fun other => ⟨.inl, ?_⟩⟩
    rintro (there | rfl)
    · exact there
    · obtain ⟨row, there, same⟩ := List.mem_map.mp seen
      exact apart row (known there) other member same ▸ there
  · refine ⟨?_, fun other => by simp⟩
    rw [List.map_append, List.map_singleton]
    exact distinct.append (List.nodup_singleton _) (List.disjoint_singleton.mpr seen)

theorem foldl_addUnseen_spec {rows found : List Asset} (known : rows ⊆ assets)
    (distinct : (rows.map Asset.assetId).Nodup) (members : found ⊆ assets) :
    ((found.foldl addUnseen rows).map Asset.assetId).Nodup ∧
      ∀ other, other ∈ found.foldl addUnseen rows ↔ other ∈ rows ∨ other ∈ found := by
  induction found generalizing rows with
  | nil => exact ⟨distinct, by simp⟩
  | cons asset found ih =>
      obtain ⟨member, members⟩ := List.cons_subset.mp members
      obtain ⟨kept, there⟩ := addUnseen_spec apart known distinct member
      have inside : addUnseen rows asset ⊆ assets := by
        intro other present
        rcases (there other).mp present with present | rfl
        · exact known present
        · exact member
      obtain ⟨final, all⟩ := ih inside kept members
      refine ⟨final, fun other => ?_⟩
      rw [List.foldl_cons, all, there, List.mem_cons, or_assoc]

end Collect

section Exact

variable {collation : Collation}

/-- Add the assets which are selected for an affected product. -/
theorem listPotentiallyAffectedAssets_eq (links : Table AffectedProduct.link)
    (inventory : Inventory)
    (cveId : String) :
    listPotentiallyAffectedAssets collation links inventory cveId =
      (links.rows.filter (·.cveId = cveId)).foldlM (fun rows link => do
        let found ← selectAssets collation link.vendor link.name inventory.assets.rows
        return found.foldl addUnseen rows) [] := by
  unfold listPotentiallyAffectedAssets
  dsimp only
  rw [List.foldlM_map]
  split_ifs with none
  · rw [List.map_eq_nil_iff.mp none]
    rfl
  · rfl

/-- For harmless products exactly the assets are collected which one of them affects. -/
theorem collect_of_harmless {inventory : Inventory} {links : List AffectedProduct}
    (harmless : ∀ link ∈ links, IsHarmless collation link) {rows : List Asset}
    (known : rows ⊆ inventory.assets.rows) (distinct : (rows.map Asset.assetId).Nodup) :
    ∃ found, links.foldlM (fun rows link => do
        let found ← selectAssets collation link.vendor link.name inventory.assets.rows
        return found.foldl addUnseen rows) rows = (.ok found : Except DatabaseError (List Asset)) ∧
      (found.map Asset.assetId).Nodup ∧
      ∀ asset, asset ∈ found ↔ asset ∈ rows ∨
        asset ∈ inventory.assets.rows ∧ ∃ link ∈ links, IsAffectedBy collation link asset := by
  have apart : ∀ first ∈ inventory.assets.rows, ∀ second ∈ inventory.assets.rows,
      first.assetId = second.assetId → first = second :=
    fun first member second other same =>
      List.inj_on_of_nodup_map inventory.assets.distinct member other same
  induction links generalizing rows with
  | nil => exact ⟨rows, rfl, distinct, by simp⟩
  | cons link links ih =>
      obtain ⟨first, others⟩ := List.forall_mem_cons.mp harmless
      have selected := selectAssets_of_harmless first inventory.valid
      have members : (inventory.assets.rows.filter fun asset => IsAffectedBy collation link asset) ⊆
          inventory.assets.rows := List.filter_subset_self _
      obtain ⟨kept, there⟩ := foldl_addUnseen_spec apart known distinct members
      have inside : (inventory.assets.rows.filter fun asset =>
          IsAffectedBy collation link asset).foldl addUnseen rows ⊆ inventory.assets.rows := by
        intro asset present
        rcases (there asset).mp present with present | present
        · exact known present
        · exact members present
      obtain ⟨found, ran, final, all⟩ := ih others inside kept
      refine ⟨found, bind_eq_ok.mpr ⟨_, bind_eq_ok.mpr ⟨_, selected, rfl⟩, ran⟩, final, ?_⟩
      intro asset
      rw [all, there, List.mem_filter, decide_eq_true_iff]
      simp only [List.mem_cons, exists_eq_or_imp, and_or_left, or_assoc]

/-- The list is exact for harmless products. -/
theorem isExact_of_harmless {links : Table AffectedProduct.link} {inventory : Inventory}
    {cveId : String}
    (harmless : ∀ link ∈ links.rows, link.cveId = cveId → IsHarmless collation link) :
    IsExact collation links inventory cveId := by
  have own : ∀ link ∈ links.rows.filter (·.cveId = cveId), IsHarmless collation link := by
    intro link member
    obtain ⟨stored, same⟩ := List.mem_filter.mp member
    exact harmless link stored (of_decide_eq_true same)
  obtain ⟨found, ran, distinct, there⟩ :=
    collect_of_harmless own (List.nil_subset inventory.assets.rows) List.nodup_nil
  refine ⟨found, (listPotentiallyAffectedAssets_eq links inventory cveId).trans ran, distinct, ?_⟩
  intro asset
  rw [there]
  simp only [List.not_mem_nil, false_or, List.mem_filter, decide_eq_true_eq, and_assoc]

end Exact

/-! ## Names with wildcards -/

section Special

variable {collation : Collation}

/-- The table with one affected product. -/
def onlyLink (link : AffectedProduct) : Table AffectedProduct.link :=
  ⟨[link], List.nodup_singleton _⟩

/-- An asset of which the vendor and the product matter. -/
def sampleAsset (vendor product : String) : Asset where
  assetId := "asset-1"
  name := "gateway"
  vendor
  product
  environment := "lab"
  exposure := "internal"
  criticality := "low"
  createdAt := 0
  updatedAt := 0

/-- The inventory of one asset. -/
def onlyAsset (vendor product : String) (vendor_ne : vendor ≠ "") (product_ne : product ≠ "") :
    Inventory where
  assets := ⟨[sampleAsset vendor product], List.nodup_singleton _⟩
  valid := by
    intro asset member
    rw [List.mem_singleton.mp member]
    simp [Asset.errors, sampleAsset, vendor_ne, product_ne]

/-- For one product and one asset the list is exact only if the patterns match just when the product
affects the asset. -/
theorem isAffectedBy_iff_of_exact {link : AffectedProduct} {vendor product : String}
    {vendor_ne : vendor ≠ ""} {product_ne : product ≠ ""}
    (exactly : IsExact collation (onlyLink link) (onlyAsset vendor product vendor_ne product_ne)
      link.cveId) :
    ilike collation vendor link.vendor = .ok true ∧
        ilike collation product ("%" ++ link.name ++ "%") = .ok true ↔
      IsAffectedBy collation link (sampleAsset vendor product) := by
  obtain ⟨found, ran, -, there⟩ := exactly
  have own : (onlyLink link).rows.filter (·.cveId = link.cveId) = [link] := by
    simp [onlyLink]
  rw [listPotentiallyAffectedAssets_eq, own] at ran
  obtain ⟨rows, step, last⟩ := bind_eq_ok.mp ran
  cases last
  obtain ⟨selected, isSelected, same⟩ := bind_eq_ok.mp step
  cases same
  obtain ⟨hit, isHit, same⟩ := bind_eq_ok.mp isSelected
  cases same
  obtain ⟨sameVendor, vendorRead, isHit⟩ := bind_eq_ok.mp isHit
  obtain ⟨sameProduct, productRead, same⟩ := bind_eq_ok.mp isHit
  cases same
  have expected := there (sampleAsset vendor product)
  have affected : (sampleAsset vendor product ∈ (onlyAsset vendor product vendor_ne
        product_ne).assets.rows ∧ ∃ other ∈ (onlyLink link).rows, other.cveId = link.cveId ∧
          IsAffectedBy collation other (sampleAsset vendor product)) ↔
      IsAffectedBy collation link (sampleAsset vendor product) := by
    simp [onlyAsset, onlyLink]
  rw [affected] at expected
  rw [← expected]
  change ilike collation vendor link.vendor = .ok sameVendor at vendorRead
  change ilike collation product _ = .ok sameProduct at productRead
  rw [vendorRead, productRead]
  cases sameVendor <;> cases sameProduct <;> simp [addUnseen]

/-- A pattern between wildcards matches the text in which it is filled, also behind more text. -/
theorem ilike_contains_filled (product lead : String) :
    ilike collation (lead ++ String.ofList (filled collation.escapes 'x' false product.toList))
      ("%" ++ product ++ "%") = .ok true := by
  obtain ⟨parts, read, matched⟩ :=
    isMatch_filled_append collation.escapes (collation.fold 'x') false
    (folded collation product)
  rw [ilike, folded_contains, List.cons_append, tokens, if_pos rfl, read]
  have text : folded collation
      (lead ++ String.ofList (filled collation.escapes 'x' false product.toList)) =
        folded collation lead ++
          filled collation.escapes (collation.fold 'x') false (folded collation product) := by
    rw [folded, String.toList_append, String.toList_ofList, List.map_append,
      map_filled collation.escapes 'x' collation.keeps]
    rfl
  rw [text]
  exact congrArg Except.ok (isMatch_any_iff.mpr ⟨_, List.suffix_append _ _, matched⟩)

/-- The filler is no wildcard. -/
theorem fold_filler : collation.fold 'x' ≠ '%' ∧ collation.fold 'x' ≠ '_' := by
  constructor
  · exact fun same => absurd ((collation.keeps '%' (by decide) 'x').mp same) (by decide)
  · exact fun same => absurd ((collation.keeps '_' (by decide) 'x').mp same) (by decide)

/-- A text with a special character is not contained in the text in which it is filled. -/
theorem not_infix_folded {text : String} (special : ¬ IsPlain collation.escapes text.toList) :
    ¬ folded collation text <:+: folded collation
      (String.ofList (filled collation.escapes 'x' false text.toList)) := by
  have other : folded collation (String.ofList (filled collation.escapes 'x' false text.toList)) =
      filled collation.escapes (collation.fold 'x') false (folded collation text) := by
    rw [folded, String.toList_ofList, map_filled collation.escapes 'x' collation.keeps]
    rfl
  rw [other]
  exact not_infix_filled collation.escapes _ fold_filler (mt isPlain_folded.mp special)

theorem ne_empty_of_special {text : String} (special : ¬ IsPlain collation.escapes text.toList) :
    text ≠ "" := by
  rintro rfl
  exact special nofun

theorem filled_ne_empty {text : String} (nonempty : text ≠ "") :
    String.ofList (filled collation.escapes 'x' false text.toList) ≠ "" := by
  intro empty
  have characters := congrArg String.toList empty
  rw [String.toList_ofList] at characters
  exact filled_ne_nil collation.escapes 'x' (mt String.toList_eq_nil_iff.mp nonempty) characters

theorem lead_ne_empty (text : String) : "x" ++ text ≠ "" := by
  intro empty
  have characters := congrArg String.toList empty
  rw [String.toList_append] at characters
  exact List.cons_ne_nil _ _ characters

/-- If the list is exact for a product and any asset, the vendor of the product has no wildcard. -/
theorem isPlain_vendor_of_exact {link : AffectedProduct}
    (exactly : ∀ inventory, IsExact collation (onlyLink link) inventory link.cveId) :
    IsPlain collation.escapes link.vendor.toList := by
  by_contra special
  have vendor_ne := ne_empty_of_special special
  cases read : tokens collation.escapes false (folded collation link.vendor) with
  | some parts =>
      -- an asset whose vendor is matched by the pattern, but not equal to it
      have matched := isMatch_filled collation.escapes (collation.fold 'x') read
      have vendor : ilike collation
          (String.ofList (filled collation.escapes 'x' false link.vendor.toList)) link.vendor =
            .ok true := by
        rw [ilike, read, folded, String.toList_ofList,
          map_filled collation.escapes 'x' collation.keeps]
        exact congrArg Except.ok matched
      have affected :=
        (isAffectedBy_iff_of_exact (exactly (onlyAsset _ _ (filled_ne_empty vendor_ne)
        (lead_ne_empty _)))).mp ⟨vendor, ilike_contains_filled link.name "x"⟩
      apply not_infix_folded special
      rw [← affected.1]
      exact List.infix_rfl
  | none =>
      -- the names themselves, for which the pattern is refused
      have contained : folded collation link.name <:+: folded collation ("x" ++ link.name) := by
        rw [folded, folded, String.toList_append, List.map_append]
        exact (List.suffix_append _ _).isInfix
      have matched := (isAffectedBy_iff_of_exact (exactly (onlyAsset link.vendor ("x" ++ link.name)
        vendor_ne (lead_ne_empty _)))).mpr ⟨rfl, contained⟩
      rw [ilike, read] at matched
      cases matched.1

/-- If the list is exact for a product with a vendor and any asset, the name has no wildcard. -/
theorem isPlain_name_of_exact {link : AffectedProduct} (vendor_ne : link.vendor ≠ "")
    (exactly : ∀ inventory, IsExact collation (onlyLink link) inventory link.cveId) :
    IsPlain collation.escapes link.name.toList := by
  by_contra special
  have name_ne := @filled_ne_empty collation _ (ne_empty_of_special special)
  have vendor := ilike_of_plain (isPlain_vendor_of_exact exactly) link.vendor
  rw [decide_eq_true rfl] at vendor
  have product := @ilike_contains_filled collation link.name ""
  rw [String.empty_append] at product
  have affected := (isAffectedBy_iff_of_exact (exactly (onlyAsset link.vendor _ vendor_ne
    name_ne))).mp ⟨vendor, product⟩
  exact not_infix_folded special affected.2

end Special

/-- The list is exact for every choice among affected products and every inventory exactly when no
vendor and no name of a product with a vendor has a character which is special in a pattern. -/
theorem affected_assets_exact_iff (collation : Collation) (links : Table AffectedProduct.link)
    (cveId : String) :
    (∀ chosen : Table AffectedProduct.link, chosen.rows ⊆ links.rows → ∀ inventory,
        IsExact collation chosen inventory cveId) ↔
      ∀ link ∈ links.rows, link.cveId = cveId → IsHarmless collation link := by
  constructor
  · rintro exactly link member rfl
    have only : (onlyLink link).rows ⊆ links.rows :=
      List.cons_subset.mpr ⟨member, List.nil_subset _⟩
    by_cases none : link.vendor = ""
    · exact .inl none
    · exact .inr ⟨isPlain_vendor_of_exact (exactly _ only),
        isPlain_name_of_exact none (exactly _ only)⟩
  · intro harmless chosen subset inventory
    exact isExact_of_harmless fun link member => harmless link (subset member)

namespace AssetSample

theorem toNat_toLower (c : Char) :
    c.toLower.toNat = if 65 ≤ c.toNat ∧ c.toNat ≤ 90 then c.toNat + 32 else c.toNat := by
  have low : c.val ≥ 'A'.val ↔ 65 ≤ c.toNat := Iff.rfl
  have high : c.val ≤ 'Z'.val ↔ c.toNat ≤ 90 := Iff.rfl
  delta Char.toLower
  simp only [low, high]
  split_ifs with upper
  · change (c.val + 32).toNat = c.val.toNat + 32
    have small : c.val.toNat ≤ 90 := upper.2
    rw [UInt32.toNat_add]
    exact Nat.mod_eq_of_lt (by change c.val.toNat + 32 < 2 ^ 32; omega)
  · rfl

theorem keepsSpecial_toLower : KeepsSpecial Char.toLower := by
  intro special listed c
  have apart : special.toNat < 65 ∨ (90 < special.toNat ∧ special.toNat < 97) := by
    simp only [List.mem_cons, List.not_mem_nil, or_false] at listed
    rcases listed with rfl | rfl | rfl <;> decide
  rw [← Char.toNat_inj, ← Char.toNat_inj, toNat_toLower]
  split_ifs
  · omega
  · rfl

/-- Letters are compared without regard to case, and a backslash is an escape. -/
def collation : Collation where
  fold := Char.toLower
  escapes := true
  keeps := keepsSpecial_toLower

/-- A product whose name has an underscore. -/
def link : AffectedProduct where
  cveId := "CVE-2024-00001"
  vendor := "acme"
  name := "gate_1"
  versionRange := none

/-- Another product of the same vendor. -/
def inventory : Inventory :=
  onlyAsset "Acme" "Gate21" (by decide) (by decide)

end AssetSample

/-- The underscore of a name matches a digit of another product. -/
theorem listed_of_underscore :
    ¬ IsExact AssetSample.collation (onlyLink AssetSample.link) AssetSample.inventory
      "CVE-2024-00001" := by
  intro exactly
  have affected := (isAffectedBy_iff_of_exact exactly).mp
    ⟨by decide, by decide⟩
  exact absurd affected (by decide)

end ZeroShield.Assurance
