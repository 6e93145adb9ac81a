import Mathlib.Data.List.Sort
import Mathlib.Data.String.Basic
import ZeroShield.Foundation.Text
import ZeroShield.Foundation.Words
import ZeroShield.Intelligence.Priority

/-!
# Candidates for a validation

A vulnerability is attributed to a domain by the listed terms which its text contains.  The text is
searched for the terms as they are, so a term is also found inside of longer words.
-/

namespace ZeroShield.Intelligence

open Foundation Models

def vpnStrongTerms : List String :=
  ["vpn", "ssl-vpn", "ssl vpn", "ipsec"]

def vpnProductTerms : List String :=
  ["fortios", "forticlient", "pulse secure", "ivanti connect secure", "ivanti policy secure",
    "globalprotect", "anyconnect", "openvpn", "wireguard", "pptp", "l2tp", "sonicwall"]

def telecomStrongTerms : List String :=
  ["telecom", "telecommunications", "baseband", "cellular"]

def telecomProductTerms : List String :=
  ["sip", "diameter", "gtp", "volte", "ims", "3gpp", "ss7", "asterisk", "freeswitch", "modem",
    "rcs", "radio access", "ios xe"]

structure DomainClassification where
  domain : Option Domain
  supportStatus : SupportStatus
  matchedTerms : List String
  deriving DecidableEq

/-- The terms which a text contains, in their order. -/
def occurring (terms : List String) (text : String) : List String :=
  (terms.filter fun term => term.toList <:+: text.toList).insertionSort (· ≤ ·)

/-- The classification by the terms which were found. -/
def classification (vpnStrong vpnProduct telecomStrong telecomProduct : List String) :
    DomainClassification :=
  let vpnHits := vpnStrong ++ vpnProduct
  let telecomHits := telecomStrong ++ telecomProduct
  if vpnHits ≠ [] ∧ telecomHits ≠ [] then ⟨none, .partiallySupported, vpnHits ++ telecomHits⟩
  else if vpnProduct ≠ [] then ⟨some .vpn, .supported, vpnHits⟩
  else if vpnStrong ≠ [] then ⟨some .vpn, .partiallySupported, vpnHits⟩
  else if telecomProduct ≠ [] then ⟨some .telecom, .supported, telecomHits⟩
  else if telecomStrong ≠ [] then ⟨some .telecom, .partiallySupported, telecomHits⟩
  else ⟨none, .unsupported, []⟩

section Classify

variable (lower : String → String)

/-- The vendor, the description and the weaknesses of a vulnerability in lower case, without those
which are missing or empty. -/
def classifiedText (vulnerability : Vulnerability) : String :=
  let parts := [vulnerability.vendor, vulnerability.description].reduceOption ++
    vulnerability.cweIds
  lower (" ".intercalate (parts.filter (· ≠ "")))

def classifyDomain (vulnerability : Vulnerability) : DomainClassification :=
  let text := classifiedText lower vulnerability
  classification (occurring vpnStrongTerms text) (occurring vpnProductTerms text)
    (occurring telecomStrongTerms text) (occurring telecomProductTerms text)

/-- The errors of a candidate. -/
def ValidationCandidate.errors (candidate : ValidationCandidate) : List FieldError :=
  require (isCveId candidate.cveId) ["cve_id"] .stringPatternMismatch ++
    requireUpTo "priority_score" 100 (some candidate.priorityScore) ++
    require (candidate.explanation ≠ []) ["explanation"] .tooShort

/-- The candidate for a vulnerability unless its domain is not supported. -/
def generateCandidate (vulnerability : Vulnerability)
    (experimentIdsByCve : List (String × List String)) (weights : PriorityWeights)
    (now : DateTime) : Except ValidationError (Option ValidationCandidate) :=
  let classification := classifyDomain lower vulnerability
  if classification.supportStatus = .unsupported then .ok none
  else
    let matchingExperimentIds := (experimentIdsByCve.lookup vulnerability.cveId).getD []
    let result := score vulnerability classification.supportStatus (matchingExperimentIds ≠ [])
      weights
    let candidate : ValidationCandidate :=
      { cveId := vulnerability.cveId
        domain := classification.domain
        supportStatus := classification.supportStatus
        priorityScore := result.score
        priorityLabel := result.label
        explanation := result.explanation
        existingExperimentIds := matchingExperimentIds
        generatedAt := now }
    let errors := ValidationCandidate.errors candidate
    if errors ≠ [] then .error ⟨"ValidationCandidate", errors⟩ else .ok (some candidate)

end Classify

/-! ## The terms which are found -/

/-- The listed terms for the products of a domain. -/
def productTerms : Domain → List String
  | .vpn => vpnProductTerms
  | .telecom => telecomProductTerms

/-- All listed terms of a domain. -/
def listedTerms : Domain → List String
  | .vpn => vpnStrongTerms ++ vpnProductTerms
  | .telecom => telecomStrongTerms ++ telecomProductTerms

theorem mem_occurring {terms : List String} {text term : String} :
    term ∈ occurring terms text ↔ term ∈ terms ∧ term.toList <:+: text.toList := by
  rw [occurring, List.mem_insertionSort, List.mem_filter, decide_eq_true_iff]

theorem occurring_eq_nil {terms : List String} {text : String} :
    occurring terms text = [] ↔ ∀ term ∈ terms, ¬ term.toList <:+: text.toList := by
  simp only [List.eq_nil_iff_forall_not_mem, mem_occurring, not_and]

/-- All terms which were found are reported. -/
theorem matchedTerms_classification
    (vpnStrong vpnProduct telecomStrong telecomProduct : List String) :
    (classification vpnStrong vpnProduct telecomStrong telecomProduct).matchedTerms =
      vpnStrong ++ vpnProduct ++ (telecomStrong ++ telecomProduct) := by
  unfold classification
  dsimp only
  split_ifs with both product strong otherProduct otherStrong
  · rfl
  · have other : telecomStrong ++ telecomProduct = [] := by
      by_contra some_other
      exact both ⟨List.append_ne_nil_of_right_ne_nil _ product, some_other⟩
    rw [other, List.append_nil]
  · have other : telecomStrong ++ telecomProduct = [] := by
      by_contra some_other
      exact both ⟨List.append_ne_nil_of_left_ne_nil strong _, some_other⟩
    rw [other, List.append_nil]
  · rw [not_not.mp product, not_not.mp strong, List.append_nil, List.nil_append]
  · rw [not_not.mp product, not_not.mp strong, List.append_nil, List.nil_append]
  · rw [not_not.mp product, not_not.mp strong, not_not.mp otherProduct, not_not.mp otherStrong]
    rfl

/-- The VPN is supported only by one of its products and without any term of telecommunications. -/
theorem of_supported_vpn {vpnStrong vpnProduct telecomStrong telecomProduct : List String}
    (domain : (classification vpnStrong vpnProduct telecomStrong telecomProduct).domain = some .vpn)
    (supported : (classification vpnStrong vpnProduct telecomStrong telecomProduct).supportStatus =
      .supported) :
    vpnProduct ≠ [] ∧ telecomStrong ++ telecomProduct = [] := by
  unfold classification at domain supported
  dsimp only at domain supported
  split_ifs at domain supported with both product
  · refine ⟨product, ?_⟩
    by_contra other
    exact both ⟨List.append_ne_nil_of_right_ne_nil _ product, other⟩
  · cases domain

/-- Telecommunications are supported only by one of their products and without any term of the
VPN. -/
theorem of_supported_telecom {vpnStrong vpnProduct telecomStrong telecomProduct : List String}
    (domain : (classification vpnStrong vpnProduct telecomStrong telecomProduct).domain =
      some .telecom)
    (supported : (classification vpnStrong vpnProduct telecomStrong telecomProduct).supportStatus =
      .supported) :
    telecomProduct ≠ [] ∧ vpnStrong ++ vpnProduct = [] := by
  unfold classification at domain supported
  dsimp only at domain supported
  split_ifs at domain supported with both product strong otherProduct
  · cases domain
  · refine ⟨otherProduct, ?_⟩
    rw [not_not.mp strong, not_not.mp product, List.append_nil]

section Matches

variable {lower : String → String} {vulnerability : Vulnerability}

theorem mem_matchedTerms {term : String} :
    term ∈ (classifyDomain lower vulnerability).matchedTerms ↔
      (∃ domain, term ∈ listedTerms domain) ∧
        term.toList <:+: (classifiedText lower vulnerability).toList := by
  have domains : (∃ domain, term ∈ listedTerms domain) ↔
      (term ∈ vpnStrongTerms ∨ term ∈ vpnProductTerms) ∨
        term ∈ telecomStrongTerms ∨ term ∈ telecomProductTerms := by
    constructor
    · rintro ⟨_ | _, listed⟩
      · exact .inl (List.mem_append.mp listed)
      · exact .inr (List.mem_append.mp listed)
    · rintro (listed | listed)
      · exact ⟨.vpn, List.mem_append.mpr listed⟩
      · exact ⟨.telecom, List.mem_append.mpr listed⟩
  rw [classifyDomain, matchedTerms_classification, domains]
  simp only [List.mem_append, mem_occurring, or_and_right]

/-- A domain is supported only if the text contains a term for one of its products and none of the
other domain. -/
theorem contained_of_supported {domain : Domain}
    (isDomain : (classifyDomain lower vulnerability).domain = some domain)
    (supported : (classifyDomain lower vulnerability).supportStatus = .supported) :
    (∃ term ∈ productTerms domain,
        term.toList <:+: (classifiedText lower vulnerability).toList) ∧
      ∀ other ≠ domain, ∀ term ∈ listedTerms other,
        ¬ term.toList <:+: (classifiedText lower vulnerability).toList := by
  have found {terms : List String} {text : String} (some_term : occurring terms text ≠ []) :
      ∃ term ∈ terms, term.toList <:+: text.toList := by
    obtain ⟨term, member⟩ := List.exists_mem_of_ne_nil _ some_term
    exact ⟨term, mem_occurring.mp member⟩
  have absent {strong product : List String} {text : String}
      (none : occurring strong text ++ occurring product text = []) :
      ∀ term ∈ strong ++ product, ¬ term.toList <:+: text.toList := by
    obtain ⟨noStrong, noProduct⟩ := List.append_eq_nil_iff.mp none
    rw [occurring_eq_nil] at noStrong noProduct
    exact List.forall_mem_append.mpr ⟨noStrong, noProduct⟩
  cases domain with
  | vpn =>
      obtain ⟨product, none⟩ := of_supported_vpn isDomain supported
      refine ⟨found product, fun other different => ?_⟩
      cases other with
      | vpn => exact absurd rfl different
      | telecom => exact absent none
  | telecom =>
      obtain ⟨product, none⟩ := of_supported_telecom isDomain supported
      refine ⟨found product, fun other different => ?_⟩
      cases other with
      | vpn => exact absent none
      | telecom => exact absurd rfl different

end Matches

/-! ## Terms as words -/

section Words

variable (lower : String → String) (isAlphanumeric : Char → Bool) (vulnerability : Vulnerability)

/-- The term stands in the text of the vulnerability with no letter or digit beside it. -/
def IsWord (term : String) : Prop :=
  OccursAsWord isAlphanumeric term.toList (classifiedText lower vulnerability).toList

/-- The terms of the classification are words of the text. -/
structure MatchesWords : Prop where
  matched : ∀ term ∈ (classifyDomain lower vulnerability).matchedTerms,
    IsWord lower isAlphanumeric vulnerability term
  supported : ∀ domain, (classifyDomain lower vulnerability).domain = some domain →
    (classifyDomain lower vulnerability).supportStatus = .supported →
      (∃ term ∈ productTerms domain, IsWord lower isAlphanumeric vulnerability term) ∧
        ∀ other ≠ domain, ∀ term ∈ listedTerms other,
          ¬ IsWord lower isAlphanumeric vulnerability term

theorem mem_listedTerms_of_product {domain : Domain} {term : String}
    (product : term ∈ productTerms domain) : term ∈ listedTerms domain := by
  cases domain with
  | vpn => exact List.mem_append_right _ product
  | telecom => exact List.mem_append_right _ product

/-- The classification matches words exactly when no listed term stands in the text only inside
longer words. -/
theorem matchesWords_iff :
    MatchesWords lower isAlphanumeric vulnerability ↔
      ∀ domain, ∀ term ∈ listedTerms domain,
        ¬ OnlyInside isAlphanumeric term.toList (classifiedText lower vulnerability).toList := by
  constructor
  · intro words domain term listed inside
    have member := mem_matchedTerms.mpr ⟨⟨domain, listed⟩, inside.1⟩
    exact inside.not_occursAsWord (words.matched term member)
  · intro outside
    have isWord {domain : Domain} {term : String} (listed : term ∈ listedTerms domain)
        (occurs : term.toList <:+: (classifiedText lower vulnerability).toList) :
        IsWord lower isAlphanumeric vulnerability term :=
      (infix_iff.mp occurs).resolve_right (outside domain term listed)
    constructor
    · intro term member
      obtain ⟨⟨domain, listed⟩, occurs⟩ := mem_matchedTerms.mp member
      exact isWord listed occurs
    · intro domain isDomain supported
      obtain ⟨⟨term, product, occurs⟩, others⟩ := contained_of_supported isDomain supported
      refine ⟨⟨term, product, isWord (mem_listedTerms_of_product product) occurs⟩, ?_⟩
      intro other different term listed word
      exact others other different term listed word.isInfix

end Words

namespace CandidateSample

/-- A vulnerability of which only a description is known. -/
def described (description : String) : Vulnerability where
  cveId := "CVE-2024-00001"
  description
  publishedAt := none
  lastModifiedAt := none
  cvssScore := none
  cvssVector := none
  cvssVersion := none
  epssScore := none
  epssPercentile := none
  epssDate := none
  kevListed := false
  kevDateAdded := none
  kevDueDate := none
  kevKnownRansomware := none
  cweIds := []
  vendor := none
  domainGuess := none
  zeroClickRelevance := none
  references := []
  sources := []
  firstSeenAt := 0
  lastUpdatedAt := 0

end CandidateSample

/-- A text about claims is taken for one about telecommunications. -/
theorem claims_supported :
    classifyDomain lower (CandidateSample.described "Forged JWT claims are accepted") =
        ⟨some .telecom, .supported, ["ims"]⟩ ∧
      ¬ MatchesWords lower Char.isAlphanum
        (CandidateSample.described "Forged JWT claims are accepted") := by
  have classified : classifyDomain lower
      (CandidateSample.described "Forged JWT claims are accepted") =
        ⟨some .telecom, .supported, ["ims"]⟩ := by
    decide +kernel
  refine ⟨classified, fun words => ?_⟩
  have matched := words.matched
  rw [classified] at matched
  have word := matched "ims" (List.mem_singleton.mpr rfl)
  rw [IsWord] at word
  revert word
  decide

end ZeroShield.Intelligence
