import ZeroShield.Generators.Vpn
import ZeroShield.Generators.Telecom
import ZeroShield.Strategies.Domains

/-!
# The decisions which generated cases expect

A generated case expects what the strict mitigation decides exactly if the configured limits are on
the same side of its lengths as the constants of the mitigation.
-/

namespace ZeroShield.Generators

open Foundation Models Strategies

variable (builtins : Builtins)

/-- The mitigation decides what the case expects. -/
def Agrees (domain : Domain) (case : TestCase) : Prop :=
  decisionOf (mitigation builtins domain case.inputData) = case.expectedOutcome

variable {builtins}

theorem agrees_accepted {domain : Domain} {case : TestCase}
    (expected : case.expectedOutcome = .accepted) : Agrees builtins domain case ↔
      decisionOf (mitigation builtins domain case.inputData) = .accepted := by
  rw [Agrees, expected]

theorem agrees_blocked {domain : Domain} {case : TestCase}
    (expected : case.expectedOutcome = .blocked) : Agrees builtins domain case ↔
      ¬ decisionOf (mitigation builtins domain case.inputData) = .accepted := by
  rw [Agrees, expected, blocked_iff]

/-! ## Lists of pairs of texts -/

section Pairs

variable {headers : List (String × String)}

theorem pairs_pairList :
    pairs (pairList headers) = headers.map fun pair => (.str pair.1, .str pair.2) := by
  rw [pairs, pairList, asList, List.filterMap_map]
  exact List.filterMap_eq_map (f := fun pair : String × String =>
    (Json.str pair.1, Json.str pair.2))
    ▸ rfl

theorem keySet_texts : keySet (headers.map fun pair => (.str pair.1, .str pair.2)) =
    .ok (headers.map fun pair => .str pair.1) := by
  rw [keySet]
  have hashed : (headers.map fun pair => ((.str pair.1, .str pair.2) : Json × Json)).forM
      (fun pair => hash pair.1) = .ok () := by
    induction headers with
    | nil => rfl
    | cons pair headers ih => exact ih
  rw [hashed, List.map_map]
  rfl

theorem hasDuplicate_texts {names : List String} :
    hasDuplicate (names.map .str) = false ↔ names.Nodup := by
  induction names with
  | nil => simp [hasDuplicate]
  | cons name names ih =>
      rw [List.map_cons, hasDuplicate, Bool.or_eq_false_iff, ih, List.nodup_cons]
      refine and_congr_left fun _ => ?_
      rw [List.any_map, List.any_eq_false]
      constructor
      · intro different member
        exact different name member (str_equal.mpr rfl)
      · intro absent other member same
        exact absent (Json.str.inj (str_equal.mp same) ▸ member)

theorem any_longer {limit : ℕ} :
    ((pairs (pairList headers)).any fun pair => limit < (builtins.str pair.2).length) = false ↔
      ∀ pair ∈ headers, pair.2.length ≤ limit := by
  rw [pairs_pairList, List.any_map, List.any_eq_false]
  refine forall₂_congr fun pair _ => ?_
  change ¬ decide (limit < pair.2.length) = true ↔ _
  rw [decide_eq_true_eq, Nat.not_lt]

end Pairs

/-! ## Requests -/

/-- A request of the shape which is generated. -/
def request (method path : String) (headers : List (String × String)) (declared actual : ℤ)
    (encoding : String) : Json :=
  .obj
    [("method", .str method), ("path", .str path), ("headers", pairList headers),
      ("declared_content_length", .int declared), ("actual_body_length", .int actual),
      ("encoding", .str encoding)]

open StrictSchemaCanonicalisationMitigation in
/-- A request is accepted within the limits of the mitigation. -/
theorem accepts_request {method path : String} {headers : List (String × String)}
    {declared actual : ℤ} {encoding : String} :
    decisionOf (mitigation builtins .vpn (request method path headers declared actual encoding)) =
        .accepted ↔
      (method ≠ "" ∧ path ≠ "") ∧
      (path.length ≤ 256 ∧ (0 ≤ declared ∧ declared ≤ 8192) ∧ declared = actual ∧
        ∀ pair ∈ headers, pair.2.length ≤ 512) ∧
      (headers.map Prod.fst).Nodup ∧ encoding ∈ ["utf-8", "ascii"] ∧
      ∀ marker ∈ pathTraversalMarkers, ¬ marker.toList <:+: builtins.lower path := by
  refine StrictSchemaCanonicalisationMitigation.accepts_iff.trans ?_
  have schema : failsSchemaCheck (request method path headers declared actual encoding) = false ↔
      method ≠ "" ∧ path ≠ "" := by
    change (!decide (method ≠ "") || !decide (path ≠ "")) = false ↔ _
    simp
  have length : failsLengthChecks builtins
      (request method path headers declared actual encoding) = false ↔
        path.length ≤ 256 ∧ (0 ≤ declared ∧ declared ≤ 8192) ∧ declared = actual ∧
          ∀ pair ∈ headers, pair.2.length ≤ 512 := by
    change (decide (256 < path.length) || (decide (declared < 0) || decide (8192 < declared)) ||
      !decide ((declared : ℚ) = actual) ||
      (pairs (pairList headers)).any (fun pair => 512 < (builtins.str pair.2).length) ||
      ([] : List (String × Json)).any fun field => 512 < (builtins.str field.2).length) = false ↔ _
    simp only [Bool.or_eq_false_iff, any_longer]
    simp [and_assoc]
  have duplicates : failsDuplicateFieldCheck
      (request method path headers declared actual encoding) = .ok false ↔
        (headers.map Prod.fst).Nodup := by
    change (keySet (pairs (pairList headers)) >>= fun keys => .ok (hasDuplicate keys)) = _ ↔ _
    rw [pairs_pairList, keySet_texts, ← hasDuplicate_texts, List.map_map]
    change Except.ok (hasDuplicate _) = .ok false ↔ _
    rw [Except.ok.injEq]
    rfl
  have type : failsTypeCheck (request method path headers declared actual encoding) = .ok false ↔
      encoding ∈ ["utf-8", "ascii"] := by
    change Except.ok (!allowedEncodings.any (equal (.str encoding))) = _ ↔ _
    rw [Except.ok.injEq, Bool.not_eq_false', List.any_eq_true]
    simp [allowedEncodings, equal_str]
  have markers : failsPathCanonicalisationCheck builtins
      (request method path headers declared actual encoding) = false ↔
        ∀ marker ∈ pathTraversalMarkers, ¬ marker.toList <:+: builtins.lower path := by
    change (pathTraversalMarkers.any fun marker => marker.toList <:+: builtins.lower path) = _ ↔ _
    simp [List.any_eq_false]
  rw [← schema, ← length, ← duplicates, ← type, ← markers]
  constructor
  · rintro ⟨schema, length, duplicates, type, path⟩
    exact ⟨schema, length, duplicates, type, path⟩
  · rintro ⟨schema, length, duplicates, type, path⟩
    exact ⟨schema, length, duplicates, type, path⟩

/-- A path of letters and slashes has no marker. -/
theorem no_marker {path : String} (plain : ∀ c ∈ path.toList, c.toNat < 128 ∧ c ≠ '.' ∧ c ≠ '%') :
    ∀ marker ∈ StrictSchemaCanonicalisationMitigation.pathTraversalMarkers,
      ¬ marker.toList <:+: builtins.lower path := by
  intro marker member inside
  rw [builtins.lower_ascii fun c stored => (plain c stored).1] at inside
  have marked : ∀ marker ∈ StrictSchemaCanonicalisationMitigation.pathTraversalMarkers,
      '.' ∈ marker.toList ∨ '%' ∈ marker.toList := by decide
  have lowered : ∀ code < 128, (Char.ofNat code).toLower = '.' ∨ (Char.ofNat code).toLower = '%' →
      Char.ofNat code = '.' ∨ Char.ofNat code = '%' := by decide
  have found : ∃ c ∈ path.toList, c.toLower = '.' ∨ c.toLower = '%' := by
    rcases marked marker member with dot | percent
    · obtain ⟨c, stored, same⟩ := List.mem_map.mp (inside.subset dot)
      exact ⟨c, stored, Or.inl same⟩
    · obtain ⟨c, stored, same⟩ := List.mem_map.mp (inside.subset percent)
      exact ⟨c, stored, Or.inr same⟩
  obtain ⟨c, stored, same⟩ := found
  obtain ⟨ascii, noDot, noPercent⟩ := plain c stored
  have original := lowered c.toNat ascii
  rw [Char.ofNat_toNat] at original
  rcases original same with dot | percent
  · exact noDot dot
  · exact noPercent percent

/-! ## Messages -/

/-- A message of the shape which is generated. -/
def message (state method : String) (headers : List (String × String))
    (sequence expectedSequence : ℤ) (attributes : List (String × String)) (declared actual : ℤ) :
    Json :=
  .obj
    [("method", .str method), ("session_state", .str state), ("headers", pairList headers),
      ("sequence_number", .int sequence), ("expected_sequence_number", .int expectedSequence),
      ("sdp_attributes", pairList attributes), ("declared_body_length", .int declared),
      ("actual_body_length", .int actual)]

open StrictGrammarStateMachineMitigation in
/-- A message is accepted within the limits of the mitigation. -/
theorem accepts_message {state method : String} {headers attributes : List (String × String)}
    {sequence expectedSequence declared actual : ℤ} :
    decisionOf (mitigation builtins .telecom (message state method headers sequence expectedSequence
        attributes declared actual)) = .accepted ↔
      ((∀ name ∈ mandatoryHeaders, name ∈ headers.map Prod.fst) ∧ (headers.map Prod.fst).Nodup ∧
        ((0 ≤ declared ∧ declared ≤ 4096) ∧ declared = actual ∧
          ∀ pair ∈ attributes, pair.2.length ≤ 256) ∧
        (state, method) ∈ legalTransitions) ∧ sequence = expectedSequence := by
  refine StrictGrammarStateMachineMitigation.accepts_iff.trans ?_
  generalize written : message state method headers sequence expectedSequence attributes declared
    actual = inputData
  have mandatory : failsMandatoryFieldCheck inputData = .ok false ↔
      ∀ name ∈ mandatoryHeaders, name ∈ headers.map Prod.fst := by
    rw [← written]
    change (keySet (pairs (pairList headers)) >>= fun keys =>
      .ok (!mandatoryHeaders.all fun name => keys.any (equal (.str name)))) = _ ↔ _
    rw [pairs_pairList, keySet_texts]
    change Except.ok _ = _ ↔ _
    rw [Except.ok.injEq, Bool.not_eq_false', List.all_eq_true]
    refine forall₂_congr fun name _ => ?_
    rw [List.any_map, List.any_eq_true, List.mem_map]
    refine exists_congr fun pair => and_congr_right fun _ => ?_
    exact str_equal.trans (by rw [Json.str.injEq])
  have duplicates : failsDuplicateHeaderCheck inputData = .ok false ↔
      (headers.map Prod.fst).Nodup := by
    rw [← written]
    change (keySet (pairs (pairList headers)) >>= fun keys => .ok (hasDuplicate keys)) = _ ↔ _
    rw [pairs_pairList, keySet_texts, ← hasDuplicate_texts, List.map_map]
    change Except.ok (hasDuplicate _) = .ok false ↔ _
    rw [Except.ok.injEq]
    rfl
  have size : failsSizeLimitChecks builtins inputData = false ↔
      (0 ≤ declared ∧ declared ≤ 4096) ∧ declared = actual ∧
        ∀ pair ∈ attributes, pair.2.length ≤ 256 := by
    rw [← written]
    change ((decide (declared < 0) || decide (4096 < declared)) ||
      !decide ((declared : ℚ) = actual) ||
      (pairs (pairList attributes)).any (fun pair => 256 < (builtins.str pair.2).length)) = false ↔
        _
    simp only [Bool.or_eq_false_iff, any_longer]
    simp [and_assoc]
  have transition : failsStateMachineCheck inputData = .ok false ↔
      (state, method) ∈ legalTransitions := by
    rw [← written]
    change Except.ok (!legalTransitions.any fun transition =>
      equal (.str state) (.str transition.1) && equal (.str method) (.str transition.2)) = _ ↔ _
    rw [Except.ok.injEq, Bool.not_eq_false', List.any_eq_true]
    simp [legalTransitions, equal_str]
  have sequenced : failsSequenceValidation inputData = false ↔ sequence = expectedSequence := by
    rw [← written]
    change (!decide ((sequence : ℚ) = expectedSequence)) = false ↔ _
    simp
  rw [← mandatory, ← duplicates, ← size, ← transition, ← sequenced]
  refine and_congr_left fun _ => ?_
  constructor
  · rintro ⟨mandatory, duplicates, size, state⟩
    exact ⟨mandatory, duplicates, size, state⟩
  · rintro ⟨mandatory, duplicates, size, state⟩
    exact ⟨mandatory, duplicates, size, state⟩

/-- All cases of a number of rounds agree if there is none, or those of a round do. -/
theorem forall_flatMap_range {count : ℕ} {build : ℕ → List TestCase} {property : TestCase → Prop}
    {needed : Prop} (iff : ∀ index, (∀ case ∈ build index, property case) ↔ needed) :
    (∀ case ∈ (List.range count).flatMap build, property case) ↔ count = 0 ∨ needed := by
  cases count with
  | zero => simp
  | succ count =>
      constructor
      · intro all
        refine Or.inr ((iff 0).mp fun case member => all case ?_)
        exact List.mem_flatMap.mpr ⟨0, by simp, member⟩
      · rintro (impossible | needed) case member
        · cases impossible
        · obtain ⟨index, -, built⟩ := List.mem_flatMap.mp member
          exact (iff index).mpr needed case built

/-! ## Generated requests -/

namespace VPNDatasetGenerator

theorem agrees_validCase (index : ℕ) (draw : ℚ) : Agrees builtins .vpn (validCase index draw) := by
  refine (agrees_accepted rfl).mpr ?_
  have method : (if draw < 1 / 2 then "GET" else "POST") ≠ "" := by
    split <;> decide
  have paths : ∀ path ∈ validPaths, path ≠ "" ∧ path.length ≤ 256 ∧
      ∀ c ∈ path.toList, c.toNat < 128 ∧ c ≠ '.' ∧ c ≠ '%' := by decide
  obtain ⟨nonempty, short, plain⟩ := paths _ (cycled_mem (by decide) index)
  exact Iff.mpr accepts_request ⟨⟨method, nonempty⟩, ⟨short, by decide, rfl, by decide⟩, by decide,
    by decide, no_marker plain⟩

/-- A path of a length which is at least that of its stem. -/
theorem accepts_boundary (count : ℤ) :
    decisionOf (mitigation builtins .vpn (.obj (baseRequest ("/remote/" ++ repeated 'a' count)))) =
      .accepted ↔ count ≤ 248 := by
  have text : ("/remote/" ++ repeated 'a' count).toList =
      "/remote/".toList ++ List.replicate count.toNat 'a' := by
    simp only [repeated, String.toList_append, String.toList_ofList]
  have length : ("/remote/" ++ repeated 'a' count).length = 8 + count.toNat := by
    rw [← String.length_toList, text, List.length_append, List.length_replicate]
    rfl
  have plain : ∀ c ∈ ("/remote/" ++ repeated 'a' count).toList,
      c.toNat < 128 ∧ c ≠ '.' ∧ c ≠ '%' := by
    intro c member
    rw [text, List.mem_append] at member
    have stem : ∀ c ∈ "/remote/".toList, c.toNat < 128 ∧ c ≠ '.' ∧ c ≠ '%' := by decide
    rcases member with first | later
    · exact stem c first
    · rw [(List.mem_replicate.mp later).2]
      decide
  have nonempty : "/remote/" ++ repeated 'a' count ≠ "" := by
    intro empty
    rw [empty] at length
    change 0 = _ at length
    omega
  refine Iff.trans accepts_request ?_
  rw [length]
  constructor
  · rintro ⟨-, ⟨short, -⟩, -⟩
    omega
  · intro small
    exact ⟨⟨by decide, nonempty⟩, ⟨by omega, by decide, rfl, by decide⟩, by decide, by decide,
      no_marker plain⟩

/-- The boundary cases agree at one limit. -/
theorem agrees_boundaryCases {maxPathLength : ℕ} (index : ℕ) :
    (∀ case ∈ boundaryCases maxPathLength index, Agrees builtins .vpn case) ↔
      maxPathLength = 256 := by
  rw [boundaryCases, List.forall_mem_cons, List.forall_mem_singleton, agrees_accepted rfl,
    agrees_blocked rfl]
  refine (and_congr (accepts_boundary _) (not_congr (accepts_boundary _))).trans ?_
  have stem : ("/remote/".length : ℤ) = 8 := by decide
  rw [stem]
  omega

theorem agrees_oversizedCase {maxBodyLength : ℕ} (index draw : ℕ) :
    Agrees builtins .vpn (oversizedCase maxBodyLength index draw) ↔
      8192 < maxBodyLength + 1 + draw := by
  have accepts : decisionOf (mitigation builtins .vpn
      (oversizedCase maxBodyLength index draw).inputData) = .accepted ↔ _ := accepts_request
  rw [agrees_blocked rfl, accepts]
  constructor
  · intro rejected
    by_contra small
    exact rejected ⟨by decide, ⟨by decide, by omega, rfl, by decide⟩, by decide, by decide,
      no_marker (by decide)⟩
  · rintro large ⟨-, ⟨-, within, -⟩, -⟩
    omega

theorem agrees_duplicateCase (index : ℕ) : Agrees builtins .vpn (duplicateCase index) := by
  refine (agrees_blocked rfl).mpr fun accepted => ?_
  obtain ⟨-, -, distinct, -⟩ := Iff.mp accepts_request accepted
  exact absurd distinct (by decide)

theorem agrees_mismatchedLengthCase (index draw : ℕ) :
    Agrees builtins .vpn (mismatchedLengthCase index draw) := by
  refine (agrees_blocked rfl).mpr fun accepted => ?_
  obtain ⟨-, ⟨-, -, same, -⟩, -⟩ := Iff.mp accepts_request accepted
  omega

theorem agrees_unsupportedEncodingCase (index : ℕ) :
    Agrees builtins .vpn (unsupportedEncodingCase index) := by
  refine (agrees_blocked rfl).mpr fun accepted => ?_
  obtain ⟨-, -, -, supported, -⟩ := Iff.mp accepts_request accepted
  have unsupported : ∀ encoding ∈ unsupportedEncodings, encoding ∉ ["utf-8", "ascii"] := by decide
  exact unsupported _ (cycled_mem (by decide) index) supported

theorem agrees_invalidPathCase (index : ℕ) : Agrees builtins .vpn (invalidPathCase index) := by
  refine (agrees_blocked rfl).mpr fun accepted => ?_
  obtain ⟨-, -, -, -, unmarked⟩ := Iff.mp accepts_request accepted
  have marked : ∀ path ∈ pathTraversalPatterns, (∀ c ∈ path.toList, c.toNat < 128) ∧
      ∃ marker ∈ StrictSchemaCanonicalisationMitigation.pathTraversalMarkers,
        marker.toList <:+: path.toList.map Char.toLower := by decide
  obtain ⟨ascii, marker, member, inside⟩ := marked _ (cycled_mem (by decide) index)
  rw [← builtins.lower_ascii ascii] at inside
  exact unmarked marker member inside

/-- The limits of the configuration and the draws lie where those of the mitigation do. -/
def AtLimits (source : Random) (seed : ℤ) (config : VPNGeneratorConfig) : Prop :=
  (config.boundaryCount = 0 ∨ config.maxPathLength = 256) ∧
    ∀ draw ∈ oversizedDraws source seed config, 8192 < config.maxBodyLength + 1 + draw

/-- The cases in their order, with the states which the loops leave. -/
theorem cases_eq {source : Random} {seed : ℤ} {config : VPNGeneratorConfig} :
    let valid := (forRange config.validCount fun index => do
      return validCase index (← source.random)).run (source.seeded seed)
    let oversized := (forRange config.oversizedCount fun index => do
      return oversizedCase config.maxBodyLength index (← source.randint 0 1000)).run valid.2
    let mismatched := (forRange config.mismatchedLengthCount fun index => do
      return mismatchedLengthCase index (← source.randint 0 500)).run oversized.2
    (buildTestSet source seed config).cases =
      valid.1 ++ (List.range config.boundaryCount).flatMap (boundaryCases config.maxPathLength) ++
        oversized.1 ++ (List.range config.duplicateFieldCount).map duplicateCase ++ mismatched.1 ++
        (List.range config.unsupportedEncodingCount).map unsupportedEncodingCase ++
        (List.range config.invalidPathCount).map invalidPathCase :=
  rfl

/-- The generated cases agree exactly within the limits. -/
theorem forall_agrees_iff {source : Random} {seed : ℤ} {config : VPNGeneratorConfig} :
    (∀ case ∈ (buildTestSet source seed config).cases, Agrees builtins .vpn case) ↔
      AtLimits source seed config := by
  have boundary : (∀ case ∈ (List.range config.boundaryCount).flatMap
      (boundaryCases config.maxPathLength), Agrees builtins .vpn case) ↔ _ :=
    forall_flatMap_range agrees_boundaryCases
  have oversized : ∀ state, (∀ case ∈ ((forRange config.oversizedCount fun index => do
      return oversizedCase config.maxBodyLength index (← source.randint 0 1000)).run state).1,
        Agrees builtins .vpn case) ↔ _ := fun state =>
    forall_mapM_draw agrees_oversizedCase config.oversizedCount state
  rw [cases_eq]
  simp only [List.forall_mem_append, List.forall_mem_map, boundary, oversized, state_mapM_draw]
  constructor
  · rintro ⟨⟨⟨⟨⟨⟨-, limit⟩, drawn⟩, -⟩, -⟩, -⟩, -⟩
    exact ⟨limit, drawn⟩
  · rintro ⟨limit, drawn⟩
    refine ⟨⟨⟨⟨⟨⟨?_, limit⟩, drawn⟩, fun index _ => agrees_duplicateCase index⟩, ?_⟩,
      fun index _ => agrees_unsupportedEncodingCase index⟩,
      fun index _ => agrees_invalidPathCase index⟩
    · exact (forall_mapM_draw (fun index draw => iff_true_intro (agrees_validCase index draw)) _
        _).mpr fun _ _ => trivial
    · exact (forall_mapM_draw (fun index draw =>
        iff_true_intro (agrees_mismatchedLengthCase index draw)) _ _).mpr fun _ _ => trivial

end VPNDatasetGenerator

/-! ## Generated messages -/

namespace TelecomDatasetGenerator

theorem agrees_validCase (index : ℕ) : Agrees builtins .telecom (validCase index) := by
  refine (agrees_accepted rfl).mpr ?_
  have legal : ∀ transition ∈ legalTransitions,
      transition ∈ StrictGrammarStateMachineMitigation.legalTransitions := by decide
  exact Iff.mpr accepts_message ⟨⟨by decide, by decide, ⟨by decide, rfl, by decide⟩,
    legal _ (cycled_mem (by decide) index)⟩, rfl⟩

/-- A message with one attribute. -/
theorem accepts_attribute (name : String) (count : ℤ) :
    decisionOf (mitigation builtins .telecom (.obj (assign "sdp_attributes"
        (pairList [(name, repeated 'a' count)]) (baseRequest "INIT" "INVITE" 1 1)))) = .accepted ↔
      count ≤ 256 := by
  have accepts : decisionOf (mitigation builtins .telecom (.obj (assign "sdp_attributes"
      (pairList [(name, repeated 'a' count)]) (baseRequest "INIT" "INVITE" 1 1)))) =
        .accepted ↔ _ :=
    accepts_message
  have length : (repeated 'a' count).length = count.toNat := by
    rw [repeated, ← String.length_toList, String.toList_ofList, List.length_replicate]
  rw [accepts, List.forall_mem_singleton, length]
  constructor
  · rintro ⟨⟨-, -, ⟨-, -, short⟩, -⟩, -⟩
    omega
  · intro small
    exact ⟨⟨by decide, by decide, ⟨by decide, rfl, by omega⟩, by decide⟩, rfl⟩

/-- The boundary cases agree at one limit. -/
theorem agrees_boundaryCases {maxSdpAttrValueLength : ℕ} (index : ℕ) :
    (∀ case ∈ boundaryCases maxSdpAttrValueLength index, Agrees builtins .telecom case) ↔
      maxSdpAttrValueLength = 256 := by
  rw [boundaryCases, List.forall_mem_cons, List.forall_mem_singleton, agrees_accepted rfl,
    agrees_blocked rfl]
  refine (and_congr (accepts_attribute _ _) (not_congr (accepts_attribute _ _))).trans ?_
  omega

theorem agrees_oversizedCase {maxSdpAttrValueLength : ℕ} (index draw : ℕ) :
    Agrees builtins .telecom (oversizedCase maxSdpAttrValueLength index draw) ↔
      256 < maxSdpAttrValueLength + 1 + draw := by
  refine (agrees_blocked rfl).trans ((not_congr (accepts_attribute _ _)).trans ?_)
  omega

theorem agrees_missingHeaderCase (index : ℕ) : Agrees builtins .telecom
    (missingHeaderCase index) := by
  refine (agrees_blocked rfl).mpr fun accepted => ?_
  obtain ⟨⟨present, -⟩, -⟩ := Iff.mp accepts_message accepted
  have missing := present _ (@cycled_mem _ _ mandatoryHeaders (by decide) index)
  obtain ⟨pair, kept, same⟩ := List.mem_map.mp missing
  simp [same] at kept

theorem agrees_duplicateIdentityCase (index : ℕ) :
    Agrees builtins .telecom (duplicateIdentityCase index) := by
  refine (agrees_blocked rfl).mpr fun accepted => ?_
  obtain ⟨⟨-, distinct, -⟩, -⟩ := Iff.mp accepts_message accepted
  have present : ∀ name ∈ mandatoryHeaders, name ∈ headers.map Prod.fst := by decide
  rw [List.map_append, List.nodup_append] at distinct
  exact distinct.2.2 _ (present _ (cycled_mem (by decide) index)) _ (List.mem_singleton_self _) rfl

theorem agrees_mismatchedLengthCase (index draw : ℕ) :
    Agrees builtins .telecom (mismatchedLengthCase index draw) := by
  refine (agrees_blocked rfl).mpr fun accepted => ?_
  obtain ⟨⟨-, -, ⟨-, same, -⟩, -⟩, -⟩ := Iff.mp accepts_message accepted
  omega

theorem agrees_invalidSequenceCase (index : ℕ) :
    Agrees builtins .telecom (invalidSequenceCase index) := by
  refine (agrees_blocked rfl).mpr fun accepted => ?_
  obtain ⟨-, same⟩ := Iff.mp accepts_message accepted
  omega

theorem agrees_invalidTransitionCase (index : ℕ) :
    Agrees builtins .telecom (invalidTransitionCase index) := by
  refine (agrees_blocked rfl).mpr fun accepted => ?_
  obtain ⟨⟨-, -, -, legal⟩, -⟩ := Iff.mp accepts_message accepted
  have illegal : ∀ transition ∈ illegalPairs,
      transition ∉ StrictGrammarStateMachineMitigation.legalTransitions := by decide
  exact illegal _ (cycled_mem (by decide) index) legal

/-- The limit of the configuration and the draws lie where that of the mitigation does. -/
def AtLimits (source : Random) (seed : ℤ) (config : TelecomGeneratorConfig) : Prop :=
  (config.boundaryCount = 0 ∨ config.maxSdpAttrValueLength = 256) ∧
    ∀ draw ∈ oversizedDraws source seed config, 256 < config.maxSdpAttrValueLength + 1 + draw

/-- The cases in their order, with the state which the first loop leaves. -/
theorem cases_eq {source : Random} {seed : ℤ} {config : TelecomGeneratorConfig} :
    let oversized := (forRange config.oversizedFieldCount fun index => do
      return oversizedCase config.maxSdpAttrValueLength index (← source.randint 0 500)).run
        (source.seeded seed)
    let mismatched := (forRange config.mismatchedLengthCount fun index => do
      return mismatchedLengthCase index (← source.randint 0 500)).run oversized.2
    (buildTestSet source seed config).cases =
      (List.range config.validCount).map validCase ++
        (List.range config.boundaryCount).flatMap (boundaryCases config.maxSdpAttrValueLength) ++
        oversized.1 ++ (List.range config.missingHeaderCount).map missingHeaderCase ++
        (List.range config.duplicateIdentityCount).map duplicateIdentityCase ++ mismatched.1 ++
        (List.range config.invalidSequenceCount).map invalidSequenceCase ++
        (List.range config.invalidTransitionCount).map invalidTransitionCase :=
  rfl

/-- The generated cases agree exactly within the limits. -/
theorem forall_agrees_iff {source : Random} {seed : ℤ} {config : TelecomGeneratorConfig} :
    (∀ case ∈ (buildTestSet source seed config).cases, Agrees builtins .telecom case) ↔
      AtLimits source seed config := by
  have boundary : (∀ case ∈ (List.range config.boundaryCount).flatMap
      (boundaryCases config.maxSdpAttrValueLength), Agrees builtins .telecom case) ↔ _ :=
    forall_flatMap_range agrees_boundaryCases
  have oversized : ∀ state, (∀ case ∈ ((forRange config.oversizedFieldCount fun index => do
      return oversizedCase config.maxSdpAttrValueLength index
        (← source.randint 0 500)).run state).1,
        Agrees builtins .telecom case) ↔ _ := fun state =>
    forall_mapM_draw agrees_oversizedCase config.oversizedFieldCount state
  rw [cases_eq]
  simp only [List.forall_mem_append, List.forall_mem_map, boundary, oversized]
  constructor
  · rintro ⟨⟨⟨⟨⟨⟨⟨-, limit⟩, drawn⟩, -⟩, -⟩, -⟩, -⟩, -⟩
    exact ⟨limit, drawn⟩
  · rintro ⟨limit, drawn⟩
    refine ⟨⟨⟨⟨⟨⟨⟨fun index _ => agrees_validCase index, limit⟩, drawn⟩,
      fun index _ => agrees_missingHeaderCase index⟩,
      fun index _ => agrees_duplicateIdentityCase index⟩, ?_⟩,
      fun index _ => agrees_invalidSequenceCase index⟩,
      fun index _ => agrees_invalidTransitionCase index⟩
    exact (forall_mapM_draw (fun index draw =>
      iff_true_intro (agrees_mismatchedLengthCase index draw)) _ _).mpr fun _ _ => trivial

end TelecomDatasetGenerator

/-! ## Both generators -/

/-- A generated dataset expects what the mitigation decides exactly within the limits. -/
theorem groundTruth_iff (builtins : Builtins) (source : Random) (canonicalSha256 : TestSet → String)
    (seed : ℤ) (generatedAt : DateTime) :
    (∀ config dataset,
      (vpnDatasetGenerator source).generate canonicalSha256 seed config generatedAt =
        .ok dataset →
      ((∀ case ∈ dataset.testSet.cases, Agrees builtins .vpn case) ↔
        VPNDatasetGenerator.AtLimits source seed config)) ∧
    ∀ config dataset, (telecomDatasetGenerator source).generate canonicalSha256 seed config
        generatedAt = .ok dataset →
      ((∀ case ∈ dataset.testSet.cases, Agrees builtins .telecom case) ↔
        TelecomDatasetGenerator.AtLimits source seed config) := by
  constructor
  · intro config dataset generated
    rw [testSet_of_generate generated]
    exact VPNDatasetGenerator.forall_agrees_iff
  · intro config dataset generated
    rw [testSet_of_generate generated]
    exact TelecomDatasetGenerator.forall_agrees_iff

namespace Sample

/-- A source whose draws are the lower bounds. -/
def source : Random where
  State := ℕ
  seeded seed := seed.toNat
  random state := (0, state + 1)
  randint lower _ state := (lower, state + 1)

/-- Two boundary cases and nothing else. -/
def config (maxPathLength : ℕ) (positive : 0 < maxPathLength) : VPNGeneratorConfig :=
  { validCount := 0
    oversizedCount := 0
    duplicateFieldCount := 0
    mismatchedLengthCount := 0
    unsupportedEncodingCount := 0
    invalidPathCount := 0
    maxPathLength
    maxPathLength_pos := positive }

theorem generates : ∃ dataset, (vpnDatasetGenerator source).generate (fun _ => "") 1
    (config 300 (by decide)) 0 = .ok dataset := by
  have valid : ((vpnDatasetGenerator source).buildTestSet 1 (config 300 (by decide))).errors =
    [] := by
    decide
  rw [DatasetGenerator.generate, if_pos valid]
  exact ⟨_, rfl⟩

end Sample

/-- The sample source with a limit of 300 characters is not within the limits. -/
theorem groundTruth_iff_of_sample : ∃ dataset,
    (vpnDatasetGenerator Sample.source).generate (fun _ => "") 1
        (Sample.config 300 (by decide)) 0 = .ok dataset ∧
      ¬ ∀ case ∈ dataset.testSet.cases, Agrees Strategies.Sample.builtins .vpn case := by
  obtain ⟨dataset, generated⟩ := Sample.generates
  refine ⟨dataset, generated, ?_⟩
  have iff := (groundTruth_iff Strategies.Sample.builtins Sample.source (fun _ => "") 1 0).1 _
    dataset generated
  rw [iff]
  rintro ⟨none | same, -⟩
  · cases none
  · cases same

/-- With a limit of 300 characters a path of 300 characters is expected to be accepted. -/
theorem not_groundTruth_of_limit :
    ¬ ∀ (builtins : Builtins) (source : Random) (canonicalSha256 : TestSet → String) (seed : ℤ)
        (generatedAt : DateTime) (config : VPNGeneratorConfig)
        (dataset : GeneratedDataset VPNGeneratorConfig),
      (vpnDatasetGenerator source).generate canonicalSha256 seed config generatedAt = .ok dataset →
        ∀ case ∈ dataset.testSet.cases, Agrees builtins .vpn case := by
  intro claim
  obtain ⟨dataset, generated⟩ := Sample.generates
  have agree := claim Strategies.Sample.builtins Sample.source (fun _ => "") 1 0 _ dataset generated
  rw [testSet_of_generate generated] at agree
  obtain ⟨none | same, -⟩ := VPNDatasetGenerator.forall_agrees_iff.mp agree
  · cases none
  · cases same

end ZeroShield.Generators
