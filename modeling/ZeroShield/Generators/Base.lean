import ZeroShield.Models.Run

/-!
# Dataset generators

A generator draws from a random stream which its seed determines.
-/

namespace ZeroShield.Generators

open Foundation Models

/-- A source of random numbers. -/
structure Random where
  State : Type
  /-- The state which a seed determines. -/
  seeded : ℤ → State
  /-- A number from zero up to one. -/
  random : State → ℚ × State
  /-- A number between two bounds, both included. -/
  randint : ℕ → ℕ → State → ℕ × State

/-- A computation which draws random numbers. -/
abbrev Rng (source : Random) : Type → Type :=
  StateM source.State

section Draws

variable {source : Random} {α β : Type}

/-- Perform the body for every number below a count. -/
def forRange (count : ℕ) (body : ℕ → Rng source α) : Rng source (List α) :=
  (List.range count).mapM body

/-- The draws of a loop which draws once in each round. -/
def draws (count : ℕ) (draw : Rng source β) : Rng source (List β) :=
  forRange count fun _ => draw

/-- A loop which draws once in each round builds from its draws. -/
theorem run_mapM_draw (draw : Rng source β) (build : ℕ → β → α) (indices : List ℕ)
    (state : source.State) :
    (indices.mapM fun index => do return build index (← draw)).run state =
      (List.zipWith build indices ((indices.mapM fun _ => draw).run state).1,
        ((indices.mapM fun _ => draw).run state).2) := by
  induction indices generalizing state with
  | nil => rfl
  | cons index indices ih =>
      rw [List.mapM_cons, List.mapM_cons]
      have rest := ih (draw.run state).2
      have built := congrArg Prod.fst rest
      have left := congrArg Prod.snd rest
      refine Prod.ext ?_ left
      exact congrArg (build index (draw.run state).1 :: ·) built

theorem length_mapM (draw : Rng source β) (indices : List ℕ) (state : source.State) :
    ((indices.mapM fun _ => draw).run state).1.length = indices.length := by
  induction indices generalizing state with
  | nil => rfl
  | cons index indices ih =>
      rw [List.mapM_cons]
      exact congrArg Nat.succ (ih (draw.run state).2)

/-- A loop leaves the state which its draws leave. -/
theorem state_mapM_draw (draw : Rng source β) (build : ℕ → β → α) (count : ℕ)
    (state : source.State) :
    ((forRange count fun index => do return build index (← draw)).run state).2 =
      ((draws count draw).run state).2 := by
  rw [forRange, run_mapM_draw]
  rfl

/-- What a loop builds from its draws has a property as far as the draws have one. -/
theorem forall_mapM_draw {draw : Rng source β} {build : ℕ → β → α} {property : α → Prop}
    {needed : β → Prop} (iff : ∀ index drawn, property (build index drawn) ↔ needed drawn)
    (count : ℕ) (state : source.State) :
    (∀ item ∈ ((forRange count fun index => do return build index (← draw)).run state).1,
      property item) ↔ ∀ drawn ∈ ((draws count draw).run state).1, needed drawn := by
  have same := length_mapM draw (List.range count) state
  rw [forRange, run_mapM_draw, draws, forRange]
  dsimp only
  generalize (((List.range count).mapM fun _ => draw).run state).1 = drawn at same ⊢
  generalize List.range count = indices at same ⊢
  induction indices generalizing drawn with
  | nil =>
      obtain rfl := List.length_eq_zero_iff.mp same
      simp
  | cons index indices ih =>
      cases drawn with
      | nil => cases same
      | cons first rest =>
          rw [List.zipWith_cons_cons, List.forall_mem_cons, List.forall_mem_cons, iff]
          exact and_congr Iff.rfl (ih rest (Nat.succ.inj same))

end Draws

/-! ## Building cases -/

/-- The item at an index, beginning again after the last one. -/
def cycled {α : Type} [Inhabited α] (items : List α) (index : ℕ) : α :=
  items[index % items.length]?.getD default

theorem cycled_mem {α : Type} [Inhabited α] {items : List α} (nonempty : items ≠ []) (index : ℕ) :
    cycled items index ∈ items := by
  have inside : index % items.length < items.length :=
    Nat.mod_lt _ (List.length_pos_iff.mpr nonempty)
  rw [cycled, List.getElem?_eq_getElem inside, Option.getD_some]
  exact List.getElem_mem inside

/-- Give a key of an object a value. -/
def assign (key : String) (value : Json) : List (String × Json) → List (String × Json)
  | [] => [(key, value)]
  | (name, old) :: fields =>
      if name = key then (name, value) :: fields else (name, old) :: assign key value fields

/-- A text repeated; a negative count is zero. -/
def repeated (c : Char) (count : ℤ) : String :=
  String.ofList (List.replicate count.toNat c)

/-- A list of pairs of texts, as headers are written. -/
def pairList (pairs : List (String × String)) : Json :=
  .arr (pairs.map fun pair => .arr [.str pair.1, .str pair.2])

def testCase (caseId : String) (category : TestCaseCategory) (inputData : List (String × Json))
    (expected : Decision) (provenance : String) : TestCase where
  caseId
  category
  inputData := .obj inputData
  expectedOutcome := expected
  provenance
  version := "1.0.0"

/-! ## Generated datasets -/

/-- Where a dataset comes from. -/
structure DatasetProvenance (Config : Type) where
  generatorId : String
  generatorVersion : String
  seed : ℤ
  config : Config
  generatedAt : DateTime
  sha256 : String

structure GeneratedDataset (Config : Type) where
  testSet : TestSet
  provenance : DatasetProvenance Config

/-- A generator with its identifiers. -/
structure DatasetGenerator (source : Random) (Config : Type) where
  generatorId : String
  version : String
  buildTestSet : ℤ → Config → TestSet

/-- Build a test set, which must be valid, and hash it. -/
def DatasetGenerator.generate {source : Random} {Config : Type}
    (generator : DatasetGenerator source Config) (canonicalSha256 : TestSet → String) (seed : ℤ)
    (config : Config) (generatedAt : DateTime) :
    Except ValidationError (GeneratedDataset Config) :=
  let testSet := generator.buildTestSet seed config
  if testSet.errors = [] then
    .ok
      { testSet
        provenance :=
          { generatorId := generator.generatorId
            generatorVersion := generator.version
            seed
            config
            generatedAt
            sha256 := canonicalSha256 testSet } }
  else .error ⟨"TestSet", testSet.errors⟩

theorem testSet_of_generate {source : Random} {Config : Type}
    {generator : DatasetGenerator source Config} {canonicalSha256 : TestSet → String} {seed : ℤ}
    {config : Config} {generatedAt : DateTime} {dataset : GeneratedDataset Config}
    (generated : generator.generate canonicalSha256 seed config generatedAt = .ok dataset) :
    dataset.testSet = generator.buildTestSet seed config := by
  unfold DatasetGenerator.generate at generated
  dsimp only at generated
  split at generated
  · obtain rfl := Except.ok.inj generated
    rfl
  · cases generated

end ZeroShield.Generators
