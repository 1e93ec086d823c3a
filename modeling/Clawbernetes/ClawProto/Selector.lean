import Clawbernetes.ClawProto.WorkloadSpec
import Clawbernetes.Library.Decimals
import Mathlib.Data.List.Infix

/-!
# Selecting GPUs for a requirement

`selector.rs`, with the chain of fallbacks of `scheduling.rs`. A requirement asks for a number of
GPUs that pass its tests: a memory, a part of the model name and a selector expression. The
requirements of the chain are tried in order, and the first for which the node has enough GPUs is
matched with the first of them.

Selector expressions are evaluated as texts: the expression is cut at `&&`, the first known name
that occurs in a part decides how the part is read, and a part with none of them holds. Such a test
reads the GPU and the requirement only, and nothing of the selection depends on what it says
(`gpuMatchesRequirement`).

`tryMatchSingle_eq_some_iff` is what one requirement does. `SelectedAt` says at which place of the
chain the node is matched and with which GPUs, and `matchRequirement_first` that every match is such
a selection and is not lost, nor moved to a later place, when GPUs are added to the node.

The validation of a workload looks at the first requirement of the chain only, so the demand of an
accepted workload is within the limits exactly when its fallbacks are (`demandWithinLimits_iff`).
-/

set_option autoImplicit false
set_option relaxedAutoImplicit false

namespace Clawbernetes.ClawProto

open Library.Decimals

/-- `GpuCapability`, as far as the selector reads it. -/
structure GpuCapability where
  index : UInt32
  name : String
  memoryMib : UInt64
  deriving DecidableEq

/-- `NodeCapabilities`, as far as the selector reads it. -/
structure NodeCapabilities where
  gpus : List GpuCapability
  deriving DecidableEq

/-- `MatchResult`. -/
inductive MatchResult where
  | matched (matchedGpus : List UInt32) (priority : UInt32)
  | noMatch (reason : String)
  deriving DecidableEq

/-- `MatchResult::is_match`. -/
def MatchResult.isMatch : MatchResult → Bool
  | matched _ _ => true
  | noMatch _ => false

/-- `GpuRequirement::fallback_chain`, as the list that the iterator yields. -/
def GpuRequirement.fallbackChain : GpuRequirement → List GpuRequirement
  | requirement@⟨_, _, _, _, none, _⟩ => [requirement]
  | requirement@⟨_, _, _, _, some fallback, _⟩ => requirement :: fallbackChain fallback

namespace GpuSelector

/-! ### Selector expressions -/

/-- `str::contains`. -/
def containsText (text : List Char) (pattern : String) : Bool := pattern.toList <:+: text

/-- `str::split` at `&&`. -/
def splitConjuncts : List Char → List (List Char)
  | [] => [[]]
  | '&' :: '&' :: rest => [] :: splitConjuncts rest
  | character :: rest =>
    match splitConjuncts rest with
    | [] => [[character]]
    | part :: parts => (character :: part) :: parts

/-- `str::trim`. -/
def trim (text : List Char) : List Char := (text.dropWhile isWhitespace).rdropWhile isWhitespace

/-- `extract_numeric_value`: the digits at the end of the expression, when they are a `u64`. -/
def extractNumericValue (expr : List Char) : Option ℕ :=
  parseUnsigned (2 ^ 64) (expr.rtakeWhile Char.isDigit)

/-- The single and the double quotation mark. -/
def isQuote (character : Char) : Bool := character = Char.ofNat 39 || character = Char.ofNat 34

/-- `extract_string_value`. The mark that ends the text is looked up at the byte index of the first
mark, taken as an index of characters. -/
def extractStringValue (expr : List Char) : Option (List Char) :=
  let before := expr.takeWhile fun character ↦ ¬ isQuote character
  if before.length = expr.length then none
  else do
    let quoteChar ← expr[byteLength before]?
    let rest := expr.drop (before.length + 1)
    if quoteChar ∈ rest then some (rest.takeWhile (· ≠ quoteChar)) else none

/-- The common body of the two comparisons. -/
def evaluateComparison (expr : List Char) (actual : ℕ) : Bool :=
  match extractNumericValue expr with
  | none => false
  | some value =>
    if containsText expr ">=" then value ≤ actual
    else if containsText expr "<=" then actual ≤ value
    else if containsText expr ">" then value < actual
    else if containsText expr "<" then actual < value
    else if containsText expr "==" || containsText expr "=" then actual = value
    else false

/-- `evaluate_memory_comparison`. -/
def evaluateMemoryComparison (expr : List Char) (memoryMib : UInt64) : Bool :=
  evaluateComparison expr memoryMib.toNat

/-- `evaluate_index_comparison`. -/
def evaluateIndexComparison (expr : List Char) (index : UInt32) : Bool :=
  evaluateComparison expr index.toNat

/-- `evaluate_name_contains`. -/
def evaluateNameContains (expr : List Char) (name : String) : Bool :=
  match extractStringValue expr with
  | none => false
  | some pattern => pattern <:+: name.toList

/-- `evaluate_cel_part`. -/
def evaluateCelPart (part : List Char) (gpu : GpuCapability) : Bool :=
  let part := trim part
  if containsText part "device.memory_mib" || containsText part "memory_mib" then
    evaluateMemoryComparison part gpu.memoryMib
  else if containsText part "device.name.contains" || containsText part "name.contains" then
    evaluateNameContains part gpu.name
  else if containsText part "device.index" || containsText part "index" then
    evaluateIndexComparison part gpu.index
  else true

/-- `evaluate_cel_selector`. -/
def evaluateCelSelector (selector : String) (gpu : GpuCapability) : Bool :=
  ((splitConjuncts selector.toList).map trim).all fun part ↦ evaluateCelPart part gpu

/-! ### Matching -/

/-- `gpu_matches_requirement`. -/
def gpuMatchesRequirement (gpu : GpuCapability) (requirement : GpuRequirement) : Bool :=
  (requirement.minMemoryMib.all fun minMemory ↦ ¬ gpu.memoryMib < minMemory) &&
    (requirement.modelPattern.all fun pattern ↦ containsText gpu.name.toList pattern) &&
    requirement.selector.all fun selector ↦ evaluateCelSelector selector gpu

/-- The indices of the GPUs that match a requirement, in the order of the list. -/
def matchingGpus (requirement : GpuRequirement) (capabilities : NodeCapabilities) : List UInt32 :=
  (capabilities.gpus.filter fun gpu ↦ gpuMatchesRequirement gpu requirement).map
    GpuCapability.index

/-- `try_match_single`. -/
def tryMatchSingle (requirement : GpuRequirement) (capabilities : NodeCapabilities) :
    Option (List UInt32) :=
  if capabilities.gpus.length < requirement.count.toNat then none
  else
    let matching := matchingGpus requirement capabilities
    if requirement.count.toNat ≤ matching.length then
      some (matching.take requirement.count.toNat)
    else none

/-- `build_mismatch_reason`. -/
def buildMismatchReason (requirement : GpuRequirement) (capabilities : NodeCapabilities) :
    String :=
  let available := capabilities.gpus.length
  let required := requirement.count.toNat
  let sufficientMemory := fun minMemory : UInt64 ↦
    capabilities.gpus.countP fun gpu ↦ minMemory ≤ gpu.memoryMib
  let matching := fun pattern : String ↦
    capabilities.gpus.countP fun gpu ↦ containsText gpu.name.toList pattern
  let memoryReason := requirement.minMemoryMib.bind fun minMemory ↦
    if sufficientMemory minMemory < required then
      some ("need " ++ toString required ++ " GPUs with >= " ++ toString minMemory.toNat ++
        "MiB VRAM, node has " ++ toString (sufficientMemory minMemory))
    else none
  let patternReason := requirement.modelPattern.bind fun pattern ↦
    if matching pattern < required then
      some ("need " ++ toString required ++ " GPUs matching '" ++ pattern ++ "', node has " ++
        toString (matching pattern))
    else none
  if available < required then
    "need " ++ toString required ++ " GPUs, node has " ++ toString available
  else (memoryReason.or patternReason).getD "GPU requirements not satisfied"

/-- `match_requirement`. -/
def matchRequirement (requirement : GpuRequirement) (capabilities : NodeCapabilities) :
    MatchResult :=
  let found := requirement.fallbackChain.findSome? fun req ↦
    (tryMatchSingle req capabilities).map fun matched ↦ MatchResult.matched matched req.priority
  found.getD (.noMatch (buildMismatchReason requirement capabilities))

/-- The node has as many matching GPUs as the requirement asks for. -/
def Satisfied (requirement : GpuRequirement) (capabilities : NodeCapabilities) : Prop :=
  requirement.count.toNat ≤
    (capabilities.gpus.filter fun gpu ↦ gpuMatchesRequirement gpu requirement).length

section Matching

variable {requirement : GpuRequirement} {capabilities : NodeCapabilities}

/-- A requirement is matched when it is satisfied, with the first of the matching GPUs. -/
theorem tryMatchSingle_eq_some_iff {matched : List UInt32} :
    tryMatchSingle requirement capabilities = some matched ↔
      Satisfied requirement capabilities ∧
        matched = (matchingGpus requirement capabilities).take requirement.count.toNat := by
  have hlength : (matchingGpus requirement capabilities).length =
      (capabilities.gpus.filter fun gpu ↦ gpuMatchesRequirement gpu requirement).length :=
    List.length_map _
  have hfilter := List.length_filter_le (fun gpu ↦ gpuMatchesRequirement gpu requirement)
    capabilities.gpus
  unfold tryMatchSingle Satisfied
  dsimp only
  rw [hlength]
  split_ifs with hfew henough
  · exact iff_of_false nofun fun hboth ↦ absurd hboth.1 (by omega)
  · rw [Option.some_inj, and_iff_right henough, eq_comm]
  · exact iff_of_false nofun fun hboth ↦ henough hboth.1

/-- A requirement is passed over when it is not satisfied. -/
theorem tryMatchSingle_eq_none_iff :
    tryMatchSingle requirement capabilities = none ↔ ¬ Satisfied requirement capabilities := by
  rw [Option.eq_none_iff_forall_ne_some]
  constructor
  · exact fun hnone hsatisfied ↦ hnone _ (tryMatchSingle_eq_some_iff.mpr ⟨hsatisfied, rfl⟩)
  · exact fun hunsatisfied _ hsome ↦ hunsatisfied (tryMatchSingle_eq_some_iff.mp hsome).1

/-- Further GPUs keep a requirement satisfied. -/
theorem Satisfied.append (hsatisfied : Satisfied requirement capabilities)
    (more : List GpuCapability) : Satisfied requirement ⟨capabilities.gpus ++ more⟩ := by
  unfold Satisfied at *
  dsimp only
  rw [List.filter_append, List.length_append]
  omega

/-- The node is matched at this place of the chain of a requirement: the requirement at the place is
satisfied and those before it are not, the priority is that of the requirement at the place, and the
GPUs are as many as it asks for, the first ones of those that match it. -/
structure SelectedAt (requirement : GpuRequirement) (capabilities : NodeCapabilities)
    (position : ℕ) (matchedGpus : List UInt32) (priority : UInt32) : Prop where
  result : matchRequirement requirement capabilities = .matched matchedGpus priority
  selected : ∃ chosen, requirement.fallbackChain[position]? = some chosen ∧
    Satisfied chosen capabilities ∧ priority = chosen.priority ∧
    matchedGpus.length = chosen.count.toNat ∧ matchedGpus <+: matchingGpus chosen capabilities
  earlier : ∀ other < position, ∀ passed, requirement.fallbackChain[other]? = some passed →
    ¬ Satisfied passed capabilities

/-- Every match is a selection at some place of the chain. -/
theorem selectedAt_of_matched {matchedGpus : List UInt32} {priority : UInt32}
    (hmatched : matchRequirement requirement capabilities = .matched matchedGpus priority) :
    ∃ position, SelectedAt requirement capabilities position matchedGpus priority := by
  have hresult := hmatched
  unfold matchRequirement at hmatched
  cases hfound : requirement.fallbackChain.findSome? fun req ↦
      (tryMatchSingle req capabilities).map fun matched ↦
        MatchResult.matched matched req.priority with
  | none =>
    rw [hfound] at hmatched
    cases hmatched
  | some found =>
    rw [hfound] at hmatched
    obtain ⟨passed, chosen, rest, hchain, hchosen, hpassed⟩ := List.findSome?_eq_some_iff.mp hfound
    obtain ⟨matched, hmatch, rfl⟩ := Option.map_eq_some_iff.mp hchosen
    cases hmatched
    obtain ⟨hsatisfied, rfl⟩ := tryMatchSingle_eq_some_iff.mp hmatch
    have hposition : requirement.fallbackChain[passed.length]? = some chosen := by
      rw [hchain, List.getElem?_append_right (Nat.le_refl _), Nat.sub_self, List.getElem?_cons_zero]
    have hlength : ((matchingGpus chosen capabilities).take chosen.count.toNat).length =
        chosen.count.toNat := by
      rw [List.length_take, matchingGpus, List.length_map]
      exact Nat.min_eq_left hsatisfied
    refine ⟨passed.length, hresult,
      ⟨chosen, hposition, hsatisfied, rfl, hlength, List.take_prefix _ _⟩, ?_⟩
    intro other hother tried htried
    rw [hchain, List.getElem?_append_left hother] at htried
    have hnone := hpassed tried (List.mem_of_getElem? htried)
    exact tryMatchSingle_eq_none_iff.mp (Option.map_eq_none_iff.mp hnone)

/-- A requirement is matched when one of its chain is satisfied. -/
theorem exists_matched (hsatisfied : ∃ chosen ∈ requirement.fallbackChain,
    Satisfied chosen capabilities) : ∃ matchedGpus priority,
      matchRequirement requirement capabilities = .matched matchedGpus priority := by
  obtain ⟨chosen, hchosen, hsatisfied⟩ := hsatisfied
  unfold matchRequirement
  cases hfound : requirement.fallbackChain.findSome? fun req ↦
      (tryMatchSingle req capabilities).map fun matched ↦
        MatchResult.matched matched req.priority with
  | none =>
    have hnone := Option.map_eq_none_iff.mp (List.findSome?_eq_none_iff.mp hfound chosen hchosen)
    exact absurd hsatisfied (tryMatchSingle_eq_none_iff.mp hnone)
  | some found =>
    obtain ⟨req, -, hreq⟩ := List.exists_of_findSome?_eq_some hfound
    obtain ⟨matched, -, rfl⟩ := Option.map_eq_some_iff.mp hreq
    exact ⟨matched, req.priority, rfl⟩

/-- A selection stays one, at the same or an earlier place, when GPUs are added to the node. -/
theorem SelectedAt.append {position : ℕ} {matchedGpus : List UInt32} {priority : UInt32}
    (hselected : SelectedAt requirement capabilities position matchedGpus priority)
    (more : List GpuCapability) : ∃ earlier ≤ position, ∃ otherGpus otherPriority,
      SelectedAt requirement ⟨capabilities.gpus ++ more⟩ earlier otherGpus otherPriority := by
  obtain ⟨chosen, hchosen, hsatisfied, -⟩ := hselected.selected
  have hkept := hsatisfied.append more
  obtain ⟨otherGpus, otherPriority, hmatched⟩ :=
    exists_matched ⟨chosen, List.mem_of_getElem? hchosen, hkept⟩
  obtain ⟨earlier, hother⟩ := selectedAt_of_matched hmatched
  refine ⟨earlier, ?_, otherGpus, otherPriority, hother⟩
  by_contra hlater
  exact hother.earlier position (Nat.lt_of_not_le hlater) chosen hchosen hkept

end Matching

/-- A requirement is matched if and only if one of its chain has enough matching GPUs. The match
belongs to the first of these: it has the priority of that requirement and as many GPUs as that
requirement asks for, the first ones in the list that match it. With further GPUs at the end of the
list a match stays a match, at the same or an earlier place of the chain. -/
theorem matchRequirement_first (requirement : GpuRequirement) (capabilities : NodeCapabilities) :
    ((matchRequirement requirement capabilities).isMatch = true ↔
      ∃ chosen ∈ requirement.fallbackChain, Satisfied chosen capabilities) ∧
    (∀ matchedGpus priority,
      matchRequirement requirement capabilities = .matched matchedGpus priority →
        ∃ position, SelectedAt requirement capabilities position matchedGpus priority) ∧
    ∀ position matchedGpus priority more,
      SelectedAt requirement capabilities position matchedGpus priority →
        ∃ earlier ≤ position, ∃ otherGpus otherPriority,
          SelectedAt requirement ⟨capabilities.gpus ++ more⟩ earlier otherGpus otherPriority := by
  refine ⟨⟨fun hmatch ↦ ?_, fun hsatisfied ↦ ?_⟩, fun _ _ ↦ selectedAt_of_matched,
    fun _ _ _ more hselected ↦ hselected.append more⟩
  · cases hresult : matchRequirement requirement capabilities with
    | matched matchedGpus priority =>
      obtain ⟨position, hselected⟩ := selectedAt_of_matched hresult
      obtain ⟨chosen, hchosen, hsatisfied, -⟩ := hselected.selected
      exact ⟨chosen, List.mem_of_getElem? hchosen, hsatisfied⟩
    | noMatch reason =>
      rw [hresult] at hmatch
      cases hmatch
  · obtain ⟨matchedGpus, priority, hresult⟩ := exists_matched hsatisfied
    rw [hresult]
    rfl

end GpuSelector

/-! ### The demand of an accepted workload -/

/-- A chain begins with the requirement itself. -/
theorem GpuRequirement.fallbackChain_eq_cons (requirement : GpuRequirement) :
    requirement.fallbackChain = requirement :: requirement.fallbackChain.tail := by
  obtain ⟨count, selector, minMemoryMib, modelPattern, fallback, priority⟩ := requirement
  cases fallback <;> rfl

namespace WorkloadSpec

/-- The workload demands no more GPUs than the maximum: no requirement of the chain asks for more,
and no node is matched with more. -/
structure DemandWithinLimits (spec : WorkloadSpec) : Prop where
  asked : ∀ requirement, spec.scheduling.gpuRequirement = some requirement →
    ∀ chosen ∈ requirement.fallbackChain, chosen.count ≤ maxGpuCount
  matched : ∀ requirement, spec.scheduling.gpuRequirement = some requirement →
    ∀ capabilities matchedGpus priority,
      GpuSelector.matchRequirement requirement capabilities = .matched matchedGpus priority →
        matchedGpus.length ≤ maxGpuCount.toNat

/-- No fallback, at any depth, asks for more GPUs than the maximum. -/
def FallbacksWithinLimits (spec : WorkloadSpec) : Prop :=
  ∀ requirement, spec.scheduling.gpuRequirement = some requirement →
    ∀ fallback ∈ requirement.fallbackChain.tail, fallback.count ≤ maxGpuCount

/-- A chain that asks for no more than the maximum is matched with no more. -/
theorem length_le_of_matched {requirement : GpuRequirement} {capabilities : NodeCapabilities}
    {matchedGpus : List UInt32} {priority : UInt32}
    (hchain : ∀ chosen ∈ requirement.fallbackChain, chosen.count ≤ maxGpuCount)
    (hmatched : GpuSelector.matchRequirement requirement capabilities =
      .matched matchedGpus priority) : matchedGpus.length ≤ maxGpuCount.toNat := by
  obtain ⟨_, hselected⟩ := GpuSelector.selectedAt_of_matched hmatched
  obtain ⟨chosen, hchosen, -, -, hlength, -⟩ := hselected.selected
  rw [hlength]
  exact UInt32.le_iff_toNat_le.mp (hchain chosen (List.mem_of_getElem? hchosen))

/-- The requirement of an accepted workload asks for no more GPUs than the maximum. -/
theorem count_le_of_validate {spec : WorkloadSpec} {requirement : GpuRequirement}
    (hvalid : spec.validate = .ok ())
    (hrequirement : spec.scheduling.gpuRequirement = some requirement) :
    requirement.count ≤ maxGpuCount := by
  have hresources := (validate_eq_ok_iff.mp hvalid).2.1
  have hcount := (validateResources_eq_ok_iff.mp hresources).2.2
  rwa [effectiveGpuCount, hrequirement] at hcount

/-- An accepted workload demands no more GPUs than the maximum if and only if none of its fallbacks
asks for more: the requirement itself is checked, and the fallbacks are not. -/
theorem demandWithinLimits_iff {spec : WorkloadSpec} (hvalid : spec.validate = .ok ()) :
    DemandWithinLimits spec ↔ FallbacksWithinLimits spec := by
  constructor
  · intro hwithin requirement hrequirement fallback hfallback
    exact hwithin.asked requirement hrequirement fallback (List.mem_of_mem_tail hfallback)
  · intro hfallbacks
    have hasked : ∀ requirement, spec.scheduling.gpuRequirement = some requirement →
        ∀ chosen ∈ requirement.fallbackChain, chosen.count ≤ maxGpuCount := by
      intro requirement hrequirement chosen hchosen
      rw [requirement.fallbackChain_eq_cons] at hchosen
      rcases List.mem_cons.mp hchosen with rfl | hfallback
      · exact count_le_of_validate hvalid hrequirement
      · exact hfallbacks requirement hrequirement chosen hfallback
    exact ⟨hasked, fun requirement hrequirement _ _ _ hmatched ↦
      length_le_of_matched (hasked requirement hrequirement) hmatched⟩

/-- A workload that asks for a large GPU, with a fallback to sixty-five small ones. -/
def smallGpusInstead : WorkloadSpec where
  image := "trainer"
  command := []
  env := ∅
  gpuCount := 0
  memoryMb := 1024
  cpuCores := 4
  scheduling := {
    gpuRequirement := some ⟨1, none, some 81920, none, some ⟨65, none, none, none, none, 0⟩, 1⟩
    parallel := none }

/-- The equivalence at a workload that is accepted. -/
theorem demandWithinLimits_iff_smallGpusInstead :
    smallGpusInstead.validate = .ok () ∧
      (DemandWithinLimits smallGpusInstead ↔ FallbacksWithinLimits smallGpusInstead) :=
  ⟨by decide, demandWithinLimits_iff (by decide)⟩

/-- The workload is accepted, and a node with as many small GPUs is matched with all of them. -/
theorem smallGpusInstead_exceeds_limits :
    let small : List GpuCapability :=
      (List.range 65).map fun index ↦ ⟨UInt32.ofNat index, "T4", 16384⟩
    smallGpusInstead.validate = .ok () ∧
      smallGpusInstead.scheduling.gpuRequirement.map
          (fun requirement ↦ GpuSelector.matchRequirement requirement ⟨small⟩) =
        some (.matched (small.map GpuCapability.index) 0) ∧
      ¬ DemandWithinLimits smallGpusInstead := by
  refine ⟨by decide, by decide +kernel, fun hwithin ↦ ?_⟩
  have hfallback := hwithin.asked _ rfl ⟨65, none, none, none, none, 0⟩
    (List.mem_cons_of_mem _ (List.mem_singleton_self _))
  exact absurd hfallback (by decide)

end WorkloadSpec

end Clawbernetes.ClawProto
