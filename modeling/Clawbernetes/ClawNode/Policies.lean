import Clawbernetes.ClawNode.NetPolicy
import Clawbernetes.ClawScheduler.SnapshotStore
import Clawbernetes.Library.Decimals

/-!
# Policies on workloads

`policy_cmd.rs`: policies are created with JSON rules, and the enabled ones are checked against the
JSON specification of a workload. What a check cannot read it lets pass: a number that is no
unsigned integer, an image that is no text, a whitelist without a pattern. Only the check for labels
fails when the labels are missing.

`PolicyEntry.Admits` is what a policy asks for, whatever JSON its numbers are written in. A rule for
labels whose key is missing or no text asks for nothing.
`Reported` and `Evades` are the two ways to break it, in a form that the check reads and in a form
that it does not (`admits_iff`). `policy_verdict_sound_iff` says for which policies and which
specification the verdict can be relied on.
-/

set_option autoImplicit false
set_option relaxedAutoImplicit false

namespace Clawbernetes.ClawNode

open Library.FiniteTable ClawScheduler

namespace Value

/-- `Value::as_object`. -/
def asObject : Value → Option (List (String × Value))
  | .object entries => some entries
  | _ => none

end Value

/-! ### The commands -/

/-- `PolicyEntry`. -/
structure PolicyEntry where
  name : String
  policyType : String
  rules : List Value
  enabled : Bool
  createdAt : ℤ

/-- `PolicyStore`. -/
abbrev PolicyStore := SnapshotStore PolicyEntry

/-- `PolicyStore::list_enabled`. -/
def PolicyStore.listEnabled (store : PolicyStore) : List PolicyEntry :=
  (store.records.entries.map Sigma.snd).filter (·.enabled)

/-- `PolicyCreateParams`. -/
structure PolicyCreateParams where
  name : String
  policyType : String
  rules : List Value := []
  enabled : Bool := true

/-- The types of policies that can be created. -/
def validTypes : List String := ["resource-limit", "image-whitelist", "label-required", "custom"]

/-- `handle_policy_create`, whose save succeeds. -/
def handlePolicyCreate (store : PolicyStore) (params : PolicyCreateParams) (now : ℤ) :
    Except String Unit × PolicyStore :=
  if params.policyType ∉ validTypes then
    (.error ("unknown policy type: " ++ params.policyType ++ " (use " ++
      "/".intercalate validTypes ++ ")"), store)
  else
    store.create true "policy" params.name
      ⟨params.name, params.policyType, params.rules, params.enabled, now⟩

/-- A violation in the reply of `policy.validate`. -/
structure Violation where
  policy : String
  rule : String
  message : String
  deriving DecidableEq

/-- A limit that a rule sets for a number of the specification. -/
structure LimitCheck where
  limitKey : String
  demandKey : String
  message : (demand limit : UInt64) → String

/-- The check of `maxGpus`. -/
def gpuCheck : LimitCheck where
  limitKey := "maxGpus"
  demandKey := "gpus"
  message demand limit :=
    "gpus " ++ toString demand.toNat ++ " exceeds limit " ++ toString limit.toNat

/-- The check of `maxMemoryMb`. -/
def memoryCheck : LimitCheck where
  limitKey := "maxMemoryMb"
  demandKey := "memoryMb"
  message demand limit :=
    "memory " ++ toString demand.toNat ++ "MB exceeds limit " ++ toString limit.toNat ++ "MB"

/-- The violation of a limit, which is only looked for among unsigned integers. -/
def LimitCheck.violations (check : LimitCheck) (policy : String) (rule spec : Value) :
    List Violation :=
  match (rule.get check.limitKey).bind (·.asU64), (spec.get check.demandKey).bind (·.asU64) with
  | some limit, some demand =>
    if demand > limit then [⟨policy, "resource-limit", check.message demand limit⟩] else []
  | _, _ => []

/-- The patterns of a whitelist. -/
def allowedPatterns (rules : List Value) : List String :=
  rules.filterMap fun rule ↦ (rule.get "pattern").bind (·.asStr)

/-- The image of a specification. -/
def specImage (spec : Value) : Option String := (spec.get "image").bind (·.asStr)

/-- The specification has a label. -/
def hasLabel (spec : Value) (key : String) : Bool :=
  ((spec.get "labels").bind (·.asObject)).any fun labels ↦ (labels.lookup key).isSome

namespace PolicyEntry

/-- The violations of a policy of the type `resource-limit`. -/
def limitViolations (policy : PolicyEntry) (spec : Value) : List Violation :=
  policy.rules.flatMap fun rule ↦
    gpuCheck.violations policy.name rule spec ++ memoryCheck.violations policy.name rule spec

/-- The violations of a policy of the type `image-whitelist`. -/
def whitelistViolations (policy : PolicyEntry) (spec : Value) : List Violation :=
  match specImage spec with
  | none => []
  | some image =>
    let allowed := allowedPatterns policy.rules
    if !allowed.isEmpty && !allowed.any (fun pattern ↦ pattern.toList.isPrefixOf image.toList) then
      [⟨policy.name, "image-whitelist", "image '" ++ image ++ "' not in whitelist"⟩]
    else []

/-- The violations of a policy of the type `label-required`. -/
def labelViolations (policy : PolicyEntry) (spec : Value) : List Violation :=
  policy.rules.flatMap fun rule ↦
    match (rule.get "key").bind (·.asStr) with
    | none => []
    | some key =>
      if hasLabel spec key then []
      else [⟨policy.name, "label-required", "missing required label: " ++ key⟩]

/-- What `handle_policy_validate` adds to the violations for a policy. -/
def violations (policy : PolicyEntry) (spec : Value) : List Violation :=
  if policy.policyType = "resource-limit" then policy.limitViolations spec
  else if policy.policyType = "image-whitelist" then policy.whitelistViolations spec
  else if policy.policyType = "label-required" then policy.labelViolations spec
  else []

end PolicyEntry

/-- The reply of `policy.validate`. -/
structure PolicyVerdict where
  valid : Bool
  violations : List Violation
  policiesChecked : ℕ

/-- `handle_policy_validate`. -/
def handlePolicyValidate (store : PolicyStore) (spec : Value) : PolicyVerdict :=
  let policies := store.listEnabled
  let violations := policies.flatMap (·.violations spec)
  ⟨violations.isEmpty, violations, policies.length⟩

/-! ### What policies ask for -/

/-- How numbers are read that JSON does not give as integers: floats, and the texts that are
numerals. -/
structure NumberReading where
  float : Float → ℚ
  text : String → Option ℚ

namespace Value

/-- The number that a value stands for. -/
def number (reading : NumberReading) : Value → Option ℚ
  | .posInt value => some value.toNat
  | .negInt value => some value.toInt
  | .float value => some (reading.float value)
  | .string value => reading.text value
  | _ => none

/-- An unsigned integer stands for itself in every reading. -/
theorem number_of_asU64 (reading : NumberReading) {value : Value} {word : UInt64}
    (hword : value.asU64 = some word) : value.number reading = some (word.toNat : ℚ) := by
  cases value with
  | posInt value =>
    obtain rfl := Option.some_inj.mp hword
    rfl
  | _ => cases hword

end Value

namespace LimitCheck

variable (check : LimitCheck) (reading : NumberReading) (rule spec : Value)

/-- The number of the specification is at most the limit, when there are both. -/
def Within : Prop :=
  ∀ limit demand, (rule.get check.limitKey).bind (·.number reading) = some limit →
    (spec.get check.demandKey).bind (·.number reading) = some demand → demand ≤ limit

/-- Limit and number are unsigned integers, and the number is larger. -/
def Exceeded : Prop :=
  ∃ limit demand, (rule.get check.limitKey).bind (·.asU64) = some limit ∧
    (spec.get check.demandKey).bind (·.asU64) = some demand ∧ limit < demand

/-- The number is larger than the limit, and one of the two is no unsigned integer. -/
def ExceededUnread : Prop :=
  ∃ limitValue demandValue limit demand, rule.get check.limitKey = some limitValue ∧
    spec.get check.demandKey = some demandValue ∧
    (limitValue.asU64 = none ∨ demandValue.asU64 = none) ∧
    limitValue.number reading = some limit ∧ demandValue.number reading = some demand ∧
    limit < demand

variable {check reading rule spec}

/-- A number that is not within its limit is larger than it, in a form that is read or is not. -/
theorem within_iff : check.Within reading rule spec ↔
    ¬check.Exceeded rule spec ∧ ¬check.ExceededUnread reading rule spec := by
  constructor
  · intro hwithin
    constructor
    · rintro ⟨limit, demand, hlimit, hdemand, hlt⟩
      obtain ⟨limitValue, hlimitValue, hlimit⟩ := Option.bind_eq_some_iff.mp hlimit
      obtain ⟨demandValue, hdemandValue, hdemand⟩ := Option.bind_eq_some_iff.mp hdemand
      have hle := hwithin limit.toNat demand.toNat
        (by rw [hlimitValue, Option.bind_some, Value.number_of_asU64 reading hlimit])
        (by rw [hdemandValue, Option.bind_some, Value.number_of_asU64 reading hdemand])
      exact absurd (UInt64.lt_iff_toNat_lt.mp hlt) (Nat.not_lt.mpr (Nat.cast_le.mp hle))
    · rintro ⟨limitValue, demandValue, limit, demand, hlimitValue, hdemandValue, -, hlimit, hdemand,
        hlt⟩
      have hle := hwithin limit demand (by rw [hlimitValue, Option.bind_some, hlimit])
        (by rw [hdemandValue, Option.bind_some, hdemand])
      exact absurd hlt (not_lt.mpr hle)
  · rintro ⟨hexceeded, hunread⟩ limit demand hlimit hdemand
    obtain ⟨limitValue, hlimitValue, hlimit⟩ := Option.bind_eq_some_iff.mp hlimit
    obtain ⟨demandValue, hdemandValue, hdemand⟩ := Option.bind_eq_some_iff.mp hdemand
    refine not_lt.mp fun hlt ↦ ?_
    cases hlimitWord : limitValue.asU64 with
    | none =>
      exact hunread ⟨limitValue, demandValue, limit, demand, hlimitValue, hdemandValue,
        .inl hlimitWord, hlimit, hdemand, hlt⟩
    | some limitWord =>
      cases hdemandWord : demandValue.asU64 with
      | none =>
        exact hunread ⟨limitValue, demandValue, limit, demand, hlimitValue, hdemandValue,
          .inr hdemandWord, hlimit, hdemand, hlt⟩
      | some demandWord =>
        have hlimitNat := hlimit.symm.trans (Value.number_of_asU64 reading hlimitWord)
        have hdemandNat := hdemand.symm.trans (Value.number_of_asU64 reading hdemandWord)
        rw [Option.some_inj.mp hlimitNat, Option.some_inj.mp hdemandNat, Nat.cast_lt] at hlt
        exact hexceeded ⟨limitWord, demandWord, by rw [hlimitValue, Option.bind_some, hlimitWord],
          by rw [hdemandValue, Option.bind_some, hdemandWord], UInt64.lt_iff_toNat_lt.mpr hlt⟩

/-- The check finds nothing exactly when no unsigned integer exceeds its limit. -/
theorem violations_eq_nil_iff {policy : String} :
    check.violations policy rule spec = [] ↔ ¬check.Exceeded rule spec := by
  unfold violations Exceeded
  constructor
  · rintro hnone ⟨limit, demand, hlimit, hdemand, hlt⟩
    rw [hlimit, hdemand] at hnone
    simp only [gt_iff_lt, if_pos hlt, reduceCtorEq] at hnone
  · intro hexceeded
    split
    next limit demand hlimit hdemand =>
      exact if_neg fun hlt ↦ hexceeded ⟨limit, demand, hlimit, hdemand, hlt⟩
    next => rfl

end LimitCheck

namespace PolicyEntry

/-- What a policy asks of a specification. A rule for labels without a text as its key names no
label, and asks for nothing. -/
structure Admits (policy : PolicyEntry) (reading : NumberReading) (spec : Value) : Prop where
  limits : policy.policyType = "resource-limit" → ∀ rule ∈ policy.rules,
    gpuCheck.Within reading rule spec ∧ memoryCheck.Within reading rule spec
  image : policy.policyType = "image-whitelist" → policy.rules ≠ [] →
    ∃ image, specImage spec = some image ∧
      ∃ pattern ∈ allowedPatterns policy.rules, pattern.toList <+: image.toList
  labels : policy.policyType = "label-required" → ∀ rule ∈ policy.rules, ∀ key,
    (rule.get "key").bind (·.asStr) = some key → hasLabel spec key = true

/-- A policy is broken in a form that its check reads. -/
inductive Reported (policy : PolicyEntry) (spec : Value) : Prop where
  | gpus (htype : policy.policyType = "resource-limit") (rule : Value)
      (hrule : rule ∈ policy.rules) (hexceeded : gpuCheck.Exceeded rule spec)
  | memory (htype : policy.policyType = "resource-limit") (rule : Value)
      (hrule : rule ∈ policy.rules) (hexceeded : memoryCheck.Exceeded rule spec)
  | image (htype : policy.policyType = "image-whitelist") (image : String)
      (himage : specImage spec = some image) (hpatterns : allowedPatterns policy.rules ≠ [])
      (hothers : ∀ pattern ∈ allowedPatterns policy.rules, ¬pattern.toList <+: image.toList)
  | label (htype : policy.policyType = "label-required") (rule : Value)
      (hrule : rule ∈ policy.rules) (key : String)
      (hkey : (rule.get "key").bind (·.asStr) = some key) (hmissing : hasLabel spec key = false)

/-- A policy is broken in a form that its check does not read: by a number above a limit one of
which is no unsigned integer, by an image that is missing or no text, or because no rule of the
whitelist has a pattern. -/
inductive Evades (policy : PolicyEntry) (reading : NumberReading) (spec : Value) : Prop where
  | gpus (htype : policy.policyType = "resource-limit") (rule : Value)
      (hrule : rule ∈ policy.rules) (hexceeded : gpuCheck.ExceededUnread reading rule spec)
  | memory (htype : policy.policyType = "resource-limit") (rule : Value)
      (hrule : rule ∈ policy.rules) (hexceeded : memoryCheck.ExceededUnread reading rule spec)
  | image (htype : policy.policyType = "image-whitelist") (hrules : policy.rules ≠ [])
      (himage : specImage spec = none)
  | patterns (htype : policy.policyType = "image-whitelist") (hrules : policy.rules ≠ [])
      (hpatterns : allowedPatterns policy.rules = [])

variable {policy : PolicyEntry} {reading : NumberReading} {spec : Value}

/-- A whitelist admits an image unless its check reports it or lets it pass unread. -/
theorem image_admitted (htype : policy.policyType = "image-whitelist") (hrules : policy.rules ≠ [])
    (hreported : ¬policy.Reported spec) (hevades : ¬policy.Evades reading spec) :
    ∃ image, specImage spec = some image ∧
      ∃ pattern ∈ allowedPatterns policy.rules, pattern.toList <+: image.toList := by
  cases himage : specImage spec with
  | none => exact absurd (.image htype hrules himage) hevades
  | some image =>
    refine ⟨image, rfl, by_contra fun hothers ↦ hreported ?_⟩
    have hpatterns : allowedPatterns policy.rules ≠ [] :=
      fun hnone ↦ hevades (.patterns htype hrules hnone)
    exact .image htype image himage hpatterns
      fun pattern hpattern hprefix ↦ hothers ⟨pattern, hpattern, hprefix⟩

/-- A policy admits what breaks it neither in a form that its check reads nor in another. -/
theorem admits_iff :
    policy.Admits reading spec ↔ ¬policy.Reported spec ∧ ¬policy.Evades reading spec := by
  constructor
  · intro hadmits
    constructor
    · rintro (⟨htype, rule, hrule, hexceeded⟩ | ⟨htype, rule, hrule, hexceeded⟩ |
        ⟨htype, image, himage, hpatterns, hothers⟩ | ⟨htype, rule, hrule, key, hkey, hmissing⟩)
      · exact (LimitCheck.within_iff.mp (hadmits.limits htype rule hrule).1).1 hexceeded
      · exact (LimitCheck.within_iff.mp (hadmits.limits htype rule hrule).2).1 hexceeded
      · have hrules : policy.rules ≠ [] := fun hnone ↦ hpatterns (by rw [hnone]; rfl)
        obtain ⟨found, hfound, pattern, hpattern, hprefix⟩ := hadmits.image htype hrules
        obtain rfl := Option.some_inj.mp (himage.symm.trans hfound)
        exact hothers pattern hpattern hprefix
      · rw [hadmits.labels htype rule hrule key hkey] at hmissing
        cases hmissing
    · rintro (⟨htype, rule, hrule, hexceeded⟩ | ⟨htype, rule, hrule, hexceeded⟩ |
        ⟨htype, hrules, himage⟩ | ⟨htype, hrules, hpatterns⟩)
      · exact (LimitCheck.within_iff.mp (hadmits.limits htype rule hrule).1).2 hexceeded
      · exact (LimitCheck.within_iff.mp (hadmits.limits htype rule hrule).2).2 hexceeded
      · obtain ⟨found, hfound, -⟩ := hadmits.image htype hrules
        cases himage.symm.trans hfound
      · obtain ⟨found, -, pattern, hpattern, -⟩ := hadmits.image htype hrules
        rw [hpatterns] at hpattern
        cases hpattern
  · rintro ⟨hreported, hevades⟩
    refine ⟨fun htype rule hrule ↦ ⟨?_, ?_⟩, fun htype hrules ↦ ?_,
      fun htype rule hrule key hkey ↦ ?_⟩
    · exact LimitCheck.within_iff.mpr ⟨fun hexceeded ↦ hreported (.gpus htype rule hrule hexceeded),
        fun hunread ↦ hevades (.gpus htype rule hrule hunread)⟩
    · exact LimitCheck.within_iff.mpr
        ⟨fun hexceeded ↦ hreported (.memory htype rule hrule hexceeded),
        fun hunread ↦ hevades (.memory htype rule hrule hunread)⟩
    · exact image_admitted htype hrules hreported hevades
    · exact Bool.of_not_eq_false fun hmissing ↦
        hreported (.label htype rule hrule key hkey hmissing)

/-- No limit is exceeded exactly when there are no violations of limits. -/
theorem limitViolations_eq_nil_iff (htype : policy.policyType = "resource-limit") :
    policy.limitViolations spec = [] ↔ ¬policy.Reported spec := by
  simp only [limitViolations, List.flatMap_eq_nil_iff, List.append_eq_nil_iff,
    LimitCheck.violations_eq_nil_iff]
  constructor
  · rintro hnone (⟨-, rule, hrule, hexceeded⟩ | ⟨-, rule, hrule, hexceeded⟩ | hother | hother)
    · exact (hnone rule hrule).1 hexceeded
    · exact (hnone rule hrule).2 hexceeded
    · simp [htype] at hother
    · simp [htype] at hother
  · exact fun hreported rule hrule ↦ ⟨fun hexceeded ↦ hreported (.gpus htype rule hrule hexceeded),
      fun hexceeded ↦ hreported (.memory htype rule hrule hexceeded)⟩

/-- An image is let pass exactly when it is not read, when there are no patterns, or when one of
them is a prefix of it. -/
theorem whitelistViolations_eq_nil_iff (htype : policy.policyType = "image-whitelist") :
    policy.whitelistViolations spec = [] ↔ ¬policy.Reported spec := by
  unfold whitelistViolations
  constructor
  · rintro hnone (⟨hother⟩ | ⟨hother⟩ | ⟨-, image, himage, hpatterns, hothers⟩ | hother)
    · simp [htype] at hother
    · simp [htype] at hother
    · simp [himage, hpatterns] at hnone
      obtain ⟨pattern, hpattern, hprefix⟩ := hnone
      exact hothers pattern hpattern hprefix
    · simp [htype] at hother
  · intro hreported
    cases himage : specImage spec with
    | none => rfl
    | some image =>
      refine if_neg fun hblocked ↦ hreported ?_
      simp only [Bool.and_eq_true, Bool.not_eq_true', List.isEmpty_eq_false_iff,
        List.any_eq_false, List.isPrefixOf_iff_prefix] at hblocked
      exact .image htype image himage hblocked.1 hblocked.2

/-- All labels are present exactly when there are no violations of labels. -/
theorem labelViolations_eq_nil_iff (htype : policy.policyType = "label-required") :
    policy.labelViolations spec = [] ↔ ¬policy.Reported spec := by
  rw [labelViolations, List.flatMap_eq_nil_iff]
  constructor
  · rintro hnone (⟨hother⟩ | ⟨hother⟩ | hother | ⟨-, rule, hrule, key, hkey, hmissing⟩)
    · simp [htype] at hother
    · simp [htype] at hother
    · simp [htype] at hother
    · have hrule := hnone rule hrule
      simp [hkey, hmissing] at hrule
  · intro hreported rule hrule
    cases hkey : (rule.get "key").bind (·.asStr) with
    | none => rfl
    | some key =>
      refine if_pos (Bool.of_not_eq_false fun hmissing ↦ ?_)
      exact hreported (.label htype rule hrule key hkey hmissing)

/-- The check of a policy finds nothing exactly when the policy is not broken in a form that it
reads. -/
theorem violations_eq_nil_iff : policy.violations spec = [] ↔ ¬policy.Reported spec := by
  unfold violations
  split_ifs with hlimit himage hlabel
  · exact limitViolations_eq_nil_iff hlimit
  · exact whitelistViolations_eq_nil_iff himage
  · exact labelViolations_eq_nil_iff hlabel
  · refine iff_of_true rfl ?_
    rintro (⟨htype⟩ | ⟨htype⟩ | ⟨htype⟩ | ⟨htype⟩)
    · exact hlimit htype
    · exact hlimit htype
    · exact himage htype
    · exact hlabel htype

end PolicyEntry

/-! ### The verdict -/

variable {store larger : PolicyStore} {reading : NumberReading} {spec : Value}

/-- A specification is valid when no enabled policy is broken in a form that its check reads. -/
theorem valid_iff : (handlePolicyValidate store spec).valid = true ↔
    ∀ policy ∈ store.listEnabled, ¬policy.Reported spec := by
  unfold handlePolicyValidate
  simp only [List.isEmpty_iff, List.flatMap_eq_nil_iff, PolicyEntry.violations_eq_nil_iff]

/-- What is valid for more enabled policies is valid for fewer. In particular the order of the
policies does not matter. -/
theorem valid_of_subset (hsubset : store.listEnabled ⊆ larger.listEnabled)
    (hvalid : (handlePolicyValidate larger spec).valid = true) :
    (handlePolicyValidate store spec).valid = true :=
  valid_iff.mpr fun policy hpolicy ↦ valid_iff.mp hvalid policy (hsubset hpolicy)

/-- A created policy is enabled beside those that were enabled before. -/
theorem listEnabled_subset_of_create (params : PolicyCreateParams) (now : ℤ) :
    store.listEnabled ⊆ (handlePolicyCreate store params now).2.listEnabled := by
  unfold handlePolicyCreate
  split_ifs with htype
  · unfold SnapshotStore.create
    rcases createRecord_cases "policy" store.records params.name
      ⟨params.name, params.policyType, params.rules, params.enabled, now⟩ with
      ⟨-, hresult⟩ | ⟨hnew, hresult⟩
    · rw [hresult]
      exact List.Subset.refl _
    · rw [hresult]
      change store.listEnabled ⊆
        ((store.records.insert params.name _).entries.map Sigma.snd).filter (·.enabled)
      rw [AList.entries_insert_of_notMem (AList.lookup_eq_none.mp hnew), List.map_cons]
      exact List.filter_subset _ (List.subset_cons_self _ _)
  · exact List.Subset.refl _

/-- The verdict of `policy.validate` can be relied on: a valid specification has what every enabled
policy asks for, and an invalid one stays invalid when more policies are enabled. -/
def SoundVerdict (reading : NumberReading) (store : PolicyStore) (spec : Value) : Prop :=
  ((handlePolicyValidate store spec).valid = true →
      ∀ policy ∈ store.listEnabled, policy.Admits reading spec) ∧
    ∀ larger : PolicyStore, store.listEnabled ⊆ larger.listEnabled →
      (handlePolicyValidate store spec).valid = false →
        (handlePolicyValidate larger spec).valid = false

/-- A verdict can be relied on exactly when no enabled policy is broken in a form that its check
does not read, or one of them is also broken in a form that is read. -/
theorem policy_verdict_sound_iff (reading : NumberReading) (store : PolicyStore) (spec : Value) :
    SoundVerdict reading store spec ↔
      (∀ policy ∈ store.listEnabled, ¬policy.Evades reading spec) ∨
        ∃ policy ∈ store.listEnabled, policy.Reported spec := by
  constructor
  · rintro ⟨hsound, -⟩
    refine or_iff_not_imp_right.mpr fun hnone policy hpolicy ↦ ?_
    have hvalid : (handlePolicyValidate store spec).valid = true :=
      valid_iff.mpr fun other hother hreported ↦ hnone ⟨other, hother, hreported⟩
    exact (PolicyEntry.admits_iff.mp (hsound hvalid policy hpolicy)).2
  · intro hforms
    refine ⟨fun hvalid policy hpolicy ↦ ?_, fun larger hsubset hinvalid ↦ ?_⟩
    · have hread := valid_iff.mp hvalid
      rcases hforms with hevades | ⟨other, hother, hreported⟩
      · exact PolicyEntry.admits_iff.mpr ⟨hread policy hpolicy, hevades policy hpolicy⟩
      · exact absurd hreported (hread other hother)
    · refine Bool.eq_false_iff.mpr fun hvalid ↦ ?_
      rw [valid_of_subset hsubset hvalid] at hinvalid
      cases hinvalid

/-- Decimal texts as numbers of 64 bits, where floats do not matter. -/
def decimalReading : NumberReading where
  float _ := 0
  text text := (Library.Decimals.parseUnsigned (2 ^ 64) text.toList).map (↑)

/-- A limit of eight GPUs, and a whitelist. -/
def limitedStore : PolicyStore :=
  let limited := (handlePolicyCreate SnapshotStore.fresh
    { name := "gpu-limit", policyType := "resource-limit"
      rules := [.object [("maxGpus", .posInt 8)]] } 0).2
  (handlePolicyCreate limited
    { name := "approved-images", policyType := "image-whitelist"
      rules := [.object [("pattern", .string "docker.io/library/")]] } 1).2

/-- Sixteen GPUs that are written as a text, and no image, are valid under both policies. -/
theorem text_of_gpus_is_valid :
    ¬SoundVerdict decimalReading limitedStore (.object [("gpus", .string "16")]) := by
  rintro ⟨hsound, -⟩
  have hadmits := hsound (by decide +kernel) _ (List.mem_cons_of_mem _ List.mem_cons_self)
  have hgpus := (hadmits.limits rfl _ List.mem_cons_self).1
  have hle : (16 : ℚ) ≤ 8 := hgpus 8 16 rfl (by decide +kernel)
  exact absurd hle (by decide)

end Clawbernetes.ClawNode
