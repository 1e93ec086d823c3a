import Clawbernetes.ClawNetwork.IpAllocator
import Mathlib.Data.List.Induction

/-!
# When the pools of the allocator are exhausted

The counter of a region starts at one and stops at 4094, the counter of the workload subnets starts
at zero and stops at 255. Either counter is the number of the calls of its kind, up to its limit
(`counterOf_run`, `workloadCounter_run`). So the last host of a region's pool and the last of the
256 subnets are never handed out, and a pool is refused while one address of it is free.

`ExactExhaustion` is what a pool should do: refuse exactly when everything in it has been handed
out. `exactExhaustion_iff` says that this holds as long as a pool has been asked less often than it
has places up to the one that is never handed out.
-/

set_option autoImplicit false
set_option relaxedAutoImplicit false

namespace Clawbernetes.ClawNetwork

open Library.Addresses

/-- The call asks for an address of the region. -/
def AllocatorCall.isNodeIp (region : Region) : AllocatorCall → Bool
  | .allocateNodeIp other => other = region
  | .allocateWorkloadSubnet _ => false

/-- The call asks for a workload subnet. -/
def AllocatorCall.isWorkloadSubnet : AllocatorCall → Bool
  | .allocateNodeIp _ => false
  | .allocateWorkloadSubnet _ => true

variable {parse : String → Except String Ipv4Net}

namespace IpAllocator

variable {allocator : IpAllocator}

/-- A call for an address of a region advances its counter up to the limit, and no other. -/
theorem counterOf_perform (hparse : ReadsWorkloadSubnets parse) (hsound : allocator.Sound)
    (call : AllocatorCall) (region : Region) :
    ((allocator.perform parse call).1.counterOf region).toNat =
      min ((allocator.counterOf region).toNat + if call.isNodeIp region then 1 else 0) 4094 := by
  have hlimit := hsound.counter_le region
  cases call with
  | allocateNodeIp other =>
    simp only [perform, AllocatorCall.isNodeIp, decide_eq_true_eq]
    by_cases hroom : (allocator.counterOf other).toNat < 4094
    · rw [allocateNodeIp_of_lt hsound hroom]
      dsimp only
      rw [counterOf_advanceRegion]
      by_cases hother : region = other
      · subst hother
        rw [if_pos rfl, if_pos rfl, toNat_counter_add_one hroom]
        omega
      · rw [if_neg hother, if_neg (Ne.symm hother)]
        omega
    · rw [allocateNodeIp_of_exhausted hsound (Nat.not_lt.mp hroom)]
      dsimp only
      by_cases hother : other = region
      · subst hother
        rw [if_pos rfl]
        omega
      · rw [if_neg hother]
        omega
  | allocateWorkloadSubnet nodeId =>
    simp only [perform, AllocatorCall.isNodeIp, Bool.false_eq_true, if_false, Nat.add_zero]
    rw [Nat.min_eq_left hlimit]
    by_cases hroom : allocator.workloadCounter.value.toNat < 255
    · rw [allocateWorkloadSubnet_of_lt hparse hsound nodeId hroom]
      rfl
    · rw [allocateWorkloadSubnet_of_exhausted hsound nodeId (Nat.not_lt.mp hroom)]

/-- A call for a workload subnet advances the counter of the subnets up to the limit. -/
theorem workloadCounter_perform (hparse : ReadsWorkloadSubnets parse) (hsound : allocator.Sound)
    (call : AllocatorCall) :
    (allocator.perform parse call).1.workloadCounter.value.toNat =
      min (allocator.workloadCounter.value.toNat + if call.isWorkloadSubnet then 1 else 0) 255 := by
  have hlimit := hsound.workload_le
  cases call with
  | allocateNodeIp region =>
    simp only [perform, AllocatorCall.isWorkloadSubnet, Bool.false_eq_true, if_false, Nat.add_zero]
    rw [Nat.min_eq_left hlimit]
    by_cases hroom : (allocator.counterOf region).toNat < 4094
    · rw [allocateNodeIp_of_lt hsound hroom]
      rfl
    · rw [allocateNodeIp_of_exhausted hsound (Nat.not_lt.mp hroom)]
  | allocateWorkloadSubnet nodeId =>
    simp only [perform, AllocatorCall.isWorkloadSubnet, if_true]
    by_cases hroom : allocator.workloadCounter.value.toNat < 255
    · rw [allocateWorkloadSubnet_of_lt hparse hsound nodeId hroom]
      dsimp only [advanceWorkload]
      rw [toNat_counter_add_one (by omega)]
      omega
    · rw [allocateWorkloadSubnet_of_exhausted hsound nodeId (Nat.not_lt.mp hroom)]
      dsimp only
      omega

/-- A call for an address fails exactly at the limit of the region's counter. -/
theorem failed_nodeIp_iff (hsound : allocator.Sound) (region : Region) :
    (allocator.perform parse (.allocateNodeIp region)).2.Failed ↔
      4094 ≤ (allocator.counterOf region).toNat := by
  simp only [perform]
  by_cases hroom : (allocator.counterOf region).toNat < 4094
  · rw [allocateNodeIp_of_lt hsound hroom]
    exact iff_of_false not_false (Nat.not_le.mpr hroom)
  · rw [allocateNodeIp_of_exhausted hsound (Nat.not_lt.mp hroom)]
    exact iff_of_true trivial (Nat.not_lt.mp hroom)

/-- A call for a workload subnet fails exactly at the limit of the counter of the subnets. -/
theorem failed_workloadSubnet_iff (hparse : ReadsWorkloadSubnets parse) (hsound : allocator.Sound)
    (nodeId : NodeId) :
    (allocator.perform parse (.allocateWorkloadSubnet nodeId)).2.Failed ↔
      255 ≤ allocator.workloadCounter.value.toNat := by
  simp only [perform]
  by_cases hroom : allocator.workloadCounter.value.toNat < 255
  · rw [allocateWorkloadSubnet_of_lt hparse hsound nodeId hroom]
    exact iff_of_false not_false (Nat.not_le.mpr hroom)
  · rw [allocateWorkloadSubnet_of_exhausted hsound nodeId (Nat.not_lt.mp hroom)]
    exact iff_of_true trivial (Nat.not_lt.mp hroom)

end IpAllocator

namespace LoggedAllocator

open IpAllocator

/-! ### The counters of a run -/

/-- The counter of a region counts the calls for its addresses from one up to the limit. -/
theorem counterOf_run (hparse : ReadsWorkloadSubnets parse) (calls : List AllocatorCall)
    (region : Region) :
    ((calls.foldl (step parse) new).allocator.counterOf region).toNat =
      min (1 + calls.countP (AllocatorCall.isNodeIp region)) 4094 := by
  induction calls using List.reverseRecOn with
  | nil => rfl
  | append_singleton calls call ih =>
    have hsound := (accounted_run hparse calls).sound
    rw [List.foldl_concat, List.countP_append, List.countP_singleton]
    change ((perform parse _ call).1.counterOf region).toNat = _
    rw [counterOf_perform hparse hsound, ih]
    omega

/-- The counter of the subnets counts the calls for a subnet up to the limit. -/
theorem workloadCounter_run (hparse : ReadsWorkloadSubnets parse) (calls : List AllocatorCall) :
    (calls.foldl (step parse) new).allocator.workloadCounter.value.toNat =
      min (calls.countP AllocatorCall.isWorkloadSubnet) 255 := by
  induction calls using List.reverseRecOn with
  | nil => rfl
  | append_singleton calls call ih =>
    have hsound := (accounted_run hparse calls).sound
    rw [List.foldl_concat, List.countP_append, List.countP_singleton]
    change (perform parse _ call).1.workloadCounter.value.toNat = _
    rw [workloadCounter_perform hparse hsound, ih]
    omega

/-! ### What is never handed out -/

variable {logged : LoggedAllocator}

/-- The last host of a region's pool. -/
def lastHost (region : Region) : Ipv4Addr := nodeAddress region 4094

/-- The last host is a host of the pool. -/
theorem isHost_lastHost (region : Region) : region.pool.IsHost (lastHost region) := by
  have haddress : (lastHost region).toNat = region.pool.network.toNat + 4094 := by
    rw [region.network_pool]
    exact toNat_nodeAddress (by decide)
  apply Ipv4Net.isHost_of_toNat haddress (by decide)
  rw [region.size_pool]
  decide

/-- The last host of a pool is never handed out. -/
theorem Accounted.lastHost_not_handed (haccounted : logged.Accounted) (region : Region) :
    IpAddr.v4 (lastHost region) ∉ logged.nodeIps.map Prod.snd := by
  intro hhanded
  obtain ⟨⟨other, ip⟩, hmem, hip⟩ := List.mem_map.mp hhanded
  obtain ⟨offset, hpos, hlt, rfl⟩ := haccounted.exists_offset hmem
  have hsame : nodeAddress other offset = lastHost region := IpAddr.v4.inj hip
  have hother : other.pool.Contains (lastHost region) := hsame ▸ (isHost_nodeAddress hpos hlt).1
  obtain rfl := Region.eq_of_contains hother (isHost_lastHost region).1
  have hnumbers := congrArg Ipv4Addr.toNat hsame
  have hlast : (lastHost other).toNat = other.base.toNat + 4094 := toNat_nodeAddress (by decide)
  rw [toNat_nodeAddress (by omega), hlast] at hnumbers
  omega

/-- The last workload subnet is never handed out. -/
theorem Accounted.lastSubnet_not_handed (haccounted : logged.Accounted) :
    IpNet.v4 (workloadNet 255) ∉ logged.subnets := by
  intro hhanded
  rw [haccounted.subnets_eq] at hhanded
  obtain ⟨third, hthird, hsame⟩ := List.mem_map.mp hhanded
  have hbound := haccounted.sound.workload_le
  rw [List.mem_range] at hthird
  have hoctet : UInt8.ofNat third = 255 :=
    congrArg (fun net : Ipv4Net ↦ net.addr.third) (IpNet.v4.inj hsame)
  have hnumber := congrArg UInt8.toNat hoctet
  rw [UInt8.toNat_ofNat'] at hnumber
  change third % 2 ^ 8 = 255 at hnumber
  omega

/-! ### Exhaustion -/

/-- A pool refuses exactly when everything in it has been handed out: the hosts of the documented
pool of the region, or all subnets of the length 24 in the pool of the subnets. -/
structure ExactExhaustion (parse : String → Except String Ipv4Net) (logged : LoggedAllocator) :
    Prop where
  nodes : ∀ region, (logged.allocator.perform parse (.allocateNodeIp region)).2.Failed ↔
    ∀ address, region.pool.IsHost address → IpAddr.v4 address ∈ logged.nodeIps.map Prod.snd
  workloads : ∀ nodeId,
    (logged.allocator.perform parse (.allocateWorkloadSubnet nodeId)).2.Failed ↔
      ∀ thirdOctet, IpNet.v4 (workloadNet thirdOctet) ∈ logged.subnets

/-- The pools refuse at the right moment as long as no counter has reached its limit. -/
theorem Accounted.exactExhaustion_iff_counters (hparse : ReadsWorkloadSubnets parse)
    (haccounted : logged.Accounted) : ExactExhaustion parse logged ↔
      (∀ region, (logged.allocator.counterOf region).toNat < 4094) ∧
        logged.allocator.workloadCounter.value.toNat < 255 := by
  have hnodes : ∀ region : Region, ¬ ∀ address, region.pool.IsHost address →
      IpAddr.v4 address ∈ logged.nodeIps.map Prod.snd := fun region hall ↦
    haccounted.lastHost_not_handed region (hall _ (isHost_lastHost region))
  have hworkloads : ¬ ∀ thirdOctet, IpNet.v4 (workloadNet thirdOctet) ∈ logged.subnets :=
    fun hall ↦ haccounted.lastSubnet_not_handed (hall 255)
  constructor
  · intro hexact
    refine ⟨fun region ↦ ?_, ?_⟩
    · have hfailed := mt (hexact.nodes region).mp (hnodes region)
      rw [failed_nodeIp_iff haccounted.sound] at hfailed
      exact Nat.not_le.mp hfailed
    · have hfailed := mt (hexact.workloads ⟨0⟩).mp hworkloads
      rw [failed_workloadSubnet_iff hparse haccounted.sound] at hfailed
      exact Nat.not_le.mp hfailed
  · rintro ⟨hregions, hsubnets⟩
    refine ⟨fun region ↦ ?_, fun nodeId ↦ ?_⟩
    · rw [failed_nodeIp_iff haccounted.sound]
      exact iff_of_false (Nat.not_le.mpr (hregions region)) (hnodes region)
    · rw [failed_workloadSubnet_iff hparse haccounted.sound]
      exact iff_of_false (Nat.not_le.mpr hsubnets) hworkloads

/-- After any calls in any order the pools refuse exactly when everything in them has been handed
out, if and only if there were fewer than 4093 calls for an address of each region and fewer than
255 calls for a workload subnet. -/
theorem exactExhaustion_iff (parse : String → Except String Ipv4Net)
    (hparse : ReadsWorkloadSubnets parse) (calls : List AllocatorCall) :
    ExactExhaustion parse (calls.foldl (step parse) new) ↔
      (∀ region, calls.countP (AllocatorCall.isNodeIp region) < 4093) ∧
        calls.countP AllocatorCall.isWorkloadSubnet < 255 := by
  rw [(accounted_run hparse calls).exactExhaustion_iff_counters hparse,
    workloadCounter_run hparse calls]
  refine and_congr (forall_congr' fun region ↦ ?_) ?_
  · rw [counterOf_run hparse calls region]
    omega
  · omega

/-- The pools are exact after the sample calls. -/
theorem exactExhaustion_iff_example :
    ReadsWorkloadSubnets readNet ∧
      ExactExhaustion readNet (sampleCalls.foldl (step readNet) new) := by
  refine ⟨readsWorkloadSubnets_readNet, ?_⟩
  refine (exactExhaustion_iff readNet readsWorkloadSubnets_readNet sampleCalls).mpr ⟨?_, by decide⟩
  intro region
  cases region <;> decide

/-- The calls that bring a region and the subnets to their limits. -/
def exhaustingCalls : List AllocatorCall :=
  List.replicate 4093 (.allocateNodeIp .usWest) ++
    List.replicate 255 (.allocateWorkloadSubnet ⟨1⟩)

/-- After 4093 addresses of a region and 255 subnets both pools refuse, although a host of the
region and a subnet were not handed out. -/
theorem pools_refuse_early :
    let logged := exhaustingCalls.foldl (step readNet) new
    ((logged.allocator.perform readNet (.allocateNodeIp .usWest)).2.Failed ∧
      Region.usWest.pool.IsHost (lastHost .usWest) ∧
      IpAddr.v4 (lastHost .usWest) ∉ logged.nodeIps.map Prod.snd) ∧
    ((logged.allocator.perform readNet (.allocateWorkloadSubnet ⟨1⟩)).2.Failed ∧
      IpNet.v4 (workloadNet 255) ∉ logged.subnets) ∧
    ¬ ExactExhaustion readNet logged := by
  intro logged
  have hparse := readsWorkloadSubnets_readNet
  have haccounted : logged.Accounted := accounted_run hparse exhaustingCalls
  have hregion : 4094 ≤ (logged.allocator.counterOf .usWest).toNat := by
    rw [counterOf_run hparse exhaustingCalls, exhaustingCalls, List.countP_append,
      List.countP_replicate]
    simp only [AllocatorCall.isNodeIp, decide_true, if_true]
    omega
  have hsubnets : 255 ≤ logged.allocator.workloadCounter.value.toNat := by
    rw [workloadCounter_run hparse exhaustingCalls, exhaustingCalls, List.countP_append,
      List.countP_replicate, List.countP_replicate]
    simp only [AllocatorCall.isWorkloadSubnet, if_true]
    omega
  clear_value logged
  refine ⟨⟨(failed_nodeIp_iff haccounted.sound _).mpr hregion, isHost_lastHost _,
    haccounted.lastHost_not_handed _⟩, ⟨(failed_workloadSubnet_iff hparse haccounted.sound _).mpr
      hsubnets, haccounted.lastSubnet_not_handed⟩, fun hexact ↦ ?_⟩
  have hcounters := (haccounted.exactExhaustion_iff_counters hparse).mp hexact
  exact absurd hcounters.2 (Nat.not_lt.mpr hsubnets)

end LoggedAllocator

end Clawbernetes.ClawNetwork
