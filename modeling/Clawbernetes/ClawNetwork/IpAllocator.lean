import Clawbernetes.Library.Addresses
import Clawbernetes.Library.FiniteTable
import Clawbernetes.Library.Runs

/-!
# The allocator of the mesh

`IpAllocator` of the network crate hands out mesh addresses from one pool per region and workload
subnets from one pool for all nodes. Each pool has a counter behind a lock; nothing is ever given
back. The parser of the `ipnet` crate, through which a subnet is built from its text, is a parameter
of the model, and `ReadsWorkloadSubnets` is what the allocator relies on.

An allocator is followed together with the log of its replies. The replies of a region are exactly
its addresses in order up to the counter (`Accounted`), which every call preserves
(`accounted_step`). Hence no address is handed out twice, every address is a host of its region's
pool, the subnets are disjoint, no addition of octets overflows, and a call that fails changes
nothing (`allocations_disjoint`).
-/

set_option autoImplicit false
set_option relaxedAutoImplicit false

namespace Clawbernetes.ClawNetwork

open Library.FiniteTable Library.Addresses Library.Runs

/-! ### Nodes, regions and their pools -/

/-- `NodeId`. -/
structure NodeId where
  raw : UInt64
  deriving DecidableEq

/-- The text of a node identifier: sixteen hexadecimal digits. -/
def NodeId.display (nodeId : NodeId) : String :=
  "node-" ++ String.ofList ((Nat.toDigits 16 nodeId.raw.toNat).leftpad 16 '0')

/-- `Region`. -/
inductive Region where
  | usWest
  | usEast
  | euWest
  | asia
  | molt
  | gateway
  deriving DecidableEq

namespace Region

/-- The text of a region. -/
def display : Region → String
  | usWest => "us-west"
  | usEast => "us-east"
  | euWest => "eu-west"
  | asia => "asia"
  | molt => "molt"
  | gateway => "gateway"

/-- The address `allocate_node_ip` counts from. -/
def base : Region → Ipv4Addr
  | gateway => ⟨10, 100, 0, 0⟩
  | usWest => ⟨10, 100, 16, 0⟩
  | usEast => ⟨10, 100, 32, 0⟩
  | euWest => ⟨10, 100, 48, 0⟩
  | asia => ⟨10, 100, 64, 0⟩
  | molt => ⟨10, 100, 80, 0⟩

/-- The pool of a region, as the documentation of `allocate_node_ip` lists it. -/
def pool : Region → Ipv4Net
  | gateway => ⟨⟨10, 100, 0, 0⟩, 20, by decide⟩
  | usWest => ⟨⟨10, 100, 16, 0⟩, 20, by decide⟩
  | usEast => ⟨⟨10, 100, 32, 0⟩, 20, by decide⟩
  | euWest => ⟨⟨10, 100, 48, 0⟩, 20, by decide⟩
  | asia => ⟨⟨10, 100, 64, 0⟩, 20, by decide⟩
  | molt => ⟨⟨10, 100, 80, 0⟩, 20, by decide⟩

end Region

/-- The pool of the workload subnets, `workload_cidr` of the default configuration. -/
def workloadPool : IpNet := .v4 ⟨⟨10, 200, 0, 0⟩, 16, by decide⟩

/-! ### The allocator -/

/-- `Mutex`. A panic of a thread that holds the lock poisons it. -/
structure Mutex (Value : Type) where
  value : Value
  poisoned : Bool

/-- What the allocator and the mesh make of `Mutex::lock`. -/
def Mutex.lock {Value : Type} (mutex : Mutex Value) : Except String Value :=
  if mutex.poisoned then .error "lock poisoned" else .ok mutex.value

/-- What a call comes to: the result it returns, or a panic. -/
inductive Outcome (Value : Type) where
  | returned (result : Except String Value)
  | panicked

/-- The addition of octets with its overflow check. -/
def octetAdd (first second : UInt8) : Option UInt8 :=
  if first.toNat + second.toNat < 2 ^ 8 then some (first + second) else none

/-- `IpAllocator`. -/
structure IpAllocator where
  regionCounters : Mutex (Table Region UInt32)
  workloadCounter : Mutex UInt32

namespace IpAllocator

/-- `IpAllocator::new`. -/
def new : IpAllocator := ⟨⟨∅, false⟩, ⟨0, false⟩⟩

/-- `entry(region).or_insert(1)`. -/
def counterEntry (counters : Table Region UInt32) (region : Region) :
    Table Region UInt32 × UInt32 :=
  match counters.lookup region with
  | some counter => (counters, counter)
  | none => (counters.insert region 1, 1)

/-- `IpAllocator::allocate_node_ip`. -/
def allocateNodeIp (allocator : IpAllocator) (region : Region) : IpAllocator × Outcome IpAddr :=
  let base := region.base
  match allocator.regionCounters.lock with
  | .error message => (allocator, .returned (.error message))
  | .ok counters =>
    let (counters, counter) := counterEntry counters region
    if 4094 ≤ counter then
      ({ allocator with regionCounters := ⟨counters, false⟩ },
        .returned (.error ("region " ++ region.display ++ " IP pool exhausted")))
    else
      let offset := counter
      let counters := counters.insert region (counter + 1)
      -- The lock is still held when the address is put together.
      match octetAdd base.third (offset >>> 8).toUInt8 with
      | none => ({ allocator with regionCounters := ⟨counters, true⟩ }, .panicked)
      | some third =>
        ({ allocator with regionCounters := ⟨counters, false⟩ },
          .returned (.ok (.v4 ⟨base.first, base.second, third, (offset &&& 0xFF).toUInt8⟩)))

/-- The text of the workload subnet with a third octet. -/
def subnetText (thirdOctet : UInt8) : String :=
  "10.200." ++ toString thirdOctet ++ ".0/24"

/-- `IpAllocator::allocate_workload_subnet`. The parser of the `ipnet` crate returns a network or
the text of its error. -/
def allocateWorkloadSubnet (parse : String → Except String Ipv4Net) (allocator : IpAllocator)
    (_nodeId : NodeId) : IpAllocator × Outcome IpNet :=
  match allocator.workloadCounter.lock with
  | .error message => (allocator, .returned (.error message))
  | .ok counter =>
    if 255 ≤ counter then
      (allocator, .returned (.error "workload subnet pool exhausted"))
    else
      let thirdOctet := counter.toUInt8
      let allocator := { allocator with workloadCounter := ⟨counter + 1, false⟩ }
      match parse (subnetText thirdOctet) with
      | .error message => (allocator, .returned (.error ("subnet parse error: " ++ message)))
      | .ok subnet => (allocator, .returned (.ok (.v4 subnet)))

end IpAllocator

/-! ### What one call does -/

/-- The address of a region at an offset, its octets put together as the allocator does. -/
def nodeAddress (region : Region) (offset : UInt32) : Ipv4Addr :=
  ⟨region.base.first, region.base.second, region.base.third + (offset >>> 8).toUInt8,
    (offset &&& 0xFF).toUInt8⟩

/-- The workload subnet with a third octet. -/
def workloadNet (thirdOctet : UInt8) : Ipv4Net := ⟨⟨10, 200, thirdOctet, 0⟩, 24, by decide⟩

/-- The parser reads the text of a workload subnet as that subnet. -/
def ReadsWorkloadSubnets (parse : String → Except String Ipv4Net) : Prop :=
  ∀ thirdOctet, parse (IpAllocator.subnetText thirdOctet) = .ok (workloadNet thirdOctet)

/-- The third octet of an offset. -/
theorem toNat_highOctet {offset : UInt32} (hoffset : offset.toNat < 4096) :
    (offset >>> 8).toUInt8.toNat = offset.toNat / 2 ^ 8 := by
  rw [UInt32.toNat_toUInt8, UInt32.toNat_shiftRight]
  have hshift : offset.toNat >>> ((8 : UInt32).toNat % 32) = offset.toNat / 2 ^ 8 :=
    Nat.shiftRight_eq_div_pow _ 8
  rw [hshift]
  omega

/-- The fourth octet of an offset. -/
theorem toNat_lowOctet (offset : UInt32) :
    (offset &&& 0xFF).toUInt8.toNat = offset.toNat % 2 ^ 8 := by
  rw [UInt32.toNat_toUInt8, UInt32.toNat_and]
  have hmask : offset.toNat &&& (0xFF : UInt32).toNat = offset.toNat % 2 ^ 8 :=
    Nat.and_two_pow_sub_one_eq_mod _ 8
  rw [hmask]
  omega

/-- The third octet of a base leaves room for the offsets of its pool. -/
theorem Region.base_third_le (region : Region) : region.base.third.toNat ≤ 80 := by
  cases region <;> decide

/-- The last octet of a base is zero. -/
theorem Region.base_fourth (region : Region) : region.base.fourth = 0 := by
  cases region <;> rfl

/-- No addition of octets overflows below the size of a pool. -/
theorem octetAdd_base (region : Region) {offset : UInt32} (hoffset : offset.toNat < 4096) :
    octetAdd region.base.third (offset >>> 8).toUInt8 =
      some (region.base.third + (offset >>> 8).toUInt8) := by
  have hbase := region.base_third_le
  have hhigh := toNat_highOctet hoffset
  unfold octetAdd
  rw [if_pos (by omega)]

/-- Addresses are numbered from the base of their region. -/
theorem toNat_nodeAddress {region : Region} {offset : UInt32} (hoffset : offset.toNat < 4096) :
    (nodeAddress region offset).toNat = region.base.toNat + offset.toNat := by
  have hbase := region.base_third_le
  have hhigh := toNat_highOctet hoffset
  have hlow := toNat_lowOctet offset
  have hfourth : region.base.fourth.toNat = 0 := by
    rw [region.base_fourth]
    rfl
  unfold nodeAddress Ipv4Addr.toNat
  simp only [UInt8.toNat_add, hhigh, hlow, hfourth]
  omega

/-- The documented pool of a region starts at the base of the region. -/
theorem Region.network_pool (region : Region) : region.pool.network = region.base := by
  cases region <;> decide

/-- Every pool has 4096 addresses. -/
theorem Region.size_pool (region : Region) : region.pool.size = 4096 := by
  cases region <;> rfl

/-- Two pools that share an address are the pool of one region. -/
theorem Region.eq_of_contains {region other : Region} {address : Ipv4Addr}
    (hregion : region.pool.Contains address) (hother : other.pool.Contains address) :
    region = other := by
  have hlength (r : Region) : r.pool.prefixLen = 20 := by cases r <;> rfl
  have hsame : Ipv4Addr.SamePrefix 20 region.pool.addr other.pool.addr := by
    unfold Ipv4Net.Contains at hregion hother
    rw [hlength] at hregion hother
    exact hregion.trans hother.symm
  revert hsame
  cases region <;> cases other <;> decide

/-- An address handed out is a host of the documented pool. -/
theorem isHost_nodeAddress {region : Region} {offset : UInt32} (hpos : 1 ≤ offset.toNat)
    (hlt : offset.toNat < 4094) : region.pool.IsHost (nodeAddress region offset) := by
  have haddress : (nodeAddress region offset).toNat =
      region.pool.network.toNat + offset.toNat := by
    rw [region.network_pool, toNat_nodeAddress (by omega)]
  apply Ipv4Net.isHost_of_toNat haddress hpos
  rw [region.size_pool]
  omega

namespace IpAllocator

/-- The counter of a region; an absent one starts at one. -/
def counterOf (allocator : IpAllocator) (region : Region) : UInt32 :=
  (allocator.regionCounters.value.lookup region).getD 1

/-- No lock is poisoned, and every counter is in its range. -/
structure Sound (allocator : IpAllocator) : Prop where
  regions_healthy : allocator.regionCounters.poisoned = false
  workloads_healthy : allocator.workloadCounter.poisoned = false
  one_le_counter : ∀ region, 1 ≤ (allocator.counterOf region).toNat
  counter_le : ∀ region, (allocator.counterOf region).toNat ≤ 4094
  workload_le : allocator.workloadCounter.value.toNat ≤ 255

/-- The allocator after an address of a region was handed out. -/
def advanceRegion (allocator : IpAllocator) (region : Region) : IpAllocator :=
  { allocator with regionCounters :=
      ⟨allocator.regionCounters.value.insert region (allocator.counterOf region + 1), false⟩ }

/-- The allocator after a workload subnet was handed out. -/
def advanceWorkload (allocator : IpAllocator) : IpAllocator :=
  { allocator with workloadCounter := ⟨allocator.workloadCounter.value + 1, false⟩ }

/-- The counters after an address was handed out. -/
theorem counterOf_advanceRegion (allocator : IpAllocator) (region other : Region) :
    (allocator.advanceRegion region).counterOf other =
      if other = region then allocator.counterOf region + 1 else allocator.counterOf other := by
  unfold advanceRegion
  by_cases hother : other = region
  · rw [if_pos hother, hother]
    simp [counterOf]
  · rw [if_neg hother]
    simp [counterOf, AList.lookup_insert_ne hother]

/-- The entry of a region is made of its counter. -/
theorem counterEntry_eq (allocator : IpAllocator) (region : Region) :
    (counterEntry allocator.regionCounters.value region).2 = allocator.counterOf region ∧
      (counterEntry allocator.regionCounters.value region).1.insert region
          (allocator.counterOf region + 1) =
        allocator.regionCounters.value.insert region (allocator.counterOf region + 1) := by
  unfold counterEntry counterOf
  cases hlookup : allocator.regionCounters.value.lookup region with
  | some counter => exact ⟨rfl, rfl⟩
  | none => exact ⟨rfl, AList.insert_insert _⟩

/-- An address is handed out while the counter of the region is below its limit. -/
theorem allocateNodeIp_of_lt {allocator : IpAllocator} (hsound : allocator.Sound) {region : Region}
    (hroom : (allocator.counterOf region).toNat < 4094) :
    allocator.allocateNodeIp region = (allocator.advanceRegion region,
      .returned (.ok (.v4 (nodeAddress region (allocator.counterOf region))))) := by
  obtain ⟨hcounter, hinsert⟩ := counterEntry_eq allocator region
  have hlimit : ¬ 4094 ≤ allocator.counterOf region := by
    rw [UInt32.le_iff_toNat_le]
    exact Nat.not_le.mpr hroom
  unfold allocateNodeIp Mutex.lock
  simp only [hsound.regions_healthy, Bool.false_eq_true, if_false, hcounter, if_neg hlimit,
    octetAdd_base region (Nat.lt_trans hroom (by decide)), hinsert]
  rfl

/-- At its limit a region has a counter, and the call fails without a change. -/
theorem allocateNodeIp_of_exhausted {allocator : IpAllocator} (hsound : allocator.Sound)
    {region : Region} (hexhausted : 4094 ≤ (allocator.counterOf region).toNat) :
    allocator.allocateNodeIp region = (allocator,
      .returned (.error ("region " ++ region.display ++ " IP pool exhausted"))) := by
  have hlimit : 4094 ≤ allocator.counterOf region := UInt32.le_iff_toNat_le.mpr hexhausted
  have hhealthy := hsound.regions_healthy
  obtain ⟨hcounter, -⟩ := counterEntry_eq allocator region
  have hentry : (counterEntry allocator.regionCounters.value region).1 =
      allocator.regionCounters.value := by
    unfold counterOf at hexhausted
    unfold counterEntry
    cases hlookup : allocator.regionCounters.value.lookup region with
    | some counter => rfl
    | none =>
      rw [hlookup] at hexhausted
      exact absurd hexhausted (by decide)
  unfold allocateNodeIp Mutex.lock
  simp only [hhealthy, Bool.false_eq_true, if_false, hcounter, if_pos hlimit, hentry]
  rw [← hhealthy]

/-- A subnet is handed out while the counter of the subnets is below its limit. -/
theorem allocateWorkloadSubnet_of_lt {parse : String → Except String Ipv4Net}
    (hparse : ReadsWorkloadSubnets parse) {allocator : IpAllocator} (hsound : allocator.Sound)
    (nodeId : NodeId) (hroom : allocator.workloadCounter.value.toNat < 255) :
    allocator.allocateWorkloadSubnet parse nodeId = (allocator.advanceWorkload,
      .returned (.ok (.v4 (workloadNet allocator.workloadCounter.value.toUInt8)))) := by
  have hlimit : ¬ 255 ≤ allocator.workloadCounter.value := by
    rw [UInt32.le_iff_toNat_le]
    exact Nat.not_le.mpr hroom
  unfold allocateWorkloadSubnet Mutex.lock
  simp only [hsound.workloads_healthy, Bool.false_eq_true, if_false, if_neg hlimit, hparse _]
  rfl

/-- At the limit of the subnets the call fails without a change. -/
theorem allocateWorkloadSubnet_of_exhausted {parse : String → Except String Ipv4Net}
    {allocator : IpAllocator} (hsound : allocator.Sound) (nodeId : NodeId)
    (hexhausted : 255 ≤ allocator.workloadCounter.value.toNat) :
    allocator.allocateWorkloadSubnet parse nodeId = (allocator,
      .returned (.error "workload subnet pool exhausted")) := by
  have hlimit : 255 ≤ allocator.workloadCounter.value := UInt32.le_iff_toNat_le.mpr hexhausted
  unfold allocateWorkloadSubnet Mutex.lock
  simp only [hsound.workloads_healthy, Bool.false_eq_true, if_false, if_pos hlimit]

/-- The next counter of a region. -/
theorem toNat_counter_add_one {counter : UInt32} (hroom : counter.toNat < 4094) :
    (counter + 1).toNat = counter.toNat + 1 := by
  rw [UInt32.toNat_add]
  change (counter.toNat + 1) % 2 ^ 32 = counter.toNat + 1
  omega

/-- Handing out an address below the limit keeps the allocator sound. -/
theorem Sound.advanceRegion {allocator : IpAllocator} (hsound : allocator.Sound) {region : Region}
    (hroom : (allocator.counterOf region).toNat < 4094) :
    (allocator.advanceRegion region).Sound where
  regions_healthy := rfl
  workloads_healthy := hsound.workloads_healthy
  one_le_counter other := by
    rw [counterOf_advanceRegion]
    split_ifs with hother
    · rw [toNat_counter_add_one hroom]
      omega
    · exact hsound.one_le_counter other
  counter_le other := by
    rw [counterOf_advanceRegion]
    split_ifs with hother
    · rw [toNat_counter_add_one hroom]
      omega
    · exact hsound.counter_le other
  workload_le := hsound.workload_le

/-- Handing out a subnet below the limit keeps the allocator sound. -/
theorem Sound.advanceWorkload {allocator : IpAllocator} (hsound : allocator.Sound)
    (hroom : allocator.workloadCounter.value.toNat < 255) : allocator.advanceWorkload.Sound where
  regions_healthy := hsound.regions_healthy
  workloads_healthy := rfl
  one_le_counter := hsound.one_le_counter
  counter_le := hsound.counter_le
  workload_le := by
    change (allocator.workloadCounter.value + 1).toNat ≤ 255
    rw [toNat_counter_add_one (by omega)]
    omega

/-- A new allocator is sound. -/
theorem sound_new : new.Sound where
  regions_healthy := rfl
  workloads_healthy := rfl
  one_le_counter _ := Nat.le_refl 1
  counter_le _ := by
    change 1 ≤ 4094
    omega
  workload_le := by decide

end IpAllocator

/-! ### Runs and their replies -/

/-- A call of the allocator. -/
inductive AllocatorCall where
  | allocateNodeIp (region : Region)
  | allocateWorkloadSubnet (nodeId : NodeId)

/-- What a call comes to, an address beside the region it was asked for. -/
inductive AllocatorReply where
  | nodeIp (region : Region) (outcome : Outcome IpAddr)
  | workloadSubnet (outcome : Outcome IpNet)

namespace AllocatorReply

/-- The call returned an error. -/
def Failed : AllocatorReply → Prop
  | nodeIp _ (.returned (.error _)) => True
  | workloadSubnet (.returned (.error _)) => True
  | _ => False

/-- The call panicked. -/
def Panicked : AllocatorReply → Prop
  | nodeIp _ .panicked => True
  | workloadSubnet .panicked => True
  | _ => False

/-- The address a call handed out, with its region. -/
def handedIp : AllocatorReply → Option (Region × IpAddr)
  | nodeIp region (.returned (.ok ip)) => some (region, ip)
  | _ => none

/-- The subnet a call handed out. -/
def handedSubnet : AllocatorReply → Option IpNet
  | workloadSubnet (.returned (.ok subnet)) => some subnet
  | _ => none

end AllocatorReply

/-- One call of the allocator and its reply. -/
def IpAllocator.perform (parse : String → Except String Ipv4Net) (allocator : IpAllocator) :
    AllocatorCall → IpAllocator × AllocatorReply
  | .allocateNodeIp region =>
    let (next, outcome) := allocator.allocateNodeIp region
    (next, .nodeIp region outcome)
  | .allocateWorkloadSubnet nodeId =>
    let (next, outcome) := allocator.allocateWorkloadSubnet parse nodeId
    (next, .workloadSubnet outcome)

/-- An allocator and the replies it has given. -/
structure LoggedAllocator where
  allocator : IpAllocator
  log : List AllocatorReply

namespace LoggedAllocator

/-- A new allocator, before its first reply. -/
def new : LoggedAllocator := ⟨IpAllocator.new, []⟩

/-- One call, its reply added to the log. -/
def step (parse : String → Except String Ipv4Net) (logged : LoggedAllocator)
    (call : AllocatorCall) : LoggedAllocator :=
  let (next, reply) := logged.allocator.perform parse call
  ⟨next, logged.log ++ [reply]⟩

/-- The addresses handed out, in order. -/
def nodeIps (logged : LoggedAllocator) : List (Region × IpAddr) :=
  logged.log.filterMap AllocatorReply.handedIp

/-- The addresses handed out for one region, in order. -/
def nodeIpsOf (logged : LoggedAllocator) (region : Region) : List (Region × IpAddr) :=
  logged.nodeIps.filter fun handed ↦ handed.1 = region

/-- The workload subnets handed out, in order. -/
def subnets (logged : LoggedAllocator) : List IpNet :=
  logged.log.filterMap AllocatorReply.handedSubnet

/-- The allocator is sound, no call has panicked, and what was handed out is exactly the addresses
of each region and the subnets before the counters, in order. -/
structure Accounted (logged : LoggedAllocator) : Prop where
  sound : logged.allocator.Sound
  no_panic : ∀ reply ∈ logged.log, ¬ reply.Panicked
  nodeIpsOf_eq : ∀ region, logged.nodeIpsOf region =
    (List.range' 1 ((logged.allocator.counterOf region).toNat - 1)).map
      fun offset ↦ (region, .v4 (nodeAddress region (.ofNat offset)))
  subnets_eq : logged.subnets =
    (List.range logged.allocator.workloadCounter.value.toNat).map
      fun third ↦ .v4 (workloadNet (.ofNat third))

/-- A new allocator has handed out nothing. -/
theorem accounted_new : new.Accounted where
  sound := IpAllocator.sound_new
  no_panic _ hreply := absurd hreply List.not_mem_nil
  nodeIpsOf_eq _ := rfl
  subnets_eq := rfl

end LoggedAllocator

/-- A call on a sound allocator fails without a change, or hands out the address or the subnet at
the counter and advances the counter. -/
theorem IpAllocator.perform_cases {parse : String → Except String Ipv4Net}
    (hparse : ReadsWorkloadSubnets parse) {allocator : IpAllocator} (hsound : allocator.Sound)
    (call : AllocatorCall) :
    (∃ reply : AllocatorReply, reply.Failed ∧ allocator.perform parse call = (allocator, reply)) ∨
      (∃ region, (allocator.counterOf region).toNat < 4094 ∧
        allocator.perform parse call = (allocator.advanceRegion region, .nodeIp region
          (.returned (.ok (.v4 (nodeAddress region (allocator.counterOf region))))))) ∨
      (allocator.workloadCounter.value.toNat < 255 ∧
        allocator.perform parse call = (allocator.advanceWorkload, .workloadSubnet
          (.returned (.ok (.v4 (workloadNet allocator.workloadCounter.value.toUInt8)))))) := by
  cases call with
  | allocateNodeIp region =>
    simp only [perform]
    by_cases hroom : (allocator.counterOf region).toNat < 4094
    · right; left
      refine ⟨region, hroom, ?_⟩
      rw [allocateNodeIp_of_lt hsound hroom]
    · left
      rw [allocateNodeIp_of_exhausted hsound (Nat.not_lt.mp hroom)]
      refine ⟨_, ?_, rfl⟩
      exact trivial
  | allocateWorkloadSubnet nodeId =>
    simp only [perform]
    by_cases hroom : allocator.workloadCounter.value.toNat < 255
    · right; right
      refine ⟨hroom, ?_⟩
      rw [allocateWorkloadSubnet_of_lt hparse hsound nodeId hroom]
    · left
      rw [allocateWorkloadSubnet_of_exhausted hsound nodeId (Nat.not_lt.mp hroom)]
      refine ⟨_, ?_, rfl⟩
      exact trivial

namespace LoggedAllocator

/-- A failed call hands out nothing and does not panic. -/
theorem nothing_of_failed {reply : AllocatorReply} (hfailed : reply.Failed) :
    reply.handedIp = none ∧ reply.handedSubnet = none ∧ ¬ reply.Panicked := by
  rcases reply with ⟨region, ⟨error | ip⟩ | _⟩ | ⟨⟨error | subnet⟩ | _⟩
  all_goals first
    | exact ⟨rfl, rfl, not_false⟩
    | exact hfailed.elim

/-- The range of the offsets handed out grows by the counter. -/
theorem range_counter_succ {counter : ℕ} (hpos : 1 ≤ counter) :
    List.range' 1 (counter + 1 - 1) = List.range' 1 (counter - 1) ++ [counter] := by
  obtain ⟨offset, rfl⟩ := Nat.exists_eq_add_of_le' hpos
  rw [Nat.add_sub_cancel, Nat.add_sub_cancel, List.range'_concat, Nat.one_mul, Nat.add_comm 1]

variable {parse : String → Except String Ipv4Net} {logged : LoggedAllocator}

/-- A log without panics stays one with a reply that is none. -/
theorem Accounted.no_panic_concat (haccounted : logged.Accounted) {reply : AllocatorReply}
    (hreply : ¬ reply.Panicked) : ∀ other ∈ logged.log ++ [reply], ¬ other.Panicked := by
  intro other hother
  rcases List.mem_append.mp hother with hold | hnew
  · exact haccounted.no_panic other hold
  · rw [List.mem_singleton.mp hnew]
    exact hreply

/-- A call that fails keeps the account. -/
theorem Accounted.of_failed (haccounted : logged.Accounted) {reply : AllocatorReply}
    (hfailed : reply.Failed) : Accounted ⟨logged.allocator, logged.log ++ [reply]⟩ := by
  obtain ⟨hip, hsubnet, hpanic⟩ := nothing_of_failed hfailed
  refine ⟨haccounted.sound, ?_, ?_, ?_⟩
  · exact haccounted.no_panic_concat hpanic
  · intro region
    rw [← haccounted.nodeIpsOf_eq region]
    simp [nodeIpsOf, nodeIps, hip]
  · rw [← haccounted.subnets_eq]
    simp [subnets, hsubnet]

/-- Handing out an address keeps the account. -/
theorem Accounted.of_nodeIp (haccounted : logged.Accounted) {region : Region}
    (hroom : (logged.allocator.counterOf region).toNat < 4094) :
    Accounted ⟨logged.allocator.advanceRegion region, logged.log ++ [.nodeIp region
      (.returned (.ok (.v4 (nodeAddress region (logged.allocator.counterOf region)))))]⟩ := by
  refine ⟨haccounted.sound.advanceRegion hroom, ?_, ?_, ?_⟩
  · exact haccounted.no_panic_concat not_false
  · intro other
    rw [IpAllocator.counterOf_advanceRegion]
    have hold := haccounted.nodeIpsOf_eq other
    unfold nodeIpsOf nodeIps at hold ⊢
    rw [List.filterMap_append, List.filter_append, hold]
    by_cases hother : other = region
    · subst hother
      have hpos := haccounted.sound.one_le_counter other
      rw [if_pos rfl, IpAllocator.toNat_counter_add_one hroom, range_counter_succ hpos,
        List.map_append]
      simp [AllocatorReply.handedIp]
    · rw [if_neg hother]
      simp [AllocatorReply.handedIp, Ne.symm hother]
  · rw [IpAllocator.advanceRegion, ← haccounted.subnets_eq]
    simp [subnets, AllocatorReply.handedSubnet]

/-- Handing out a subnet keeps the account. -/
theorem Accounted.of_subnet (haccounted : logged.Accounted)
    (hroom : logged.allocator.workloadCounter.value.toNat < 255) :
    Accounted ⟨logged.allocator.advanceWorkload, logged.log ++ [.workloadSubnet (.returned
      (.ok (.v4 (workloadNet logged.allocator.workloadCounter.value.toUInt8))))]⟩ := by
  refine ⟨haccounted.sound.advanceWorkload hroom, ?_, ?_, ?_⟩
  · exact haccounted.no_panic_concat not_false
  · intro region
    have hold := haccounted.nodeIpsOf_eq region
    change _ = List.map _ (List.range' 1 ((logged.allocator.counterOf region).toNat - 1))
    rw [← hold]
    simp [nodeIpsOf, nodeIps, AllocatorReply.handedIp]
  · have hold := haccounted.subnets_eq
    change _ = List.map _ (List.range (logged.allocator.workloadCounter.value + 1).toNat)
    rw [IpAllocator.toNat_counter_add_one (by omega), List.range_succ, List.map_append, ← hold]
    simp [subnets, AllocatorReply.handedSubnet]

/-- Every call keeps the account. -/
theorem accounted_step (hparse : ReadsWorkloadSubnets parse) (haccounted : logged.Accounted)
    (call : AllocatorCall) : (logged.step parse call).Accounted := by
  unfold step
  obtain ⟨reply, hfailed, hperform⟩ | ⟨region, hroom, hperform⟩ | ⟨hroom, hperform⟩ :=
    IpAllocator.perform_cases hparse haccounted.sound call
  · rw [hperform]
    exact haccounted.of_failed hfailed
  · rw [hperform]
    exact haccounted.of_nodeIp hroom
  · rw [hperform]
    exact haccounted.of_subnet hroom

/-- Every run from a new allocator is accounted for. -/
theorem accounted_run (hparse : ReadsWorkloadSubnets parse) (calls : List AllocatorCall) :
    (calls.foldl (step parse) new).Accounted :=
  (always_of_step accounted_new (fun _ call haccounted ↦ accounted_step hparse haccounted call)
    calls).last

end LoggedAllocator

/-! ### What is handed out -/

/-- The workload subnet with a third octet has the addresses with its first three octets. -/
theorem contains_workloadNet {thirdOctet : UInt8} {ip : IpAddr} :
    IpNet.Contains (.v4 (workloadNet thirdOctet)) ip ↔
      ∃ fourth, ip = .v4 ⟨10, 200, thirdOctet, fourth⟩ := by
  rcases ip with address | address
  · change Ipv4Addr.SamePrefix 24 ⟨10, 200, thirdOctet, 0⟩ address ↔ _
    rw [Ipv4Addr.samePrefix_24_iff]
    constructor
    · rintro ⟨hfirst, hsecond, hthird⟩
      refine ⟨address.fourth, congrArg IpAddr.v4 ?_⟩
      exact Ipv4Addr.ext hfirst.symm hsecond.symm hthird.symm rfl
    · rintro ⟨fourth, hip⟩
      obtain rfl := IpAddr.v4.inj hip
      exact ⟨rfl, rfl, rfl⟩
  · exact ⟨False.elim, fun ⟨_, hip⟩ ↦ IpAddr.noConfusion hip⟩

/-- The workload subnets lie in their pool. -/
theorem within_workloadNet (thirdOctet : UInt8) :
    IpNet.Within (.v4 (workloadNet thirdOctet)) workloadPool := by
  intro ip hip
  obtain ⟨fourth, rfl⟩ := contains_workloadNet.mp hip
  change Ipv4Addr.SamePrefix 16 _ _
  rw [Ipv4Addr.samePrefix_16_iff]
  exact ⟨rfl, rfl⟩

/-- Workload subnets with different third octets are disjoint. -/
theorem disjoint_workloadNet {thirdOctet other : UInt8} (hne : thirdOctet ≠ other) :
    IpNet.Disjoint (.v4 (workloadNet thirdOctet)) (.v4 (workloadNet other)) := by
  intro ip hip hother
  obtain ⟨fourth, rfl⟩ := contains_workloadNet.mp hip
  obtain ⟨otherFourth, hsame⟩ := contains_workloadNet.mp hother
  exact hne (congrArg Ipv4Addr.third (IpAddr.v4.inj hsame))

/-- No mesh address is in a workload subnet: they differ in the second octet. -/
theorem not_contains_nodeAddress (thirdOctet : UInt8) (region : Region) (offset : UInt32) :
    ¬ IpNet.Contains (.v4 (workloadNet thirdOctet)) (.v4 (nodeAddress region offset)) := by
  intro hcontains
  obtain ⟨fourth, hsame⟩ := contains_workloadNet.mp hcontains
  have hsecond : region.base.second = 200 := congrArg Ipv4Addr.second (IpAddr.v4.inj hsame)
  revert hsecond
  cases region <;> decide

/-- An offset of a pool as a number. -/
theorem toNat_ofNat_offset {offset : ℕ} (hoffset : offset < 4096) :
    (UInt32.ofNat offset).toNat = offset := by
  rw [UInt32.toNat_ofNat']
  omega

/-- The offset of an address is determined by the address. -/
theorem nodeAddress_injOn {region : Region} {offset other : ℕ} (hoffset : offset < 4096)
    (hother : other < 4096)
    (hsame : nodeAddress region (.ofNat offset) = nodeAddress region (.ofNat other)) :
    offset = other := by
  have hnumber := toNat_ofNat_offset hoffset
  have hotherNumber := toNat_ofNat_offset hother
  have hnumbers := congrArg Ipv4Addr.toNat hsame
  rw [toNat_nodeAddress (by omega), toNat_nodeAddress (by omega)] at hnumbers
  omega

namespace LoggedAllocator

variable {logged : LoggedAllocator}

/-- An address handed out is the address of its region at an offset before the counter. -/
theorem Accounted.exists_offset (haccounted : logged.Accounted) {region : Region} {ip : IpAddr}
    (hhanded : (region, ip) ∈ logged.nodeIps) :
    ∃ offset : UInt32, 1 ≤ offset.toNat ∧ offset.toNat < 4094 ∧
      ip = .v4 (nodeAddress region offset) := by
  have hof : (region, ip) ∈ logged.nodeIpsOf region :=
    List.mem_filter.mpr ⟨hhanded, by simp⟩
  rw [haccounted.nodeIpsOf_eq region] at hof
  obtain ⟨offset, hoffset, hpair⟩ := List.mem_map.mp hof
  obtain ⟨hpos, hlt⟩ := List.mem_range'_1.mp hoffset
  have hbound := haccounted.sound.counter_le region
  have hnumber := @toNat_ofNat_offset offset (by omega)
  exact ⟨.ofNat offset, by omega, by omega, (Prod.mk.inj hpair).2.symm⟩

/-- No region is handed out an address twice. -/
theorem Accounted.nodup_nodeIpsOf (haccounted : logged.Accounted) (region : Region) :
    (logged.nodeIpsOf region).Nodup := by
  rw [haccounted.nodeIpsOf_eq region]
  apply List.Nodup.map_on
  · intro offset hoffset other hother hsame
    have hbound := haccounted.sound.counter_le region
    rw [List.mem_range'_1] at hoffset hother
    apply nodeAddress_injOn (by omega) (by omega)
    exact IpAddr.v4.inj (Prod.mk.inj hsame).2
  · exact List.nodup_range'

/-- No address is handed out twice, for one region or for two. -/
theorem Accounted.nodup_nodeIps (haccounted : logged.Accounted) :
    (logged.nodeIps.map Prod.snd).Nodup := by
  apply List.Nodup.map_on
  · rintro ⟨region, ip⟩ hhanded ⟨other, otherIp⟩ hother hsame
    obtain rfl : ip = otherIp := hsame
    obtain ⟨offset, hpos, hlt, rfl⟩ := haccounted.exists_offset hhanded
    obtain ⟨otherOffset, hotherPos, hotherLt, hip⟩ := haccounted.exists_offset hother
    have hcontains : region.pool.Contains _ := (isHost_nodeAddress hpos hlt).1
    have hotherContains : other.pool.Contains _ := (isHost_nodeAddress hotherPos hotherLt).1
    rw [← IpAddr.v4.inj hip] at hotherContains
    rw [Region.eq_of_contains hcontains hotherContains]
  · rw [List.nodup_iff_count_le_one]
    intro handed
    have hone := List.nodup_iff_count_le_one.mp (haccounted.nodup_nodeIpsOf handed.1) handed
    rwa [nodeIpsOf, List.count_filter (by simp)] at hone

/-- A subnet handed out is the subnet of a third octet. -/
theorem Accounted.exists_third (haccounted : logged.Accounted) {subnet : IpNet}
    (hhanded : subnet ∈ logged.subnets) : ∃ thirdOctet, subnet = .v4 (workloadNet thirdOctet) := by
  rw [haccounted.subnets_eq] at hhanded
  obtain ⟨third, -, rfl⟩ := List.mem_map.mp hhanded
  exact ⟨.ofNat third, rfl⟩

/-- The subnets handed out are pairwise disjoint. -/
theorem Accounted.pairwise_subnets (haccounted : logged.Accounted) :
    logged.subnets.Pairwise IpNet.Disjoint := by
  rw [haccounted.subnets_eq, List.pairwise_map]
  apply List.nodup_range.imp_of_mem
  intro third other hthird hother hne
  have hbound := haccounted.sound.workload_le
  rw [List.mem_range] at hthird hother
  apply disjoint_workloadNet
  intro hsame
  have hnumbers := congrArg UInt8.toNat hsame
  rw [UInt8.toNat_ofNat', UInt8.toNat_ofNat'] at hnumbers
  omega

end LoggedAllocator

/-- In every run of the allocator, of any calls in any order: no mesh address is handed out twice;
each is a host of the documented pool of its region; no addition of octets overflows, so no call
panics; the workload subnets are pairwise disjoint, are of the length 24, lie in `10.200.0.0/16` and
have no mesh address; and a further call that fails changes nothing. -/
theorem LoggedAllocator.allocations_disjoint (parse : String → Except String Ipv4Net)
    (hparse : ReadsWorkloadSubnets parse) (calls : List AllocatorCall) :
    let logged := calls.foldl (LoggedAllocator.step parse) LoggedAllocator.new
    (logged.nodeIps.map Prod.snd).Nodup ∧
      (∀ region ip, (region, ip) ∈ logged.nodeIps →
        ∃ address, ip = .v4 address ∧ region.pool.IsHost address) ∧
      (∀ reply ∈ logged.log, ¬ reply.Panicked) ∧
      logged.subnets.Pairwise IpNet.Disjoint ∧
      (∀ subnet ∈ logged.subnets,
        (∃ net : Ipv4Net, subnet = .v4 net ∧ net.prefixLen = 24) ∧ subnet.Within workloadPool ∧
          ∀ region ip, (region, ip) ∈ logged.nodeIps → ¬ subnet.Contains ip) ∧
      ∀ call, (logged.allocator.perform parse call).2.Failed →
        (logged.allocator.perform parse call).1 = logged.allocator := by
  intro logged
  have haccounted : logged.Accounted := accounted_run hparse calls
  refine ⟨haccounted.nodup_nodeIps, ?_, haccounted.no_panic, haccounted.pairwise_subnets, ?_, ?_⟩
  · intro region ip hhanded
    obtain ⟨offset, hpos, hlt, rfl⟩ := haccounted.exists_offset hhanded
    exact ⟨_, rfl, isHost_nodeAddress hpos hlt⟩
  · intro subnet hsubnet
    obtain ⟨thirdOctet, rfl⟩ := haccounted.exists_third hsubnet
    refine ⟨⟨_, rfl, rfl⟩, within_workloadNet thirdOctet, ?_⟩
    intro region ip hhanded
    obtain ⟨offset, -, -, rfl⟩ := haccounted.exists_offset hhanded
    exact not_contains_nodeAddress thirdOctet region offset
  · intro call hfailed
    obtain ⟨reply, -, hperform⟩ | ⟨region, -, hperform⟩ | ⟨-, hperform⟩ :=
      IpAllocator.perform_cases hparse haccounted.sound call
    · rw [hperform]
    · rw [hperform] at hfailed
      exact hfailed.elim
    · rw [hperform] at hfailed
      exact hfailed.elim

/-- The decimal numbers of a text, whatever stands between them. -/
def numbersIn (text : List Char) : List ℕ :=
  let (numbers, last) := text.foldl (fun (numbers, number) character ↦
    if character.isDigit then (numbers, number * 10 + (character.toNat - 48))
    else (numbers ++ [number], 0)) (([] : List ℕ), 0)
  numbers ++ [last]

/-- A reader of networks in dotted form. -/
def readNet (text : String) : Except String Ipv4Net :=
  match numbersIn text.toList with
  | [first, second, third, fourth, length] =>
    if hlength : length ≤ 32 then
      .ok ⟨⟨.ofNat first, .ofNat second, .ofNat third, .ofNat fourth⟩, length, hlength⟩
    else .error "invalid IP address syntax"
  | _ => .error "invalid IP address syntax"

/-- The numbers of the text of a workload subnet. -/
theorem numbersIn_subnetText (thirdOctet : UInt8) :
    numbersIn (IpAllocator.subnetText thirdOctet).toList = [10, 200, thirdOctet.toNat, 0, 24] := by
  have htext : (IpAllocator.subnetText thirdOctet).toList =
      "10.200.".toList ++ Nat.toDigits 10 thirdOctet.toNat ++ ".0/24".toList := by
    unfold IpAllocator.subnetText
    rw [String.toList_append, String.toList_append]
    exact congrArg ("10.200.".toList ++ · ++ ".0/24".toList) Nat.toList_repr
  have hdigits : ∀ third : Fin 256, numbersIn ("10.200.".toList ++ Nat.toDigits 10 third ++
      ".0/24".toList) = [10, 200, third.val, 0, 24] := by decide +kernel
  rw [htext]
  exact hdigits thirdOctet.toFin

/-- The reader reads workload subnets. -/
theorem readsWorkloadSubnets_readNet : ReadsWorkloadSubnets readNet := by
  intro thirdOctet
  unfold readNet
  rw [numbersIn_subnetText]
  simp [workloadNet]

/-- Two nodes of one region, one of another, and two subnets. -/
def sampleCalls : List AllocatorCall :=
  [.allocateNodeIp .usWest, .allocateWorkloadSubnet ⟨1⟩, .allocateNodeIp .gateway,
    .allocateNodeIp .usWest, .allocateWorkloadSubnet ⟨2⟩]

/-- The sample calls hand out three addresses, none of them twice. -/
theorem LoggedAllocator.allocations_disjoint_example :
    ReadsWorkloadSubnets readNet ∧
      (sampleCalls.foldl (LoggedAllocator.step readNet) LoggedAllocator.new).nodeIps =
        [(.usWest, .v4 ⟨10, 100, 16, 1⟩), (.gateway, .v4 ⟨10, 100, 0, 1⟩),
          (.usWest, .v4 ⟨10, 100, 16, 2⟩)] ∧
      ((sampleCalls.foldl (LoggedAllocator.step readNet) LoggedAllocator.new).nodeIps.map
        Prod.snd).Nodup := by
  refine ⟨readsWorkloadSubnets_readNet, by decide +kernel, ?_⟩
  exact (LoggedAllocator.allocations_disjoint readNet readsWorkloadSubnets_readNet sampleCalls).1

end Clawbernetes.ClawNetwork
