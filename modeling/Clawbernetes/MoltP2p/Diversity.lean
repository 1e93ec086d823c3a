import Clawbernetes.Library.Addresses
import Clawbernetes.Library.FiniteTable

/-!
# The diversity tracker of the connection pool

`diversity.rs`. The tracker counts the peers of every IPv4 /24 subnet, IPv6 /48 prefix, autonomous
system and region, and keeps what it was told of a peer under the peer's IP address, so that a
removal knows what to count down. Each of these is a `DiversityGroup`, and the counts of the four
tables are read through `countIn`. Adding a peer counts up the groups it belongs to
(`countIn_addPeerInternal`), and removing an address counts down the groups of the entry kept for it
(`countIn_remove`). A later peer with the same address replaces the entry of the earlier one, and
only `Covered` is left: the entries never stand for more than was counted.
-/

set_option autoImplicit false
set_option relaxedAutoImplicit false

namespace Clawbernetes.MoltP2p

open Library.FiniteTable Library.Addresses

/-- `PeerDiversityConfig`. -/
structure PeerDiversityConfig where
  maxPerIpv4Subnet : ℕ
  maxPerIpv6Prefix : ℕ
  maxPerAsn : ℕ
  enableGeoDiversity : Bool
  minGeoRegions : ℕ
  allowPrivateIps : Bool
  enabled : Bool
  deriving DecidableEq

/-- `PeerDiversityConfig::default`. -/
def PeerDiversityConfig.default : PeerDiversityConfig where
  maxPerIpv4Subnet := 2
  maxPerIpv6Prefix := 2
  maxPerAsn := 5
  enableGeoDiversity := true
  minGeoRegions := 3
  allowPrivateIps := true
  enabled := true

/-- `Ipv4Subnet`: the first three octets. -/
structure Ipv4Subnet where
  octets : Vector UInt8 3
  deriving DecidableEq

/-- `Ipv4Subnet::from_addr`. -/
def Ipv4Subnet.fromAddr (address : Ipv4Addr) : Ipv4Subnet :=
  ⟨#v[address.first, address.second, address.third]⟩

/-- `Ipv4Subnet::to_cidr_string`. -/
def Ipv4Subnet.toCidrString (subnet : Ipv4Subnet) : String :=
  toString subnet.octets[0] ++ "." ++ toString subnet.octets[1] ++ "." ++
    toString subnet.octets[2] ++ ".0/24"

/-- `Ipv6Prefix`: the first six bytes. -/
structure Ipv6Prefix where
  bytes : Vector UInt8 6
  deriving DecidableEq

/-- `Ipv6Prefix::from_addr`. -/
def Ipv6Prefix.fromAddr (address : Ipv6Addr) : Ipv6Prefix :=
  ⟨#v[(address.segments.get 0 >>> 8).toUInt8, (address.segments.get 0).toUInt8,
    (address.segments.get 1 >>> 8).toUInt8, (address.segments.get 1).toUInt8,
    (address.segments.get 2 >>> 8).toUInt8, (address.segments.get 2).toUInt8]⟩

/-- The format `{:02x}`. -/
def lowerHex (byte : UInt8) : String :=
  String.ofList [Nat.digitChar (byte.toNat / 16), Nat.digitChar (byte.toNat % 16)]

/-- `Ipv6Prefix::to_cidr_string`. -/
def Ipv6Prefix.toCidrString (block : Ipv6Prefix) : String :=
  lowerHex block.bytes[0] ++ lowerHex block.bytes[1] ++ ":" ++
    lowerHex block.bytes[2] ++ lowerHex block.bytes[3] ++ ":" ++
    lowerHex block.bytes[4] ++ lowerHex block.bytes[5] ++ "::/48"

/-- `Asn`. -/
structure Asn where
  number : UInt32
  deriving DecidableEq

/-- The display of an AS number. -/
def Asn.display (asn : Asn) : String := "AS" ++ toString asn.number

/-- `GeoRegion`. -/
structure GeoRegion where
  name : String
  deriving DecidableEq

/-- Two addresses have one subnet when they are in one /24. -/
theorem Ipv4Subnet.fromAddr_eq_iff {address other : Ipv4Addr} :
    fromAddr address = fromAddr other ↔ address.SamePrefix 24 other := by
  rw [Ipv4Addr.samePrefix_24_iff]
  unfold fromAddr
  simp

/-- A segment is determined by its two bytes. -/
theorem segment_eq_iff {segment other : UInt16} :
    (segment >>> 8).toUInt8 = (other >>> 8).toUInt8 ∧ segment.toUInt8 = other.toUInt8 ↔
      segment = other := by
  have hsegment := segment.toNat_lt
  have hother := other.toNat_lt
  rw [← UInt8.toNat_inj, ← UInt8.toNat_inj, ← UInt16.toNat_inj]
  have hhigh (word : UInt16) : (word >>> 8).toUInt8.toNat = word.toNat / 2 ^ 8 % 2 ^ 8 := by
    rw [UInt16.toNat_toUInt8, UInt16.toNat_shiftRight]
    exact congrArg (· % 2 ^ 8) (Nat.shiftRight_eq_div_pow word.toNat 8)
  rw [hhigh, hhigh, UInt16.toNat_toUInt8, UInt16.toNat_toUInt8]
  omega

/-- Two addresses have one prefix when they are in one /48. -/
theorem Ipv6Prefix.fromAddr_eq_iff {address other : Ipv6Addr} :
    fromAddr address = fromAddr other ↔ address.SamePrefix 48 other := by
  rw [Ipv6Addr.samePrefix_48_iff, ← segment_eq_iff, ← segment_eq_iff, ← segment_eq_iff]
  simp only [fromAddr, Ipv6Prefix.mk.injEq, Vector.mk.injEq, Array.mk.injEq, List.cons.injEq,
    and_true, and_assoc]
  rfl

/-! ### The result of a check -/

/-- `DiversityResult`. -/
inductive DiversityResult where
  | accepted
  | rejectedSubnetLimit (subnet : String) (current limit : ℕ)
  | rejectedPrefixLimit (block : String) (current limit : ℕ)
  | rejectedAsnLimit (asn : String) (current limit : ℕ)
  | rejectedPrivateIp
  | disabled
  deriving DecidableEq

/-- `DiversityResult::is_accepted`. -/
def DiversityResult.isAccepted : DiversityResult → Bool
  | .accepted | .disabled => true
  | _ => false

/-- The text of a limit that is reached. -/
def limitReason (name : String) (current limit : ℕ) : String :=
  name ++ " has " ++ toString current ++ "/" ++ toString limit ++ " peers"

/-- `DiversityResult::rejection_reason`. -/
def DiversityResult.rejectionReason : DiversityResult → Option String
  | .accepted | .disabled => none
  | .rejectedSubnetLimit subnet current limit =>
    some (limitReason ("subnet " ++ subnet) current limit)
  | .rejectedPrefixLimit block current limit =>
    some (limitReason ("prefix " ++ block) current limit)
  | .rejectedAsnLimit asn current limit => some (limitReason asn current limit)
  | .rejectedPrivateIp => some "private IPs not allowed"

/-- `is_private_ip`. -/
def isPrivateIp : IpAddr → Bool
  | .v4 address => address.isPrivate || address.isLoopback || address.isLinkLocal ||
      address.isBroadcast || address.isUnspecified
  | .v6 address => address.isLoopback || address.isUnspecified

/-! ### The tracker -/

/-- `PeerDiversityInfo`. -/
structure PeerDiversityInfo where
  ip : IpAddr
  asn : Option Asn
  geoRegion : Option GeoRegion
  deriving DecidableEq

/-- `PeerDiversityTracker`. -/
structure PeerDiversityTracker where
  config : PeerDiversityConfig
  ipv4SubnetCounts : Table Ipv4Subnet ℕ
  ipv6PrefixCounts : Table Ipv6Prefix ℕ
  asnCounts : Table Asn ℕ
  geoRegionCounts : Table GeoRegion ℕ
  trackedPeers : Table IpAddr PeerDiversityInfo

namespace PeerDiversityTracker

/-- `PeerDiversityTracker::new`. -/
def new (config : PeerDiversityConfig) : PeerDiversityTracker := ⟨config, ∅, ∅, ∅, ∅, ∅⟩

/-- The check of the subnet or the prefix. -/
def checkNetwork (tracker : PeerDiversityTracker) : IpAddr → Option DiversityResult
  | .v4 address =>
    let subnet := Ipv4Subnet.fromAddr address
    let current := countAt tracker.ipv4SubnetCounts subnet
    if tracker.config.maxPerIpv4Subnet ≤ current then
      some (.rejectedSubnetLimit subnet.toCidrString current tracker.config.maxPerIpv4Subnet)
    else none
  | .v6 address =>
    let block := Ipv6Prefix.fromAddr address
    let current := countAt tracker.ipv6PrefixCounts block
    if tracker.config.maxPerIpv6Prefix ≤ current then
      some (.rejectedPrefixLimit block.toCidrString current tracker.config.maxPerIpv6Prefix)
    else none

/-- The check of the autonomous system, off when its limit is zero. -/
def checkAsn (tracker : PeerDiversityTracker) : Option Asn → Option DiversityResult
  | some asn =>
    let current := countAt tracker.asnCounts asn
    if 0 < tracker.config.maxPerAsn ∧ tracker.config.maxPerAsn ≤ current then
      some (.rejectedAsnLimit asn.display current tracker.config.maxPerAsn)
    else none
  | none => none

/-- `PeerDiversityTracker::check`. -/
def check (tracker : PeerDiversityTracker) (ip : IpAddr) (asn : Option Asn) : DiversityResult :=
  if tracker.config.enabled = false then .disabled
  else if tracker.config.allowPrivateIps = false ∧ isPrivateIp ip then .rejectedPrivateIp
  else
    match tracker.checkNetwork ip with
    | some rejection => rejection
    | none =>
      match tracker.checkAsn asn with
      | some rejection => rejection
      | none => .accepted

/-- `PeerDiversityTracker::add_peer_internal`. -/
def addPeerInternal (tracker : PeerDiversityTracker) (ip : IpAddr) (asn : Option Asn)
    (geoRegion : Option GeoRegion) : PeerDiversityTracker where
  config := tracker.config
  ipv4SubnetCounts :=
    match ip with
    | .v4 address => increment tracker.ipv4SubnetCounts (.fromAddr address)
    | .v6 _ => tracker.ipv4SubnetCounts
  ipv6PrefixCounts :=
    match ip with
    | .v4 _ => tracker.ipv6PrefixCounts
    | .v6 address => increment tracker.ipv6PrefixCounts (.fromAddr address)
  asnCounts :=
    match asn with
    | some asn => increment tracker.asnCounts asn
    | none => tracker.asnCounts
  geoRegionCounts :=
    match geoRegion with
    | some region => increment tracker.geoRegionCounts region
    | none => tracker.geoRegionCounts
  trackedPeers := tracker.trackedPeers.insert ip ⟨ip, asn, geoRegion⟩

/-- `PeerDiversityTracker::check_and_add`. -/
def checkAndAdd (tracker : PeerDiversityTracker) (ip : IpAddr) (asn : Option Asn)
    (geoRegion : Option GeoRegion) : PeerDiversityTracker × DiversityResult :=
  let result := tracker.check ip asn
  if result.isAccepted && tracker.config.enabled then
    (tracker.addPeerInternal ip asn geoRegion, result)
  else (tracker, result)

/-- The decrements of `remove`, by the entry that was kept. -/
def release (tracker : PeerDiversityTracker) (info : PeerDiversityInfo) : PeerDiversityTracker where
  config := tracker.config
  ipv4SubnetCounts :=
    match info.ip with
    | .v4 address => decrement tracker.ipv4SubnetCounts (.fromAddr address)
    | .v6 _ => tracker.ipv4SubnetCounts
  ipv6PrefixCounts :=
    match info.ip with
    | .v4 _ => tracker.ipv6PrefixCounts
    | .v6 address => decrement tracker.ipv6PrefixCounts (.fromAddr address)
  asnCounts :=
    match info.asn with
    | some asn => decrement tracker.asnCounts asn
    | none => tracker.asnCounts
  geoRegionCounts :=
    match info.geoRegion with
    | some region => decrement tracker.geoRegionCounts region
    | none => tracker.geoRegionCounts
  trackedPeers := tracker.trackedPeers

/-- `PeerDiversityTracker::remove`. -/
def remove (tracker : PeerDiversityTracker) (ip : IpAddr) : PeerDiversityTracker × Bool :=
  match tracker.trackedPeers.lookup ip with
  | some info =>
    (release { tracker with trackedPeers := tracker.trackedPeers.erase ip } info, true)
  | none => (tracker, false)

end PeerDiversityTracker

/-! ### The groups that are counted -/

/-- What the tracker counts peers of. -/
inductive DiversityGroup where
  | ipv4Subnet (subnet : Ipv4Subnet)
  | ipv6Prefix (block : Ipv6Prefix)
  | asn (asn : Asn)
  | geoRegion (region : GeoRegion)
  deriving DecidableEq

/-- A peer belongs to the group, by what the tracker was told of it. -/
def PeerDiversityInfo.inGroup (info : PeerDiversityInfo) : DiversityGroup → Bool
  | .ipv4Subnet subnet =>
    match info.ip with
    | .v4 address => subnet = .fromAddr address
    | .v6 _ => false
  | .ipv6Prefix block =>
    match info.ip with
    | .v4 _ => false
    | .v6 address => block = .fromAddr address
  | .asn asn => info.asn = some asn
  | .geoRegion region => info.geoRegion = some region

namespace PeerDiversityTracker

/-- The count of a group. -/
def countIn (tracker : PeerDiversityTracker) : DiversityGroup → ℕ
  | .ipv4Subnet subnet => countAt tracker.ipv4SubnetCounts subnet
  | .ipv6Prefix block => countAt tracker.ipv6PrefixCounts block
  | .asn asn => countAt tracker.asnCounts asn
  | .geoRegion region => countAt tracker.geoRegionCounts region

variable {tracker : PeerDiversityTracker} {ip : IpAddr} {asn : Option Asn}
  {geoRegion : Option GeoRegion}

/-- A peer counts one in its own IPv4 subnet. -/
theorem toNat_inGroup_ipv4Subnet (address : Ipv4Addr) (subnet : Ipv4Subnet) :
    ((⟨.v4 address, asn, geoRegion⟩ : PeerDiversityInfo).inGroup (.ipv4Subnet subnet)).toNat =
      if subnet = .fromAddr address then 1 else 0 := by
  unfold PeerDiversityInfo.inGroup
  by_cases hsame : subnet = .fromAddr address
  · simp [hsame]
  · simp [hsame]

/-- A peer counts one in its own IPv6 prefix. -/
theorem toNat_inGroup_ipv6Prefix (address : Ipv6Addr) (block : Ipv6Prefix) :
    ((⟨.v6 address, asn, geoRegion⟩ : PeerDiversityInfo).inGroup (.ipv6Prefix block)).toNat =
      if block = .fromAddr address then 1 else 0 := by
  unfold PeerDiversityInfo.inGroup
  by_cases hsame : block = .fromAddr address
  · simp [hsame]
  · simp [hsame]

/-- A peer counts one in its own autonomous system. -/
theorem toNat_inGroup_asn (own number : Asn) :
    ((⟨ip, some own, geoRegion⟩ : PeerDiversityInfo).inGroup (.asn number)).toNat =
      if number = own then 1 else 0 := by
  unfold PeerDiversityInfo.inGroup
  by_cases hsame : number = own
  · simp [hsame]
  · simp [hsame, Ne.symm hsame]

/-- A peer counts one in its own region. -/
theorem toNat_inGroup_geoRegion (own region : GeoRegion) :
    ((⟨ip, asn, some own⟩ : PeerDiversityInfo).inGroup (.geoRegion region)).toNat =
      if region = own then 1 else 0 := by
  unfold PeerDiversityInfo.inGroup
  by_cases hsame : region = own
  · simp [hsame]
  · simp [hsame, Ne.symm hsame]

/-- Adding a peer counts up the groups it belongs to. -/
theorem countIn_addPeerInternal (group : DiversityGroup) :
    (tracker.addPeerInternal ip asn geoRegion).countIn group =
      tracker.countIn group + ((⟨ip, asn, geoRegion⟩ : PeerDiversityInfo).inGroup group).toNat := by
  cases group with
  | ipv4Subnet subnet =>
    cases ip with
    | v4 address =>
      rw [toNat_inGroup_ipv4Subnet]
      exact countAt_increment _ _ _
    | v6 address => rfl
  | ipv6Prefix block =>
    cases ip with
    | v4 address => rfl
    | v6 address =>
      rw [toNat_inGroup_ipv6Prefix]
      exact countAt_increment _ _ _
  | asn number =>
    cases asn with
    | none => rfl
    | some own =>
      rw [toNat_inGroup_asn]
      exact countAt_increment _ _ _
  | geoRegion region =>
    cases geoRegion with
    | none => rfl
    | some own =>
      rw [toNat_inGroup_geoRegion]
      exact countAt_increment _ _ _

/-- Releasing an entry counts down the groups it belongs to. -/
theorem countIn_release (info : PeerDiversityInfo) (group : DiversityGroup) :
    (tracker.release info).countIn group =
      tracker.countIn group - (info.inGroup group).toNat := by
  obtain ⟨ip, asn, geoRegion⟩ := info
  cases group with
  | ipv4Subnet subnet =>
    cases ip with
    | v4 address =>
      rw [toNat_inGroup_ipv4Subnet]
      exact countAt_decrement _ _ _
    | v6 address => rfl
  | ipv6Prefix block =>
    cases ip with
    | v4 address => rfl
    | v6 address =>
      rw [toNat_inGroup_ipv6Prefix]
      exact countAt_decrement _ _ _
  | asn number =>
    cases asn with
    | none => rfl
    | some own =>
      rw [toNat_inGroup_asn]
      exact countAt_decrement _ _ _
  | geoRegion region =>
    cases geoRegion with
    | none => rfl
    | some own =>
      rw [toNat_inGroup_geoRegion]
      exact countAt_decrement _ _ _

/-- The entries the tracker keeps are filed under their own addresses and do not stand for more
peers of a group than were counted. -/
structure Covered (tracker : PeerDiversityTracker) : Prop where
  keyed : ∀ ip info, tracker.trackedPeers.lookup ip = some info → info.ip = ip
  counted : ∀ group,
    total (fun info ↦ (info.inGroup group).toNat) tracker.trackedPeers ≤ tracker.countIn group

/-- A new tracker keeps no entries. -/
theorem covered_new (config : PeerDiversityConfig) : Covered (new config) where
  keyed := fun _ _ hlookup ↦ by simp [new] at hlookup
  counted := fun _ ↦ Nat.zero_le _

/-- Adding a peer adds its entry and its counts. -/
theorem Covered.addPeerInternal (hcovered : tracker.Covered) :
    (tracker.addPeerInternal ip asn geoRegion).Covered where
  keyed := (forall_lookup_insert_iff hcovered.keyed).mpr rfl
  counted := by
    intro group
    rw [countIn_addPeerInternal]
    exact (total_insert_le _ _ _ _).trans (Nat.add_le_add_right (hcovered.counted group) _)

/-- Removing an address without an entry changes nothing. -/
theorem remove_of_none (hlookup : tracker.trackedPeers.lookup ip = none) :
    tracker.remove ip = (tracker, false) := by
  unfold remove
  rw [hlookup]

/-- The entries after a removal. -/
theorem trackedPeers_remove :
    (tracker.remove ip).1.trackedPeers = tracker.trackedPeers.erase ip := by
  unfold remove
  cases hlookup : tracker.trackedPeers.lookup ip with
  | none => exact (erase_of_lookup_none hlookup).symm
  | some info => rfl

/-- A removal leaves the configuration alone. -/
theorem config_remove : (tracker.remove ip).1.config = tracker.config := by
  unfold remove
  cases tracker.trackedPeers.lookup ip with
  | none => rfl
  | some info => rfl

/-- Removing an address counts down the groups of the entry that is kept for it. -/
theorem countIn_remove {info : PeerDiversityInfo}
    (hlookup : tracker.trackedPeers.lookup ip = some info) (group : DiversityGroup) :
    (tracker.remove ip).1.countIn group = tracker.countIn group - (info.inGroup group).toNat := by
  unfold remove
  rw [hlookup]
  show (release _ info).countIn group = _
  rw [countIn_release]
  cases group <;> rfl

/-- What is counted down was counted up. -/
theorem Covered.countIn_remove_add (hcovered : tracker.Covered) {info : PeerDiversityInfo}
    (hlookup : tracker.trackedPeers.lookup ip = some info) (group : DiversityGroup) :
    (tracker.remove ip).1.countIn group + (info.inGroup group).toNat = tracker.countIn group := by
  have hweight := weight_le_total (fun info ↦ (info.inGroup group).toNat) hlookup
  have hcounted := hcovered.counted group
  rw [countIn_remove hlookup]
  omega

/-- Removing an address removes its entry and what it counted for. -/
theorem Covered.remove (hcovered : tracker.Covered) : (tracker.remove ip).1.Covered := by
  cases hlookup : tracker.trackedPeers.lookup ip with
  | none =>
    rw [remove_of_none hlookup]
    exact hcovered
  | some info =>
    refine ⟨?_, ?_⟩
    · rw [trackedPeers_remove]
      exact forall_lookup_erase hcovered.keyed ip
    · intro group
      have hcounted := hcovered.counted group
      have hremoved := hcovered.countIn_remove_add hlookup group
      rw [total_of_lookup _ hlookup] at hcounted
      rw [trackedPeers_remove]
      omega

/-- The result of an addition is that of its check. -/
theorem checkAndAdd_result :
    (tracker.checkAndAdd ip asn geoRegion).2 = tracker.check ip asn := by
  simp only [checkAndAdd]
  split_ifs
  · rfl
  · rfl

/-- A peer that is refused is not added. -/
theorem checkAndAdd_of_rejected (hrejected : (tracker.check ip asn).isAccepted = false) :
    tracker.checkAndAdd ip asn geoRegion = (tracker, tracker.check ip asn) := by
  simp only [checkAndAdd, hrejected, Bool.false_and, Bool.false_eq_true, if_false]

/-- A peer that is accepted by an enabled tracker is added. -/
theorem checkAndAdd_of_accepted (henabled : tracker.config.enabled = true)
    (haccepted : (tracker.check ip asn).isAccepted = true) :
    (tracker.checkAndAdd ip asn geoRegion).1 = tracker.addPeerInternal ip asn geoRegion := by
  simp only [checkAndAdd, haccepted, henabled, Bool.and_self, if_true]

/-! ### The limits of a check -/

/-- The subnet or the prefix of an address. -/
def networkOf : IpAddr → DiversityGroup
  | .v4 address => .ipv4Subnet (.fromAddr address)
  | .v6 address => .ipv6Prefix (.fromAddr address)

/-- The limit on a subnet or a prefix. -/
def networkLimit (config : PeerDiversityConfig) : IpAddr → ℕ
  | .v4 _ => config.maxPerIpv4Subnet
  | .v6 _ => config.maxPerIpv6Prefix

/-- A peer belongs to the subnet or prefix of its address. -/
theorem inGroup_networkOf (info : PeerDiversityInfo) (address : IpAddr) :
    info.inGroup (networkOf address) = decide (networkOf info.ip = networkOf address) := by
  obtain ⟨ip, asn, geoRegion⟩ := info
  cases ip <;> cases address <;> simp [networkOf, PeerDiversityInfo.inGroup, eq_comm]

/-- Addresses of one subnet or prefix have one limit. -/
theorem networkLimit_congr (config : PeerDiversityConfig) {address other : IpAddr}
    (hsame : networkOf address = networkOf other) :
    networkLimit config address = networkLimit config other := by
  cases address <;> cases other <;> first | rfl | (simp [networkOf] at hsame)

/-- A peer is accepted only below the limit of its subnet or prefix. -/
theorem countIn_lt_of_isAccepted (henabled : tracker.config.enabled = true)
    (haccepted : (tracker.check ip asn).isAccepted = true) :
    tracker.countIn (networkOf ip) < networkLimit tracker.config ip := by
  by_contra hfull
  rw [not_lt] at hfull
  have hrejected : (tracker.check ip asn).isAccepted = false := by
    unfold check
    rw [if_neg (by simp [henabled])]
    split_ifs
    · rfl
    · cases ip with
      | v4 address =>
        simp only [networkLimit, networkOf, countIn] at hfull
        simp only [checkNetwork, hfull, if_true]
        rfl
      | v6 address =>
        simp only [networkLimit, networkOf, countIn] at hfull
        simp only [checkNetwork, hfull, if_true]
        rfl
  rw [hrejected] at haccepted
  cases haccepted

end PeerDiversityTracker

end Clawbernetes.MoltP2p
