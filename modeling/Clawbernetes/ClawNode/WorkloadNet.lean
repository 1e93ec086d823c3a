import Clawbernetes.Library.Addresses
import Clawbernetes.Library.FiniteTable
import Clawbernetes.Library.Runs

/-!
# The addresses of workloads

`WorkloadNetManager` of `workload_net.rs`: the addresses of a `/24` that are given to workloads. A
counter gives out fresh last octets, and a released octet goes to a pool that is used up first. The
counter, the pool and the table of allocations partition the octets from `2` on (`Pooled`), through
allocations, releases and releases by container in every order.
-/

set_option autoImplicit false
set_option relaxedAutoImplicit false

namespace Clawbernetes.ClawNode

open Library.Addresses Library.FiniteTable Library.Runs

/-- `WorkloadNetManager`. The counter `next_ip` is a natural number, and `Pooled` keeps it in the
range of `u8`. -/
structure WorkloadNetManager where
  workloadSubnet : Ipv4Net
  allocatedIps : Table String Ipv4Addr
  containerToWorkload : Table String String
  nextIp : ℕ
  freePool : List UInt8

namespace WorkloadNetManager

/-- `WorkloadNetManager::init`. -/
def init (workloadSubnet : Ipv4Net) : Except String WorkloadNetManager :=
  if workloadSubnet.prefixLen ≠ 24 then
    .error ("workload subnet must be /24, got /" ++ toString workloadSubnet.prefixLen)
  else .ok ⟨workloadSubnet, ∅, ∅, 2, []⟩

/-- The address of the subnet with a last octet. -/
def address (manager : WorkloadNetManager) (suffix : UInt8) : Ipv4Addr :=
  let network := manager.workloadSubnet.network
  ⟨network.first, network.second, network.third, suffix⟩

/-- `WorkloadNetManager::allocate_ip`. -/
def allocateIp (manager : WorkloadNetManager) (key : String) :
    Except String Ipv4Addr × WorkloadNetManager :=
  match manager.allocatedIps.lookup key with
  | some ip => (.ok ip, manager)
  | none =>
    match manager.freePool.getLast? with
    | some suffix => (.ok (manager.address suffix), { manager with
        freePool := manager.freePool.dropLast
        allocatedIps := manager.allocatedIps.insert key (manager.address suffix) })
    | none =>
      if 254 < manager.nextIp then
        (.error "workload subnet exhausted (max 253 containers)", manager)
      else
        let suffix := UInt8.ofNat manager.nextIp
        (.ok (manager.address suffix), { manager with
          nextIp := manager.nextIp + 1
          allocatedIps := manager.allocatedIps.insert key (manager.address suffix) })

/-- `WorkloadNetManager::release_ip`. -/
def releaseIp (manager : WorkloadNetManager) (key : String) :
    Option Ipv4Addr × WorkloadNetManager :=
  match manager.allocatedIps.lookup key with
  | none => (none, manager)
  | some ip => (some ip, { manager with
      allocatedIps := manager.allocatedIps.erase key
      freePool := manager.freePool ++ [ip.fourth] })

/-- `WorkloadNetManager::track_container`. -/
def trackContainer (manager : WorkloadNetManager) (containerId workloadId : String) :
    WorkloadNetManager :=
  { manager with
    containerToWorkload := manager.containerToWorkload.insert containerId workloadId }

/-- `WorkloadNetManager::release_by_container`. -/
def releaseByContainer (manager : WorkloadNetManager) (containerId : String) :
    Option Ipv4Addr × WorkloadNetManager :=
  match manager.containerToWorkload.lookup containerId with
  | some workloadId =>
    releaseIp { manager with
      containerToWorkload := manager.containerToWorkload.erase containerId } workloadId
  | none => manager.releaseIp containerId

/-! ### The partition of the last octets -/

variable {manager : WorkloadNetManager} {key : String}

/-- The last octets of the allocated addresses. -/
def suffixes (manager : WorkloadNetManager) : List ℕ :=
  manager.allocatedIps.entries.map fun entry ↦ entry.2.fourth.toNat

/-- The invariant: the subnet is a `/24` with all allocated addresses in it, and the last octets of
these and of the pool are the numbers from `2` up to the counter, each once. -/
structure Pooled (manager : WorkloadNetManager) : Prop where
  prefixLen : manager.workloadSubnet.prefixLen = 24
  within : ∀ key ip, manager.allocatedIps.lookup key = some ip → ip = manager.address ip.fourth
  two_le : 2 ≤ manager.nextIp
  le_max : manager.nextIp ≤ 255
  partition : (manager.suffixes ++ manager.freePool.map UInt8.toNat).Perm
    (List.range' 2 (manager.nextIp - 2))

/-- What an allocation does: it finds the address of its key, or takes the last octet of the pool,
or a fresh one when the pool is empty, or fails when there is none. -/
theorem allocateIp_cases (manager : WorkloadNetManager) (key : String) :
    (∃ ip, manager.allocatedIps.lookup key = some ip ∧
        manager.allocateIp key = (.ok ip, manager)) ∨
      manager.allocatedIps.lookup key = none ∧
        ((∃ rest suffix, manager.freePool = rest ++ [suffix] ∧
            manager.allocateIp key = (.ok (manager.address suffix), { manager with
              freePool := rest
              allocatedIps := manager.allocatedIps.insert key (manager.address suffix) })) ∨
          manager.freePool = [] ∧ manager.nextIp ≤ 254 ∧
            manager.allocateIp key = (.ok (manager.address (.ofNat manager.nextIp)), { manager with
              nextIp := manager.nextIp + 1
              allocatedIps := manager.allocatedIps.insert key
                (manager.address (.ofNat manager.nextIp)) }) ∨
          manager.freePool = [] ∧ 254 < manager.nextIp ∧ manager.allocateIp key =
            (.error "workload subnet exhausted (max 253 containers)", manager)) := by
  unfold allocateIp
  cases manager.allocatedIps.lookup key with
  | some ip => exact .inl ⟨ip, rfl, rfl⟩
  | none =>
    refine .inr ⟨rfl, ?_⟩
    rcases List.eq_nil_or_concat' manager.freePool with hempty | ⟨rest, suffix, hpool⟩
    · refine .inr ?_
      simp only [hempty, List.getLast?_nil]
      split_ifs with hfull
      · exact .inr ⟨trivial, hfull, rfl⟩
      · exact .inl ⟨trivial, Nat.le_of_not_lt hfull, rfl⟩
    · refine .inl ⟨rest, suffix, hpool, ?_⟩
      simp only [hpool, List.getLast?_concat, List.dropLast_concat]

/-- The last octets after an address was given to a new key. -/
theorem suffixes_insert (hnew : manager.allocatedIps.lookup key = none) (suffix : UInt8)
    (nextIp : ℕ) (freePool : List UInt8) :
    suffixes { manager with
      nextIp := nextIp
      freePool := freePool
      allocatedIps := manager.allocatedIps.insert key (manager.address suffix) } =
      suffix.toNat :: manager.suffixes := by
  unfold suffixes
  rw [AList.entries_insert_of_notMem (AList.lookup_eq_none.mp hnew), List.map_cons]
  rfl

/-- The octets in use or in the pool are those from `2` up to the counter. -/
theorem Pooled.mem_iff (hpooled : manager.Pooled) {number : ℕ} :
    number ∈ manager.suffixes ++ manager.freePool.map UInt8.toNat ↔
      2 ≤ number ∧ number < manager.nextIp := by
  have htwo := hpooled.two_le
  rw [hpooled.partition.mem_iff, List.mem_range'_1]
  omega

/-- A new manager has nothing allocated. -/
theorem pooled_init {workloadSubnet : Ipv4Net} (hinit : init workloadSubnet = .ok manager) :
    manager.Pooled := by
  unfold init at hinit
  split_ifs at hinit with hprefix
  obtain rfl := Except.ok.inj hinit
  refine ⟨not_not.mp hprefix, fun key ip hlookup ↦ ?_, le_refl 2, ?_, List.Perm.nil⟩
  · cases hlookup
  · exact (by decide : 2 ≤ 255)

/-- An address for a new key keeps the addresses in the subnet. -/
theorem within_insert (hpooled : manager.Pooled) (suffix : UInt8) :
    ∀ other ip, (manager.allocatedIps.insert key (manager.address suffix)).lookup other = some ip →
      ip = manager.address ip.fourth :=
  (forall_lookup_insert_iff hpooled.within).mpr rfl

/-- An allocation keeps the partition. -/
theorem Pooled.allocateIp (hpooled : manager.Pooled) (key : String) :
    (manager.allocateIp key).2.Pooled := by
  have htwo := hpooled.two_le
  rcases allocateIp_cases manager key with ⟨ip, -, hfound⟩ | ⟨hnew, hcases⟩
  · rw [hfound]
    exact hpooled
  · rcases hcases with ⟨rest, suffix, hpool, htakes⟩ | ⟨hempty, hroom, htakes⟩ | ⟨-, -, hfails⟩
    · rw [htakes]
      refine ⟨hpooled.prefixLen, within_insert hpooled suffix, htwo, hpooled.le_max, ?_⟩
      have hpartition := hpooled.partition
      rw [hpool, List.map_append, List.map_singleton, ← List.append_assoc] at hpartition
      rw [suffixes_insert hnew suffix manager.nextIp rest, List.cons_append]
      exact (List.perm_append_singleton _ _).symm.trans hpartition
    · rw [htakes]
      have hnumber : (UInt8.ofNat manager.nextIp).toNat = manager.nextIp :=
        UInt8.toNat_ofNat_of_lt' (show manager.nextIp < 256 by omega)
      refine ⟨hpooled.prefixLen, within_insert hpooled _, Nat.le_succ_of_le htwo,
        Nat.succ_le_succ hroom, ?_⟩
      have hpartition := hpooled.partition
      rw [suffixes_insert hnew _ (manager.nextIp + 1) manager.freePool, hnumber, List.cons_append]
      have hrange : List.range' 2 (manager.nextIp + 1 - 2) =
          List.range' 2 (manager.nextIp - 2) ++ [manager.nextIp] := by
        have hlength : manager.nextIp + 1 - 2 = manager.nextIp - 2 + 1 := by omega
        have hlast : 2 + (manager.nextIp - 2) = manager.nextIp := by omega
        rw [hlength, List.range'_1_concat, hlast]
      change (manager.nextIp :: _).Perm (List.range' 2 (manager.nextIp + 1 - 2))
      rw [hrange]
      exact (hpartition.cons _).trans (List.perm_append_singleton _ _).symm
    · rw [hfails]
      exact hpooled

/-- A release keeps the partition. -/
theorem Pooled.releaseIp (hpooled : manager.Pooled) (key : String) :
    (manager.releaseIp key).2.Pooled := by
  unfold WorkloadNetManager.releaseIp
  cases hlookup : manager.allocatedIps.lookup key with
  | none => exact hpooled
  | some ip =>
    refine ⟨hpooled.prefixLen, ?_, hpooled.two_le, hpooled.le_max, ?_⟩
    · exact forall_lookup_erase hpooled.within key
    · have hsplit : manager.suffixes.Perm (ip.fourth.toNat ::
          (manager.allocatedIps.erase key).entries.map fun entry ↦ entry.2.fourth.toNat) := by
        unfold suffixes
        exact (perm_lookup_cons_erase hlookup).map fun entry ↦ entry.2.fourth.toNat
      refine List.Perm.trans ?_ hpooled.partition
      change ((manager.allocatedIps.erase key).entries.map (fun entry ↦ entry.2.fourth.toNat) ++
        (manager.freePool ++ [ip.fourth]).map UInt8.toNat).Perm _
      rw [List.map_append, List.map_singleton, ← List.append_assoc]
      exact (List.perm_append_singleton _ _).trans (hsplit.append_right _).symm

/-- Which container belongs to which workload does not matter for the partition. -/
theorem Pooled.withContainers (hpooled : manager.Pooled) (containers : Table String String) :
    Pooled { manager with containerToWorkload := containers } :=
  ⟨hpooled.prefixLen, hpooled.within, hpooled.two_le, hpooled.le_max, hpooled.partition⟩

/-- A release by container keeps the partition. -/
theorem Pooled.releaseByContainer (hpooled : manager.Pooled) (containerId : String) :
    (manager.releaseByContainer containerId).2.Pooled := by
  unfold WorkloadNetManager.releaseByContainer
  cases manager.containerToWorkload.lookup containerId with
  | none => exact hpooled.releaseIp containerId
  | some workloadId => exact (hpooled.withContainers _).releaseIp workloadId

/-! ### Runs -/

/-- A call of an operation of the manager. -/
inductive Operation where
  | allocateIp (key : String)
  | releaseIp (key : String)
  | trackContainer (containerId workloadId : String)
  | releaseByContainer (containerId : String)

/-- The manager after a call. -/
def step (manager : WorkloadNetManager) : Operation → WorkloadNetManager
  | .allocateIp key => (manager.allocateIp key).2
  | .releaseIp key => (manager.releaseIp key).2
  | .trackContainer containerId workloadId => manager.trackContainer containerId workloadId
  | .releaseByContainer containerId => (manager.releaseByContainer containerId).2

/-- Every call keeps the partition. -/
theorem pooled_step (hpooled : manager.Pooled) (operation : Operation) :
    (manager.step operation).Pooled := by
  cases operation with
  | allocateIp key => exact hpooled.allocateIp key
  | releaseIp key => exact hpooled.releaseIp key
  | trackContainer containerId workloadId => exact hpooled.withContainers _
  | releaseByContainer containerId => exact hpooled.releaseByContainer containerId

/-- The last octet of an allocated address is in use. -/
theorem mem_suffixes {ip : Ipv4Addr} (hlookup : manager.allocatedIps.lookup key = some ip) :
    ip.fourth.toNat ∈ manager.suffixes :=
  List.mem_map.mpr ⟨⟨key, ip⟩, AList.mem_lookup_iff.mp hlookup, rfl⟩

/-- An octet in use is the last octet of an allocated address. -/
theorem exists_lookup_of_mem (hpooled : manager.Pooled) {suffix : UInt8}
    (hsuffix : suffix.toNat ∈ manager.suffixes) :
    ∃ key, manager.allocatedIps.lookup key = some (manager.address suffix) := by
  obtain ⟨⟨key, ip⟩, hentry, hoctet⟩ := List.mem_map.mp hsuffix
  have hlookup : manager.allocatedIps.lookup key = some ip := AList.mem_lookup_iff.mpr hentry
  have hfourth : ip.fourth = suffix := UInt8.toNat_inj.mp hoctet
  exact ⟨key, by rw [hlookup, ← hfourth, ← hpooled.within key ip hlookup]⟩

/-- The octets in use and in the pool do not repeat. -/
theorem Pooled.nodup (hpooled : manager.Pooled) :
    (manager.suffixes ++ manager.freePool.map UInt8.toNat).Nodup :=
  hpooled.partition.nodup_iff.mpr List.nodup_range'

/-- Two keys with the same last octet are the same key. -/
theorem Pooled.key_unique (hpooled : manager.Pooled) {other : String} {ip : Ipv4Addr}
    (hfirst : manager.allocatedIps.lookup key = some ip)
    (hsecond : manager.allocatedIps.lookup other = some ip) : key = other := by
  have hnodup := (List.nodup_append'.mp hpooled.nodup).1
  have hsame := List.inj_on_of_nodup_map hnodup (AList.mem_lookup_iff.mp hfirst)
    (AList.mem_lookup_iff.mp hsecond) rfl
  exact congrArg Sigma.fst hsame

/-- All addresses of the subnet that may be allocated are held by keys other than the given one. -/
def HeldByOthers (manager : WorkloadNetManager) (key : String) : Prop :=
  ∀ suffix : UInt8, 2 ≤ suffix → suffix ≤ 254 →
    ∃ other, other ≠ key ∧ manager.allocatedIps.lookup other = some (manager.address suffix)

/-- An octet that is not in use and may be allocated is not held by others. -/
theorem not_heldByOthers {suffix : UInt8} (hlow : 2 ≤ suffix.toNat) (hhigh : suffix.toNat ≤ 254)
    (hunused : suffix.toNat ∉ manager.suffixes) : ¬manager.HeldByOthers key := by
  intro hheld
  obtain ⟨other, -, hother⟩ := hheld suffix (UInt8.le_iff_toNat_le.mpr hlow)
    (UInt8.le_iff_toNat_le.mpr hhigh)
  exact hunused (mem_suffixes hother)

/-- An allocation fails exactly when all addresses are held by other keys. -/
theorem allocateIp_error_iff (hpooled : manager.Pooled) (key : String) :
    (∃ error, (manager.allocateIp key).1 = .error error) ↔ manager.HeldByOthers key := by
  have htwo := hpooled.two_le
  have hmax := hpooled.le_max
  rcases allocateIp_cases manager key with ⟨ip, hlookup, hfound⟩ | ⟨hnew, hcases⟩
  · rw [hfound]
    refine iff_of_false (fun ⟨error, herror⟩ ↦ by cases herror) fun hheld ↦ ?_
    have hrange := hpooled.mem_iff.mp (List.mem_append_left _ (mem_suffixes hlookup))
    obtain ⟨other, hother, hheld⟩ := hheld ip.fourth (UInt8.le_iff_toNat_le.mpr hrange.1)
      (UInt8.le_iff_toNat_le.mpr (show ip.fourth.toNat ≤ 254 by omega))
    rw [← hpooled.within key ip hlookup] at hheld
    exact hother (hpooled.key_unique hheld hlookup)
  · rcases hcases with ⟨rest, suffix, hpool, htakes⟩ | ⟨hempty, hroom, htakes⟩ |
      ⟨hempty, hfull, hfails⟩
    · rw [htakes]
      have hfree : suffix.toNat ∈ manager.freePool.map UInt8.toNat := by
        rw [hpool]
        simp
      have hrange := hpooled.mem_iff.mp (List.mem_append_right _ hfree)
      have hunused : suffix.toNat ∉ manager.suffixes := fun hused ↦
        (List.nodup_append'.mp hpooled.nodup).2.2 hused hfree
      exact iff_of_false (fun ⟨error, herror⟩ ↦ by cases herror)
        (not_heldByOthers hrange.1 (by omega) hunused)
    · rw [htakes]
      have hnumber : (UInt8.ofNat manager.nextIp).toNat = manager.nextIp :=
        UInt8.toNat_ofNat_of_lt' (show manager.nextIp < 256 by omega)
      have hunused : manager.nextIp ∉ manager.suffixes := fun hused ↦
        absurd (hpooled.mem_iff.mp (List.mem_append_left _ hused)).2 (Nat.lt_irrefl _)
      exact iff_of_false (fun ⟨error, herror⟩ ↦ by cases herror)
        (not_heldByOthers (by omega) (by omega) (hnumber.symm ▸ hunused))
    · rw [hfails]
      refine iff_of_true ⟨_, rfl⟩ fun suffix hlow hhigh ↦ ?_
      have hhigh' : suffix.toNat ≤ 254 := UInt8.le_iff_toNat_le.mp hhigh
      have hused := hpooled.mem_iff.mpr ⟨UInt8.le_iff_toNat_le.mp hlow,
        (show suffix.toNat < manager.nextIp by omega)⟩
      rw [hempty, List.map_nil, List.append_nil] at hused
      obtain ⟨other, hother⟩ := exists_lookup_of_mem hpooled hused
      refine ⟨other, fun hsame ↦ ?_, hother⟩
      rw [hsame, hnew] at hother
      cases hother

/-- An allocation fails and changes nothing, or it returns the address that its key then has and
leaves the other keys alone. -/
theorem allocateIp_spec (manager : WorkloadNetManager) (key : String) :
    (∃ error, manager.allocateIp key = (.error error, manager)) ∨
      ∃ ip after, manager.allocateIp key = (.ok ip, after) ∧
        after.allocatedIps.lookup key = some ip ∧
        ∀ other, other ≠ key → after.allocatedIps.lookup other =
          manager.allocatedIps.lookup other := by
  rcases allocateIp_cases manager key with ⟨ip, hlookup, hfound⟩ | ⟨-, hcases⟩
  · exact .inr ⟨ip, manager, hfound, hlookup, fun _ _ ↦ rfl⟩
  · rcases hcases with ⟨rest, suffix, -, htakes⟩ | ⟨-, -, htakes⟩ | ⟨-, -, hfails⟩
    · exact .inr ⟨_, _, htakes, AList.lookup_insert _, fun _ hother ↦ AList.lookup_insert_ne hother⟩
    · exact .inr ⟨_, _, htakes, AList.lookup_insert _, fun _ hother ↦ AList.lookup_insert_ne hother⟩
    · exact .inl ⟨_, hfails⟩

/-- A release takes the address of its key and leaves the other keys alone. -/
theorem releaseIp_spec (manager : WorkloadNetManager) (key : String) :
    (manager.releaseIp key).2.allocatedIps.lookup key = none ∧
      ∀ other, other ≠ key → (manager.releaseIp key).2.allocatedIps.lookup other =
        manager.allocatedIps.lookup other := by
  unfold releaseIp
  cases hlookup : manager.allocatedIps.lookup key with
  | none => exact ⟨hlookup, fun _ _ ↦ rfl⟩
  | some ip => exact ⟨AList.lookup_erase key _, fun _ hother ↦ AList.lookup_erase_ne hother⟩

/-- An allocation does not change which workload a container belongs to. -/
theorem containerToWorkload_allocateIp (manager : WorkloadNetManager) (key : String) :
    (manager.allocateIp key).2.containerToWorkload = manager.containerToWorkload := by
  rcases allocateIp_cases manager key with ⟨ip, -, hfound⟩ | ⟨-, hcases⟩
  · rw [hfound]
  · rcases hcases with ⟨rest, suffix, -, htakes⟩ | ⟨-, -, htakes⟩ | ⟨-, -, hfails⟩
    · rw [htakes]
    · rw [htakes]
    · rw [hfails]

/-- A release does not change which workload a container belongs to. -/
theorem containerToWorkload_releaseIp (manager : WorkloadNetManager) (key : String) :
    (manager.releaseIp key).2.containerToWorkload = manager.containerToWorkload := by
  unfold releaseIp
  cases manager.allocatedIps.lookup key with
  | none => rfl
  | some ip => rfl

/-- The key that a release by container releases: the workload of the container, or else the
container itself. -/
def releasedKey (manager : WorkloadNetManager) (containerId : String) : String :=
  (manager.containerToWorkload.lookup containerId).getD containerId

/-- A release by container takes the address of one key and leaves the other keys alone. -/
theorem releaseByContainer_spec (manager : WorkloadNetManager) (containerId : String) :
    (manager.releaseByContainer containerId).2.allocatedIps.lookup
        (manager.releasedKey containerId) = none ∧
      ∀ other, other ≠ manager.releasedKey containerId →
        (manager.releaseByContainer containerId).2.allocatedIps.lookup other =
          manager.allocatedIps.lookup other := by
  unfold releaseByContainer releasedKey
  cases manager.containerToWorkload.lookup containerId with
  | none => exact releaseIp_spec manager containerId
  | some workloadId => exact releaseIp_spec _ workloadId

/-- A second allocation for a key gives the same address and changes nothing. -/
theorem allocateIp_idempotent {ip : Ipv4Addr} {after : WorkloadNetManager}
    (hallocates : manager.allocateIp key = (.ok ip, after)) :
    after.allocateIp key = (.ok ip, after) := by
  have hlookup : after.allocatedIps.lookup key = some ip := by
    rcases allocateIp_spec manager key with ⟨error, hfails⟩ | ⟨_, _, htakes, hlookup, -⟩
    · rw [hfails] at hallocates
      cases hallocates
    · rw [htakes, Prod.mk.injEq, Except.ok.injEq] at hallocates
      obtain ⟨rfl, rfl⟩ := hallocates
      exact hlookup
  unfold allocateIp
  rw [hlookup]

/-- A release does not change the subnet. -/
theorem workloadSubnet_releaseIp (manager : WorkloadNetManager) (key : String) :
    (manager.releaseIp key).2.workloadSubnet = manager.workloadSubnet := by
  unfold releaseIp
  cases manager.allocatedIps.lookup key with
  | none => rfl
  | some ip => rfl

/-- No call changes the subnet. -/
theorem workloadSubnet_step (manager : WorkloadNetManager) (operation : Operation) :
    (manager.step operation).workloadSubnet = manager.workloadSubnet := by
  cases operation with
  | allocateIp key =>
    change (manager.allocateIp key).2.workloadSubnet = _
    rcases allocateIp_cases manager key with ⟨ip, -, hfound⟩ | ⟨-, hcases⟩
    · rw [hfound]
    · rcases hcases with ⟨rest, suffix, -, htakes⟩ | ⟨-, -, htakes⟩ | ⟨-, -, hfails⟩
      · rw [htakes]
      · rw [htakes]
      · rw [hfails]
  | releaseIp key => exact workloadSubnet_releaseIp manager key
  | trackContainer containerId workloadId => rfl
  | releaseByContainer containerId =>
    change (manager.releaseByContainer containerId).2.workloadSubnet = _
    unfold releaseByContainer
    cases manager.containerToWorkload.lookup containerId with
    | none => exact workloadSubnet_releaseIp manager containerId
    | some workloadId => exact workloadSubnet_releaseIp _ workloadId

/-- The addresses that a manager makes are in its subnet. -/
theorem contains_address (hpooled : manager.Pooled) (suffix : UInt8) :
    manager.workloadSubnet.Contains (manager.address suffix) := by
  have hnetwork : Ipv4Addr.SamePrefix 24 manager.workloadSubnet.addr
      manager.workloadSubnet.network := by
    unfold Ipv4Addr.SamePrefix
    rw [Ipv4Net.toNat_network, Ipv4Net.size, hpooled.prefixLen]
    omega
  have hoctets := Ipv4Addr.samePrefix_24_iff.mp hnetwork
  unfold Ipv4Net.Contains
  rw [hpooled.prefixLen, Ipv4Addr.samePrefix_24_iff]
  exact hoctets

/-- After every sequence of calls on a manager of a `/24`: the allocated addresses are distinct and
in the subnet with a last octet from `2` to `254`, these octets and those of the pool are the
numbers from `2` up to the counter, each once, the counter is in the range of `u8`, an allocation is
repeated with the same result, and it fails exactly when all `253` addresses are held by other
keys. -/
theorem addresses_partitioned (workloadSubnet : Ipv4Net) (start : WorkloadNetManager)
    (hinit : init workloadSubnet = .ok start) (operations : List Operation) :
    let manager := operations.foldl step start
    (manager.allocatedIps.entries.map fun entry ↦ entry.2).Nodup ∧
      (∀ key ip, manager.allocatedIps.lookup key = some ip →
        workloadSubnet.Contains ip ∧ 2 ≤ ip.fourth ∧ ip.fourth ≤ 254) ∧
      ((manager.allocatedIps.entries.map fun entry ↦ entry.2.fourth.toNat) ++
        manager.freePool.map UInt8.toNat).Perm (List.range' 2 (manager.nextIp - 2)) ∧
      manager.nextIp ≤ 255 ∧
      (∀ key ip after, manager.allocateIp key = (.ok ip, after) →
        after.allocateIp key = (.ok ip, after)) ∧
      ∀ key, (∃ error, (manager.allocateIp key).1 = .error error) ↔ manager.HeldByOthers key := by
  intro manager
  have hsubnet : manager.workloadSubnet = workloadSubnet := by
    have halways : Always step (fun manager ↦ manager.workloadSubnet = workloadSubnet) start
        operations := by
      apply always_of_step
      · unfold init at hinit
        split_ifs at hinit with hprefix
        obtain rfl := Except.ok.inj hinit
        rfl
      · intro manager operation hbefore
        exact (workloadSubnet_step manager operation).trans hbefore
    exact halways.last
  have hpooled : manager.Pooled :=
    (always_of_step (pooled_init hinit) (fun _ operation hpooled ↦ pooled_step hpooled operation)
      operations).last
  refine ⟨?_, fun key ip hlookup ↦ ⟨?_, ?_, ?_⟩, hpooled.partition, hpooled.le_max,
    fun key ip after hallocates ↦ allocateIp_idempotent hallocates, allocateIp_error_iff hpooled⟩
  · have hsuffixes := (List.nodup_append'.mp hpooled.nodup).1
    have hmapped : manager.suffixes = (manager.allocatedIps.entries.map fun entry ↦ entry.2).map
        fun ip ↦ ip.fourth.toNat := by
      rw [List.map_map]
      rfl
    rw [hmapped] at hsuffixes
    exact hsuffixes.of_map
  · rw [← hsubnet, hpooled.within key ip hlookup]
    exact contains_address hpooled ip.fourth
  · exact UInt8.le_iff_toNat_le.mpr
      (hpooled.mem_iff.mp (List.mem_append_left _ (mem_suffixes hlookup))).1
  · have hmax := hpooled.le_max
    have hrange := (hpooled.mem_iff.mp (List.mem_append_left _ (mem_suffixes hlookup))).2
    exact UInt8.le_iff_toNat_le.mpr (show ip.fourth.toNat ≤ 254 by omega)

/-- An address is released through the container of its workload and given to the next one. -/
theorem released_address_reused :
    ∃ start : WorkloadNetManager, init ⟨⟨10, 200, 5, 0⟩, 24, by decide⟩ = .ok start ∧
      let manager := [Operation.allocateIp "a", .allocateIp "b", .trackContainer "container" "a",
        .releaseByContainer "container", .allocateIp "c"].foldl step start
      manager.allocatedIps.lookup "c" = some ⟨10, 200, 5, 2⟩ ∧ manager.nextIp = 4 ∧
        (manager.allocatedIps.entries.map fun entry ↦ entry.2).Nodup :=
  ⟨_, rfl, rfl, rfl, (addresses_partitioned ⟨⟨10, 200, 5, 0⟩, 24, by decide⟩ _ rfl _).1⟩

end WorkloadNetManager

end Clawbernetes.ClawNode
