import Clawbernetes.Library.Addresses
import Clawbernetes.Library.FiniteTable
import Clawbernetes.Library.Runs
import Clawbernetes.MoltP2p.Announcement

/-!
# Job tunnels

The tunnel manager of `tunnel.rs` keeps its tunnels and its allocator of addresses behind separate
locks. `create_job_tunnel` takes the allocator's lock to get an address and afterwards the lock of
the tunnels to store the tunnel, so calls may come between the two; `close_tunnel` does its work
under the lock of the tunnels. The manager here has the creates that are between their two steps as
part of its state, and a run is any interleaving of the steps.

When no create is under way, the tunnels and the allocator agree (`Agreed`), provided that every
insertion that ends the last create of its job finds the job's allocation to be its own
(`agreed_when_quiescent`). Two overlapping creates of one job break this
(`crossed_creates_disagree`), and so does a close of an older tunnel between the two steps.
-/

set_option autoImplicit false
set_option relaxedAutoImplicit false

namespace Clawbernetes.MoltP2p

open Library.FiniteTable Library.Addresses Library.Runs

/-! ### Tunnels -/

/-- `JobId`: the 128 bits of a UUID. -/
structure JobId where
  uuid : BitVec 128
  deriving DecidableEq

/-- What the tunnels carry of a `PeerInfo`. -/
structure PeerInfo where
  peerId : PeerId
  addresses : List String
  capabilities : List String
  deriving DecidableEq

/-- `TunnelState`. -/
inductive TunnelState where
  | establishing
  | active
  | closing
  | closed
  | failed
  deriving DecidableEq

/-- `JobTunnel`, without its bandwidth statistics. -/
structure JobTunnel where
  jobId : JobId
  provider : PeerInfo
  buyer : PeerInfo
  allocatedIp : Ipv4Addr
  createdAt : ℤ
  state : TunnelState
  deriving DecidableEq

/-- `JobTunnel::new`. -/
def JobTunnel.new (now : ℤ) (jobId : JobId) (provider buyer : PeerInfo) (allocatedIp : Ipv4Addr) :
    JobTunnel := ⟨jobId, provider, buyer, allocatedIp, now, .establishing⟩

/-- `JobTunnel::mark_active`. -/
def JobTunnel.markActive (tunnel : JobTunnel) : JobTunnel :=
  if tunnel.state = .establishing then { tunnel with state := .active } else tunnel

/-- `Job`. -/
structure Job where
  id : JobId
  providerId : PeerId
  deriving DecidableEq

/-- `IpAllocator`. The base and the next address are `u32`. -/
structure IpAllocator where
  base : ℕ
  next : ℕ
  allocated : Table JobId Ipv4Addr

namespace IpAllocator

/-- `IpAllocator::new`. -/
def new (base : Ipv4Addr) : IpAllocator := ⟨base.toNat, 1, ∅⟩

/-- `IpAllocator::allocate`. The sums wrap as they do without overflow checks. -/
def allocate (allocator : IpAllocator) (jobId : JobId) : IpAllocator × Ipv4Addr :=
  let ip := Ipv4Addr.ofNat ((allocator.base + allocator.next) % 2 ^ 32)
  (⟨allocator.base, (allocator.next + 1) % 2 ^ 32, allocator.allocated.insert jobId ip⟩, ip)

/-- `IpAllocator::release`. -/
def release (allocator : IpAllocator) (jobId : JobId) : IpAllocator :=
  { allocator with allocated := allocator.allocated.erase jobId }

end IpAllocator

/-! ### The manager -/

/-- The error of the manager. -/
inductive TunnelError where
  | peerNotFound (message : String)
  deriving DecidableEq

/-- A create that has its address and has not stored its tunnel. -/
structure PendingCreate where
  jobId : JobId
  provider : PeerInfo
  buyer : PeerInfo
  allocatedIp : Ipv4Addr
  deriving DecidableEq

/-- `TunnelManager`, with the creates that are between their two steps. -/
structure TunnelManager where
  tunnels : Table JobId JobTunnel
  ipAllocator : IpAllocator
  peers : Table PeerId PeerInfo
  pending : List PendingCreate

/-- How another crate writes peer ids and job ids. -/
structure TunnelDisplay where
  peerId : PeerId → String
  jobId : JobId → String

namespace TunnelManager

/-- `TunnelManager::with_base_ip`. -/
def withBaseIp (base : Ipv4Addr) : TunnelManager := ⟨∅, .new base, ∅, []⟩

/-- `TunnelManager::register_peer`. -/
def registerPeer (manager : TunnelManager) (info : PeerInfo) : TunnelManager :=
  { manager with peers := manager.peers.insert info.peerId info }

/-- The first step of `create_job_tunnel`: the provider is looked up and an address is allocated. -/
def allocateTunnel (display : TunnelDisplay) (manager : TunnelManager) (job : Job)
    (buyer : PeerInfo) : TunnelManager × Except TunnelError Unit :=
  match manager.peers.lookup job.providerId with
  | none => (manager, .error (.peerNotFound
      ("Provider " ++ display.peerId job.providerId ++ " not found")))
  | some provider =>
    let (ipAllocator, allocatedIp) := manager.ipAllocator.allocate job.id
    ({ manager with
        ipAllocator := ipAllocator
        pending := manager.pending ++ [⟨job.id, provider, buyer, allocatedIp⟩] }, .ok ())

/-- The second step of `create_job_tunnel`: the tunnel of one of the pending creates is stored and a
fresh instance of it is returned. -/
def insertTunnel (manager : TunnelManager) (position : ℕ) (createdAt returnedAt : ℤ) :
    TunnelManager × Option JobTunnel :=
  match manager.pending[position]? with
  | none => (manager, none)
  | some create =>
    let tunnel := (JobTunnel.new createdAt create.jobId create.provider create.buyer
      create.allocatedIp).markActive
    ({ manager with
        tunnels := manager.tunnels.insert create.jobId tunnel
        pending := manager.pending.eraseIdx position },
      some (.new returnedAt create.jobId create.provider create.buyer create.allocatedIp))

/-- `TunnelManager::close_tunnel`: the tunnel is marked closing and closed, its address is released,
and it is removed. -/
def closeTunnel (display : TunnelDisplay) (manager : TunnelManager) (jobId : JobId) :
    TunnelManager × Except TunnelError Unit :=
  match manager.tunnels.lookup jobId with
  | none => (manager, .error (.peerNotFound
      ("Tunnel for job " ++ display.jobId jobId ++ " not found")))
  | some _ =>
    ({ manager with
        tunnels := manager.tunnels.erase jobId
        ipAllocator := manager.ipAllocator.release jobId }, .ok ())

end TunnelManager

/-- A step of one of the calls under way. -/
inductive TunnelStep where
  | registerPeer (info : PeerInfo)
  | allocateTunnel (job : Job) (buyer : PeerInfo)
  | insertTunnel (position : ℕ) (createdAt returnedAt : ℤ)
  | closeTunnel (jobId : JobId)

namespace TunnelManager

/-- The manager after a step. -/
def after (display : TunnelDisplay) (manager : TunnelManager) : TunnelStep → TunnelManager
  | .registerPeer info => manager.registerPeer info
  | .allocateTunnel job buyer => (manager.allocateTunnel display job buyer).1
  | .insertTunnel position createdAt returnedAt =>
    (manager.insertTunnel position createdAt returnedAt).1
  | .closeTunnel jobId => (manager.closeTunnel display jobId).1

/-- The step allocates an address. -/
def allocates (manager : TunnelManager) : TunnelStep → Bool
  | .allocateTunnel job _ => (manager.peers.lookup job.providerId).isSome
  | _ => false

/-- A create of the job is under way. -/
def UnderWay (manager : TunnelManager) (jobId : JobId) : Prop :=
  ∃ create ∈ manager.pending, create.jobId = jobId

/-- The tunnels and the allocator agree: every tunnel has the address that is allocated to its job,
every allocated address is that of a tunnel, and no two tunnels share one. -/
structure Agreed (manager : TunnelManager) : Prop where
  allocated : ∀ jobId tunnel, manager.tunnels.lookup jobId = some tunnel →
    manager.ipAllocator.allocated.lookup jobId = some tunnel.allocatedIp
  stored : ∀ jobId ip, manager.ipAllocator.allocated.lookup jobId = some ip →
    ∃ tunnel, manager.tunnels.lookup jobId = some tunnel
  unshared : ∀ jobId other tunnel otherTunnel, manager.tunnels.lookup jobId = some tunnel →
    manager.tunnels.lookup other = some otherTunnel → jobId ≠ other →
    tunnel.allocatedIp ≠ otherTunnel.allocatedIp

/-- An insertion that ends the last create of its job finds the address it was given still allocated
to the job. -/
def InsertsOwnAllocation (manager : TunnelManager) : TunnelStep → Prop
  | .insertTunnel position _ _ =>
    ∀ create ∈ manager.pending[position]?,
      (∀ other ∈ manager.pending.eraseIdx position, other.jobId ≠ create.jobId) →
      manager.ipAllocator.allocated.lookup create.jobId = some create.allocatedIp
  | _ => True

instance (manager : TunnelManager) :
    (step : TunnelStep) → Decidable (manager.InsertsOwnAllocation step)
  | .registerPeer _ => isTrue trivial
  | .allocateTunnel _ _ => isTrue trivial
  | .insertTunnel position _ _ => inferInstanceAs (Decidable (∀ _ ∈ manager.pending[position]?, _))
  | .closeTunnel _ => isTrue trivial

/-! ### The invariant -/

/-- After a number of allocations the next address follows them all, no two jobs have one address,
and a job without a create under way has a tunnel with the address that is allocated to it or
neither. -/
structure Ordered (base allocations : ℕ) (manager : TunnelManager) : Prop where
  base_eq : manager.ipAllocator.base = base
  next_eq : manager.ipAllocator.next = (allocations + 1) % 2 ^ 32
  given_out : ∀ jobId ip, manager.ipAllocator.allocated.lookup jobId = some ip →
    ip.toNat ≤ base + allocations
  distinct : ∀ jobId other ip, manager.ipAllocator.allocated.lookup jobId = some ip →
    manager.ipAllocator.allocated.lookup other = some ip → jobId = other
  idle : ∀ jobId, ¬ manager.UnderWay jobId → manager.ipAllocator.allocated.lookup jobId =
    (manager.tunnels.lookup jobId).map fun tunnel ↦ tunnel.allocatedIp

variable {display : TunnelDisplay} {manager : TunnelManager} {base allocations : ℕ}

/-- A new manager has nothing allocated. -/
theorem ordered_withBaseIp (base : Ipv4Addr) : Ordered base.toNat 0 (withBaseIp base) where
  base_eq := rfl
  next_eq := rfl
  given_out := fun _ _ hlookup ↦ by simp [withBaseIp, IpAllocator.new] at hlookup
  distinct := fun _ _ _ hlookup ↦ by simp [withBaseIp, IpAllocator.new] at hlookup
  idle := fun _ _ ↦ rfl

/-- An ordered manager agrees when no create is under way. -/
theorem Ordered.agreed (hordered : Ordered base allocations manager)
    (hquiescent : manager.pending = []) : manager.Agreed := by
  have hidle : ∀ jobId, manager.ipAllocator.allocated.lookup jobId =
      (manager.tunnels.lookup jobId).map fun tunnel ↦ tunnel.allocatedIp := by
    intro jobId
    refine hordered.idle jobId ?_
    rintro ⟨create, hcreate, _⟩
    rw [hquiescent] at hcreate
    cases hcreate
  refine ⟨?_, ?_, ?_⟩
  · intro jobId tunnel htunnel
    rw [hidle, htunnel]
    rfl
  · intro jobId ip hip
    rw [hidle, Option.map_eq_some_iff] at hip
    obtain ⟨tunnel, htunnel, _⟩ := hip
    exact ⟨tunnel, htunnel⟩
  · intro jobId other tunnel otherTunnel htunnel hother hne hsame
    refine hne (hordered.distinct jobId other tunnel.allocatedIp ?_ ?_)
    · rw [hidle, htunnel]
      rfl
    · rw [hidle, hother, hsame]
      rfl

/-- The address of an allocation follows all that were given out. -/
theorem Ordered.allocate_ip (hordered : Ordered base allocations manager)
    (hroom : base + (allocations + 1) < 2 ^ 32) (jobId : JobId) :
    (manager.ipAllocator.allocate jobId).2.toNat = base + (allocations + 1) := by
  unfold IpAllocator.allocate
  have hnext : (allocations + 1) % 2 ^ 32 = allocations + 1 := Nat.mod_eq_of_lt (by omega)
  rw [hordered.base_eq, hordered.next_eq, hnext, Nat.mod_eq_of_lt hroom]
  exact Ipv4Addr.toNat_ofNat hroom

/-- The allocated addresses after an allocation. -/
theorem lookup_allocate (allocator : IpAllocator) (jobId other : JobId) :
    (allocator.allocate jobId).1.allocated.lookup other =
      if other = jobId then some (allocator.allocate jobId).2
      else allocator.allocated.lookup other := by
  show (allocator.allocated.insert jobId (allocator.allocate jobId).2).lookup other = _
  split_ifs with hjob
  · rw [hjob, AList.lookup_insert]
  · rw [AList.lookup_insert_ne hjob]

/-- An allocation keeps the order. -/
theorem Ordered.allocateTunnel (hordered : Ordered base allocations manager)
    (hroom : base + (allocations + 1) < 2 ^ 32) {job : Job} {provider : PeerInfo}
    (hprovider : manager.peers.lookup job.providerId = some provider) (buyer : PeerInfo) :
    Ordered base (allocations + 1) (manager.allocateTunnel display job buyer).1 := by
  have hip := hordered.allocate_ip hroom job.id
  have hallocated := lookup_allocate manager.ipAllocator job.id
  unfold TunnelManager.allocateTunnel
  rw [hprovider]
  set ip := (manager.ipAllocator.allocate job.id).2 with hdefinition
  have hfresh : ∀ jobId, manager.ipAllocator.allocated.lookup jobId ≠ some ip := by
    intro jobId hgiven
    have hbefore := hordered.given_out jobId ip hgiven
    omega
  refine ⟨hordered.base_eq, ?_, ?_, ?_, ?_⟩
  · show (manager.ipAllocator.next + 1) % 2 ^ 32 = _
    rw [hordered.next_eq, Nat.mod_add_mod]
  · intro jobId given hgiven
    dsimp only at hgiven
    rw [hallocated] at hgiven
    split_ifs at hgiven with hjob
    · rw [← Option.some.inj hgiven, hip]
    · exact (hordered.given_out jobId given hgiven).trans (by omega)
  · intro jobId other given hgiven hother
    dsimp only at hgiven hother
    rw [hallocated] at hgiven hother
    split_ifs at hgiven hother with hjob hotherJob hotherJob
    · rw [hjob, hotherJob]
    · exact absurd (hother.trans hgiven.symm) (hfresh other)
    · exact absurd (hgiven.trans hother.symm) (hfresh jobId)
    · exact hordered.distinct jobId other given hgiven hother
  · intro jobId hidle
    have hjob : jobId ≠ job.id := by
      intro hjob
      refine hidle ⟨⟨job.id, provider, buyer, ip⟩, ?_, hjob.symm⟩
      exact List.mem_append_right _ List.mem_cons_self
    have hbefore : ¬ manager.UnderWay jobId := by
      rintro ⟨create, hcreate, hsame⟩
      exact hidle ⟨create, List.mem_append_left _ hcreate, hsame⟩
    show (manager.ipAllocator.allocate job.id).1.allocated.lookup jobId = _
    rw [hallocated, if_neg hjob]
    exact hordered.idle jobId hbefore

/-- An insertion of an own allocation keeps the order. -/
theorem Ordered.insertTunnel (hordered : Ordered base allocations manager) {position : ℕ}
    {createdAt returnedAt : ℤ}
    (hown : manager.InsertsOwnAllocation (.insertTunnel position createdAt returnedAt)) :
    Ordered base allocations (manager.insertTunnel position createdAt returnedAt).1 := by
  unfold TunnelManager.insertTunnel
  cases hcreate : manager.pending[position]? with
  | none => exact hordered
  | some create =>
    refine ⟨hordered.base_eq, hordered.next_eq, hordered.given_out, hordered.distinct, ?_⟩
    intro jobId hidle
    have hothers : ∀ other ∈ manager.pending.eraseIdx position, other.jobId ≠ jobId :=
      fun other hother hsame ↦ hidle ⟨other, hother, hsame⟩
    dsimp only
    by_cases hjob : jobId = create.jobId
    · -- the last create of its job: its tunnel is stored with the address that is allocated
      subst hjob
      rw [AList.lookup_insert, hown create hcreate hothers]
      rfl
    · rw [AList.lookup_insert_ne hjob]
      refine hordered.idle jobId ?_
      rintro ⟨other, hother, hsame⟩
      rw [List.mem_iff_getElem?] at hother
      obtain ⟨index, hindex⟩ := hother
      by_cases hposition : index = position
      · rw [hposition, hcreate] at hindex
        rw [← Option.some.inj hindex] at hsame
        exact hjob hsame.symm
      · refine hothers other ?_ hsame
        exact List.mem_eraseIdx_iff_getElem?.mpr ⟨index, hposition, hindex⟩

/-- A close keeps the order. -/
theorem Ordered.closeTunnel (hordered : Ordered base allocations manager) (jobId : JobId) :
    Ordered base allocations (manager.closeTunnel display jobId).1 := by
  unfold TunnelManager.closeTunnel
  cases htunnel : manager.tunnels.lookup jobId with
  | none => exact hordered
  | some tunnel =>
    have hreleased :
        ∀ other ip, (manager.ipAllocator.allocated.erase jobId).lookup other = some ip →
        manager.ipAllocator.allocated.lookup other = some ip := by
      exact fun other ip hlookup ↦ (lookup_erase_cases hlookup).2
    refine ⟨hordered.base_eq, hordered.next_eq, ?_, ?_, ?_⟩
    · exact fun other ip hlookup ↦ hordered.given_out other ip (hreleased other ip hlookup)
    · exact fun first second ip hfirst hsecond ↦ hordered.distinct first second ip
        (hreleased first ip hfirst) (hreleased second ip hsecond)
    · intro other hidle
      show (manager.ipAllocator.allocated.erase jobId).lookup other =
        ((manager.tunnels.erase jobId).lookup other).map _
      by_cases hother : other = jobId
      · rw [hother, AList.lookup_erase, AList.lookup_erase]
        rfl
      · rw [AList.lookup_erase_ne hother, AList.lookup_erase_ne hother]
        exact hordered.idle other hidle

/-- A step keeps the order when an insertion finds its own allocation and an allocation has room. -/
theorem Ordered.after (hordered : Ordered base allocations manager) (display : TunnelDisplay)
    {step : TunnelStep} (hown : manager.InsertsOwnAllocation step)
    (hroom : base + (allocations + (manager.allocates step).toNat) < 2 ^ 32) :
    Ordered base (allocations + (manager.allocates step).toNat) (manager.after display step) := by
  cases step with
  | registerPeer info =>
    exact ⟨hordered.base_eq, hordered.next_eq, hordered.given_out, hordered.distinct, hordered.idle⟩
  | allocateTunnel job buyer =>
    show Ordered base (allocations + (manager.peers.lookup job.providerId).isSome.toNat) _
    change base + (allocations + (manager.peers.lookup job.providerId).isSome.toNat) < 2 ^ 32
      at hroom
    cases hprovider : manager.peers.lookup job.providerId with
    | none =>
      show Ordered base allocations (manager.allocateTunnel display job buyer).1
      unfold TunnelManager.allocateTunnel
      rw [hprovider]
      exact hordered
    | some provider =>
      rw [hprovider] at hroom
      exact hordered.allocateTunnel hroom hprovider buyer
  | insertTunnel position createdAt returnedAt => exact hordered.insertTunnel hown
  | closeTunnel jobId => exact hordered.closeTunnel jobId

/-- A run keeps the order when every insertion finds its own allocation and there is room for all
its allocations. -/
theorem Ordered.run (display : TunnelDisplay) :
    ∀ {steps : List TunnelStep} {manager : TunnelManager} {allocations : ℕ},
      Ordered base allocations manager →
      base + (allocations + countSteps (TunnelManager.after display) allocates manager steps) <
        2 ^ 32 →
      Throughout (TunnelManager.after display) InsertsOwnAllocation manager steps →
      Always (TunnelManager.after display)
        (fun manager ↦ ∃ allocations, Ordered base allocations manager) manager steps := by
  intro steps
  induction steps with
  | nil => exact fun hordered _ _ ↦ always_nil.mpr ⟨_, hordered⟩
  | cons step rest ih =>
    intro manager allocations hordered hroom hown
    obtain ⟨hfirst, hrest⟩ := throughout_cons.mp hown
    have hcount : countSteps (TunnelManager.after display) allocates manager (step :: rest) =
        (manager.allocates step).toNat +
          countSteps (TunnelManager.after display) allocates (manager.after display step) rest := by
      rw [countSteps]
      cases manager.allocates step <;> rfl
    rw [hcount] at hroom
    have hnext := hordered.after display hfirst (by omega)
    exact always_cons.mpr ⟨⟨_, hordered⟩, ih hnext (by omega) hrest⟩

/-- In every run in which every insertion that ends the last create of its job finds its own
allocation, the tunnels and the allocator agree in every state without creates under way. -/
theorem agreed_when_quiescent (display : TunnelDisplay) (base : Ipv4Addr) (steps : List TunnelStep)
    (hroom : countSteps (TunnelManager.after display) allocates (withBaseIp base) steps <
      2 ^ 32 - base.toNat)
    (hown : Throughout (TunnelManager.after display) InsertsOwnAllocation (withBaseIp base) steps) :
    Always (TunnelManager.after display) (fun manager ↦ manager.pending = [] → manager.Agreed)
      (withBaseIp base) steps := by
  have hordered := Ordered.run display (ordered_withBaseIp base) (by omega) hown
  intro done hdone hquiescent
  obtain ⟨_, hdone⟩ := hordered done hdone
  exact hdone.agreed hquiescent

/-! ### Overlapping creates of one job -/

/-- A display for the examples. -/
def exampleDisplay : TunnelDisplay := ⟨fun _ ↦ "peer", fun _ ↦ "job"⟩

/-- A peer of the examples. -/
def examplePeer (byte : UInt8) : PeerInfo := ⟨.ofByte byte, [], []⟩

/-- A job of the examples. -/
def exampleJob (number : BitVec 128) : Job := ⟨⟨number⟩, .ofByte 1⟩

/-- Two creates of one job overlap and store their tunnels in the other order: the tunnel that stays
has the first address, and the second is the one that is allocated. -/
theorem crossed_creates_disagree :
    ¬ Always (after exampleDisplay) (fun manager ↦ manager.pending = [] → manager.Agreed)
      (withBaseIp ⟨10, 200, 0, 0⟩)
      [.registerPeer (examplePeer 1), .allocateTunnel (exampleJob 7) (examplePeer 2),
        .allocateTunnel (exampleJob 7) (examplePeer 2), .insertTunnel 1 0 0,
        .insertTunnel 0 0 0] := by
  intro halways
  have hagreed := halways.last (by decide +kernel)
  have hallocated := hagreed.allocated ⟨7⟩
    ⟨⟨7⟩, examplePeer 1, examplePeer 2, ⟨10, 200, 0, 1⟩, 0, .active⟩ (by decide +kernel)
  revert hallocated
  decide +kernel

/-- Creates of two jobs overlap, and each stores its own allocation. -/
theorem agreed_when_quiescent_exampleJob :
    Always (after exampleDisplay) (fun manager ↦ manager.pending = [] → manager.Agreed)
      (withBaseIp ⟨10, 200, 0, 0⟩)
      [.registerPeer (examplePeer 1), .allocateTunnel (exampleJob 7) (examplePeer 2),
        .allocateTunnel (exampleJob 8) (examplePeer 2), .insertTunnel 1 0 0,
        .insertTunnel 0 0 0, .closeTunnel ⟨7⟩] :=
  agreed_when_quiescent exampleDisplay ⟨10, 200, 0, 0⟩ _ (by decide +kernel) (by decide +kernel)

end TunnelManager

end Clawbernetes.MoltP2p
