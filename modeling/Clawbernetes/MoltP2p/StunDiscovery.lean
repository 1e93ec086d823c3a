import Clawbernetes.Library.Mailbox
import Clawbernetes.Library.Traces
import Clawbernetes.MoltP2p.Stun

/-!
# The discovery of the external endpoint

`NatTraversal` asks its STUN servers one after another over one socket, every one with the same
request, and takes the first datagram that can be read as a response. It does not look at who has
sent it. So a datagram counts for the server that is being asked when it is read, whatever server it
is from and however late it comes.

`endpoint_discovered_iff` says which endpoint is found, and under which server. What is found is
kept until another discovery finds something, and a direct connection is expected exactly as long as
the port in it is that of the socket (`direct_iff_since`).
-/

set_option autoImplicit false
set_option relaxedAutoImplicit false

namespace Clawbernetes.MoltP2p.Stun

open Library.Addresses Library.Mailbox Library.Runs

/-- The variants of `P2pError` that a discovery returns. -/
inductive DiscoveryError where
  | connection (message : String)
  | discovery (message : String)
  deriving DecidableEq

/-- `NatType`. -/
inductive NatType where
  | none
  | fullCone
  | restrictedCone
  | portRestrictedCone
  | symmetric
  | unknown
  deriving DecidableEq

/-- `NatType::supports_direct_connection`. -/
def NatType.supportsDirectConnection : NatType → Bool
  | .none | .fullCone | .restrictedCone | .portRestrictedCone => true
  | .symmetric | .unknown => false

/-- `EndpointDiscovery`. -/
structure EndpointDiscovery where
  externalEndpoint : SocketAddr
  localEndpoint : SocketAddr
  natType : NatType
  stunServer : SocketAddr
  deriving DecidableEq

/-- `NatTraversal`. -/
structure NatTraversal where
  stunServers : List SocketAddr
  cachedEndpoint : Option EndpointDiscovery
  deriving DecidableEq

/-! ### The network -/

/-- A datagram that reaches the socket. -/
structure Datagram where
  sender : SocketAddr
  bytes : List UInt8
  deriving DecidableEq

/-- What happens while a server is asked: the error of a request that cannot be sent, the datagrams
that arrive, and the error of a read for which none is there in time. -/
structure Exchange where
  unsent : Option String
  arrivals : List Datagram
  silence : String

/-- How the socket is opened. -/
inductive Opening where
  | bindFailed (error : String)
  | timeoutFailed (error : String)
  | addrFailed (error : String)
  | bound (port : UInt16)

/-- The network in a discovery: the socket, and what happens while each server is asked. -/
structure Network where
  opening : Opening
  exchanges : ℕ → Exchange

/-! ### Discovery -/

/-- The size of the buffer for a response. What does not fit in it is lost. -/
def bufferSize : ℕ := 512

/-- `parse_stun_response`, which never reads outside of the response. -/
def readResponse (response : List UInt8) : Except String SocketAddr :=
  (parseStunResponse response).get (parseStunResponse_isSome response)

/-- The endpoint in a datagram. -/
def Datagram.endpoint (datagram : Datagram) : Except String SocketAddr :=
  readResponse (datagram.bytes.take bufferSize)

/-- `query_stun_server`, with the datagrams that wait before and after it. -/
def queryStunServer (waiting : List Datagram) (exchange : Exchange) :
    Except DiscoveryError SocketAddr × List Datagram :=
  match exchange.unsent with
  | some error =>
    (.error (.connection ("Failed to send STUN request: " ++ error)), waiting ++ exchange.arrivals)
  | none =>
    match waiting ++ exchange.arrivals with
    | [] => (.error (.connection ("Failed to receive STUN response: " ++ exchange.silence)), [])
    | datagram :: rest => (datagram.endpoint.mapError .discovery, rest)

/-- The loop over the servers: the endpoint that is found, and the server that it is found with. -/
def tryServers (exchanges : ℕ → Exchange) :
    List Datagram → ℕ → List SocketAddr → Option (SocketAddr × SocketAddr)
  | _, _, [] => none
  | waiting, number, server :: rest =>
    match queryStunServer waiting (exchanges number) with
    | (.ok external, _) => some (external, server)
    | (.error _, waiting) => tryServers exchanges waiting (number + 1) rest

/-- `determine_nat_type`. -/
def determineNatType (localAddr external : SocketAddr) : NatType :=
  match localAddr.ip, external.ip with
  | .v4 localIp, .v4 externalIp =>
    if localIp = externalIp ∧ localAddr.port = external.port then .none
    else if localAddr.port = external.port then .fullCone
    else .unknown
  | _, _ => .unknown

/-- The address of a socket that is bound to all interfaces. -/
def localAddr (port : UInt16) : SocketAddr := ⟨.v4 ⟨0, 0, 0, 0⟩, port⟩

/-- What is kept of an endpoint that is found. -/
def discovery (port : UInt16) (external server : SocketAddr) : EndpointDiscovery where
  externalEndpoint := external
  localEndpoint := localAddr port
  natType := determineNatType (localAddr port) external
  stunServer := server

namespace NatTraversal

/-- `discover_external_endpoint`. -/
def discoverExternalEndpoint (nat : NatTraversal) (network : Network) :
    Except DiscoveryError SocketAddr × NatTraversal :=
  match network.opening with
  | .bindFailed error => (.error (.connection ("Failed to bind UDP socket: " ++ error)), nat)
  | .timeoutFailed error => (.error (.connection ("Failed to set socket timeout: " ++ error)), nat)
  | .addrFailed error => (.error (.connection ("Failed to get local address: " ++ error)), nat)
  | .bound port =>
    match tryServers network.exchanges [] 0 nat.stunServers with
    | some (external, server) =>
      (.ok external, { nat with cachedEndpoint := some (discovery port external server) })
    | none => (.error (.discovery "All STUN servers failed to respond"), nat)

/-- `can_connect_directly`. -/
def canConnectDirectly (nat : NatTraversal) : Bool :=
  nat.cachedEndpoint.any fun found ↦ found.natType.supportsDirectConnection

end NatTraversal

/-! ### The first readable datagram -/

/-- What is taken from the socket while each server is asked: nothing when the request cannot be
sent. -/
def turns (exchanges : ℕ → Exchange) (number : ℕ) : Turn Datagram :=
  ⟨(exchanges number).unsent.isNone, (exchanges number).arrivals⟩

/-- A readable datagram with this endpoint is taken while a server is asked. -/
def Answers (exchanges : ℕ → Exchange) (number : ℕ) (external : SocketAddr) : Prop :=
  ∃ datagram, heard (turns exchanges) number = some datagram ∧ datagram.endpoint = .ok external

variable {exchanges : ℕ → Exchange} {number : ℕ} {external server : SocketAddr}

/-- A query leaves what its turn leaves. -/
theorem waiting_succ (number : ℕ) : waiting (turns exchanges) (number + 1) =
    (queryStunServer (waiting (turns exchanges) number) (exchanges number)).2 := by
  rw [waiting, Turn.take, queryStunServer]
  cases hunsent : (exchanges number).unsent with
  | some error => simp [turns, hunsent]
  | none =>
    cases hitems : waiting (turns exchanges) number ++ (exchanges number).arrivals with
    | nil => simp [turns, hunsent, hitems]
    | cons datagram rest => simp [turns, hunsent, hitems]

/-- A query succeeds if and only if a readable datagram is taken in its turn. -/
theorem queryStunServer_ok_iff : Answers exchanges number external ↔
    (queryStunServer (waiting (turns exchanges) number) (exchanges number)).1 = .ok external := by
  rw [Answers, heard, Turn.take, queryStunServer]
  cases hunsent : (exchanges number).unsent with
  | some error => simp [turns, hunsent]
  | none =>
    cases hitems : waiting (turns exchanges) number ++ (exchanges number).arrivals with
    | nil => simp [turns, hunsent, hitems]
    | cons datagram rest =>
      simp only [turns, hunsent, hitems, Option.isNone_none, if_true, List.head?_cons,
        Option.some.injEq, exists_eq_left']
      cases datagram.endpoint <;> simp [Except.mapError]

/-- The loop ends with the first server for which a readable datagram is taken. -/
theorem tryServers_eq_some_iff {servers : List SocketAddr} (start : ℕ) :
    tryServers exchanges (waiting (turns exchanges) start) start servers = some (external, server) ↔
      ∃ offset, servers[offset]? = some server ∧ Answers exchanges (start + offset) external ∧
        ∀ earlier < offset, ∀ other, ¬ Answers exchanges (start + earlier) other := by
  induction servers generalizing start with
  | nil => simp [tryServers]
  | cons first rest ih =>
    have hafter : waiting (turns exchanges) (start + 1) = _ := waiting_succ start
    cases hquery : queryStunServer (waiting (turns exchanges) start) (exchanges start) with
    | mk outcome left =>
      rw [hquery] at hafter
      rw [tryServers, hquery]
      cases outcome with
      | ok found =>
        have hfound : Answers exchanges start found := queryStunServer_ok_iff.mpr (by rw [hquery])
        constructor
        · intro hsame
          obtain ⟨rfl, rfl⟩ := Prod.mk.inj (Option.some.inj hsame)
          exact ⟨0, rfl, hfound, fun earlier hlt ↦ absurd hlt (Nat.not_lt_zero _)⟩
        · rintro ⟨offset, hserver, hanswers, hearlier⟩
          cases offset with
          | zero =>
            have hsame := queryStunServer_ok_iff.mp hanswers
            rw [Nat.add_zero, hquery] at hsame
            obtain rfl := Except.ok.inj hsame
            obtain rfl := Option.some.inj hserver
            rfl
          | succ offset => exact absurd hfound (hearlier 0 (Nat.succ_pos _) found)
      | error error =>
        have hnot : ∀ other, ¬ Answers exchanges start other := by
          intro other hother
          rw [queryStunServer_ok_iff, hquery] at hother
          cases hother
        have hrest := ih (start + 1)
        rw [hafter] at hrest
        refine hrest.trans ⟨?_, ?_⟩
        · rintro ⟨offset, hserver, hanswers, hearlier⟩
          refine ⟨offset + 1, hserver, by rwa [Nat.add_comm offset, ← Nat.add_assoc], ?_⟩
          intro earlier hlt
          cases earlier with
          | zero => exact hnot
          | succ earlier =>
            rw [Nat.add_comm earlier, ← Nat.add_assoc]
            exact hearlier earlier (Nat.lt_of_succ_lt_succ hlt)
        · rintro ⟨offset, hserver, hanswers, hearlier⟩
          cases offset with
          | zero => exact absurd hanswers (hnot external)
          | succ offset =>
            refine ⟨offset, hserver, by rwa [Nat.add_assoc, Nat.add_comm 1], fun earlier hlt ↦ ?_⟩
            rw [Nat.add_assoc, Nat.add_comm 1]
            exact hearlier (earlier + 1) (Nat.succ_lt_succ hlt)

/-- The datagram with an endpoint is the first readable one of all that arrive, and it is taken
while this server is asked: as many datagrams were taken before as there were turns that took
one. -/
structure FoundAt (exchanges : ℕ → Exchange) (servers : List SocketAddr) (number : ℕ)
    (external server : SocketAddr) : Prop where
  asked : servers[number]? = some server
  sent : (exchanges number).unsent = none
  readable : ∃ datagram,
    (arrived (turns exchanges) (number + 1))[readCount (turns exchanges) number]? = some datagram ∧
      datagram.endpoint = .ok external
  earlier : ∀ datagram ∈
    (arrived (turns exchanges) number).take (readCount (turns exchanges) number),
    ∀ other, datagram.endpoint ≠ .ok other

/-- The loop finds the first readable datagram. -/
theorem tryServers_iff_foundAt {servers : List SocketAddr} :
    tryServers exchanges [] 0 servers = some (external, server) ↔
      ∃ number, FoundAt exchanges servers number external server := by
  refine (tryServers_eq_some_iff 0).trans (exists_congr fun number ↦ ?_)
  have hnone : (∀ earlier < number, ∀ other, ¬ Answers exchanges (0 + earlier) other) ↔
      ∀ datagram ∈ (arrived (turns exchanges) number).take (readCount (turns exchanges) number),
        ∀ other, datagram.endpoint ≠ .ok other := by
    rw [← filterMap_heard]
    simp only [Answers, List.mem_filterMap, List.mem_range, Nat.zero_add]
    constructor
    · rintro hearlier datagram ⟨earlier, hlt, hheard⟩ other hother
      exact hearlier earlier hlt other ⟨datagram, hheard, hother⟩
    · rintro hearlier earlier hlt other ⟨datagram, hheard, hother⟩
      exact hearlier datagram ⟨earlier, hlt, hheard⟩ other hother
  have hanswers : Answers exchanges (0 + number) external ↔ (exchanges number).unsent = none ∧
      ∃ datagram, (arrived (turns exchanges) (number + 1))[readCount (turns exchanges) number]? =
        some datagram ∧ datagram.endpoint = .ok external := by
    simp only [Answers, Nat.zero_add, heard_eq_some_iff, turns, Option.isNone_iff_eq_none]
    constructor
    · rintro ⟨datagram, ⟨hsent, hdatagram⟩, hexternal⟩
      exact ⟨hsent, datagram, hdatagram, hexternal⟩
    · rintro ⟨hsent, datagram, hdatagram, hexternal⟩
      exact ⟨datagram, ⟨hsent, hdatagram⟩, hexternal⟩
  rw [hnone, hanswers]
  exact ⟨fun ⟨hasked, ⟨hsent, hreadable⟩, hearlier⟩ ↦ ⟨hasked, hsent, hreadable, hearlier⟩,
    fun ⟨hasked, hsent, hreadable, hearlier⟩ ↦ ⟨hasked, ⟨hsent, hreadable⟩, hearlier⟩⟩

/-- The first readable datagram is found, and its endpoint is kept. -/
theorem discover_of_foundAt {nat : NatTraversal} {network : Network} {port : UInt16}
    (hopening : network.opening = .bound port)
    (hfound : FoundAt network.exchanges nat.stunServers number external server) :
    nat.discoverExternalEndpoint network = (.ok external,
      { nat with cachedEndpoint := some (discovery port external server) }) := by
  rw [NatTraversal.discoverExternalEndpoint, hopening]
  dsimp only
  rw [tryServers_iff_foundAt.mpr ⟨number, hfound⟩]

/-- What is found is the endpoint of the first readable datagram. -/
theorem foundAt_of_discover {nat after : NatTraversal} {network : Network}
    (hdiscover : nat.discoverExternalEndpoint network = (.ok external, after)) :
    ∃ port number server, network.opening = .bound port ∧
      FoundAt network.exchanges nat.stunServers number external server ∧
      after = { nat with cachedEndpoint := some (discovery port external server) } := by
  unfold NatTraversal.discoverExternalEndpoint at hdiscover
  cases hopening : network.opening with
  | bindFailed error => simp [hopening] at hdiscover
  | timeoutFailed error => simp [hopening] at hdiscover
  | addrFailed error => simp [hopening] at hdiscover
  | bound port =>
    simp only [hopening] at hdiscover
    cases hfound : tryServers network.exchanges [] 0 nat.stunServers with
    | none =>
      rw [hfound] at hdiscover
      cases hdiscover
    | some pair =>
      obtain ⟨found, server⟩ := pair
      rw [hfound] at hdiscover
      obtain ⟨hexternal, rfl⟩ := Prod.mk.inj hdiscover
      obtain rfl := Except.ok.inj hexternal
      obtain ⟨number, hat⟩ := tryServers_iff_foundAt.mp hfound
      exact ⟨port, number, server, rfl, hat, rfl⟩

/-- What a discovery leaves. -/
def NatTraversal.discovered (nat : NatTraversal) (network : Network) : NatTraversal :=
  (nat.discoverExternalEndpoint network).2

/-- A discovery that finds nothing leaves what was found before. -/
theorem discovered_of_error {network : Network} {nat : NatTraversal} {error : DiscoveryError}
    (herror : (nat.discoverExternalEndpoint network).1 = .error error) :
    nat.discovered network = nat := by
  unfold NatTraversal.discovered
  unfold NatTraversal.discoverExternalEndpoint at herror ⊢
  cases hopening : network.opening with
  | bindFailed error => rfl
  | timeoutFailed error => rfl
  | addrFailed error => rfl
  | bound port =>
    simp only [hopening] at herror ⊢
    cases hfound : tryServers network.exchanges [] 0 nat.stunServers with
    | none => rfl
    | some pair =>
      rw [hfound] at herror
      cases herror

/-- A discovery finds an endpoint if and only if the socket is bound and the first readable datagram
that is taken, whoever has sent it, has this endpoint. It is kept then, under the server that was
being asked, in place of what was found before. A discovery that fails leaves what was found. -/
theorem endpoint_discovered_iff (nat after : NatTraversal) (network : Network) :
    (∀ external, nat.discoverExternalEndpoint network = (.ok external, after) ↔
      ∃ port number server, network.opening = .bound port ∧
        FoundAt network.exchanges nat.stunServers number external server ∧
        after = { nat with cachedEndpoint := some (discovery port external server) }) ∧
      ∀ error, nat.discoverExternalEndpoint network = (.error error, after) → after = nat := by
  refine ⟨fun external ↦ ⟨foundAt_of_discover, ?_⟩, fun error herror ↦ ?_⟩
  · rintro ⟨port, number, server, hopening, hfound, rfl⟩
    exact discover_of_foundAt hopening hfound
  · have hkept := discovered_of_error (congrArg Prod.fst herror)
    rwa [NatTraversal.discovered, herror] at hkept

/-- Where the servers answer in order, each of them once, what is found is kept under the server
that has sent it if and only if a datagram was taken for every server before. Otherwise the server
that has sent it stands before the one that it is kept under. -/
theorem credited_iff {servers : List SocketAddr} (hnodup : servers.Nodup)
    (horder : ∀ (position : ℕ) (datagram : Datagram),
      (arrived (turns exchanges) (number + 1))[position]? = some datagram →
        servers[position]? = some datagram.sender)
    (hfound : FoundAt exchanges servers number external server) {datagram : Datagram}
    (hheard : heard (turns exchanges) number = some datagram) :
    (datagram.sender = server ↔
      ∀ earlier < number, (heard (turns exchanges) earlier).isSome = true) ∧
    (datagram.sender ≠ server →
      ∃ position < number, servers[position]? = some datagram.sender) := by
  obtain ⟨-, hdatagram⟩ := heard_eq_some_iff.mp hheard
  obtain ⟨hlt, hsender⟩ := List.getElem?_eq_some_iff.mp (horder _ datagram hdatagram)
  obtain ⟨hasked, hserver⟩ := List.getElem?_eq_some_iff.mp hfound.asked
  have hsame : datagram.sender = server ↔ readCount (turns exchanges) number = number := by
    rw [← hsender, ← hserver, hnodup.getElem_inj_iff]
  refine ⟨by rw [hsame, readCount_eq_iff], fun hlate ↦ ?_⟩
  have hearlier : readCount (turns exchanges) number < number :=
    (readCount_le (turns exchanges) number).lt_of_ne (mt hsame.mpr hlate)
  exact ⟨_, hearlier, horder _ datagram hdatagram⟩

/-- Two servers. -/
def firstServer : SocketAddr := ⟨.v4 ⟨192, 0, 2, 1⟩, 3478⟩

def secondServer : SocketAddr := ⟨.v4 ⟨192, 0, 2, 2⟩, 3478⟩

/-- A response of the first server that comes while the second one is asked. -/
def lateDatagram : Datagram where
  sender := firstServer
  bytes := [0x01, 0x01, 0x00, 0x0c, 0x21, 0x12, 0xa4, 0x42, 1, 2, 3, 4, 5, 6, 7, 8, 9, 10, 11, 12,
    0x00, 0x20, 0x00, 0x08, 0x00, 0x01, 0xa1, 0x47, 0xe7, 0x21, 0xc0, 0x45]

/-- What happens while the two servers are asked. -/
def lateExchanges (number : ℕ) : Exchange where
  unsent := none
  arrivals := if number = 1 then [lateDatagram] else []
  silence := "timed out"

/-- The endpoint in the late response. -/
theorem endpoint_lateDatagram :
    lateDatagram.endpoint = .ok ⟨.v4 ⟨198, 51, 100, 7⟩, 32853⟩ := by
  have hparsed : parseStunResponse (lateDatagram.bytes.take bufferSize) =
      some (.ok ⟨.v4 ⟨198, 51, 100, 7⟩, 32853⟩) := by
    unfold parseStunResponse
    unfold attributeLoop
    rfl
  exact Option.get_of_eq_some _ hparsed

/-- The late response is the first datagram, and the second server is asked when it is read. -/
theorem foundAt_late : FoundAt lateExchanges [firstServer, secondServer] 1
    ⟨.v4 ⟨198, 51, 100, 7⟩, 32853⟩ secondServer where
  asked := rfl
  sent := rfl
  readable := ⟨lateDatagram, rfl, endpoint_lateDatagram⟩
  earlier := by
    intro datagram hmem
    cases hmem

/-- What the first server has sent too late is kept under the second. -/
theorem credited_iff_late :
    (lateDatagram.sender = secondServer ↔
      ∀ earlier < 1, (heard (turns lateExchanges) earlier).isSome = true) ∧
    (lateDatagram.sender ≠ secondServer →
      ∃ position < 1, [firstServer, secondServer][position]? = some lateDatagram.sender) := by
  refine credited_iff (by decide) ?_ foundAt_late rfl
  intro position datagram hdatagram
  cases position with
  | zero =>
    obtain rfl := Option.some.inj hdatagram
    rfl
  | succ position => cases hdatagram

/-! ### Direct connections -/

/-- An attribute with a mapped address gives an endpoint of version four. -/
theorem isV4_of_parseXorMappedAddress {data : List UInt8}
    (hparsed : parseXorMappedAddress data = some (.ok external)) : ∃ ip, external.ip = .v4 ip := by
  simp only [parseXorMappedAddress, Option.bind_eq_bind, Option.pure_def] at hparsed
  split_ifs at hparsed with hshort
  · cases hparsed
  · obtain ⟨family, -, hrest⟩ := Option.bind_eq_some_iff.mp hparsed
    obtain ⟨port, -, hrest⟩ := Option.bind_eq_some_iff.mp hrest
    split_ifs at hrest
    · obtain ⟨address, -, hsame⟩ := Option.bind_eq_some_iff.mp hrest
      obtain rfl := Except.ok.inj (Option.some.inj hsame)
      exact ⟨_, rfl⟩
    · cases hrest
    · cases hrest

/-- A legacy attribute with a mapped address gives an endpoint of version four. -/
theorem isV4_of_parseMappedAddress {data : List UInt8}
    (hparsed : parseMappedAddress data = some (.ok external)) : ∃ ip, external.ip = .v4 ip := by
  simp only [parseMappedAddress, Option.bind_eq_bind, Option.pure_def] at hparsed
  split_ifs at hparsed with hshort
  · cases hparsed
  · obtain ⟨family, -, hrest⟩ := Option.bind_eq_some_iff.mp hparsed
    obtain ⟨port, -, hrest⟩ := Option.bind_eq_some_iff.mp hrest
    split_ifs at hrest
    · obtain ⟨first, -, hrest⟩ := Option.bind_eq_some_iff.mp hrest
      obtain ⟨second, -, hrest⟩ := Option.bind_eq_some_iff.mp hrest
      obtain ⟨third, -, hrest⟩ := Option.bind_eq_some_iff.mp hrest
      obtain ⟨fourth, -, hsame⟩ := Option.bind_eq_some_iff.mp hrest
      obtain rfl := Except.ok.inj (Option.some.inj hsame)
      exact ⟨_, rfl⟩
    · cases hrest

/-- The loop over the attributes gives an endpoint of version four. -/
theorem isV4_of_attributeLoop {response : List UInt8} {msgLen offset : ℕ}
    (hparsed : attributeLoop response msgLen offset = some (.ok external)) :
    ∃ ip, external.ip = .v4 ip := by
  rw [attributeLoop] at hparsed
  split_ifs at hparsed with hwithin
  · obtain ⟨attrType, -, hrest⟩ := Option.bind_eq_some_iff.mp hparsed
    obtain ⟨attrLen, -, hrest⟩ := Option.bind_eq_some_iff.mp hrest
    split_ifs at hrest
    · cases hrest
    · obtain ⟨value, -, hvalue⟩ := Option.bind_eq_some_iff.mp hrest
      exact isV4_of_parseXorMappedAddress hvalue
    · obtain ⟨value, -, hvalue⟩ := Option.bind_eq_some_iff.mp hrest
      exact isV4_of_parseMappedAddress hvalue
    · exact isV4_of_attributeLoop hrest
  · cases hparsed
termination_by 20 + msgLen - offset

/-- A datagram gives an endpoint of version four. -/
theorem Datagram.isV4_of_endpoint {datagram : Datagram}
    (hendpoint : datagram.endpoint = .ok external) : ∃ ip, external.ip = .v4 ip := by
  have hparsed : parseStunResponse (datagram.bytes.take bufferSize) = some (.ok external) := by
    rw [← hendpoint]
    exact (Option.some_get _).symm
  simp only [parseStunResponse, Option.bind_eq_bind, Option.pure_def] at hparsed
  split_ifs at hparsed with hshort
  · cases hparsed
  · obtain ⟨high, -, hrest⟩ := Option.bind_eq_some_iff.mp hparsed
    obtain ⟨low, -, hrest⟩ := Option.bind_eq_some_iff.mp hrest
    split_ifs at hrest
    · cases hrest
    · obtain ⟨cookie, -, hrest⟩ := Option.bind_eq_some_iff.mp hrest
      split_ifs at hrest
      · cases hrest
      · obtain ⟨msgLen, -, hrest⟩ := Option.bind_eq_some_iff.mp hrest
        split_ifs at hrest
        · cases hrest
        · exact isV4_of_attributeLoop hrest

/-- A direct connection is expected if and only if the port is that of the socket. -/
theorem supportsDirectConnection_iff {port : UInt16} (hv4 : ∃ ip, external.ip = .v4 ip) :
    (determineNatType (localAddr port) external).supportsDirectConnection = true ↔
      external.port = port := by
  obtain ⟨ip, hip⟩ := hv4
  have htype : determineNatType (localAddr port) external =
      if (⟨0, 0, 0, 0⟩ : Ipv4Addr) = ip ∧ port = external.port then .none
      else if port = external.port then .fullCone else .unknown := by
    rw [determineNatType, hip]
    rfl
  rw [htype]
  split_ifs with hsame hport
  · exact iff_of_true rfl hsame.2.symm
  · exact iff_of_true rfl hport.symm
  · exact iff_of_false Bool.false_ne_true fun hsame ↦ hport hsame.symm

/-- A discovery finds an endpoint, with a port that meets a condition together with that of the
socket. -/
def Network.Finds (network : Network) (servers : List SocketAddr)
    (condition : UInt16 → UInt16 → Prop) : Prop :=
  ∃ port number external server, network.opening = .bound port ∧
    FoundAt network.exchanges servers number external server ∧ condition port external.port

/-- A discovery finds an endpoint if and only if it returns one. -/
theorem finds_iff {network : Network} {nat : NatTraversal} {condition : UInt16 → UInt16 → Prop} :
    network.Finds nat.stunServers condition ↔
      ∃ port external, network.opening = .bound port ∧
        (nat.discoverExternalEndpoint network).1 = .ok external ∧ condition port external.port := by
  constructor
  · rintro ⟨port, number, external, server, hopening, hat, hcondition⟩
    exact ⟨port, external, hopening, by rw [discover_of_foundAt hopening hat], hcondition⟩
  · rintro ⟨port, external, hopening, hok, hcondition⟩
    obtain ⟨_, number, server, hsame, hat, -⟩ := foundAt_of_discover (Prod.ext hok rfl)
    exact ⟨port, number, external, server, hopening, hat, hcondition⟩

/-- A direct connection is expected after a run of discoveries if and only if one of them has found
an endpoint with the port of its socket, and no later one has found an endpoint with another
port. -/
theorem direct_iff_since (servers : List SocketAddr) (networks : List Network) :
    (networks.foldl NatTraversal.discovered ⟨servers, none⟩).canConnectDirectly = true ↔
      Since NatTraversal.discovered
        (fun nat network ↦ network.Finds nat.stunServers fun port mapped ↦ mapped = port)
        (fun nat network ↦ network.Finds nat.stunServers fun port mapped ↦ mapped ≠ port)
        ⟨servers, none⟩ networks := by
  refine holds_iff_since (fun nat : NatTraversal ↦ nat.canConnectDirectly = true) ?_ nofun
  intro nat network
  cases houtcome : (nat.discoverExternalEndpoint network).1 with
  | error error =>
    rw [discovered_of_error houtcome, finds_iff, finds_iff, houtcome]
    simp
  | ok external =>
    obtain ⟨port, number, server, hopening, hat, hafter⟩ :=
      foundAt_of_discover (Prod.ext houtcome rfl)
    have hdirect : (nat.discovered network).canConnectDirectly = true ↔ external.port = port := by
      obtain ⟨datagram, -, hendpoint⟩ := hat.readable
      have hkept :
          (nat.discovered network).cachedEndpoint = some (discovery port external server) :=
        congrArg NatTraversal.cachedEndpoint hafter
      rw [NatTraversal.canConnectDirectly, hkept]
      exact supportsDirectConnection_iff (Datagram.isV4_of_endpoint hendpoint)
    have hfinds : ∀ condition : UInt16 → UInt16 → Prop,
        network.Finds nat.stunServers condition ↔ condition port external.port := by
      intro condition
      rw [finds_iff, houtcome, hopening]
      constructor
      · rintro ⟨_, _, hport, hexternal, hcondition⟩
        obtain rfl := Opening.bound.inj hport
        obtain rfl := Except.ok.inj hexternal
        exact hcondition
      · exact fun hcondition ↦ ⟨port, external, rfl, rfl, hcondition⟩
    rw [hdirect, hfinds, hfinds]
    exact ⟨.inl, fun hcases ↦ hcases.elim id fun hkept ↦ not_not.mp hkept.2⟩

end Clawbernetes.MoltP2p.Stun
