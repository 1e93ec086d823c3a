import Clawbernetes.ClawNode.DockerDaemon
import Clawbernetes.ClawNode.WorkloadCommands

/-!
# The settings of a container in Docker

What the request to create a container keeps of the network, the address, the ports and the DNS
servers of a specification. `settings_kept_iff` says for which specifications nothing is lost: the
configuration has no place for an address, for DNS servers and for the protocol of a port, and its
ports are keyed by the port of the container. So the address that the SDK reports for a workload is
never the one that its container asks for.
-/

set_option autoImplicit false
set_option relaxedAutoImplicit false

namespace Clawbernetes.ClawNode

open Library.Bytes Library.FiniteTable
open ClawCompute (Config HostConfig portKey)
open MoltAttestation (Uuid)

/-- The host publishes a port: it binds the port of the container with the protocol to the port of
the host. -/
def Publishes (host : HostConfig) (mapping : PortMapping) : Prop :=
  ∃ ports bindings, host.portBindings = some ports ∧
    ports.lookup (toString mapping.containerPort.toNat ++ "/" ++ mapping.protocol) =
      some (some bindings) ∧
    ∃ binding ∈ bindings, binding.hostPort = some (toString mapping.hostPort.toNat)

/-- The address that a container asks for in its network. -/
def assignedAddress (config : Config) : Option String := do
  let host ← config.hostConfig
  let network ← host.networkMode
  let endpoints ← config.networkingConfig
  let settings ← endpoints.lookup network
  settings.ipv4Address

/-- A request to create a container, with the configuration of the host, keeps the network, the
address, the ports and the DNS servers of a specification. Without a network the default one is
attached. -/
structure Keeps (spec : ContainerSpec) (config : Config) (host : HostConfig) : Prop where
  host_eq : config.hostConfig = some host
  network : host.networkMode = some (spec.network.getD "bridge")
  address : assignedAddress config = spec.ipAddress
  ports : ∀ mapping, Publishes host mapping ↔ mapping ∈ spec.portMappings
  dns : host.dns.getD [] = spec.dns

/-- A specification asks for no address and no DNS servers, and maps TCP ports only, each port of
the container to one port of the host. -/
structure Expressible (spec : ContainerSpec) : Prop where
  address : spec.ipAddress = none
  dns : spec.dns = []
  tcp : ∀ mapping ∈ spec.portMappings, mapping.protocol = "tcp"
  oneHostPort : ∀ first ∈ spec.portMappings, ∀ second ∈ spec.portMappings,
    first.containerPort = second.containerPort → first.hostPort = second.hostPort

/-! ### The published ports -/

/-- A port with a protocol is the key of a port exactly when it is this port and the protocol is
TCP. -/
theorem key_eq_portKey_iff {port other : UInt16} {protocol : String} :
    toString port.toNat ++ "/" ++ protocol = portKey other ↔ port = other ∧ protocol = "tcp" := by
  have hkey : portKey other = toString other.toNat ++ String.singleton '/' ++ "tcp" := by
    rw [String.append_assoc]
    rfl
  have hslash : ∀ number : ℕ, '/' ∉ (toString number).toList := not_mem_decimal rfl
  rw [hkey]
  constructor
  · intro hsame
    obtain ⟨hport, hprotocol⟩ := join_inj (hslash _) (hslash _) hsame
    exact ⟨UInt16.toNat_inj.mp (decimal_inj hport), hprotocol⟩
  · rintro ⟨rfl, rfl⟩
    rfl

/-- Ports have different keys. -/
theorem portKey_injective : Function.Injective portKey := by
  intro first second hsame
  have hkey : toString first.toNat ++ "/" ++ "tcp" = portKey second :=
    (key_eq_portKey_iff.mpr ⟨rfl, rfl⟩).trans hsame
  exact (key_eq_portKey_iff.mp hkey).1

/-- The bindings under a key. -/
theorem lookup_portBindings_iff {ports : Table UInt16 UInt16} {port : UInt16} {protocol : String}
    {bindings : Option (List ClawCompute.PortBinding)} :
    (ClawCompute.portBindings ports).lookup (toString port.toNat ++ "/" ++ protocol) =
        some bindings ↔
      protocol = "tcp" ∧ ∃ hostPort, ports.lookup port = some hostPort ∧
        some [⟨some "0.0.0.0", some (toString hostPort.toNat)⟩] = bindings := by
  unfold ClawCompute.portBindings
  rw [lookup_collect_of_nodup, List.mem_map]
  · constructor
    · rintro ⟨⟨other, hostPort⟩, hentry, hsame⟩
      obtain ⟨hkey, hbindings⟩ := Prod.mk.inj hsame
      obtain ⟨rfl, hprotocol⟩ := key_eq_portKey_iff.mp hkey.symm
      exact ⟨hprotocol, hostPort, AList.mem_lookup_iff.mpr hentry, hbindings⟩
    · rintro ⟨rfl, hostPort, hlookup, rfl⟩
      refine ⟨⟨port, hostPort⟩, AList.mem_lookup_iff.mp hlookup, Prod.ext ?_ rfl⟩
      exact (key_eq_portKey_iff.mpr ⟨rfl, rfl⟩).symm
  · have hkeys : (ports.entries.map Sigma.fst).Nodup := ports.nodupKeys
    have hmapped := hkeys.map portKey_injective
    rwa [List.map_map] at hmapped ⊢

/-- A request publishes a port exactly when the protocol is TCP and the last mapping of the port of
the container names the port of the host. -/
theorem publishes_iff (gpuRuntime : Option String) (uuid : Uuid) (spec : ContainerSpec)
    (mapping : PortMapping) :
    Publishes (ClawCompute.buildHostConfig gpuRuntime (specToConfig uuid spec)) mapping ↔
      mapping.protocol = "tcp" ∧
        (portsOf spec.portMappings).lookup mapping.containerPort = some mapping.hostPort := by
  have hports : (specToConfig uuid spec).ports = portsOf spec.portMappings := rfl
  unfold Publishes
  rw [ClawCompute.portBindings_buildHostConfig, hports]
  constructor
  · rintro ⟨table, bindings, htable, hlookup, binding, hbinding, hhost⟩
    split_ifs at htable
    rw [← Option.some_inj.mp htable, lookup_portBindings_iff] at hlookup
    obtain ⟨hprotocol, hostPort, hfound, hbindings⟩ := hlookup
    rw [← Option.some_inj.mp hbindings, List.mem_singleton] at hbinding
    rw [hbinding] at hhost
    have hsame : hostPort = mapping.hostPort :=
      UInt16.toNat_inj.mp (decimal_inj (Option.some_inj.mp hhost))
    exact ⟨hprotocol, hsame ▸ hfound⟩
  · rintro ⟨hprotocol, hlookup⟩
    have hnonempty : (portsOf spec.portMappings).entries ≠ [] :=
      List.ne_nil_of_mem (AList.mem_lookup_iff.mp hlookup)
    exact ⟨_, _, if_neg hnonempty,
      lookup_portBindings_iff.mpr ⟨hprotocol, mapping.hostPort, hlookup, rfl⟩,
      _, List.mem_singleton.mpr rfl, rfl⟩

/-- The listed ports are published exactly when they are TCP ports and each port of the container is
mapped to one port of the host. -/
theorem publishes_listed_iff (gpuRuntime : Option String) (uuid : Uuid) (spec : ContainerSpec) :
    (∀ mapping,
        Publishes (ClawCompute.buildHostConfig gpuRuntime (specToConfig uuid spec)) mapping ↔
          mapping ∈ spec.portMappings) ↔
      (∀ mapping ∈ spec.portMappings, mapping.protocol = "tcp") ∧
        ∀ first ∈ spec.portMappings, ∀ second ∈ spec.portMappings,
          first.containerPort = second.containerPort → first.hostPort = second.hostPort := by
  simp only [publishes_iff]
  constructor
  · intro hlisted
    refine ⟨fun mapping hmapping ↦ ((hlisted mapping).mpr hmapping).1, ?_⟩
    intro first hfirst second hsecond hsame
    have hfound := ((hlisted first).mpr hfirst).2
    rw [hsame, ((hlisted second).mpr hsecond).2] at hfound
    exact (Option.some_inj.mp hfound).symm
  · rintro ⟨htcp, hone⟩ mapping
    constructor
    · rintro ⟨hprotocol, hlookup⟩
      obtain ⟨listed, hlisted, hsame⟩ := List.mem_map.mp (mem_of_lookup_collect hlookup)
      obtain ⟨hcontainer, hhost⟩ := Prod.mk.inj hsame
      have hprotocols : listed.protocol = mapping.protocol := by
        rw [htcp listed hlisted, hprotocol]
      have heq : listed = mapping := by
        cases listed
        cases mapping
        simp only [PortMapping.mk.injEq]
        exact ⟨hhost, hcontainer, hprotocols⟩
      exact heq ▸ hlisted
    · intro hmapping
      have hkey : mapping.containerPort ∈ (spec.portMappings.map fun mapping ↦
          (mapping.containerPort, mapping.hostPort)).map Prod.fst := by
        rw [List.map_map]
        exact List.mem_map_of_mem hmapping
      obtain ⟨hostPort, hlookup⟩ := exists_lookup_collect hkey
      obtain ⟨listed, hlisted, hsame⟩ := List.mem_map.mp (mem_of_lookup_collect hlookup)
      obtain ⟨hcontainer, hhost⟩ := Prod.mk.inj hsame
      refine ⟨htcp mapping hmapping, hlookup.trans ?_⟩
      rw [← hhost, hone listed hlisted mapping hmapping hcontainer]

/-! ### What is kept -/

/-- No request asks for an address. -/
theorem assignedAddress_createRequest (gpuRuntime : Option String) (uuid : Uuid)
    (spec : ContainerSpec) :
    assignedAddress (ClawCompute.createRequest gpuRuntime (specToConfig uuid spec)).config =
      none := by
  unfold assignedAddress ClawCompute.createRequest
  simp

/-- The network is attached by its name. -/
theorem networkMode_specToConfig (gpuRuntime : Option String) (uuid : Uuid) (spec : ContainerSpec) :
    (ClawCompute.buildHostConfig gpuRuntime (specToConfig uuid spec)).networkMode =
      some (spec.network.getD "bridge") := by
  rw [ClawCompute.networkMode_buildHostConfig]
  unfold specToConfig
  cases spec.network <;> rfl

/-- The request for a container keeps the settings of its specification exactly when the
specification is expressible. -/
theorem keeps_iff_expressible (gpuRuntime : Option String) (uuid : Uuid) (spec : ContainerSpec) :
    (∃ host, Keeps spec
        (ClawCompute.createRequest gpuRuntime (specToConfig uuid spec)).config host) ↔
      Expressible spec := by
  constructor
  · rintro ⟨host, hkeeps⟩
    obtain rfl := Option.some_inj.mp hkeeps.host_eq
    obtain ⟨htcp, hone⟩ := (publishes_listed_iff gpuRuntime uuid spec).mp hkeeps.ports
    refine ⟨?_, ?_, htcp, hone⟩
    · rw [← hkeeps.address, assignedAddress_createRequest]
    · rw [← hkeeps.dns, ClawCompute.dns_buildHostConfig]
      rfl
  · intro hexpressible
    refine ⟨_, rfl, networkMode_specToConfig gpuRuntime uuid spec, ?_, ?_, ?_⟩
    · rw [assignedAddress_createRequest, hexpressible.address]
    · exact (publishes_listed_iff gpuRuntime uuid spec).mpr
        ⟨hexpressible.tcp, hexpressible.oneHostPort⟩
    · rw [ClawCompute.dns_buildHostConfig, hexpressible.dns]
      rfl

/-- A successful run through the SDK reports an address and adds a container to the daemon whose
request asks for none. -/
theorem handleWorkloadRunSdk_ok {gpuRuntime : Option String} {uuid : Uuid} {answers : DaemonAnswers}
    {request : RunRequest} {net after : WorkloadNetManager} {node started : DockerNode}
    {reply : RunReply}
    (hruns : handleWorkloadRunSdk (answers.runtime gpuRuntime uuid) request net node =
      (.ok reply, after, started)) :
    ∃ container, started.1 = node.1 ++ [container] ∧
      reply.containerId = (ClawCompute.ContainerId.mk container.id).short ∧
      reply.meshIp.isSome ∧ assignedAddress container.request.config = none := by
  unfold handleWorkloadRunSdk at hruns
  rcases hallocates : net.allocateIp request.workloadId with ⟨allocated, net⟩
  rw [hallocates] at hruns
  cases allocated with
  | error error => cases hruns
  | ok ip =>
    dsimp only at hruns
    rcases answers.create_cases gpuRuntime uuid { request.spec with
        network := some dockerNetworkName
        ipAddress := some ip.display } node with
      ⟨-, error, hcreate⟩ | ⟨-, error, id, hcreate⟩ | ⟨-, id, hcreate⟩
    · rw [hcreate] at hruns
      cases hruns
    · rw [hcreate] at hruns
      cases hruns
    · rw [hcreate] at hruns
      obtain ⟨hreply, hrest⟩ := Prod.mk.inj hruns
      obtain rfl := Except.ok.inj hreply
      obtain ⟨-, rfl⟩ := Prod.mk.inj hrest
      exact ⟨_, rfl, rfl, rfl, assignedAddress_createRequest _ _ _⟩

/-- The request for a container keeps the settings of its specification exactly when the
specification is expressible. And every workload that is started through the SDK is reported with an
address, while its container is created by a request that asks for none. -/
theorem settings_kept_iff (gpuRuntime : Option String) (uuid : Uuid) :
    (∀ spec, (∃ host, Keeps spec
        (ClawCompute.createRequest gpuRuntime (specToConfig uuid spec)).config host) ↔
      Expressible spec) ∧
    ∀ (answers : DaemonAnswers) (request : RunRequest) (net after : WorkloadNetManager)
      (node started : DockerNode) (reply : RunReply),
      handleWorkloadRunSdk (answers.runtime gpuRuntime uuid) request net node =
          (.ok reply, after, started) →
        ∃ container, started.1 = node.1 ++ [container] ∧
          reply.containerId = (ClawCompute.ContainerId.mk container.id).short ∧
          reply.meshIp.isSome ∧ reply.meshIp ≠ assignedAddress container.request.config := by
  refine ⟨keeps_iff_expressible gpuRuntime uuid, ?_⟩
  intro answers request net after node started reply hruns
  obtain ⟨container, hadded, hnamed, hreported, hnone⟩ := handleWorkloadRunSdk_ok hruns
  refine ⟨container, hadded, hnamed, hreported, fun hsame ↦ ?_⟩
  rw [hsame, hnone] at hreported
  cases hreported

/-- A daemon that creates and starts a container. -/
def starts (id : String) : DaemonAnswers := ⟨.ok id, .ok (), .ok (), .ok ()⟩

/-- A container with one published port in a network. -/
def webContainer : ContainerSpec :=
  { ContainerSpec.new "nginx" with
    network := some dockerNetworkName
    portMappings := [⟨8080, 80, "tcp"⟩] }

/-- The settings of a container with one published port are kept. When it is run through the SDK,
the address that is reported is not the one that is asked for. -/
theorem settings_kept_iff_webContainer :
    (∃ host, Keeps webContainer (ClawCompute.createRequest none
      (specToConfig (Uuid.ofByte 1) webContainer)).config host) ∧
    ∃ container, (handleWorkloadRunSdk ((starts "0123456789abcdef").runtime none (Uuid.ofByte 1))
        ⟨"workload", "nginx", none, webContainer, [], []⟩ freshNet ([], ∅)).2.2.1 = [container] ∧
      "0123456789ab" = (ClawCompute.ContainerId.mk container.id).short ∧
      (some "10.200.5.2").isSome ∧
        some "10.200.5.2" ≠ assignedAddress container.request.config := by
  have hexpressible : Expressible webContainer :=
    ⟨rfl, rfl, by decide, by decide⟩
  have hkept := settings_kept_iff none (Uuid.ofByte 1)
  exact ⟨(hkept.1 webContainer).mpr hexpressible, hkept.2 (starts "0123456789abcdef")
    ⟨"workload", "nginx", none, webContainer, [], []⟩ freshNet _ ([], ∅) _
    ⟨"0123456789ab", "workload", "nginx", none, "docker-sdk", some "10.200.5.2",
      some dockerNetworkName⟩ rfl⟩

/-- A name server with an address of its own, two mappings of one port and a UDP port. -/
def nameServer : ContainerSpec :=
  { ContainerSpec.new "coredns" with
    network := some dockerNetworkName
    ipAddress := some "10.200.5.2"
    portMappings := [⟨8080, 80, "tcp"⟩, ⟨8081, 80, "tcp"⟩, ⟨53, 53, "udp"⟩]
    dns := ["10.0.0.53"] }

/-- The request for the name server asks for no address and no DNS servers, drops the first mapping
of the port with two, and publishes the UDP port with TCP. -/
theorem nameServer_loses_settings :
    let request := ClawCompute.createRequest none (specToConfig (Uuid.ofByte 1) nameServer)
    let host := ClawCompute.buildHostConfig none (specToConfig (Uuid.ofByte 1) nameServer)
    request.config.hostConfig = some host ∧ assignedAddress request.config = none ∧
      host.dns = none ∧ ¬Publishes host ⟨8080, 80, "tcp"⟩ ∧ Publishes host ⟨8081, 80, "tcp"⟩ ∧
      ¬Publishes host ⟨53, 53, "udp"⟩ ∧ Publishes host ⟨53, 53, "tcp"⟩ ∧
      ¬∃ host, Keeps nameServer request.config host := by
  intro request host
  have hnone : assignedAddress request.config = none := assignedAddress_createRequest _ _ _
  refine ⟨rfl, hnone, ClawCompute.dns_buildHostConfig _ _, ?_, ?_, ?_, ?_, ?_⟩
  · rw [publishes_iff]
    decide
  · rw [publishes_iff]
    decide
  · rw [publishes_iff]
    decide
  · rw [publishes_iff]
    decide
  · rintro ⟨other, hkeeps⟩
    have haddress := hkeeps.address
    rw [hnone] at haddress
    cases haddress

end Clawbernetes.ClawNode
