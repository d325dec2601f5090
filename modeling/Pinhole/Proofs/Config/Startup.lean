import Pinhole.Cli.Plan
import Pinhole.Proofs.Files
import Pinhole.Proofs.Text.LowerCase

/-!
# What a checked configuration leads to

A start reads the transport, the forward target and the provider a second time,
each in its own way.  All of these readings succeed for a configuration that
passed the checks, with what the checks saw; so what is left to go wrong is
only what the checks do not look at.
-/

namespace Pinhole

open Unicode (IsLowerCase IsWord)

namespace Config

/-! ## The checks -/

theorem require_eq_ok_iff {condition : Bool} {error : ConfigError}
    {passed : Unit} :
    require condition error = .ok passed ↔ condition = true := by
  unfold require
  split <;> simp [*]

/-- A configuration passed all checks, and these are its endpoints. -/
structure Checked (config : Config) (listen? remote? : Option Endpoint) :
    Prop where
  listen : config.listenEndpoint = .ok listen?
  remote : config.remoteEndpoint = .ok remote?
  transport : Unicode.lower config.forward.transport ∈ transports
  tcpServer : checkServer "TCP STUN server" config.stun.tcpServer = .ok ()
  udpServer : checkServer "UDP STUN server" config.stun.udpServer = .ok ()
  timeout : 1 ≤ config.stun.timeout ∧ config.stun.timeout ≤ 60
  provider : config.dns.provider ∈ DnsProvider.names
  service : (serviceLabel? config.dns.service).isSome = true
  level : Unicode.lower config.logging.level ∈ logLevels

theorem validate_eq_ok_iff {config : Config} :
    config.validate = .ok () ↔
      ∃ listen? remote?, config.Checked listen? remote? := by
  simp only [validate, bind_eq_ok_iff, require_eq_ok_iff, decide_eq_true_eq]
  constructor
  · rintro ⟨listen?, hlisten, remote?, hremote, _, htransport, _, htcp, _,
      hudp, _, htimeout, _, hprovider, _, hservice, hlevel⟩
    exact ⟨listen?, remote?, hlisten, hremote, htransport, htcp, hudp,
      htimeout, hprovider, hservice, hlevel⟩
  · rintro ⟨listen?, remote?, hchecked⟩
    exact ⟨listen?, hchecked.listen, remote?, hchecked.remote, (),
      hchecked.transport, (), hchecked.tcpServer, (), hchecked.udpServer, (),
      hchecked.timeout, (), hchecked.provider, (), hchecked.service,
      hchecked.level⟩

/-! ## What was checked and what is read again -/

theorem isWord_of_mem_transports {name : String} (hname : name ∈ transports) :
    IsWord name.toList := by
  have hall : ∀ name ∈ transports, IsWord name.toList := by decide
  exact hall name hname

theorem isWord_of_mem_logLevels {name : String} (hname : name ∈ logLevels) :
    IsWord name.toList := by
  have hall : ∀ name ∈ logLevels, IsWord name.toList := by decide
  exact hall name hname

theorem toList_lower (text : String) :
    (Unicode.lower text).toList = text.toList.flatMap Unicode.lowerChar := by
  rw [Unicode.lower, String.toList_ofList]

/-- A transport is recognised by ASCII rules if it is by those of Unicode. -/
theorem ofName_of_mem_transports {name : String}
    (hname : Unicode.lower name ∈ transports) :
    ∃ transport, Transport.ofName name = .ok transport ∧
      transport.name = Unicode.lower name := by
  have hnone : ∀ name ∈ transports, 'k' ∉ name.toList := by decide
  have hsame : name.toLower = Unicode.lower name := by
    apply String.toList_injective
    change (name.map Char.toLower).toList = _
    rw [String.toList_map]
    exact Unicode.map_toLower_of_flatMap Unicode.isLowerCase_lowerChar
      (isWord_of_mem_transports hname) (hnone _ hname) (toList_lower name).symm
  rw [Transport.ofName, hsame]
  simp only [transports, List.mem_cons, List.not_mem_nil, or_false] at hname
  rcases hname with hname | hname
  · rw [hname]
    exact ⟨.tcp, rfl, rfl⟩
  · rw [hname]
    exact ⟨.udp, rfl, rfl⟩

theorem ofName?_of_mem_names {name : String}
    (hname : name ∈ DnsProvider.names) :
    ∃ provider, DnsProvider.ofName? name = some provider ∧
      provider.name = name := by
  obtain ⟨provider, hmem, hsame⟩ := List.mem_map.mp hname
  have hsome : (DnsProvider.ofName? name).isSome = true := by
    rw [DnsProvider.ofName?, List.find?_isSome]
    exact ⟨provider, hmem, decide_eq_true hsame⟩
  obtain ⟨found, hfound⟩ := Option.isSome_iff_exists.mp hsome
  have hname := hfound
  rw [DnsProvider.ofName?] at hname
  exact ⟨found, hfound, by simpa using List.find?_some hname⟩

/-- Whatever lower case makes of other characters, the same words are found. -/
theorem fold_mem_iff {words : List String}
    (hwords : ∀ word ∈ words, IsWord word.toList)
    {fold : Char → List Char} (hfold : IsLowerCase fold) (text : String) :
    String.ofList (text.toList.flatMap fold) ∈ words ↔
      Unicode.lower text ∈ words := by
  have hsame : ∀ word ∈ words,
      String.ofList (text.toList.flatMap fold) = word ↔
        Unicode.lower text = word := by
    intro word hmem
    rw [← String.toList_inj, ← String.toList_inj, String.toList_ofList,
      toList_lower]
    exact Unicode.flatMap_eq_word_congr hfold Unicode.isLowerCase_lowerChar
      (hwords word hmem)
  constructor
  · intro hmem
    rw [(hsame _ hmem).mp rfl]
    exact hmem
  · intro hmem
    rw [(hsame _ hmem).mpr rfl]
    exact hmem

/-! ## The plan -/

/-- What the endpoints that were checked lead to, with a test or without. -/
inductive Planned (config : Config) (transport : Transport)
    (listen? remote? : Option Endpoint) (provider : DnsProvider)
    (label : String) : Bool → Except PlanError Plan → Prop
  | tested :
      Planned config transport listen? remote? provider label true
        (.ok (.test ⟨transport, config.server transport,
          config.exchangeSettings, listen?.getD ⟨.unspecified, 0⟩⟩))
  | noLocalAddress (hlisten : listen? = none) :
      Planned config transport listen? remote? provider label false
        (.error .noLocalAddress)
  | sharedOverUdp {origin} (hlisten : listen? = some origin)
      (hremote : remote? = none) (htransport : transport = .udp) :
      Planned config transport listen? remote? provider label false
        (.error .sharedOverUdp)
  | sharedWithoutPort {origin} (hlisten : listen? = some origin)
      (hremote : remote? = none) (htransport : transport = .tcp)
      (hport : origin.port = 0) :
      Planned config transport listen? remote? provider label false
        (.error .sharedWithoutPort)
  | supervised {origin} (hlisten : listen? = some origin)
      (hshared : remote? = none → transport = .tcp ∧ origin.port ≠ 0) :
      Planned config transport listen? remote? provider label false
        (.ok (.supervise ⟨origin, remote?,
          ⟨transport, config.server transport, config.exchangeSettings⟩,
          provider, ⟨label, config.dns.subDomain, config.dns.domain⟩⟩))

/-- All that a start reads from a checked configuration is found. -/
structure Settles (config : Config) (transport : Transport)
    (listen? remote? : Option Endpoint) (provider : DnsProvider)
    (label : String) : Prop where
  checked : config.Checked listen? remote?
  foundTransport : config.findTransport = .ok transport
  transportName : transport.name = Unicode.lower config.forward.transport
  folded : ∀ fold, IsLowerCase fold →
    String.ofList (config.forward.transport.toList.flatMap fold) ∈
        transports ∧
      String.ofList (config.logging.level.toList.flatMap fold) ∈ logLevels
  reread : config.forward.remote.elim (.ok none)
    (Endpoint.readSetting .loopback) = .ok remote?
  foundProvider : config.findProvider = .ok provider
  providerName : provider.name = config.dns.provider
  foundLabel : serviceLabel? config.dns.service = some label
  timeout : Duration.seconds 1 ≤ config.exchangeSettings.timeout ∧
    config.exchangeSettings.timeout ≤ Duration.seconds 60
  planned : ∀ natTypeTest, config.Planned transport listen? remote? provider
    label natTypeTest (config.plan natTypeTest)

section Plan

variable {config : Config} {listen? remote? : Option Endpoint}

theorem Checked.reread (hchecked : config.Checked listen? remote?) :
    config.forward.remote.elim (.ok none)
      (Endpoint.readSetting .loopback) = .ok remote? := by
  have hremote := hchecked.remote
  unfold remoteEndpoint at hremote
  cases htext : config.forward.remote with
  | none =>
      rw [htext] at hremote
      cases hremote
      rfl
  | some text =>
      rw [htext] at hremote
      rw [Option.elim_some]
      cases hread : Endpoint.readSetting .loopback text with
      | error error =>
          simp only [hread] at hremote
          cases hremote
      | ok setting? =>
          simp only [hread] at hremote
          cases hremote
          rfl

/-- The second reading of the forward target is the first. -/
theorem Checked.target_eq (hchecked : config.Checked listen? remote?)
    (transport : Transport) (origin : Endpoint) :
    config.target transport origin =
      if remote?.isNone then
        if transport = .udp then .error .sharedOverUdp
        else if origin.port = 0 then .error .sharedWithoutPort
        else .ok none
      else .ok remote? := by
  have hreread := hchecked.reread
  clear hchecked
  unfold target
  cases htext : config.forward.remote with
  | none =>
      rw [htext] at hreread
      cases hreread
      cases transport
      · simp only [Option.isNone_none, if_true, reduceCtorEq, if_false]
        split <;> rfl
      · rfl
  | some text =>
      rw [htext, Option.elim_some] at hreread
      simp only [hreread]
      cases remote? with
      | none =>
          cases transport
          · simp only [Option.isNone_none, if_true, reduceCtorEq, if_false]
            split <;> rfl
          · rfl
      | some endpoint => rfl

theorem Checked.origin_eq (hchecked : config.Checked listen? remote?)
    (natTypeTest : Bool) :
    config.origin natTypeTest =
      listen?.elim
        (if natTypeTest then .ok ⟨.unspecified, 0⟩
        else .error .noLocalAddress)
        .ok := by
  unfold origin
  rw [hchecked.listen]
  cases listen? <;> cases natTypeTest <;> rfl

theorem Checked.planned {transport : Transport} {provider : DnsProvider}
    {label : String} (hchecked : config.Checked listen? remote?)
    (htransport : config.findTransport = .ok transport)
    (hprovider : config.findProvider = .ok provider)
    (hlabel : serviceLabel? config.dns.service = some label)
    (natTypeTest : Bool) :
    config.Planned transport listen? remote? provider label natTypeTest
      (config.plan natTypeTest) := by
  have hvalid : config.validate = .ok () :=
    validate_eq_ok_iff.mpr ⟨listen?, remote?, hchecked⟩
  have horigin := hchecked.origin_eq natTypeTest
  have hname : config.dnsName =
      ⟨label, config.dns.subDomain, config.dns.domain⟩ := by
    rw [dnsName, hlabel]
    rfl
  unfold plan
  simp only [hvalid, htransport, hprovider, horigin, hname]
  cases natTypeTest with
  | true => cases listen? <;> exact .tested
  | false =>
      cases listen? with
      | none => exact .noLocalAddress rfl
      | some origin =>
          have htarget := hchecked.target_eq transport origin
          change config.Planned transport (some origin) remote? provider label
            false (config.target transport origin >>= fun target? =>
              .ok (.supervise ⟨origin, target?,
                ⟨transport, config.server transport, config.exchangeSettings⟩,
                provider, ⟨label, config.dns.subDomain, config.dns.domain⟩⟩))
          rw [htarget]
          cases remote? with
          | some target => exact .supervised rfl nofun
          | none =>
              cases transport with
              | udp => exact .sharedOverUdp rfl rfl rfl
              | tcp =>
                  by_cases hport : origin.port = 0
                  · rw [if_pos hport]
                    exact .sharedWithoutPort rfl rfl rfl hport
                  · rw [if_neg hport]
                    exact .supervised rfl fun _ => ⟨rfl, hport⟩

/-- A configuration that passed the checks can only fail to start for want of
a local endpoint, or of what sharing a port needs. -/
theorem plan_of_validate (hvalid : config.validate = .ok ()) :
    ∃ transport listen? remote? provider label,
      config.Settles transport listen? remote? provider label := by
  obtain ⟨listen?, remote?, hchecked⟩ := validate_eq_ok_iff.mp hvalid
  obtain ⟨transport, htransport, htransportName⟩ :=
    ofName_of_mem_transports hchecked.transport
  obtain ⟨provider, hprovider, hproviderName⟩ :=
    ofName?_of_mem_names hchecked.provider
  obtain ⟨label, hlabel⟩ := Option.isSome_iff_exists.mp hchecked.service
  have hfindTransport : config.findTransport = .ok transport := by
    rw [findTransport, htransport]
    rfl
  have hfindProvider : config.findProvider = .ok provider := by
    rw [findProvider, hprovider]
  refine ⟨transport, listen?, remote?, provider, label, ?_⟩
  exact
    { checked := hchecked
      foundTransport := hfindTransport
      transportName := htransportName
      folded := by
        intro fold hfold
        exact ⟨(fold_mem_iff (fun _ => isWord_of_mem_transports) hfold _).mpr
            hchecked.transport,
          (fold_mem_iff (fun _ => isWord_of_mem_logLevels) hfold _).mpr
            hchecked.level⟩
      reread := hchecked.reread
      foundProvider := hfindProvider
      providerName := hproviderName
      foundLabel := hlabel
      timeout := by
        obtain ⟨hlow, hhigh⟩ := hchecked.timeout
        rw [UInt64.le_iff_toNat_le] at hlow hhigh
        exact ⟨Nat.mul_le_mul_right _ hlow, Nat.mul_le_mul_right _ hhigh⟩
      planned := hchecked.planned hfindTransport hfindProvider hlabel }

theorem plan_of_validate_mixedCase :
    let config : Config := {
      forward := {
        listen := some ":25565"
        remote := some " 192.168.1.7:25566"
        transport := "Udp" }
      logging := { level := "WARN" } }
    config.validate = .ok () ∧
      ∃ transport listen? remote? provider label,
        config.Settles transport listen? remote? provider label := by
  intro config
  have hvalid : config.validate = .ok () := by decide +kernel
  exact ⟨hvalid, plan_of_validate hvalid⟩

end Plan

end Config

end Pinhole
