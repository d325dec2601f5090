import Pinhole.Proofs.Survey.NatExchange
import Pinhole.Proofs.Survey.Verdict

/-!
# The steps of a classification behind a NAT

What the exchanges of a classification tell about a NAT, in whatever state they
are made.  As long as nothing but the primary endpoint has been contacted, the
replies from elsewhere tell the filters apart.
-/

namespace Pinhole

namespace NatNetwork

variable {network : NatNetwork} {base : Surroundings State}
  {settings : ExchangeSettings}

theorem Responsive.of_append {sent more : List Datagram}
    (hresponsive : network.Responsive settings (sent ++ more)) :
    network.Responsive settings sent := by
  intro before datagram after hsplit hadmits
  apply hresponsive before datagram (after ++ more) ?_ hadmits
  rw [hsplit, List.append_assoc, List.cons_append]

/-- A host gets from one state to another by a number of exchanges, in which
the given datagrams are sent. -/
structure Advances (network : NatNetwork) (base : Surroundings State)
    (host after : Host State) (exchanges : Nat) (later : List Datagram) :
    Prop where
  sound : network.Sound base after
  sent_eq : after.peers.sent = host.peers.sent ++ later
  drawn_le : after.drawn ≤ host.drawn + exchanges
  opened_eq : after.opened = host.opened

theorem Advances.trans {host middle after : Host State}
    {earlier rest : Nat} {first second : List Datagram}
    (hfirst : network.Advances base host middle earlier first)
    (hsecond : network.Advances base middle after rest second) :
    network.Advances base host after (earlier + rest) (first ++ second) where
  sound := hsecond.sound
  sent_eq := by
    rw [hsecond.sent_eq, hfirst.sent_eq, List.append_assoc]
  drawn_le := by
    have hle := hfirst.drawn_le
    have hle' := hsecond.drawn_le
    omega
  opened_eq := hsecond.opened_eq.trans hfirst.opened_eq

/-- Sending again goes where the first sending went. -/
theorem receiver_eq_of_mem_cons {first : Datagram} {later : List Datagram}
    (hsame : ∀ other ∈ later, other = first) :
    ∀ datagram ∈ first :: later, datagram.receiver = first.receiver := by
  intro datagram hmem
  rcases List.mem_cons.mp hmem with rfl | hrepeated
  · rfl
  · rw [hsame datagram hrepeated]

theorem Distinct.of_le {count larger : Nat}
    (hdistinct : Distinct base larger) (hle : count ≤ larger) :
    Distinct base count := by
  intro first second horder hsecond
  exact hdistinct first second horder (Nat.lt_of_lt_of_le hsecond hle)

/-! ## The exchanges of a classification -/

section Exchanges

variable {host : Host State} {socket server source : Endpoint}

/-- A plain exchange succeeds, for its reply is always admitted. -/
theorem Sound.run_plain (hsound : network.Sound base host)
    (hdistinct : Distinct base (host.drawn + 1))
    (hsource : LeavesFrom base socket server source)
    (settings : ExchangeSettings) :
    ∃ outcome after later,
      (UdpExchange.request socket server .none settings).run host =
          (outcome, after) ∧
        network.Advances base host after 1 later ∧
        (∀ datagram ∈ later, datagram.receiver = server) ∧
        ((∃ other,
            outcome =
                .ok ⟨source, server, some (network.map socket server),
                  other⟩ ∧
              (server = network.server.primary →
                other = some network.server.other)) ∨
          ∃ error, outcome = .error error ∧
            ¬ network.Responsive settings after.peers.sent) := by
  have haccepts :
      Change.none.accepts server (network.server.replier server .none) =
        true := by
    simp [Change.accepts, StunServer.replier, Change.none]
  obtain
    ⟨outcome, after, later, hrun, hafter, hsent, hsame, hdrawn, hopened,
      hend⟩ := hsound.run_request hdistinct hsource haccepts settings
  refine
    ⟨outcome, after, _, hrun, ⟨hafter, hsent, hdrawn.le, hopened⟩,
      receiver_eq_of_mem_cons hsame, ?_⟩
  rcases hend with ⟨other, hok, hprimary, _⟩ | ⟨htimeout, hunanswered⟩
  · exact Or.inl ⟨other, hok, hprimary⟩
  · right
    refine ⟨_, htimeout, ?_⟩
    intro hresponsive
    apply hunanswered hresponsive
    apply NatFilter.admits_of_mem
    simp [contacted, StunServer.replier]

/-- Whether a reply from elsewhere comes tells whether the filter admits it
when only the primary endpoint has been contacted. -/
theorem Sound.run_changedReply (hsound : network.Sound base host)
    (hdistinct : Distinct base (host.drawn + 1))
    (hsource : LeavesFrom base socket network.server.primary source)
    (hprimary : ∀ datagram ∈ host.peers.sent,
      datagram.receiver = network.server.primary)
    {change : Change}
    (haccepts :
      change.accepts network.server.primary
        (network.server.replier network.server.primary change) = true)
    (settings : ExchangeSettings) :
    ∃ got after later,
      ((UdpLine.ofSocket socket settings).changedReply
          network.server.primary change).run host = (.ok got, after) ∧
        network.Advances base host after 1 later ∧
        (∀ datagram ∈ later,
          datagram.receiver = network.server.primary) ∧
        (network.Responsive settings after.peers.sent →
          (got = true ↔
            network.filter.Admits [network.server.primary]
              (network.server.replier network.server.primary change))) := by
  obtain
    ⟨outcome, after, later, hrun, hafter, hsent, hsame, hdrawn, hopened,
      hend⟩ := hsound.run_request hdistinct hsource haccepts settings
  have hlater := receiver_eq_of_mem_cons hsame
  rcases hend with ⟨other, rfl, _, hadmits⟩ | ⟨rfl, hunanswered⟩
  · refine
      ⟨true, after, _, UdpLine.run_changedReply_of_ok hrun,
        ⟨hafter, hsent, hdrawn.le, hopened⟩, hlater, ?_⟩
    intro _
    refine iff_of_true rfl (hadmits.of_subset ?_)
    intro peer hpeer
    obtain ⟨datagram, hmem, rfl⟩ := List.mem_map.mp hpeer
    have hdatagram := (List.mem_filter.mp hmem).1
    rw [hsent] at hdatagram
    rw [List.mem_singleton]
    rcases List.mem_append.mp hdatagram with hold | hnew
    · exact hprimary datagram hold
    · exact hlater datagram hnew
  · refine
      ⟨false, after, _, UdpLine.run_changedReply_of_timeout hrun,
        ⟨hafter, hsent, hdrawn.le, hopened⟩, hlater, ?_⟩
    intro hresponsive
    refine iff_of_false Bool.false_ne_true ?_
    intro hadmits
    apply hunanswered hresponsive
    apply hadmits.of_subset
    simp [contacted]

/-- What the replies from elsewhere tell in a responsive network. -/
def filtering (network : NatNetwork) : Filtering :=
  match network.filter with
  | .endpointIndependent => ⟨true, none⟩
  | .addressDependent => ⟨false, some true⟩
  | .addressAndPortDependent => ⟨false, some false⟩

theorem filtering_eq_reached :
    network.filtering = ⟨true, none⟩ ↔
      network.filter = .endpointIndependent := by
  unfold filtering
  cases network.filter <;> simp

theorem admits_ipAndPort_iff (network : NatNetwork) :
    network.filter.Admits [network.server.primary]
        (network.server.replier network.server.primary .ipAndPort) ↔
      network.filter = .endpointIndependent := by
  have hreplier :
      network.server.replier network.server.primary .ipAndPort =
        network.server.other := rfl
  have hip := network.server.ip_ne
  have hne : network.server.other ≠ network.server.primary := by
    intro hsame
    exact hip (by rw [hsame])
  rw [hreplier]
  cases network.filter <;> simp [NatFilter.Admits, hip, hne]

theorem admits_portOnly_iff (network : NatNetwork) :
    network.filter.Admits [network.server.primary]
        (network.server.replier network.server.primary .portOnly) ↔
      network.filter ≠ .addressAndPortDependent := by
  have hreplier :
      network.server.replier network.server.primary .portOnly =
        ⟨network.server.primary.ip, network.server.other.port⟩ := rfl
  have hne :
      (⟨network.server.primary.ip, network.server.other.port⟩ : Endpoint) ≠
        network.server.primary := by
    intro hsame
    exact network.server.port_ne (congrArg Endpoint.port hsame).symm
  rw [hreplier]
  cases network.filter <;> simp [NatFilter.Admits, hne]

/-- The filtering is measured rightly as long as only the primary endpoint has
been contacted. -/
theorem Sound.run_measureFiltering (hsound : network.Sound base host)
    (hdistinct : Distinct base (host.drawn + 2))
    (hsource : LeavesFrom base socket network.server.primary source)
    (hprimary : ∀ datagram ∈ host.peers.sent,
      datagram.receiver = network.server.primary)
    (settings : ExchangeSettings) :
    ∃ filtering after later,
      ((UdpLine.ofSocket socket settings).measureFiltering
          network.server.primary).run host = (.ok filtering, after) ∧
        network.Advances base host after 2 later ∧
        (filtering = ⟨true, none⟩ ∨
          ∃ port, filtering = ⟨false, some port⟩) ∧
        (network.Responsive settings after.peers.sent →
          filtering = network.filtering) := by
  have hipAndPort :
      Change.ipAndPort.accepts network.server.primary
        (network.server.replier network.server.primary .ipAndPort) = true := by
    have hip := network.server.ip_ne.symm
    have hport := network.server.port_ne.symm
    simp [Change.accepts, StunServer.replier, Change.ipAndPort, Change.none,
      Change.portOnly, hip, hport]
  have hportOnly :
      Change.portOnly.accepts network.server.primary
        (network.server.replier network.server.primary .portOnly) = true := by
    have hport := network.server.port_ne.symm
    simp [Change.accepts, StunServer.replier, Change.none, Change.portOnly,
      hport]
  obtain ⟨got, asked, first, hreply, hadvances, hfirst, hgot⟩ :=
    hsound.run_changedReply (hdistinct.of_le (Nat.le_succ _)) hsource
      hprimary hipAndPort settings
  cases got with
  | true =>
      refine
        ⟨⟨true, none⟩, asked, first,
          UdpLine.run_measureFiltering_of_true hreply,
          ⟨hadvances.sound, hadvances.sent_eq,
            Nat.le_succ_of_le hadvances.drawn_le, hadvances.opened_eq⟩,
          Or.inl rfl, ?_⟩
      intro hresponsive
      have hfilter :=
        network.admits_ipAndPort_iff.mp ((hgot hresponsive).mp rfl)
      simp [filtering, hfilter]
  | false =>
      have hasked : ∀ datagram ∈ asked.peers.sent,
          datagram.receiver = network.server.primary := by
        intro datagram hmem
        rw [hadvances.sent_eq] at hmem
        rcases List.mem_append.mp hmem with hold | hnew
        · exact hprimary datagram hold
        · exact hfirst datagram hnew
      have hdrawn : asked.drawn + 1 ≤ host.drawn + 2 :=
        Nat.succ_le_succ hadvances.drawn_le
      obtain ⟨port, after, second, hport, hrest, _, hopen⟩ :=
        hadvances.sound.run_changedReply (hdistinct.of_le hdrawn) hsource
          hasked hportOnly settings
      refine
        ⟨⟨false, some port⟩, after, first ++ second,
          UdpLine.run_measureFiltering_of_false hreply hport,
          hadvances.trans hrest, Or.inr ⟨port, rfl⟩, ?_⟩
      intro hresponsive
      have hearlier : network.Responsive settings asked.peers.sent := by
        rw [hrest.sent_eq] at hresponsive
        exact hresponsive.of_append
      have hclosed : network.filter ≠ .endpointIndependent := by
        intro hfilter
        have hadmitted :=
          (hgot hearlier).mpr (network.admits_ipAndPort_iff.mpr hfilter)
        cases hadmitted
      have hopen := hopen hresponsive
      rw [admits_portOnly_iff] at hopen
      unfold filtering
      cases hfilter : network.filter with
      | endpointIndependent => exact absurd hfilter hclosed
      | addressDependent =>
          have hreached : port = true := by
            rw [hopen, hfilter]
            decide
          rw [hreached]
      | addressAndPortDependent =>
          have hblocked : ¬ port = true := by
            rw [hopen, hfilter]
            decide
          rw [Bool.not_eq_true] at hblocked
          rw [hblocked]

end Exchanges

/-! ## New ports -/

/-- The ports that new sockets get one after another, and what becomes of
them. -/
def observedPorts (network : NatNetwork) (base : Surroundings State)
    (ip : Ipv4) (opened : Nat) :
    (count : Nat) → List (UInt16 × Option UInt16)
  | 0 => []
  | count + 1 =>
      let port := base.freePort opened
      (port, some (network.map ⟨ip, port⟩ network.server.primary).port) ::
        network.observedPorts base ip (opened + 1) count

/-- Opening a socket changes nothing for the network. -/
theorem Sound.opened {host : Host State} (hsound : network.Sound base host)
    (opened : Nat) : network.Sound base { host with opened := opened } :=
  { hsound with }

theorem Sound.bindFault?_eq {host : Host State}
    (hsound : network.Sound base host) (requested : Endpoint) :
    host.bindFault? requested =
      base.bindFault? host.peers host.now requested := by
  rw [Host.bindFault?, hsound.surroundings_eq]
  rfl

theorem Sound.run_bindOrFail {host : Host State}
    (hsound : network.Sound base host) {requested : Endpoint}
    (hbind : host.bindFault? requested = none) :
    (Host.bindOrFail requested).run host =
      if requested.port = 0 then
        (.ok ⟨requested.ip, base.freePort host.opened⟩,
          { host with opened := host.opened + 1 })
      else (.ok requested, host) := by
  have hport : host.surroundings.freePort = base.freePort := by
    rw [hsound.surroundings_eq]
    rfl
  by_cases hzero : requested.port = 0
  · have hbound :
        Host.bind requested host =
          (.ok ⟨requested.ip, base.freePort host.opened⟩,
            { host with opened := host.opened + 1 }) := by
      simp only [Host.bind, hbind, if_pos hzero, hport]
    rw [if_pos hzero]
    exact Attempt.run_ofSystem_of_ok hbound _
  · have hbound : Host.bind requested host = (.ok requested, host) := by
      simp only [Host.bind, hbind, if_neg hzero]
    rw [if_neg hzero]
    exact Attempt.run_ofSystem_of_ok hbound _

/-- The exchange from a new port, up to the first thing that fails. -/
theorem Sound.run_freshPort {host : Host State}
    (hsound : network.Sound base host)
    (hdistinct : Distinct base (host.drawn + 1)) {ip : Ipv4}
    (hsource : ∀ port,
      LeavesFrom base ⟨ip, port⟩ network.server.primary ⟨ip, port⟩)
    (socket : Endpoint) (settings : ExchangeSettings)
    (known : Option Filtering) :
    let port := base.freePort host.opened
    ∃ outcome next later,
      (((UdpLine.ofSocket socket settings).prober
          network.server.primary).freshPort ip).run (host, known) =
          (outcome, next, known) ∧
        next.peers.sent = host.peers.sent ++ later ∧
        ((network.Sound base next ∧ next.drawn ≤ host.drawn + 1 ∧
            next.opened = host.opened + 1 ∧
            ∃ other, outcome =
              .ok ⟨⟨ip, port⟩, network.server.primary,
                some (network.map ⟨ip, port⟩ network.server.primary),
                other⟩) ∨
          ∃ error, outcome = .error error ∧
            (base.Binds ⟨ip, 0⟩ →
              ¬ network.Responsive settings next.peers.sent)) := by
  intro port
  cases hbind : host.bindFault? ⟨ip, 0⟩ with
  | some cause =>
      have hbound : Host.bind ⟨ip, 0⟩ host = (.error cause, host) := by
        simp only [Host.bind, hbind]
      refine ⟨.error (.bind ⟨ip, 0⟩ cause), host, [], ?_,
        (List.append_nil _).symm, Or.inr ⟨_, rfl, fun hbinds => ?_⟩⟩
      · apply UdpLine.run_lift
        simp only [UdpLine.ofSocket]
        exact Attempt.run_bind_of_error
          (Attempt.run_ofSystem_of_error hbound (.bind ⟨ip, 0⟩)) _
      · rw [hsound.bindFault?_eq, hbinds] at hbind
        cases hbind
  | none =>
      let fresh : Host State := { host with opened := host.opened + 1 }
      have hfresh : network.Sound base fresh := hsound.opened _
      have hbound :
          (Host.bindOrFail ⟨ip, 0⟩).run host = (.ok ⟨ip, port⟩, fresh) := by
        rw [hsound.run_bindOrFail hbind]
        rfl
      obtain ⟨outcome, next, sent, hrun, hadvances, _, hend⟩ :=
        hfresh.run_plain hdistinct (hsource port) settings
      refine ⟨outcome, next, sent, ?_, hadvances.sent_eq, ?_⟩
      · apply UdpLine.run_lift
        simp only [UdpLine.ofSocket]
        rw [Attempt.run_bind_of_ok hbound]
        exact hrun
      · rcases hend with ⟨other, hok, _⟩ | ⟨error, herror, hunresponsive⟩
        · exact Or.inl ⟨hadvances.sound, hadvances.drawn_le,
            hadvances.opened_eq, other, hok⟩
        · exact Or.inr ⟨error, herror, fun _ => hunresponsive⟩

theorem Sound.run_freshPorts {host : Host State}
    (hsound : network.Sound base host) {count : Nat}
    (hdistinct : Distinct base (host.drawn + count)) {ip : Ipv4}
    (hsource : ∀ port,
      LeavesFrom base ⟨ip, port⟩ network.server.primary ⟨ip, port⟩)
    (socket : Endpoint) (settings : ExchangeSettings)
    (known : Option Filtering) :
    ∃ outcome after later,
      (((UdpLine.ofSocket socket settings).prober
          network.server.primary).freshPorts ip count).run (host, known) =
          (outcome, after, known) ∧
        after.peers.sent = host.peers.sent ++ later ∧
        (outcome = .ok (network.observedPorts base ip host.opened count) ∨
          ∃ error, outcome = .error error ∧
            (base.Binds ⟨ip, 0⟩ →
              ¬ network.Responsive settings after.peers.sent)) := by
  induction count generalizing host with
  | zero => exact ⟨_, host, [], rfl, (List.append_nil _).symm, Or.inl rfl⟩
  | succ count ih =>
      obtain ⟨outcome, next, sent, hprobe, hnextSent, hend⟩ :=
        hsound.run_freshPort (hdistinct.of_le (by omega)) hsource socket
          settings known
      rcases hend with
        ⟨hnext, hdrawn, hopened, other, rfl⟩ | ⟨error, rfl, hunresponsive⟩
      · obtain ⟨rest, after, later, hrest, hsent, hcases⟩ :=
          ih hnext (hdistinct.of_le (by omega))
        have hall : after.peers.sent = host.peers.sent ++ (sent ++ later) := by
          rw [hsent, hnextSent, List.append_assoc]
        rcases hcases with rfl | ⟨error, rfl, hunresponsive⟩
        · refine ⟨_, after, _, ?_, hall, Or.inl rfl⟩
          rw [Prober.freshPorts, Attempt.run_bind_of_ok hprobe,
            Attempt.run_bind_of_ok hrest, hopened]
          rfl
        · refine ⟨_, after, _, ?_, hall, Or.inr ⟨error, rfl, hunresponsive⟩⟩
          rw [Prober.freshPorts, Attempt.run_bind_of_ok hprobe,
            Attempt.run_bind_of_error hrest]
      · refine ⟨_, next, sent, ?_, hnextSent,
          Or.inr ⟨error, rfl, hunresponsive⟩⟩
        rw [Prober.freshPorts, Attempt.run_bind_of_error hprobe]

end NatNetwork

end Pinhole
