import Pinhole.Proofs.Stun.Attempt
import Pinhole.Proofs.Supervise.Hosting

/-!
# Where a mapping is measured

A look-up asks the server from a socket of its own, and an engine binds its
public socket anew.  When the local port is given both have this port.  When
any port will do, each of them is given one, and the mapping is that of the
first: nothing makes the host give the second the same port, and a host that
counts its sockets up never does.
-/

namespace Pinhole

variable {σ : Type}

/-- One exchange from a bound socket. -/
def probeFrom (settings : ExchangeSettings) (transport : Transport)
    (socket server : Endpoint) (change : Change) :
    Attempt (Host σ) Binding :=
  match transport with
  | .tcp => do
      let source ← TcpExchange.connect socket server settings.timeout
      TcpExchange.exchange source server settings.timeout
  | .udp => UdpExchange.request socket server change settings

theorem probe_eq_bind (settings : ExchangeSettings) (transport : Transport)
    (origin server : Endpoint) (change : Change) :
    (probe settings transport origin server change :
      Attempt (Host σ) Binding) =
        Host.bindOrFail origin >>= fun socket =>
          probeFrom settings transport socket server change := by
  cases transport <;> rfl

namespace Supervision

/-- A look-up that begins on a host and ends on another finds a mapping by one
exchange from a socket. -/
structure Measured (supervision : Supervision) (begun site : Host σ)
    (socket mapped : Endpoint) : Prop where
  exchanged : ∃ server others bound binding,
    ServerName.resolve begun.surroundings.addresses
        supervision.lookup.server = .ok (server, others) ∧
      (Host.bind supervision.origin).run begun = (.ok socket, bound) ∧
      (probeFrom supervision.lookup.settings supervision.lookup.transport
        socket server .none).run bound = (.ok binding, site) ∧
      binding.mapped = some mapped

/-- Each engine listens on the port from which the mapping that it is given
was measured. -/
def ListensWhereMeasured (supervision : Supervision) (log : Log σ) : Prop :=
  ∀ site mapped listener engine,
    (site, .launched mapped (.ok (listener, engine))) ∈ log →
    ∃ begun socket, (begun, .lookUp) ∈ log ∧
      supervision.Measured begun site socket mapped ∧
      listener.port = socket.port

/-- How the port of an engine's public socket goes with that of the look-up
just before it. -/
structure Listening (supervision : Supervision) (log : Log σ) : Prop where
  measured : ∀ front site mapped listener engine later,
    log = front ++ (site, .launched mapped (.ok (listener, engine))) :: later →
    ∃ before begun publication socket,
      front = before ++ [(begun, .lookUp), (site, .lookedUp (.ok mapped)),
        (site, .published publication ⟨supervision.name, mapped⟩)] ∧
      supervision.Measured begun site socket mapped ∧
      (listener.port = socket.port ↔ supervision.origin.port ≠ 0 ∨
        begun.surroundings.freePort begun.opened =
          site.surroundings.freePort site.opened)
  fixed : supervision.origin.port ≠ 0 → supervision.ListensWhereMeasured log

section

variable {supervision : Supervision} {first begun site : Host σ}
  {mapped socket : Endpoint}

theorem port_bind {requested : Endpoint} {host bound : Host σ}
    (hbind : (Host.bind requested).run host = (.ok socket, bound)) :
    socket.port =
      if requested.port = 0 then host.surroundings.freePort host.opened
      else requested.port := by
  have hstate : Host.bind requested host = (.ok socket, bound) := hbind
  unfold Host.bind at hstate
  split at hstate
  · cases hstate
  · split at hstate <;> rename_i hport <;> cases hstate
    · rw [if_pos hport]
    · rw [if_neg hport]

theorem mapped_of_mapping {binding : Binding}
    (hmapping : binding.mapping = .ok mapped) :
    binding.mapped = some mapped := by
  unfold Binding.mapping at hmapping
  split at hmapping
  · rename_i seen hseen
    cases hmapping
    exact hseen
  · cases hmapping

/-- A look-up that succeeds has measured what it found. -/
theorem exists_measured
    (hrun : supervision.lookUp.run begun = (.ok mapped, site)) :
    ∃ socket, supervision.Measured begun site socket mapped := by
  obtain ⟨binding, ended, hbinding, hconcluded⟩ :=
    Attempt.exists_of_run_bind hrun
  obtain ⟨⟨server, others⟩, resolved, hserver, hprobe⟩ :=
    Attempt.exists_of_run_bind hbinding
  obtain ⟨hresolve, rfl⟩ : ServerName.resolve begun.surroundings.addresses
      supervision.lookup.server = .ok (server, others) ∧ begun = resolved :=
    Prod.mk.inj hserver
  obtain ⟨hmapping, rfl⟩ : binding.mapping = .ok mapped ∧ ended = site :=
    Prod.mk.inj hconcluded
  dsimp only at hprobe
  rw [probe_eq_bind] at hprobe
  obtain ⟨socket, bound, hbind, hexchange⟩ :=
    Attempt.exists_of_run_bind hprobe
  exact ⟨socket, ⟨server, others, bound, binding, hresolve,
    Attempt.eq_ok_of_run_ofSystem hbind, hexchange,
    mapped_of_mapping hmapping⟩⟩

/-- Two sockets for one request have one port if it is given, and otherwise
only if the host gives the same one twice. -/
theorem port_eq_iff {requested listener : Endpoint}
    {host bound later bound' : Host σ}
    (hfirst : (Host.bind requested).run host = (.ok socket, bound))
    (hsecond : (Host.bind requested).run later = (.ok listener, bound')) :
    listener.port = socket.port ↔ requested.port ≠ 0 ∨
      host.surroundings.freePort host.opened =
        later.surroundings.freePort later.opened := by
  rw [port_bind hfirst, port_bind hsecond]
  by_cases hport : requested.port = 0
  · rw [if_pos hport, if_pos hport]
    constructor
    · exact fun hsame => Or.inr hsame.symm
    · rintro (hfixed | hsame)
      · exact absurd hport hfixed
      · exact hsame.symm
  · rw [if_neg hport, if_neg hport]
    exact iff_of_true rfl (Or.inl hport)

variable {watch : Watch σ}

theorem Recorded.measured {listener : Endpoint} {engine : Engine}
    {front later : Log σ} (hrecorded : supervision.Recorded first watch)
    (hlog : watch.log =
      front ++ (site, .launched mapped (.ok (listener, engine))) :: later) :
    ∃ before begun publication socket,
      front = before ++ [(begun, .lookUp), (site, .lookedUp (.ok mapped)),
        (site, .published publication ⟨supervision.name, mapped⟩)] ∧
      supervision.Measured begun site socket mapped ∧
      (listener.port = socket.port ↔ supervision.origin.port ≠ 0 ∨
        begun.surroundings.freePort begun.opened =
          site.surroundings.freePort site.opened) := by
  obtain ⟨before, begun, publication, hfront, hrun, hlaunch⟩ :=
    hrecorded.round hlog
  obtain ⟨socket, hmeasured⟩ := exists_measured hrun
  obtain ⟨_, _, _, _, _, hbind, _, _⟩ := hmeasured.exchanged
  obtain ⟨_, hlistener, _⟩ := run_launch_eq_ok hlaunch
  exact ⟨before, begun, publication, socket, hfront, hmeasured,
    port_eq_iff hbind hlistener⟩

theorem Course.listening (hcourse : supervision.Course first watch) :
    supervision.Listening watch.log where
  measured := fun _ _ _ _ _ _ hlog => hcourse.recorded.measured hlog
  fixed := by
    intro hfixed site mapped listener engine hentry
    obtain ⟨front, later, hlog⟩ := List.append_of_mem hentry
    obtain ⟨before, begun, publication, socket, hfront, hmeasured, hport⟩ :=
      hcourse.recorded.measured hlog
    refine ⟨begun, socket, ?_, hmeasured, hport.mpr (Or.inl hfixed)⟩
    rw [hlog, hfront]
    simp

end

/-! ## Ports that are given and ports that are not -/

/-- The first engine on a port that is given. -/
def onGivenPort : Watch Unit :=
  (fromPort 50000).firstEngine (answeringHost 2 0 0) (answeringHost 2 1 0)
    ⟨.loopback, 50000⟩

theorem listening_onGivenPort :
    (fromPort 50000).Course (answeringHost 2 0 0) onGivenPort ∧
      (fromPort 50000).Listening onGivenPort.log ∧
      ∃ engine, (answeringHost 2 1 0, .launched ⟨.loopback, 50000⟩
        (.ok (⟨.loopback, 50000⟩, engine))) ∈ onGivenPort.log := by
  have hcourse := course_firstEngine run_lookUp_givenPort
  refine ⟨hcourse, hcourse.listening, _, launched_firstEngine rfl⟩

/-- Forwards from whatever port is free. -/
def anyPortConfig : Config where
  forward :=
    { listen := some "127.0.0.1:0"
      remote := some "127.0.0.1:25565" }
  stun := { tcpServer := "198.51.100.1:3478" }

theorem plan_anyPortConfig :
    anyPortConfig.plan false = .ok (.supervise (fromPort 0)) := by
  decide +kernel

/-- The look-up and the engine each get a port of their own. -/
theorem not_listensWhereMeasured :
    ¬ ∀ (config : Config) (supervision : Supervision)
        (host first : Host Unit) (watch : Watch Unit),
      config.plan false = .ok (.supervise supervision) →
      supervision.target.isSome →
      (Plan.supervise supervision).run.run host =
        (.supervising supervision, first) →
      supervision.Course first watch →
      supervision.ListensWhereMeasured watch.log := by
  intro hall
  have hlistens := hall anyPortConfig (fromPort 0) (answeringHost 0 0 0)
    (answeringHost 2 0 0) _ plan_anyPortConfig rfl rfl
    (course_firstEngine run_lookUp_anyPort)
  obtain ⟨begun, socket, hbegun, hmeasured, hport⟩ :=
    hlistens (answeringHost 3 1 0) _ ⟨.loopback, 40003⟩ _
      (launched_firstEngine rfl)
  have hfirst : begun = answeringHost 2 0 0 := by
    rw [log_firstEngine] at hbegun
    simpa using hbegun
  subst hfirst
  obtain ⟨_, _, _, _, _, hbind, _, _⟩ := hmeasured.exchanged
  rw [port_bind hbind] at hport
  exact absurd hport (by decide)

end Supervision

end Pinhole
