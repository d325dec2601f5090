import Pinhole.Proofs.Survey.NatSteps

/-!
# The verdict about a NAT is right

A classification over UDP tells which mapping and which filter a NAT has,
whatever the network loses, delays or repeats, as long as every exchange whose
reply the filter admits gets one in time.  The order of the exchanges is what
makes this true: the filtering is measured while nothing but the primary
endpoint has been contacted.
-/

namespace Pinhole

namespace NatNetwork

variable {network : NatNetwork} {base : Surroundings State}

/-! ## The verdict -/

/-- The verdict that the NAT deserves. -/
def verdict (network : NatNetwork) (base : Surroundings State)
    (socket source : Endpoint) (opened : Nat) : NatType :=
  let mapped := network.map socket network.server.primary
  if network.map socket network.server.other ≠ mapped then .symmetric
  else
    match network.filter with
    | .addressAndPortDependent => .portRestrictedCone
    | .addressDependent => .restrictedCone
    | .endpointIndependent =>
        if mapped.port ≠ source.port then .fullCone
        else if portsPreserved
            (network.observedPorts base source.ip opened
              freshPortCount) then
          .openInternet
        else .fullCone

theorem LeavesFrom.fresh {socket peer source : Endpoint}
    (hsource : LeavesFrom base socket peer source) (port : UInt16) :
    LeavesFrom base ⟨source.ip, port⟩ peer ⟨source.ip, port⟩ := by
  rcases hsource with ⟨hip, rfl⟩ | ⟨_, ip, hroute, rfl⟩
  · exact Or.inl ⟨hip, rfl⟩
  · by_cases hip : ip = .unspecified
    · exact Or.inr ⟨hip, ip, hroute, rfl⟩
    · exact Or.inl ⟨hip, rfl⟩

section Judgement

variable {host : Host State} {socket source mapped : Endpoint}
  {first second : Binding}

/-- A mapping that everybody reaches and that kept its port is judged by new
ports. -/
theorem Sound.run_judge_of_reached (hsound : network.Sound base host)
    (hdistinct : Distinct base (host.drawn + freshPortCount))
    (hsource : LeavesFrom base socket network.server.primary source)
    (hfirst : first.source = source) (hsecond : second.mapped = some mapped)
    (hport : mapped.port = source.port) (settings : ExchangeSettings) :
    ∃ outcome after later,
      (((UdpLine.ofSocket socket settings).prober
            network.server.primary).judge first second mapped).run
          (host, some ⟨true, none⟩) =
          (outcome, after, some ⟨true, none⟩) ∧
        after.peers.sent = host.peers.sent ++ later ∧
        (network.Responsive settings after.peers.sent →
          base.Binds ⟨source.ip, 0⟩ →
            outcome =
              .ok (if portsPreserved
                  (network.observedPorts base source.ip host.opened
                    freshPortCount) then .openInternet
                else .fullCone, mapped)) := by
  have hinbound :=
    UdpLine.run_inbound (UdpLine.ofSocket socket settings)
      network.server.primary host ⟨true, none⟩ first
  have hkept : mapped.port = first.source.port := by
    rw [hfirst, hport]
  have hjudge := Prober.run_judge_freshPorts hsecond hinbound hkept
  rw [hfirst] at hjudge
  obtain ⟨outcome, after, later, hrun, hsent, hcases⟩ :=
    hsound.run_freshPorts hdistinct hsource.fresh socket settings
      (some ⟨true, none⟩)
  rcases hcases with rfl | ⟨error, rfl, hunresponsive⟩
  · refine ⟨_, after, later, ?_, hsent, fun _ _ => rfl⟩
    rw [hjudge, Attempt.run_bind_of_ok hrun]
    split <;> rfl
  · refine ⟨.error error, after, later, ?_, hsent, ?_⟩
    · rw [hjudge, Attempt.run_bind_of_error hrun]
    · intro hresponsive hbinds
      exact absurd hresponsive (hunresponsive hbinds)

/-- What is judged once the second endpoint has been contacted. -/
theorem Sound.run_judge (hsound : network.Sound base host)
    (hdistinct : Distinct base (host.drawn + freshPortCount))
    (hsource : LeavesFrom base socket network.server.primary source)
    (hfresh : network.filter = .endpointIndependent →
      (network.map socket network.server.primary).port = source.port →
        base.Binds ⟨source.ip, 0⟩)
    (hfirst : first.source = source)
    (hsecond :
      second.mapped = some (network.map socket network.server.other))
    (settings : ExchangeSettings) {filtering : Filtering}
    (hshape : filtering = ⟨true, none⟩ ∨
      ∃ port, filtering = ⟨false, some port⟩) :
    ∃ outcome after later,
      (((UdpLine.ofSocket socket settings).prober
            network.server.primary).judge first second
          (network.map socket network.server.primary)).run
          (host, some filtering) =
          (outcome, after, some filtering) ∧
        after.peers.sent = host.peers.sent ++ later ∧
        (network.Responsive settings after.peers.sent →
          filtering = network.filtering →
            outcome =
              .ok (network.verdict base socket source host.opened,
                network.map socket network.server.primary)) := by
  by_cases hmapped :
      network.map socket network.server.other =
        network.map socket network.server.primary
  · have hsame :
        second.mapped =
          some (network.map socket network.server.primary) := by
      rw [hsecond, hmapped]
    rcases hshape with rfl | ⟨port, rfl⟩
    · by_cases hport :
          (network.map socket network.server.primary).port = source.port
      · obtain ⟨outcome, after, later, hrun, hsent, houtcome⟩ :=
          hsound.run_judge_of_reached hdistinct hsource hfirst hsame hport
            settings
        refine ⟨outcome, after, later, hrun, hsent, ?_⟩
        intro hresponsive hfiltering
        have hfilter := filtering_eq_reached.mp hfiltering.symm
        rw [houtcome hresponsive (hfresh hfilter hport)]
        simp only [verdict, hmapped, hfilter, hport, ne_eq, not_true,
          if_false]
      · have hinbound :=
          UdpLine.run_inbound (UdpLine.ofSocket socket settings)
            network.server.primary host ⟨true, none⟩ first
        refine
          ⟨_, host, [],
            Prober.run_judge_fullCone hsame hinbound (by rwa [hfirst]),
            (List.append_nil _).symm, ?_⟩
        intro _ hfiltering
        have hfilter := filtering_eq_reached.mp hfiltering.symm
        simp only [verdict, hmapped, hfilter, hport, ne_eq, not_true,
          not_false_iff, if_true, if_false]
    · have hinbound :=
        UdpLine.run_inbound (UdpLine.ofSocket socket settings)
          network.server.primary host ⟨false, some port⟩ first
      have hwarmedUp :=
        UdpLine.run_inboundAfterWarmUp (UdpLine.ofSocket socket settings)
          network.server.primary host first false port
      refine
        ⟨_, host, [],
          Prober.run_judge_restricted hsame hinbound hwarmedUp,
          (List.append_nil _).symm, ?_⟩
      intro _ hfiltering
      cases hfilter : network.filter with
      | endpointIndependent =>
          simp [filtering, hfilter] at hfiltering
      | addressDependent =>
          have hport : port = true := by
            simpa [filtering, hfilter] using hfiltering
          simp [verdict, hmapped, hfilter, hport]
      | addressAndPortDependent =>
          have hport : port = false := by
            simpa [filtering, hfilter] using hfiltering
          simp [verdict, hmapped, hfilter, hport]
  · have hother :
        second.mapped ≠
          some (network.map socket network.server.primary) := by
      rw [hsecond]
      simpa using hmapped
    refine
      ⟨_, host, [], Prober.run_judge_symmetric hother,
        (List.append_nil _).symm, ?_⟩
    intro _ _
    rw [verdict, if_pos hmapped]

end Judgement

/-- What is left of a classification once the primary endpoint has told the
mapping, and nothing else has been contacted. -/
theorem Sound.run_comparison {host : Host State}
    (hsound : network.Sound base host)
    (honly : ∀ datagram ∈ host.peers.sent,
      datagram.receiver = network.server.primary)
    (hdistinct : Distinct base (host.drawn + (3 + freshPortCount)))
    {socket source : Endpoint}
    (hsource : LeavesFrom base socket network.server.primary source)
    (hother : ∃ source,
      LeavesFrom base socket network.server.other source)
    (hfresh : network.filter = .endpointIndependent →
      (network.map socket network.server.primary).port = source.port →
        base.Binds ⟨source.ip, 0⟩)
    {first : Binding} (hfirst : first.source = source)
    (settings : ExchangeSettings) :
    let prober :=
      (UdpLine.ofSocket socket settings).prober network.server.primary
    ∃ outcome after known,
      (do
          let second ← prober.secondary first network.server.other
          prober.judge first second
            (network.map socket network.server.primary) :
          Attempt (Host State × Option Filtering)
            (NatType × Endpoint)).run (host, none) =
          (outcome, after, known) ∧
        (network.Responsive settings after.peers.sent →
          outcome =
            .ok (network.verdict base socket source host.opened,
              network.map socket network.server.primary)) := by
  intro prober
  obtain ⟨filtering, asked, _, hmeasure, hmeasuring, hshape, hright⟩ :=
    hsound.run_measureFiltering (hdistinct.of_le (by omega)) hsource honly
      settings
  have haskedDrawn := hmeasuring.drawn_le
  obtain ⟨elsewhere, hleaves⟩ := hother
  obtain ⟨compared?, compared, _, hcompare, hcomparing, _, hend⟩ :=
    hmeasuring.sound.run_plain (hdistinct.of_le (by omega)) hleaves settings
  have hcomparedDrawn := hcomparing.drawn_le
  have hsecondary :
      (prober.secondary first network.server.other).run (host, none) =
        (compared?, compared, some filtering) := by
    rw [UdpLine.run_secondary hmeasure]
    simp only [UdpLine.ofSocket, hcompare]
  rcases hend with ⟨further, rfl, _⟩ | ⟨error, rfl, hunresponsive⟩
  · let second : Binding :=
      ⟨elsewhere, network.server.other,
        some (network.map socket network.server.other), further⟩
    have hsecond :
        second.mapped = some (network.map socket network.server.other) := rfl
    obtain ⟨outcome, after, later, hrun, hsent, hjudged⟩ :=
      hcomparing.sound.run_judge (hdistinct.of_le (by omega)) hsource hfresh
        hfirst hsecond settings hshape
    refine ⟨outcome, after, some filtering, ?_, ?_⟩
    · rw [Attempt.run_bind_of_ok hsecondary]
      exact hrun
    · intro hresponsive
      have hasked : network.Responsive settings asked.peers.sent := by
        rw [hsent, hcomparing.sent_eq, List.append_assoc] at hresponsive
        exact hresponsive.of_append
      have hopened : compared.opened = host.opened := by
        rw [hcomparing.opened_eq, hmeasuring.opened_eq]
      rw [hjudged hresponsive (hright hasked), hopened]
  · refine ⟨.error error, compared, some filtering, ?_, ?_⟩
    · rw [Attempt.run_bind_of_error hsecondary]
    · intro hresponsive
      exact absurd hresponsive hunresponsive

/-- A classification from a socket that was not used before. -/
theorem Sound.run_verdict {host : Host State}
    (hsound : network.Sound base host) (hunused : host.peers.sent = [])
    (hdistinct : Distinct base (host.drawn + (4 + freshPortCount)))
    {socket source : Endpoint}
    (hsource : LeavesFrom base socket network.server.primary source)
    (hother : ∃ source,
      LeavesFrom base socket network.server.other source)
    (hmapped : network.map socket network.server.primary ≠ source)
    (hfresh : network.filter = .endpointIndependent →
      (network.map socket network.server.primary).port = source.port →
        base.Binds ⟨source.ip, 0⟩)
    (settings : ExchangeSettings) :
    ∃ outcome after known,
      ((UdpLine.ofSocket socket settings).prober
          network.server.primary).verdict.run (host, none) =
          (outcome, after, known) ∧
        (network.Responsive settings after.peers.sent →
          outcome =
            .ok (network.verdict base socket source host.opened,
              network.map socket network.server.primary)) := by
  obtain ⟨told?, told, sent, hrequest, hadvances, honly, hend⟩ :=
    hsound.run_plain (hdistinct.of_le (by omega)) hsource settings
  have hprimary :
      ((UdpLine.ofSocket socket settings).prober
          network.server.primary).primary.run (host, none) =
        (told?, told, none) :=
    UdpLine.run_lift hrequest none
  rcases hend with ⟨advertised, rfl, hadvertised⟩ | ⟨error, rfl, hunresponsive⟩
  · obtain rfl := hadvertised rfl
    let first : Binding :=
      ⟨source, network.server.primary,
        some (network.map socket network.server.primary),
        some network.server.other⟩
    have hother? : first.other = some network.server.other := rfl
    have hendpoint :=
      UdpLine.secondaryEndpoint_of_advertised
        (UdpLine.ofSocket socket settings) network.server.primary told none
        hother? network.server.ip_ne.symm
    have hfirst : first.source = source := rfl
    have htold : ∀ datagram ∈ told.peers.sent,
        datagram.receiver = network.server.primary := by
      rw [hadvances.sent_eq, hunused, List.nil_append]
      exact honly
    have hdrawn := hadvances.drawn_le
    obtain ⟨outcome, after, known, hrun, hright⟩ :=
      hadvances.sound.run_comparison htold (hdistinct.of_le (by omega))
        hsource hother hfresh hfirst settings
    refine ⟨outcome, after, known, ?_, ?_⟩
    · rw [Prober.run_verdict_of_endpoint hprimary rfl hmapped.symm hendpoint]
      exact hrun
    · rw [← hadvances.opened_eq]
      exact hright
  · refine
      ⟨.error error, told, none,
        Prober.run_verdict_of_primary_error hprimary, ?_⟩
    intro hresponsive
    exact absurd hresponsive hunresponsive

/-- A host that has opened some sockets and sent nothing. -/
def unusedHost (network : NatNetwork) (base : Surroundings State)
    (opened : Nat) : Host State :=
  { Host.start (network.surroundings base) ⟨[], []⟩ with opened := opened }

/-- The run of a classification from a bound socket. -/
def survey (network : NatNetwork) (base : Surroundings State)
    (settings : ExchangeSettings) (socket : Endpoint) (opened : Nat) :
    Classification × Host State × Option Filtering :=
  (classify .udp
      ((UdpLine.ofSocket socket settings).prober network.server.primary)).run
    (network.unusedHost base opened, none)

/-- What a classification comes to once its socket is bound. -/
theorem run_classifyUdpWith (network : NatNetwork)
    {base : Surroundings State} {origin : Endpoint}
    (hbind : base.Binds origin) (settings : ExchangeSettings) :
    let run :=
      if origin.port = 0 then
        network.survey base settings ⟨origin.ip, base.freePort 0⟩ 1
      else network.survey base settings origin 0
    (classifyUdpWith settings origin network.server.primary).run
        (network.unusedHost base 0) = (run.1, run.2.1) := by
  have hbound : Host.bindOrFail origin (network.unusedHost base 0) = _ :=
    (network.sound_start base).run_bindOrFail (hbind _ _)
  simp only [classifyUdpWith, bind, StateT.run, StateT.bind, ExceptT.run,
    hbound]
  by_cases hport : origin.port = 0
  · rw [if_pos hport, if_pos hport]
    rfl
  · rw [if_neg hport, if_neg hport]
    rfl

/-- The verdict is right whenever the network is responsive: no loss, delay or
repetition makes the NAT look like another one. -/
theorem survey_eq_verdict (network : NatNetwork) (base : Surroundings State)
    (settings : ExchangeSettings) {socket source : Endpoint} (opened : Nat)
    (hdistinct : Distinct base (4 + freshPortCount))
    (hsource : LeavesFrom base socket network.server.primary source)
    (hother : ∃ source,
      LeavesFrom base socket network.server.other source)
    (hmapped : network.map socket network.server.primary ≠ source)
    (hfresh : network.filter = .endpointIndependent →
      (network.map socket network.server.primary).port = source.port →
        base.Binds ⟨source.ip, 0⟩)
    (hresponsive : network.Responsive settings
      (network.survey base settings socket opened).2.1.peers.sent) :
    (network.survey base settings socket opened).1 =
      ⟨.udp, network.verdict base socket source opened,
        some (network.map socket network.server.primary), none⟩ := by
  have hsound : network.Sound base (network.unusedHost base opened) :=
    (network.sound_start base).opened opened
  have hcount :
      Distinct base
        ((network.unusedHost base opened).drawn + (4 + freshPortCount)) := by
    simpa [unusedHost, Host.start] using hdistinct
  obtain ⟨outcome, after, known, hrun, hverdict⟩ :=
    hsound.run_verdict rfl hcount hsource hother hmapped hfresh settings
  cases outcome with
  | ok judged =>
      have hsurvey := Prober.run_classify_of_ok hrun .udp
      rw [survey, hsurvey] at hresponsive
      have hright := hverdict hresponsive
      rw [Except.ok.injEq] at hright
      rw [survey, hsurvey, hright]
      rfl
  | error error =>
      have hsurvey := Prober.run_classify_of_error hrun .udp
      rw [survey, hsurvey] at hresponsive
      cases hverdict hresponsive

/-- What a server at 192.0.2.1 and 192.0.2.2 answers a client that it sees as
203.0.113.7, port 40000. -/
def sampleReply (transaction : TransactionId) : Message :=
  ⟨Message.bindingResponse, transaction,
    [⟨Attribute.mappedAddress, [0, 1, 0x9C, 0x40, 203, 0, 113, 7]⟩,
      ⟨Attribute.otherAddress, [0, 1, 0x0D, 0x97, 192, 0, 2, 2]⟩]⟩

/-- A NAT that filters by address; the way to the server loses the first sending
of each request, and the reply to any other comes twice. -/
def lossy : NatNetwork where
  server :=
    ⟨⟨⟨192, 0, 2, 1⟩, 3478⟩, ⟨⟨192, 0, 2, 2⟩, 3479⟩, by decide, by decide⟩
  filter := .addressDependent
  map := fun _ _ => ⟨⟨203, 0, 113, 7⟩, 40000⟩
  replies := fun datagram count =>
    let transaction :=
      match Message.decode datagram.bytes with
      | .ok request => request.transaction
      | .error _ => .ofFresh (Vector.replicate 12 0)
    if count = 0 then []
    else [(20, sampleReply transaction), (2000, sampleReply transaction)]
  answers := by
    intro datagram count reply hreply request hdecode
    have hsame : reply.2 = sampleReply request.transaction := by
      simp only [hdecode] at hreply
      split at hreply
      · cases hreply
      · rcases List.mem_pair.mp hreply with rfl | rfl <;> rfl
    rw [hsame]
    exact ⟨rfl, rfl, rfl, _, rfl, fun _ => rfl⟩
  length_reply := by
    intro datagram count reply hreply
    have hlength (transaction : TransactionId) :
        (sampleReply transaction).encode.length = 44 := by
      rw [Message.encode_eq_frame, Message.length_frame,
        Message.length_flatMap_encode]
      rfl
    dsimp only at hreply
    split at hreply
    · cases hreply
    · rcases List.mem_pair.mp hreply with rfl | rfl <;>
        exact (hlength _).trans_le (by decide)

/-- A host on which any port can be bound. -/
def sampleBase : Surroundings State where
  bindFault? := fun _ _ _ => none
  freePort := fun count => UInt16.ofNat (32768 + count)
  transaction := fun count => Vector.replicate 12 (UInt8.ofNat count)
  token := fun _ => Vector.replicate 16 0
  addresses := fun _ => .ok []
  route := fun _ => .ok ⟨10, 0, 0, 2⟩
  deliver := fun state _ _ => .ok ([], state)
  connect := fun state now _ _ => (.failed now .networkUnreachable, state)
  converse := fun state _ _ _ _ => (.silence, state)
  visits := fun state _ _ _ _ => ([], state)

theorem survey_eq_verdict_lossy :
    (lossy.survey sampleBase ⟨500, 1⟩ ⟨.unspecified, 50000⟩ 0).1 =
      ⟨.udp, .restrictedCone, some ⟨⟨203, 0, 113, 7⟩, 40000⟩, none⟩ := by
  have hdistinct : Distinct sampleBase (4 + freshPortCount) := by
    have hall : ∀ second < 7, ∀ first < second,
        sampleBase.transaction first ≠ sampleBase.transaction second := by
      decide
    intro first second horder hsecond
    exact hall second hsecond first horder
  have hleaves (peer : Endpoint) :
      LeavesFrom sampleBase ⟨.unspecified, 50000⟩ peer
        ⟨⟨10, 0, 0, 2⟩, 50000⟩ :=
    Or.inr ⟨rfl, _, rfl, rfl⟩
  have hprompt (datagram : Datagram) : lossy.Prompt ⟨500, 1⟩ datagram := by
    refine ⟨1, by decide, _, List.mem_cons_self, ?_⟩
    change 1 * 500 + 20 < 2 * 500
    decide
  exact
    survey_eq_verdict lossy sampleBase ⟨500, 1⟩ 0 hdistinct (hleaves _)
      ⟨_, hleaves _⟩ (by decide) (fun _ _ _ _ => rfl)
      (fun _ datagram _ _ _ => hprompt datagram)

end NatNetwork

end Pinhole
