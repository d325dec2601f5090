import Pinhole.Proofs.Stun.Traffic
import Pinhole.Proofs.Survey.LineRecord

/-!
# The traffic of a line's exchanges

The line through a socket of a host makes its exchanges from that socket, and
those that are to be made afresh from a socket bound for each of them.  All
that the host sends in some exchanges is what these sockets send.
-/

namespace Pinhole

namespace UdpLine

variable {σ : Type}

namespace Call

def server : Call → Endpoint
  | shared server _ => server
  | afresh _ server => server

def change : Call → Change
  | shared _ change => change
  | afresh _ _ => .none

end Call

namespace Exchange

/-- The socket that an exchange is made from, and the host at its start.  There
is none if no new socket can be bound. -/
def start? (socket : Endpoint) (exchange : Exchange (Host σ)) :
    Option (Endpoint × Host σ) :=
  match exchange.call with
  | .shared _ _ => some (socket, exchange.before)
  | .afresh ip _ =>
      match Host.bind ⟨ip, 0⟩ exchange.before with
      | (.ok fresh, bound) => some (fresh, bound)
      | (.error _, _) => none

/-- What is asked in an exchange. -/
def inquiry? (socket : Endpoint) (settings : ExchangeSettings)
    (exchange : Exchange (Host σ)) : Option Inquiry :=
  (exchange.start? socket).map fun (origin, host) =>
    .next origin exchange.call.server exchange.call.change settings host

/-- What the socket of an exchange sends and receives. -/
def traffic (socket : Endpoint) (settings : ExchangeSettings)
    (exchange : Exchange (Host σ)) : List Traffic :=
  match exchange.start? socket with
  | some (origin, host) =>
      UdpExchange.requestTraffic origin exchange.call.server
        exchange.call.change settings host
  | none => []

def sendings (socket : Endpoint) (settings : ExchangeSettings)
    (exchange : Exchange (Host σ)) : List (Instant × Datagram) :=
  (exchange.traffic socket settings).filterMap Traffic.sending?

/-- The traffic of an exchange led to its outcome. -/
structure Explained (socket : Endpoint) (settings : ExchangeSettings)
    (exchange : Exchange (Host σ)) (inquiry : Inquiry)
    (heard : Except StunError Message) : Prop where
  asked : exchange.inquiry? socket settings = some inquiry
  course :
    inquiry.Course (settings.retries.toNat + 1)
      (exchange.traffic socket settings) heard
  answered : ∀ binding, exchange.outcome = .ok binding →
    ∃ message, heard = .ok message ∧ message.type = Message.bindingResponse
  silent : ∀ server, exchange.outcome = .error (.timeout server) →
    heard = .error (.timeout server)

/-- An exchange came about in a run of the line through a socket. -/
inductive Made (socket : Endpoint) (settings : ExchangeSettings)
    (exchange : Exchange (Host σ)) : Prop
  | unbound (hstart : exchange.start? socket = none) {requested : Endpoint}
      {cause : SystemError}
      (houtcome : exchange.outcome = .error (.bind requested cause))
  | bound {inquiry : Inquiry} {heard : Except StunError Message}
      (hexplained : exchange.Explained socket settings inquiry heard)

end Exchange

section Made

variable {socket : Endpoint} {settings : ExchangeSettings}
  {host after : Host σ}

theorem made_of_request {exchange : Exchange (Host σ)} {origin : Endpoint}
    {bound : Host σ}
    (hstart : exchange.start? socket = some (origin, bound))
    (hsent : bound.sent = exchange.before.sent)
    (hrun :
      (UdpExchange.request origin exchange.call.server exchange.call.change
        settings).run bound = (exchange.outcome, after)) :
    after.sent = exchange.before.sent ++ exchange.sendings socket settings ∧
      exchange.Made socket settings := by
  obtain ⟨outcome, last, heard, hrequest, hgrows, hcourse, hok, htimeout⟩ :=
    UdpExchange.course_request origin exchange.call.server
      exchange.call.change settings bound
  cases hrequest.symm.trans hrun
  have htraffic : exchange.traffic socket settings =
      UdpExchange.requestTraffic origin exchange.call.server
        exchange.call.change settings bound := by
    rw [Exchange.traffic, hstart]
  have hinquiry : exchange.inquiry? socket settings =
      some (.next origin exchange.call.server exchange.call.change settings
        bound) := by
    rw [Exchange.inquiry?, hstart]
    rfl
  rw [← htraffic] at hcourse
  refine ⟨?_, .bound ⟨hinquiry, hcourse, hok, htimeout⟩⟩
  rw [hgrows, hsent, Exchange.sendings, htraffic]

/-- Binding a socket sends nothing. -/
theorem sent_of_bind {requested : Endpoint}
    {outcome : Except SystemError Endpoint}
    (hbind : Host.bind requested host = (outcome, after)) :
    after.sent = host.sent := by
  have hafter : after = (Host.bind requested host).2 :=
    (congrArg Prod.snd hbind).symm
  rw [hafter, Host.bind]
  cases host.bindFault? requested with
  | some cause => rfl
  | none =>
      by_cases hport : requested.port = 0
      · rw [if_pos hport]
      · rw [if_neg hport]

/-- Carrying out a call sends what its exchange tells. -/
theorem made_of_perform {call : Call} {outcome : Except StunError Binding}
    (hrun :
      ((ofSocket socket settings).perform call).run host =
        (outcome, after)) :
    after.sent =
        host.sent ++
          Exchange.sendings socket settings ⟨call, host, outcome⟩ ∧
      Exchange.Made socket settings ⟨call, host, outcome⟩ := by
  cases call with
  | shared server change =>
      have hstart :
          Exchange.start? socket ⟨.shared server change, host, outcome⟩ =
            some (socket, host) := rfl
      exact made_of_request hstart rfl hrun
  | afresh ip server =>
      let exchange : Exchange (Host σ) := ⟨.afresh ip server, host, outcome⟩
      cases hbind : Host.bind ⟨ip, 0⟩ host with
      | mk given bound =>
          cases given with
          | error cause =>
              have hstart : exchange.start? socket = none := by
                simp only [Exchange.start?, exchange, hbind]
              have hfault :=
                Attempt.run_ofSystem_of_error hbind (StunError.bind ⟨ip, 0⟩)
              cases (Attempt.run_bind_of_error hfault _).symm.trans hrun
              refine ⟨?_, .unbound hstart rfl⟩
              rw [sent_of_bind hbind, Exchange.sendings, Exchange.traffic,
                hstart]
              exact (List.append_nil _).symm
          | ok fresh =>
              have hstart : exchange.start? socket = some (fresh, bound) := by
                simp only [Exchange.start?, exchange, hbind]
              have hfresh :=
                Attempt.run_ofSystem_of_ok hbind (StunError.bind ⟨ip, 0⟩)
              exact made_of_request hstart (sent_of_bind hbind)
                ((Attempt.run_bind_of_ok hfresh _).symm.trans hrun)

namespace Exchange.Made

variable {exchange : Exchange (Host σ)}

theorem length_sendings_le (hmade : exchange.Made socket settings) :
    (exchange.sendings socket settings).length ≤
      settings.retries.toNat + 1 := by
  cases hmade with
  | unbound hstart houtcome =>
      rw [sendings, traffic, hstart]
      exact Nat.zero_le _
  | bound hexplained => exact hexplained.course.length_sendings_le

/-- All that is sent is one request, from the socket of the exchange. -/
theorem addressed (hmade : exchange.Made socket settings)
    {time : Instant} {datagram : Datagram}
    (hmem : (time, datagram) ∈ exchange.sendings socket settings) :
    ∃ origin bound transaction,
      exchange.start? socket = some (origin, bound) ∧
        datagram = ⟨origin, exchange.call.server,
          (Message.request transaction exchange.call.change).encode⟩ := by
  cases hmade with
  | unbound hstart houtcome =>
      rw [sendings, traffic, hstart] at hmem
      cases hmem
  | bound hexplained =>
      obtain rfl := hexplained.course.datagram_eq hmem
      obtain ⟨⟨origin, bound⟩, hstart, rfl⟩ :=
        Option.map_eq_some_iff.mp hexplained.asked
      exact ⟨origin, bound, _, hstart, rfl⟩

end Exchange.Made

theorem length_flatMap_sendings_le {exchanges : List (Exchange (Host σ))}
    (hmade : ∀ exchange ∈ exchanges, exchange.Made socket settings) :
    (exchanges.flatMap (Exchange.sendings socket settings)).length ≤
      exchanges.length * (settings.retries.toNat + 1) := by
  induction exchanges with
  | nil => exact Nat.zero_le _
  | cons exchange later ih =>
      obtain ⟨hfirst, hlater⟩ := List.forall_mem_cons.mp hmade
      rw [List.flatMap_cons, List.length_append, List.length_cons,
        Nat.succ_mul, Nat.add_comm]
      exact Nat.add_le_add (ih hlater) hfirst.length_sendings_le

/-- All that is sent in some exchanges, each of which is made from a socket. -/
theorem Chain.made {exchanges : List (Exchange (Host σ))}
    (hchain : (ofSocket socket settings).Chain host exchanges after) :
    after.sent =
        host.sent ++
          exchanges.flatMap (Exchange.sendings socket settings) ∧
      ∀ exchange ∈ exchanges, exchange.Made socket settings := by
  induction hchain with
  | done state =>
      exact ⟨(List.append_nil state.sent).symm, List.forall_mem_nil _⟩
  | next hcall hlater ih =>
      obtain ⟨hsent, hmade⟩ := made_of_perform hcall
      obtain ⟨hrest, hothers⟩ := ih
      refine ⟨?_, List.forall_mem_cons.mpr ⟨hmade, hothers⟩⟩
      rw [hrest, hsent, List.append_assoc, List.flatMap_cons]

end Made

end UdpLine

end Pinhole
