import Pinhole.Forward.Launch
import Pinhole.Proofs.Stun.Framing
import Pinhole.Stun.Mapping

/-!
# Time does not go back

Whatever a host is asked to do, it is not earlier afterwards.  It is enough to
know that of the operations that let time pass; all others are put together
from them.
-/

namespace Pinhole

variable {σ α β : Type}

/-- An operation after which it is not earlier than before. -/
def Elapses (operation : StateM (Host σ) α) : Prop :=
  ∀ host, host.now ≤ (operation.run host).2.now

namespace Elapses

theorem of_now_eq {operation : StateM (Host σ) α}
    (hnow : ∀ host, (operation.run host).2.now = host.now) :
    Elapses operation :=
  fun host => Int.le_of_eq (hnow host).symm

theorem pure (result : α) :
    Elapses (Pure.pure result : StateM (Host σ) α) :=
  of_now_eq fun _ => rfl

theorem bind {operation : StateM (Host σ) α}
    {next : α → StateM (Host σ) β} (hfirst : Elapses operation)
    (hnext : ∀ result, Elapses (next result)) :
    Elapses (operation >>= next) :=
  fun host => Int.le_trans (hfirst host) (hnext _ _)

theorem get : Elapses (MonadState.get : StateM (Host σ) (Host σ)) :=
  of_now_eq fun _ => rfl

/-! ## Attempts -/

theorem attempt_bind {attempt : Attempt (Host σ) α}
    {next : α → Attempt (Host σ) β} (hfirst : Elapses attempt.run)
    (hnext : ∀ result, Elapses (next result).run) :
    Elapses (attempt >>= next).run := by
  intro host
  have hbefore := hfirst host
  cases hrun : attempt.run host with
  | mk outcome after =>
      have hafter : (attempt.run.run host).2 = after :=
        congrArg Prod.snd hrun
      rw [hafter] at hbefore
      cases outcome with
      | error error =>
          have hstop := Attempt.run_bind_of_error hrun next
          exact le_of_le_of_eq hbefore
            (congrArg (fun run => run.2.now) hstop).symm
      | ok result =>
          have hgo := Attempt.run_bind_of_ok hrun next
          exact Int.le_trans hbefore (le_of_le_of_eq (hnext result after)
            (congrArg (fun run => run.2.now) hgo).symm)

theorem always {operation : StateM (Host σ) α} (helapses : Elapses operation) :
    Elapses (Attempt.always operation).run :=
  helapses

theorem ofSystem {operation : StateM (Host σ) (Except SystemError α)}
    (helapses : Elapses operation) (describe : SystemError → StunError) :
    Elapses (Attempt.ofSystem describe operation).run := by
  refine bind helapses fun outcome => ?_
  cases outcome with
  | error cause => exact pure _
  | ok result => exact pure _

theorem attempt_pure (result : Except StunError α) :
    Elapses (ExceptT.mk (Pure.pure result) : Attempt (Host σ) α).run :=
  pure result

/-! ## Operations of a host -/

theorem bindSocket (requested : Endpoint) :
    Elapses (Host.bind requested : StateM (Host σ) _) :=
  of_now_eq (TcpExchange.now_bind requested)

theorem connect (source target : Endpoint) (limit : Duration) :
    Elapses (Host.connect source target limit : StateM (Host σ) _) :=
  fun host => (TcpExchange.now_connect source target limit host).1

theorem waitUntil (time : Instant) :
    Elapses (Host.waitUntil time : StateM (Host σ) _) :=
  fun host => Int.le_max_left host.now time

theorem send (datagram : Datagram) :
    Elapses (Host.send datagram : StateM (Host σ) _) := by
  apply of_now_eq
  intro host
  unfold Host.send
  simp only [StateT.run]
  split <;> rfl

/-! ## Looking a mapping up -/

theorem await (socket : Endpoint) (answer? : Datagram → Option Message)
    (deadline : Instant) :
    Elapses (UdpExchange.await socket answer? deadline :
      StateM (Host σ) _) := by
  refine bind get fun host => ?_
  refine bind (of_now_eq fun _ => rfl) fun _ => ?_
  cases (UdpExchange.listen answer? deadline (host.inbox socket)).1 with
  | answered time message => exact bind (waitUntil time) fun _ => pure _
  | failed time => exact bind (waitUntil time) fun _ => pure _
  | silent => exact bind (waitUntil deadline) fun _ => pure _

theorem exchange (socket server : Endpoint) (change : Change)
    (timeout : Duration) (request : Message) (attempts : Nat) :
    Elapses (UdpExchange.exchange socket server change timeout request
      attempts : Attempt (Host σ) Message).run := by
  induction attempts with
  | zero => exact attempt_pure _
  | succ attempts ih =>
      refine attempt_bind (ofSystem (send _) _) fun _ => ?_
      refine attempt_bind (of_now_eq fun _ => rfl) fun host => ?_
      refine attempt_bind (always (await _ _ _)) fun wait => ?_
      cases wait with
      | answered time message => exact attempt_pure _
      | failed time => exact ih
      | silent => exact ih

theorem sourceTowards (socket server : Endpoint) :
    Elapses (UdpExchange.sourceTowards socket server :
      Attempt (Host σ) Endpoint).run := by
  unfold UdpExchange.sourceTowards
  split
  · exact attempt_pure _
  · refine attempt_bind (of_now_eq fun _ => rfl) fun host => ?_
    split <;> exact attempt_pure _

theorem request (socket server : Endpoint) (change : Change)
    (settings : ExchangeSettings) :
    Elapses (UdpExchange.request socket server change settings :
      Attempt (Host σ) Binding).run := by
  refine attempt_bind (of_now_eq fun _ => rfl) fun request => ?_
  refine attempt_bind (exchange _ _ _ _ _ _) fun answer => ?_
  refine attempt_bind (attempt_pure _) fun _ => ?_
  exact attempt_bind (sourceTowards _ _) fun _ => attempt_pure _

theorem probe (settings : ExchangeSettings) (transport : Transport)
    (origin server : Endpoint) (change : Change) :
    Elapses (Pinhole.probe settings transport origin server change :
      Attempt (Host σ) Binding).run := by
  cases transport with
  | tcp =>
      exact fun host => (TcpExchange.now_probe origin server settings host).1
  | udp =>
      refine attempt_bind (ofSystem (bindSocket origin) _) fun socket => ?_
      exact request _ _ _ _

theorem lookup (lookup : MappingLookup) (origin : Endpoint) :
    Elapses (lookup.run origin : Attempt (Host σ) Endpoint).run := by
  refine attempt_bind ?_ fun binding => attempt_pure _
  refine attempt_bind ?_ fun _ => probe _ _ _ _ _
  exact attempt_bind (of_now_eq fun _ => rfl) fun host => attempt_pure _

/-! ## Starting an engine -/

theorem startOn_udp (mapped : Endpoint) :
    Elapses (UdpEngine.startOn mapped : StateM (Host σ) _) := by
  refine bind (bindSocket _) fun bound => ?_
  cases bound with
  | error cause => exact pure _
  | ok own =>
      refine bind ?_ fun _ => bind get fun _ => pure _
      refine bind (bindSocket _) fun pinging => ?_
      cases pinging with
      | error cause => exact pure _
      | ok socket => exact bind get fun _ => pure _

theorem startOn_tcp (mapped : Endpoint) :
    Elapses (TcpEngine.startOn mapped : StateM (Host σ) _) := by
  refine bind get fun _ => ?_
  refine bind (connect _ _ _) fun _ => ?_
  exact bind get fun _ => pure _

theorem launchOn (transport : Transport) (origin mapped : Endpoint) :
    Elapses (Engine.launchOn transport origin mapped :
      StateM (Host σ) _) := by
  refine bind (bindSocket _) fun bound => ?_
  cases bound with
  | error cause => exact pure _
  | ok listener =>
      refine bind ?_ fun _ => pure _
      cases transport with
      | tcp => exact bind (startOn_tcp mapped) fun _ => pure _
      | udp => exact bind (startOn_udp mapped) fun _ => pure _

end Elapses

end Pinhole
