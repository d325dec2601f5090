import Pinhole.Proofs.Stun.Framing
import Pinhole.Proofs.Survey.Verdict
import Pinhole.Survey.Tcp

/-!
# Coming back to oneself

A host that dials its own mapping knows its connection by a token.  The test
comes to whether the first connection it accepts brings the token in time, and
to nothing else: a foreign connection, one that is too short and one that is
late are all as good as none.

A classification over TCP that finds one mapping towards both of its servers
tests twice, the second time after one connection to the mapping.  The token
then tells the cones apart.
-/

namespace Pinhole

namespace Incoming

theorem exactly?_eq_some_iff {count : Nat} {bytes found : Bytes}
    (hfound : found.length = count) :
    exactly? count bytes = some found ↔ bytes.take count = found := by
  unfold exactly?
  constructor
  · intro hsome
    split at hsome
    · exact Option.some.inj hsome
    · cases hsome
  · rintro rfl
    rw [if_pos hfound]

theorem persistent_exactly? (count : Nat) : Persistent (exactly? count) := by
  intro got more result hgot
  unfold exactly? at hgot ⊢
  by_cases hlength : (got.take count).length = count
  · have henough : count ≤ got.length := by
      rw [← hlength]
      exact List.length_take_le' count got
    rw [if_pos hlength] at hgot
    rw [List.take_append_of_le_length henough, if_pos hlength, hgot]
  · rw [if_neg hlength] at hgot
    cases hgot

end Incoming

namespace Host

variable {σ : Type} {origin : Endpoint} {host : Host σ}

theorem bind_of_bindable
    (hbindable : host.bindFault? origin = none) :
    ∃ socket opened,
      bind origin host = (.ok socket, { host with opened := opened }) := by
  simp only [bind, hbindable]
  by_cases hport : origin.port = 0
  · rw [if_pos hport]
    exact ⟨_, _, rfl⟩
  · rw [if_neg hport]
    exact ⟨_, host.opened, rfl⟩

theorem bind_of_bindFault {cause : SystemError}
    (hfault : host.bindFault? origin = some cause) :
    bind origin host = (.error cause, host) := by
  simp only [bind, hfault]

/-- Whatever comes of it, dialling changes only what the peers remember, and
the time. -/
theorem exists_connect_eq (socket target : Endpoint) (limit : Duration)
    (host : Host σ) :
    ∃ now, (connect socket target limit host).2 =
      { host with
        peers :=
          (host.surroundings.connect host.peers host.now socket target).2
        now := now } := by
  unfold connect
  dsimp only
  split
  · split <;> exact ⟨_, rfl⟩
  · split <;> exact ⟨_, rfl⟩
  · exact ⟨_, rfl⟩

end Host

namespace Loopback

/-- The token gets through: the first connection is accepted before the
deadline, and the first of its bytes that arrive before then are the token. -/
def GetsThrough (token : Bytes) (deadline : Instant)
    (visits : List Visit) : Prop :=
  ∃ first later, visits = first :: later ∧ first.time < deadline ∧
    (first.incoming.arrived deadline).take tokenLength = token

section Receiving

variable {deadline : Instant} {visit : Visit}

theorem receive_of_complete {found : Bytes} (htime : visit.time < deadline)
    (hfound :
      Incoming.exactly? tokenLength (visit.incoming.arrived deadline) =
        some found) (later : List Visit) :
    ∃ time, time ≤ deadline ∧
      receive deadline (visit :: later) = (time, some found) := by
  obtain ⟨time, hbefore, hread⟩ :=
    Incoming.read_of_complete (Incoming.persistent_exactly? tokenLength) rfl
      hfound
  refine ⟨max visit.time time,
    max_le (Int.le_of_lt htime) (Int.le_of_lt hbefore), ?_⟩
  rw [receive, if_pos htime, hread]

theorem receive_of_incomplete (htime : visit.time < deadline)
    (hnone :
      Incoming.exactly? tokenLength (visit.incoming.arrived deadline) =
        none) (later : List Visit) :
    ∃ time, time ≤ deadline ∧
      receive deadline (visit :: later) = (time, none) := by
  have hread :=
    Incoming.read_of_incomplete (Incoming.persistent_exactly? tokenLength)
      hnone
  rw [receive, if_pos htime, hread]
  cases hended : visit.incoming.ended? deadline with
  | none => exact ⟨deadline, Int.le_refl deadline, rfl⟩
  | some ending =>
      have hbefore := Incoming.lt_of_ended?_eq_some hended
      exact ⟨max visit.time ending.1,
        max_le (Int.le_of_lt htime) (Int.le_of_lt hbefore), rfl⟩

/-- What is received in time is the token just if the token gets through. -/
theorem exists_receive_eq {token : Bytes} (htoken : token.length = tokenLength)
    (deadline : Instant) (visits : List Visit) :
    ∃ time received, time ≤ deadline ∧
      receive deadline visits = (time, received) ∧
      (received = some token ↔ GetsThrough token deadline visits) := by
  cases visits with
  | nil =>
      exact ⟨deadline, none, Int.le_refl deadline, rfl, by simp [GetsThrough]⟩
  | cons visit later =>
      by_cases htime : visit.time < deadline
      · have hthrough :
            GetsThrough token deadline (visit :: later) ↔
              Incoming.exactly? tokenLength
                  (visit.incoming.arrived deadline) = some token := by
          rw [Incoming.exactly?_eq_some_iff htoken]
          simp [GetsThrough, htime]
        rw [hthrough]
        cases hfound :
            Incoming.exactly? tokenLength
              (visit.incoming.arrived deadline) with
        | some found =>
            obtain ⟨time, hle, hreceive⟩ :=
              receive_of_complete htime hfound later
            exact ⟨time, some found, hle, hreceive, Iff.rfl⟩
        | none =>
            obtain ⟨time, hle, hreceive⟩ :=
              receive_of_incomplete htime hfound later
            exact ⟨time, none, hle, hreceive, Iff.rfl⟩
      · refine ⟨deadline, none, Int.le_refl deadline, ?_, ?_⟩
        · rw [receive, if_neg htime]
        · simp [GetsThrough, htime]

end Receiving

/-! ## A test -/

section Testing

variable {σ : Type}

/-- Whether the token gets through to a host that tests a mapping. -/
def TokenArrives (origin mapped : Endpoint) (wait : Duration)
    (host : Host σ) : Prop :=
  let token := (host.surroundings.token host.drawn).toList
  ∃ listener, (Host.bind origin host).1 = .ok listener ∧
    GetsThrough token (host.now + wait)
      (host.surroundings.visits host.peers host.now listener mapped token).1

/-- What a test comes to, and how long it takes. -/
structure Tells (origin mapped : Endpoint) (wait : Duration) (host : Host σ)
    (outcome : Except StunError Bool) (after : Host σ) : Prop where
  refused : ∀ cause, host.bindFault? origin = some cause →
    outcome = .error (.bind origin cause)
  told : host.bindFault? origin = none →
    ∃ reached, outcome = .ok reached ∧
      (reached = true ↔ TokenArrives origin mapped wait host)
  begins : host.now ≤ after.now
  ends : after.now ≤ host.now + wait
  surroundings : after.surroundings = host.surroundings

variable {origin : Endpoint} {host : Host σ}

theorem tokenArrives_iff {listener : Endpoint}
    (hbind : (Host.bind origin host).1 = .ok listener) (mapped : Endpoint)
    (wait : Duration) :
    TokenArrives origin mapped wait host ↔
      let token := (host.surroundings.token host.drawn).toList
      GetsThrough token (host.now + wait)
        (host.surroundings.visits host.peers host.now listener mapped
          token).1 := by
  constructor
  · rintro ⟨socket, hsocket, hthrough⟩
    obtain rfl : listener = socket := Except.ok.inj (hbind.symm.trans hsocket)
    exact hthrough
  · exact fun hthrough => ⟨listener, hbind, hthrough⟩

/-- A test that cannot listen fails at once. -/
theorem run_test_of_bindFault {cause : SystemError}
    (hfault : host.bindFault? origin = some cause)
    (mapped : Endpoint) (wait : Duration) :
    (test origin mapped wait).run host =
      (.error (.bind origin cause), host) := by
  have hfailed : (Host.bindOrFail origin).run host =
      (.error (.bind origin cause), host) :=
    Attempt.run_ofSystem_of_error (Host.bind_of_bindFault hfault)
      (StunError.bind origin)
  rw [test, Attempt.run_bind_of_error hfailed]

/-- A test that listens goes by what its listener receives. -/
theorem run_test_of_bind {listener : Endpoint} {bound : Host σ}
    (hbind : Host.bind origin host = (.ok listener, bound))
    (mapped : Endpoint) (wait : Duration) :
    (test origin mapped wait).run host =
      let token := (bound.surroundings.token bound.drawn).toList
      let answer :=
        bound.surroundings.visits bound.peers bound.now listener mapped token
      let received := receive (bound.now + wait) answer.1
      (.ok (received.2 = some token),
        { bound with
          drawn := bound.drawn + 1
          peers := answer.2
          now := max bound.now received.1 }) := by
  have hbound : (Host.bindOrFail origin).run host = (.ok listener, bound) :=
    Attempt.run_ofSystem_of_ok hbind (StunError.bind origin)
  rw [test, Attempt.run_bind_of_ok hbound]
  rfl

theorem tells_of_bindFault {cause : SystemError}
    (hfault : host.bindFault? origin = some cause)
    (mapped : Endpoint) (wait : Duration) :
    Tells origin mapped wait host (.error (.bind origin cause)) host where
  refused := by
    intro other hother
    rw [hfault, Option.some.injEq] at hother
    rw [hother]
  told := by
    intro hbindable
    rw [hfault] at hbindable
    cases hbindable
  begins := Int.le_refl host.now
  ends := Int.le_add_of_nonneg_right (Int.natCast_nonneg wait)
  surroundings := rfl

theorem tells_of_bind {listener : Endpoint} {opened : Nat}
    (hbindable : host.bindFault? origin = none)
    (hbind :
      Host.bind origin host = (.ok listener, { host with opened := opened }))
    (mapped : Endpoint) (wait : Duration) :
    let run := (test origin mapped wait).run host
    Tells origin mapped wait host run.1 run.2 := by
  intro run
  let token := (host.surroundings.token host.drawn).toList
  let answer :=
    host.surroundings.visits host.peers host.now listener mapped token
  have htoken : token.length = tokenLength := Vector.length_toList
  obtain ⟨time, received, htime, hreceive, hthrough⟩ :=
    exists_receive_eq htoken (host.now + wait) answer.1
  have hrun : run =
      (.ok (received = some token),
        { host with
          opened := opened
          drawn := host.drawn + 1
          peers := answer.2
          now := max host.now time }) := by
    have htest := run_test_of_bind hbind mapped wait
    dsimp only at htest
    rw [hreceive] at htest
    exact htest
  rw [hrun]
  constructor
  case refused =>
    intro cause hfault
    rw [hbindable] at hfault
    cases hfault
  case told =>
    intro _
    refine ⟨decide (received = some token), rfl, ?_⟩
    rw [decide_eq_true_iff, hthrough,
      tokenArrives_iff (congrArg Prod.fst hbind)]
  case begins => exact Int.le_max_left _ _
  case ends =>
    exact max_le (Int.le_add_of_nonneg_right (Int.natCast_nonneg wait)) htime
  case surroundings => rfl

/-- Whatever reaches the listener, a test tells whether the token arrives. -/
theorem test_tells (origin mapped : Endpoint) (wait : Duration)
    (host : Host σ) :
    let run := (test origin mapped wait).run host
    Tells origin mapped wait host run.1 run.2 := by
  intro run
  cases hfault : host.bindFault? origin with
  | some cause =>
      have hrun : run = (.error (.bind origin cause), host) :=
        run_test_of_bindFault hfault mapped wait
      rw [hrun]
      exact tells_of_bindFault hfault mapped wait
  | none =>
      obtain ⟨listener, opened, hbind⟩ := Host.bind_of_bindable hfault
      exact tells_of_bind hfault hbind mapped wait

/-! ## Dialling once -/

/-- A host has dialled a mapping once.  Only what the peers remember of it and
the time it took are left. -/
structure Dialled (origin mapped : Endpoint) (wait : Duration)
    (host after : Host σ) : Prop where
  once : ∃ socket, (Host.bind origin host).1 = .ok socket ∧
    after.peers =
      (host.surroundings.connect host.peers host.now socket mapped).2
  begins : host.now ≤ after.now
  ends : after.now ≤ host.now + wait
  surroundings : after.surroundings = host.surroundings
  drawn : after.drawn = host.drawn

theorem warmUp_dialled
    (hbindable : host.bindFault? origin = none)
    (mapped : Endpoint) (wait : Duration) :
    Dialled origin mapped wait host
      ((warmUp origin mapped wait).run host).2 := by
  obtain ⟨socket, opened, hbind⟩ := Host.bind_of_bindable hbindable
  let bound : Host σ := { host with opened := opened }
  have hrun : ((warmUp origin mapped wait).run host).2 =
      (Host.connect socket mapped wait bound).2 := by
    have hstate : Host.bind origin host = (.ok socket, bound) := hbind
    simp only [warmUp, bind, StateT.run, StateT.bind, hstate]
    rfl
  obtain ⟨now, hconnect⟩ := Host.exists_connect_eq socket mapped wait bound
  have htime := TcpExchange.now_connect socket mapped wait bound
  rw [hrun]
  rw [hconnect] at htime ⊢
  constructor
  case once => exact ⟨socket, by rw [hbind], rfl⟩
  case begins => exact htime.1
  case ends => exact htime.2
  case surroundings => rfl
  case drawn => rfl

end Testing

end Loopback

/-! ## The verdict -/

namespace TcpLine

variable {σ : Type}

/-- Both exchanges of a classification succeed and report the same mapping. -/
def Agree (settings : ExchangeSettings) (origin primary : Endpoint)
    (alternate : Option Endpoint) (host : Host σ) (first : Binding)
    (mapped : Endpoint) (compared : Host σ) : Prop :=
  ∃ told endpoint second,
    (TcpExchange.probe origin primary settings).run host =
        (.ok first, told) ∧
      advertisedOrAlternate alternate first = some endpoint ∧
      (TcpExchange.probe first.source endpoint settings).run told =
        (.ok second, compared) ∧
      first.mapped = some mapped ∧ second.mapped = some mapped

/-- How the token tells the cones apart, by whether it got through at once and
whether it does after a connection to the mapping. -/
structure ToldByToken (atOnce afterwards : Prop) (natType : NatType) :
    Prop where
  fullCone : natType = .fullCone ↔ atOnce
  restrictedCone : natType = .restrictedCone ↔ ¬atOnce ∧ afterwards
  portRestrictedCone : natType = .portRestrictedCone ↔
    ¬atOnce ∧ ¬afterwards

theorem toldByToken_fullCone {atOnce : Prop} (hthrough : atOnce)
    (afterwards : Prop) : ToldByToken atOnce afterwards .fullCone := by
  constructor <;> simp [hthrough]

theorem toldByToken_of_not {atOnce afterwards : Prop} {reached : Bool}
    (hnot : ¬atOnce) (hreached : reached = true ↔ afterwards) :
    ToldByToken atOnce afterwards
      (if reached then .restrictedCone else .portRestrictedCone) := by
  rw [← hreached]
  cases reached <;> constructor <;> simp [hnot]

section Verdict

variable {settings : ExchangeSettings} {origin primary : Endpoint}
  {alternate : Option Endpoint} {host compared : Host σ} {first : Binding}
  {mapped : Endpoint}

theorem run_inbound (hmapped : first.mapped = some mapped) (host : Host σ) :
    (((ofHost settings).prober origin primary alternate).inbound first).run
        host =
      (Loopback.test first.source mapped loopbackWait).run host :=
  Attempt.run_bind_of_ok (Prober.run_mapping hmapped host) _

theorem run_inboundAfterWarmUp (hmapped : first.mapped = some mapped)
    (host : Host σ) :
    (((ofHost settings).prober origin primary
        alternate).inboundAfterWarmUp first).run host =
      (Loopback.test first.source mapped loopbackWait).run
        ((Loopback.warmUp first.source mapped warmUpWait).run host).2 := by
  have hwarmUp :
      (Attempt.always (Loopback.warmUp first.source mapped warmUpWait)).run
          host =
        (.ok (), ((Loopback.warmUp first.source mapped warmUpWait).run
          host).2) :=
    rfl
  exact (Attempt.run_bind_of_ok (Prober.run_mapping hmapped host) _).trans
    (Attempt.run_bind_of_ok hwarmUp _)

theorem run_verdict_of_agree
    (hagree : Agree settings origin primary alternate host first mapped
      compared)
    (hport : mapped.port ≠ first.source.port) :
    ∃ second, second.mapped = some mapped ∧
      (((ofHost settings).prober origin primary alternate).verdict).run
          host =
        (((ofHost settings).prober origin primary alternate).judge first
          second mapped).run compared := by
  obtain ⟨told, endpoint, second, hfirst, hendpoint, hsecond, hmapped,
    hsame⟩ := hagree
  have hsource : first.source ≠ mapped :=
    fun heq => hport (congrArg Endpoint.port heq).symm
  have hchoice :
      ((ofHost settings).prober origin primary
          alternate).secondaryEndpoint first told =
        (some endpoint, told) := by
    change (advertisedOrAlternate alternate first, told) = _
    rw [hendpoint]
  refine ⟨second, hsame, ?_⟩
  exact (Prober.run_verdict_of_endpoint hfirst hmapped hsource hchoice).trans
    (Attempt.run_bind_of_ok hsecond _)

/-- A classification by a server's name asks the endpoints of that name. -/
theorem run_classifyTcp {server : String} {others : List Endpoint}
    (hresolve :
      ServerName.resolve host.surroundings.addresses server =
        .ok (primary, others)) :
    (classifyTcp server settings origin).run host =
      (classify .tcp
        ((ofHost settings).prober origin primary others.head?)).run host := by
  have hendpoints :
      (ServerName.endpoints server).run host =
        (.ok (primary, others), host) := by
    rw [ServerName.endpoints, Attempt.run_bind_of_ok (Attempt.run_get host),
      Attempt.run_ofResult, hresolve]
  have hstate :
      ServerName.endpoints server host = (.ok (primary, others), host) :=
    hendpoints
  simp only [classifyTcp, bind, StateT.run, StateT.bind, ExceptT.run, hstate]

/-- The tests that follow the comparison are judged by the token. -/
theorem run_judge_toldByToken {second : Binding}
    (hmapped : first.mapped = some mapped)
    (hsecond : second.mapped = some mapped)
    (hport : mapped.port ≠ first.source.port)
    (hbindable : compared.bindFault? first.source = none) :
    let heard :=
      ((Loopback.test first.source mapped loopbackWait).run compared).2
    let warmed :=
      ((Loopback.warmUp first.source mapped warmUpWait).run heard).2
    (¬Loopback.TokenArrives first.source mapped loopbackWait compared →
      warmed.bindFault? first.source = none) →
    (heard.bindFault? first.source = none →
        Loopback.Dialled first.source mapped warmUpWait heard warmed) ∧
      ∃ natType after,
        (((ofHost settings).prober origin primary alternate).judge first
            second mapped).run compared =
          (.ok (natType, mapped), after) ∧
        ToldByToken
          (Loopback.TokenArrives first.source mapped loopbackWait compared)
          (Loopback.TokenArrives first.source mapped loopbackWait warmed)
          natType := by
  intro heard warmed hbindableWarmed
  have htells := Loopback.test_tells first.source mapped loopbackWait compared
  refine ⟨fun hbindableHeard =>
    Loopback.warmUp_dialled hbindableHeard mapped warmUpWait, ?_⟩
  obtain ⟨reached, houtcome, hreached⟩ := htells.told hbindable
  have hinbound :
      (((ofHost settings).prober origin primary alternate).inbound first).run
          compared =
        (.ok reached, heard) := by
    rw [run_inbound hmapped, ← houtcome]
    rfl
  cases reached with
  | true =>
      exact ⟨.fullCone, heard, Prober.run_judge_fullCone hsecond hinbound hport,
        toldByToken_fullCone (hreached.mp rfl) _⟩
  | false =>
      have hnot : ¬Loopback.TokenArrives first.source mapped loopbackWait
          compared :=
        fun harrives => Bool.false_ne_true (hreached.mpr harrives)
      have htellsAgain :=
        Loopback.test_tells first.source mapped loopbackWait warmed
      obtain ⟨again, hagain, hreachedAgain⟩ :=
        htellsAgain.told (hbindableWarmed hnot)
      have hafterWarmUp :
          (((ofHost settings).prober origin primary
              alternate).inboundAfterWarmUp first).run heard =
            (.ok again,
              ((Loopback.test first.source mapped loopbackWait).run
                warmed).2) := by
        rw [run_inboundAfterWarmUp hmapped, ← hagain]
        rfl
      exact ⟨_, _,
        Prober.run_judge_restricted hsecond hinbound hafterWarmUp,
        toldByToken_of_not hnot hreachedAgain⟩

end Verdict

/-- A test tells whether the token arrives, and takes no longer than it may.
The token tells the cones apart, once the exchanges have found one mapping
whose port is not the source's, whether the server was given by its endpoints
or by a name that has them. -/
theorem classify_toldByToken (settings : ExchangeSettings)
    (origin primary : Endpoint) (alternate : Option Endpoint)
    (host : Host σ) :
    let classification :=
      (classify .tcp
        ((ofHost settings).prober origin primary alternate)).run host
    (∀ (source mapped : Endpoint) (wait : Duration) (tested : Host σ),
        let run := (Loopback.test source mapped wait).run tested
        Loopback.Tells source mapped wait tested run.1 run.2) ∧
      (∀ first mapped compared,
        Agree settings origin primary alternate host first mapped compared →
        mapped.port ≠ first.source.port →
        compared.bindFault? first.source = none →
        let heard :=
          ((Loopback.test first.source mapped loopbackWait).run compared).2
        let warmed :=
          ((Loopback.warmUp first.source mapped warmUpWait).run heard).2
        (¬Loopback.TokenArrives first.source mapped loopbackWait compared →
          warmed.bindFault? first.source = none) →
        (heard.bindFault? first.source = none →
            Loopback.Dialled first.source mapped warmUpWait heard warmed) ∧
          ∃ natType,
            classification.1 = ⟨.tcp, natType, some mapped, none⟩ ∧
            ToldByToken
              (Loopback.TokenArrives first.source mapped loopbackWait
                compared)
              (Loopback.TokenArrives first.source mapped loopbackWait warmed)
              natType) ∧
      ∀ server others,
        ServerName.resolve host.surroundings.addresses server =
          .ok (primary, others) →
        others.head? = alternate →
        (classifyTcp server settings origin).run host = classification := by
  intro classification
  refine ⟨Loopback.test_tells, ?_, ?_⟩
  · intro first mapped compared hagree hport hbindable heard warmed
      hbindableWarmed
    obtain ⟨second, hsecond, hverdict⟩ := run_verdict_of_agree hagree hport
    obtain ⟨_, _, _, _, _, _, hmapped, _⟩ := hagree
    obtain ⟨hdialled, natType, after, hjudge, htold⟩ :=
      run_judge_toldByToken hmapped hsecond hport hbindable hbindableWarmed
    have hclassify :=
      Prober.run_classify_of_ok (hverdict.trans hjudge) .tcp
    exact ⟨hdialled, natType, congrArg Prod.fst hclassify, htold⟩
  · rintro server others hresolve rfl
    exact run_classifyTcp hresolve

/-! ## Three cones -/

open UdpExchange (sampleSocket sampleServer sampleTransaction)

def sampleMapping : Endpoint := ⟨⟨203, 0, 113, 7⟩, 40000⟩

def otherServer : Endpoint := ⟨⟨198, 51, 100, 2⟩, 3479⟩

/-- A response that advertises another endpoint of the server. -/
def advertisingAnswer : Message :=
  ⟨0x0101, sampleTransaction,
    [.ofXorMapped sampleMapping, .ofOther otherServer]⟩

/-- A cone.  The peers remember whether the mapping was dialled, and the token
is admitted or not by that.  Where it is not, a foreign connection comes. -/
def cone (admits : Bool → Bool) : Surroundings Bool where
  bindFault? := fun _ _ _ => none
  freePort := fun _ => 32768
  transaction := fun _ => Vector.replicate 12 7
  token := fun _ => Vector.replicate 16 9
  addresses := fun _ => .ok []
  route := fun _ => .ok sampleSocket.ip
  deliver := fun dialled _ _ => .ok ([], dialled)
  connect := fun dialled now source target =>
    if target = sampleMapping then (.unanswered, true)
    else (.completed (now + Duration.seconds 1) source, dialled)
  converse := fun dialled now _ _ _ =>
    (⟨[(now + Duration.seconds 1, advertisingAnswer.encode)], none⟩, dialled)
  visits := fun dialled now _ _ token =>
    let later := now + Duration.seconds 1
    let own : Visit := ⟨later, ⟨[(later, token ++ [1])], none⟩⟩
    let foreign : Visit := ⟨later, ⟨[(later, [1, 2, 3])], none⟩⟩
    (if admits dialled then [own, foreign] else [foreign, own], dialled)

def coneHost (admits : Bool → Bool) (now : Instant) (drawn : Nat) :
    Host Bool :=
  { Host.start (cone admits) false with
    now := now
    drawn := drawn }

theorem payloadLength_advertisingAnswer :
    advertisingAnswer.payloadLength < 65536 := by
  decide

theorem add_seconds_lt {few many : Nat} (hlt : few < many) (now : Instant) :
    now + Duration.seconds few < now + Duration.seconds many :=
  Int.add_lt_add_left
    (Int.ofNat_lt.mpr (Nat.mul_lt_mul_of_pos_right hlt (by decide))) now

theorem readAnswer_of_encode {message : Message} {time deadline : Instant}
    (hpayload : message.payloadLength < 65536) (htime : time < deadline)
    (server : Endpoint) (request : Message) :
    TcpExchange.readAnswer server request deadline
        ⟨[(time, message.encode)], none⟩ =
      (time,
        (do
          request.check message
          return message : Except ProtocolError Message).mapError
            .protocol) := by
  have hframe : TcpExchange.frame? message.encode = some message.encode :=
    TcpExchange.frame?_eq_some_iff.mpr
      ⟨List.prefix_rfl, Message.isFrame_encode hpayload⟩
  have hread :
      Incoming.read ⟨[(time, message.encode)], none⟩ TcpExchange.frame?
          deadline =
        .complete time message.encode := by
    rw [Incoming.read, Incoming.readPieces, if_pos htime, List.nil_append,
      hframe]
  rw [TcpExchange.readAnswer, hread]
  simp only [Message.decode_encode_of_lt hpayload]
  rfl

theorem run_probe_cone (admits : Bool → Bool) (now : Instant) (drawn : Nat)
    (server : Endpoint) (hserver : server ≠ sampleMapping) :
    let connected := now + Duration.seconds 1
    (TcpExchange.probe sampleSocket server {}).run
        (coneHost admits now drawn) =
      (.ok ⟨sampleSocket, server, some sampleMapping, some otherServer⟩,
        coneHost admits (connected + Duration.seconds 1) (drawn + 1)) := by
  intro connected
  have hbind :
      Host.bind sampleSocket (coneHost admits now drawn) =
        (.ok sampleSocket, coneHost admits now drawn) := rfl
  have hconnect :
      Host.connect sampleSocket server (Duration.seconds 3)
          (coneHost admits now drawn) =
        (some (.ok sampleSocket), coneHost admits connected drawn) := by
    have hhandshake :
        (cone admits).connect false now sampleSocket server =
          (.completed connected sampleSocket, false) :=
      if_neg hserver
    have htime : connected < now + Duration.seconds 3 :=
      add_seconds_lt (by decide) now
    have hmax : max now connected = connected :=
      max_eq_right (Int.le_add_of_nonneg_right (Int.natCast_nonneg _))
    simp only [Host.connect, coneHost, Host.start, hhandshake, htime, true_or,
      if_true, hmax]
  have hrequest :
      (Host.newRequest .none).run (coneHost admits connected drawn) =
        (.ok (.request sampleTransaction .none),
          coneHost admits connected (drawn + 1)) := rfl
  have hconverse :
      Host.converse sampleSocket server
          (Message.request sampleTransaction .none).encode
          (coneHost admits connected (drawn + 1)) =
        (⟨[(connected + Duration.seconds 1, advertisingAnswer.encode)],
            none⟩, coneHost admits connected (drawn + 1)) := rfl
  have hread :=
    readAnswer_of_encode payloadLength_advertisingAnswer
      (add_seconds_lt (show 1 < 3 by decide) connected) server
      (.request sampleTransaction .none)
  have hmax : max connected (connected + Duration.seconds 1) =
      connected + Duration.seconds 1 :=
    max_eq_right (Int.le_add_of_nonneg_right (Int.natCast_nonneg _))
  rw [TcpExchange.run_probe_of_connected hbind hconnect,
    TcpExchange.run_exchange_of_written rfl hrequest rfl hconverse]
  dsimp only [TcpExchange.answeredHost, coneHost] at hread ⊢
  rw [hread, hmax]
  rfl

/-- The instant at which two exchanges of two seconds are over. -/
def comparedAt : Instant :=
  0 + Duration.seconds 1 + Duration.seconds 1 + Duration.seconds 1 +
    Duration.seconds 1

theorem agree_cone (admits : Bool → Bool) :
    Agree {} sampleSocket sampleServer none (coneHost admits 0 0)
      ⟨sampleSocket, sampleServer, some sampleMapping, some otherServer⟩
      sampleMapping (coneHost admits comparedAt 2) := by
  have hfirst := run_probe_cone admits 0 0 sampleServer (by decide)
  have hsecond := run_probe_cone admits
    (0 + Duration.seconds 1 + Duration.seconds 1) 1 otherServer (by decide)
  exact ⟨_, otherServer, _, hfirst, by decide, hsecond, rfl, rfl⟩

def coneToken : Bytes := List.replicate 16 9

theorem getsThrough_cone_iff (admits : Bool → Bool) (dialled : Bool)
    (now : Instant) :
    Loopback.GetsThrough coneToken (now + loopbackWait)
        ((cone admits).visits dialled now sampleSocket sampleMapping
          coneToken).1 ↔
      admits dialled = true := by
  have htime : now + Duration.seconds 1 < now + loopbackWait :=
    add_seconds_lt (by decide) now
  simp only [cone]
  cases admits dialled with
  | true =>
      refine iff_of_true ⟨_, _, if_pos rfl, htime, ?_⟩ rfl
      rw [Incoming.arrived_cons_of_lt htime]
      rfl
  | false =>
      refine iff_of_false ?_ Bool.false_ne_true
      rintro ⟨first, later, hvisits, _, harrived⟩
      cases hvisits
      rw [Incoming.arrived_cons_of_lt htime] at harrived
      change [1, 2, 3] = coneToken at harrived
      exact absurd harrived (by decide)

theorem bindFault?_of_cone {admits : Bool → Bool} {host : Host Bool}
    (hsurroundings : host.surroundings = cone admits) :
    host.bindFault? sampleSocket = none := by
  rw [Host.bindFault?, hsurroundings]
  rfl

theorem tokenArrives_cone_iff {admits : Bool → Bool} {host : Host Bool}
    (hsurroundings : host.surroundings = cone admits) :
    Loopback.TokenArrives sampleSocket sampleMapping loopbackWait host ↔
      admits host.peers = true := by
  have hbind : (Host.bind sampleSocket host).1 = .ok sampleSocket := by
    simp only [Host.bind, bindFault?_of_cone hsurroundings]
    rfl
  rw [Loopback.tokenArrives_iff hbind, hsurroundings]
  exact getsThrough_cone_iff admits host.peers host.now

def coneVerdict (admits : Bool → Bool) : Classification :=
  ((classifyTcp "198.51.100.1:3478" {} sampleSocket).run
    (coneHost admits 0 0)).1

theorem classify_toldByToken_cones :
    coneVerdict (fun _ => true) =
        ⟨.tcp, .fullCone, some sampleMapping, none⟩ ∧
      coneVerdict (fun dialled => dialled) =
        ⟨.tcp, .restrictedCone, some sampleMapping, none⟩ ∧
      coneVerdict (fun _ => false) =
        ⟨.tcp, .portRestrictedCone, some sampleMapping, none⟩ := by
  have htold (admits : Bool → Bool) :
      ∃ natType,
        coneVerdict admits = ⟨.tcp, natType, some sampleMapping, none⟩ ∧
        ToldByToken (admits false = true) (admits true = true) natType := by
    obtain ⟨htests, hcones, hnamed⟩ :=
      classify_toldByToken {} sampleSocket sampleServer none
        (coneHost admits 0 0)
    have htest :=
      htests sampleSocket sampleMapping loopbackWait
        (coneHost admits comparedAt 2)
    have hheard := bindFault?_of_cone htest.surroundings
    have hdialled := Loopback.warmUp_dialled hheard sampleMapping warmUpWait
    have hwarmed := hdialled.surroundings.trans htest.surroundings
    obtain ⟨_, natType, hverdict, htypes⟩ :=
      hcones _ _ _ (agree_cone admits) (by decide) rfl
        (fun _ => bindFault?_of_cone hwarmed)
    obtain ⟨socket, _, hpeers⟩ := hdialled.once
    rw [htest.surroundings] at hpeers
    rw [← hnamed "198.51.100.1:3478" [] rfl rfl] at hverdict
    refine ⟨natType, hverdict, ?_⟩
    rw [tokenArrives_cone_iff rfl, tokenArrives_cone_iff hwarmed,
      hpeers] at htypes
    exact htypes
  refine ⟨?_, ?_, ?_⟩
  · obtain ⟨natType, hverdict, htypes⟩ := htold fun _ => true
    rw [hverdict, htypes.fullCone.mpr rfl]
  · obtain ⟨natType, hverdict, htypes⟩ := htold fun dialled => dialled
    rw [hverdict, htypes.restrictedCone.mpr ⟨Bool.false_ne_true, rfl⟩]
  · obtain ⟨natType, hverdict, htypes⟩ := htold fun _ => false
    rw [hverdict, htypes.portRestrictedCone.mpr
      ⟨Bool.false_ne_true, Bool.false_ne_true⟩]

end TcpLine

end Pinhole
