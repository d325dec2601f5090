import Pinhole.Proofs.Survey.ExchangeOrder

/-!
# The evidence for a verdict about the filtering

Whatever arrives at the socket of a classification, and when: a verdict that
unsolicited traffic gets through rests on a reply from elsewhere to a request
for one, and the reply came before anything was sent to another endpoint than
the one asked.
-/

namespace Pinhole

namespace UdpLine

variable {σ : Type}

/-- What a socket sends and receives in the exchanges that are made from it. -/
def socketTraffic (socket : Endpoint) (settings : ExchangeSettings)
    (exchanges : List (Exchange (Host σ))) : List Traffic :=
  (exchanges.filter fun exchange => (shared? exchange.deed).isSome).flatMap
    (Exchange.traffic socket settings)

/-- A request was sent and a datagram answers it with success, before anything
was sent to another endpoint. -/
structure Replied (primary : Endpoint) (events : List Traffic)
    (inquiry : Inquiry) (datagram : Datagram) : Prop where
  early : ∃ before time after,
    events = before ++ .received time datagram :: after ∧
      (∃ start, .sent start inquiry.datagram ∈ before) ∧
        ∀ start other, .sent start other ∈ before → other.receiver = primary
  success : ∃ message, Message.decode datagram.bytes = .ok message ∧
    message.type = 0x0101 ∧ message.transaction = inquiry.request.transaction

/-- A shared exchange with the primary endpoint asks this. -/
structure Asks (socket primary : Endpoint) (settings : ExchangeSettings)
    (exchanges : List (Exchange (Host σ))) (change : Change)
    (exchange : Exchange (Host σ)) (inquiry : Inquiry) : Prop where
  mem : exchange ∈ exchanges
  call : exchange.call = .shared primary change
  asked : exchange.inquiry? socket settings = some inquiry

/-- A mapping other than the source is open to unsolicited traffic. -/
def ClaimsOpen (seen : List Observation) (classification : Classification) :
    Prop :=
  classification.natType = .fullCone ∨
    classification.natType = .openInternet ∧
      ∀ first, .primary (.ok first) ∈ seen →
        classification.mapped ≠ some first.source

/-- An exchange went through all its attempts without a reply from another
address and port. -/
structure InVain (socket primary : Endpoint) (settings : ExchangeSettings)
    (exchange : Exchange (Host σ)) (inquiry : Inquiry) : Prop where
  tried : (exchange.sendings socket settings).length =
    settings.retries.toNat + 1
  unheard : ∀ time datagram message,
    .received time datagram ∈ exchange.traffic socket settings →
      Message.decode datagram.bytes = .ok message →
        message.transaction = inquiry.request.transaction →
          ¬ (datagram.sender.ip ≠ primary.ip ∧
            datagram.sender.port ≠ primary.port)

/-- What a verdict about the filtering rests on. -/
structure Founded (socket primary : Endpoint) (settings : ExchangeSettings)
    (exchanges : List (Exchange (Host σ))) (seen : List Observation)
    (classification : Classification) : Prop where
  opened : ClaimsOpen seen classification →
    ∃ exchange inquiry datagram,
      Asks socket primary settings exchanges .ipAndPort exchange inquiry ∧
        Replied primary (socketTraffic socket settings exchanges) inquiry
          datagram ∧
        datagram.sender.ip ≠ primary.ip ∧
        datagram.sender.port ≠ primary.port
  silent : classification.natType = .restrictedCone →
    ∃ exchange inquiry,
      Asks socket primary settings exchanges .ipAndPort exchange inquiry ∧
        InVain socket primary settings exchange inquiry
  restricted : classification.natType = .restrictedCone →
    ∃ exchange inquiry datagram,
      Asks socket primary settings exchanges .portOnly exchange inquiry ∧
        Replied primary (socketTraffic socket settings exchanges) inquiry
          datagram ∧
        datagram.sender.ip = primary.ip ∧
        datagram.sender.port ≠ primary.port

/-- Whatever carries the transaction of a request to the primary endpoint comes
from there. -/
def AnswersInPlace (socket primary : Endpoint) (settings : ExchangeSettings)
    (exchanges : List (Exchange (Host σ))) : Prop :=
  ∀ change exchange inquiry,
    Asks socket primary settings exchanges change exchange inquiry →
      ∀ time datagram message,
        .received time datagram ∈ socketTraffic socket settings exchanges →
          Message.decode datagram.bytes = .ok message →
            message.transaction = inquiry.request.transaction →
              datagram.sender = primary

section Replies

variable {socket primary : Endpoint} {settings : ExchangeSettings}

theorem Exchange.Made.explained {exchange : Exchange (Host σ)}
    (hmade : exchange.Made socket settings) {server : Endpoint}
    {change : Change} (hcall : exchange.call = .shared server change) :
    ∃ inquiry heard, exchange.Explained socket settings inquiry heard ∧
      inquiry.server = server ∧ inquiry.change = change := by
  have hstart : exchange.start? socket = some (socket, exchange.before) := by
    rw [start?, hcall]
  cases hmade with
  | unbound hnone houtcome =>
      rw [hstart] at hnone
      cases hnone
  | @bound inquiry heard hexplained =>
      have hasked := hexplained.asked
      rw [inquiry?, hstart, hcall] at hasked
      cases hasked
      exact ⟨_, heard, hexplained, rfl, rfl⟩

/-- Nothing is sent to another endpoint than the one asked. -/
theorem Exchange.Made.receiver_eq {exchange : Exchange (Host σ)}
    (hmade : exchange.Made socket settings) {time : Instant}
    {datagram : Datagram}
    (hmem : .sent time datagram ∈ exchange.traffic socket settings) :
    datagram.receiver = exchange.call.server := by
  obtain ⟨_, _, _, _, rfl⟩ := hmade.addressed
    (List.mem_filterMap.mpr ⟨_, hmem, rfl⟩)
  rfl

variable {exchange : Exchange (Host σ)} {change : Change}

/-- An exchange with the primary endpoint that comes out well was answered
before another endpoint was contacted. -/
theorem replied_of_ok (earlier : List (Exchange (Host σ)))
    {later : List (Exchange (Host σ))}
    (hmade : ∀ other ∈ earlier ++ exchange :: later,
      other.Made socket settings)
    (hearlier : ∀ other ∈ earlier, other.call.server = primary)
    (hcall : exchange.call = .shared primary change) {binding : Binding}
    (houtcome : exchange.outcome = .ok binding) :
    ∃ inquiry datagram,
      Asks socket primary settings (earlier ++ exchange :: later) change
          exchange inquiry ∧
        Replied primary
          (socketTraffic socket settings (earlier ++ exchange :: later))
          inquiry datagram ∧
        (datagram.sender.ip ≠ primary.ip ↔ change.ip = true) ∧
        (datagram.sender.port ≠ primary.port ↔ change.port = true) := by
  have hmem : exchange ∈ earlier ++ exchange :: later := by simp
  obtain ⟨inquiry, heard, hexplained, rfl, rfl⟩ :=
    (hmade exchange hmem).explained hcall
  obtain ⟨message, hheard, htype⟩ := hexplained.answered binding houtcome
  obtain ⟨start, passed, arrived, datagram, htraffic, hanswers⟩ :=
    hexplained.course.ends_of_ok hheard
  have hshared : (shared? exchange.deed).isSome = true := by
    rw [Exchange.deed, hcall]
    rfl
  refine ⟨inquiry, datagram, ⟨hmem, hcall, hexplained.asked⟩, ⟨?_, ?_⟩,
    hanswers.ip, hanswers.port⟩
  · refine ⟨socketTraffic socket settings earlier ++
        .sent start inquiry.datagram :: passed, arrived,
      socketTraffic socket settings later, ?_, ⟨start, by simp⟩, ?_⟩
    · simp only [socketTraffic, List.filter_append, List.filter_cons,
        hshared, if_true, List.flatMap_append, List.flatMap_cons, htraffic]
      simp
    · intro time other hsent
      rcases List.mem_append.mp hsent with hbefore | hwithin
      · obtain ⟨first, hfirst, hsent⟩ := List.mem_flatMap.mp hbefore
        have hfirst := List.mem_of_mem_filter hfirst
        rw [(hmade first (List.mem_append_left _ hfirst)).receiver_eq hsent]
        exact hearlier first hfirst
      · have hsent : .sent time other ∈ exchange.traffic socket settings := by
          rw [htraffic, ← List.cons_append]
          exact List.mem_append_left _ hwithin
        rw [(hmade exchange hmem).receiver_eq hsent, hcall]
        rfl
  · exact ⟨message, hanswers.decodes, htype, hanswers.transaction⟩

theorem replied_of_deeds {exchanges : List (Exchange (Host σ))}
    (hmade : ∀ other ∈ exchanges, other.Made socket settings)
    {asked later : List Deed} {binding : Binding}
    (hdeeds : exchanges.map Exchange.deed =
      asked ++ (.shared primary change, .ok binding) :: later)
    (hasked : ∀ deed ∈ asked, deed.1.server = primary) :
    ∃ exchange inquiry datagram,
      Asks socket primary settings exchanges change exchange inquiry ∧
        Replied primary (socketTraffic socket settings exchanges) inquiry
          datagram ∧
        (datagram.sender.ip ≠ primary.ip ↔ change.ip = true) ∧
        (datagram.sender.port ≠ primary.port ↔ change.port = true) := by
  obtain ⟨earlier, others, rfl, hearlier, hothers⟩ :=
    List.map_eq_append_iff.mp hdeeds
  obtain ⟨exchange, rest, rfl, hdeed, _⟩ := List.map_eq_cons_iff.mp hothers
  obtain ⟨hcall, houtcome⟩ := Prod.mk.inj hdeed
  have hservers : ∀ other ∈ earlier, other.call.server = primary := by
    intro other hmem
    exact hasked other.deed (hearlier ▸ List.mem_map_of_mem hmem)
  exact ⟨exchange, replied_of_ok earlier hmade hservers hcall houtcome⟩

/-- An exchange that runs out of time made all its attempts in vain. -/
theorem inVain_of_timeout (hmade : exchange.Made socket settings)
    (hcall : exchange.call = .shared primary .ipAndPort)
    (htimeout : heard? exchange.outcome = some false) :
    ∃ inquiry, exchange.inquiry? socket settings = some inquiry ∧
      InVain socket primary settings exchange inquiry := by
  obtain ⟨server, houtcome⟩ := heard?_eq_false_iff.mp htimeout
  obtain ⟨inquiry, heard, hexplained, rfl, hchange⟩ := hmade.explained hcall
  obtain ⟨hlength, hnone⟩ := hexplained.course.unanswered_of_timeout
    (hexplained.silent server houtcome)
  refine ⟨inquiry, hexplained.asked, hlength, ?_⟩
  rintro time datagram message hmem hdecode htransaction ⟨hip, hport⟩
  refine hnone time datagram hmem message ⟨hdecode, htransaction, ?_, ?_⟩
  · rw [hchange]
    exact iff_of_true hip rfl
  · rw [hchange]
    exact iff_of_true hport rfl

theorem AnswersInPlace.sender_eq {exchanges : List (Exchange (Host σ))}
    (hplace : AnswersInPlace socket primary settings exchanges)
    {inquiry : Inquiry} {datagram : Datagram}
    (hasks : Asks socket primary settings exchanges change exchange inquiry)
    (hreplied : Replied primary (socketTraffic socket settings exchanges)
      inquiry datagram) :
    datagram.sender = primary := by
  obtain ⟨before, time, after, hevents, _, _⟩ := hreplied.early
  obtain ⟨message, hdecode, _, htransaction⟩ := hreplied.success
  refine hplace change exchange inquiry hasks time datagram message ?_ hdecode
    htransaction
  simp [hevents]

end Replies

/-! ## Verdicts -/

section Verdicts

variable {socket primary : Endpoint} {settings : ExchangeSettings}
  {exchanges : List (Exchange (Host σ))} {seen : List Observation}
  {classification : Classification}

/-- A server that ignores what it is asked to change leads to none of these
verdicts. -/
theorem Founded.none_of_answersInPlace
    (hfounded :
      Founded socket primary settings exchanges seen classification)
    (hplace : AnswersInPlace socket primary settings exchanges) :
    ¬ ClaimsOpen seen classification ∧
      classification.natType ≠ .restrictedCone := by
  constructor
  · intro hopen
    obtain ⟨_, _, _, hasks, hreplied, hip, _⟩ := hfounded.opened hopen
    exact hip (congrArg Endpoint.ip (hplace.sender_eq hasks hreplied))
  · intro hrestricted
    obtain ⟨_, _, _, hasks, hreplied, _, hport⟩ :=
      hfounded.restricted hrestricted
    exact hport (congrArg Endpoint.port (hplace.sender_eq hasks hreplied))

theorem eq_ok_of_natType {transport : Transport} {natType : NatType}
    {result : Except StunError (NatType × Endpoint)}
    (hnatType :
      (Classification.ofResult transport result).natType = natType)
    (hsupported : natType ≠ .unsupported) :
    ∃ mapped, result = .ok (natType, mapped) := by
  cases result with
  | error error => exact absurd hnatType.symm hsupported
  | ok conclusion => exact ⟨conclusion.2, hnatType ▸ rfl⟩

theorem heard?_eq_true_iff {outcome : Except StunError Binding} :
    heard? outcome = some true ↔ ∃ binding, outcome = .ok binding := by
  cases outcome with
  | ok binding => simp [heard?]
  | error error => cases error <;> simp [heard?]

theorem Compares.of_warmedUp {endpoint : Endpoint} {compared : List Deed}
    {outcome : Except StunError Binding} {known : Option Filtering}
    (hcompares : Compares primary endpoint compared outcome known)
    (hknown : known = some ⟨false, some true⟩) :
    ∃ both binding, heard? both = some false ∧
      compared =
        [(.shared primary .ipAndPort, both),
          (.shared primary .portOnly, .ok binding),
          (.shared endpoint .none, outcome)] := by
  cases hcompares with
  | unmeasured hfault => cases hknown
  | halfMeasured hsilent hfault => cases hknown
  | reached binding outcome => cases hknown
  | retried hsilent hreached outcome =>
      cases hknown
      obtain ⟨binding, rfl⟩ := heard?_eq_true_iff.mp hreached
      exact ⟨_, binding, hsilent, rfl⟩

section Conducted

variable {entries : List Entry}
  {result : Except StunError (NatType × Endpoint)}

/-- An open mapping was found by a reply to the first question about the
filtering. -/
theorem Conducted.deeds_of_claimsOpen
    (hconducted : Conducted primary entries result)
    (hopen : ClaimsOpen (entries.map Prod.fst) (.ofResult .udp result)) :
    ∃ plain binding later,
      deeds entries =
        (.shared primary .none, plain) ::
          (.shared primary .ipAndPort, .ok binding) :: later := by
  obtain ⟨natType, mapped, rfl, hnatType⟩ :
      ∃ natType mapped, result = .ok (natType, mapped) ∧
        (natType = .fullCone ∨ natType = .openInternet) := by
    rcases hopen with hfullCone | ⟨hopenInternet, _⟩
    · obtain ⟨mapped, rfl⟩ := eq_ok_of_natType hfullCone (by decide)
      exact ⟨_, mapped, rfl, Or.inl rfl⟩
    · obtain ⟨mapped, rfl⟩ := eq_ok_of_natType hopenInternet (by decide)
      exact ⟨_, mapped, rfl, Or.inr rfl⟩
  cases hconducted with
  | @halted outcome choice hchoice _ hresult =>
      rcases hresult natType mapped rfl with
        rfl | ⟨rfl, first, rfl, rfl⟩
      · simp at hnatType
      · rcases hopen with hfullCone | ⟨_, hdiffers⟩
        · cases hfullCone
        · exact absurd rfl (hdiffers first (by simp))
  | compared hmapped hsource hendpoint hcompares hjudges =>
      cases hjudges with
      | silent known hresult =>
          obtain rfl := hresult natType mapped rfl
          simp at hnatType
      | reached _ hreached hcount hresult =>
          obtain ⟨binding, rfl⟩ := hcompares.of_reached rfl hreached
          exact ⟨_, binding, _, rfl⟩
      | warmedUp _ port _ => cases port <;> simp at hnatType

/-- A restricted cone was found by a reply to the second question after there
was none to the first. -/
theorem Conducted.deeds_of_restrictedCone
    (hconducted : Conducted primary entries result)
    (hrestricted :
      (Classification.ofResult .udp result).natType = .restrictedCone) :
    ∃ plain both binding later,
      heard? both = some false ∧
        deeds entries =
          (.shared primary .none, plain) ::
            (.shared primary .ipAndPort, both) ::
            (.shared primary .portOnly, .ok binding) :: later := by
  obtain ⟨mapped, rfl⟩ := eq_ok_of_natType hrestricted (by decide)
  cases hconducted with
  | halted hchoice hresult =>
      rcases hresult _ _ rfl with hnatType | ⟨hnatType, _⟩
      · cases hnatType
      · cases hnatType
  | compared hmapped hsource hendpoint hcompares hjudges =>
      generalize hresult :
        Except.ok (NatType.restrictedCone, mapped) = result at hjudges
      cases hjudges with
      | silent known hsymmetric => cases hsymmetric _ _ hresult.symm
      | reached _ hreached hcount hopen =>
          rcases hopen _ _ hresult.symm with hnatType | hnatType
          · cases hnatType
          · cases hnatType
      | warmedUp _ port _ =>
          cases port with
          | false => cases hresult
          | true =>
              obtain ⟨both, binding, hsilent, rfl⟩ :=
                hcompares.of_warmedUp rfl
              exact ⟨_, both, binding, _, hsilent, rfl⟩

end Conducted

theorem Conducted.founded {entries : List Entry}
    {result : Except StunError (NatType × Endpoint)}
    (hconducted : Conducted primary entries result)
    (hdeeds : deeds entries = exchanges.map Exchange.deed)
    (hmade : ∀ exchange ∈ exchanges, exchange.Made socket settings) :
    Founded socket primary settings exchanges (entries.map Prod.fst)
      (.ofResult .udp result) := by
  constructor
  case opened =>
    intro hopen
    obtain ⟨plain, binding, later, hsplit⟩ :=
      hconducted.deeds_of_claimsOpen hopen
    have hasked : ∀ deed ∈ [(Call.shared primary Change.none, plain)],
        deed.1.server = primary :=
      List.forall_mem_singleton.mpr rfl
    obtain ⟨exchange, inquiry, datagram, hasks, hreplied, hip, hport⟩ :=
      replied_of_deeds hmade (hdeeds.symm.trans hsplit) hasked
    exact ⟨exchange, inquiry, datagram, hasks, hreplied, hip.mpr rfl,
      hport.mpr rfl⟩
  case silent =>
    intro hrestricted
    obtain ⟨plain, both, binding, later, hsilent, hsplit⟩ :=
      hconducted.deeds_of_restrictedCone hrestricted
    have hmem : (.shared primary .ipAndPort, both) ∈ deeds entries := by
      simp [hsplit]
    rw [hdeeds] at hmem
    obtain ⟨exchange, hexchange, hdeed⟩ := List.mem_map.mp hmem
    obtain ⟨hcall, rfl⟩ := Prod.mk.inj hdeed
    obtain ⟨inquiry, hasked, hvain⟩ :=
      inVain_of_timeout (hmade exchange hexchange) hcall hsilent
    exact ⟨exchange, inquiry, ⟨hexchange, hcall, hasked⟩, hvain⟩
  case restricted =>
    intro hrestricted
    obtain ⟨plain, both, binding, later, hsilent, hsplit⟩ :=
      hconducted.deeds_of_restrictedCone hrestricted
    have hasked : ∀ deed ∈ [(Call.shared primary Change.none, plain),
        (Call.shared primary Change.ipAndPort, both)],
        deed.1.server = primary := by
      rw [List.forall_mem_cons, List.forall_mem_singleton]
      exact ⟨rfl, rfl⟩
    obtain ⟨exchange, inquiry, datagram, hasks, hreplied, hip, hport⟩ :=
      replied_of_deeds hmade (hdeeds.symm.trans hsplit) hasked
    have hsameIp : datagram.sender.ip = primary.ip := by
      by_contra hdiffers
      exact Bool.false_ne_true (hip.mp hdiffers)
    exact ⟨exchange, inquiry, datagram, hasks, hreplied, hsameIp,
      hport.mpr rfl⟩

/-- Whatever arrives, a verdict about the filtering rests on evidence. -/
theorem classify_founded (socket primary : Endpoint)
    (settings : ExchangeSettings) (host : Host σ) :
    ∃ seen classification after known exchanges,
      (classify .udp ((ofSocket socket settings).prober primary)).run
          (host, none) =
        (classification, after, known) ∧
      ((ofSocket socket settings).ledger primary
          (seen.map Observation.step) (host, none)).flatMap Prod.snd =
        exchanges ∧
      ((ofSocket socket settings).ledger primary
          (seen.map Observation.step) (host, none)).map Prod.fst = seen ∧
      (ofSocket socket settings).Chain host exchanges after ∧
      after.sent =
        host.sent ++ exchanges.flatMap (Exchange.sendings socket settings) ∧
      Founded socket primary settings exchanges seen classification ∧
      (AnswersInPlace socket primary settings exchanges →
        ¬ ClaimsOpen seen classification ∧
          classification.natType ≠ .restrictedCone) := by
  obtain ⟨seen, result, ⟨after, known⟩, htraced, hconcluded⟩ :=
    ((ofSocket socket settings).prober primary).traced_verdict (host, none)
  obtain ⟨entries, hbooks, hconducted⟩ :=
    books_of_concluded hconcluded htraced.shows
  have hseen : entries.map Prod.fst = seen := by
    rw [← hbooks.kept, List.map_map]
    exact hbooks.shown
  have hdeeds := deeds_map_entry
    ((ofSocket socket settings).ledger primary (seen.map Observation.step)
      (host, none))
  rw [hbooks.kept] at hdeeds
  obtain ⟨hsent, hmade⟩ := hbooks.chained.made
  have hfounded := hconducted.founded hdeeds hmade
  rw [hseen] at hfounded
  exact ⟨seen, _, after, known, _, Prober.run_classify htraced.runs .udp, rfl,
    hbooks.shown, hbooks.chained, hsent, hfounded,
    hfounded.none_of_answersInPlace⟩

end Verdicts

end UdpLine

end Pinhole
