import Mathlib.Data.List.Induction
import Mathlib.Data.List.Nodup
import Pinhole.Proofs.Files
import Pinhole.Proofs.Survey.InboundTest
import Pinhole.Survey.Udp

/-!
# The second endpoint

Mappings are compared between two endpoints of a server, on different
addresses.  The second is the one that the server advertises; over TCP, a
server that advertises none may have another address under its name.

All addresses under a name have the port of the name.  Since each is kept but
once, two of them differ in their IP, and so the second that is kept is never on
the address of the first.
-/

namespace Pinhole

namespace ServerName

/-- The IPv4 endpoints among the addresses a resolver gives. -/
def ipv4Entries (found : List SocketAddress) : List Endpoint :=
  found.filterMap SocketAddress.ipv4?

/-! ## Keeping each endpoint once -/

/-- The endpoints of a list, each where it is first mentioned. -/
structure FirstMentions (entries kept : List Endpoint) : Prop where
  mem_iff : ∀ endpoint, endpoint ∈ kept ↔ endpoint ∈ entries
  nodup : kept.Nodup
  sublist : kept.Sublist entries
  inOrder : kept.Pairwise fun left right =>
    entries.idxOf left < entries.idxOf right

namespace FirstMentions

variable {entries kept : List Endpoint} {endpoint : Endpoint}

theorem inOrder_append (hkept : FirstMentions entries kept)
    (more : List Endpoint) :
    kept.Pairwise fun left right =>
      (entries ++ more).idxOf left < (entries ++ more).idxOf right := by
  apply hkept.inOrder.imp_of_mem
  intro left right hleft hright hlt
  rw [hkept.mem_iff] at hleft hright
  rwa [List.idxOf_append_of_mem hleft, List.idxOf_append_of_mem hright]

theorem concat_old (hkept : FirstMentions entries kept)
    (hold : endpoint ∈ kept) :
    FirstMentions (entries ++ [endpoint]) kept where
  mem_iff := by
    intro other
    rw [hkept.mem_iff, List.mem_append, List.mem_singleton]
    constructor
    · exact Or.inl
    · rintro (hother | rfl)
      · exact hother
      · exact (hkept.mem_iff other).mp hold
  nodup := hkept.nodup
  sublist := hkept.sublist.trans (List.sublist_append_left _ _)
  inOrder := hkept.inOrder_append [endpoint]

theorem concat_new (hkept : FirstMentions entries kept)
    (hnew : endpoint ∉ kept) :
    FirstMentions (entries ++ [endpoint]) (kept ++ [endpoint]) where
  mem_iff := by
    intro other
    rw [List.mem_append, List.mem_append, hkept.mem_iff]
  nodup := by
    rw [← List.concat_eq_append]
    exact List.Nodup.concat hnew hkept.nodup
  sublist := hkept.sublist.append_right [endpoint]
  inOrder := by
    rw [List.pairwise_append]
    refine ⟨hkept.inOrder_append [endpoint], List.pairwise_singleton _ _, ?_⟩
    intro left hleft right hright
    rw [List.mem_singleton] at hright
    subst hright
    rw [hkept.mem_iff] at hleft hnew
    rw [List.idxOf_append_of_mem hleft, List.idxOf_append_of_notMem hnew]
    exact Nat.lt_add_right _ (List.idxOf_lt_length_of_mem hleft)

end FirstMentions

/-- Adds an endpoint unless it is there. -/
def keep (kept : List Endpoint) (endpoint : Endpoint) : List Endpoint :=
  if endpoint ∈ kept then kept else kept ++ [endpoint]

theorem distinctIpv4_eq (found : List SocketAddress) :
    distinctIpv4 found = (ipv4Entries found).foldl keep [] := rfl

theorem firstMentions_foldl (entries : List Endpoint) :
    FirstMentions entries (entries.foldl keep []) := by
  -- The fold grows its list at the right end.
  induction entries using List.reverseRecOn with
  | nil => exact ⟨by simp, List.nodup_nil, List.Sublist.refl _, .nil⟩
  | append_singleton entries endpoint ih =>
      rw [List.foldl_append, List.foldl_cons, List.foldl_nil, keep]
      split
      case isTrue hold => exact ih.concat_old hold
      case isFalse hnew => exact ih.concat_new hnew

/-- The first is kept, and after it the first that differs from it. -/
theorem foldl_keep_cons (primary : Endpoint) (entries : List Endpoint) :
    ∃ others, (primary :: entries).foldl keep [] = primary :: others ∧
      others.head? = entries.find? fun entry => entry ≠ primary := by
  induction entries using List.reverseRecOn with
  | nil => exact ⟨[], rfl, rfl⟩
  | append_singleton entries endpoint ih =>
      obtain ⟨others, hothers, hsecond⟩ := ih
      rw [← List.cons_append, List.foldl_append, hothers, List.foldl_cons,
        List.foldl_nil, List.find?_append, ← hsecond, keep]
      split
      case isTrue hold =>
        refine ⟨others, rfl, ?_⟩
        -- If nothing but the first is kept, the endpoint is the first again.
        cases others with
        | cons second others => rfl
        | nil =>
            have hsame : endpoint = primary := List.mem_singleton.mp hold
            simp [hsame]
      case isFalse hnew =>
        have hdiffers : endpoint ≠ primary := by
          rintro rfl
          exact hnew List.mem_cons_self
        refine ⟨others ++ [endpoint], rfl, ?_⟩
        simp [List.head?_append, hdiffers]

/-! ## What a name resolves to -/

section Resolving

variable {addresses : String → Except String (List (Ipv4 ⊕ Ipv6))}
  {name : String} {found : List SocketAddress} {primary : Endpoint}
  {others kept : List Endpoint}

/-- The IPv4 endpoints of a name in one list, which is never empty. -/
def resolveAll (addresses : String → Except String (List (Ipv4 ⊕ Ipv6)))
    (name : String) : Except StunError (List Endpoint) :=
  match lookup addresses name with
  | .error reason => .error (.resolve name reason)
  | .ok found =>
      if distinctIpv4 found = [] then
        .error (.resolve name "no IPv4 address")
      else .ok (distinctIpv4 found)

/-- What is asked of the list: its first endpoint, or else an error. -/
def splitFirst (name : String) :
    List Endpoint → Except StunError (Endpoint × List Endpoint)
  | [] => .error (.resolve name "no IPv4 address")
  | first :: others => .ok (first, others)

theorem resolve_eq (addresses : String → Except String (List (Ipv4 ⊕ Ipv6)))
    (name : String) :
    resolve addresses name = resolveAll addresses name >>= splitFirst name := by
  unfold resolve resolveAll
  cases lookup addresses name with
  | error reason => rfl
  | ok found =>
      cases hdistinct : distinctIpv4 found with
      | nil => simp only [hdistinct, if_true]; rfl
      | cons first others => simp [hdistinct]; rfl

def place (port : UInt16) : Ipv4 ⊕ Ipv6 → SocketAddress
  | .inl ip => .v4 ⟨ip, port⟩
  | .inr ip => .v6 ip port 0

/-- A name is an address itself, or all that its host stands for is reached at
one port. -/
theorem lookup_cases (hlookup : lookup addresses name = .ok found) :
    (∃ address, found = [address]) ∨
      ∃ port, ∃ hosts : List (Ipv4 ⊕ Ipv6), found = hosts.map (place port) := by
  unfold lookup at hlookup
  split at hlookup
  case h_1 address _ =>
    cases hlookup
    exact Or.inl ⟨address, rfl⟩
  case h_2 =>
    split at hlookup
    case h_1 => cases hlookup
    case h_2 =>
      split at hlookup
      case h_1 => cases hlookup
      case h_2 number _ =>
        right
        refine ⟨UInt16.ofNat number, ?_⟩
        split at hlookup
        case h_1 ip _ =>
          cases hlookup
          exact ⟨[.inl ip], rfl⟩
        case h_2 =>
          obtain ⟨hosts, _, hfound⟩ := bind_eq_ok_iff.mp hlookup
          cases hfound
          exact ⟨hosts, rfl⟩

theorem exists_port_of_lookup (hlookup : lookup addresses name = .ok found) :
    ∃ port, ∀ endpoint ∈ ipv4Entries found, endpoint.port = port := by
  rcases lookup_cases hlookup with ⟨address, rfl⟩ | ⟨port, hosts, rfl⟩
  · cases address with
    | v4 endpoint =>
        refine ⟨endpoint.port, ?_⟩
        simp [ipv4Entries, SocketAddress.ipv4?]
    | v6 ip port interface =>
        refine ⟨port, ?_⟩
        simp [ipv4Entries, SocketAddress.ipv4?]
  · refine ⟨port, ?_⟩
    intro endpoint hendpoint
    obtain ⟨address, haddress, hipv4⟩ := List.mem_filterMap.mp hendpoint
    obtain ⟨ip | ip, _, rfl⟩ := List.mem_map.mp haddress
    · cases hipv4
      rfl
    · cases hipv4

theorem resolveAll_of_error {reason : String}
    (hlookup : lookup addresses name = .error reason) :
    resolveAll addresses name = .error (.resolve name reason) := by
  simp only [resolveAll, hlookup]

theorem resolveAll_of_nil (hlookup : lookup addresses name = .ok found)
    (hnil : ipv4Entries found = []) :
    resolveAll addresses name =
      .error (.resolve name "no IPv4 address") := by
  simp [resolveAll, hlookup, distinctIpv4_eq, hnil]

theorem resolveAll_of_cons {entries : List Endpoint}
    (hlookup : lookup addresses name = .ok found)
    (hcons : ipv4Entries found = primary :: entries) :
    ∃ others,
      resolveAll addresses name = .ok (primary :: others) ∧
        FirstMentions (primary :: entries) (primary :: others) ∧
        others.head? = entries.find? fun entry => entry ≠ primary := by
  obtain ⟨others, hothers, hsecond⟩ := foldl_keep_cons primary entries
  have hmentions := firstMentions_foldl (primary :: entries)
  rw [hothers] at hmentions
  refine ⟨others, ?_, hmentions, hsecond⟩
  simp [resolveAll, hlookup, distinctIpv4_eq, hcons, hothers]

/-- The first of some endpoints, and the next that is on another address. -/
structure FirstTwo (entries : List Endpoint) (primary : Endpoint)
    (second : Option Endpoint) : Prop where
  head : entries.head? = some primary
  next : second = entries.find? fun entry => entry.ip ≠ primary.ip
  isSome_iff : second.isSome ↔
    ∃ left ∈ entries, ∃ right ∈ entries, left.ip ≠ right.ip

theorem FirstTwo.ip_ne {entries : List Endpoint} {second : Option Endpoint}
    (hfirstTwo : FirstTwo entries primary second) {endpoint : Endpoint}
    (hsecond : second = some endpoint) : endpoint.ip ≠ primary.ip := by
  rw [hfirstTwo.next] at hsecond
  have hip := List.find?_some hsecond
  exact of_decide_eq_true hip

theorem firstTwo_cons (primary : Endpoint) (entries : List Endpoint) :
    FirstTwo (primary :: entries) primary
      ((primary :: entries).find? fun entry => entry.ip ≠ primary.ip) where
  head := rfl
  next := rfl
  isSome_iff := by
    rw [List.find?_isSome]
    constructor
    · rintro ⟨entry, hentry, hip⟩
      exact
        ⟨entry, hentry, primary, List.mem_cons_self, of_decide_eq_true hip⟩
    · rintro ⟨left, hleft, right, hright, hip⟩
      by_cases hprimary : left.ip = primary.ip
      · refine ⟨right, hright, ?_⟩
        rw [decide_eq_true_iff]
        rintro hsame
        exact hip (hprimary.trans hsame.symm)
      · exact ⟨left, hleft, decide_eq_true hprimary⟩

/-- On one port, an endpoint differs from another in nothing but the IP. -/
theorem find?_ne_eq {entries : List Endpoint} {port : UInt16}
    (hport : ∀ endpoint ∈ primary :: entries, endpoint.port = port) :
    (entries.find? fun entry => entry ≠ primary) =
      (primary :: entries).find? fun entry => entry.ip ≠ primary.ip := by
  have hprimary := hport primary List.mem_cons_self
  rw [List.find?_cons_of_neg (by simp), ← List.head?_filter,
    ← List.head?_filter]
  congr 1
  apply List.filter_congr
  intro entry hentry
  have hentryPort := hport entry (List.mem_cons_of_mem _ hentry)
  obtain ⟨ip, entryPort⟩ := entry
  obtain ⟨primaryIp, primaryPort⟩ := primary
  dsimp only at hprimary hentryPort
  subst hprimary hentryPort
  simp

theorem ne_nil_of_resolveAll (hkept : resolveAll addresses name = .ok kept) :
    kept ≠ [] := by
  unfold resolveAll at hkept
  split at hkept
  case h_1 => cases hkept
  case h_2 found _ =>
    split at hkept
    case isTrue => cases hkept
    case isFalse hsome =>
      cases hkept
      exact hsome

theorem exists_lookup_of_resolve
    (hresolve : resolve addresses name = .ok (primary, others)) :
    ∃ found, lookup addresses name = .ok found := by
  cases hlookup : lookup addresses name with
  | error reason =>
      rw [resolve, hlookup] at hresolve
      cases hresolve
  | ok found => exact ⟨found, rfl⟩

theorem firstTwo_of_resolve (hlookup : lookup addresses name = .ok found)
    (hresolve : resolve addresses name = .ok (primary, others)) :
    FirstTwo (ipv4Entries found) primary others.head? := by
  obtain ⟨port, hport⟩ := exists_port_of_lookup hlookup
  rw [resolve_eq] at hresolve
  cases hentries : ipv4Entries found with
  | nil =>
      rw [resolveAll_of_nil hlookup hentries] at hresolve
      cases hresolve
  | cons first entries =>
      obtain ⟨kept, hkept, _, hsecond⟩ := resolveAll_of_cons hlookup hentries
      rw [hkept] at hresolve
      cases hresolve
      rw [hentries] at hport
      rw [hsecond, find?_ne_eq hport]
      exact firstTwo_cons _ entries

end Resolving

end ServerName

/-- The second endpoints that are chosen over UDP and over TCP after a first
exchange, given the alternate one under the server's name. -/
structure ChosenApart (first : Binding) (alternate udp tcp : Option Endpoint) :
    Prop where
  apart : ∀ endpoint, udp = some endpoint ∨ tcp = some endpoint →
    endpoint.ip ≠ first.server.ip
  /-- What is advertised counts for both alike, and nothing else then does. -/
  advertised : ∀ other, first.other = some other →
    udp = (if other.ip ≠ first.server.ip then some other else none) ∧
      tcp = udp
  unadvertised : first.other = none → udp = none ∧ tcp = alternate

section Choosing

variable {first : Binding} {other : Endpoint} {alternate : Option Endpoint}

theorem advertisedEndpoint_of_some (hother : first.other = some other) :
    advertisedEndpoint first =
      if other.ip ≠ first.server.ip then some other else none := by
  by_cases hip : other.ip = first.server.ip
  · simp [advertisedEndpoint, hother, hip]
  · simp [advertisedEndpoint, hother, hip]

theorem advertisedOrAlternate_of_some (hother : first.other = some other) :
    advertisedOrAlternate alternate first =
      if other.ip ≠ first.server.ip then some other else none := by
  simp only [advertisedOrAlternate, hother]

theorem advertisedEndpoint_of_none (hother : first.other = none) :
    advertisedEndpoint first = none := by
  simp [advertisedEndpoint, hother]

/-- The alternate endpoint is taken as it is, if it is on another address. -/
theorem advertisedOrAlternate_of_none (hother : first.other = none)
    (halternate : ∀ endpoint, alternate = some endpoint →
      endpoint.ip ≠ first.server.ip) :
    advertisedOrAlternate alternate first = alternate := by
  cases alternate with
  | none => simp [advertisedOrAlternate, hother]
  | some endpoint =>
      simp [advertisedOrAlternate, hother, halternate endpoint rfl]

theorem chosenApart (first : Binding)
    (halternate : ∀ endpoint, alternate = some endpoint →
      endpoint.ip ≠ first.server.ip) :
    ChosenApart first alternate (advertisedEndpoint first)
      (advertisedOrAlternate alternate first) where
  apart := by
    intro endpoint hchosen
    cases hother : first.other with
    | none =>
        rw [advertisedEndpoint_of_none hother,
          advertisedOrAlternate_of_none hother halternate] at hchosen
        rcases hchosen with hudp | htcp
        · cases hudp
        · exact halternate endpoint htcp
    | some other =>
        rw [advertisedEndpoint_of_some hother,
          advertisedOrAlternate_of_some hother, or_self] at hchosen
        split at hchosen
        case isTrue hip =>
          cases hchosen
          exact hip
        case isFalse => cases hchosen
  advertised := by
    intro other hother
    rw [advertisedEndpoint_of_some hother,
      advertisedOrAlternate_of_some hother]
    exact ⟨rfl, rfl⟩
  unadvertised := by
    intro hother
    exact ⟨advertisedEndpoint_of_none hother,
      advertisedOrAlternate_of_none hother halternate⟩

end Choosing

section

variable {σ : Type} {host : Host σ} {settings : ExchangeSettings}
  {origin primary : Endpoint} {others : List Endpoint} {name : String}

theorem run_classifyUdp
    (hresolve :
      ServerName.resolve host.surroundings.addresses name =
        .ok (primary, others)) :
    (classifyUdp name settings origin).run host =
      (classifyUdpWith settings origin primary).run host := by
  have hstate :
      ServerName.endpoints name host = (.ok (primary, others), host) :=
    Prod.ext hresolve rfl
  simp only [classifyUdp, bind, StateT.run, StateT.bind, ExceptT.run, hstate]

end

open ServerName

/-- What the probers of both transports make of a server's name. -/
structure SecondEndpoints
    (addresses : String → Except String (List (Ipv4 ⊕ Ipv6))) (name : String) :
    Prop where
  /-- A name resolves to all its IPv4 endpoints, each once and in the order that
  the resolver gave them. -/
  resolved : ∀ found, lookup addresses name = .ok found →
    ipv4Entries found ≠ [] →
      ∃ kept, resolveAll addresses name = .ok kept ∧ kept ≠ [] ∧
        FirstMentions (ipv4Entries found) kept
  failed : (∀ found, lookup addresses name = .ok found →
      ipv4Entries found = []) →
    ∃ reason, resolveAll addresses name =
      .error (.resolve name reason)
  /-- No prober is left without a first endpoint. -/
  split : ∀ kept, resolveAll addresses name = .ok kept →
    ∃ primary others, kept = primary :: others ∧
      splitFirst name kept = .ok (primary, others)
  joined : resolve addresses name =
    resolveAll addresses name >>= splitFirst name
  firstTwo : ∀ found primary others,
    lookup addresses name = .ok found →
    resolve addresses name = .ok (primary, others) →
      FirstTwo (ipv4Entries found) primary others.head?
  /-- The probers of a classification, and the endpoints that they choose. -/
  chosen : ∀ primary others,
    resolve addresses name = .ok (primary, others) →
    ∀ (σ : Type) (settings : ExchangeSettings) (origin socket : Endpoint)
      (host : Host σ) (known : Option Filtering) (first : Binding),
      host.surroundings.addresses = addresses → first.server = primary →
      let udp := (UdpLine.ofSocket socket settings).prober primary
      let tcp := (TcpLine.ofHost settings).prober origin primary others.head?
      (classifyUdp name settings origin).run host =
          (classifyUdpWith settings origin primary).run host ∧
        (classifyTcp name settings origin).run host =
          (classify .tcp tcp).run host ∧
        ∃ udpChoice tcpChoice,
          udp.secondaryEndpoint first (host, known) =
              (udpChoice, host, known) ∧
            tcp.secondaryEndpoint first host = (tcpChoice, host) ∧
            ChosenApart first others.head? udpChoice tcpChoice

/-- The second endpoint of a server is never on the address of the first. -/
theorem secondEndpoints_apart
    (addresses : String → Except String (List (Ipv4 ⊕ Ipv6)))
    (name : String) : SecondEndpoints addresses name where
  resolved := by
    intro found hlookup hsome
    obtain ⟨primary, entries, hentries⟩ := List.exists_cons_of_ne_nil hsome
    obtain ⟨others, hkept, hmentions, _⟩ :=
      resolveAll_of_cons hlookup hentries
    rw [hentries]
    exact ⟨primary :: others, hkept, List.cons_ne_nil _ _, hmentions⟩
  failed := by
    intro hnone
    cases hlookup : lookup addresses name with
    | error reason => exact ⟨reason, resolveAll_of_error hlookup⟩
    | ok found =>
        exact ⟨_, resolveAll_of_nil hlookup (hnone found hlookup)⟩
  split := by
    intro kept hkept
    obtain ⟨primary, others, rfl⟩ :=
      List.exists_cons_of_ne_nil (ne_nil_of_resolveAll hkept)
    exact ⟨primary, others, rfl, rfl⟩
  joined := resolve_eq addresses name
  firstTwo := fun found primary others => firstTwo_of_resolve
  chosen := by
    rintro primary others hresolve σ settings origin socket host known first
      rfl rfl udp tcp
    obtain ⟨found, hlookup⟩ := exists_lookup_of_resolve hresolve
    have hfirstTwo := firstTwo_of_resolve hlookup hresolve
    exact
      ⟨run_classifyUdp hresolve, TcpLine.run_classifyTcp hresolve, _, _, rfl,
        rfl, chosenApart first fun endpoint => hfirstTwo.ip_ne⟩

/-- A name with two IPv4 addresses, one of them told three times over. -/
def mixedAddresses : String → Except String (List (Ipv4 ⊕ Ipv6)) :=
  fun _ => .ok
    [.inr ⟨List.replicate 8 0, rfl⟩, .inl ⟨198, 51, 100, 1⟩,
      .inl ⟨198, 51, 100, 1⟩, .inl ⟨198, 51, 100, 2⟩,
      .inr ⟨List.replicate 8 1, rfl⟩, .inl ⟨198, 51, 100, 1⟩]

theorem secondEndpoints_apart_mixed :
    resolve mixedAddresses "stun:3478" =
        .ok (⟨⟨198, 51, 100, 1⟩, 3478⟩, [⟨⟨198, 51, 100, 2⟩, 3478⟩]) ∧
      SecondEndpoints mixedAddresses "stun:3478" :=
  ⟨by decide, secondEndpoints_apart mixedAddresses "stun:3478"⟩

end Pinhole
