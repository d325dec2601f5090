import Mathlib.Data.List.Basic
import Pinhole.Stun.AddressAttribute

/-!
# The address that a list of attributes tells

What an attribute holds is told by the length of its value and by the bytes at
fixed places in it.  Which address a list tells is stated on positions in the
list: at which of them the scan stops, and what it has passed by then.  The scan
itself, which carries an address in hand, is compared with this rule.

The rule gives each list exactly one outcome.  Of the attributes it uses, those
behind the stop and those of other types play no part.
-/

namespace Pinhole

namespace Attribute

/-- The value ends before an IPv4 endpoint could. -/
def IsTooShort (item : Attribute) : Prop :=
  item.value.length < 4 ∨
    item.value[1]? = some 1 ∧ item.value.length < 8

/-- The value is long enough to tell its family, which is another one. -/
def IsForeign (item : Attribute) : Prop :=
  4 ≤ item.value.length ∧ item.value[1]? ≠ some 1

/-- The value holds an endpoint: the port in bytes 2 and 3, the high one first,
and the address in bytes 4 to 7. -/
structure Holds (item : Attribute) (endpoint : Endpoint) : Prop where
  family : item.value[1]? = some 1
  port : ∃ high low, (item.value.drop 2).take 2 = [high, low] ∧
    endpoint.port.toNat = high.toNat * 256 + low.toNat
  ip : (item.value.drop 4).take 4 =
    [endpoint.ip.a, endpoint.ip.b, endpoint.ip.c, endpoint.ip.d]

/-- What reading an attribute as an address comes to. -/
inductive Reads (item : Attribute) :
    Except ProtocolError (Option Endpoint) → Prop
  | tooShort (hshort : item.IsTooShort) :
      Reads item (.error (.truncatedAttribute item.type))
  | foreign (hforeign : item.IsForeign) : Reads item (.ok none)
  | address {endpoint : Endpoint} (hholds : item.Holds endpoint) :
      Reads item (.ok (some endpoint))

theorem toNat_toWord (high low : UInt8) :
    (Bytes.toWord high low).toNat = high.toNat * 256 + low.toNat := by
  have hhigh := high.toNat_lt
  have hlow := low.toNat_lt
  rw [Bytes.toWord, UInt16.toNat_ofNat']
  omega

theorem reads_endpoint? (item : Attribute) :
    item.Reads item.endpoint? := by
  obtain ⟨type, value⟩ := item
  unfold endpoint?
  match value with
  | [] | [_] | [_, _] | [_, _, _] =>
      exact .tooShort (Or.inl (by simp))
  | first :: family :: high :: low :: rest =>
      dsimp only
      by_cases hfamily : family = familyIpv4
      · subst hfamily
        rw [if_neg (not_not_intro rfl)]
        match rest with
        | [] | [_] | [_, _] | [_, _, _] =>
            exact .tooShort (Or.inr ⟨rfl, by simp⟩)
        | a :: b :: c :: d :: more =>
            exact .address ⟨rfl, ⟨high, low, rfl, toNat_toWord high low⟩, rfl⟩
      · rw [if_pos hfamily]
        exact .foreign ⟨by simp, fun hone => hfamily (Option.some.inj hone)⟩

variable {item : Attribute} {endpoint : Endpoint}

theorem Holds.length_le (hholds : item.Holds endpoint) :
    8 ≤ item.value.length := by
  have hlength := congrArg List.length hholds.ip
  rw [List.length_take, List.length_drop] at hlength
  simp only [List.length_cons, List.length_nil] at hlength
  omega

theorem Holds.not_isTooShort (hholds : item.Holds endpoint) :
    ¬item.IsTooShort := by
  have hlength := hholds.length_le
  rintro (hshort | ⟨_, hshort⟩) <;> omega

theorem IsForeign.not_isTooShort (hforeign : item.IsForeign) :
    ¬item.IsTooShort := by
  rintro (hshort | ⟨hfamily, _⟩)
  · exact absurd hforeign.1 (Nat.not_le.mpr hshort)
  · exact hforeign.2 hfamily

theorem IsForeign.not_holds (hforeign : item.IsForeign) (endpoint : Endpoint) :
    ¬item.Holds endpoint :=
  fun hholds => hforeign.2 hholds.family

theorem Holds.eq {other : Endpoint} (hholds : item.Holds endpoint)
    (hother : item.Holds other) : endpoint = other := by
  obtain ⟨high, low, hbytes, hport⟩ := hholds.port
  obtain ⟨_, _, hbytesAgain, hportAgain⟩ := hother.port
  have hip := hholds.ip.symm.trans hother.ip
  rw [hbytes] at hbytesAgain
  cases hbytesAgain
  obtain ⟨⟨a, b, c, d⟩, port⟩ := endpoint
  obtain ⟨⟨a', b', c', d'⟩, port'⟩ := other
  obtain rfl : port = port' :=
    UInt16.toNat_inj.mp (hport.trans hportAgain.symm)
  cases hip
  rfl

/-- There is one way to read an attribute. -/
theorem Reads.eq_endpoint? {outcome : Except ProtocolError (Option Endpoint)}
    (hreads : item.Reads outcome) : item.endpoint? = outcome := by
  have hcode := item.reads_endpoint?
  generalize item.endpoint? = found at hcode
  cases hreads with
  | tooShort hshort =>
      cases hcode with
      | tooShort _ => rfl
      | foreign hforeign => exact absurd hshort hforeign.not_isTooShort
      | address hholds => exact absurd hshort hholds.not_isTooShort
  | foreign hforeign =>
      cases hcode with
      | tooShort hshort => exact absurd hshort hforeign.not_isTooShort
      | foreign _ => rfl
      | address hholds => exact absurd hholds.family hforeign.2
  | address hholds =>
      cases hcode with
      | tooShort hshort => exact absurd hshort hholds.not_isTooShort
      | foreign hforeign => exact absurd hholds.family hforeign.2
      | address hother => rw [hother.eq hholds]

/-! ## The rule -/

/-- The attribute is of a type and holds an endpoint. -/
def IsUsable (type : UInt16) (item : Attribute) : Prop :=
  item.type = type ∧ ∃ endpoint, item.Holds endpoint

def NoneUsable (type : UInt16) (items : List Attribute) : Prop :=
  ∀ item ∈ items, ¬item.IsUsable type

/-- What the first usable attribute of a type holds. -/
inductive FirstHeld (type : UInt16) :
    List Attribute → Option Endpoint → Prop
  | nowhere {items : List Attribute} (hnone : NoneUsable type items) :
      FirstHeld type items none
  | behind {before : List Attribute} {item : Attribute} {endpoint : Endpoint}
      (after : List Attribute) (hbefore : NoneUsable type before)
      (htype : item.type = type) (hholds : item.Holds endpoint) :
      FirstHeld type (before ++ item :: after) (some endpoint)

section Rule

variable (preferred older : UInt16) (reveal : Endpoint → Endpoint)

/-- Attributes of the preferred type are always considered, those of the older
type until one of them was usable. -/
def Considered (before : List Attribute) (item : Attribute) : Prop :=
  item.type = preferred ∨ item.type = older ∧ NoneUsable older before

/-- The scan stops at an attribute, and what it says then. -/
inductive StopsWith (before : List Attribute) (item : Attribute) :
    Except ProtocolError (Option Endpoint) → Prop
  | tooShort (hconsidered : Considered preferred older before item)
      (hshort : item.IsTooShort) :
      StopsWith before item (.error (.truncatedAttribute item.type))
  | found (hpreferred : item.type = preferred) {endpoint : Endpoint}
      (hholds : item.Holds endpoint) :
      StopsWith before item (.ok (some (reveal endpoint)))

def Stops (before : List Attribute) (item : Attribute) : Prop :=
  ∃ outcome, StopsWith preferred older reveal before item outcome

def NeverStops (items : List Attribute) : Prop :=
  ∀ before item after, items = before ++ item :: after →
    ¬Stops preferred older reveal before item

/-- What a list of attributes tells: what the first stop says or, without a
stop, what the first usable attribute of the older type holds. -/
inductive Tells : List Attribute →
    Except ProtocolError (Option Endpoint) → Prop
  | stopped {before : List Attribute} {item : Attribute}
      {outcome : Except ProtocolError (Option Endpoint)}
      (after : List Attribute)
      (hbefore : NeverStops preferred older reveal before)
      (hstop : StopsWith preferred older reveal before item outcome) :
      Tells (before ++ item :: after) outcome
  | ended {items : List Attribute} {found : Option Endpoint}
      (hnever : NeverStops preferred older reveal items)
      (hfound : FirstHeld older items found) :
      Tells items (.ok found)

end Rule

/-! ## The scan follows the rule -/

section Scan

variable {preferred older type : UInt16} {reveal : Endpoint → Endpoint}
  {items before after : List Attribute} {inHand : Option Endpoint}
  {outcome : Except ProtocolError (Option Endpoint)}

theorem IsForeign.not_stops (hforeign : item.IsForeign) :
    ¬Stops preferred older reveal before item := by
  rintro ⟨_, ⟨_, hshort⟩ | ⟨_, hholds⟩⟩
  · exact hforeign.not_isTooShort hshort
  · exact hforeign.not_holds _ hholds

theorem Holds.not_stops (hholds : item.Holds endpoint)
    (hpreferred : item.type ≠ preferred) :
    ¬Stops preferred older reveal before item := by
  rintro ⟨_, ⟨_, hshort⟩ | ⟨htype, _⟩⟩
  · exact hholds.not_isTooShort hshort
  · exact hpreferred htype

theorem not_stops_of_not_considered
    (hignored : ¬Considered preferred older before item) :
    ¬Stops preferred older reveal before item := by
  rintro ⟨_, ⟨hconsidered, _⟩ | ⟨htype, _⟩⟩
  · exact hignored hconsidered
  · exact hignored (Or.inl htype)

theorem NeverStops.nil : NeverStops preferred older reveal [] := by
  intro before item after hsplit
  simp at hsplit

theorem NeverStops.concat (hnever : NeverStops preferred older reveal items)
    (hitem : ¬Stops preferred older reveal items item) :
    NeverStops preferred older reveal (items ++ [item]) := by
  intro before other after hsplit
  rcases List.eq_nil_or_concat after with rfl | ⟨middle, last, rfl⟩
  · obtain ⟨rfl, hlast⟩ := List.append_inj' hsplit rfl
    cases hlast
    exact hitem
  · rw [List.concat_eq_append, ← List.cons_append, ← List.append_assoc]
      at hsplit
    exact hnever _ _ middle (List.append_inj' hsplit rfl).1

theorem IsForeign.not_isUsable (hforeign : item.IsForeign) :
    ¬item.IsUsable type := by
  rintro ⟨_, endpoint, hholds⟩
  exact hforeign.not_holds endpoint hholds

theorem FirstHeld.noneUsable (hfirst : FirstHeld type items none) :
    NoneUsable type items := by
  cases hfirst with
  | nowhere hnone => exact hnone

theorem FirstHeld.not_noneUsable
    (hfirst : FirstHeld type items (some endpoint)) :
    ¬NoneUsable type items := by
  cases hfirst with
  | behind after _ htype hholds =>
      intro hnone
      exact hnone _ (List.mem_append_right _ List.mem_cons_self)
        ⟨htype, endpoint, hholds⟩

/-- An attribute behind a usable one, or not usable itself, does not change
which is the first. -/
theorem FirstHeld.concat (hfirst : FirstHeld type items inHand)
    (hitem : inHand = none → ¬item.IsUsable type) :
    FirstHeld type (items ++ [item]) inHand := by
  cases hfirst with
  | nowhere hnone =>
      apply FirstHeld.nowhere
      intro other hmem
      rcases List.mem_append.mp hmem with hold | hlast
      · exact hnone other hold
      · rw [List.mem_singleton.mp hlast]
        exact hitem rfl
  | behind after hbefore htype hholds =>
      rw [List.append_assoc, List.cons_append]
      exact .behind _ hbefore htype hholds

/-- The scan of what stands behind attributes that it has passed, with what it
has in hand from them. -/
theorem tells_scan (hnever : NeverStops preferred older reveal before)
    (hfirst : FirstHeld older before inHand) :
    Tells preferred older reveal (before ++ items)
      (scan preferred older reveal inHand items) := by
  -- On the attributes that are left; one that does not stop the scan joins
  -- those that it has passed.
  induction items generalizing before inHand with
  | nil =>
      rw [List.append_nil]
      exact .ended hnever hfirst
  | cons item rest ih =>
      have hreads := item.reads_endpoint?
      have hpass {held : Option Endpoint}
          (hstop : ¬Stops preferred older reveal before item)
          (hheld : FirstHeld older (before ++ [item]) held) :
          Tells preferred older reveal (before ++ item :: rest)
            (scan preferred older reveal held rest) := by
        rw [List.append_cons]
        exact ih (hnever.concat hstop) hheld
      have hforeign (hforeign : item.IsForeign) :
          FirstHeld older (before ++ [item]) inHand :=
        hfirst.concat fun _ => hforeign.not_isUsable
      rw [scan]
      by_cases hpreferred : item.type = preferred
      · rw [if_pos hpreferred]
        generalize item.endpoint? = outcome at hreads
        cases hreads with
        | tooShort hshort =>
            exact .stopped rest hnever (.tooShort (Or.inl hpreferred) hshort)
        | foreign hother => exact hpass hother.not_stops (hforeign hother)
        | address hholds =>
            exact .stopped rest hnever (.found hpreferred hholds)
      · rw [if_neg hpreferred]
        by_cases holder : item.type = older ∧ inHand = none
        · rw [if_pos holder]
          obtain ⟨htype, rfl⟩ := holder
          generalize item.endpoint? = outcome at hreads
          cases hreads with
          | tooShort hshort =>
              exact .stopped rest hnever
                (.tooShort (Or.inr ⟨htype, hfirst.noneUsable⟩) hshort)
          | foreign hother => exact hpass hother.not_stops (hforeign hother)
          | address hholds =>
              exact hpass (hholds.not_stops hpreferred)
                (.behind [] hfirst.noneUsable htype hholds)
        · rw [if_neg holder]
          apply hpass
          · apply not_stops_of_not_considered
            rintro (htype | ⟨htype, hnone⟩)
            · exact hpreferred htype
            · cases inHand with
              | none => exact holder ⟨htype, rfl⟩
              | some endpoint => exact hfirst.not_noneUsable hnone
          · apply hfirst.concat
            rintro hempty ⟨htype, _⟩
            exact holder ⟨htype, hempty⟩

/-! ## The rule leaves no choice -/

/-- There is only one first place at which something holds. -/
theorem split_eq_of_first {α : Type} (holds : List α → α → Prop)
    {before after other later : List α} {item found : α}
    (hsplit : before ++ item :: after = other ++ found :: later)
    (hbefore : ∀ front middle back, before = front ++ middle :: back →
      ¬holds front middle)
    (hother : ∀ front middle back, other = front ++ middle :: back →
      ¬holds front middle)
    (hitem : holds before item) (hfound : holds other found) :
    before = other ∧ item = found := by
  rcases List.append_eq_append_iff.mp hsplit with
    ⟨middle, hlonger, hrest⟩ | ⟨middle, hlonger, hrest⟩
  · cases middle with
    | nil =>
        cases hrest
        exact ⟨by simpa using hlonger.symm, rfl⟩
    | cons first middle =>
        cases hrest
        exact absurd hitem (hother _ _ _ hlonger)
  · cases middle with
    | nil =>
        cases hrest
        exact ⟨by simpa using hlonger, rfl⟩
    | cons first middle =>
        cases hrest
        exact absurd hfound (hbefore _ _ _ hlonger)

theorem StopsWith.eq {found : Except ProtocolError (Option Endpoint)}
    (hstop : StopsWith preferred older reveal before item outcome)
    (hfound : StopsWith preferred older reveal before item found) :
    outcome = found := by
  cases hstop with
  | tooShort _ hshort =>
      cases hfound with
      | tooShort _ _ => rfl
      | found _ hholds => exact absurd hshort hholds.not_isTooShort
  | found _ hholds =>
      cases hfound with
      | tooShort _ hshort => exact absurd hshort hholds.not_isTooShort
      | found _ hother => rw [hholds.eq hother]

theorem FirstHeld.eq {found : Option Endpoint}
    (hfirst : FirstHeld type items inHand)
    (hfound : FirstHeld type items found) : inHand = found := by
  cases hfirst with
  | nowhere hnone =>
      cases found with
      | none => rfl
      | some endpoint => exact absurd hnone hfound.not_noneUsable
  | @behind before item endpoint after hbefore htype hholds =>
      generalize hsplit : before ++ item :: after = items at hfound
      cases hfound with
      | nowhere hnone =>
          have hmem : item ∈ items := by simp [← hsplit]
          exact absurd ⟨htype, _, hholds⟩ (hnone item hmem)
      | @behind other found _ later hother htypeFound hheld =>
          have hpassed {passed : List Attribute}
              (hnone : NoneUsable type passed)
              (front : List Attribute) (middle : Attribute)
              (back : List Attribute)
              (hmiddle : passed = front ++ middle :: back) :
              ¬middle.IsUsable type :=
            hnone middle (by simp [hmiddle])
          obtain ⟨_, rfl⟩ := split_eq_of_first (fun _ => IsUsable type) hsplit
            (hpassed hbefore) (hpassed hother) ⟨htype, _, hholds⟩
            ⟨htypeFound, _, hheld⟩
          rw [hholds.eq hheld]

theorem Tells.eq {found : Except ProtocolError (Option Endpoint)}
    (htells : Tells preferred older reveal items outcome)
    (hfound : Tells preferred older reveal items found) :
    outcome = found := by
  cases htells with
  | @stopped before item _ after hbefore hstop =>
      generalize hsplit : before ++ item :: after = items at hfound
      cases hfound with
      | stopped later hother hstopFound =>
          obtain ⟨rfl, rfl⟩ := split_eq_of_first _ hsplit hbefore hother
            ⟨_, hstop⟩ ⟨_, hstopFound⟩
          exact hstop.eq hstopFound
      | ended hnever _ => exact absurd ⟨_, hstop⟩ (hnever _ _ _ hsplit.symm)
  | ended hnever hfirst =>
      cases hfound with
      | stopped later _ hstop => exact absurd ⟨_, hstop⟩ (hnever _ _ _ rfl)
      | ended _ hother => rw [hfirst.eq hother]

theorem scan_eq_iff :
    scan preferred older reveal none items = outcome ↔
      Tells preferred older reveal items outcome := by
  have hscan : Tells preferred older reveal ([] ++ items)
      (scan preferred older reveal none items) :=
    tells_scan .nil (.nowhere (List.forall_mem_nil _))
  constructor
  · rintro rfl
    exact hscan
  · exact hscan.eq

/-- Attributes of other types are as good as absent. -/
theorem scan_filter (preferred older : UInt16) (reveal : Endpoint → Endpoint)
    (inHand : Option Endpoint) (items : List Attribute) :
    scan preferred older reveal inHand
        (items.filter fun item =>
          item.type = preferred ∨ item.type = older) =
      scan preferred older reveal inHand items := by
  induction items generalizing inHand with
  | nil => rfl
  | cons item rest ih =>
      by_cases hpreferred : item.type = preferred
      · rw [List.filter_cons_of_pos (by simp [hpreferred])]
        simp only [scan, ih]
      · by_cases holder : item.type = older
        · rw [List.filter_cons_of_pos (by simp [holder])]
          simp only [scan, ih]
        · rw [List.filter_cons_of_neg (by simp [hpreferred, holder]), ih,
            scan, if_neg hpreferred, if_neg fun hitem => holder hitem.1]

end Scan

/-! ## What a message tells -/

/-- A reader of addresses that follows the rule, with what this comes to for
attributes that it prefers and for those that play no part. -/
structure FollowsRule (preferred older : UInt16)
    (reveal : Endpoint → Endpoint)
    (read : List Attribute → Except ProtocolError (Option Endpoint)) :
    Prop where
  tells : ∀ items outcome,
    read items = outcome ↔ Tells preferred older reveal items outcome
  /-- A usable attribute of the preferred type that the scan comes to wins,
  whatever of the older type stands before or behind it. -/
  wins : ∀ before item after endpoint,
    NeverStops preferred older reveal before → item.type = preferred →
    item.Holds endpoint →
    read (before ++ item :: after) = .ok (some (reveal endpoint))
  /-- What stands behind the stop does not matter. -/
  stopped : ∀ before item after,
    NeverStops preferred older reveal before →
    Stops preferred older reveal before item →
    read (before ++ item :: after) = read (before ++ [item])
  /-- Attributes of other types do not matter. -/
  others : ∀ items,
    read items =
      read (items.filter fun item =>
        item.type = preferred ∨ item.type = older)

theorem followsRule_scan (preferred older : UInt16)
    (reveal : Endpoint → Endpoint) :
    FollowsRule preferred older reveal
      (scan preferred older reveal none) := by
  constructor
  case tells => exact fun _ _ => scan_eq_iff
  case wins =>
    intro before item after endpoint hbefore htype hholds
    exact scan_eq_iff.mpr (.stopped after hbefore (.found htype hholds))
  case stopped =>
    rintro before item after hbefore ⟨outcome, hstop⟩
    rw [scan_eq_iff.mpr (.stopped after hbefore hstop),
      scan_eq_iff.mpr (.stopped [] hbefore hstop)]
  case others =>
    exact fun items => (scan_filter preferred older reveal none items).symm

end Attribute

namespace Message

/-- An attribute is read as what it holds, and both addresses of a message are
read by the same rule: the client's from the masked attributes and the plain
ones, the server's other one from the attributes of the newer and of the older
name. -/
theorem addresses_followRule (type : UInt16) (transaction : TransactionId) :
    (∀ (item : Attribute) (outcome : Except ProtocolError (Option Endpoint)),
        item.endpoint? = outcome ↔ item.Reads outcome) ∧
      Attribute.FollowsRule Attribute.xorMappedAddress
        Attribute.mappedAddress Attribute.mask
        (fun items => mappedAddress ⟨type, transaction, items⟩) ∧
      Attribute.FollowsRule Attribute.otherAddress
        Attribute.changedAddress id
        (fun items => otherAddress ⟨type, transaction, items⟩) := by
  refine ⟨?_, Attribute.followsRule_scan _ _ _,
    Attribute.followsRule_scan _ _ _⟩
  intro item outcome
  constructor
  · rintro rfl
    exact item.reads_endpoint?
  · exact Attribute.Reads.eq_endpoint?

end Message

end Pinhole
