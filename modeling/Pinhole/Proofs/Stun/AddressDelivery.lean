import Mathlib.Data.List.Permutation
import Pinhole.Proofs.Stun.AddressScan
import Pinhole.Proofs.Stun.RoundTrip

/-!
# Addresses from the server to the client

A server tells a client its endpoint in a masked attribute, in a plain one or in
both, and its own other endpoint under the newer or the older name.  Whatever
attributes of other types stand around them, and in whatever order all of them
are written, the client reads both endpoints back.
-/

namespace Pinhole

namespace Attribute

/-- The types whose attributes carry an address. -/
def addressTypes : List UInt16 := [0x0001, 0x0020, 0x0005, 0x802c]

/-- The attributes that tell a client its endpoint.  With a masked one, the
plain one may carry anything. -/
inductive CarriesMapped (endpoint : Endpoint) : List Attribute → Prop
  | masked : CarriesMapped endpoint [.ofXorMapped endpoint]
  | plain : CarriesMapped endpoint [.ofMapped endpoint]
  | both (outdated : Endpoint) :
      CarriesMapped endpoint [.ofXorMapped endpoint, .ofMapped outdated]

/-- The attributes that tell the server's other endpoint. -/
inductive CarriesOther (endpoint : Endpoint) : List Attribute → Prop
  | newer : CarriesOther endpoint [.ofOther endpoint]
  | older : CarriesOther endpoint [.ofChanged endpoint]

@[simp] theorem endpoint?_addressValue (type : UInt16) (endpoint : Endpoint) :
    endpoint? ⟨type, addressValue endpoint⟩ = .ok (some endpoint) := by
  simp only [endpoint?, addressValue, Bytes.ofWord, List.cons_append,
    List.nil_append, Bytes.toWord_ofWord]
  rfl

section Carried

variable {items mapped other : List Attribute} {endpoint : Endpoint}

/-- A scan sees of the attributes that carry addresses those of its two types,
in the order they stand. -/
theorem exists_perm_scan_eq {preferred older : UInt16}
    (hpreferred : preferred ∈ addressTypes) (holder : older ∈ addressTypes)
    (reveal : Endpoint → Endpoint) {carried : List Attribute}
    (hcarried :
      (items.filter fun item => item.type ∈ addressTypes).Perm carried) :
    ∃ seen : List Attribute,
      seen.Perm
          (carried.filter fun item =>
            item.type = preferred ∨ item.type = older) ∧
        scan preferred older reveal none items =
          scan preferred older reveal none seen := by
  refine ⟨_, hcarried.filter _, ?_⟩
  have htypes : ∀ item ∈ items,
      (decide (item.type = preferred ∨ item.type = older) &&
          decide (item.type ∈ addressTypes)) =
        decide (item.type = preferred ∨ item.type = older) := by
    intro item _
    by_cases htype : item.type = preferred ∨ item.type = older
    · rcases htype with htype | htype <;> simp [htype, hpreferred, holder]
    · simp [htype]
  rw [List.filter_filter, List.filter_congr htypes, scan_filter]

theorem CarriesMapped.scan_eq (hmapped : CarriesMapped endpoint mapped)
    (hitems : items.Perm mapped) :
    scan xorMappedAddress mappedAddress mask none items =
      .ok (some endpoint) := by
  cases hmapped with
  | masked =>
      rw [List.perm_singleton.mp hitems]
      simp [scan, ofXorMapped, mask_mask]
  | plain =>
      rw [List.perm_singleton.mp hitems]
      simp [scan, ofMapped, xorMappedAddress, mappedAddress]
  | both outdated =>
      -- The plain attribute may stand in front; it is kept in hand, and then
      -- the masked one wins.
      rcases List.perm_pair.mp hitems with rfl | rfl <;>
        simp [scan, ofXorMapped, ofMapped, xorMappedAddress, mappedAddress,
          mask_mask]

theorem CarriesOther.scan_eq (hother : CarriesOther endpoint other)
    (hitems : items.Perm other) :
    scan otherAddress changedAddress id none items =
      .ok (some endpoint) := by
  cases hother <;>
    rw [List.perm_singleton.mp hitems] <;>
    simp [scan, ofOther, ofChanged, otherAddress, changedAddress]

/-- The types of the one address tell its attributes from those of the other. -/
theorem filter_types {client server : Endpoint}
    (hmapped : CarriesMapped client mapped)
    (hother : CarriesOther server other) :
    (mapped ++ other).filter (fun item =>
          item.type = xorMappedAddress ∨ item.type = mappedAddress) =
        mapped ∧
      (mapped ++ other).filter (fun item =>
          item.type = otherAddress ∨ item.type = changedAddress) =
        other := by
  cases hmapped <;> cases hother <;> exact ⟨rfl, rfl⟩

end Carried

end Attribute

namespace Message

open Attribute

/-- What a server writes into a message is what a client reads from it. -/
theorem addresses_of_decode_encode {message : Message}
    {client server : Endpoint} {mapped other : List Attribute}
    (hpayload : message.payloadLength < 65536)
    (hmapped : CarriesMapped client mapped)
    (hother : CarriesOther server other)
    (hcarried :
      (message.attributes.filter fun item =>
        item.type ∈ addressTypes).Perm (mapped ++ other)) :
    ∃ read, decode message.encode = .ok read ∧
      read.mappedAddress = .ok (some client) ∧
      read.otherAddress = .ok (some server) := by
  obtain ⟨hmappedTypes, hotherTypes⟩ := filter_types hmapped hother
  refine ⟨message, decode_encode_of_lt hpayload, ?_, ?_⟩
  · have hnewer : xorMappedAddress ∈ addressTypes := by decide
    have holder : Attribute.mappedAddress ∈ addressTypes := by decide
    obtain ⟨seen, hperm, hscan⟩ :=
      exists_perm_scan_eq hnewer holder mask hcarried
    rw [hmappedTypes] at hperm
    exact hscan.trans (hmapped.scan_eq hperm)
  · have hnewer : Attribute.otherAddress ∈ addressTypes := by decide
    have holder : changedAddress ∈ addressTypes := by decide
    obtain ⟨seen, hperm, hscan⟩ :=
      exists_perm_scan_eq hnewer holder id hcarried
    rw [hotherTypes] at hperm
    exact hscan.trans (hother.scan_eq hperm)

/-- A response that tells an outdated endpoint first, and other things before,
between and behind the addresses. -/
def talkative : Message :=
  ⟨bindingResponse, .ofFresh (Vector.replicate 12 7),
    [⟨0x8022, [1, 2, 3, 4, 5]⟩, .ofMapped ⟨⟨10, 0, 0, 2⟩, 50000⟩,
      .ofChanged ⟨⟨198, 51, 100, 2⟩, 3479⟩, ⟨0x8023, []⟩,
      .ofXorMapped ⟨⟨203, 0, 113, 7⟩, 40000⟩, ⟨0x0006, [0]⟩]⟩

theorem addresses_of_decode_encode_talkative :
    ∃ read, decode talkative.encode = .ok read ∧
      read.mappedAddress = .ok (some ⟨⟨203, 0, 113, 7⟩, 40000⟩) ∧
      read.otherAddress = .ok (some ⟨⟨198, 51, 100, 2⟩, 3479⟩) :=
  addresses_of_decode_encode (by decide)
    (.both ⟨⟨10, 0, 0, 2⟩, 50000⟩) .older (by decide)

end Message

end Pinhole
