import Pinhole.Proofs.Stun.Grammar

/-!
# Writing what was read

A message that was read is written with all its padding, so it grows by the
padding that its last attribute lacked.  Reading it again works as long as the
length field can tell the greater length.  A payload of more than 65532 bytes
grows to 65536 of them; the header then declares none, and what was written is
refused.
-/

namespace Pinhole

/-- The attributes of a payload that is read to its end take its length when
they are written, rounded up to a multiple of four. -/
theorem Reading.payloadLength_eq {payload left : Bytes} {items : List Item}
    {fault? : Option ProtocolError}
    (hreading : Reading payload items left fault?) (hread : fault? = none)
    (type : UInt16) (transaction : TransactionId) :
    Message.payloadLength ⟨type, transaction, items.map Item.content⟩ =
      Bytes.padded payload.length := by
  have hcons (item : Item) (items : List Item) :
      Message.payloadLength
          ⟨type, transaction, (item :: items).map Item.content⟩ =
        4 + Bytes.padded item.value.length +
          Message.payloadLength
            ⟨type, transaction, items.map Item.content⟩ :=
    rfl
  induction hreading with
  | stops hstop =>
      rw [hstop.eq_none_iff.mp hread]
      rfl
  | @last item hlacks =>
      have hpadding := item.length_padding
      have hempty :
          Message.payloadLength
              ⟨type, transaction, ([] : List Item).map Item.content⟩ = 0 :=
        rfl
      rw [hcons, hempty, item.length_bytes]
      unfold Bytes.padded
      omega
  | @next item items rest left fault? hfull hrest ih =>
      have hbytes : 4 ∣ item.bytes.length := hfull
      have hpadded := item.isFull_iff.mp hfull
      rw [hcons, ih hread, List.length_append, ← hpadded]
      rw [item.length_bytes] at hbytes ⊢
      unfold Bytes.padded
      omega

namespace Message

theorem payloadLength_of_decode {bytes : Bytes} {message : Message}
    (hdecode : decode bytes = .ok message) :
    20 ≤ bytes.length ∧ bytes.length - 20 < 65536 ∧
      message.payloadLength = Bytes.padded (bytes.length - 20) := by
  by_cases hshort : bytes.length < 20
  · rw [decode_of_lt hshort] at hdecode
    cases hdecode
  · have hlong := Nat.le_of_not_lt hshort
    obtain ⟨type, length, transaction, payload, rfl⟩ := exists_frame hlong
    have hbehind :
        (frame type length transaction payload).length - 20 =
          payload.length := by
      rw [length_frame, headerLength, Nat.add_sub_cancel_left]
    rw [decode_frame] at hdecode
    by_cases hlength : length.toNat = payload.length
    · rw [if_pos hlength] at hdecode
      obtain ⟨items, left, fault?, hreading⟩ := exists_reading payload
      rw [hreading.readAttributes_eq] at hdecode
      cases fault? with
      | some fault => cases hdecode
      | none =>
          cases hdecode
          have hword := length.toNat_lt
          refine ⟨hlong, by omega, ?_⟩
          rw [hbehind]
          exact hreading.payloadLength_eq rfl type transaction
    · rw [if_neg hlength] at hdecode
      cases hdecode

/-- A message that was read is read again after writing, unless the bytes it was
read from were more than 65552.  Beyond that the header of what is written
declares no bytes at all, and 65536 follow. -/
theorem decode_encode_of_decode {bytes : Bytes} {message : Message}
    (hdecode : decode bytes = .ok message) :
    message.encode.length = 20 + Bytes.padded (bytes.length - 20) ∧
      (bytes.length ≤ 65552 → decode message.encode = .ok message) ∧
      (65552 < bytes.length →
        decode message.encode = .error (.lengthMismatch 0 65536)) := by
  obtain ⟨hheader, hlimit, hpayload⟩ := payloadLength_of_decode hdecode
  refine ⟨?_, ?_, ?_⟩
  · rw [encode_eq_frame, length_frame, length_flatMap_encode, hpayload]
    rfl
  · intro hfits
    apply decode_encode_of_lt
    rw [hpayload]
    unfold Bytes.padded
    omega
  · intro hexceeds
    have hfull : message.payloadLength = 65536 := by
      rw [hpayload]
      unfold Bytes.padded
      omega
    have hrefused := decode_encode_of_le hfull.ge
    rw [hfull] at hrefused
    exact hrefused

/-- An attribute of zeros without padding. -/
def bareItem (length : Nat) (hlength : length < 65536) : Item where
  type := 0x8022
  value := List.replicate length 0
  padding := []
  length_value := by rwa [List.length_replicate]
  length_padding := by
    simp only [List.length_replicate, List.length_nil]
    omega

/-- A response with an attribute of zeros. -/
def bare (length : Nat) : Message :=
  ⟨bindingResponse, .ofFresh (Vector.replicate 12 7),
    [⟨0x8022, List.replicate length 0⟩]⟩

/-- The same without padding. -/
def bareBytes (length : Nat) (hlength : length < 65536) : Bytes :=
  frame bindingResponse (UInt16.ofNat (4 + length))
    (.ofFresh (Vector.replicate 12 7)) (bareItem length hlength).bytes

theorem length_bytes_bareItem {length : Nat} (hlength : length < 65536) :
    (bareItem length hlength).bytes.length = 4 + length := by
  rw [Item.length_bytes]
  simp only [bareItem, List.length_replicate, List.length_nil, Nat.add_zero]

theorem length_bareBytes {length : Nat} (hlength : length < 65536) :
    (bareBytes length hlength).length = 24 + length := by
  rw [bareBytes, length_frame, length_bytes_bareItem, headerLength]
  omega

theorem decode_bareBytes (length : Nat) (hlength : 4 + length < 65536) :
    decode (bareBytes length (by omega)) = .ok (bare length) := by
  have hitem :=
    readAttributes_bytes_append (bareItem length (by omega))
      (Or.inr (Eq.refl []))
  rw [List.append_nil, readAttributes_of_stop .covered] at hitem
  rw [bareBytes, decode_frame, Bytes.toNat_ofNat_of_lt hlength,
    length_bytes_bareItem, if_pos rfl, hitem]
  rfl

/-- A response with a value of 65528 bytes is read again after writing, one with
a value of 65529 bytes is not. -/
theorem decode_encode_of_decode_bare :
    (decode (bareBytes 65528 (by decide)) = .ok (bare 65528) ∧
        decode (bare 65528).encode = .ok (bare 65528)) ∧
      decode (bareBytes 65529 (by decide)) = .ok (bare 65529) ∧
        decode (bare 65529).encode = .error (.lengthMismatch 0 65536) := by
  have hfits := decode_bareBytes 65528 (by decide)
  have hexceeds := decode_bareBytes 65529 (by decide)
  refine ⟨⟨hfits, (decode_encode_of_decode hfits).2.1 ?_⟩, hexceeds,
    (decode_encode_of_decode hexceeds).2.2 ?_⟩
  · rw [length_bareBytes]
  · rw [length_bareBytes]
    decide

/-- A response with a value of 65531 bytes and no padding is read, but what is
written then is not. -/
theorem not_forall_decode_encode :
    ¬ ∀ bytes message, decode bytes = .ok message →
      decode message.encode = .ok message := by
  intro hagain
  have hread := decode_bareBytes 65531 (by decide)
  have hexceeds : 65552 < (bareBytes 65531 (by decide)).length := by
    rw [length_bareBytes]
    decide
  have hrefused := (decode_encode_of_decode hread).2.2 hexceeds
  rw [hagain _ _ hread] at hrefused
  cases hrefused

end Message

end Pinhole
