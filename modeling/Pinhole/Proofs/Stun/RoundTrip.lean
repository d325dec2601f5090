import Mathlib.Algebra.Order.BigOperators.Group.List
import Mathlib.Algebra.Order.Group.Nat
import Mathlib.Algebra.Ring.Nat
import Pinhole.Stun.Message

/-!
# Reading what was written

A message is read back from its encoding as long as its attributes fit the
16-bit length of the header.  Beyond that the header declares less than what
follows it, and by the modulus nothing else can happen than that the reader
notices: the encoding of a message that is too long is never read as another
message.

The frame lemma below is the only place where the header is taken apart; the
rest is about the list of attributes.
-/

namespace Pinhole

namespace Bytes

theorem toNat_ofNat_of_lt {value : Nat} (hvalue : value < 65536) :
    (UInt16.ofNat value).toNat = value := by
  rw [UInt16.toNat_ofNat']
  omega

end Bytes

theorem TransactionId.ofBytes?_take (transaction : TransactionId)
    (payload : Bytes) :
    TransactionId.ofBytes? ((transaction.bytes ++ payload).take 16) =
      some transaction := by
  have htake :
      (transaction.bytes ++ payload).take 16 = transaction.bytes :=
    List.take_left' transaction.length_bytes
  rw [htake, TransactionId.ofBytes?, dif_pos transaction.length_bytes]

namespace Message

/-- The bytes of a message with this header and these bytes behind it. -/
def frame (type length : UInt16) (transaction : TransactionId)
    (payload : Bytes) : Bytes :=
  Bytes.ofWord type ++ Bytes.ofWord length ++ transaction.bytes ++ payload

theorem length_frame (type length : UInt16) (transaction : TransactionId)
    (payload : Bytes) :
    (frame type length transaction payload).length =
      headerLength + payload.length := by
  simp only [frame, Bytes.ofWord, List.length_append, List.length_cons,
    List.length_nil, transaction.length_bytes, headerLength]

/-- The front of a frame, when it is cut behind the header. -/
theorem take_frame (type length : UInt16) (transaction : TransactionId)
    (payload : Bytes) (count : Nat) :
    (frame type length transaction payload).take (headerLength + count) =
      frame type length transaction (payload.take count) := by
  have hheader := length_frame type length transaction []
  simp only [frame, List.append_nil, List.length_nil, Nat.add_zero]
    at hheader ⊢
  rw [List.take_append, hheader, Nat.add_sub_cancel_left,
    List.take_of_length_le (by omega)]

theorem declaredLength_frame (type length : UInt16)
    (transaction : TransactionId) (payload : Bytes) :
    declaredLength (frame type length transaction payload) =
      .ok length.toNat := by
  simp only [frame, Bytes.ofWord, List.cons_append, List.nil_append,
    declaredLength, Bytes.toWord_ofWord]

/-- Reading a complete header: the lengths are compared first, then the
attributes are read. -/
theorem decode_frame (type length : UInt16) (transaction : TransactionId)
    (payload : Bytes) :
    decode (frame type length transaction payload) =
      if length.toNat = payload.length then
        (readAttributes payload).map (⟨type, transaction, ·⟩)
      else .error (.lengthMismatch length.toNat payload.length) := by
  have hdrop :
      (transaction.bytes ++ payload).drop 16 = payload :=
    List.drop_left' transaction.length_bytes
  have htransaction := TransactionId.ofBytes?_take transaction payload
  simp only [frame, Bytes.ofWord, List.cons_append, List.nil_append,
    decode, declaredLength, bind, Except.bind, Bytes.toWord_ofWord,
    htransaction, hdrop]
  by_cases hlength : length.toNat = payload.length
  · rw [if_pos hlength]
    cases hread : readAttributes payload with
    | error error => simp [hlength, Except.map]
    | ok attributes => simp [hlength, pure, Except.pure, Except.map]
  · rw [if_neg hlength]
    simp [hlength, throw, throwThe, MonadExceptOf.throw]

/-! ## The attributes behind a header -/

/-- One attribute is read back from the front, its padding included. -/
theorem readAttributes_encode_append (item : Attribute) (rest : Bytes)
    (hlength : item.value.length < 65536) :
    readAttributes (item.encode ++ rest) =
      (readAttributes rest).map (item :: ·) := by
  let padding : Bytes :=
    List.replicate
      (Bytes.padded item.value.length - item.value.length) 0
  let length := UInt16.ofNat item.value.length
  have hbytes :
      item.encode ++ rest =
        UInt8.ofNat (item.type.toNat / 256) :: UInt8.ofNat item.type.toNat ::
          UInt8.ofNat (length.toNat / 256) :: UInt8.ofNat length.toNat ::
          (item.value ++ (padding ++ rest)) := by
    simp only [Attribute.encode, Bytes.ofWord, List.append_assoc,
      List.cons_append, List.nil_append, length, padding]
  have hdeclared : length.toNat = item.value.length :=
    Bytes.toNat_ofNat_of_lt hlength
  have htake :
      (item.value ++ (padding ++ rest)).take item.value.length =
        item.value :=
    List.take_left
  have hdrop :
      (item.value ++ (padding ++ rest)).drop
          (Bytes.padded item.value.length) = rest := by
    have hpadded := Bytes.le_padded item.value.length
    rw [← List.append_assoc]
    apply List.drop_left'
    simp only [List.length_append, List.length_replicate, padding]
    omega
  rw [hbytes, readAttributes, Bytes.toWord_ofWord, Bytes.toWord_ofWord,
    hdeclared, htake, hdrop]
  simp only [Nat.lt_irrefl, if_false]

theorem readAttributes_flatMap (items : List Attribute)
    (hlengths : ∀ item ∈ items, item.value.length < 65536) :
    readAttributes (items.flatMap Attribute.encode) = .ok items := by
  induction items with
  | nil => simp [readAttributes]
  | cons item items ih =>
      have hitem : item.value.length < 65536 :=
        hlengths item List.mem_cons_self
      have hitems :=
        ih fun other hother => hlengths other (List.mem_cons_of_mem _ hother)
      rw [List.flatMap_cons, readAttributes_encode_append item _ hitem,
        hitems]
      rfl

/-! ## Messages -/

theorem payloadLength_eq_sum (message : Message) :
    message.payloadLength =
      (message.attributes.map fun item =>
        4 + Bytes.padded item.value.length).sum := by
  unfold payloadLength
  induction message.attributes with
  | nil => rfl
  | cons item items ih =>
      rw [List.foldr_cons, ih, List.map_cons, List.sum_cons]
      rfl

theorem length_flatMap_encode (message : Message) :
    (message.attributes.flatMap Attribute.encode).length =
      message.payloadLength := by
  rw [payloadLength_eq_sum, List.length_flatMap]
  simp only [Attribute.length_encode, Attribute.encodedLength]

/-- No value is longer than all attributes together. -/
theorem length_value_le_payloadLength {message : Message} {item : Attribute}
    (hitem : item ∈ message.attributes) :
    item.value.length ≤ message.payloadLength := by
  have hterm :
      4 + Bytes.padded item.value.length ≤ message.payloadLength := by
    rw [payloadLength_eq_sum]
    exact List.single_le_sum (fun _ _ => Nat.zero_le _) _
      (List.mem_map.mpr ⟨item, hitem, rfl⟩)
  have hpadded := Bytes.le_padded item.value.length
  omega

theorem encode_eq_frame (message : Message) :
    message.encode =
      frame message.type (UInt16.ofNat message.payloadLength)
        message.transaction (message.attributes.flatMap Attribute.encode) :=
  rfl

/-- A message whose attributes fit the length field is read back. -/
theorem decode_encode_of_lt {message : Message}
    (hpayload : message.payloadLength < 65536) :
    decode message.encode = .ok message := by
  have hread :
      readAttributes (message.attributes.flatMap Attribute.encode) =
        .ok message.attributes := by
    apply readAttributes_flatMap
    intro item hitem
    have hle := length_value_le_payloadLength hitem
    omega
  rw [encode_eq_frame, decode_frame, length_flatMap_encode,
    Bytes.toNat_ofNat_of_lt hpayload, if_pos rfl, hread]
  rfl

/-- A message that is too long is refused for its length. -/
theorem decode_encode_of_le {message : Message}
    (hpayload : 65536 ≤ message.payloadLength) :
    decode message.encode =
      .error
        (.lengthMismatch (message.payloadLength % 65536)
          message.payloadLength) := by
  have hdeclared :
      (UInt16.ofNat message.payloadLength).toNat =
        message.payloadLength % 65536 := by
    rw [UInt16.toNat_ofNat']
  have hne : message.payloadLength % 65536 ≠ message.payloadLength := by
    omega
  rw [encode_eq_frame, decode_frame, length_flatMap_encode, hdeclared,
    if_neg hne]

/-- The round trip with its exact limit.  The encoding has twenty bytes more
than the attributes with their values rounded up to multiples of four; it is
read back if these are fewer than 65536 bytes, and refused with both lengths
otherwise. -/
theorem decode_encode_up_to_limit (message : Message) :
    message.payloadLength =
        (message.attributes.map fun item =>
          4 + (item.value.length + 3) / 4 * 4).sum ∧
      (message.payloadLength < 65536 →
        message.encode.length = 20 + message.payloadLength ∧
          declaredLength message.encode = .ok message.payloadLength ∧
          decode message.encode = .ok message) ∧
      (65536 ≤ message.payloadLength →
        decode message.encode =
          .error
            (.lengthMismatch (message.payloadLength % 65536)
              message.payloadLength)) := by
  refine ⟨payloadLength_eq_sum message, ?_, decode_encode_of_le⟩
  intro hlt
  refine ⟨?_, ?_, decode_encode_of_lt hlt⟩
  · rw [encode_eq_frame, length_frame, length_flatMap_encode]
    rfl
  · rw [encode_eq_frame, declaredLength_frame, Bytes.toNat_ofNat_of_lt hlt]

/-- A response with one attribute of twelve bytes a number of times. -/
def crowded (count : Nat) : Message :=
  ⟨bindingResponse, ⟨List.replicate 16 7, by decide⟩,
    List.replicate count ⟨0x8022, [1, 2, 3, 4, 5]⟩⟩

theorem payloadLength_crowded (count : Nat) :
    (crowded count).payloadLength = count * 12 := by
  rw [payloadLength_eq_sum, crowded, List.map_replicate, List.sum_replicate]
  rfl

/-- 5461 attributes of twelve bytes are read back, one more are refused. -/
theorem decode_encode_crowded :
    decode (crowded 5461).encode = .ok (crowded 5461) ∧
      decode (crowded 5462).encode =
        .error (.lengthMismatch 8 65544) := by
  have hfits := (decode_encode_up_to_limit (crowded 5461)).2.1
  have hexceeds := (decode_encode_up_to_limit (crowded 5462)).2.2
  rw [payloadLength_crowded] at hfits hexceeds
  exact ⟨(hfits (by decide)).2.2, hexceeds (by decide)⟩

end Message

end Pinhole
