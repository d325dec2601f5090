import Mathlib.Data.List.Forall2
import Pinhole.Proofs.Stun.RoundTrip

/-!
# The grammar of a message

Behind the header of a message stand items: a type, a length, a value of that
length, and a padding up to the next multiple of four.  Only the last item of a
sequence may lack some of its padding or all of it.

The reader is compared with this grammar, which knows nothing of how reading
goes on.  A reading is the trace of the reader: the items in turn, and what it
stops at.  Every payload has one; it tells the result of the reader, and no
other sequence of items covers as much of the payload as it does.
-/

namespace Pinhole

theorem Bytes.ofWord_append_inj {left right : UInt16}
    {afterLeft afterRight : Bytes} :
    ofWord left ++ afterLeft = ofWord right ++ afterRight ↔
      left = right ∧ afterLeft = afterRight := by
  constructor
  · intro hbytes
    simp only [ofWord, List.cons_append, List.nil_append,
      List.cons.injEq] at hbytes
    obtain ⟨hhigh, hlow, hafter⟩ := hbytes
    refine ⟨?_, hafter⟩
    rw [← toWord_ofWord left, ← toWord_ofWord right, hhigh, hlow]
  · rintro ⟨rfl, rfl⟩
    rfl

/-- An attribute as it stands in a message. -/
structure Item where
  type : UInt16
  value : Bytes
  padding : Bytes
  length_value : value.length < 65536
  length_padding :
    value.length + padding.length ≤ (value.length + 3) / 4 * 4
deriving DecidableEq, Repr

namespace Item

def content (item : Item) : Attribute :=
  ⟨item.type, item.value⟩

def bytes (item : Item) : Bytes :=
  Bytes.ofWord item.type ++
    Bytes.ofWord (UInt16.ofNat item.value.length) ++
    item.value ++ item.padding

/-- Nothing is missing of the padding. -/
def IsFull (item : Item) : Prop :=
  4 ∣ item.bytes.length

theorem length_bytes (item : Item) :
    item.bytes.length = 4 + item.value.length + item.padding.length := by
  simp only [bytes, Bytes.ofWord, List.length_append, List.length_cons,
    List.length_nil]

theorem isFull_iff (item : Item) :
    item.IsFull ↔
      item.value.length + item.padding.length =
        Bytes.padded item.value.length := by
  have hpadding := item.length_padding
  have hbytes := item.length_bytes
  unfold IsFull Bytes.padded
  omega

/-- The bytes at the front of a payload tell which item it starts with, up to
the padding. -/
theorem of_bytes_append {left right : Item} {afterLeft afterRight : Bytes}
    (hbytes : left.bytes ++ afterLeft = right.bytes ++ afterRight) :
    left.type = right.type ∧ left.value = right.value ∧
      left.padding ++ afterLeft = right.padding ++ afterRight := by
  simp only [bytes, List.append_assoc, Bytes.ofWord_append_inj] at hbytes
  obtain ⟨htype, hword, hrest⟩ := hbytes
  have hlength : left.value.length = right.value.length := by
    rw [← Bytes.toNat_ofNat_of_lt left.length_value, hword,
      Bytes.toNat_ofNat_of_lt right.length_value]
  obtain ⟨hvalue, hafter⟩ := List.append_inj hrest hlength
  exact ⟨htype, hvalue, hafter⟩

theorem eq_of_padding_eq {left right : Item} (htype : left.type = right.type)
    (hvalue : left.value = right.value)
    (hpadding : left.padding = right.padding) : left = right := by
  cases left
  cases right
  simp_all

/-- A full item has as much padding as any other with its value. -/
theorem length_padding_le_of_isFull {item other : Item}
    (hvalue : other.value = item.value) (hfull : item.IsFull) :
    other.padding.length ≤ item.padding.length := by
  rw [isFull_iff] at hfull
  have hother := other.length_padding
  rw [hvalue] at hother
  unfold Bytes.padded at hfull
  omega

/-- The same attribute with other padding bytes. -/
def SameUpToPadding (item other : Item) : Prop :=
  other.content = item.content ∧
    other.padding.length = item.padding.length

theorem SameUpToPadding.length_bytes_eq {item other : Item}
    (hsame : item.SameUpToPadding other) :
    other.bytes.length = item.bytes.length := by
  have hvalue : other.value = item.value := congrArg Attribute.value hsame.1
  rw [length_bytes, length_bytes, hvalue, hsame.2]

end Item

def spell (items : List Item) : Bytes :=
  items.flatMap Item.bytes

theorem length_spell_cons (item : Item) (items : List Item) :
    (spell (item :: items)).length =
      item.bytes.length + (spell items).length := by
  rw [spell, List.flatMap_cons, List.length_append]
  rfl

theorem four_mul_length_le_length_spell (items : List Item) :
    4 * items.length ≤ (spell items).length := by
  induction items with
  | nil => simp
  | cons item items ih =>
      have hitem := item.length_bytes
      rw [length_spell_cons, List.length_cons]
      omega

theorem length_spell_of_sameUpToPadding {items other : List Item}
    (hsame : List.Forall₂ Item.SameUpToPadding items other) :
    (spell other).length = (spell items).length := by
  induction hsame with
  | nil => rfl
  | cons hfirst hlater ih =>
      rw [length_spell_cons, length_spell_cons, hfirst.length_bytes_eq, ih]

theorem map_content_of_sameUpToPadding {items other : List Item}
    (hsame : List.Forall₂ Item.SameUpToPadding items other) :
    other.map Item.content = items.map Item.content := by
  induction hsame with
  | nil => rfl
  | cons hfirst hlater ih => rw [List.map_cons, List.map_cons, hfirst.1, ih]

/-- A payload starts with a sequence of items. -/
structure StartsWith (payload : Bytes) (items : List Item) : Prop where
  isPrefix : spell items <+: payload
  full : ∀ item ∈ items.dropLast, item.IsFull

/-- No sequence that the payload starts with covers more of it. -/
structure Longest (payload : Bytes) (items : List Item) : Prop
    extends StartsWith payload items where
  longest : ∀ other, StartsWith payload other →
    (spell other).length ≤ (spell items).length

/-- Why no item follows: there is nothing left, or too little for its header,
or less than the header declares. -/
inductive Stop : Bytes → Option ProtocolError → Prop
  | covered : Stop [] none
  | scant {left : Bytes} (hsome : 0 < left.length) (hfew : left.length < 4) :
      Stop left (some (.malformedAttributes left.length))
  | short {type length : UInt16} {rest : Bytes}
      (hshort : rest.length < length.toNat) :
      Stop (Bytes.ofWord type ++ Bytes.ofWord length ++ rest)
        (some (.truncatedAttribute type))

/-- The items a payload is read as, and what stops the reading. -/
inductive Reading : Bytes → List Item → Bytes → Option ProtocolError → Prop
  | stops {left : Bytes} {fault? : Option ProtocolError}
      (hstop : Stop left fault?) : Reading left [] left fault?
  | last {item : Item} (hlacks : ¬item.IsFull) :
      Reading item.bytes [item] [] none
  | next {item : Item} {items : List Item} {rest left : Bytes}
      {fault? : Option ProtocolError} (hfull : item.IsFull)
      (hrest : Reading rest items left fault?) :
      Reading (item.bytes ++ rest) (item :: items) left fault?

/-- What reading some items and then stopping for a fault, if for any, comes
to. -/
def resultOf (items : List Item) :
    Option ProtocolError → Except ProtocolError (List Attribute)
  | none => .ok (items.map Item.content)
  | some fault => .error fault

/-! ## Every payload has a reading -/

/-- Behind a complete header with enough bytes for its value stands an item.
It takes all of its padding, or all that is left. -/
theorem exists_item (type length : UInt16) {rest : Bytes}
    (henough : length.toNat ≤ rest.length) :
    ∃ (item : Item) (after : Bytes),
      Bytes.ofWord type ++ Bytes.ofWord length ++ rest =
          item.bytes ++ after ∧
        (item.IsFull ∨ after = []) := by
  have hsize := length.toNat_lt
  let missing := Bytes.padded length.toNat - length.toNat
  let tail := rest.drop length.toNat
  have hvalue : (rest.take length.toNat).length = length.toNat :=
    List.length_take_of_le henough
  have hpadding : (tail.take missing).length ≤ missing :=
    List.length_take_le missing tail
  have hpadded := Bytes.le_padded length.toNat
  let item : Item :=
    { type := type
      value := rest.take length.toNat
      padding := tail.take missing
      length_value := by omega
      length_padding := by
        rw [hvalue]
        change _ ≤ Bytes.padded length.toNat
        omega }
  refine ⟨item, tail.drop missing, ?_, ?_⟩
  · simp [Item.bytes, item, tail, hvalue, List.take_append_drop]
  · by_cases hmissing : missing ≤ tail.length
    · left
      rw [Item.isFull_iff]
      simp only [item, hvalue, List.length_take_of_le hmissing]
      omega
    · right
      exact List.drop_eq_nil_of_le (by omega)

theorem exists_reading (payload : Bytes) :
    ∃ items left fault?, Reading payload items left fault? := by
  match payload with
  | [] => exact ⟨[], [], none, .stops .covered⟩
  | [a] => exact ⟨[], _, _, .stops (.scant (by simp) (by simp))⟩
  | [a, b] => exact ⟨[], _, _, .stops (.scant (by simp) (by simp))⟩
  | [a, b, c] => exact ⟨[], _, _, .stops (.scant (by simp) (by simp))⟩
  | a :: b :: c :: d :: rest =>
      let type := Bytes.toWord a b
      let length := Bytes.toWord c d
      have hheader :
          a :: b :: c :: d :: rest =
            Bytes.ofWord type ++ Bytes.ofWord length ++ rest := by
        simp [type, length, Bytes.ofWord_toWord]
      by_cases henough : length.toNat ≤ rest.length
      · obtain ⟨item, after, hitem, hfull⟩ := exists_item type length henough
        rw [hheader, hitem]
        by_cases hitemFull : item.IsFull
        -- The recursion is on what stands behind the item.
        · have hshorter : after.length < rest.length + 4 := by
            have hlength := congrArg List.length (hheader.trans hitem)
            have hbytes := item.length_bytes
            simp only [List.length_cons, List.length_append] at hlength
            omega
          obtain ⟨items, left, fault?, hreading⟩ := exists_reading after
          exact ⟨_, _, _, .next hitemFull hreading⟩
        · have hnone : after = [] := hfull.resolve_left hitemFull
          rw [hnone, List.append_nil]
          exact ⟨_, _, _, .last hitemFull⟩
      · rw [hheader]
        exact ⟨[], _, _, .stops (.short (Nat.lt_of_not_le henough))⟩
termination_by payload.length

/-! ## A reading tells what the reader returns -/

theorem readAttributes_of_stop {left : Bytes} {fault? : Option ProtocolError}
    (hstop : Stop left fault?) :
    Message.readAttributes left = resultOf [] fault? := by
  cases hstop with
  | covered => simp [Message.readAttributes, resultOf]
  | @scant left hsome hfew =>
      rcases left with _ | ⟨a, _ | ⟨b, _ | ⟨c, _ | ⟨d, rest⟩⟩⟩⟩
      · simp at hsome
      · simp [Message.readAttributes, resultOf]
      · simp [Message.readAttributes, resultOf]
      · simp [Message.readAttributes, resultOf]
      · simp only [List.length_cons] at hfew
        omega
  | @short type length rest hshort =>
      have htake : (rest.take length.toNat).length < length.toNat := by
        rw [List.length_take]
        omega
      simp only [Bytes.ofWord, List.cons_append, List.nil_append,
        Message.readAttributes, Bytes.toWord_ofWord, if_pos htake, resultOf]

/-- An item is read from the front, whatever its padding holds. -/
theorem readAttributes_bytes_append (item : Item) {rest : Bytes}
    (hfull : item.IsFull ∨ rest = []) :
    Message.readAttributes (item.bytes ++ rest) =
      (Message.readAttributes rest).map (item.content :: ·) := by
  let length := UInt16.ofNat item.value.length
  have hdeclared : length.toNat = item.value.length :=
    Bytes.toNat_ofNat_of_lt item.length_value
  have hbytes :
      item.bytes ++ rest =
        UInt8.ofNat (item.type.toNat / 256) :: UInt8.ofNat item.type.toNat ::
          UInt8.ofNat (length.toNat / 256) :: UInt8.ofNat length.toNat ::
          (item.value ++ (item.padding ++ rest)) := by
    simp only [Item.bytes, Bytes.ofWord, List.append_assoc, List.cons_append,
      List.nil_append, length]
  have htake :
      (item.value ++ (item.padding ++ rest)).take item.value.length =
        item.value :=
    List.take_left
  have hdrop :
      (item.value ++ (item.padding ++ rest)).drop
          (Bytes.padded item.value.length) = rest := by
    rw [← List.append_assoc]
    rcases hfull with hfull | rfl
    · apply List.drop_left'
      rw [List.length_append]
      exact item.isFull_iff.mp hfull
    · apply List.drop_eq_nil_of_le
      have hpadding := item.length_padding
      simp only [List.length_append, List.append_nil]
      exact hpadding
  rw [hbytes, Message.readAttributes, Bytes.toWord_ofWord,
    Bytes.toWord_ofWord, hdeclared, htake, hdrop]
  simp only [Nat.lt_irrefl, if_false]
  rfl

namespace Reading

variable {payload left : Bytes} {items : List Item}
  {fault? : Option ProtocolError}

theorem readAttributes_eq (hreading : Reading payload items left fault?) :
    Message.readAttributes payload = resultOf items fault? := by
  induction hreading with
  | stops hstop => exact readAttributes_of_stop hstop
  | @last item hlacks =>
      have hitem := readAttributes_bytes_append item (Or.inr (Eq.refl []))
      rw [List.append_nil] at hitem
      rw [hitem, readAttributes_of_stop .covered]
      rfl
  | @next item items rest left fault? hfull hrest ih =>
      rw [readAttributes_bytes_append item (Or.inl hfull), ih]
      cases fault? <;> rfl

theorem split (hreading : Reading payload items left fault?) :
    payload = spell items ++ left ∧ Stop left fault? := by
  induction hreading with
  | stops hstop => exact ⟨rfl, hstop⟩
  | last hlacks => exact ⟨by simp [spell], .covered⟩
  | next hfull hrest ih =>
      obtain ⟨hrest, hstop⟩ := ih
      refine ⟨?_, hstop⟩
      rw [hrest, spell, spell, List.flatMap_cons, List.append_assoc]

theorem startsWith (hreading : Reading payload items left fault?) :
    StartsWith payload items where
  isPrefix := ⟨left, hreading.split.1.symm⟩
  full := by
    induction hreading with
    | stops hstop => simp
    | last hlacks => simp
    | @next item items rest left fault? hfull hrest ih =>
        intro other hother
        cases items with
        | nil => simp at hother
        | cons second items =>
            rw [List.dropLast_cons_cons, List.mem_cons] at hother
            rcases hother with rfl | hlater
            · exact hfull
            · exact ih other hlater

end Reading

/-! ## No sequence covers more -/

theorem Stop.not_isPrefix {left : Bytes} {fault? : Option ProtocolError}
    (hstop : Stop left fault?) (item : Item) : ¬item.bytes <+: left := by
  intro hleads
  have hlength := hleads.length_le
  have hbytes := item.length_bytes
  cases hstop with
  | covered =>
      rw [List.length_nil] at hlength
      omega
  | scant hsome hfew => omega
  | @short type length rest hshort =>
      obtain ⟨after, hafter⟩ := hleads
      simp only [Item.bytes, List.append_assoc,
        Bytes.ofWord_append_inj] at hafter
      obtain ⟨_, hdeclared, _⟩ := hafter
      have hvalue : length.toNat = item.value.length := by
        rw [← hdeclared]
        exact Bytes.toNat_ofNat_of_lt item.length_value
      simp only [Bytes.ofWord, List.length_append, List.length_cons,
        List.length_nil] at hlength
      omega

theorem StartsWith.uncons {payload : Bytes} {item : Item} {items : List Item}
    (hstarts : StartsWith payload (item :: items)) :
    ∃ rest, payload = item.bytes ++ rest ∧ (items = [] ∨ item.IsFull) ∧
      StartsWith rest items := by
  obtain ⟨after, hafter⟩ := hstarts.isPrefix
  refine ⟨spell items ++ after, ?_, ?_, ⟨List.prefix_append _ _, ?_⟩⟩
  · rw [← hafter, spell, List.flatMap_cons, List.append_assoc]
    rfl
  · cases items with
    | nil => exact Or.inl rfl
    | cons second items =>
        right
        exact hstarts.full item (by simp)
  · intro other hother
    cases items with
    | nil => simp at hother
    | cons second items =>
        exact hstarts.full other (List.mem_cons_of_mem item hother)

namespace Reading

variable {payload left : Bytes} {items other : List Item}
  {fault? : Option ProtocolError}

/-- Any other sequence parts from the reading at an item that lacks padding
which is there, and ends with that, or ends before the reading does. -/
theorem eq_or_length_lt (hreading : Reading payload items left fault?)
    (hother : StartsWith payload other) :
    other = items ∨ (spell other).length < (spell items).length := by
  induction hreading generalizing other with
  | stops hstop =>
      cases other with
      | nil => exact Or.inl rfl
      | cons first others =>
          obtain ⟨rest, hpayload, _, _⟩ := hother.uncons
          exact absurd ⟨rest, hpayload.symm⟩ (hstop.not_isPrefix first)
  | @last item hlacks =>
      cases other with
      | nil =>
          right
          rw [length_spell_cons, item.length_bytes]
          simp only [spell, List.flatMap_nil, List.length_nil]
          omega
      | cons first others =>
          obtain ⟨rest, hpayload, hfull, _⟩ := hother.uncons
          rw [← List.append_nil item.bytes] at hpayload
          obtain ⟨htype, hvalue, hpadding⟩ := Item.of_bytes_append hpayload
          rw [List.append_nil] at hpadding
          have hlength := congrArg List.length hpadding
          rw [List.length_append] at hlength
          by_cases hrest : rest = []
          · left
            rw [hrest, List.append_nil] at hpadding
            have hitem := Item.eq_of_padding_eq htype hvalue hpadding
            rw [hitem] at hlacks
            rw [hitem, hfull.resolve_right hlacks]
          · right
            have hmore := List.length_pos_iff.mpr hrest
            have hfirst : ¬first.IsFull := by
              intro hfirst
              have hle := Item.length_padding_le_of_isFull hvalue hfirst
              omega
            rw [hfull.resolve_right hfirst, length_spell_cons,
              length_spell_cons, first.length_bytes, item.length_bytes,
              hvalue]
            omega
  | @next item items rest left fault? hitem hrest ih =>
      cases other with
      | nil =>
          right
          rw [length_spell_cons, item.length_bytes]
          simp only [spell, List.flatMap_nil, List.length_nil]
          omega
      | cons first others =>
          obtain ⟨after, hpayload, hfull, hothers⟩ := hother.uncons
          obtain ⟨htype, hvalue, hpadding⟩ := Item.of_bytes_append hpayload
          have hle := Item.length_padding_le_of_isFull hvalue.symm hitem
          rw [length_spell_cons, length_spell_cons]
          by_cases hlength : item.padding.length = first.padding.length
          · obtain ⟨hsame, hafter⟩ := List.append_inj hpadding hlength
            have hfirst := Item.eq_of_padding_eq htype hvalue hsame
            rw [← hafter] at hothers
            rw [hfirst]
            rcases ih hothers with heq | hshorter
            · exact Or.inl (by rw [heq])
            · right
              omega
          · right
            have hfirst : ¬first.IsFull := by
              intro hfirst
              have hge := Item.length_padding_le_of_isFull hvalue hfirst
              omega
            rw [hfull.resolve_right hfirst, first.length_bytes,
              item.length_bytes, hvalue]
            simp only [spell, List.flatMap_nil, List.length_nil]
            omega

theorem longest (hreading : Reading payload items left fault?) :
    Longest payload items where
  toStartsWith := hreading.startsWith
  longest := by
    intro other hother
    rcases hreading.eq_or_length_lt hother with rfl | hshorter
    · exact Nat.le_refl _
    · exact Nat.le_of_lt hshorter

theorem eq_of_longest (hreading : Reading payload items left fault?)
    (hother : Longest payload other) : other = items := by
  have hle := hother.longest items hreading.startsWith
  rcases hreading.eq_or_length_lt hother.toStartsWith with heq | hshorter
  · exact heq
  · omega

/-- The reading of a payload that differs in its padding bytes. -/
theorem repad (hreading : Reading payload items left fault?)
    (hsame : List.Forall₂ Item.SameUpToPadding items other) :
    Reading (spell other ++ left) other left fault? := by
  induction hreading generalizing other with
  | stops hstop =>
      cases hsame
      exact .stops hstop
  | @last item hlacks =>
      obtain ⟨first, others, hfirst, hothers, rfl⟩ :=
        List.forall₂_cons_left_iff.mp hsame
      cases hothers
      have hfirstLacks : ¬first.IsFull := by
        unfold Item.IsFull at hlacks ⊢
        rwa [hfirst.length_bytes_eq]
      simpa [spell] using Reading.last hfirstLacks
  | @next item items rest left fault? hfull hrest ih =>
      obtain ⟨first, others, hfirst, hothers, rfl⟩ :=
        List.forall₂_cons_left_iff.mp hsame
      have hfirstFull : first.IsFull := by
        unfold Item.IsFull at hfull ⊢
        rwa [hfirst.length_bytes_eq]
      rw [spell, List.flatMap_cons, List.append_assoc]
      exact .next hfirstFull (ih hothers)

end Reading

/-! ## What a reading stops at -/

namespace Stop

variable {left : Bytes} {fault? : Option ProtocolError}

theorem eq_none_iff (hstop : Stop left fault?) :
    fault? = none ↔ left = [] := by
  cases hstop with
  | covered => simp
  | scant hsome hfew => simpa using List.length_pos_iff.mp hsome
  | short hshort => simp [Bytes.ofWord]

theorem eq_malformed_iff (hstop : Stop left fault?) (remaining : Nat) :
    fault? = some (.malformedAttributes remaining) ↔
      left.length = remaining ∧ 1 ≤ remaining ∧ remaining ≤ 3 := by
  cases hstop with
  | covered =>
      simp only [reduceCtorEq, List.length_nil, false_iff]
      omega
  | scant hsome hfew =>
      simp only [Option.some.injEq, ProtocolError.malformedAttributes.injEq]
      omega
  | short hshort =>
      simp only [Option.some.injEq, reduceCtorEq, Bytes.ofWord,
        List.length_append, List.length_cons, List.length_nil, false_iff]
      omega

theorem eq_truncated_iff (hstop : Stop left fault?) (type : UInt16) :
    fault? = some (.truncatedAttribute type) ↔
      ∃ (declared : UInt16) (rest : Bytes),
        left = Bytes.ofWord type ++ Bytes.ofWord declared ++ rest ∧
          rest.length < declared.toNat := by
  constructor
  · rintro rfl
    cases hstop with
    | short hshort => exact ⟨_, _, rfl, hshort⟩
  · rintro ⟨declared, rest, hleft, hrest⟩
    cases hstop with
    | covered => simp [Bytes.ofWord] at hleft
    | scant hsome hfew =>
        rw [hleft] at hfew
        simp only [Bytes.ofWord, List.length_append, List.length_cons,
          List.length_nil] at hfew
        omega
    | short hshort =>
        rw [List.append_assoc, List.append_assoc,
          Bytes.ofWord_append_inj] at hleft
        rw [hleft.1]

theorem exists_fault (hstop : Stop left fault?) (hleft : left ≠ []) :
    (∃ remaining, fault? = some (.malformedAttributes remaining)) ∨
      ∃ type, fault? = some (.truncatedAttribute type) := by
  cases hstop with
  | covered => exact absurd rfl hleft
  | scant hsome hfew => exact Or.inl ⟨_, rfl⟩
  | short hshort => exact Or.inr ⟨_, rfl⟩

end Stop

/-! ## Messages -/

namespace Message

theorem decode_of_lt {bytes : Bytes} (hshort : bytes.length < 20) :
    decode bytes = .error (.messageTooShort bytes.length) := by
  match bytes with
  | [] | [a] | [a, b] | [a, b, c] => rfl
  | a :: b :: c :: d :: rest =>
      have hnone : TransactionId.ofBytes? (rest.take 16) = none := by
        apply dif_neg
        simp only [List.length_cons] at hshort
        rw [List.length_take]
        omega
      simp only [decode, declaredLength, bind, Except.bind, hnone]
      rfl

theorem exists_frame {bytes : Bytes} (hlong : 20 ≤ bytes.length) :
    ∃ type length transaction payload,
      bytes = frame type length transaction payload := by
  match bytes with
  | [] | [a] | [a, b] | [a, b, c] => simp at hlong
  | a :: b :: c :: d :: rest =>
      simp only [List.length_cons] at hlong
      have hsixteen : (rest.take 16).length = 16 := by
        rw [List.length_take]
        omega
      refine
        ⟨Bytes.toWord a b, Bytes.toWord c d, ⟨rest.take 16, hsixteen⟩,
          rest.drop 16, ?_⟩
      simp [frame, Bytes.ofWord_toWord]

/-- What the grammar says of bytes whose header declares the right length:
`items` is what stands behind the header, and `left` what is no item. -/
structure Judged (bytes : Bytes) (type length : UInt16)
    (transaction : TransactionId) (items : List Item) (left : Bytes) :
    Prop where
  split : bytes = frame type length transaction (spell items ++ left)
  longest : Longest (spell items ++ left) items
  unique : ∀ other, Longest (spell items ++ left) other → other = items
  accepted : ∀ message, decode bytes = .ok message ↔
    left = [] ∧ message = ⟨type, transaction, items.map Item.content⟩
  padding : ∀ other, List.Forall₂ Item.SameUpToPadding items other →
    decode (frame type length transaction (spell other ++ left)) =
      decode bytes
  refused : left ≠ [] →
    (∃ remaining, decode bytes = .error (.malformedAttributes remaining)) ∨
      ∃ kind, decode bytes = .error (.truncatedAttribute kind)
  malformed : ∀ remaining,
    decode bytes = .error (.malformedAttributes remaining) ↔
      left.length = remaining ∧ 1 ≤ remaining ∧ remaining ≤ 3
  truncated : ∀ kind,
    decode bytes = .error (.truncatedAttribute kind) ↔
      ∃ (declared : UInt16) (rest : Bytes),
        left = Bytes.ofWord kind ++ Bytes.ofWord declared ++ rest ∧
          rest.length < declared.toNat
  count : items.length ≤ (bytes.length - 20) / 4

theorem judged_of_reading {type length : UInt16}
    {transaction : TransactionId} {payload left : Bytes} {items : List Item}
    {fault? : Option ProtocolError} (hlength : length.toNat = payload.length)
    (hreading : Reading payload items left fault?) :
    Judged (frame type length transaction payload) type length transaction
      items left := by
  have hdecode {other : List Item} {bytes : Bytes}
      (hbytes : length.toNat = bytes.length)
      (hother : Reading bytes other left fault?) :
      decode (frame type length transaction bytes) =
        (resultOf other fault?).map (⟨type, transaction, ·⟩) := by
    rw [decode_frame, if_pos hbytes, hother.readAttributes_eq]
  have hresult := hdecode hlength hreading
  obtain ⟨hsplit, hstop⟩ := hreading.split
  have herror (fault : ProtocolError) :
      decode (frame type length transaction payload) = .error fault ↔
        fault? = some fault := by
    rw [hresult]
    cases fault? <;> simp [resultOf, Except.map]
  constructor
  case split => rw [hsplit]
  case longest =>
    rw [← hsplit]
    exact hreading.longest
  case unique =>
    intro other hother
    rw [← hsplit] at hother
    exact hreading.eq_of_longest hother
  case accepted =>
    intro message
    rw [hresult, ← hstop.eq_none_iff]
    cases fault? <;> simp [resultOf, Except.map, eq_comm]
  case padding =>
    intro other hother
    have hbytes :
        length.toNat = (spell other ++ left).length := by
      rw [hlength, hsplit, List.length_append, List.length_append,
        length_spell_of_sameUpToPadding hother]
    rw [hdecode hbytes (hreading.repad hother), hresult]
    cases fault? with
    | none => rw [resultOf, resultOf, map_content_of_sameUpToPadding hother]
    | some fault => rfl
  case refused =>
    intro hleft
    rcases hstop.exists_fault hleft with ⟨remaining, hfault⟩ | ⟨kind, hfault⟩
    · exact Or.inl ⟨remaining, (herror _).mpr hfault⟩
    · exact Or.inr ⟨kind, (herror _).mpr hfault⟩
  case malformed =>
    intro remaining
    rw [herror, hstop.eq_malformed_iff]
  case truncated =>
    intro kind
    rw [herror, hstop.eq_truncated_iff]
  case count =>
    have hitems := four_mul_length_le_length_spell items
    have hpayload := congrArg List.length hsplit
    rw [List.length_append] at hpayload
    rw [length_frame, headerLength]
    omega

/-- Every byte string is a message or is refused as the grammar says: it is
shorter than a header, or its header declares another length than what follows
has, or the items behind the header decide. -/
theorem decode_follows_grammar (bytes : Bytes) :
    (bytes.length < 20 ∧
        decode bytes = .error (.messageTooShort bytes.length)) ∨
      ∃ type length transaction payload,
        bytes = frame type length transaction payload ∧
          ((length.toNat ≠ bytes.length - 20 ∧
              decode bytes =
                .error
                  (.lengthMismatch length.toNat (bytes.length - 20))) ∨
            (length.toNat = bytes.length - 20 ∧
              ∃ items left,
                Judged bytes type length transaction items left)) := by
  by_cases hshort : bytes.length < 20
  · exact Or.inl ⟨hshort, decode_of_lt hshort⟩
  · right
    obtain ⟨type, length, transaction, payload, rfl⟩ :=
      exists_frame (Nat.le_of_not_lt hshort)
    have hbehind :
        (frame type length transaction payload).length - 20 =
          payload.length := by
      rw [length_frame, headerLength]
      omega
    refine ⟨type, length, transaction, payload, rfl, ?_⟩
    rw [hbehind]
    by_cases hlength : length.toNat = payload.length
    · right
      obtain ⟨items, left, fault?, hreading⟩ := exists_reading payload
      exact ⟨hlength, items, left, judged_of_reading hlength hreading⟩
    · left
      refine ⟨hlength, ?_⟩
      rw [decode_frame, if_neg hlength]

end Message

end Pinhole
