/-
**The argument codec round-trips.**

* `decodeAt_layout` — a component of a frame is read back from its slot, at every type, whatever
  stands before it, after it and behind the frame. The one hypothesis is that the frame is shorter
  than `2 ^ 256` bytes, so that its offsets and lengths fit their words.
* `decodeArgs_encodeArgs` — an argument list is decoded from its encoding.
* `encodeCall_injective` — two argument lists with the same calldata are the same.
* `encodeWithSelector_eq_encodeCall` — the untyped encoder gives a call's calldata on exactly the
  components of the call's arguments.
-/

import AaveV2Payloads.Library.Abi

namespace Solidity.Abi

/-! ### The parts of a value -/

/-- Reading many values that are all there. -/
theorem readMany_eq {α : Type} {read : Nat → Option α} (values : List α) :
    ∀ start, (∀ index (inside : index < values.length),
        read (start + index) = some values[index]) →
      readMany read start values.length = some values := by
  induction values with
  | nil => exact fun _ _ => rfl
  | cons value rest ih =>
      intro start found
      have head : read start = some value := found 0 (Nat.zero_lt_succ _)
      have others := ih (start + 1) fun index inside => by
        rw [Nat.add_assoc, Nat.add_comm 1 index]
        exact found (index + 1) (Nat.succ_lt_succ inside)
      rw [List.length_cons, readMany, head, Option.bind_eq_bind, Option.bind_some, others]
      rfl

/-- A length word holds its length. -/
theorem toNat_lengthWord {length : Nat} (fits : length < 2 ^ 256) :
    (BitVec.ofNat 256 length).toNat = length := by
  rw [BitVec.toNat_ofNat, Nat.mod_eq_of_lt fits]

/-- The word at the start of a tail. -/
theorem readWord_head (word : Word) (after : Bytes) :
    readWord (wordBytes word ++ after) 0 = some word := by
  have read : readWord ([] ++ (wordBytes word ++ after)) 0 = some word := readWord_append [] word after rfl
  rwa [List.nil_append] at read

theorem decodeBlob_encodeBlob {content : Bytes} (fits : content.length < 2 ^ 256) (rest : Bytes) :
    decodeBlob (encodeBlob content ++ rest) = some content := by
  have body : (encodeBlob content ++ rest).drop 32 =
      content ++ (padding content.length ++ rest) := by
    rw [encodeBlob, List.append_assoc, List.drop_left' (length_wordBytes _), List.append_assoc]
  have size : readWord (encodeBlob content ++ rest) 0 =
      some (BitVec.ofNat 256 content.length) := by
    rw [encodeBlob, List.append_assoc]
    exact readWord_head _ _
  rw [decodeBlob, size, Option.bind_eq_bind, Option.bind_some]
  simp only [toNat_lengthWord fits, body, List.take_left' rfl, if_pos]

/-- A string is read back from its bytes. -/
theorem fromUTF8_stringBytes (text : String) :
    String.fromUTF8? (stringBytes text).toByteArray = some text := by
  have bytes : (stringBytes text).toByteArray = text.toByteArray := by
    apply ByteArray.ext
    rw [List.data_toByteArray, stringBytes, String.toUTF8_eq_toByteArray, Array.toArray_toList]
  rw [bytes, String.fromUTF8?, dif_pos text.isValidUTF8]
  rfl

/-! ### One component -/

section Component

variable {before after : List Slot} {rest : Bytes}

/-- The tail of a component of a frame that fits. -/
theorem followOffset_layout {content : Bytes}
    (fits : (layout (before ++ .tail content :: after)).length < 2 ^ 256) :
    followOffset (layout (before ++ .tail content :: after) ++ rest) (32 * before.length) =
      some (content ++ (tails after ++ rest)) := by
  have offset := toNat_lengthWord
    (Nat.lt_of_le_of_lt (tailOffset_le before content after) fits)
  rw [followOffset, readWord_layout_offset, Option.map_some, offset, drop_layout]

/-- The tail of a component of a frame that fits, fits. -/
theorem length_tail_lt {content : Bytes}
    (fits : (layout (before ++ .tail content :: after)).length < 2 ^ 256) :
    content.length < 2 ^ 256 := by
  have inside : Slot.tail content ∈ before ++ .tail content :: after :=
    List.mem_append_right _ List.mem_cons_self
  have size := size_le_layout inside
  simp only [Slot.size] at size
  omega

theorem length_blob_lt {content : Bytes}
    (fits : (layout (before ++ .tail (encodeBlob content) :: after)).length < 2 ^ 256) :
    content.length < 2 ^ 256 := by
  have size := length_tail_lt fits
  rw [encodeBlob, List.length_append, List.length_append] at size
  omega

theorem bytes_layout {content : Bytes}
    (fits : (layout (before ++ .tail (encodeBlob content) :: after)).length < 2 ^ 256) :
    (followOffset (layout (before ++ .tail (encodeBlob content) :: after) ++ rest)
      (32 * before.length)).bind decodeBlob = some content := by
  rw [followOffset_layout fits, Option.bind_some, decodeBlob_encodeBlob (length_blob_lt fits)]

end Component

/-- A frame of `n` components has `32 * n` bytes at least. -/
theorem length_le_layout (slots : List Slot) : 32 * slots.length ≤ (layout slots).length := by
  rw [layout, List.length_append, length_headsFrom]
  exact Nat.le_add_right _ _

/-- **A component is read back from its slot.** The induction is on the type: the elements of an
array are the components of the frame behind its length. -/
theorem decodeAt_layout : ∀ (type : AbiType) (value : type.Value) (before after : List Slot)
    (rest : Bytes), (layout (before ++ slot type value :: after)).length < 2 ^ 256 →
    decodeAt type (layout (before ++ slot type value :: after) ++ rest) (32 * before.length) =
      some value
  | .uint256, value, before, after, rest, _ => readWord_layout before value after rest
  | .bytes32, value, before, after, rest, _ => readWord_layout before value after rest
  | .address, value, before, after, rest, _ => by
      have small : (value.setWidth 256).toNat = value.toNat := by
        rw [BitVec.toNat_setWidth]
        exact Nat.mod_eq_of_lt (lt_trans value.isLt (by norm_num))
      have back : (value.setWidth 256).setWidth 160 = value := by
        apply BitVec.eq_of_toNat_eq
        rw [BitVec.toNat_setWidth, small, Nat.mod_eq_of_lt value.isLt]
      rw [slot, decodeAt, readWord_layout, Option.bind_eq_bind, Option.bind_some, small,
        if_pos value.isLt, back]
  | .bool, value, before, after, rest, _ => by
      rw [slot, decodeAt, readWord_layout, Option.bind_eq_bind, Option.bind_some]
      cases value <;> rfl
  | .bytes, value, before, after, rest, fits => bytes_layout fits
  | .string, value, before, after, rest, fits => by
      rw [slot] at fits ⊢
      rw [decodeAt, bytes_layout fits, Option.bind_eq_bind, Option.bind_some,
        fromUTF8_stringBytes]
  | .array element, values, before, after, rest, fits => by
      rw [slot] at fits ⊢
      have tailFits := length_tail_lt fits
      rw [List.length_append] at tailFits
      have bodyFits : (layout (values.map (slot element))).length < 2 ^ 256 := by omega
      have count := length_le_layout (values.map (slot element))
      rw [List.length_map] at count
      have length : (BitVec.ofNat 256 values.length).toNat = values.length := toNat_lengthWord (by omega)
      rw [decodeAt, followOffset_layout fits]
      simp only [Option.bind_eq_bind, Option.bind_some, List.append_assoc, readWord_head,
        List.drop_left' (length_wordBytes _), length]
      rw [if_pos (by rw [List.length_append]; omega)]
      refine readMany_eq values 0 fun index inside => ?_
      -- the element's slot, between those before it and those after it
      have split : values.map (slot element) =
          (values.take index).map (slot element) ++
            slot element values[index] :: (values.drop (index + 1)).map (slot element) := by
        rw [← List.map_cons, ← List.map_append, List.getElem_cons_drop, List.take_append_drop]
      have place : ((values.take index).map (slot element)).length = index := by
        rw [List.length_map, List.length_take, Nat.min_eq_left inside.le]
      rw [split] at bodyFits ⊢
      have read := decodeAt_layout element values[index]
        ((values.take index).map (slot element)) ((values.drop (index + 1)).map (slot element))
        (tails after ++ rest) bodyFits
      rw [place] at read
      rwa [Nat.zero_add]

/-! ### Argument lists -/

theorem decodeArgsFrom_layout : ∀ (types : List AbiType) (values : Values types)
    (before : List Slot) (rest : Bytes),
    (layout (before ++ argSlots types values)).length < 2 ^ 256 →
    decodeArgsFrom types (layout (before ++ argSlots types values) ++ rest) before.length =
      some values
  | [], _, _, _, _ => rfl
  | type :: types, (value, values), before, rest, fits => by
      have head := decodeAt_layout type value before (argSlots types values) rest fits
      have shift : before ++ argSlots (type :: types) (value, values) =
          (before ++ [slot type value]) ++ argSlots types values := by
        rw [argSlots, List.append_assoc, List.singleton_append]
      have others := decodeArgsFrom_layout types values (before ++ [slot type value]) rest
        (by rwa [← shift])
      rw [← shift, List.length_append, List.length_singleton] at others
      rw [decodeArgsFrom, argSlots] at *
      rw [head, Option.bind_eq_bind, Option.bind_some, others]
      rfl

/-- **An argument list is decoded from its encoding**, whatever follows it. -/
theorem decodeArgs_encodeArgs (types : List AbiType) (values : Values types) (rest : Bytes)
    (fits : (encodeArgs types values).length < 2 ^ 256) :
    decodeArgs types (encodeArgs types values ++ rest) = some values :=
  decodeArgsFrom_layout types values [] rest fits

/-- The arguments behind the selector. -/
theorem drop_encodeCall (selector : Selector) (types : List AbiType) (values : Values types) :
    (encodeCall selector types values).drop 4 = encodeArgs types values :=
  List.drop_left' selector.four

/-- **A call's arguments are decoded from its calldata.** -/
theorem decodeArgs_encodeCall (selector : Selector) (types : List AbiType) (values : Values types)
    (fits : (encodeArgs types values).length < 2 ^ 256) :
    decodeArgs types ((encodeCall selector types values).drop 4) = some values := by
  rw [drop_encodeCall]
  have decoded := decodeArgs_encodeArgs types values [] fits
  rwa [List.append_nil] at decoded

/-- **Calldata determines the arguments.** -/
theorem encodeCall_injective (selector : Selector) (types : List AbiType)
    {first second : Values types} (firstFits : (encodeArgs types first).length < 2 ^ 256)
    (secondFits : (encodeArgs types second).length < 2 ^ 256)
    (same : encodeCall selector types first = encodeCall selector types second) :
    first = second := by
  have one := decodeArgs_encodeCall selector types first firstFits
  rw [same, decodeArgs_encodeCall selector types second secondFits] at one
  exact (Option.some.inj one).symm

/-- The untyped encoder on the components of a typed argument list. -/
theorem encodeWithSelector_eq_encodeCall (selector : Selector) (types : List AbiType)
    (values : Values types) (arguments : List (Σ type : AbiType, type.Value))
    (same : arguments.map (fun argument => slot argument.1 argument.2) = argSlots types values) :
    encodeWithSelector selector arguments = encodeCall selector types values := by
  rw [encodeWithSelector, encodeCall, encodeArgs, same]

end Solidity.Abi
