/-
**The contract ABI: encoding and decoding of call arguments.**

Every type here occupies one 32-byte slot of its frame: a static value sits in the slot, a dynamic
one behind the offset in the slot, counted from the start of the frame (`layout`). A dynamic array
is its length, then a frame of its elements.

* `encodeArgs` / `decodeArgs` — the typed codec of an argument list, `decodeAt` reading a value of
  any type at any slot of any frame by following its offsets.
* `encodeWithSelector` — the encoder that takes its arguments at whatever types they come.
* `readWord_layout`, `drop_layout` — what stands in a slot and behind its offset.
* `length_layout` — the size of a frame is the sum over its slots.
-/

import AaveV2Payloads.Library.Execution
import Mathlib.Algebra.Order.BigOperators.Group.List

namespace Solidity

/-- A byte string. -/
abbrev Bytes := List UInt8

/-- A 256-bit word. -/
abbrev Word := BitVec 256

/-- An account's address. -/
abbrev Address := BitVec 160

namespace Abi

/-! ### Words -/

/-- The low `width` bytes of a number, most significant first. -/
def beBytes : Nat → Nat → Bytes
  | 0, _ => []
  | width + 1, value => beBytes width (value / 256) ++ [UInt8.ofNat value]

/-- The number a big-endian byte string spells. -/
def beNat (bytes : Bytes) : Nat := bytes.foldl (fun value byte => value * 256 + byte.toNat) 0

@[simp] theorem length_beBytes : ∀ width value : Nat, (beBytes width value).length = width
  | 0, _ => rfl
  | width + 1, value => by
      rw [beBytes, List.length_append, length_beBytes width, List.length_singleton]

/-- **Reading back a big-endian number.** -/
theorem beNat_beBytes : ∀ width value : Nat, beNat (beBytes width value) = value % 256 ^ width
  | 0, value => by rw [pow_zero, Nat.mod_one]; rfl
  | width + 1, value => by
      have previous := beNat_beBytes width (value / 256)
      unfold beNat at previous ⊢
      rw [beBytes, List.foldl_append, previous, List.foldl_cons, List.foldl_nil,
        UInt8.toNat_ofNat', pow_succ' 256 width, Nat.mod_mul, Nat.add_comm, Nat.mul_comm]

/-- A word as its 32 bytes. -/
def wordBytes (word : Word) : Bytes := beBytes 32 word.toNat

/-- The word at a byte position, if all of it is there. -/
def readWord (data : Bytes) (position : Nat) : Option Word :=
  if ((data.drop position).take 32).length = 32 then
    some (BitVec.ofNat 256 (beNat ((data.drop position).take 32)))
  else none

@[simp] theorem length_wordBytes (word : Word) : (wordBytes word).length = 32 :=
  length_beBytes 32 word.toNat

theorem readWord_append (before : Bytes) (word : Word) (after : Bytes) {position : Nat}
    (here : before.length = position) :
    readWord (before ++ (wordBytes word ++ after)) position = some word := by
  have chunk : ((before ++ (wordBytes word ++ after)).drop position).take 32 = wordBytes word := by
    rw [List.drop_left' here, List.take_left' (length_wordBytes word)]
  unfold readWord
  rw [chunk, if_pos (length_wordBytes word), wordBytes, beNat_beBytes,
    show (256 : Nat) ^ 32 = 2 ^ 256 by norm_num, Nat.mod_eq_of_lt word.isLt, BitVec.ofNat_toNat,
    BitVec.setWidth_eq]

/-! ### Frames of slots -/

/-- What one component contributes to its frame. -/
inductive Slot
  /-- A static value, in place. -/
  | word (value : Word)
  /-- A dynamic value, behind an offset. -/
  | tail (content : Bytes)

/-- The bytes a component adds to its frame. -/
def Slot.size : Slot → Nat
  | .word _ => 32
  | .tail content => 32 + content.length

/-- The head of a frame; `offset` is where the next tail starts. -/
def headsFrom (offset : Nat) : List Slot → Bytes
  | [] => []
  | .word value :: rest => wordBytes value ++ headsFrom offset rest
  | .tail content :: rest =>
      wordBytes (BitVec.ofNat 256 offset) ++ headsFrom (offset + content.length) rest

/-- The tails of a frame, in order. -/
def tails : List Slot → Bytes
  | [] => []
  | .word _ :: rest => tails rest
  | .tail content :: rest => content ++ tails rest

/-- **A frame**: the slots, then the dynamic contents they point to. -/
def layout (slots : List Slot) : Bytes := headsFrom (32 * slots.length) slots ++ tails slots

@[simp] theorem length_headsFrom (offset : Nat) (slots : List Slot) :
    (headsFrom offset slots).length = 32 * slots.length := by
  induction slots generalizing offset with
  | nil => rfl
  | cons slot rest ih =>
      cases slot <;> simp only [headsFrom, List.length_append, length_wordBytes, ih,
        List.length_cons] <;> omega

theorem headsFrom_append (offset : Nat) (first second : List Slot) :
    headsFrom offset (first ++ second) =
      headsFrom offset first ++ headsFrom (offset + (tails first).length) second := by
  induction first generalizing offset with
  | nil => rfl
  | cons slot rest ih =>
      cases slot with
      | word value => simp only [List.cons_append, headsFrom, tails, ih, List.append_assoc]
      | tail content =>
          simp only [List.cons_append, headsFrom, tails, ih, List.append_assoc,
            List.length_append, Nat.add_assoc]

theorem tails_append (first second : List Slot) :
    tails (first ++ second) = tails first ++ tails second := by
  induction first with
  | nil => rfl
  | cons slot rest ih =>
      cases slot <;> simp only [List.cons_append, tails, ih, List.append_assoc]

/-- **The size of a frame.** -/
theorem length_layout (slots : List Slot) :
    (layout slots).length = (slots.map Slot.size).sum := by
  rw [layout, List.length_append, length_headsFrom]
  induction slots with
  | nil => rfl
  | cons slot rest ih =>
      rw [List.map_cons, List.sum_cons, ← ih, List.length_cons]
      cases slot <;> simp only [Slot.size, tails, List.length_append] <;> omega

/-- A component is no larger than its frame. -/
theorem size_le_layout {slots : List Slot} {slot : Slot} (member : slot ∈ slots) :
    slot.size ≤ (layout slots).length := by
  rw [length_layout]
  exact List.le_sum_of_mem (List.mem_map_of_mem member)

/-- A static component is read in its slot. -/
theorem readWord_layout (before : List Slot) (value : Word) (after : List Slot) (rest : Bytes) :
    readWord (layout (before ++ .word value :: after) ++ rest) (32 * before.length) =
      some value := by
  rw [layout, headsFrom_append, headsFrom]
  simp only [List.append_assoc]
  exact readWord_append _ value _ (length_headsFrom _ before)

/-- Where the tail of a dynamic component starts. -/
def tailOffset (before : List Slot) (content : Bytes) (after : List Slot) : Nat :=
  32 * (before ++ .tail content :: after).length + (tails before).length

/-- A dynamic component's slot holds the offset of its tail. -/
theorem readWord_layout_offset (before : List Slot) (content : Bytes) (after : List Slot)
    (rest : Bytes) :
    readWord (layout (before ++ .tail content :: after) ++ rest) (32 * before.length) =
      some (BitVec.ofNat 256 (tailOffset before content after)) := by
  rw [layout, headsFrom_append, headsFrom]
  simp only [List.append_assoc]
  exact readWord_append _ _ _ (length_headsFrom _ before)

/-- **Following the offset lands on the tail.** -/
theorem drop_layout (before : List Slot) (content : Bytes) (after : List Slot) (rest : Bytes) :
    (layout (before ++ .tail content :: after) ++ rest).drop (tailOffset before content after) =
      content ++ (tails after ++ rest) := by
  rw [layout, tailOffset, tails_append, tails, ← List.drop_drop]
  simp only [List.append_assoc]
  rw [List.drop_left' (length_headsFrom _ _), List.drop_left' rfl]

/-- A tail's offset is inside its frame. -/
theorem tailOffset_le (before : List Slot) (content : Bytes) (after : List Slot) :
    tailOffset before content after ≤ (layout (before ++ .tail content :: after)).length := by
  rw [layout, tailOffset, tails_append]
  simp only [List.length_append, length_headsFrom]
  omega

/-! ### Types and values -/

/-- The argument types: five of one word, two byte strings, and dynamic arrays of any of them. -/
inductive AbiType
  | uint256
  | address
  | bool
  | bytes32
  | bytes
  | string
  | array (element : AbiType)
  deriving DecidableEq, Repr

/-- The values of a type. -/
@[reducible] def AbiType.Value : AbiType → Type
  | .uint256 => Word
  | .address => Address
  | .bool => Bool
  | .bytes32 => Word
  | .bytes => Bytes
  | .string => String
  | .array element => List element.Value

/-- The bytes of a string. -/
def stringBytes (text : String) : Bytes := text.toUTF8.data.toList

/-- Zeros up to the next multiple of 32. -/
def padding (length : Nat) : Bytes := List.replicate ((32 - length % 32) % 32) 0

/-- `enc(len(content)) ++ pad(content)`. -/
def encodeBlob (content : Bytes) : Bytes :=
  wordBytes (BitVec.ofNat 256 content.length) ++ (content ++ padding content.length)

/-- A value as a component of its frame. -/
def slot : (type : AbiType) → type.Value → Slot
  | .uint256, value => .word value
  | .address, value => .word (value.setWidth 256)
  | .bool, value => .word (if value then 1 else 0)
  | .bytes32, value => .word value
  | .bytes, value => .tail (encodeBlob value)
  | .string, value => .tail (encodeBlob (stringBytes value))
  | .array element, values =>
      .tail (wordBytes (BitVec.ofNat 256 values.length) ++ layout (values.map (slot element)))

/-- The bytes behind the offset in a slot. -/
def followOffset (frame : Bytes) (position : Nat) : Option Bytes :=
  (readWord frame position).map fun offset => frame.drop offset.toNat

/-- A byte string at the start of `data`: its length, then that many bytes. -/
def decodeBlob (data : Bytes) : Option Bytes := do
  let length ← readWord data 0
  let content := (data.drop 32).take length.toNat
  if content.length = length.toNat then some content else none

/-- The values at the indices `start, …, start + count - 1`. -/
def readMany {α : Type} (read : Nat → Option α) : Nat → Nat → Option (List α)
  | _, 0 => some []
  | start, count + 1 => do
      let value ← read start
      let values ← readMany read (start + 1) count
      some (value :: values)

/-- **The decoder**: the value of a type in the slot at a byte position of a frame. Words out of a
type's range are refused. -/
def decodeAt : (type : AbiType) → Bytes → Nat → Option type.Value
  | .uint256, frame, position => readWord frame position
  | .address, frame, position => do
      let word ← readWord frame position
      if word.toNat < 2 ^ 160 then some (word.setWidth 160) else none
  | .bool, frame, position => do
      let word ← readWord frame position
      if word = 0 then some false else if word = 1 then some true else none
  | .bytes32, frame, position => readWord frame position
  | .bytes, frame, position => (followOffset frame position).bind decodeBlob
  | .string, frame, position => do
      let content ← (followOffset frame position).bind decodeBlob
      String.fromUTF8? content.toByteArray
  | .array element, frame, position => do
      let data ← followOffset frame position
      let length ← readWord data 0
      let body := data.drop 32
      if 32 * length.toNat ≤ body.length then
        readMany (fun index => decodeAt element body (32 * index)) 0 length.toNat
      else none

/-! ### Argument lists -/

/-- The values of a parameter list. -/
@[reducible] def Values : List AbiType → Type
  | [] => Unit
  | type :: rest => type.Value × Values rest

/-- An argument list as the components of its frame. -/
def argSlots : (types : List AbiType) → Values types → List Slot
  | [], _ => []
  | type :: rest, (value, values) => slot type value :: argSlots rest values

/-- The arguments of a call whose parameter types are declared. -/
def encodeArgs (types : List AbiType) (values : Values types) : Bytes :=
  layout (argSlots types values)

/-- The arguments from the slot at an index on. -/
def decodeArgsFrom : (types : List AbiType) → Bytes → Nat → Option (Values types)
  | [], _, _ => some ()
  | type :: rest, frame, index => do
      let value ← decodeAt type frame (32 * index)
      let values ← decodeArgsFrom rest frame (index + 1)
      some (value, values)

/-- **Decoding at declared parameter types.** -/
def decodeArgs (types : List AbiType) (data : Bytes) : Option (Values types) :=
  decodeArgsFrom types data 0

/-- A function selector. -/
structure Selector where
  bytes : Bytes
  four : bytes.length = 4

/-- The calldata of a call: the selector and the arguments at the declared types. -/
def encodeCall (selector : Selector) (types : List AbiType) (values : Values types) : Bytes :=
  selector.bytes ++ encodeArgs types values

/-- `abi.encodeWithSelector`: any arguments, at whatever types they have. -/
def encodeWithSelector (selector : Selector) (arguments : List (Σ type : AbiType, type.Value)) :
    Bytes :=
  selector.bytes ++ layout (arguments.map fun argument => slot argument.1 argument.2)

end Abi

end Solidity
