/-
**JSON values as a C++ library handles them.**

A document is a value of `Json.Value`. Element access follows the library's rules: `[]` on a null
makes a container, a missing member reads as null, and a conversion of the wrong kind throws. An
exception is `none`.

* `atKey`, `atIndex`, `valueOr`, `items`, `getUInt32` ...: access, iteration, conversions;
* `validUtf8`: every text of the document is UTF-8, which writing it out demands;
* `nullNonFinite`: what is left of a document after writing it out and reading it back;
* `Library`: the writer and the reader, as a parameter with their documented laws.
-/

import KenshiMP.Lib.Wire
import KenshiMP.Lib.BinaryFacts

namespace Json

open Wire (Bytes)
open Binary

/-- A document. Members of an object keep the order they were given in. -/
inductive Value where
  | null
  | bool (flag : Bool)
  | int (number : Int)
  | float (number : Flt binary64)
  | str (text : Bytes)
  | arr (elements : List Value)
  | obj (members : List (Bytes × Value))

/-! ### UTF-8 -/

/-- A continuation byte between two bounds. -/
def between (low high byte : UInt8) : Bool := low ≤ byte && byte ≤ high

/-- Well-formed UTF-8: no overlong form, no surrogate, nothing above the last code point. -/
def utf8 : Bytes → Bool
  | [] => true
  | a :: rest =>
    if a < 0x80 then utf8 rest
    else match rest with
      | [] => false
      | b :: rest =>
        if between 0xC2 0xDF a then between 0x80 0xBF b && utf8 rest
        else match rest with
          | [] => false
          | c :: rest =>
            let tail := between 0x80 0xBF c
            if a = 0xE0 then between 0xA0 0xBF b && tail && utf8 rest
            else if a = 0xED then between 0x80 0x9F b && tail && utf8 rest
            else if between 0xE1 0xEF a then between 0x80 0xBF b && tail && utf8 rest
            else match rest with
              | [] => false
              | d :: rest =>
                let tail := tail && between 0x80 0xBF d
                if a = 0xF0 then between 0x90 0xBF b && tail && utf8 rest
                else if between 0xF1 0xF3 a then between 0x80 0xBF b && tail && utf8 rest
                else if a = 0xF4 then between 0x80 0x8F b && tail && utf8 rest
                else false

theorem utf8_of_ascii {text : Bytes} (ascii : ∀ byte ∈ text, byte < 0x80) : utf8 text = true := by
  induction text with
  | nil => rfl
  | cons byte rest ih =>
    have here : byte < 0x80 := ascii byte (List.mem_cons_self ..)
    unfold utf8
    rw [if_pos here]
    exact ih fun other inside => ascii other (List.mem_cons_of_mem _ inside)

namespace Value

/-! ### Access -/

/-- The member under a key. -/
def find (key : Bytes) : List (Bytes × Value) → Option Value
  | [] => none
  | (name, value) :: rest => if name = key then some value else find key rest

/-- `v[key]`: a null becomes an object, a missing member reads as null, all else throws. -/
def atKey (value : Value) (key : Bytes) : Option Value :=
  match value with
  | null => some null
  | obj members => some ((find key members).getD null)
  | _ => none

/-- `v[index]`: a null becomes an array, an array grows with nulls, all else throws. -/
def atIndex (value : Value) (index : Nat) : Option Value :=
  match value with
  | null => some null
  | arr elements => some (elements.getD index null)
  | _ => none

/-- `v.contains(key)`. -/
def contains (value : Value) (key : Bytes) : Bool :=
  match value with
  | obj members => (find key members).isSome
  | _ => false

/-- `v.size()`. -/
def size : Value → Nat
  | null => 0
  | arr elements => elements.length
  | obj members => members.length
  | _ => 1

/-- What a range-based loop over a value visits: a primitive visits itself. -/
def items : Value → List Value
  | null => []
  | arr elements => elements
  | obj members => members.map Prod.snd
  | primitive => [primitive]

/-! ### Conversions -/

/-- A number, converted to 32 bits as a static cast does. -/
def getUInt32 : Value → Option UInt32
  | int number => some (UInt32.ofInt number)
  | float number => some (UInt32.ofInt number.trunc)
  | bool flag => some (if flag then 1 else 0)
  | _ => none

/-- A number, converted to a signed 32-bit integer. -/
def getInt32 (value : Value) : Option Int32 := value.getUInt32.map UInt32.toInt32

/-- A number, converted to single precision. -/
def getFloat : Value → Option (Flt binary32)
  | int number => some (Flt.ofInt number)
  | float number => some number.convert
  | bool flag => some (Flt.ofInt (if flag then 1 else 0))
  | _ => none

def getBool : Value → Option Bool
  | bool flag => some flag
  | _ => none

def getString : Value → Option Bytes
  | str text => some text
  | _ => none

/-- `v.value(key, default)`: only of an object; a member of the wrong kind throws. -/
def valueOr {α : Type} (get : Value → Option α) (value : Value) (key : Bytes) (default : α) : Option α :=
  match value with
  | obj members =>
    match find key members with
    | none => some default
    | some member => get member
  | _ => none

/-! ### Writing out and reading back -/

mutual

/-- A number that is not finite is written as a null. -/
def nullNonFinite : Value → Value
  | float number => if number.isFinite then float number else null
  | arr elements => arr (nullNonFiniteAll elements)
  | obj members => obj (nullNonFiniteMembers members)
  | primitive => primitive

def nullNonFiniteAll : List Value → List Value
  | [] => []
  | value :: rest => nullNonFinite value :: nullNonFiniteAll rest

def nullNonFiniteMembers : List (Bytes × Value) → List (Bytes × Value)
  | [] => []
  | (key, value) :: rest => (key, nullNonFinite value) :: nullNonFiniteMembers rest

end

mutual

/-- Every text, member names included, is UTF-8. -/
def validUtf8 : Value → Bool
  | str text => utf8 text
  | arr elements => validUtf8All elements
  | obj members => validUtf8Members members
  | _ => true

def validUtf8All : List Value → Bool
  | [] => true
  | value :: rest => validUtf8 value && validUtf8All rest

def validUtf8Members : List (Bytes × Value) → Bool
  | [] => true
  | (key, value) :: rest => utf8 key && validUtf8 value && validUtf8Members rest

end

theorem nullNonFiniteAll_eq_map (elements : List Value) :
    nullNonFiniteAll elements = elements.map nullNonFinite := by
  induction elements with
  | nil => rfl
  | cons value rest ih => rw [nullNonFiniteAll, ih, List.map_cons]

theorem nullNonFiniteMembers_eq_map (members : List (Bytes × Value)) :
    nullNonFiniteMembers members
      = members.map fun entry => (entry.1, nullNonFinite entry.2) := by
  induction members with
  | nil => rfl
  | cons entry rest ih =>
    obtain ⟨key, value⟩ := entry
    rw [nullNonFiniteMembers, ih, List.map_cons]

theorem validUtf8All_eq_true {elements : List Value} :
    validUtf8All elements = true ↔ ∀ value ∈ elements, validUtf8 value = true := by
  induction elements with
  | nil => simp [validUtf8All]
  | cons value rest ih => simp [validUtf8All, ih]

theorem validUtf8Members_eq_true {members : List (Bytes × Value)} :
    validUtf8Members members = true ↔ ∀ entry ∈ members, utf8 entry.1 = true ∧ validUtf8 entry.2 = true := by
  induction members with
  | nil => simp [validUtf8Members]
  | cons entry rest ih =>
    obtain ⟨key, value⟩ := entry
    simp [validUtf8Members, ih, and_assoc]

theorem find_nullNonFinite (key : Bytes) (members : List (Bytes × Value)) :
    find key (nullNonFiniteMembers members) = (find key members).map nullNonFinite := by
  induction members with
  | nil => rfl
  | cons entry rest ih =>
    obtain ⟨name, value⟩ := entry
    unfold nullNonFiniteMembers find
    split_ifs
    · rfl
    · exact ih

/-- A member of what was read back is what was read back of the member. -/
theorem atKey_nullNonFinite (members : List (Bytes × Value)) (key : Bytes) :
    (nullNonFinite (obj members)).atKey key = ((obj members).atKey key).map nullNonFinite := by
  unfold nullNonFinite atKey
  simp only [find_nullNonFinite, Option.map_some]
  cases find key members with
  | none => rfl
  | some value => rfl

end Value

/-- The writer and the reader of documents. -/
structure Library where
  /-- what a file holds -/
  Text : Type
  /-- throws on a text that is not UTF-8 -/
  dump : Value → Option Text
  /-- throws on what is not a document -/
  parse : Text → Option Value
  dump_isSome : ∀ value, (dump value).isSome = value.validUtf8
  parse_dump : ∀ value text, dump value = some text → parse text = some value.nullNonFinite

/-- The library whose files hold the document itself. -/
def Library.direct : Library where
  Text := Value
  dump value := if value.validUtf8 then some value.nullNonFinite else none
  parse := some
  dump_isSome value := by
    by_cases valid : value.validUtf8 = true
    · rw [if_pos valid, valid]
      rfl
    · rw [if_neg valid, Bool.not_eq_true _ |>.mp valid]
      rfl
  parse_dump value text written := by
    by_cases valid : value.validUtf8 = true
    · rw [if_pos valid] at written
      exact written.symm
    · rw [if_neg valid] at written
      cases written

end Json
