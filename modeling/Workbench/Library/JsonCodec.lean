import Workbench.Library.Json

/-!
# Library: derived encoders and decoders

The rules by which derived decoders read a JSON value.  A record is read from an
object, whose unknown members are refused, or from an array that lists its fields
in order.  A field may be required, optional or have a default, and an optional
one may also be null.  A variant of an enumeration is read from its name or from
an object with that name and a null.
-/

namespace Workbench.Library.Json

open List

/-! ## Fields of a record -/

/-- The field of a record with the given name and position. -/
def field (name : String) (index : Nat) : Json → Option Json
  | .object members => members.lookup name
  | .array items => items[index]?
  | _ => none

/-- The value can hold a record with these fields; an array must have the first `least`. -/
def isRecord (names : List String) (least : Nat) : Json → Bool
  | .object members => members.all fun entry => names.contains entry.1
  | .array items => decide (least ≤ items.length) && decide (items.length ≤ names.length)
  | _ => false

section

variable {α : Type} (decode : Json → Option α)

/-- Absent and null both stand for `none`. -/
def readOptional : Option Json → Option (Option α)
  | none => some none
  | some .null => some none
  | some child => (decode child).map some

def readDefault (default : α) : Option Json → Option α
  | none => some default
  | some child => decode child

variable (name : String) (index : Nat)

def required (value : Json) : Option α :=
  (value.field name index).bind decode

def optional (value : Json) : Option (Option α) :=
  readOptional decode (value.field name index)

def defaulted (default : α) (value : Json) : Option α :=
  readDefault decode default (value.field name index)

end

/-! ## Scalars, lists and maps -/

def asString : Json → Option String
  | .string s => some s
  | _ => none

def asBool : Json → Option Bool
  | .bool b => some b
  | _ => none

def asU64 : Json → Option UInt64
  | .number (.natural n) => some n
  | _ => none

def asU32 (value : Json) : Option UInt32 :=
  value.asU64.bind fun n => if n.toNat < 2 ^ 32 then some n.toUInt32 else none

def asF64 : Json → Option Rat
  | .number (.natural n) => some n.toNat
  | .number (.negative pred) => some (-((pred : Rat) + 1))
  | .number (.float x) => some x.value
  | _ => none

def ofU64 (n : UInt64) : Json := .number (.natural n)

def ofU32 (n : UInt32) : Json := .number (.natural n.toUInt64)

def ofStrings (texts : List String) : Json := .array (texts.map .string)

section

variable {α : Type} (decode : Json → Option α)

def decodeItems : List Json → Option (List α)
  | [] => some []
  | value :: rest => do
    let head ← decode value
    let tail ← decodeItems rest
    return head :: tail

def asList : Json → Option (List α)
  | .array items => decodeItems decode items
  | _ => none

def decodeMembers : List (String × Json) → Option (List (String × α))
  | [] => some []
  | (key, value) :: rest => do
    let head ← decode value
    let tail ← decodeMembers rest
    return (key, head) :: tail

def asMap : Json → Option (List (String × α))
  | .object members => decodeMembers decode members
  | _ => none

end

/-- The object with the encoded entries of a map. -/
def ofMap {α : Type} (encode : α → Json) (entries : List (String × α)) : Json :=
  .object (entries.map fun entry => (entry.1, encode entry.2))

/-- Reads a variant of an enumeration, given the names of all variants. -/
def asVariant {α : Type} (variants : List (String × α)) : Json → Option α
  | .string s => variants.lookup s
  | .object [(name, .null)] => variants.lookup name
  | _ => none

/-- Writes a variant by its name. -/
def ofVariant {α : Type} [DecidableEq α] (variants : List (String × α)) (value : α) : Json :=
  .string (((variants.find? fun entry => decide (entry.2 = value)).map (·.1)).getD "")

/-! ## Reading back what was written -/

/-- Every variant is read back by its name. -/
def ReadsBack {α : Type} [DecidableEq α] (variants : List (String × α)) : Prop :=
  ∀ value, asVariant variants (ofVariant variants value) = some value

@[simp] theorem ReadsBack.asVariant_ofVariant {α : Type} [DecidableEq α]
    {variants : List (String × α)} (h : ReadsBack variants) (value : α) :
    asVariant variants (ofVariant variants value) = some value :=
  h value

@[simp] theorem field_object (name : String) (index : Nat) (members : List (String × Json)) :
    (Json.object members).field name index = members.lookup name := rfl

@[simp] theorem field_record (name : String) (index : Nat)
    (fields : List (String × Option Json)) :
    (record fields).field name index = (record fields).member name := rfl

@[simp] theorem asString_string (s : String) : asString (.string s) = some s := rfl

@[simp] theorem asBool_bool (b : Bool) : asBool (.bool b) = some b := rfl

@[simp] theorem asU64_ofU64 (n : UInt64) : asU64 (ofU64 n) = some n := rfl

@[simp] theorem asU32_ofU32 (n : UInt32) : asU32 (ofU32 n) = some n := by
  have hlt : n.toNat < 4294967296 := n.toNat_lt
  simp [asU32, ofU32, asU64, hlt]

/-- A record with known fields can be read back as one. -/
theorem isRecord_record {names : List String} {least : Nat}
    {fields : List (String × Option Json)} (hnames : ∀ field ∈ fields, field.1 ∈ names) :
    (record fields).isRecord names least := by
  simp only [record, isRecord, all_eq_true, contains_iff_mem]
  intro entry hmem
  exact hnames _ (mem_recordMembers hmem)

theorem string_ne_null (s : String) : Json.string s ≠ .null := nofun

theorem number_ne_null (n : JsonNumber) : Json.number n ≠ .null := nofun

theorem object_ne_null (members : List (String × Json)) : Json.object members ≠ .null := nofun

variable {α : Type} {decode : Json → Option α} {encode : α → Json} {entries : List (String × α)}

/-- What is read back is determined by its encoding. -/
theorem injective_of_decode (hread : ∀ a, decode (encode a) = some a) :
    Function.Injective encode := by
  intro first second h
  have hdecoded := congrArg decode h
  rw [hread, hread] at hdecoded
  exact Option.some.inj hdecoded

theorem readOptional_map {field : Option α} (hdecode : ∀ a, decode (encode a) = some a)
    (hnull : ∀ a, encode a ≠ .null) : readOptional decode (field.map encode) = some field := by
  cases field with
  | none => rfl
  | some a =>
    rw [Option.map_some, readOptional.eq_def]
    split
    · rename_i h
      cases h
    · rename_i h
      exact absurd (Option.some.inj h) (hnull a)
    · rename_i child _ h
      cases h
      rw [hdecode, Option.map_some]

@[simp] theorem readOptional_strings (field : Option String) :
    readOptional asString (field.map .string) = some field :=
  readOptional_map (fun _ => rfl) string_ne_null

@[simp] theorem readOptional_u64 (field : Option UInt64) :
    readOptional asU64 (field.map ofU64) = some field :=
  readOptional_map (fun _ => rfl) fun _ => number_ne_null _

@[simp] theorem readDefault_none (decode : Json → Option α) (default : α) :
    readDefault decode default none = some default := rfl

@[simp] theorem readDefault_some (decode : Json → Option α) (default : α)
    (child : Json) : readDefault decode default (some child) = decode child := rfl

theorem decodeItems_map {β : Type} {encode : β → Json}
    {value : β → α} : ∀ {items : List β},
    (∀ item ∈ items, decode (encode item) = some (value item)) →
      decodeItems decode (items.map encode) = some (items.map value)
  | [], _ => rfl
  | item :: rest, h => by
    simp [decodeItems, h item mem_cons_self,
      decodeItems_map fun other hmem => h other (mem_cons_of_mem _ hmem)]

theorem decodeMembers_map {β : Type} {encode : β → Json}
    {value : β → α} : ∀ {entries : List (String × β)},
      (∀ entry ∈ entries, decode (encode entry.2) = some (value entry.2)) →
        decodeMembers decode (entries.map fun entry => (entry.1, encode entry.2))
          = some (entries.map fun entry => (entry.1, value entry.2))
  | [], _ => rfl
  | entry :: rest, h => by
    simp [decodeMembers, h entry mem_cons_self,
      decodeMembers_map fun other hmem => h other (mem_cons_of_mem _ hmem)]

theorem lookup_decodeMembers {key : String} :
    ∀ {members : List (String × Json)} {entries : List (String × α)},
      decodeMembers decode members = some entries →
        (entries.lookup key).map some = (members.lookup key).map decode
  | [], entries, h => by
    cases h
    rfl
  | (name, value) :: rest, entries, h => by
    simp only [decodeMembers, Option.bind_eq_bind, Option.bind_eq_some_iff, Option.pure_def] at h
    obtain ⟨head, hhead, tail, htail, heq⟩ := h
    cases heq
    rw [lookup_cons_eq_ite, lookup_cons_eq_ite]
    split
    · rw [Option.map_some, Option.map_some, hhead]
    · exact lookup_decodeMembers htail

/-- A map is read back as it was written. -/
theorem asMap_ofMap (h : ∀ entry ∈ entries, decode (encode entry.2) = some entry.2) :
    asMap decode (ofMap encode entries) = some entries := by
  have hread := @decodeMembers_map α decode α encode id entries h
  simpa [asMap, ofMap] using hread

theorem asList_array_map {items : List α} (h : ∀ item ∈ items, decode (encode item) = some item) :
    asList decode (.array (items.map encode)) = some items := by
  have hread := @decodeItems_map α decode α encode id items h
  simpa [asList] using hread

@[simp] theorem asList_ofStrings (texts : List String) :
    asList asString (ofStrings texts) = some texts := by
  have h := @decodeItems_map String asString String .string id texts fun _ _ => rfl
  simpa [asList, ofStrings] using h

/-! ## Order of what was written -/

@[simp] theorem isOrdered_null : isOrdered .null := rfl

@[simp] theorem isOrdered_bool (b : Bool) : isOrdered (.bool b) := rfl

@[simp] theorem isOrdered_number (n : JsonNumber) : isOrdered (.number n) := rfl

@[simp] theorem isOrdered_string (s : String) : isOrdered (.string s) := rfl

@[simp] theorem isOrdered_ofU64 (n : UInt64) : isOrdered (ofU64 n) := rfl

@[simp] theorem isOrdered_ofU32 (n : UInt32) : isOrdered (ofU32 n) := rfl

@[simp] theorem isOrdered_ofVariant [DecidableEq α] (variants : List (String × α))
    (value : α) : isOrdered (ofVariant variants value) := rfl

theorem isOrdered_array_map (items : List α)
    (h : ∀ item ∈ items, isOrdered (encode item)) :
    isOrdered (.array (items.map encode)) := by
  apply itemsOrdered_of_forall
  intro value hmem
  obtain ⟨item, hitem, rfl⟩ := mem_map.mp hmem
  exact h item hitem

@[simp] theorem isOrdered_ofStrings (texts : List String) : isOrdered (ofStrings texts) :=
  isOrdered_array_map texts fun _ _ => rfl

theorem isOrdered_ofMap (hkeys : entries.Pairwise fun first second => first.1 < second.1)
    (h : ∀ entry ∈ entries, isOrdered (encode entry.2)) :
    isOrdered (ofMap encode entries) := by
  have hascending : ascending (entries.map fun entry => (entry.1, encode entry.2)) :=
    decide_eq_true (pairwise_map.mpr hkeys)
  rw [ofMap, isOrdered, hascending, Bool.true_and]
  apply membersOrdered_of_forall
  intro member hmem
  obtain ⟨entry, hentry, rfl⟩ := mem_map.mp hmem
  exact h entry hentry

end Workbench.Library.Json
