import Workbench.Library.JsonCodec
import Workbench.Protocol.Codec

/-!
# Protocol: values on the wire

Identifiers and maps as the messages of the protocol carry them, and what strict decoding
keeps of a value.  An identifier is written as its hyphenated hexadecimal digits; the other
spellings that its parser accepts are left out, since nothing here writes them.
-/

namespace Workbench.Protocol

open Library List Json

/-! ## Identifiers -/

/-- The 128 bits of an identifier, as hexadecimal digits. -/
structure Uuid where
  digits : List (Fin 16)
  length_digits : digits.length = 32

namespace Uuid

/-- The four bits that hold the version. -/
def versionNumber (id : Uuid) : Fin 16 := id.digits.getD 12 0

/-- An identifier of version 7. -/
def isV7 (id : Uuid) : Bool := id.versionNumber == 7

/-- The digits of each group. -/
def groups : List Nat := [8, 4, 4, 4, 12]

/-- Puts a hyphen between groups of these sizes. -/
def hyphenate : List Nat → List Char → List Char
  | [], digits => digits
  | [_], digits => digits
  | size :: rest, digits => digits.take size ++ '-' :: hyphenate rest (digits.drop size)

/-- The digits of a hyphenated text. -/
def unhyphenate : List Nat → List Char → Option (List Char)
  | [], digits => if digits = [] then some [] else none
  | [size], digits => if digits.length = size then some digits else none
  | size :: rest, digits =>
    match digits.drop size with
    | '-' :: later => (unhyphenate rest later).map (digits.take size ++ ·)
    | _ => none

def digitChar (digit : Fin 16) : Char := Nat.digitChar digit.val

/-- The digit of a character of either case. -/
def hexDigit? (c : Char) : Option (Fin 16) :=
  if '0' ≤ c ∧ c ≤ '9' then some (Fin.ofNat 16 (c.toNat - 48))
  else if 'a' ≤ c ∧ c ≤ 'f' then some (Fin.ofNat 16 (c.toNat - 87))
  else if 'A' ≤ c ∧ c ≤ 'F' then some (Fin.ofNat 16 (c.toNat - 55))
  else none

/-- The hyphenated text in lower case. -/
def text (id : Uuid) : String := String.ofList (hyphenate groups (id.digits.map digitChar))

/-- Reads a hyphenated text. -/
def parse? (value : String) : Option Uuid := do
  let chars ← unhyphenate groups value.toList
  let digits ← chars.mapM hexDigit?
  if h : digits.length = 32 then some ⟨digits, h⟩ else none

theorem hexDigit?_digitChar : ∀ digit, hexDigit? (digitChar digit) = some digit := by
  decide

theorem mapM_hexDigit? : ∀ digits : List (Fin 16),
    (digits.map digitChar).mapM hexDigit? = some digits
  | [] => rfl
  | digit :: rest => by
    simp [hexDigit?_digitChar, mapM_hexDigit? rest]

theorem unhyphenate_hyphenate : ∀ sizes digits,
    sizes ≠ [] → digits.length = sizes.sum →
      unhyphenate sizes (hyphenate sizes digits) = some digits
  | [], _, h, _ => absurd rfl h
  | [size], digits, _, hlength => by
    simp_all [hyphenate, unhyphenate]
  | size :: next :: rest, digits, _, hlength => by
    have htake : (digits.take size).length = size := by
      rw [length_take]
      simp only [sum_cons] at hlength
      omega
    have hrest := unhyphenate_hyphenate (next :: rest) (digits.drop size) (by simp) (by simp_all)
    rw [hyphenate, unhyphenate, drop_left' htake]
    simp only [hrest, Option.map_some, take_left' htake, take_append_drop]
    all_goals simp

@[simp] theorem parse?_text (id : Uuid) : parse? id.text = some id := by
  have hchars := unhyphenate_hyphenate groups (id.digits.map digitChar) (by decide)
    (by simp [groups, id.length_digits])
  rw [parse?, text, String.toList_ofList, hchars]
  show ((id.digits.map digitChar).mapM hexDigit? >>= _) = _
  rw [mapM_hexDigit?]
  show (if h : id.digits.length = 32 then some (⟨id.digits, h⟩ : Uuid) else none) = some id
  rw [dif_pos id.length_digits]

end Uuid

/-- Reads an identifier from its text. -/
def asUuid (value : Json) : Option Uuid := value.asString.bind Uuid.parse?

def ofUuid (id : Uuid) : Json := .string id.text

@[simp] theorem asUuid_ofUuid (id : Uuid) : asUuid (ofUuid id) = some id := by
  simp [asUuid, ofUuid]

/-- A map from texts to JSON values; the keys ascend in it and in all its objects. -/
structure JsonMap where
  entries : List (String × Json)
  ordered : isOrdered (.object entries)

/-- Reads an object in key order. -/
def asJsonMap : Json → Option JsonMap
  | .object entries =>
    if h : isOrdered (.object entries) = true then some ⟨entries, h⟩ else none
  | _ => none

def ofJsonMap (map : JsonMap) : Json := .object map.entries

@[simp] theorem asJsonMap_ofJsonMap (map : JsonMap) : asJsonMap (ofJsonMap map) = some map := by
  simp [asJsonMap, ofJsonMap, map.ordered]

/-! ## What strict decoding keeps -/

theorem insertMember_of_forall_lt {key : String} {value : Json} :
    ∀ {values : List (String × Json)}, (∀ entry ∈ values, entry.1 < key) →
      insertMember key value values = values ++ [(key, value)]
  | [], _ => rfl
  | (first, v) :: rest, h => by
    have hfirst : first < key := h (first, v) mem_cons_self
    have hne : key ≠ first := fun heq => lt_irrefl _ (heq ▸ hfirst)
    rw [insertMember, if_neg hne, if_neg (lt_asymm hfirst),
      insertMember_of_forall_lt fun entry hmem => h entry (mem_cons_of_mem _ hmem)]
    rfl

theorem any_key_eq_false {key : String} {values : List (String × Json)}
    (h : ∀ entry ∈ values, entry.1 ≠ key) : (values.any fun entry => entry.1 == key) = false := by
  simp only [any_eq_false, beq_iff_eq]
  exact h

mutual

/-- A value whose objects are maps is decoded to itself. -/
theorem strictValue_of_isOrdered : ∀ {value : Json}, value.isOrdered →
    strictValue value = .ok value
  | .null, _ => rfl
  | .bool _, _ => rfl
  | .number _, _ => rfl
  | .string _, _ => rfl
  | .array items, h => by
    rw [strictValue, strictItems_of_itemsOrdered h]
    rfl
  | .object members, h => by
    rw [isOrdered, Bool.and_eq_true] at h
    rw [strictValue, @strictMembers_of_ascending [] members h.1 h.2]
    rfl

theorem strictItems_of_itemsOrdered : ∀ {items : List Json}, itemsOrdered items →
    strictItems items = .ok items
  | [], _ => rfl
  | item :: rest, h => by
    rw [itemsOrdered, Bool.and_eq_true] at h
    rw [strictItems, strictValue_of_isOrdered h.1, strictItems_of_itemsOrdered h.2]
    rfl

theorem strictMembers_of_ascending : ∀ {values members : List (String × Json)},
    ascending (values ++ members) → membersOrdered members →
      strictMembers values members = .ok (values ++ members)
  | values, [], _, _ => by rw [strictMembers, append_nil]
  | values, (key, item) :: rest, hascending, hordered => by
    rw [membersOrdered, Bool.and_eq_true] at hordered
    have hbelow : ∀ entry ∈ values, entry.1 < key := by
      intro entry hmem
      have hpairs := of_decide_eq_true hascending
      exact (pairwise_append.mp hpairs).2.2 entry hmem (key, item) mem_cons_self
    have hnew := any_key_eq_false fun entry hmem => ne_of_lt (hbelow entry hmem)
    rw [strictMembers, hnew, strictValue_of_isOrdered hordered.1]
    show strictMembers (insertMember key item values) rest = _
    rw [insertMember_of_forall_lt hbelow,
      strictMembers_of_ascending (by simpa using hascending) hordered.2]
    simp

end

/-- Two lists of members with the same keys, the second one decoded. -/
def MembersDecode (members decoded : List (String × Json)) : Prop :=
  Forall₂ (fun member value => member.1 = value.1 ∧ strictValue member.2 = .ok value.2)
    members decoded

variable {members : List (String × Json)} {decoded : List (String × Json)}

/-- The members of an object, in any order, are found in the map they are decoded to. -/
theorem strictMembers_ok (h : MembersDecode members decoded) :
    ∀ {values : List (String × Json)}, (decoded.map Prod.fst).Nodup →
      (∀ entry ∈ decoded, ∀ value ∈ values, value.1 ≠ entry.1) →
      ∃ result, strictMembers values members = .ok result
        ∧ (∀ key, result.lookup key = (decoded.lookup key).or (values.lookup key))
        ∧ ∀ entry ∈ result, entry ∈ decoded ∨ entry ∈ values := by
  induction h with
  | nil => exact fun {values} _ _ => ⟨values, by rw [strictMembers], by simp, by simp⟩
  | @cons member value members decoded hfirst _ ih =>
    intro values hnodup hnew
    obtain ⟨key, item⟩ := member
    obtain ⟨heq, hitem⟩ := hfirst
    cases value with
    | mk name value =>
    cases heq
    rw [map_cons, nodup_cons] at hnodup
    obtain ⟨hkey, hrest⟩ := hnodup
    have hlater : ∀ entry ∈ decoded, ∀ other ∈ insertMember key value values,
        other.1 ≠ entry.1 := by
      intro entry hentry other hother
      rcases mem_insertMember hother with rfl | hother
      · exact fun heq => hkey (mem_map.mpr ⟨entry, hentry, heq.symm⟩)
      · exact hnew entry (mem_cons_of_mem _ hentry) other hother
    obtain ⟨result, hresult, hlookup, hmem⟩ := ih hrest hlater
    have hfree := any_key_eq_false fun other hother =>
      hnew (key, value) mem_cons_self other hother
    refine ⟨result, ?_, fun other => ?_, fun entry hentry => ?_⟩
    · rw [strictMembers, hfree, hitem]
      exact hresult
    · rw [hlookup, lookup_insertMember, lookup_cons_eq_ite]
      by_cases hother : other = key
      · have hnone : decoded.lookup key = none := by
          rw [lookup_eq_none_iff]
          intro entry hentry
          have hne : key ≠ entry.1 := fun heq =>
            hkey (mem_map.mpr ⟨entry, hentry, heq.symm⟩)
          simpa using hne
        simp [hother, hnone]
      · simp [hother]
    · rcases hmem entry hentry with hentry | hentry
      · exact .inl (mem_cons_of_mem _ hentry)
      · rcases mem_insertMember hentry with rfl | hentry
        · exact .inl mem_cons_self
        · exact .inr hentry

/-- The decoded form of an object that was written with each key once. -/
theorem strictValue_object (h : MembersDecode members decoded)
    (hnodup : (decoded.map Prod.fst).Nodup) :
    ∃ result, strictValue (.object members) = .ok (.object result)
      ∧ (∀ key, result.lookup key = decoded.lookup key)
      ∧ ∀ entry ∈ result, entry ∈ decoded := by
  obtain ⟨result, hresult, hlookup, hmem⟩ := @strictMembers_ok _ _ h [] hnodup (by simp)
  refine ⟨result, ?_, by simpa using hlookup, by simpa using hmem⟩
  rw [strictValue, hresult]
  rfl

theorem MembersDecode.of_isOrdered (h : ∀ entry ∈ members, entry.2.isOrdered) :
    MembersDecode members members :=
  forall₂_same.mpr fun entry hmem => ⟨rfl, strictValue_of_isOrdered (h entry hmem)⟩

end Workbench.Protocol
