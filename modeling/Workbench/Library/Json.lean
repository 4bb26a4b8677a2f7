import Workbench.Library.Fallible

/-!
# Library: JSON values

JSON trees as a program holds them once they are parsed.  An object is an
association list that a program changes by `insertMember` only; `isOrdered` says
that the keys of every object in a tree ascend, which is how a sorted map keeps
them.  A number keeps the form it was written in, so `1` and `1.0` are different
values, and so are the two zeros `0.0` and `-0.0`.
-/

namespace Workbench.Library

open List

/-- A finite floating-point number: its value, and whether it is the negative zero. -/
structure JsonFloat where
  value : Rat
  negativeZero : Bool := false
  value_eq_zero : negativeZero → value = 0 := by simp
  deriving DecidableEq

/-- The three forms of a JSON number. -/
inductive JsonNumber where
  | natural (n : UInt64)
  /-- Stands for `-(pred + 1)`. -/
  | negative (pred : Nat)
  | float (x : JsonFloat)
  deriving DecidableEq

inductive Json where
  | null
  | bool (b : Bool)
  | number (n : JsonNumber)
  | string (s : String)
  | array (items : List Json)
  | object (members : List (String × Json))

namespace Json

/-! ## Decidable equality -/

mutual

/-- Equality test of two trees. -/
def same : Json → Json → Bool
  | .null, .null => true
  | .bool a, .bool b => a == b
  | .number a, .number b => decide (a = b)
  | .string a, .string b => a == b
  | .array a, .array b => sameItems a b
  | .object a, .object b => sameMembers a b
  | _, _ => false
  termination_by structural a => a

def sameItems : List Json → List Json → Bool
  | [], [] => true
  | x :: a, y :: b => same x y && sameItems a b
  | _, _ => false
  termination_by structural a => a

def sameMembers : List (String × Json) → List (String × Json) → Bool
  | [], [] => true
  | (k, x) :: a, (l, y) :: b => k == l && same x y && sameMembers a b
  | _, _ => false
  termination_by structural a => a

end

mutual

theorem same_iff : ∀ a b, same a b ↔ a = b
  | .null, b | .bool _, b | .number _, b | .string _, b => by cases b <;> simp [same]
  | .array items, b => by
    cases b with
    | array items' => simpa [same] using sameItems_iff items items'
    | _ => simp [same]
  | .object members, b => by
    cases b with
    | object members' => simpa [same] using sameMembers_iff members members'
    | _ => simp [same]

theorem sameItems_iff : ∀ a b, sameItems a b ↔ a = b
  | [], b => by cases b <;> simp [sameItems]
  | x :: a, b => by
    cases b with
    | nil => simp [sameItems]
    | cons y b => simp [sameItems, same_iff x y, sameItems_iff a b]

theorem sameMembers_iff : ∀ a b, sameMembers a b ↔ a = b
  | [], b => by cases b <;> simp [sameMembers]
  | (k, x) :: a, b => by
    cases b with
    | nil => simp [sameMembers]
    | cons entry b => simp [sameMembers, same_iff x entry.2, sameMembers_iff a b, Prod.ext_iff]

end

instance : DecidableEq Json := fun a b => decidable_of_iff _ (same_iff a b)

/-- No list, object or floating-point number. -/
def isLeaf : Json → Bool
  | .array _ | .object _ | .number (.float _) => false
  | _ => true

/-- A leaf, or an object of leaves. -/
def isFlat : Json → Bool
  | .object members => members.all fun entry => entry.2.isLeaf
  | value => value.isLeaf

/-! ## Members of an object -/

/-- The value under a key of an object. -/
def member (key : String) : Json → Option Json
  | .object members => members.lookup key
  | _ => none

/-- The item at a position of an array. -/
def item (index : Nat) : Json → Option Json
  | .array items => items[index]?
  | _ => none

@[simp] theorem member_object (key : String) (members : List (String × Json)) :
    (Json.object members).member key = members.lookup key := rfl

/-- Sets the value under a key, in key order. -/
def insertMember (key : String) (value : Json) : List (String × Json) → List (String × Json)
  | [] => [(key, value)]
  | (k, v) :: rest =>
    if key = k then (key, value) :: rest
    else if key < k then (key, value) :: (k, v) :: rest
    else (k, v) :: insertMember key value rest

theorem lookup_cons_eq_ite {α : Type} (key k : String) (value : α)
    (rest : List (String × α)) :
    ((k, value) :: rest).lookup key = if key = k then some value else rest.lookup key := by
  by_cases h : key = k
  · simp [lookup, h]
  · simp [lookup, beq_eq_false_iff_ne.mpr h, h]

theorem lookup_insertMember (key other : String) (value : Json) :
    ∀ members, (insertMember key value members).lookup other
      = if other = key then some value else members.lookup other
  | [] => lookup_cons_eq_ite other key value []
  | (k, v) :: rest => by
    have ih := lookup_insertMember key other value rest
    unfold insertMember
    split
    · rename_i hkey
      subst hkey
      by_cases h : other = key <;> simp [lookup_cons_eq_ite, h]
    rename_i hkey
    split
    · simp [lookup_cons_eq_ite]
    · by_cases h : other = k
      · have hne : k ≠ key := fun heq => hkey heq.symm
        simp [h, hne]
      · simp [lookup_cons_eq_ite, h, ih]

/-- The keys of an object ascend. -/
def ascending (members : List (String × Json)) : Bool :=
  decide (members.Pairwise fun first second => first.1 < second.1)

mutual

/-- The keys of every object in the tree ascend. -/
def isOrdered : Json → Bool
  | .array items => itemsOrdered items
  | .object members => ascending members && membersOrdered members
  | _ => true
  termination_by structural a => a

def itemsOrdered : List Json → Bool
  | [] => true
  | value :: rest => isOrdered value && itemsOrdered rest
  termination_by structural a => a

def membersOrdered : List (String × Json) → Bool
  | [] => true
  | (_, value) :: rest => isOrdered value && membersOrdered rest
  termination_by structural a => a

end

theorem membersOrdered_mem : ∀ {members : List (String × Json)}, membersOrdered members →
    ∀ {key : String} {value : Json}, members.lookup key = some value → isOrdered value
  | [], _, _, _, h => by cases h
  | (k, v) :: rest, hordered, key, value, h => by
    simp only [membersOrdered, Bool.and_eq_true] at hordered
    by_cases hkey : key = k
    · simp only [lookup, hkey, beq_self_eq_true, Option.some.injEq] at h
      exact h ▸ hordered.1
    · simp only [lookup, beq_eq_false_iff_ne.mpr hkey] at h
      exact membersOrdered_mem hordered.2 h

theorem itemsOrdered_mem : ∀ {items : List Json}, itemsOrdered items →
    ∀ value ∈ items, isOrdered value
  | [], _, _, h => by cases h
  | head :: rest, hordered, value, h => by
    simp only [itemsOrdered, Bool.and_eq_true] at hordered
    rcases mem_cons.mp h with rfl | h
    · exact hordered.1
    · exact itemsOrdered_mem hordered.2 value h

variable {value : Json} {key : String}

theorem isOrdered_member {child : Json} (hordered : isOrdered value)
    (h : value.member key = some child) : isOrdered child := by
  cases value with
  | object =>
    simp only [isOrdered, Bool.and_eq_true] at hordered
    exact membersOrdered_mem hordered.2 h
  | _ => cases h

theorem nodup_of_ascending {members : List (String × Json)} (h : ascending members) :
    (members.map (·.1)).Nodup := by
  have hpairwise := of_decide_eq_true h
  rw [Nodup, pairwise_map]
  exact hpairwise.imp fun hlt => ne_of_lt hlt

/-- Members in key order are determined by what is found under the keys. -/
theorem ascending_ext {a b : List (String × Json)} (ha : ascending a)
    (hb : ascending b) (h : ∀ key, a.lookup key = b.lookup key) : a = b := by
  have hmem : ∀ {members : List (String × Json)}, ascending members = true → ∀ entry,
      entry ∈ members ↔ members.lookup entry.1 = some entry.2 := by
    intro members hascending entry
    refine ⟨fun hmem => ?_, mem_of_lookup⟩
    obtain ⟨before, after, rfl⟩ := append_of_mem hmem
    have hnodup := nodup_of_ascending hascending
    grind [lookup_eq_some_iff]
  refine Perm.eq_of_pairwise ?_ (of_decide_eq_true ha) (of_decide_eq_true hb) ?_
  · exact fun _ _ _ _ hlt hgt => absurd hgt (lt_asymm hlt)
  · refine (perm_ext_iff_of_nodup ?_ ?_).mpr fun entry => by rw [hmem ha, hmem hb, h]
    · exact .of_map _ (nodup_of_ascending ha)
    · exact .of_map _ (nodup_of_ascending hb)

theorem membersOrdered_of_forall : ∀ {members : List (String × Json)},
    (∀ entry ∈ members, isOrdered entry.2) → membersOrdered members
  | [], _ => rfl
  | (key, value) :: rest, h => by
    rw [membersOrdered, h (key, value) mem_cons_self, Bool.true_and]
    exact membersOrdered_of_forall fun entry hmem => h entry (mem_cons_of_mem _ hmem)

theorem itemsOrdered_of_forall : ∀ {items : List Json},
    (∀ item ∈ items, isOrdered item) → itemsOrdered items
  | [], _ => rfl
  | value :: rest, h => by
    rw [itemsOrdered, h value mem_cons_self, Bool.true_and]
    exact itemsOrdered_of_forall fun item hmem => h item (mem_cons_of_mem _ hmem)

/-! ## Records

A record is an object written from named fields; an absent field has no member. -/

/-- The members for the given fields, in key order. -/
def recordMembers : List (String × Option Json) → List (String × Json)
  | [] => []
  | (name, some value) :: fields => insertMember name value (recordMembers fields)
  | (_, none) :: fields => recordMembers fields

/-- The object with the given fields. -/
def record (fields : List (String × Option Json)) : Json := .object (recordMembers fields)

@[simp] theorem member_record_nil (key : String) : (record []).member key = none := rfl

theorem member_record_cons (key name : String) (value : Option Json)
    (fields : List (String × Option Json)) :
    (record ((name, value) :: fields)).member key
      = if key = name then value.or ((record fields).member key)
        else (record fields).member key := by
  cases value with
  | none => simp [record, recordMembers]
  | some value =>
    by_cases h : key = name <;> simp [record, recordMembers, lookup_insertMember, h]

theorem mem_insertMember {entry : String × Json} :
    ∀ {members : List (String × Json)}, entry ∈ insertMember key value members →
      entry = (key, value) ∨ entry ∈ members
  | [], h => by simpa [insertMember] using h
  | (first, v) :: rest, h => by
    unfold insertMember at h
    split at h
    · rcases mem_cons.mp h with h | h
      · exact .inl h
      · exact .inr (mem_cons_of_mem _ h)
    split at h
    · exact mem_cons.mp h
    rcases mem_cons.mp h with h | h
    · exact .inr (h ▸ mem_cons_self)
    · rcases mem_insertMember h with h | h
      · exact .inl h
      · exact .inr (mem_cons_of_mem _ h)

theorem mem_recordMembers {entry : String × Json} :
    ∀ {fields : List (String × Option Json)}, entry ∈ recordMembers fields →
      (entry.1, some entry.2) ∈ fields
  | [], h => by cases h
  | (_, none) :: _, h => mem_cons_of_mem _ (mem_recordMembers h)
  | (name, some value) :: fields, h => by
    rcases mem_insertMember h with h | h
    · exact h ▸ mem_cons_self
    · exact mem_cons_of_mem _ (mem_recordMembers h)

theorem ascending_insertMember :
    ∀ {members : List (String × Json)}, ascending members →
      ascending (insertMember key value members)
  | [], _ => by simp [insertMember, ascending]
  | (first, v) :: rest, h => by
    simp only [ascending, decide_eq_true_eq, pairwise_cons] at h ⊢
    obtain ⟨hfirst, hrest⟩ := h
    unfold insertMember
    split
    · rename_i heq
      subst heq
      exact pairwise_cons.mpr ⟨hfirst, hrest⟩
    rename_i hne
    split
    · rename_i hlt
      refine pairwise_cons.mpr ⟨?_, pairwise_cons.mpr ⟨hfirst, hrest⟩⟩
      intro entry hmem
      rcases mem_cons.mp hmem with rfl | hmem
      · exact hlt
      · exact lt_trans hlt (hfirst entry hmem)
    · rename_i hnot
      have hascending : ascending rest := decide_eq_true hrest
      have hsorted := ascending_insertMember hascending
      refine pairwise_cons.mpr ⟨?_, of_decide_eq_true hsorted⟩
      intro entry hmem
      rcases mem_insertMember hmem with rfl | hmem
      · exact lt_of_le_of_ne (not_lt.mp hnot) fun heq => hne heq.symm
      · exact hfirst entry hmem

theorem ascending_recordMembers : ∀ fields,
    ascending (recordMembers fields)
  | [] => by simp [recordMembers, ascending]
  | (_, some _) :: fields => ascending_insertMember (ascending_recordMembers fields)
  | (_, none) :: fields => ascending_recordMembers fields

theorem isOrdered_record {fields : List (String × Option Json)}
    (h : ∀ field ∈ fields, ∀ value, field.2 = some value → isOrdered value) :
    isOrdered (record fields) := by
  rw [record, isOrdered, ascending_recordMembers, Bool.true_and]
  apply membersOrdered_of_forall
  intro entry hmem
  exact h _ (mem_recordMembers hmem) entry.2 rfl

end Json

end Workbench.Library
