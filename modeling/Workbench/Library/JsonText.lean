import Workbench.Library.Json

/-!
# Library: the compact text of a JSON value

The text a serializer writes without white space, members in the order they stand.  Two
values with the same text are equal: the first character tells their kind, a text ends at
its quotation mark, and a number before the first character that no number contains.  How
a floating-point number is written is a parameter.
-/

namespace Workbench.Library

open List

/-- The characters that may stand in a number. -/
def isNumberChar (c : Char) : Bool :=
  c.isDigit || c == '-' || c == '+' || c == '.' || c == 'e' || c == 'E'

/-- A way to write floats: different ones are written differently, and none like an integer. -/
structure FloatFormat where
  text : JsonFloat → List Char
  injective : Function.Injective text
  numberChars : ∀ x, ∀ c ∈ text x, isNumberChar c
  marked : ∀ x, '.' ∈ text x ∨ 'e' ∈ text x

namespace Json

/-! ## Texts -/

/-- The low hexadecimal digits. -/
def hexDigit (n : Nat) : Char := Nat.digitChar n

/-- One character of a text, escaped where JSON requires it. -/
def escapeChar (c : Char) : List Char :=
  if c = '"' then ['\\', '"']
  else if c = '\\' then ['\\', '\\']
  else if c = '\x08' then ['\\', 'b']
  else if c = '\t' then ['\\', 't']
  else if c = '\n' then ['\\', 'n']
  else if c = '\x0c' then ['\\', 'f']
  else if c = '\r' then ['\\', 'r']
  else if c.toNat < 32 then ['\\', 'u', '0', '0', hexDigit (c.toNat / 16), hexDigit (c.toNat % 16)]
  else [c]

/-- The characters of a text and its closing quotation mark. -/
def renderChars : List Char → List Char
  | [] => ['"']
  | c :: rest => escapeChar c ++ renderChars rest

def renderString (s : String) : List Char := '"' :: renderChars s.toList

/-- The value of a hexadecimal digit. -/
def hexValue (c : Char) : Nat :=
  if c.isDigit then c.toNat - 48 else c.toNat - 87

/-- Reads back one escaped character. -/
def unescape : List Char → Option (Char × List Char)
  | '\\' :: '"' :: rest => some ('"', rest)
  | '\\' :: '\\' :: rest => some ('\\', rest)
  | '\\' :: 'b' :: rest => some ('\x08', rest)
  | '\\' :: 't' :: rest => some ('\t', rest)
  | '\\' :: 'n' :: rest => some ('\n', rest)
  | '\\' :: 'f' :: rest => some ('\x0c', rest)
  | '\\' :: 'r' :: rest => some ('\r', rest)
  | '\\' :: 'u' :: '0' :: '0' :: high :: low :: rest =>
    some (Char.ofNat (16 * hexValue high + hexValue low), rest)
  | '"' :: _ => none
  | c :: rest => some (c, rest)
  | [] => none

theorem hexValue_hexDigit : ∀ n < 32,
    16 * hexValue (hexDigit (n / 16)) + hexValue (hexDigit (n % 16)) = n := by
  decide

theorem unescape_escapeChar (c : Char) (rest : List Char) :
    unescape (escapeChar c ++ rest) = some (c, rest) := by
  unfold escapeChar
  split_ifs with _ _ _ _ _ _ _ hlt
  iterate 7
    · simp_all [unescape]
  · simp only [cons_append, nil_append, unescape, hexValue_hexDigit c.toNat hlt, Char.ofNat_toNat]
  · unfold unescape
    split <;> simp_all

theorem escapeChar_append_inj {a b : Char} {s t : List Char}
    (h : escapeChar a ++ s = escapeChar b ++ t) : a = b ∧ s = t := by
  have hread := congrArg unescape h
  rw [unescape_escapeChar, unescape_escapeChar] at hread
  simpa using hread

theorem escapeChar_append_ne_quote (c : Char) (s t : List Char) :
    escapeChar c ++ s ≠ '"' :: t := by
  intro h
  have hread := congrArg unescape h
  rw [unescape_escapeChar] at hread
  simp [unescape] at hread

theorem renderChars_append_inj : ∀ {a b s t : List Char},
    renderChars a ++ s = renderChars b ++ t → a = b ∧ s = t
  | [], [], _, _, h => by simpa [renderChars] using h
  | [], c :: b, s, t, h => by
    rw [renderChars, renderChars, append_assoc] at h
    exact absurd h.symm (escapeChar_append_ne_quote c _ _)
  | c :: a, [], s, t, h => by
    rw [renderChars, renderChars, append_assoc] at h
    exact absurd h (escapeChar_append_ne_quote c _ _)
  | c :: a, d :: b, s, t, h => by
    rw [renderChars, renderChars, append_assoc, append_assoc] at h
    obtain ⟨rfl, hrest⟩ := escapeChar_append_inj h
    obtain ⟨rfl, rfl⟩ := renderChars_append_inj hrest
    exact ⟨rfl, rfl⟩

theorem renderString_append_inj {a b : String} {s t : List Char}
    (h : renderString a ++ s = renderString b ++ t) : a = b ∧ s = t := by
  rw [renderString, renderString, cons_append, cons_append, cons.injEq] at h
  obtain ⟨hchars, rfl⟩ := renderChars_append_inj h.2
  exact ⟨String.toList_inj.mp hchars, rfl⟩

/-! ## Numbers -/

section

variable (format : FloatFormat)

def renderNumber : JsonNumber → List Char
  | .natural n => Nat.toDigits 10 n.toNat
  | .negative pred => '-' :: Nat.toDigits 10 (pred + 1)
  | .float x => format.text x

theorem isNumberChar_of_isDigit {c : Char} (h : c.isDigit) : isNumberChar c := by
  simp [isNumberChar, h]

theorem isNumberChar_renderNumber (n : JsonNumber) :
    ∀ c ∈ renderNumber format n, isNumberChar c := by
  intro c hmem
  cases n with
  | natural =>
    exact isNumberChar_of_isDigit (Nat.isDigit_of_mem_toDigits (by decide) (by decide) hmem)
  | negative =>
    rcases mem_cons.mp hmem with rfl | hmem
    · rfl
    · exact isNumberChar_of_isDigit (Nat.isDigit_of_mem_toDigits (by decide) (by decide) hmem)
  | float q => exact format.numberChars q c hmem

theorem renderNumber_ne_nil (n : JsonNumber) : renderNumber format n ≠ [] := by
  cases n with
  | natural => exact Nat.toDigits_ne_nil
  | negative => exact cons_ne_nil _ _
  | float q =>
    intro hnil
    have hmarked := format.marked q
    rw [show format.text q = [] from hnil] at hmarked
    simp at hmarked

theorem toDigits_inj {a b : Nat} (h : Nat.toDigits 10 a = Nat.toDigits 10 b) : a = b := by
  have hread := congrArg (fun digits => Nat.ofDigitChars 10 digits 0) h
  simpa [Nat.ofDigitChars_toDigits] using hread

theorem mem_toDigits_ne {c : Char} {n : Nat} (hmem : c ∈ Nat.toDigits 10 n)
    (hdigit : c.isDigit = false) : False := by
  rw [Nat.isDigit_of_mem_toDigits (by decide) (by decide) hmem] at hdigit
  cases hdigit

theorem float_ne_integer {q : JsonFloat} {n : Nat} {sign : List Char}
    (hsign : ∀ c ∈ sign, c = '-') : format.text q ≠ sign ++ Nat.toDigits 10 n := by
  intro h
  rcases format.marked q with hmem | hmem <;> rw [h, mem_append] at hmem <;>
    rcases hmem with hmem | hmem
  · exact absurd (hsign _ hmem) (by decide)
  · exact mem_toDigits_ne hmem rfl
  · exact absurd (hsign _ hmem) (by decide)
  · exact mem_toDigits_ne hmem rfl

theorem toDigits_ne_negative {n : Nat} {text : List Char} : Nat.toDigits 10 n ≠ '-' :: text :=
  fun h => mem_toDigits_ne (h ▸ mem_cons_self) rfl

theorem renderNumber_injective : Function.Injective (renderNumber format) := by
  have hpositive : ∀ c ∈ [], c = '-' := forall_mem_nil _
  have hnegative : ∀ c ∈ ['-'], c = '-' := by simp
  intro a b h
  cases a with
  | natural n =>
    cases b with
    | natural => rw [UInt64.toNat_inj.mp (toDigits_inj h)]
    | negative => exact absurd h toDigits_ne_negative
    | float => exact absurd h.symm (float_ne_integer format hpositive)
  | negative =>
    cases b with
    | natural m => exact absurd h.symm toDigits_ne_negative
    | negative =>
      rw [renderNumber, renderNumber, cons.injEq] at h
      have heq := toDigits_inj h.2
      rw [Nat.succ.inj heq]
    | float => exact absurd h.symm (float_ne_integer format hnegative)
  | float =>
    cases b with
    | natural => exact absurd h (float_ne_integer format hpositive)
    | negative => exact absurd h (float_ne_integer format hnegative)
    | float => rw [format.injective h]

/-- No number goes on into these characters. -/
def Ends (s : List Char) : Prop := ∀ c, s.head? = some c → isNumberChar c = false

theorem takeWhile_append_ends {text s : List Char}
    (htext : ∀ c ∈ text, isNumberChar c) (hends : Ends s) :
    (text ++ s).takeWhile isNumberChar = text ∧ (text ++ s).dropWhile isNumberChar = s := by
  induction text with
  | nil =>
    cases s with
    | nil => exact ⟨rfl, rfl⟩
    | cons c s => simp [hends c rfl]
  | cons c text ih =>
    obtain ⟨htake, hdrop⟩ := ih fun d hmem => htext d (mem_cons_of_mem _ hmem)
    simp [htext c mem_cons_self, htake, hdrop]

variable {s t : List Char}

theorem renderNumber_append_inj {a b : JsonNumber} (hs : Ends s) (ht : Ends t)
    (h : renderNumber format a ++ s = renderNumber format b ++ t) : a = b ∧ s = t := by
  obtain ⟨htake, hdrop⟩ := takeWhile_append_ends (isNumberChar_renderNumber format a) hs
  obtain ⟨htake', hdrop'⟩ := takeWhile_append_ends (isNumberChar_renderNumber format b) ht
  rw [h] at htake hdrop
  exact ⟨renderNumber_injective format (htake.symm.trans htake'), hdrop.symm.trans hdrop'⟩

/-! ## Values -/

mutual

/-- The compact text of a value. -/
def render : Json → List Char
  | .null => ['n', 'u', 'l', 'l']
  | .bool true => ['t', 'r', 'u', 'e']
  | .bool false => ['f', 'a', 'l', 's', 'e']
  | .number n => renderNumber format n
  | .string s => renderString s
  | .array [] => ['[', ']']
  | .array (value :: rest) => '[' :: (render value ++ renderItems rest)
  | .object [] => ['\x7b', '\x7d']
  | .object ((key, value) :: rest) =>
    '\x7b' :: (renderString key ++ ':' :: (render value ++ renderMembers rest))

/-- The items after the first, and the closing bracket. -/
def renderItems : List Json → List Char
  | [] => [']']
  | value :: rest => ',' :: (render value ++ renderItems rest)

/-- The members after the first, and the closing brace. -/
def renderMembers : List (String × Json) → List Char
  | [] => ['\x7d']
  | (key, value) :: rest =>
    ',' :: (renderString key ++ ':' :: (render value ++ renderMembers rest))

end

theorem ends_renderItems (items : List Json) (s : List Char) :
    Ends (renderItems format items ++ s) := by
  cases items with
  | nil | cons value rest => rintro c ⟨⟩; rfl

theorem ends_renderMembers (members : List (String × Json)) (s : List Char) :
    Ends (renderMembers format members ++ s) := by
  cases members with
  | nil | cons entry rest => rintro c ⟨⟩; rfl

/-- The kinds of values that the first character tells apart. -/
inductive Lead where
  | null
  | yes
  | no
  | number
  | string
  | array
  | object
  deriving DecidableEq

def lead : Json → Lead
  | .null => .null
  | .bool true => .yes
  | .bool false => .no
  | .number _ => .number
  | .string _ => .string
  | .array _ => .array
  | .object _ => .object

/-- The kind of value that starts with a character. -/
def leadOf (c : Char) : Option Lead :=
  if isNumberChar c then some .number
  else [('n', .null), ('t', .yes), ('f', .no), ('"', .string), ('[', .array),
    ('\x7b', .object)].lookup c

theorem leadOf_render (value : Json) (s : List Char) :
    ∃ c rest, render format value ++ s = c :: rest ∧ leadOf c = some (lead value) := by
  cases value with
  | null | string => exact ⟨_, _, rfl, rfl⟩
  | bool b => cases b <;> exact ⟨_, _, rfl, rfl⟩
  | number n =>
    obtain ⟨c, rest, hnumber⟩ := exists_cons_of_ne_nil (renderNumber_ne_nil format n)
    have hchar := isNumberChar_renderNumber format n c (hnumber ▸ mem_cons_self)
    exact ⟨c, rest ++ s, by rw [render, hnumber]; rfl, by simp [leadOf, hchar, lead]⟩
  | array items => cases items <;> exact ⟨_, _, rfl, rfl⟩
  | object members => cases members <;> exact ⟨_, _, rfl, rfl⟩

theorem lead_eq_of_render {a b : Json}
    (h : render format a ++ s = render format b ++ t) : lead a = lead b := by
  obtain ⟨c, rest, hc, hlead⟩ := leadOf_render format a s
  obtain ⟨d, rest', hd, hlead'⟩ := leadOf_render format b t
  rw [hc, hd, cons.injEq] at h
  rw [h.1, hlead', Option.some.injEq] at hlead
  exact hlead.symm

/-- The first character of `null`, `true` and `false` tells the value. -/
theorem literal_append_inj {a b : Json} (hliteral : lead a ∈ [Lead.null, .yes, .no])
    (h : render format a ++ s = render format b ++ t) : a = b ∧ s = t := by
  have hlead := lead_eq_of_render format h
  have heq : a = b := by
    revert hliteral hlead
    fun_cases lead a <;> fun_cases lead b <;> simp
  subst heq
  exact ⟨rfl, append_cancel_left h⟩

theorem array_nil_ne_cons {value : Json} {rest : List Json} :
    render format (.array []) ++ s ≠ render format (.array (value :: rest)) ++ t := by
  intro h
  rw [render, render] at h
  obtain ⟨c, text, hc, hlead⟩ := leadOf_render format value (renderItems format rest ++ t)
  simp only [cons_append, nil_append, cons.injEq, true_and, append_assoc, hc] at h
  rw [← h.1] at hlead
  cases hlead

/-- The items of an array are written as they are behind a first one, but for the bracket. -/
theorem renderItems_of_array {a b : List Json}
    (h : render format (.array a) ++ s = render format (.array b) ++ t) :
    renderItems format a ++ s = renderItems format b ++ t := by
  cases a with
  | nil =>
    cases b with
    | nil => simpa [render, renderItems] using h
    | cons => exact absurd h (array_nil_ne_cons format)
  | cons =>
    cases b with
    | nil => exact absurd h.symm (array_nil_ne_cons format)
    | cons => simpa [render, renderItems] using h

theorem renderMembers_of_object {a b : List (String × Json)}
    (h : render format (.object a) ++ s = render format (.object b) ++ t) :
    renderMembers format a ++ s = renderMembers format b ++ t := by
  cases a <;> cases b <;> simp_all [render, renderMembers, renderString]

mutual

/-- A value can be told from what follows it. -/
theorem render_append_inj : ∀ {a b : Json} {s t : List Char}, Ends s → Ends t →
    render format a ++ s = render format b ++ t → a = b ∧ s = t
  | .null, _, _, _, _, _, h | .bool true, _, _, _, _, _, h | .bool false, _, _, _, _, _, h =>
    literal_append_inj format (by decide) h
  | .number n, b, s, t, hs, ht, h => by
    have hlead := lead_eq_of_render format h
    cases b with
    | number =>
      obtain ⟨rfl, rfl⟩ := renderNumber_append_inj format hs ht h
      exact ⟨rfl, rfl⟩
    | bool b => cases b <;> cases hlead
    | _ => cases hlead
  | .string text, b, s, t, _, _, h => by
    have hlead := lead_eq_of_render format h
    cases b with
    | string =>
      obtain ⟨rfl, rfl⟩ := renderString_append_inj h
      exact ⟨rfl, rfl⟩
    | bool b => cases b <;> cases hlead
    | _ => cases hlead
  | .array items, b, s, t, _, _, h => by
    have hlead := lead_eq_of_render format h
    cases b with
    | array =>
      obtain ⟨rfl, rfl⟩ := renderItems_append_inj (renderItems_of_array format h)
      exact ⟨rfl, rfl⟩
    | bool b => cases b <;> cases hlead
    | _ => cases hlead
  | .object members, b, s, t, _, _, h => by
    have hlead := lead_eq_of_render format h
    cases b with
    | object =>
      obtain ⟨rfl, rfl⟩ := renderMembers_append_inj (renderMembers_of_object format h)
      exact ⟨rfl, rfl⟩
    | bool b => cases b <;> cases hlead
    | _ => cases hlead

theorem renderItems_append_inj : ∀ {a b : List Json} {s t : List Char},
    renderItems format a ++ s = renderItems format b ++ t → a = b ∧ s = t
  | [], [], s, t, h => by simpa [renderItems] using h
  | [], value :: b, s, t, h => by simp [renderItems] at h
  | value :: a, [], s, t, h => by simp [renderItems] at h
  | value :: a, value' :: b, s, t, h => by
    rw [renderItems, renderItems, cons_append, cons_append, cons.injEq,
      append_assoc, append_assoc] at h
    obtain ⟨rfl, hrest⟩ := render_append_inj (ends_renderItems format a s)
      (ends_renderItems format b t) h.2
    obtain ⟨rfl, rfl⟩ := renderItems_append_inj hrest
    exact ⟨rfl, rfl⟩

theorem renderMembers_append_inj : ∀ {a b : List (String × Json)} {s t : List Char},
    renderMembers format a ++ s = renderMembers format b ++ t → a = b ∧ s = t
  | [], [], s, t, h => by simpa [renderMembers] using h
  | [], (key, value) :: b, s, t, h => by simp [renderMembers] at h
  | (key, value) :: a, [], s, t, h => by simp [renderMembers] at h
  | (key, value) :: a, (key', value') :: b, s, t, h => by
    rw [renderMembers, renderMembers, cons_append, cons_append, cons.injEq,
      append_assoc, append_assoc, cons_append, cons_append] at h
    obtain ⟨rfl, hrest⟩ := renderString_append_inj h.2
    rw [cons.injEq, append_assoc, append_assoc] at hrest
    obtain ⟨rfl, htail⟩ := render_append_inj (ends_renderMembers format a s)
      (ends_renderMembers format b t) hrest.2
    obtain ⟨rfl, rfl⟩ := renderMembers_append_inj htail
    exact ⟨rfl, rfl⟩

end

/-! ## Lines -/

theorem hexDigit_ne_newline : ∀ n < 16, '\n' ≠ hexDigit n := by
  decide

theorem newline_not_mem_escapeChar (c : Char) : '\n' ∉ escapeChar c := by
  have hhigh : c.toNat < 32 → '\n' ≠ hexDigit (c.toNat / 16) := fun h =>
    hexDigit_ne_newline _ (by omega)
  have hlow := hexDigit_ne_newline (c.toNat % 16) (Nat.mod_lt _ (by decide))
  unfold escapeChar
  split_ifs <;> simp_all [eq_comm]

theorem newline_not_mem_renderString (s : String) : '\n' ∉ renderString s := by
  have hchars : ∀ chars, '\n' ∉ renderChars chars := by
    intro chars
    induction chars with
    | nil => decide
    | cons c rest ih =>
      rw [renderChars, mem_append, not_or]
      exact ⟨newline_not_mem_escapeChar c, ih⟩
  rw [renderString, mem_cons, not_or]
  exact ⟨by decide, hchars _⟩

theorem newline_not_mem_renderNumber (n : JsonNumber) : '\n' ∉ renderNumber format n := by
  intro hmem
  have hnumber := isNumberChar_renderNumber format n '\n' hmem
  exact absurd hnumber (by decide)

mutual

/-- A value is written on one line. -/
theorem newline_not_mem_render : ∀ value, '\n' ∉ render format value
  | .null | .bool true | .bool false | .array [] | .object [] => by simp [render]
  | .number n => by
    exact newline_not_mem_renderNumber format n
  | .string s => by
    exact newline_not_mem_renderString s
  | .array (value :: rest) => by
    simp [render, newline_not_mem_render value, newline_not_mem_renderItems rest]
  | .object ((key, value) :: rest) => by
    simp [render, newline_not_mem_renderString, newline_not_mem_render value,
      newline_not_mem_renderMembers rest]

theorem newline_not_mem_renderItems : ∀ items, '\n' ∉ renderItems format items
  | [] => by simp [renderItems]
  | value :: rest => by
    simp [renderItems, newline_not_mem_render value, newline_not_mem_renderItems rest]

theorem newline_not_mem_renderMembers :
    ∀ members, '\n' ∉ renderMembers format members
  | [] => by simp [renderMembers]
  | (key, value) :: rest => by
    simp [renderMembers, newline_not_mem_renderString, newline_not_mem_render value,
      newline_not_mem_renderMembers rest]

end

theorem render_ne_nil (value : Json) : render format value ≠ [] := by
  intro hnil
  have hlead := leadOf_render format value []
  simp [hnil] at hlead

def toText (value : Json) : String := String.ofList (render format value)

/-- Values with the same text are equal. -/
theorem toText_injective : Function.Injective (toText format) := by
  intro a b h
  have hchars : render format a = render format b := String.ofList_injective h
  have hends : Ends [] := by
    rintro c ⟨⟩
  exact (render_append_inj format hends hends (congrArg (· ++ []) hchars)).1

end

/-! ## A format for rational numbers -/

def renderInt (n : Int) : List Char :=
  if n < 0 then '-' :: Nat.toDigits 10 n.natAbs else Nat.toDigits 10 n.natAbs

theorem renderInt_chars (n : Int) : ∀ c ∈ renderInt n, c.isDigit ∨ c = '-' := by
  intro c hmem
  unfold renderInt at hmem
  split at hmem
  · rcases mem_cons.mp hmem with rfl | hmem
    · exact .inr rfl
    · exact .inl (Nat.isDigit_of_mem_toDigits (by decide) (by decide) hmem)
  · exact .inl (Nat.isDigit_of_mem_toDigits (by decide) (by decide) hmem)

theorem renderInt_injective : Function.Injective renderInt := by
  intro a b h
  unfold renderInt at h
  split at h <;> split at h
  · rw [cons.injEq] at h
    have habs := toDigits_inj h.2
    omega
  · have hmem : '-' ∈ Nat.toDigits 10 b.natAbs := h ▸ mem_cons_self
    exact (mem_toDigits_ne hmem rfl).elim
  · have hmem : '-' ∈ Nat.toDigits 10 a.natAbs := h ▸ mem_cons_self
    exact (mem_toDigits_ne hmem rfl).elim
  · have habs := toDigits_inj h
    omega

/-- Numerator and denominator around a point. -/
def ratioText (q : Rat) : List Char := renderInt q.num ++ '.' :: Nat.toDigits 10 q.den

theorem ratioText_injective : Function.Injective ratioText := by
  intro a b h
  have hplain : ∀ n, ∀ c ∈ renderInt n, (c != '.') := by
    intro n c hmem
    rcases renderInt_chars n c hmem with hdigit | rfl
    · simp only [bne_iff_ne, ne_eq]
      rintro rfl
      cases hdigit
    · rfl
  have htake := congrArg (takeWhile (· != '.')) h
  have hdrop := congrArg (dropWhile (· != '.')) h
  simp only [ratioText, takeWhile_append_of_pos (hplain _),
    dropWhile_append_of_pos (hplain _)] at htake hdrop
  simp only [bne_self_eq_false, Bool.false_eq_true, not_false_eq_true,
    takeWhile_cons_of_neg, append_nil, dropWhile_cons_of_neg, cons.injEq,
    true_and] at htake hdrop
  exact Rat.ext (renderInt_injective htake) (toDigits_inj hdrop)

theorem isNumberChar_ratioText (q : Rat) : ∀ c ∈ ratioText q, isNumberChar c := by
  intro c hmem
  rcases mem_append.mp hmem with hmem | hmem
  · rcases renderInt_chars _ c hmem with hdigit | rfl
    · exact isNumberChar_of_isDigit hdigit
    · rfl
  · rcases mem_cons.mp hmem with rfl | hmem
    · rfl
    · exact isNumberChar_of_isDigit (Nat.isDigit_of_mem_toDigits (by decide) (by decide) hmem)

theorem point_mem_ratioText (q : Rat) : '.' ∈ ratioText q := mem_append_right _ mem_cons_self

/-- Numerator, point and denominator; the negative zero is a lone exponent mark. -/
def ratioFormat : FloatFormat where
  text x := if x.negativeZero then ['e'] else ratioText x.value
  injective := by
    have hmark : ∀ q, ['e'] ≠ ratioText q := fun q h => by simpa [← h] using point_mem_ratioText q
    rintro ⟨a, _ | _, ha⟩ ⟨b, _ | _, hb⟩ h
    · obtain rfl : a = b := ratioText_injective h
      rfl
    · exact absurd h.symm (hmark a)
    · exact absurd h (hmark b)
    · simp [ha rfl, hb rfl]
  numberChars x := by
    split
    · simp [isNumberChar]
    · exact isNumberChar_ratioText x.value
  marked x := by
    split
    · simp
    · exact .inl (point_mem_ratioText x.value)

end Json

end Workbench.Library
