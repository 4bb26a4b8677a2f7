import Mathlib

/-!
# Library: texts as lists of characters

The operations on texts that programs over bytes and lines use: splitting at the first or
the last occurrence of a separator, lines, surrounding white space, unsigned numbers.
-/

namespace Workbench.Library

/-- A sequence of bytes. -/
abbrev Bytes := List UInt8

/-- A text, character by character. -/
abbrev Text := List Char

namespace Text

/-- The parts of a text before and after the first occurrence of a separator. -/
def splitOnce (separator : Text) : Text → Option (Text × Text)
  | [] => if separator = [] then some ([], []) else none
  | c :: rest =>
    if separator.isPrefixOf (c :: rest) then some ([], (c :: rest).drop separator.length)
    else (splitOnce separator rest).map fun parts => (c :: parts.1, parts.2)

/-- The parts of a text before and after the last occurrence of a character. -/
def rsplitOnce (separator : Char) (text : Text) : Option (Text × Text) :=
  (splitOnce [separator] text.reverse).map fun parts => (parts.2.reverse, parts.1.reverse)

/-- The parts of a text between the occurrences of a separator, in at most so many cuts. -/
def splitUpTo (separator : Text) : Nat → Text → List Text
  | 0, text => [text]
  | cuts + 1, text =>
    match splitOnce separator text with
    | some (part, rest) => part :: splitUpTo separator cuts rest
    | none => [text]

/-- The parts of a text between the occurrences of a separator that is not empty. -/
def split (separator text : Text) : List Text := splitUpTo separator text.length text

/-- Whether a text occurs in another one. -/
def contains (part text : Text) : Bool := (splitOnce part text).isSome

/-- A line without the carriage return before its end. -/
def stripReturn (line : Text) : Text :=
  match line.getLast? with
  | some '\r' => line.dropLast
  | _ => line

/-- The lines of a text; what stands behind the last line feed is one unless it is empty. -/
def lines (text : Text) : List Text :=
  let parts := text.splitOn '\n'
  parts.dropLast.map stripReturn ++ (parts.getLast?.toList.filter fun last => last ≠ [])

/-- The characters with the Unicode property `White_Space`. -/
def isWhite (c : Char) : Bool :=
  let n := c.toNat
  decide (9 ≤ n ∧ n ≤ 13) || n == 0x20 || n == 0x85 || n == 0xA0 || n == 0x1680
    || decide (0x2000 ≤ n ∧ n ≤ 0x200A) || n == 0x2028 || n == 0x2029 || n == 0x202F
    || n == 0x205F || n == 0x3000

def trimEnd (text : Text) : Text := (text.reverse.dropWhile isWhite).reverse

def trim (text : Text) : Text := trimEnd (text.dropWhile isWhite)

/-- The text with the ASCII capitals in lower case. -/
def asciiLower (text : Text) : Text := text.map Char.toLower

/-- Reads an unsigned number below a bound; a plus sign may stand before it. -/
def parseUnsigned (bound : Nat) (text : Text) : Option Nat :=
  let digits := match text with
    | '+' :: rest => rest
    | other => other
  if digits = [] ∨ digits.all Char.isDigit = false then none
  else
    let value := digits.foldl (fun n c => 10 * n + (c.toNat - 48)) 0
    if value < bound then some value else none

/-- The number of bytes of a text in UTF-8. -/
def utf8Length (text : Text) : Nat := (text.map Char.utf8Size).sum

def utf8 (text : Text) : Bytes := text.flatMap String.utf8EncodeChar

/-! ## What the parts are -/

theorem splitOnce_cons_of_ne {c d : Char} (h : c ≠ d) (separator text : Text) :
    splitOnce (c :: separator) (d :: text)
      = (splitOnce (c :: separator) text).map fun parts => (d :: parts.1, parts.2) := by
  rw [splitOnce, if_neg (by simp [h])]

/-- A text is split behind a part that lacks the first character of the separator. -/
theorem splitOnce_append {c : Char} (separator rest : Text) : ∀ {part : Text}, c ∉ part →
    splitOnce (c :: separator) (part ++ c :: separator ++ rest) = some (part, rest)
  | [], _ => by simp [splitOnce]
  | d :: part, h => by
    obtain ⟨hne, hnot⟩ := not_or.mp (mt List.mem_cons.mpr h)
    rw [List.cons_append, List.cons_append, splitOnce_cons_of_ne hne,
      splitOnce_append separator rest hnot, Option.map_some]

/-- A text is split at the first occurrence of a character. -/
theorem splitOnce_spec (c : Char) : ∀ text, (splitOnce [c] text).elim (c ∉ text)
    fun parts => c ∉ parts.1 ∧ text = parts.1 ++ c :: parts.2
  | [] => by simp [splitOnce]
  | d :: text => by
    have ih := splitOnce_spec c text
    by_cases h : c = d
    · simp [splitOnce, h]
    · rw [splitOnce_cons_of_ne h]
      cases hsplit : splitOnce [c] text <;> simp_all

/-- A text is split at a character behind which there is no other one. -/
theorem rsplitOnce_append {c : Char} {part rest : Text} (h : c ∉ rest) :
    rsplitOnce c (part ++ c :: rest) = some (part, rest) := by
  have hsplit := splitOnce_append [] part.reverse (mt List.mem_reverse.mp h)
  simp [rsplitOnce] at hsplit ⊢
  simp [hsplit]

/-- Only capitals change, and they become small letters. -/
theorem toLower_cases (c : Char) : c.toLower = c ∨ 97 ≤ c.toLower.toNat := by
  unfold Char.toLower
  split
  · next hupper =>
    have hlow : 65 ≤ c.toNat := UInt32.le_iff_toNat_le.mp hupper.1
    have hhigh : c.toNat ≤ 90 := UInt32.le_iff_toNat_le.mp hupper.2
    right
    change 97 ≤ (c.val + 32).toNat
    simp only [UInt32.toNat_add, Char.toNat_val, UInt32.reduceToNat]
    omega
  · exact .inl rfl

theorem asciiLower_asciiLower (text : Text) : asciiLower (asciiLower text) = asciiLower text := by
  simp only [asciiLower, List.map_map, List.map_inj_left, Function.comp_apply]
  intro c _
  rcases toLower_cases c with h | h
  · rw [h, h]
  · refine dif_neg fun hupper => ?_
    have hhigh : c.toLower.toNat ≤ 90 := UInt32.le_iff_toNat_le.mp hupper.2
    omega

theorem mem_of_mem_asciiLower {c : Char} {text : Text} (hc : c.toNat < 97)
    (h : c ∈ asciiLower text) : c ∈ text := by
  obtain ⟨d, hmem, rfl⟩ := List.mem_map.mp h
  rwa [(toLower_cases d).resolve_right (by omega)]

/-- A number is read back from its digits. -/
theorem parseUnsigned_toDigits {bound n : Nat} (h : n < bound) :
    parseUnsigned bound (Nat.toDigits 10 n) = some n := by
  have hread : (Nat.toDigits 10 n).foldl (fun n c => 10 * n + (c.toNat - 48)) 0 = n :=
    Nat.ofDigitChars_toDigits (by decide) (by decide)
  have hdigit := fun c => @Nat.isDigit_of_mem_toDigits 10 n c (by decide) (by decide)
  unfold parseUnsigned
  split
  · next rest heq => cases hdigit '+' (heq ▸ List.mem_cons_self)
  · simpa [hread, h, Nat.toDigits_ne_nil] using hdigit

end Text

end Workbench.Library
