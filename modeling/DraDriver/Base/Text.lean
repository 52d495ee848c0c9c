/-
**Formatted names.**

`decimal` is what `%d` prints of an unsigned number. The facts are the ones that keep formatted
names apart: a decimal is digits only (`decimal_digits`), equal decimals print equal numbers
(`decimal_inj`), and a fixed text followed by a decimal is told apart from every text that goes on
with a non-digit (`append_decimal_ne`). Two texts joined where a class of characters ends are read
apart again (`append_inj_at`). `decimal_bytes` bounds what a number prints.

`fileExt`, `trimSuffix` and `hasPrefix` are the `filepath` and `strings` functions of those names;
a name is its trimmed part and its extension (`trimSuffix_fileExt`), and an extension put on a name
is read back (`fileExt_append`).
-/

import Mathlib.Tactic

namespace DraDriver.Base

/-- `fmt.Sprintf("%d", n)` of an unsigned number. -/
def decimal (n : ℕ) : String := n.repr

theorem decimal_inj {m n : ℕ} : decimal m = decimal n ↔ m = n := by
  constructor
  · intro same
    have digits := congrArg (fun text : String => Nat.ofDigitChars 10 text.toList 0) same
    simp only [decimal, Nat.toList_repr, Nat.ofDigitChars_ten_toDigits] at digits
    exact digits
  · intro same
    rw [same]

theorem decimal_digits {n : ℕ} {c : Char} (member : c ∈ (decimal n).toList) : c.isDigit = true := by
  unfold decimal at member
  rw [Nat.toList_repr] at member
  exact Nat.isDigit_of_mem_toDigits (by decide) (by decide) member

/-- A text that ends in a decimal determines the number. -/
theorem append_decimal_inj {text : String} {m n : ℕ} (same : text ++ decimal m = text ++ decimal n) :
    m = n :=
  decimal_inj.mp ((String.append_right_inj text).mp same)

/-- **A decimal after a text is told apart from a non-digit after it.** -/
theorem append_decimal_ne (text rest : String) (n : ℕ)
    (nonDigit : ∀ c ∈ rest.toList.head?, c.isDigit = false) (some : rest.toList ≠ []) :
    text ++ decimal n ≠ text ++ rest := by
  intro same
  have tail := (String.append_right_inj text).mp same
  obtain ⟨c, chars, split⟩ := List.exists_cons_of_ne_nil some
  have isDigit : c.isDigit = true := decimal_digits (n := n) (by rw [tail, split]; exact List.mem_cons_self)
  have notDigit := nonDigit c (by rw [split]; rfl)
  rw [isDigit] at notDigit
  cases notDigit

/-- **Two texts joined at the first character outside a class are told apart.** -/
theorem append_inj_at {p : Char → Bool} {u v d e : String} (insideU : u.toList.all p = true)
    (insideV : v.toList.all p = true) (stopD : ∃ c rest, d.toList = c :: rest ∧ p c = false)
    (stopE : ∃ c rest, e.toList = c :: rest ∧ p c = false) (same : u ++ d = v ++ e) :
    u = v ∧ d = e := by
  have taken : ∀ w f : String, w.toList.all p = true →
      (∃ c rest, f.toList = c :: rest ∧ p c = false) → (w ++ f).toList.takeWhile p = w.toList := by
    rintro w f inside ⟨c, rest, split, stops⟩
    rw [String.toList_append, List.takeWhile_append_of_pos (List.all_eq_true.mp inside), split,
      List.takeWhile_cons_of_neg (by simp [stops]), List.append_nil]
  have front : u.toList = v.toList := by
    rw [← taken u d insideU stopD, same, taken v e insideV stopE]
  cases String.toList_inj.mp front
  exact ⟨rfl, (String.append_right_inj u).mp same⟩

/-- A text of single-byte characters has a byte a character. -/
theorem utf8ByteSize_ofList {chars : List Char} (single : ∀ c ∈ chars, c.utf8Size = 1) :
    (String.ofList chars).utf8ByteSize = chars.length := by
  induction chars with
  | nil => rfl
  | cons c chars ih =>
    rw [String.ofList_cons, String.utf8ByteSize_append, String.utf8ByteSize_singleton,
      single c List.mem_cons_self, ih fun d member => single d (List.mem_cons_of_mem _ member),
      List.length_cons, Nat.add_comm]

/-- A number below a power of ten prints in that many bytes. -/
theorem decimal_bytes {n e : ℕ} (positive : 0 < e) (small : n < 10 ^ e) :
    (decimal n).utf8ByteSize ≤ e := by
  have single : ∀ c ∈ (decimal n).toList, c.utf8Size = 1 := by
    intro c member
    have digit := decimal_digits member
    simp only [Char.isDigit, Bool.and_eq_true, decide_eq_true_eq] at digit
    exact Char.utf8Size_eq_one_iff.mpr (UInt32.le_trans digit.2 (by decide))
  have bytes := utf8ByteSize_ofList single
  rw [String.ofList_toList] at bytes
  rw [bytes, String.length_toList]
  exact Nat.repr_length n e positive small

/-- `%q` of a printable text. -/
def quote (text : String) : String :=
  "\"" ++ String.join (text.toList.map fun c =>
    if c = '"' then "\\\"" else if c = '\\' then "\\\\" else c.toString) ++ "\""

/-! ### File names -/

/-- A character inside a file name's extension. -/
def inExt (c : Char) : Bool := c ≠ '.' && c ≠ '/'

/-- `filepath.Ext`: from the last dot of the last path element on. -/
def fileExt (name : String) : String :=
  match name.toList.reverse.dropWhile inExt with
  | '.' :: _ => String.ofList ('.' :: (name.toList.reverse.takeWhile inExt).reverse)
  | _ => ""

/-- `strings.TrimSuffix`. -/
def trimSuffix (text suffix : String) : String :=
  if suffix.toList <:+ text.toList then
    String.ofList (text.toList.take (text.toList.length - suffix.toList.length))
  else text

/-- `strings.HasPrefix`. -/
def hasPrefix (text lead : String) : Bool := lead.toList.isPrefixOf text.toList

/-- An extension put on a name is read back. -/
theorem fileExt_append (stem ext : String) (inside : ext.toList.all inExt = true) :
    fileExt (stem ++ ("." ++ ext)) = "." ++ ext := by
  have all : ∀ c ∈ ext.toList.reverse, inExt c = true := fun c member =>
    List.all_eq_true.mp inside c (List.mem_reverse.mp member)
  have chars : (stem ++ ("." ++ ext)).toList.reverse =
      ext.toList.reverse ++ '.' :: stem.toList.reverse := by
    simp
  unfold fileExt
  rw [chars, List.dropWhile_append_of_pos all, List.takeWhile_append_of_pos all]
  have stopped : ('.' :: stem.toList.reverse).dropWhile inExt = '.' :: stem.toList.reverse := rfl
  have taken : ('.' :: stem.toList.reverse).takeWhile inExt = [] := rfl
  rw [stopped, taken]
  apply String.toList_inj.mp
  simp

/-- A text that has no dot and ends a name is inside the name's extension, if there is one. -/
theorem fileExt_ends (stem rest : String) (inside : rest.toList.all inExt = true) :
    fileExt (stem ++ rest) = "" ∨ rest.toList <:+ (fileExt (stem ++ rest)).toList := by
  have all : ∀ c ∈ rest.toList.reverse, inExt c = true := fun c member =>
    List.all_eq_true.mp inside c (List.mem_reverse.mp member)
  have chars : (stem ++ rest).toList.reverse = rest.toList.reverse ++ stem.toList.reverse := by
    simp
  unfold fileExt
  rw [chars, List.takeWhile_append_of_pos all]
  split
  · refine Or.inr ?_
    rw [String.toList_ofList, List.reverse_append, List.reverse_reverse]
    exact ⟨'.' :: (stem.toList.reverse.takeWhile inExt).reverse, by simp⟩
  · exact Or.inl rfl

theorem trimSuffix_append (stem suffix : String) : trimSuffix (stem ++ suffix) suffix = stem := by
  unfold trimSuffix
  rw [if_pos ⟨stem.toList, by simp⟩]
  apply String.toList_inj.mp
  simp

/-- A trimmed name and its extension make the name. -/
theorem trimSuffix_fileExt (name : String) : trimSuffix name (fileExt name) ++ fileExt name = name := by
  have ends : (fileExt name).toList <:+ name.toList := by
    unfold fileExt
    split
    · rename_i rest dropped
      have whole := List.takeWhile_append_dropWhile (p := inExt) (l := name.toList.reverse)
      rw [dropped] at whole
      refine ⟨rest.reverse, ?_⟩
      have back := congrArg List.reverse whole
      simpa using back
    · exact List.nil_suffix
  unfold trimSuffix
  rw [if_pos ends]
  obtain ⟨stem, whole⟩ := ends
  apply String.toList_inj.mp
  rw [String.toList_append, String.toList_ofList, ← whole]
  simp

theorem hasPrefix_iff {text lead : String} : hasPrefix text lead = true ↔ ∃ rest, text = lead ++ rest := by
  unfold hasPrefix
  rw [List.isPrefixOf_iff_prefix]
  constructor
  · rintro ⟨rest, whole⟩
    exact ⟨String.ofList rest, String.toList_inj.mp (by simp [whole])⟩
  · rintro ⟨rest, rfl⟩
    exact ⟨rest.toList, by simp⟩

end DraDriver.Base
