/-
**JSON as text.**

`Json.text` writes a value the way `json.Marshal` does: no white space, and inside a string the
escapes of Go's encoder (quotes, backslashes, control characters, `<`, `>`, `&` and the two line
separators). `parse` reads the same grammar back, with a fuel that the length of the text bounds.

* `parseChar_escape` — an escaped character is read as itself.
* `parseNumber_decimal` — a number is read up to the first character that is no digit.
* `parseValue_chars` — a written value is read whatever follows it, by induction over the value.
* **`parse_text`** — reading a written value gives the value.

Numbers are the natural numbers, and an escaped surrogate is refused: a writer emits neither a sign
nor a fraction here, nor an escape outside the basic plane.
-/

import DraDriver.Base.Text

namespace DraDriver.Base

/-- A JSON value; the members of an object are kept in order. -/
inductive Json
  | null
  | bool (b : Bool)
  | num (n : ℕ)
  | str (s : String)
  | arr (items : List Json)
  | obj (members : List (String × Json))

/-! ### Writing -/

/-- `\uXXXX`, in lower-case digits. -/
def unicodeEscape (code : ℕ) : List Char :=
  ['\\', 'u', (code / 4096 % 16).digitChar, (code / 256 % 16).digitChar,
    (code / 16 % 16).digitChar, (code % 16).digitChar]

/-- The letter of a two-character escape. -/
def escapeLetter : Char → Option Char
  | '"' => some '"'
  | '\\' => some '\\'
  | '\x08' => some 'b'
  | '\x0c' => some 'f'
  | '\n' => some 'n'
  | '\r' => some 'r'
  | '\t' => some 't'
  | _ => none

/-- A character that is written by its code: a control character, one that HTML gives a meaning,
or a line separator. -/
def writtenByCode (c : Char) : Bool :=
  c.toNat < 32 || c = '<' || c = '>' || c = '&' || c.toNat = 0x2028 || c.toNat = 0x2029

/-- A character inside a string, as `json.Marshal` writes it. -/
def escape (c : Char) : List Char :=
  match escapeLetter c with
  | some letter => ['\\', letter]
  | none => if writtenByCode c then unicodeEscape c.toNat else [c]

/-- What follows the opening quote of a string. -/
def stringChars (s : List Char) : List Char := s.flatMap escape ++ ['"']

/-- The comma before every item but the first. -/
def separator : Bool → List Char
  | true => []
  | false => [',']

mutual

/-- The text of a value. -/
def Json.chars : Json → List Char
  | .null => ['n', 'u', 'l', 'l']
  | .bool true => ['t', 'r', 'u', 'e']
  | .bool false => ['f', 'a', 'l', 's', 'e']
  | .num n => (decimal n).toList
  | .str s => '"' :: stringChars s.toList
  | .arr items => '[' :: Json.itemChars true items
  | .obj members => '{' :: Json.memberChars true members

/-- What is left to write of an array. -/
def Json.itemChars (first : Bool) : List Json → List Char
  | [] => [']']
  | item :: items => separator first ++ (item.chars ++ Json.itemChars false items)

/-- What is left to write of an object. -/
def Json.memberChars (first : Bool) : List (String × Json) → List Char
  | [] => ['}']
  | (key, value) :: members => separator first ++ ('"' :: (stringChars key.toList ++
      ':' :: (value.chars ++ Json.memberChars false members)))

end

/-- The text of a value. -/
def Json.text (j : Json) : String := String.ofList j.chars

/-! ### Reading -/

/-- The character a two-character escape stands for. -/
def escapedBy : Char → Option Char
  | '"' => some '"'
  | '\\' => some '\\'
  | '/' => some '/'
  | 'b' => some '\x08'
  | 'f' => some '\x0c'
  | 'n' => some '\n'
  | 'r' => some '\r'
  | 't' => some '\t'
  | _ => none

/-- The value of a hexadecimal digit. -/
def hexValue (c : Char) : Option ℕ :=
  if c.isDigit then some (c.toNat - '0'.toNat)
  else if 'a' ≤ c ∧ c ≤ 'f' then some (c.toNat - 'a'.toNat + 10)
  else if 'A' ≤ c ∧ c ≤ 'F' then some (c.toNat - 'A'.toNat + 10)
  else none

/-- The four digits of a `\u` escape. -/
def parseCode : List Char → Option (Char × List Char)
  | a :: b :: c :: d :: rest => do
    let high ← hexValue a
    let upper ← hexValue b
    let lower ← hexValue c
    let low ← hexValue d
    let code := ((high * 16 + upper) * 16 + lower) * 16 + low
    if code.isValidChar then some (Char.ofNat code, rest) else none
  | _ => none

/-- One character of a string, escaped or as it stands. -/
def parseChar : List Char → Option (Char × List Char)
  | '\\' :: 'u' :: rest => parseCode rest
  | '\\' :: letter :: rest => (escapedBy letter).map fun c => (c, rest)
  | c :: rest => if c = '\\' ∨ c.toNat < 32 then none else some (c, rest)
  | [] => none

/-- A string up to its closing quote. -/
def parseString : ℕ → List Char → Option (List Char × List Char)
  | 0, _ => none
  | fuel + 1, cs =>
    if cs.head? = some '"' then some ([], cs.tail)
    else do
      let (c, rest) ← parseChar cs
      let (s, rest) ← parseString fuel rest
      some (c :: s, rest)

/-- A number: the digits that come first. -/
def parseNumber (cs : List Char) : Option (Json × List Char) :=
  some (.num (Nat.ofDigitChars 10 (cs.takeWhile Char.isDigit) 0), cs.dropWhile Char.isDigit)

mutual

/-- One value; the fuel bounds how deep and how long it is. -/
def parseValue : ℕ → List Char → Option (Json × List Char)
  | 0, _ => none
  | fuel + 1, cs =>
    if (cs.head?.map Char.isDigit).getD false then parseNumber cs
    else match cs with
      | 'n' :: 'u' :: 'l' :: 'l' :: rest => some (.null, rest)
      | 't' :: 'r' :: 'u' :: 'e' :: rest => some (.bool true, rest)
      | 'f' :: 'a' :: 'l' :: 's' :: 'e' :: rest => some (.bool false, rest)
      | '"' :: rest => do
        let (s, rest) ← parseString fuel rest
        some (.str (String.ofList s), rest)
      | '[' :: rest => do
        let (items, rest) ← parseItems fuel true rest
        some (.arr items, rest)
      | '{' :: rest => do
        let (members, rest) ← parseMembers fuel true rest
        some (.obj members, rest)
      | _ => none

/-- The items of an array that are left; all but the first follow a comma. -/
def parseItems : ℕ → Bool → List Char → Option (List Json × List Char)
  | 0, _, _ => none
  | fuel + 1, first, cs =>
    if cs.head? = some ']' then some ([], cs.tail)
    else if (separator first).isPrefixOf cs then do
      let (item, rest) ← parseValue fuel (cs.drop (separator first).length)
      let (items, rest) ← parseItems fuel false rest
      some (item :: items, rest)
    else none

/-- The members of an object that are left; all but the first follow a comma. -/
def parseMembers : ℕ → Bool → List Char → Option (List (String × Json) × List Char)
  | 0, _, _ => none
  | fuel + 1, first, cs =>
    if cs.head? = some '}' then some ([], cs.tail)
    else if (separator first ++ ['"']).isPrefixOf cs then do
      let (key, rest) ← parseString fuel (cs.drop (separator first ++ ['"']).length)
      if rest.head? = some ':' then do
        let (value, rest) ← parseValue fuel rest.tail
        let (members, rest) ← parseMembers fuel false rest
        some ((String.ofList key, value) :: members, rest)
      else none
    else none

end

/-- A text that is one value and nothing else. -/
def parse (text : String) : Option Json :=
  match parseValue (text.toList.length + 1) text.toList with
  | some (j, []) => some j
  | _ => none

/-! ### Reading back what was written -/

theorem hexValue_digitChar {d : ℕ} (small : d < 16) : hexValue d.digitChar = some d := by
  interval_cases d <;> rfl

theorem parseCode_digits {c : Char} (small : c.toNat < 65536) (rest : List Char) :
    parseCode ((unicodeEscape c.toNat).tail.tail ++ rest) = some (c, rest) := by
  have code : ((c.toNat / 4096 % 16 * 16 + c.toNat / 256 % 16) * 16 + c.toNat / 16 % 16) * 16 +
      c.toNat % 16 = c.toNat := by
    omega
  have digit : ∀ n, hexValue (n % 16).digitChar = some (n % 16) := fun n =>
    hexValue_digitChar (Nat.mod_lt n (by decide))
  simp only [unicodeEscape, List.tail_cons, List.cons_append, List.nil_append, parseCode, digit,
    Option.bind_eq_bind, Option.bind_some, code]
  have valid : c.toNat.isValidChar := c.valid
  rw [if_pos valid, Char.ofNat_toNat]

theorem escapedBy_escapeLetter {c letter : Char} (escaped : escapeLetter c = some letter) :
    escapedBy letter = some c ∧ letter ≠ 'u' := by
  unfold escapeLetter at escaped
  split at escaped <;> cases escaped <;> exact ⟨rfl, by decide⟩

theorem writtenByCode_small {c : Char} (written : writtenByCode c = true) : c.toNat < 65536 := by
  simp only [writtenByCode, Bool.or_eq_true, decide_eq_true_eq] at written
  rcases written with ((((control | rfl) | rfl) | rfl) | separator) | separator
  · omega
  · decide
  · decide
  · decide
  · omega
  · omega

/-- **An escaped character is read as itself.** -/
theorem parseChar_escape (c : Char) (rest : List Char) :
    parseChar (escape c ++ rest) = some (c, rest) := by
  unfold escape
  split
  · next letter escaped =>
    obtain ⟨back, notCode⟩ := escapedBy_escapeLetter escaped
    show parseChar ('\\' :: letter :: rest) = _
    rw [parseChar.eq_2 _ _ notCode, back]
    rfl
  · next plain =>
    by_cases written : writtenByCode c = true
    · rw [if_pos written]
      exact parseCode_digits (writtenByCode_small written) rest
    · rw [if_neg written]
      have notSlash : c ≠ '\\' := by
        rintro rfl
        cases plain
      have printable : ¬ c.toNat < 32 := by
        intro control
        simp [writtenByCode, control] at written
      show parseChar (c :: rest) = _
      unfold parseChar
      split
      · next same => exact absurd (List.cons.inj same).1 notSlash
      · next same => exact absurd (List.cons.inj same).1 notSlash
      · next same =>
        cases same
        rw [if_neg (not_or.mpr ⟨notSlash, printable⟩)]
      · next same => cases same

/-- No character is written with a bare quote in front. -/
theorem escape_head (c : Char) (rest : List Char) : (escape c ++ rest).head? ≠ some '"' := by
  unfold escape
  split
  · simp
  · next plain =>
    split
    · simp [unicodeEscape]
    · intro same
      cases Option.some.inj same
      cases plain

theorem escape_length (c : Char) : 0 < (escape c).length := by
  unfold escape
  split
  · exact Nat.zero_lt_succ _
  · split <;> simp [unicodeEscape]

theorem parseString_stringChars {fuel : ℕ} {s : List Char} (enough : (stringChars s).length ≤ fuel)
    (rest : List Char) : parseString fuel (stringChars s ++ rest) = some (s, rest) := by
  induction s generalizing fuel with
  | nil =>
    cases fuel with
    | zero => cases enough
    | succ fuel => rfl
  | cons c s ih =>
    have split : stringChars (c :: s) = escape c ++ stringChars s := by
      simp [stringChars]
    have some := escape_length c
    rw [split, List.length_append] at enough
    cases fuel with
    | zero => omega
    | succ fuel =>
      rw [split, List.append_assoc]
      unfold parseString
      rw [if_neg (escape_head _ _), parseChar_escape]
      simp only [Option.bind_eq_bind, Option.bind_some]
      rw [ih (by omega)]
      rfl

/-- The texts after which a number ends. -/
def EndsNumber (rest : List Char) : Prop := ∀ c ∈ rest.head?, c.isDigit = false

theorem takeWhile_digits {digits rest : List Char} (all : ∀ c ∈ digits, c.isDigit = true)
    (ends : EndsNumber rest) : (digits ++ rest).takeWhile Char.isDigit = digits ∧
      (digits ++ rest).dropWhile Char.isDigit = rest := by
  rw [List.takeWhile_append_of_pos all, List.dropWhile_append_of_pos all]
  cases rest with
  | nil => simp
  | cons c rest =>
    have stop : c.isDigit = false := ends c rfl
    simp [stop]

/-- **A number is read up to the first character that is no digit.** -/
theorem parseNumber_decimal {rest : List Char} (n : ℕ) (ends : EndsNumber rest) :
    parseNumber ((decimal n).toList ++ rest) = some (.num n, rest) := by
  obtain ⟨digits, left⟩ := takeWhile_digits (fun c => decimal_digits) ends
  unfold parseNumber
  rw [digits, left]
  simp only [decimal, Nat.toList_repr, Nat.ofDigitChars_ten_toDigits]

theorem endsNumber_itemChars (items : List Json) (rest : List Char) :
    EndsNumber (Json.itemChars false items ++ rest) := by
  cases items <;> (intro c head; cases head; rfl)

theorem endsNumber_memberChars (members : List (String × Json)) (rest : List Char) :
    EndsNumber (Json.memberChars false members ++ rest) := by
  cases members <;> (intro c head; cases head; rfl)

theorem decimal_head (n : ℕ) : ∃ c rest, (decimal n).toList = c :: rest ∧ c.isDigit = true := by
  have some : (decimal n).toList ≠ [] := by
    simp only [decimal, Nat.toList_repr]
    exact Nat.toDigits_ne_nil
  obtain ⟨c, rest, split⟩ := List.exists_cons_of_ne_nil some
  exact ⟨c, rest, split, decimal_digits (by rw [split]; exact List.mem_cons_self)⟩

/-- A value's text is not empty, and no closing bracket opens it. -/
theorem Json.chars_head (j : Json) : ∃ c rest, j.chars = c :: rest ∧ c ≠ ']' := by
  cases j with
  | null => exact ⟨'n', _, rfl, by decide⟩
  | bool b => cases b <;> exact ⟨_, _, rfl, by decide⟩
  | num n =>
    obtain ⟨c, rest, split, digit⟩ := decimal_head n
    refine ⟨c, rest, split, ?_⟩
    rintro rfl
    cases digit
  | str s => exact ⟨'"', _, rfl, by decide⟩
  | arr items => exact ⟨'[', _, rfl, by decide⟩
  | obj members => exact ⟨'{', _, rfl, by decide⟩

theorem itemChars_length (items : List Json) : 0 < (Json.itemChars false items).length := by
  cases items <;> exact Nat.zero_lt_succ _

theorem memberChars_length (members : List (String × Json)) :
    0 < (Json.memberChars false members).length := by
  cases members <;> exact Nat.zero_lt_succ _

/-- What an item's reading hands on to the next. -/
theorem parseItems_cons {fuel : ℕ} {first : Bool} {j : Json} {items : List Json} {rest : List Char}
    (item : parseValue fuel (j.chars ++ (Json.itemChars false items ++ rest)) =
      some (j, Json.itemChars false items ++ rest))
    (others : parseItems fuel false (Json.itemChars false items ++ rest) = some (items, rest)) :
    parseItems (fuel + 1) first (Json.itemChars first (j :: items) ++ rest) =
      some (j :: items, rest) := by
  obtain ⟨c, more, split, notClose⟩ := j.chars_head
  have opened : (Json.itemChars first (j :: items) ++ rest).head? ≠ some ']' := by
    cases first
    · intro same
      cases same
    · simp only [Json.itemChars, separator, split]
      simpa using notClose
  have comma : (separator first).isPrefixOf (Json.itemChars first (j :: items) ++ rest) = true := by
    cases first <;> rfl
  have after : (Json.itemChars first (j :: items) ++ rest).drop (separator first).length =
      j.chars ++ (Json.itemChars false items ++ rest) := by
    simp only [Json.itemChars, List.append_assoc, List.drop_left]
  unfold parseItems
  rw [if_neg opened, if_pos comma, after, item]
  simp only [Option.bind_eq_bind, Option.bind_some]
  rw [others]
  rfl

theorem parseMembers_cons {fuel : ℕ} {first : Bool} {key : String} {j : Json}
    {members : List (String × Json)} {rest : List Char}
    (enough : (stringChars key.toList).length ≤ fuel)
    (value : parseValue fuel (j.chars ++ (Json.memberChars false members ++ rest)) =
      some (j, Json.memberChars false members ++ rest))
    (others : parseMembers fuel false (Json.memberChars false members ++ rest) =
      some (members, rest)) :
    parseMembers (fuel + 1) first (Json.memberChars first ((key, j) :: members) ++ rest) =
      some ((key, j) :: members, rest) := by
  have opened : (Json.memberChars first ((key, j) :: members) ++ rest).head? ≠ some '}' := by
    cases first <;> (intro same; cases same)
  have comma : (separator first ++ ['"']).isPrefixOf
      (Json.memberChars first ((key, j) :: members) ++ rest) = true := by
    cases first <;> rfl
  have after : (Json.memberChars first ((key, j) :: members) ++ rest).drop
      (separator first ++ ['"']).length = stringChars key.toList ++
        (':' :: (j.chars ++ (Json.memberChars false members ++ rest))) := by
    cases first <;> simp [Json.memberChars, separator]
  unfold parseMembers
  rw [if_neg opened, if_pos comma, after, parseString_stringChars enough]
  simp only [Option.bind_eq_bind, Option.bind_some, List.head?_cons, if_true, List.tail_cons]
  rw [value]
  simp only [Option.bind_some]
  rw [others, String.ofList_toList]
  rfl

-- By mutual induction over the value, its items and its members. Every bracket, quote and comma is a
-- character of the text, so its length leaves fuel for what is inside.
mutual

/-- **A written value is read, whatever follows it.** -/
theorem parseValue_chars (j : Json) {fuel : ℕ} (enough : j.chars.length ≤ fuel) {rest : List Char}
    (ends : EndsNumber rest) : parseValue fuel (j.chars ++ rest) = some (j, rest) := by
  obtain ⟨c, more, split, -⟩ := j.chars_head
  cases fuel with
  | zero =>
    rw [split] at enough
    cases enough
  | succ fuel =>
    match j with
    | .null => rfl
    | .bool true => rfl
    | .bool false => rfl
    | .num n =>
      -- a digit tells a number from every other value
      obtain ⟨c, more, split, digit⟩ := decimal_head n
      have first : ((((decimal n).toList ++ rest).head?).map Char.isDigit).getD false = true := by
        rw [split]
        exact digit
      show parseValue (fuel + 1) ((decimal n).toList ++ rest) = _
      unfold parseValue
      rw [if_pos first, parseNumber_decimal n ends]
    | .str s =>
      have read := parseString_stringChars (Nat.le_of_succ_le_succ enough) rest
      show ((parseString fuel (stringChars s.toList ++ rest)).bind fun found =>
        some (Json.str (String.ofList found.1), found.2)) = _
      rw [read, Option.bind_some, String.ofList_toList]
    | .arr items =>
      have read := parseItems_chars items true (Nat.le_of_succ_le_succ enough) rest
      show ((parseItems fuel true (Json.itemChars true items ++ rest)).bind fun found =>
        some (Json.arr found.1, found.2)) = _
      rw [read, Option.bind_some]
    | .obj members =>
      have read := parseMembers_chars members true (Nat.le_of_succ_le_succ enough) rest
      show ((parseMembers fuel true (Json.memberChars true members ++ rest)).bind fun found =>
        some (Json.obj found.1, found.2)) = _
      rw [read, Option.bind_some]

theorem parseItems_chars (items : List Json) (first : Bool) {fuel : ℕ}
    (enough : (Json.itemChars first items).length ≤ fuel) (rest : List Char) :
    parseItems fuel first (Json.itemChars first items ++ rest) = some (items, rest) := by
  match items, fuel with
  | [], 0 => cases enough
  | [], fuel + 1 => rfl
  | j :: items, fuel =>
    obtain ⟨c, more, split, -⟩ := j.chars_head
    have shorter := itemChars_length items
    have nonempty : 0 < j.chars.length := by
      rw [split]
      exact Nat.zero_lt_succ _
    simp only [Json.itemChars, List.length_append] at enough
    obtain ⟨fuel, rfl⟩ : ∃ n, fuel = n + 1 := ⟨fuel - 1, by omega⟩
    exact parseItems_cons (parseValue_chars j (by omega) (endsNumber_itemChars items rest))
      (parseItems_chars items false (by omega) rest)

theorem parseMembers_chars (members : List (String × Json)) (first : Bool) {fuel : ℕ}
    (enough : (Json.memberChars first members).length ≤ fuel) (rest : List Char) :
    parseMembers fuel first (Json.memberChars first members ++ rest) = some (members, rest) := by
  match members, fuel with
  | [], 0 => cases enough
  | [], fuel + 1 => rfl
  | (key, j) :: members, fuel =>
    have shorter := memberChars_length members
    simp only [Json.memberChars, List.length_append, List.length_cons] at enough
    obtain ⟨fuel, rfl⟩ : ∃ n, fuel = n + 1 := ⟨fuel - 1, by omega⟩
    exact parseMembers_cons (by omega)
      (parseValue_chars j (by omega) (endsNumber_memberChars members rest))
      (parseMembers_chars members false (by omega) rest)

end

/-- **Reading a written value gives the value.** -/
theorem parse_text (j : Json) : parse j.text = some j := by
  have atEnd : EndsNumber [] := by
    rintro c ⟨⟩
  have read := parseValue_chars j (Nat.le_succ j.chars.length) atEnd
  rw [List.append_nil] at read
  unfold parse Json.text
  rw [String.toList_ofList, read]

end DraDriver.Base
