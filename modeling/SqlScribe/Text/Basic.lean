import SqlScribe.Text.CharClass

/-!
# Texts

Cutting white space off a text, writing and reading decimal numbers, searching a text, and quoting
it: inside a quoted text the characters that could end it are written twice. `doubled` does that for
any set of characters; `quoted` puts the result between two quote characters.
-/

namespace SqlScribe.Text

/-! ## White space at the ends -/

/-- The text without the white space at its start. -/
def trimStart (text : List Char) : List Char :=
  text.dropWhile isWhiteSpace

/-- The text without the white space at its start and at its end. -/
def trim (text : List Char) : List Char :=
  (trimStart (trimStart text).reverse).reverse

/-! ## Decimal numbers

Only the ten ASCII digits have a value: a run of digits from another script is recognised, but is no
number. -/

/-- The decimal text of a number, without leading zeros. -/
def decimalText (n : Nat) : List Char :=
  Nat.toDigits 10 n

/-- The number that a run of ASCII digits spells; a run that is empty or holds anything else spells
none. -/
def decimalValue? (digits : List Char) : Option Nat :=
  if digits.isEmpty || !digits.all Char.isDigit then none else some (Nat.ofDigitChars 10 digits 0)

/-- The decimal text of a number, filled with zeros on the left up to a least width. -/
def paddedText (width n : Nat) : List Char :=
  List.replicate (width - (decimalText n).length) '0' ++ decimalText n

/-! ## Searching -/

/-- The text starts with `start`. -/
def startsWith (text start : String) : Bool :=
  start.toList.isPrefixOf text.toList

/-- The needle stands somewhere in the text. -/
def occursIn (needle : List Char) : List Char → Bool
  | [] => needle.isEmpty
  | c :: rest => needle.isPrefixOf (c :: rest) || occursIn needle rest

/-- The search finds the needle exactly if the text is made up of something, the needle and
something. -/
theorem occursIn_iff {needle text : List Char} :
    occursIn needle text = true ↔ ∃ before after, text = before ++ needle ++ after := by
  induction text with
  | nil =>
    simp only [occursIn, List.isEmpty_iff, List.append_assoc]
    exact ⟨fun h => ⟨[], [], by simp [h]⟩, fun ⟨_, _, h⟩ => by simp_all⟩
  | cons c rest ih =>
    simp only [occursIn, Bool.or_eq_true, List.isPrefixOf_iff_prefix, ih]
    constructor
    · rintro (⟨after, h⟩ | ⟨before, after, rfl⟩)
      · exact ⟨[], after, by simp [h]⟩
      · exact ⟨c :: before, after, rfl⟩
    · rintro ⟨before, after, h⟩
      cases before with
      | nil => exact .inl ⟨after, by simpa using h.symm⟩
      | cons d before =>
        simp only [List.cons_append, List.cons.injEq] at h
        exact .inr ⟨before, after, h.2⟩

/-! ## Quoting -/

/-- The text with each special character written twice. -/
def doubled (special : Char → Bool) (text : List Char) : List Char :=
  text.flatMap fun c => if special c then [c, c] else [c]

/-- The text between two quote characters, with each quote character inside it written twice. -/
def quoted (quote : Char) (text : List Char) : List Char :=
  quote :: (doubled (· == quote) text ++ [quote])

/-- `doubled` on strings. -/
def doubleIn (special : Char → Bool) (text : String) : String :=
  String.ofList (doubled special text.toList)

/-- `quoted` on strings. -/
def quoteWith (quote : Char) (text : String) : String :=
  String.ofList (quoted quote text.toList)

@[simp]
theorem doubled_nil (special : Char → Bool) : doubled special [] = [] := rfl

@[simp]
theorem doubled_cons (special : Char → Bool) (c : Char) (text : List Char) :
    doubled special (c :: text) =
      (if special c then [c, c] else [c]) ++ doubled special text := rfl

@[simp]
theorem toList_doubleIn (special : Char → Bool) (text : String) :
    (doubleIn special text).toList = doubled special text.toList := by
  simp [doubleIn]

@[simp]
theorem toList_quoteWith (quote : Char) (text : String) :
    (quoteWith quote text).toList = quoted quote text.toList := by
  simp [quoteWith]

end SqlScribe.Text
