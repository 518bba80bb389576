import Mathlib.Algebra.Group.Nat.Defs
import SqlScribe.Dialect.Basic
import SqlScribe.MySql.Dialect
import SqlScribe.Proofs.Quoting
import SqlScribe.Session

/-!
# Literals by their texts

A literal that is no number can be told from its text, up to the nanoseconds that no text shows.
What stands outside quotes is a word that tells what kind of literal it is (`Literal.word`), and
what stands inside them is read back by the lexis of the dialect. So two literals with one text are
of one kind and quote the same (`Literal.lex_text`), and it remains to see what each kind quotes.

Numbers in dates and times fill their fields: a field has as many digits as it is wide, except that
of the year, which comes first and may have a sign. A leap second shows as second 60, which no other
second does, so it is kept apart from the second before it.
-/

namespace SqlScribe

/-! ## Numbers in fields -/

namespace Text

theorem ofDigitChars_replicate_zero (n : Nat) :
    Nat.ofDigitChars 10 (List.replicate n '0') 0 = 0 := by
  induction n with
  | zero => rfl
  | succ n ih =>
    rw [List.replicate_succ, Nat.ofDigitChars_cons]
    exact ih

/-- Zeros on the left do not change what digits spell. -/
theorem ofDigitChars_paddedText (width n : Nat) :
    Nat.ofDigitChars 10 (paddedText width n) 0 = n := by
  rw [paddedText, Nat.ofDigitChars_append, ofDigitChars_replicate_zero]
  exact Nat.ofDigitChars_ten_toDigits

/-- Numbers with the same padded text are the same. -/
theorem paddedText_injective (width : Nat) : Function.Injective (paddedText width) := by
  intro m n h
  rw [← ofDigitChars_paddedText width m, h, ofDigitChars_paddedText]

/-- A number that fits its field fills it. -/
theorem length_paddedText {width n : Nat} (hwidth : 0 < width) (hn : n < 10 ^ width) :
    (paddedText width n).length = width := by
  have hle : (decimalText n).length ≤ width :=
    (Nat.length_toDigits_le_iff (by decide) hwidth).2 hn
  rw [paddedText, List.length_append, List.length_replicate]
  omega

/-- A number that fits its field is read off the field, whatever stands behind it. -/
theorem paddedText_append_inj {width m n : Nat} (hwidth : 0 < width) (hm : m < 10 ^ width)
    (hn : n < 10 ^ width) {rest rest' : List Char}
    (h : paddedText width m ++ rest = paddedText width n ++ rest') : m = n ∧ rest = rest' := by
  have hlength : (paddedText width m).length = (paddedText width n).length := by
    rw [length_paddedText hwidth hm, length_paddedText hwidth hn]
  obtain ⟨hfield, hrest⟩ := List.append_inj h hlength
  exact ⟨paddedText_injective width hfield, hrest⟩

/-- A text of digits does not start with a sign. -/
theorem paddedText_ne_cons {width n : Nat} {c : Char} (hc : c.isDigit = false) (rest : List Char) :
    paddedText width n ≠ c :: rest := by
  intro h
  have hmem : c ∈ paddedText width n := h ▸ List.mem_cons_self
  obtain hzero | hdigit := List.mem_append.1 hmem
  · obtain ⟨-, rfl⟩ := List.mem_replicate.1 hzero
    exact absurd hc (by decide)
  · have hdigit : c.isDigit = true := Nat.isDigit_of_mem_toDigits (by decide) (by decide) hdigit
    exact absurd (hc.symm.trans hdigit) (by decide)

end Text

namespace Calendar

/-! ## Dates -/

theorem daysInMonth_le (year : Int) (month : Nat) : daysInMonth year month ≤ 31 := by
  unfold daysInMonth
  split
  · split <;> decide
  all_goals decide

/-- A number beyond 12 names no month. -/
theorem daysInMonth_eq_zero (year : Int) {month : Nat} (h : 12 < month) :
    daysInMonth year month = 0 := by
  unfold daysInMonth
  split <;> omega

namespace Date

theorem day_lt (date : Date) : date.day < 10 ^ 2 := by
  have hday := date.day_mem.2
  have hdays := daysInMonth_le date.year date.month
  omega

theorem month_lt (date : Date) : date.month < 10 ^ 2 := by
  have hday := date.day_mem
  rcases Nat.lt_or_ge 12 date.month with hlt | hle
  · rw [daysInMonth_eq_zero date.year hlt] at hday
    omega
  · omega

/-- Years with the same text are the same, with or without a sign. -/
theorem yearText_injective : Function.Injective yearText := by
  intro year year' h
  have hsign : ∀ y : Int, (if y < 0 then '-' else '+').isDigit = false := by
    intro y
    split <;> decide
  -- A sign is no digit, so either both years have one or none has.
  unfold yearText at h
  by_cases hplain : 0 ≤ year ∧ year ≤ 9999 <;> by_cases hplain' : 0 ≤ year' ∧ year' ≤ 9999
  · rw [if_pos hplain, if_pos hplain'] at h
    have hvalue := Text.paddedText_injective 4 h
    omega
  · rw [if_pos hplain, if_neg hplain'] at h
    exact absurd h (Text.paddedText_ne_cons (hsign year') _)
  · rw [if_neg hplain, if_pos hplain'] at h
    exact absurd h.symm (Text.paddedText_ne_cons (hsign year) _)
  · rw [if_neg hplain, if_neg hplain'] at h
    obtain ⟨hchar, hdigits⟩ := List.cons.inj h
    have hvalue := Text.paddedText_injective 4 hdigits
    have hneg : year < 0 ↔ year' < 0 := by
      by_cases hneg : year < 0 <;> by_cases hneg' : year' < 0 <;> simp [hneg, hneg'] at hchar ⊢
    omega

theorem text_injective : Function.Injective text := by
  intro date date' h
  -- The month and the day have fields of two digits, so they are split off from the right.
  have hfield : ∀ {n : Nat}, n < 10 ^ 2 → ('-' :: Text.paddedText 2 n).length = 3 := by
    intro n hn
    rw [List.length_cons, Text.length_paddedText (by decide) hn]
  obtain ⟨h, hday⟩ := List.append_inj' h ((hfield date.day_lt).trans (hfield date'.day_lt).symm)
  obtain ⟨hyear, hmonth⟩ :=
    List.append_inj' h ((hfield date.month_lt).trans (hfield date'.month_lt).symm)
  have hyear := yearText_injective hyear
  have hmonth := Text.paddedText_injective 2 (List.cons.inj hmonth).2
  have hday := Text.paddedText_injective 2 (List.cons.inj hday).2
  cases date
  cases date'
  simp_all only

end Date

/-! ## Times -/

namespace Time

/-- The time without the nanoseconds that are no whole microsecond. -/
def toMicroseconds (time : Time) : Time where
  hour := time.hour
  minute := time.minute
  second := time.second
  nano := time.nano / 1000 * 1000
  hour_lt := time.hour_lt
  minute_lt := time.minute_lt
  second_lt := time.second_lt
  nano_lt := Nat.lt_of_le_of_lt (Nat.div_mul_le_self time.nano 1000) time.nano_lt
  leap h := time.leap (Nat.le_trans h (Nat.div_mul_le_self time.nano 1000))

theorem toMicroseconds_toMicroseconds (time : Time) :
    time.toMicroseconds.toMicroseconds = time.toMicroseconds := by
  simp [toMicroseconds]

theorem hour_lt_field (time : Time) : time.hour < 10 ^ 2 :=
  Nat.lt_trans time.hour_lt (by decide)

theorem minute_lt_field (time : Time) : time.minute < 10 ^ 2 :=
  Nat.lt_trans time.minute_lt (by decide)

theorem shownSecond_lt_field (time : Time) : time.shownSecond < 10 ^ 2 := by
  have hsecond := time.second_lt
  have hnano := time.nano_lt
  unfold shownSecond nanosPerSecond at *
  omega

theorem micro_lt_field (time : Time) : time.micro < 10 ^ 6 := by
  unfold micro nanosPerSecond
  omega

/-- Every time of day is written with the same length. -/
theorem length_text (time : Time) : time.text.length = 15 := by
  have hhour := Text.length_paddedText (by decide) time.hour_lt_field
  have hminute := Text.length_paddedText (by decide) time.minute_lt_field
  have hsecond := Text.length_paddedText (by decide) time.shownSecond_lt_field
  have hmicro := Text.length_paddedText (by decide) time.micro_lt_field
  simp [text, hhour, hminute, hsecond, hmicro]

/-- Only a leap second shows as 60, so the second and the microseconds that a clock shows determine
the microseconds of the time. -/
theorem shown_eq_iff (time time' : Time) :
    time.shownSecond = time'.shownSecond ∧ time.micro = time'.micro ↔
      time.second = time'.second ∧ time.nano / 1000 * 1000 = time'.nano / 1000 * 1000 := by
  have hsecond := time.second_lt
  have hnano := time.nano_lt
  have hleap := time.leap
  have hsecond' := time'.second_lt
  have hnano' := time'.nano_lt
  have hleap' := time'.leap
  unfold shownSecond micro nanosPerSecond at *
  omega

/-- Times agree to the microsecond exactly if a clock shows the same for both. -/
theorem toMicroseconds_eq_iff (time time' : Time) :
    time.toMicroseconds = time'.toMicroseconds ↔ time.hour = time'.hour ∧
      time.minute = time'.minute ∧ time.shownSecond = time'.shownSecond ∧
        time.micro = time'.micro := by
  rw [shown_eq_iff]
  unfold toMicroseconds
  rw [Time.mk.injEq]

/-- The text of a time shows its microseconds and no more. -/
theorem text_eq_iff (time time' : Time) :
    time.text = time'.text ↔ time.toMicroseconds = time'.toMicroseconds := by
  rw [toMicroseconds_eq_iff]
  constructor
  · intro h
    simp only [text, List.append_assoc, List.cons_append] at h
    obtain ⟨hhour, h⟩ := Text.paddedText_append_inj (by decide) time.hour_lt_field
      time'.hour_lt_field h
    obtain ⟨hminute, h⟩ := Text.paddedText_append_inj (by decide) time.minute_lt_field
      time'.minute_lt_field (List.cons.inj h).2
    obtain ⟨hsecond, h⟩ := Text.paddedText_append_inj (by decide) time.shownSecond_lt_field
      time'.shownSecond_lt_field (List.cons.inj h).2
    exact ⟨hhour, hminute, hsecond, Text.paddedText_injective 6 (List.cons.inj h).2⟩
  · rintro ⟨hhour, hminute, hsecond, hmicro⟩
    rw [text, text, hhour, hminute, hsecond, hmicro]

theorem text_toMicroseconds (time : Time) : time.toMicroseconds.text = time.text :=
  (text_eq_iff _ _).2 time.toMicroseconds_toMicroseconds

end Time

namespace Timestamp

/-- The time on its date, without the nanoseconds that are no whole microsecond. -/
def toMicroseconds (stamp : Timestamp) : Timestamp := ⟨stamp.date, stamp.time.toMicroseconds⟩

/-- Timestamps have the same text exactly if they agree to the microsecond. -/
theorem text_eq_iff (stamp stamp' : Timestamp) :
    stamp.text = stamp'.text ↔ stamp.toMicroseconds = stamp'.toMicroseconds := by
  unfold toMicroseconds
  rw [Timestamp.mk.injEq, ← Time.text_eq_iff]
  constructor
  · intro h
    -- The year has no fixed width, the time has.
    have hlength : (' ' :: stamp.time.text).length = (' ' :: stamp'.time.text).length := by
      rw [List.length_cons, List.length_cons, Time.length_text, Time.length_text]
    obtain ⟨hdate, htime⟩ := List.append_inj' h hlength
    exact ⟨Date.text_injective hdate, (List.cons.inj htime).2⟩
  · rintro ⟨hdate, htime⟩
    rw [text, text, hdate, htime]

theorem text_toMicroseconds (stamp : Timestamp) : stamp.toMicroseconds.text = stamp.text :=
  congrArg (stamp.date.text ++ ' ' :: ·) stamp.time.text_toMicroseconds

end Timestamp

end Calendar

namespace Literal

/-! ## Bytes -/

/-- Different values below sixteen have different digits. -/
theorem hexDigit_inj {m n : Nat} (hm : m < 16) (hn : n < 16) (h : hexDigit m = hexDigit n) :
    m = n := by
  have hall : ∀ m n : Fin 16, hexDigit m = hexDigit n → m = n := by decide
  exact Fin.mk.inj (hall ⟨m, hm⟩ ⟨n, hn⟩ h)

theorem hexByte_injective : Function.Injective hexByte := by
  intro byte byte' h
  have hbyte := byte.toNat_lt
  have hbyte' := byte'.toNat_lt
  obtain ⟨hhigh, hlow⟩ := List.cons.inj h
  have hhigh := hexDigit_inj (by omega) (by omega) hhigh
  have hlow := hexDigit_inj (by omega) (by omega) (List.cons.inj hlow).1
  exact UInt8.toNat_inj.1 (by omega)

/-- Different runs of bytes have different digits, since each byte takes two. -/
theorem flatMap_hexByte_injective : Function.Injective (List.flatMap hexByte) := by
  intro bytes
  induction bytes with
  | nil =>
    intro bytes' h
    cases bytes' with
    | nil => rfl
    | cons byte' bytes' => exact absurd h (List.cons_ne_nil _ _).symm
  | cons byte bytes ih =>
    intro bytes' h
    cases bytes' with
    | nil => exact absurd h (List.cons_ne_nil _ _)
    | cons byte' bytes' =>
      rw [List.flatMap_cons, List.flatMap_cons] at h
      obtain ⟨hbyte, hbytes⟩ := List.append_inj h rfl
      rw [hexByte_injective hbyte, ih hbytes]

/-! ## Kinds of literals -/

/-- The literal is kept as the text of a number. -/
def isNumber : Literal → Bool
  | number _ => true
  | _ => false

/-- The literal without the nanoseconds that are no whole microsecond. -/
def toMicroseconds : Literal → Literal
  | timestamp value => timestamp value.toMicroseconds
  | time value => time value.toMicroseconds
  | value => value

/-- What the text of a literal has outside quotes. -/
def word : Literal → String
  | null => "NULL"
  | bool true => "TRUE"
  | bool false => "FALSE"
  | number text => text
  | string _ => ""
  | date _ => "DATE "
  | timestamp _ => "TIMESTAMP "
  | time _ => "TIME "
  | bytes _ => "X"

/-- The literals differ at most in what they quote. -/
inductive SameKind : Literal → Literal → Prop where
  | null : SameKind null null
  | bool (value : Bool) : SameKind (bool value) (bool value)
  | string (contents contents' : String) : SameKind (string contents) (string contents')
  | date (value value' : Calendar.Date) : SameKind (date value) (date value')
  | timestamp (value value' : Calendar.Timestamp) : SameKind (timestamp value) (timestamp value')
  | time (value value' : Calendar.Time) : SameKind (time value) (time value')
  | bytes (value value' : List UInt8) : SameKind (bytes value) (bytes value')

/-- The word of a literal tells its kind. -/
theorem sameKind_of_word_eq {a b : Literal} (ha : a.isNumber = false) (hb : b.isNumber = false)
    (h : a.word = b.word) : SameKind a b := by
  -- Two literals are of one kind, or one of them is a number, or their words differ.
  rcases a with _ | ⟨_ | _⟩ | _ | _ | _ | _ | _ | _ <;>
    rcases b with _ | ⟨_ | _⟩ | _ | _ | _ | _ | _ | _ <;>
      first
      | constructor
      | exact absurd ha.symm Bool.false_ne_true
      | exact absurd hb.symm Bool.false_ne_true
      | exact absurd h (by simp [word])

/-- Literals of one kind that quote the same have the same microseconds. -/
theorem SameKind.toMicroseconds_eq {a b : Literal} (hkind : SameKind a b)
    (h : a.quoted = b.quoted) : a.toMicroseconds = b.toMicroseconds := by
  have hbody : ∀ {body body' : List Char},
      [Token.quoted .string body] = [Token.quoted .string body'] → body = body' :=
    fun hquoted => (Token.quoted.inj (List.cons.inj hquoted).1).2
  cases hkind with
  | null => rfl
  | bool => rfl
  | string contents contents' => exact congrArg Literal.string (String.toList_inj.1 (hbody h))
  | date value value' => exact congrArg Literal.date (Calendar.Date.text_injective (hbody h))
  | timestamp value value' =>
    exact congrArg Literal.timestamp ((Calendar.Timestamp.text_eq_iff value value').1 (hbody h))
  | time value value' =>
    exact congrArg Literal.time ((Calendar.Time.text_eq_iff value value').1 (hbody h))
  | bytes value value' => exact congrArg Literal.bytes (flatMap_hexByte_injective (hbody h))

/-! ## Texts -/

/-- The nanoseconds beyond microseconds are in no text. -/
theorem text_toMicroseconds (escape : String → String) (value : Literal) :
    value.toMicroseconds.text escape = value.text escape := by
  cases value with
  | timestamp value => exact congrArg (tagged "TIMESTAMP ") value.text_toMicroseconds
  | time value => exact congrArg (tagged "TIME ") value.text_toMicroseconds
  | null => rfl
  | bool => rfl
  | number => rfl
  | string => rfl
  | date => rfl
  | bytes => rfl

theorem filter_isQuoted_quoted (value : Literal) :
    value.quoted.filter Token.isQuoted = value.quoted := by
  cases value <;> rfl

section Lexis

variable {L : Lexis} {escape : String → String}
  (hescape : ∀ contents, L.Reads .settled .loose ("'" ++ escape contents ++ "'").toList
    [.quoted .string contents.toList])

include hescape

/-- The lexis reads the text of a literal as its word and what it quotes. -/
theorem lex_text {value : Literal} (hvalue : value.isNumber = false) :
    L.lex (value.text escape) = some (value.word.toList.map .plain ++ value.quoted) := by
  have hplain : ∀ word, Text.isQuoteFree word = true →
      L.lex word = some (word.toList.map .plain ++ []) := by
    intro word hword
    rw [List.append_nil]
    exact (Lexis.Reads.plain hword).lex_eq
  cases value with
  | null => exact hplain "NULL" (by decide)
  | bool value =>
    cases value with
    | false => exact hplain "FALSE" (by decide)
    | true => exact hplain "TRUE" (by decide)
  | number => exact absurd hvalue.symm Bool.false_ne_true
  | string contents => exact (hescape contents).lex_eq
  | date value => exact (Lexis.reads_tagged (by decide) value.isBodyChar_of_mem_text).lex_eq
  | timestamp value => exact (Lexis.reads_tagged (by decide) value.isBodyChar_of_mem_text).lex_eq
  | time value => exact (Lexis.reads_tagged (by decide) value.isBodyChar_of_mem_text).lex_eq
  | bytes value => exact (Lexis.reads_tagged (by decide) (isBodyChar_of_mem_hexBytes value)).lex_eq

/-- In a dialect with readable strings, two literals that are no numbers have one text exactly if
they have the same microseconds. -/
theorem text_eq_iff {a b : Literal} (ha : a.isNumber = false) (hb : b.isNumber = false) :
    a.text escape = b.text escape ↔ a.toMicroseconds = b.toMicroseconds := by
  constructor
  · intro h
    have htokens : a.word.toList.map Token.plain ++ a.quoted =
        b.word.toList.map Token.plain ++ b.quoted := by
      have hlex := lex_text hescape ha
      rw [h, lex_text hescape hb] at hlex
      exact (Option.some.inj hlex).symm
    have hquoted : a.quoted = b.quoted := by
      have hfilter := congrArg (List.filter Token.isQuoted) htokens
      simpa only [List.filter_append, Token.filter_isQuoted_map_plain, filter_isQuoted_quoted,
        List.nil_append] using hfilter
    have hword : a.word = b.word := by
      rw [hquoted] at htokens
      have hplain := List.append_cancel_right htokens
      exact String.toList_inj.1 ((List.map_inj_right fun _ _ => Token.plain.inj).1 hplain)
    exact (sameKind_of_word_eq ha hb hword).toMicroseconds_eq hquoted
  · intro h
    rw [← text_toMicroseconds escape a, h, text_toMicroseconds]

end Lexis

end Literal

/-! ## Literals in the dialects -/

theorem Session.step_literal {X : Signature} (D : Dialect X) (sql : String) (value : Literal) :
    (step D sql (.literal value)).sql = sql ++ value.text D.escape := rfl

/-- Whatever the text of a session is so far, two literals that are no numbers go on with the same
text exactly if they have the same microseconds, in standard SQL and in MySQL. -/
theorem literal_texts_eq_iff {a b : Literal} (ha : a.isNumber = false) (hb : b.isNumber = false)
    (sql : String) :
    ((Session.step Dialect.ansi sql (.literal a)).sql =
        (Session.step Dialect.ansi sql (.literal b)).sql ↔
      a.toMicroseconds = b.toMicroseconds) ∧
    ∀ support rules,
      ((Session.step (MySql.dialect support rules) sql (.literal a)).sql =
          (Session.step (MySql.dialect support rules) sql (.literal b)).sql ↔
        a.toMicroseconds = b.toMicroseconds) := by
  refine ⟨?_, fun support rules => ?_⟩
  · rw [Session.step_literal, Session.step_literal, String.append_right_inj]
    exact Literal.text_eq_iff Standard.reads_escape ha hb
  · rw [Session.step_literal, Session.step_literal, String.append_right_inj]
    exact Literal.text_eq_iff MySql.reads_escape ha hb

/-- The last nanosecond of a leap second shows like the microsecond that it is in, and not like the
last nanosecond of the second before. -/
theorem leap_second_shows_microseconds :
    let time := fun nano hnano hleap =>
      Literal.time ⟨23, 59, 59, nano, by decide, by decide, by decide, hnano, hleap⟩
    let last := time 1999999999 (by decide) (by decide)
    let cut := time 1999999000 (by decide) (by decide)
    let before := time 999999999 (by decide) (by decide)
    (Session.step Dialect.ansi "" (.literal last)).sql =
        (Session.step Dialect.ansi "" (.literal cut)).sql ∧
      (Session.step (MySql.dialect .none .mySql) "" (.literal last)).sql ≠
        (Session.step (MySql.dialect .none .mySql) "" (.literal before)).sql := by
  intro time last cut before
  refine ⟨(literal_texts_eq_iff rfl rfl "").1.2 rfl, fun h => ?_⟩
  have hequal := ((literal_texts_eq_iff rfl rfl "").2 .none .mySql).1 h
  exact absurd hequal (by decide)

end SqlScribe
