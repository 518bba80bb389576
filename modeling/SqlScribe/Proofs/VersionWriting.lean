import SqlScribe.Proofs.VersionGrammar

/-!
# Written versions are read back

The text of a server is a version text by the grammar, and it stays one under what servers and
clients do to it: white space around it, the front `5.5.5-` before it, and more decoration behind
it. Reading gives the server back (`read_decorated`).

Two seams need care. The text of MySQL 5.5.5 begins with the front itself, but what follows there is
the name of the product and no version. And a decoration that is put behind the name of one product
could complete the name of another; that of MySQL ends with a letter from which none goes on.
-/

namespace SqlScribe.MySql.Server

/-! ## Decimal texts -/

theorem toNat_of_isDigit {c : Char} (h : c.isDigit = true) : 48 ≤ c.toNat ∧ c.toNat ≤ 57 := by
  simp only [Char.isDigit, Bool.and_eq_true, decide_eq_true_eq, ge_iff_le, UInt32.le_iff_toNat_le]
    at h
  exact h

theorem isDecimalDigit_of_isDigit {c : Char} (h : c.isDigit = true) :
    Text.isDecimalDigit c = true := by
  refine List.any_eq_true.2 ⟨(0x30, 0x39), List.mem_cons_self, ?_⟩
  rw [Bool.and_eq_true, decide_eq_true_eq, decide_eq_true_eq]
  exact toNat_of_isDigit h

theorem isWhiteSpace_of_isDigit {c : Char} (h : c.isDigit = true) :
    Text.isWhiteSpace c = false := by
  have hdigit := toNat_of_isDigit h
  have hranges : ∀ r ∈ Text.whiteSpace, r.2 < 48 ∨ 57 < r.1 := by decide
  refine List.any_eq_false.2 fun r hr => ?_
  have hr := hranges r hr
  rw [Bool.and_eq_true, decide_eq_true_eq, decide_eq_true_eq]
  omega

theorem isDigit_of_mem_decimalText {n : Nat} {c : Char} (h : c ∈ Text.decimalText n) :
    c.isDigit = true :=
  Nat.isDigit_of_mem_toDigits (by decide) (by decide) h

/-- The text of a number is a run of digits, if no digit follows. -/
theorem isRun_decimalText (n : Nat) {rest : List Char}
    (h : ∀ c ∈ rest.head?, Text.isDecimalDigit c = false) : IsRun (Text.decimalText n) rest where
  ne_nil := Nat.toDigits_ne_nil
  digits _ hc := isDecimalDigit_of_isDigit (isDigit_of_mem_decimalText hc)
  ends := h

theorem spells_decimalText (n : UInt32) : Spells (Text.decimalText n.toNat) n :=
  ⟨fun _ hc => isDigit_of_mem_decimalText hc, Nat.ofDigitChars_ten_toDigits⟩

/-! ## The text of a server -/

/-- What stands behind the numbers in the text of a server. -/
def label (server : Server) : List Char := '-' :: server.product.name.toList

/-- The text of a server is its three numbers, with points between them, and its label. -/
theorem toList_text (server : Server) :
    server.text.toList = Text.decimalText server.major.toNat ++ '.' ::
      (Text.decimalText server.minor.toNat ++ ('.' :: Text.decimalText server.patch.toNat ++
        server.label)) := by
  simp [text, label]

/-- The text of a server is a version, with anything behind it. -/
theorem isNumbered_text (server : Server) (rest : List Char) :
    IsNumbered (server.text.toList ++ rest)
      ⟨Text.decimalText server.major.toNat, Text.decimalText server.minor.toNat,
        some (Text.decimalText server.patch.toNat), server.label ++ rest⟩ := by
  refine ⟨'.' :: Text.decimalText server.patch.toNat, ?_, ?_, ?_, ?_⟩
  · rw [toList_text]
    simp
  · refine isRun_decimalText _ fun c hc => ?_
    obtain rfl : '.' = c := by simpa using hc
    exact isDecimalDigit_point
  · refine isRun_decimalText _ fun c hc => ?_
    obtain rfl : '.' = c := by simpa using hc
    exact isDecimalDigit_point
  · refine .patch (isRun_decimalText _ fun c hc => ?_)
    obtain rfl : '-' = c := by simpa [label] using hc
    decide

/-- The front that old servers use is a version itself. -/
theorem isNumbered_disguise (rest : List Char) :
    IsNumbered (disguise ++ rest) ⟨['5'], ['5'], some ['5'], '-' :: rest⟩ := by
  have hrun : ∀ c rest, Text.isDecimalDigit c = false → IsRun ['5'] (c :: rest) := by
    intro c rest hc
    refine ⟨by simp, fun d hd => ?_, fun d hd => ?_⟩
    · obtain rfl := List.mem_singleton.1 hd
      decide
    · obtain rfl : c = d := by simpa using hd
      exact hc
  exact ⟨['.', '5'], rfl, hrun _ _ isDecimalDigit_point, hrun _ _ isDecimalDigit_point,
    .patch (hrun _ _ (by decide))⟩

/-- No version stands behind the front in the text of a server, which is that of 5.5.5 then. -/
theorem not_isDisguised_text (server : Server) (rest : List Char) :
    ¬IsDisguised (server.text.toList ++ rest) := by
  rintro ⟨digits, c, behind, hne, hdigits, -, htext⟩
  -- Both readings of the text have the same decoration, a letter on one side, a digit on the other.
  have hparts := split?_eq_some_iff.2 (isNumbered_text server rest)
  rw [htext, split?_eq_some_iff.2 (isNumbered_disguise _)] at hparts
  have hdecoration := congrArg VersionText.decoration (Option.some.inj hparts)
  obtain ⟨d, ds, rfl⟩ := List.exists_cons_of_ne_nil hne
  have hd : Text.isDecimalDigit d = true := hdigits d List.mem_cons_self
  have hletter : d = 'm' := by
    cases hproduct : server.product <;> simp [label, hproduct, Product.name] at hdecoration <;>
      exact hdecoration.1
  rw [hletter] at hd
  exact absurd hd (by decide)

/-- Behind the front, the text of a server is disguised. -/
theorem isDisguised_front (server : Server) (rest : List Char) :
    IsDisguised (disguise ++ (server.text.toList ++ rest)) := by
  rw [isDisguised_append_iff, split?_eq_some_iff.2 (isNumbered_text server rest)]
  rfl

/-! ## The product -/

theorem NamesMariaDb.append {decoration : List Char} (h : NamesMariaDb decoration)
    (rest : List Char) : NamesMariaDb (decoration ++ rest) := by
  obtain ⟨before, name, after, rfl, hname⟩ := h
  exact ⟨before, name, after ++ rest, by simp, hname⟩

/-- No name of MariaDB begins inside the name of MySQL. -/
theorem productOf_mySql_append (rest : List Char) :
    productOf ('-' :: Product.mySql.name.toList ++ rest) = productOf rest := rfl

/-- The product is told by the label, if what stands behind it does not mislead. -/
theorem product_label {server : Server} {rest : List Char}
    (h : server.product = .mySql → ¬NamesMariaDb rest) :
    server.product = .mariaDb ↔ NamesMariaDb (server.label ++ rest) := by
  cases hproduct : server.product with
  | mySql =>
    have hlabel : productOf (server.label ++ rest) = productOf rest := by
      rw [label, hproduct]
      exact productOf_mySql_append rest
    rw [← productOf_eq_mariaDb_iff, hlabel, productOf_eq_mariaDb_iff]
    exact ⟨fun h => absurd h (by decide), fun hnames => absurd hnames (h hproduct)⟩
  | mariaDb =>
    rw [label, hproduct]
    exact ⟨fun _ => ⟨['-'], "mariadb".toList, rest, rfl, by decide⟩, fun _ => rfl⟩

/-! ## Reading back -/

/-- A server's text describes the server, behind the front or not and with a decoration on the same
line. -/
theorem describes_text (server : Server) {front decoration : List Char}
    (hfront : front = [] ∨ front = disguise) (hline : '\n' ∉ decoration)
    (hproduct : server.product = .mySql → ¬NamesMariaDb decoration) :
    Describes (front ++ (server.text.toList ++ decoration)) server := by
  obtain ⟨middle, htext, hmajor, hminor, hmiddle⟩ := isNumbered_text server decoration
  refine ⟨front, _, _, middle, _, _, congrArg (front ++ ·) htext, ?_, hmajor, hminor, hmiddle, ?_,
    spells_decimalText server.major, spells_decimalText server.minor,
    spells_decimalText server.patch, product_label hproduct⟩
  · rcases hfront with rfl | rfl
    · rw [List.nil_append]
      exact .inr ⟨not_isDisguised_text server decoration, rfl⟩
    · exact .inl ⟨isDisguised_front server decoration, rfl⟩
  · rw [List.mem_append, not_or]
    refine ⟨?_, hline⟩
    rw [label]
    cases server.product <;> decide

/-- A version starts with a digit. -/
theorem first_text (server : Server) {front : List Char} (hfront : front = [] ∨ front = disguise)
    (rest : List Char) :
    ∀ c ∈ (front ++ (server.text.toList ++ rest)).head?, Text.isWhiteSpace c = false := by
  intro c hc
  refine isWhiteSpace_of_isDigit ?_
  rcases hfront with rfl | rfl
  · obtain ⟨d, ds, hd⟩ := List.exists_cons_of_ne_nil (Nat.toDigits_ne_nil (b := 10)
      (n := server.major.toNat))
    rw [toList_text, Text.decimalText, hd] at hc
    obtain rfl : d = c := by simpa using hc
    exact isDigit_of_mem_decimalText (n := server.major.toNat)
      (by rw [Text.decimalText, hd]; exact List.mem_cons_self)
  · have hfirst : (disguise ++ (server.text.toList ++ rest)).head? = some '5' := rfl
    obtain rfl : '5' = c := Option.some.inj (hfirst.symm.trans hc)
    decide

/-- The text of a server ends with a letter. -/
theorem last_text (server : Server) (front : List Char) {inner : List Char}
    (h : ∀ c ∈ inner.getLast?, Text.isWhiteSpace c = false) :
    ∀ c ∈ (front ++ (server.text.toList ++ inner)).getLast?, Text.isWhiteSpace c = false := by
  intro c hc
  have hlabel : ∃ d ∈ server.label.getLast?, Text.isWhiteSpace d = false := by
    rw [label]
    cases server.product
    · exact ⟨'l', by decide, by decide⟩
    · exact ⟨'b', by decide, by decide⟩
  obtain ⟨d, hd, hspace⟩ := hlabel
  rw [toList_text] at hc
  simp only [List.getLast?_append, List.getLast?_cons, Option.mem_def.1 hd] at hc
  cases hinner : inner.getLast? with
  | none =>
    rw [hinner] at hc
    obtain rfl : d = c := by simpa using hc
    exact hspace
  | some e =>
    rw [hinner] at hc
    obtain rfl : e = c := by simpa using hc
    exact h e hinner

/-- What is read from the text of a server is the server, whatever white space stands around it,
with or without the front, and with a decoration on the same line that does not name the other
product. -/
theorem read_decorated (server : Server) (before front decoration after : String)
    (hbefore : ∀ c ∈ before.toList, Text.isWhiteSpace c = true)
    (hfront : front = "" ∨ front = "5.5.5-") (hline : '\n' ∉ decoration.toList)
    (hproduct : server.product = .mySql → ¬NamesMariaDb decoration.toList)
    (hafter : ∀ c ∈ after.toList, Text.isWhiteSpace c = true) :
    read (before ++ front ++ server.text ++ decoration ++ after) = .ok server := by
  have hfront' : front.toList = [] ∨ front.toList = disguise := by
    rcases hfront with rfl | rfl
    · exact .inl rfl
    · exact .inr rfl
  -- Trimming may take white space from the end of the decoration too.
  obtain ⟨inner, blank, hdecoration, hblank, hlast⟩ := Text.exists_trimEnd decoration.toList
  have htrimmed : Text.IsTrimmed (before ++ front ++ server.text ++ decoration ++ after).toList
      (front.toList ++ (server.text.toList ++ inner)) := by
    refine ⟨⟨before.toList, blank ++ after.toList, ?_, hbefore, ?_⟩,
      first_text server hfront' inner, last_text server front.toList hlast⟩
    · simp [hdecoration]
    · intro c hc
      exact (List.mem_append.1 hc).elim (hblank c) (hafter c)
  have hinnerLine : '\n' ∉ inner := by
    intro hmem
    exact hline (hdecoration ▸ List.mem_append_left blank hmem)
  have hinnerProduct : server.product = .mySql → ¬NamesMariaDb inner := by
    intro hmySql hnames
    exact hproduct hmySql (hdecoration ▸ hnames.append blank)
  rw [read_eq_ok_iff, htrimmed.trim_eq]
  exact describes_text server hfront' hinnerLine hinnerProduct

/-- MySQL 5.5.5 behind the front that its own text begins with, between line feeds. -/
theorem read_decorated_front :
    (⟨.mySql, 5, 5, 5⟩ : Server).text = "5.5.5-mysql" ∧
      read ("\n" ++ "5.5.5-" ++ (⟨.mySql, 5, 5, 5⟩ : Server).text ++ "-log " ++ "\n") =
        .ok ⟨.mySql, 5, 5, 5⟩ := by
  have hplain : ¬NamesMariaDb "-log ".toList := by
    rw [← productOf_eq_mariaDb_iff]
    decide
  have hblank : ∀ c ∈ "\n".toList, Text.isWhiteSpace c = true := by
    intro c hc
    obtain rfl : c = '\n' := List.mem_singleton.1 hc
    decide
  exact ⟨by decide, read_decorated ⟨.mySql, 5, 5, 5⟩ "\n" "5.5.5-" "-log " "\n" hblank
    (.inr rfl) (by decide) (fun _ => hplain) hblank⟩

end SqlScribe.MySql.Server
