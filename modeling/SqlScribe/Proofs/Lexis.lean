import SqlScribe.Dialect.Basic
import SqlScribe.MySql.Dialect

/-!
# Reading a text for its quotes

A reader who knows nothing of SQL but its quotes still tells the quoted regions of a text from what
stands between them. A string runs from one single quote to the next, an identifier between the
quote characters of the dialect; a quote written twice inside a region stands for one, and in the
strings of MySQL a backslash changes the meaning of the character behind it.

`Lexis.lex` is this reader. It fails on a text that ends inside a region. `Lexis.Reads` says what it
makes of a text among others: the region that a text ends with goes on if the next text starts with
its quote, so the edge between them is `loose` unless something that is no quote comes last. The
main facts are that doubling is undone (`reads_quoted`) and that texts are read one after the other
(`Reads.append`).
-/

namespace SqlScribe

/-! ## Texts without quotes -/

namespace Text

/-- The character is a quote in some dialect. -/
def isQuote (c : Char) : Bool := c == '\'' || c == '"' || c == '`'

/-- No character of the text is a quote in any dialect. -/
def isQuoteFree (text : String) : Bool := text.toList.all (!isQuote ·)

/-- The text is one that can stand between two others. -/
def isWord (text : String) : Bool := text != "" && isQuoteFree text

@[simp]
theorem isQuoteFree_append (a b : String) :
    isQuoteFree (a ++ b) = (isQuoteFree a && isQuoteFree b) := by
  simp [isQuoteFree]

end Text

/-! ## Tokens -/

/-- The quoted regions of a text. -/
inductive Region where
  | string
  | identifier
deriving DecidableEq

/-- What a lexer tells apart. -/
inductive Token where
  /-- A character outside quotes. -/
  | plain (c : Char)
  /-- A quoted region, with the characters that it stands for. -/
  | quoted (region : Region) (contents : List Char)
deriving DecidableEq

namespace Token

/-- The token is a quoted region. -/
def isQuoted : Token → Bool
  | plain _ => false
  | quoted _ _ => true

/-- The token without what it quotes. -/
def blank : Token → Token
  | plain c => plain c
  | quoted region _ => quoted region []

theorem filter_isQuoted_map_plain (cs : List Char) : (cs.map plain).filter isQuoted = [] := by
  simp [List.filter_map, Function.comp_def, isQuoted]

end Token

/-! ## The reader -/

/-- What a dialect decides about quotes. -/
structure Lexis where
  /-- The character around identifiers. -/
  identifierQuote : Char
  /-- A backslash in a string changes the meaning of the next character. -/
  backslash : Bool
  isQuote : Text.isQuote identifierQuote = true := by decide
  ne_single : identifierQuote ≠ '\'' := by decide

/-- The lexis of standard SQL: names stand between double quotes, and a backslash is a character
like any other. -/
def Standard.lexis : Lexis where
  identifierQuote := '"'
  backslash := false

/-- The lexis of MySQL: names stand between backticks, and a backslash in a string takes the next
character with it. -/
def MySql.lexis : Lexis where
  identifierQuote := '`'
  backslash := true

namespace Lexis

/-- What a character stands for behind a backslash. -/
def unescape : Char → List Char
  | '0' => ['\x00']
  | 'b' => ['\x08']
  | 'n' => ['\n']
  | 'r' => ['\r']
  | 't' => ['\t']
  | 'Z' => ['\x1a']
  | '%' => ['\\', '%']
  | '_' => ['\\', '_']
  | c => [c]

/-- The character that starts and ends a region. -/
def quoteOf (L : Lexis) : Region → Char
  | .string => '\''
  | .identifier => L.identifierQuote

/-- The region that a character opens outside quotes. -/
def opens? (L : Lexis) (c : Char) : Option Region :=
  if c = '\'' then some .string else if c = L.identifierQuote then some .identifier else none

/-- The character is the backslash of an escape in the region. -/
def escapes (L : Lexis) : Region → Char → Bool
  | .string, c => L.backslash && c == '\\'
  | .identifier, _ => false

/-- Where the reader is. Inside a region it keeps the characters that the region stands for so
far. -/
inductive Mode where
  | outside
  | inside (region : Region) (contents : List Char)
  | escaped (region : Region) (contents : List Char)
  /-- Behind a quote, which ends the region unless it comes twice. -/
  | closing (region : Region) (contents : List Char)

/-- The tokens of a text from a mode on. A text that ends inside a region has none. -/
def read (L : Lexis) : Mode → List Char → Option (List Token)
  | .outside, [] => some []
  | .outside, c :: text =>
    match L.opens? c with
    | some region => L.read (.inside region []) text
    | none => (L.read .outside text).map (.plain c :: ·)
  | .inside _ _, [] => none
  | .inside region contents, c :: text =>
    if c = L.quoteOf region then L.read (.closing region contents) text
    else if L.escapes region c then L.read (.escaped region contents) text
    else L.read (.inside region (contents ++ [c])) text
  | .escaped _ _, [] => none
  | .escaped region contents, c :: text => L.read (.inside region (contents ++ unescape c)) text
  | .closing region contents, [] => some [.quoted region contents]
  | .closing region contents, c :: text =>
    if c = L.quoteOf region then L.read (.inside region (contents ++ [c])) text
    else
      match L.opens? c with
      | some next => (L.read (.inside next []) text).map (.quoted region contents :: ·)
      | none => (L.read .outside text).map (.quoted region contents :: .plain c :: ·)

/-- The tokens of a text; a text that ends inside a region has none. -/
def lex (L : Lexis) (text : String) : Option (List Token) :=
  L.read .outside text.toList

example : Standard.lexis.lex "f('it''s')" =
    some [.plain 'f', .plain '(', .quoted .string ['i', 't', '\'', 's'], .plain ')'] := by decide

example : MySql.lexis.lex "'\\' OR 1" = none := by decide

variable {L : Lexis}

theorem opens?_eq_none {c : Char} (hc : Text.isQuote c = false) :
    L.opens? c = none := by
  have hsingle : c ≠ '\'' := by
    rintro rfl
    exact nomatch hc
  have hidentifier : c ≠ L.identifierQuote := by
    rintro rfl
    exact nomatch L.isQuote.symm.trans hc
  rw [opens?, if_neg hsingle, if_neg hidentifier]

theorem opens?_quoteOf (region : Region) :
    L.opens? (L.quoteOf region) = some region := by
  cases region with
  | string => rfl
  | identifier => rw [quoteOf, opens?, if_neg L.ne_single, if_pos rfl]

/-! ## Texts side by side -/

/-- How a text ends: whether a quote that comes right behind it would be taken for a part of it. -/
inductive Edge where
  /-- The text before it has no open end. -/
  | settled
  /-- The text before it may end with the quote of a region, so no quote may come next. -/
  | loose

/-- The text may follow at an edge. -/
def Edge.Admits (L : Lexis) : Edge → List Char → Prop
  | .settled, _ => True
  | .loose, rest => ∀ c ∈ rest.head?, L.opens? c = none

/-- Between the two edges the text is read on its own: its tokens come before those of any text that
may follow. -/
def Reads (L : Lexis) (before after : Edge) (text : List Char) (ts : List Token) : Prop :=
  ∀ rest, after.Admits L rest → before.Admits L (text ++ rest) ∧
    L.read .outside (text ++ rest) = (L.read .outside rest).map (ts ++ ·)

/-- What may follow a loose end may follow any. -/
theorem Edge.Admits.of_loose {edge : Edge} {rest : List Char} (h : Edge.loose.Admits L rest) :
    edge.Admits L rest := by
  cases edge with
  | settled => trivial
  | loose => exact h

namespace Reads

variable {before between after : Edge} {a b : List Char} {ts us : List Token}

/-- A text that is read between two edges is lexed to the same tokens on its own. -/
theorem lex_eq {text : String} (h : L.Reads before after text.toList ts) :
    L.lex text = some ts := by
  have hnil : Edge.loose.Admits L [] := nofun
  obtain ⟨-, htext⟩ := h [] hnil.of_loose
  rw [List.append_nil] at htext
  rw [lex, htext]
  simp [read]

theorem nil (edge : Edge) : L.Reads edge edge [] [] := by
  intro rest hrest
  exact ⟨hrest, by simp⟩

theorem append (ha : L.Reads before between a ts) (hb : L.Reads between after b us) :
    L.Reads before after (a ++ b) (ts ++ us) := by
  intro rest hrest
  obtain ⟨hbetween, hread⟩ := hb rest hrest
  obtain ⟨hbefore, hread'⟩ := ha (b ++ rest) hbetween
  rw [List.append_assoc]
  refine ⟨hbefore, ?_⟩
  rw [hread', hread, Option.map_map]
  refine congrArg (Option.map · _) (funext fun vs => ?_)
  exact (List.append_assoc ts us vs).symm

/-- What may follow anything may follow a settled text. -/
theorem after_settled (h : L.Reads before after a ts) : L.Reads .settled after a ts := by
  intro rest hrest
  exact ⟨trivial, (h rest hrest).2⟩

/-- What anything may follow may be followed by a text without a leading quote. -/
theorem before_loose (h : L.Reads before after a ts) : L.Reads before .loose a ts := by
  intro rest hrest
  exact h rest hrest.of_loose

/-- Characters that open nothing are read as they stand. -/
theorem unopened {cs : List Char} (hcs : ∀ c ∈ cs, L.opens? c = none) :
    L.Reads .settled .settled cs (cs.map .plain) := by
  intro rest _
  refine ⟨trivial, ?_⟩
  induction cs with
  | nil => simp
  | cons c cs ih =>
    obtain ⟨hc, hcs⟩ := List.forall_mem_cons.1 hcs
    rw [List.cons_append, read, hc]
    simp [ih hcs, Function.comp_def]

/-- Text without quotes is read as it stands. -/
theorem plain {word : String} (hword : Text.isQuoteFree word = true) :
    L.Reads .settled .settled word.toList (word.toList.map .plain) := by
  refine unopened fun c hc => opens?_eq_none ?_
  simpa using List.all_eq_true.1 hword c hc

/-- A text without quotes may follow anything, if there is any of it. -/
theorem word {word : String} (hword : Text.isWord word = true) :
    L.Reads .loose .settled word.toList (word.toList.map .plain) := by
  intro rest hrest
  rw [Text.isWord, Bool.and_eq_true, bne_iff_ne] at hword
  obtain ⟨hne, hword⟩ := hword
  refine ⟨?_, (plain hword rest hrest).2⟩
  unfold Text.isQuoteFree at hword
  cases hcs : word.toList with
  | nil => exact absurd (String.toList_eq_nil_iff.1 hcs) hne
  | cons c cs =>
    rw [hcs, List.all_cons, Bool.and_eq_true, Bool.not_eq_true'] at hword
    intro d hd
    obtain rfl : c = d := by simpa using hd
    exact opens?_eq_none hword.1

end Reads

/-! ## Quoted regions -/

/-- Exactly the characters that could end the region, or change the meaning of another, are
special. -/
def Guards (L : Lexis) (region : Region) (special : Char → Bool) : Prop :=
  ∀ c, special c = true ↔ c = L.quoteOf region ∨ L.escapes region c = true

/-- A region is read up to its quote, and what was written twice is read once. -/
theorem read_inside {region : Region} {special : Char → Bool} (h : L.Guards region special)
    (text contents rest : List Char) :
    L.read (.inside region contents) (Text.doubled special text ++ L.quoteOf region :: rest) =
      L.read (.closing region (contents ++ text)) rest := by
  induction text generalizing contents with
  | nil => simp [read]
  | cons c text ih =>
    rw [Text.doubled_cons]
    by_cases hquote : c = L.quoteOf region
    · subst hquote
      rw [if_pos ((h _).2 (.inl rfl))]
      simp only [List.cons_append, List.nil_append, read, if_true, ih]
      rw [List.append_assoc, List.singleton_append]
    · by_cases hescapes : L.escapes region c = true
      · -- The only character that escapes is the backslash, and behind itself it stands for itself.
        have hc : unescape c = [c] := by
          cases region with
          | string =>
            obtain rfl : c = '\\' := by simpa [escapes] using (Bool.and_eq_true_iff.1 hescapes).2
            rfl
          | identifier => exact nomatch hescapes
        rw [if_pos ((h c).2 (.inr hescapes))]
        simp only [List.cons_append, List.nil_append, read, if_neg hquote, hescapes, if_true, hc,
          ih]
        rw [List.append_assoc, List.singleton_append]
      · have hplain : ¬special c = true := fun hc => ((h c).1 hc).elim hquote hescapes
        rw [if_neg hplain]
        simp only [List.cons_append, List.nil_append, read, if_neg hquote, hescapes, ih]
        simp

/-- A region ends where no quote follows. -/
theorem read_closing (region : Region) (contents : List Char) {rest : List Char}
    (hrest : Edge.loose.Admits L rest) :
    L.read (.closing region contents) rest =
      (L.read .outside rest).map (.quoted region contents :: ·) := by
  cases rest with
  | nil => simp [read]
  | cons c rest =>
    have hc : L.opens? c = none := hrest c rfl
    have hquote : c ≠ L.quoteOf region := by
      rintro rfl
      exact nomatch hc.symm.trans (opens?_quoteOf region)
    simp [read, hc, hquote, Function.comp_def]

/-- A text between quotes, with the special characters doubled, is read as one region. -/
theorem reads_quoted {region : Region} {special : Char → Bool}
    (hspecial : L.Guards region special) (contents : List Char) :
    L.Reads .settled .loose
      (L.quoteOf region :: (Text.doubled special contents ++ [L.quoteOf region]))
      [.quoted region contents] := by
  intro rest hrest
  refine ⟨trivial, ?_⟩
  rw [List.cons_append, read, opens?_quoteOf]
  simp only [List.append_assoc, List.singleton_append]
  rw [read_inside hspecial, List.nil_append, read_closing region contents hrest]

/-- A name between its quotes is read as the name. -/
theorem reads_quoteWith (name : String) :
    L.Reads .settled .loose (Text.quoteWith L.identifierQuote name).toList
      [.quoted .identifier name.toList] := by
  have hguards : L.Guards .identifier (· == L.identifierQuote) := by
    intro c
    simp [quoteOf, escapes]
  rw [Text.toList_quoteWith]
  exact reads_quoted hguards name.toList

/-- A string literal is read as its contents. -/
theorem reads_doubleIn {special : Char → Bool} (hspecial : L.Guards .string special)
    (contents : String) :
    L.Reads .settled .loose ("'" ++ Text.doubleIn special contents ++ "'").toList
      [.quoted .string contents.toList] := by
  rw [String.toList_append, String.toList_append, Text.toList_doubleIn]
  exact reads_quoted hspecial contents.toList

end Lexis

/-! ## The quotes of the dialects -/

open Lexis

/-- A quoted name is read back, whatever is in it. -/
theorem Standard.reads_quote (name : String) :
    lexis.Reads .settled .loose (quote name).toList [.quoted .identifier name.toList] :=
  reads_quoteWith name

/-- An escaped string is read back, whatever is in it. -/
theorem Standard.reads_escape (contents : String) :
    lexis.Reads .settled .loose ("'" ++ escape contents ++ "'").toList
      [.quoted .string contents.toList] := by
  refine reads_doubleIn (fun c => ?_) contents
  simp [quoteOf, lexis, escapes]

theorem MySql.reads_quote (name : String) :
    lexis.Reads .settled .loose (quote name).toList [.quoted .identifier name.toList] :=
  reads_quoteWith name

/-- Backslashes are doubled too, so none of them changes the meaning of a quote. -/
theorem MySql.reads_escape (contents : String) :
    lexis.Reads .settled .loose ("'" ++ escape contents ++ "'").toList
      [.quoted .string contents.toList] := by
  refine reads_doubleIn (fun c => ?_) contents
  simp [quoteOf, lexis, escapes]

end SqlScribe
