import SqlScribe.Text.Basic

/-!
# Reading quoted texts back

A quoted text starts and ends with its quote, and each quote between these two is written twice. So
a reader that takes two quotes for one, and ends at a quote that stands alone, finds the text again
and leaves what comes behind it, unless that starts with one more quote (`unquoted?_eq_some_iff`).

Quoted texts can also be told by their looks. The quotes that stand together between the first and
the last character are a run, and every run is of even length (`IsQuoted`), however many of the
quoted characters are quotes themselves. Whatever looks like this is the quoted form of some text
(`exists_quoted_eq_iff`).
-/

namespace SqlScribe.Text

variable {quote c : Char} {text contents rest : List Char}

/-! ## The reader -/

/-- Reads a text up to a quote that stands alone and takes two quotes for one. What is left behind
the lone quote comes second. -/
def unquotedBody? (quote : Char) : List Char → Option (List Char × List Char)
  | [] => none
  | c :: rest =>
    if c = quote then
      match rest with
      | [] => some ([], [])
      | d :: more =>
        if d = quote then (unquotedBody? quote more).map (.map (quote :: ·) id)
        else some ([], d :: more)
    else (unquotedBody? quote rest).map (.map (c :: ·) id)

/-- Reads a text between quotes, and gives what stands behind it too. -/
def unquoted? (quote : Char) : List Char → Option (List Char × List Char)
  | [] => none
  | c :: rest => if c = quote then unquotedBody? quote rest else none

/-- `unquoted?` on strings. -/
def unquote? (quote : Char) (text : String) : Option (String × String) :=
  (unquoted? quote text.toList).map (.map String.ofList String.ofList)

theorem unquotedBody?_quote (hrest : rest.head? ≠ some quote) :
    unquotedBody? quote (quote :: rest) = some ([], rest) := by
  cases rest with
  | nil => simp [unquotedBody?]
  | cons d more =>
    have hd : d ≠ quote := by simpa using hrest
    simp [unquotedBody?, hd]

theorem unquotedBody?_quote_quote :
    unquotedBody? quote (quote :: quote :: rest) =
      (unquotedBody? quote rest).map (.map (quote :: ·) id) := by
  simp [unquotedBody?]

theorem unquotedBody?_of_ne (hc : c ≠ quote) :
    unquotedBody? quote (c :: rest) = (unquotedBody? quote rest).map (.map (c :: ·) id) := by
  rw [unquotedBody?.eq_def]
  exact if_neg hc

/-- What was doubled is read back, up to the quote that stands alone. -/
theorem unquotedBody?_doubled (hrest : rest.head? ≠ some quote) (contents : List Char) :
    unquotedBody? quote (doubled (· == quote) contents ++ quote :: rest) =
      some (contents, rest) := by
  induction contents with
  | nil => exact unquotedBody?_quote hrest
  | cons c contents ih =>
    rw [doubled_cons]
    by_cases hc : c = quote
    · subst hc
      rw [if_pos (beq_self_eq_true c), List.append_assoc, List.cons_append, List.cons_append,
        List.nil_append, unquotedBody?_quote_quote, ih]
      rfl
    · rw [if_neg (by simpa using hc), List.append_assoc, List.cons_append, List.nil_append,
        unquotedBody?_of_ne hc, ih]
      rfl

/-- Only doubled texts before a lone quote are read. -/
theorem eq_of_unquotedBody?_eq_some (h : unquotedBody? quote text = some (contents, rest)) :
    text = doubled (· == quote) contents ++ quote :: rest ∧ rest.head? ≠ some quote := by
  fun_induction unquotedBody? quote text generalizing contents with
  | case1 => cases h
  | case2 =>
    cases h
    simp
  | case3 more ih =>
    obtain ⟨⟨contents', rest'⟩, hmore, heq⟩ := Option.map_eq_some_iff.1 h
    cases heq
    obtain ⟨rfl, hrest⟩ := ih hmore
    refine ⟨?_, hrest⟩
    simp
  | case4 d more hd =>
    cases h
    refine ⟨rfl, ?_⟩
    simpa using hd
  | case5 c text hc ih =>
    obtain ⟨⟨contents', rest'⟩, htext, heq⟩ := Option.map_eq_some_iff.1 h
    cases heq
    obtain ⟨rfl, hrest⟩ := ih htext
    refine ⟨?_, hrest⟩
    simp [hc]

/-- A text is read exactly if it is quoted and no quote comes next. -/
theorem unquoted?_eq_some_iff :
    unquoted? quote text = some (contents, rest) ↔
      text = quoted quote contents ++ rest ∧ rest.head? ≠ some quote := by
  have hquoted : quoted quote contents ++ rest =
      quote :: (doubled (· == quote) contents ++ quote :: rest) := by
    simp [quoted]
  rw [hquoted]
  constructor
  · intro h
    cases text with
    | nil => cases h
    | cons c text =>
      by_cases hc : c = quote
      · rw [unquoted?, if_pos hc] at h
        obtain ⟨rfl, hrest⟩ := eq_of_unquotedBody?_eq_some h
        exact ⟨by rw [hc], hrest⟩
      · rw [unquoted?, if_neg hc] at h
        cases h
  · rintro ⟨rfl, hrest⟩
    rw [unquoted?, if_pos rfl]
    exact unquotedBody?_doubled hrest contents

/-! ## Runs -/

/-- Wherever quotes stand together and no further quote stands next to them, their number is
even. -/
def EvenRuns (quote : Char) (text : List Char) : Prop :=
  ∀ before n after, text = before ++ List.replicate n quote ++ after →
    before.getLast? ≠ some quote → after.head? ≠ some quote → 2 ∣ n

theorem evenRuns_nil (quote : Char) : EvenRuns quote [] := by
  intro before n after h _ _
  obtain ⟨hrun, -⟩ := List.append_eq_nil_iff.1 h.symm
  obtain ⟨-, hrun⟩ := List.append_eq_nil_iff.1 hrun
  rw [List.replicate_eq_nil_iff] at hrun
  omega

/-- A run does not start before another character. -/
theorem evenRuns_cons_of_ne (hc : c ≠ quote) :
    EvenRuns quote (c :: text) ↔ EvenRuns quote text := by
  constructor
  · rintro h before n after rfl hbefore hafter
    refine h (c :: before) n after rfl ?_ hafter
    cases before with
    | nil => simpa using hc
    | cons b before => rwa [List.getLast?_cons_cons]
  · intro h before n after heq hbefore hafter
    cases before with
    | nil =>
      cases n with
      | zero => omega
      | succ n =>
        rw [List.nil_append, List.replicate_succ, List.cons_append] at heq
        exact absurd (List.cons.inj heq).1 hc
    | cons b before =>
      obtain ⟨-, rfl⟩ := List.cons.inj heq
      refine h before n after rfl ?_ hafter
      cases before with
      | nil => simp
      | cons d before => rwa [List.getLast?_cons_cons] at hbefore

/-- Two more quotes at the start keep the first run even, or are an even run themselves. -/
theorem evenRuns_cons_cons : EvenRuns quote (quote :: quote :: text) ↔ EvenRuns quote text := by
  constructor
  · rintro h before n after rfl hbefore hafter
    cases before with
    | nil =>
      have hlonger := h [] (n + 2) after rfl hbefore hafter
      omega
    | cons b before =>
      refine h (quote :: quote :: b :: before) n after rfl ?_ hafter
      rwa [List.getLast?_cons_cons, List.getLast?_cons_cons]
  · intro h before n after heq hbefore hafter
    rcases before with _ | ⟨b, _ | ⟨d, before⟩⟩
    · rcases n with _ | _ | n
      · omega
      · obtain rfl : quote :: text = after := by simpa using heq
        exact absurd rfl hafter
      · simp only [List.replicate_succ, List.nil_append, List.cons_append, List.cons.injEq,
          true_and] at heq
        have hshorter := h [] n after heq hbefore hafter
        omega
    · obtain ⟨rfl, -⟩ := List.cons.inj heq
      exact absurd rfl hbefore
    · simp only [List.cons_append, List.cons.injEq] at heq
      obtain ⟨rfl, rfl, heq⟩ := heq
      refine h before n after heq ?_ hafter
      cases before with
      | nil => simp
      | cons e before => rwa [List.getLast?_cons_cons, List.getLast?_cons_cons] at hbefore

/-- A quote that stands alone is an odd run. -/
theorem not_evenRuns_lone (htext : text.head? ≠ some quote) : ¬EvenRuns quote (quote :: text) := by
  intro h
  have hone := h [] 1 text rfl (by simp) htext
  omega

/-- Doubling leaves quotes in even numbers only. -/
theorem evenRuns_doubled (quote : Char) (contents : List Char) :
    EvenRuns quote (doubled (· == quote) contents) := by
  induction contents with
  | nil => exact evenRuns_nil quote
  | cons c contents ih =>
    rw [doubled_cons]
    by_cases hc : c = quote
    · subst hc
      rw [if_pos (beq_self_eq_true c)]
      exact evenRuns_cons_cons.2 ih
    · rw [if_neg (by simpa using hc)]
      exact (evenRuns_cons_of_ne hc).2 ih

/-- A text with even runs is doubled. -/
theorem exists_doubled_eq (h : EvenRuns quote text) :
    ∃ contents, doubled (· == quote) contents = text := by
  induction hn : text.length using Nat.strongRecOn generalizing text with
  | ind n ih =>
    cases text with
    | nil => exact ⟨[], rfl⟩
    | cons c text =>
      by_cases hc : c = quote
      · subst hc
        -- The run that the quote starts goes on, for it is even.
        cases text with
        | nil => exact absurd h (not_evenRuns_lone (by simp))
        | cons d text =>
          by_cases hd : d = c
          · subst hd
            obtain ⟨contents, rfl⟩ := ih _ (by simp at hn; omega) (evenRuns_cons_cons.1 h) rfl
            exact ⟨d :: contents, by simp⟩
          · exact absurd h (not_evenRuns_lone (by simpa using hd))
      · obtain ⟨contents, rfl⟩ := ih _ (by simp at hn; omega) ((evenRuns_cons_of_ne hc).1 h) rfl
        exact ⟨c :: contents, by simp [hc]⟩

/-! ## Quoted texts -/

/-- The text stands between two quotes, and the quotes in it come in runs of even length. -/
structure IsQuoted (quote : Char) (text : List Char) : Prop where
  long : 2 ≤ text.length
  first : text.head? = some quote
  last : text.getLast? = some quote
  inside : EvenRuns quote text.tail.dropLast

/-- The texts that look quoted are quoted. -/
theorem exists_quoted_eq_iff :
    (∃ contents, quoted quote contents = text) ↔ IsQuoted quote text := by
  constructor
  · rintro ⟨contents, rfl⟩
    have hlast : (quoted quote contents).getLast? = some quote := by
      rw [quoted, ← List.cons_append, List.getLast?_concat]
    have hinside : (quoted quote contents).tail.dropLast = doubled (· == quote) contents := by
      simp [quoted]
    refine ⟨by simp [quoted], rfl, hlast, ?_⟩
    rw [hinside]
    exact evenRuns_doubled quote contents
  · rintro ⟨hlong, hfirst, hlast, hinside⟩
    cases text with
    | nil => cases hfirst
    | cons c text =>
      obtain rfl : c = quote := by simpa using hfirst
      cases text with
      | nil => simp at hlong
      | cons d text =>
        rw [List.getLast?_cons_cons, List.getLast?_eq_some_iff] at hlast
        obtain ⟨inside, hinner⟩ := hlast
        rw [List.tail_cons, hinner, List.dropLast_concat] at hinside
        obtain ⟨contents, rfl⟩ := exists_doubled_eq hinside
        exact ⟨contents, by rw [hinner, quoted]⟩

/-- For any quote character, a reader finds a quoted text again before anything that does not start
with the quote, and reads nothing else. The quoted texts are those that look quoted, and each is
the quoted form of what is read from it. -/
theorem quoteWith_reads_back (quote : Char) :
    (∀ text contents rest : String, unquote? quote text = some (contents, rest) ↔
      text = quoteWith quote contents ++ rest ∧ rest.toList.head? ≠ some quote) ∧
    (∀ text : String, (∃ contents, quoteWith quote contents = text) ↔ IsQuoted quote text.toList) ∧
    ∀ text : String, IsQuoted quote text.toList →
      ∃ contents, unquote? quote text = some (contents, "") ∧ quoteWith quote contents = text := by
  have hreads : ∀ text contents rest : String, unquote? quote text = some (contents, rest) ↔
      text = quoteWith quote contents ++ rest ∧ rest.toList.head? ≠ some quote := by
    intro text contents rest
    have hlists : unquote? quote text = some (contents, rest) ↔
        unquoted? quote text.toList = some (contents.toList, rest.toList) := by
      unfold unquote?
      cases unquoted? quote text.toList with
      | none => simp
      | some read =>
        obtain ⟨a, b⟩ := read
        simp [← String.toList_inj]
    rw [hlists, unquoted?_eq_some_iff, ← String.toList_inj, String.toList_append, toList_quoteWith]
  have hlooks : ∀ text : String,
      (∃ contents, quoteWith quote contents = text) ↔ IsQuoted quote text.toList := by
    intro text
    rw [← exists_quoted_eq_iff]
    constructor
    · rintro ⟨contents, rfl⟩
      exact ⟨contents.toList, (toList_quoteWith quote contents).symm⟩
    · rintro ⟨contents, hcontents⟩
      refine ⟨String.ofList contents, ?_⟩
      rw [← String.toList_inj, toList_quoteWith, String.toList_ofList, hcontents]
  refine ⟨hreads, hlooks, ?_⟩
  intro text htext
  obtain ⟨contents, rfl⟩ := (hlooks text).2 htext
  exact ⟨contents, (hreads _ contents "").2 ⟨by simp, by simp⟩, rfl⟩

/-- Six quotes in a row are the quoted form of two, also before another text. -/
theorem quoteWith_reads_back_two_quotes :
    IsQuoted '"' "\"\"\"\"\"\"".toList ∧
    (∃ contents, unquote? '"' "\"\"\"\"\"\"" = some (contents, "") ∧
      quoteWith '"' contents = "\"\"\"\"\"\"") ∧
    unquote? '"' "\"\"\"\"\"\".x" = some ("\"\"", ".x") := by
  obtain ⟨hreads, hlooks, hback⟩ := quoteWith_reads_back '"'
  have hquoted : IsQuoted '"' "\"\"\"\"\"\"".toList := (hlooks _).1 ⟨"\"\"", rfl⟩
  exact ⟨hquoted, hback _ hquoted, (hreads _ _ _).2 ⟨rfl, by decide⟩⟩

end SqlScribe.Text
