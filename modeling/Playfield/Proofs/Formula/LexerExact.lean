import Playfield.Proofs.Formula.Lexemes

/-!
The lexer reads a token just where its characters are written.

There are two lemmas for each kind of token, one for either direction: what the lexer takes writes
the token (`lexes_of_lexeme`), and where a token is written the lexer takes it (`Lexes.lexeme_eq`).
-/

namespace Playfield.Formula

/-! ### Exponents -/

theorem exists_sign (cs : List Char) :
    ∃ sign rest, cs = sign ++ rest ∧ sign ∈ [[], ['+'], ['-']] ∧
      sign.length = if cs.head?.any (fun s => s == '+' || s == '-') then 1 else 0 := by
  cases cs with
  | nil => exact ⟨[], [], rfl, by simp, rfl⟩
  | cons c cs =>
    by_cases plus : c = '+'
    · exact ⟨['+'], cs, by rw [plus]; rfl, by simp, by simp [plus]⟩
    · by_cases minus : c = '-'
      · exact ⟨['-'], cs, by rw [minus]; rfl, by simp, by simp [minus]⟩
      · exact ⟨[], c :: cs, rfl, by simp, by simp [plus, minus]⟩

/-- An exponent that is seen stands in front. -/
theorem exists_exponent {cs : List Char} (present : 0 < exponentWidth cs) :
    ∃ e rest, cs = e ++ rest ∧ exponentWidth cs = e.length ∧ Exponent e ∧
      Halts Char.isDigit rest := by
  cases cs with
  | nil => simp [exponentWidth] at present
  | cons x xs =>
    obtain ⟨sign, body, rfl, signed, width⟩ := exists_sign xs
    obtain ⟨digits, rest, rfl, all, halts⟩ := exists_run Char.isDigit body
    simp only [exponentWidth, ← width, List.drop_left, takeWhile_append_of_halts all halts,
      Bool.or_eq_true, decide_eq_true_eq] at present ⊢
    by_cases letter : x = 'e' ∨ x = 'E'
    · rw [if_pos letter] at present ⊢
      by_cases some : 0 < digits.length
      · rw [if_pos some]
        refine ⟨x :: (sign ++ digits), rest, ?_, ?_,
          .mk letter signed (List.ne_nil_of_length_pos some) all, halts⟩
        · rw [List.cons_append, List.append_assoc]
        · simp only [List.length_cons, List.length_append]
          omega
      · simp [some] at present
    · simp [letter] at present

/-- More digits belong to an exponent as well. -/
theorem Exponent.append {e digits : List Char} (exponent : Exponent e)
    (more : ∀ c ∈ digits, c.isDigit) : Exponent (e ++ digits) := by
  obtain @⟨x, sign, first, letter, signed, some, all⟩ := exponent
  rw [List.cons_append, List.append_assoc]
  refine .mk letter signed (by simp [some]) fun c member => ?_
  exact (List.mem_append.mp member).elim (all c) (more c)

/-- An exponent in front is seen in full if no digit follows it. -/
theorem exponentWidth_append {e rest : List Char} (exponent : Exponent e)
    (halts : Halts Char.isDigit rest) : exponentWidth (e ++ rest) = e.length := by
  obtain @⟨x, sign, digits, letter, signed, some, all⟩ := exponent
  have taken := takeWhile_append_of_halts all halts
  obtain ⟨d, ds, rfl⟩ := List.exists_cons_of_ne_nil some
  have digit : d.isDigit := all d List.mem_cons_self
  have unsigned : d ≠ '+' ∧ d ≠ '-' := by
    constructor <;> rintro rfl <;> cases digit
  simp only [List.mem_cons, List.not_mem_nil, or_false] at signed
  rw [List.cons_append] at taken
  rcases signed with rfl | rfl | rfl <;> simp [exponentWidth, letter, unsigned, taken]
  all_goals omega

/-- The lexer sees no exponent just where none is written. -/
theorem exponentWidth_eq_zero_iff {cs : List Char} :
    exponentWidth cs = 0 ↔ ∀ e, e <+: cs → ¬ Exponent e := by
  constructor
  · rintro absent e ⟨after, rfl⟩ exponent
    obtain ⟨digits, rest, rfl, all, halts⟩ := exists_run Char.isDigit after
    have longer := exponent.append all
    rw [← List.append_assoc, exponentWidth_append longer halts] at absent
    rw [List.length_eq_zero_iff.mp absent] at longer
    cases longer
  · intro absent
    refine Nat.eq_zero_of_not_pos fun present => ?_
    obtain ⟨e, rest, rfl, -, exponent, -⟩ := exists_exponent present
    exact absent e (List.prefix_append e rest) exponent

/-! ### Numbers -/

theorem startsNumber_append {afterOperand : Bool} {c : Char} {cs : List Char}
    (starts : startsNumber afterOperand c cs) (rest : List Char) :
    startsNumber afterOperand c (cs ++ rest) := by
  cases cs with
  | nil => simp_all [startsNumber]
  | cons d cs => exact starts

/-- What starts a number does so without the characters behind it. -/
theorem startsNumber_of_append {afterOperand : Bool} {c : Char} {cs rest : List Char}
    (starts : startsNumber afterOperand c (cs ++ rest)) (halts : Halts Char.isDigit rest) :
    startsNumber afterOperand c cs := by
  cases cs with
  | nil =>
    rw [List.nil_append] at starts
    simpa [startsNumber, show rest.head?.any Char.isDigit = false from halts] using starts
  | cons d cs => exact starts

theorem inMantissa_of_startsNumber {afterOperand : Bool} {c : Char} {cs : List Char}
    (starts : startsNumber afterOperand c cs) : inMantissa c := by
  simp only [startsNumber, Bool.or_eq_true, Bool.and_eq_true] at starts
  rw [inMantissa, Bool.or_eq_true]
  exact starts.imp_right (·.1.1)

theorem Halts.of_inMantissa {rest : List Char} (halts : Halts inMantissa rest) :
    Halts Char.isDigit rest := by
  cases rest with
  | nil => rfl
  | cons c rest => exact halts_cons.mpr (isDigit_of_inMantissa (halts_cons.mp halts))

/-- An exponent ends the mantissa before it. -/
theorem Exponent.halts {e : List Char} (exponent : Exponent e) (rest : List Char) :
    Halts inMantissa (e ++ rest) := by
  obtain ⟨letter, -, -, -⟩ := exponent
  rcases letter with rfl | rfl <;> exact halts_cons.mpr rfl

/-- The characters of a number are its mantissa and its exponent. -/
theorem numberLexeme_eq {c : Char} {cs exponent rest : List Char}
    (all : ∀ x ∈ c :: cs, inMantissa x) (halts : Halts inMantissa (exponent ++ rest))
    (width : exponentWidth (exponent ++ rest) = exponent.length) :
    numberLexeme (c :: (cs ++ (exponent ++ rest))) =
      match Binary32.ofChars? (c :: cs ++ exponent) with
      | some value => .ok (.number value, cs.length + exponent.length)
      | none => .error (.invalidNumber (String.ofList (c :: cs ++ exponent))) := by
  have mantissa : (c :: (cs ++ (exponent ++ rest))).takeWhile (fun c => c.isDigit || c == '.') =
      c :: cs := takeWhile_append_of_halts all halts
  have after : (c :: (cs ++ (exponent ++ rest))).drop (c :: cs).length = exponent ++ rest :=
    List.drop_left
  have text : (c :: (cs ++ (exponent ++ rest))).take ((c :: cs).length + exponent.length) =
      c :: cs ++ exponent := by
    rw [← List.length_append, ← List.append_assoc, ← List.cons_append]
    exact List.take_left
  have count : (c :: cs).length + exponent.length - 1 = cs.length + exponent.length := by
    rw [List.length_cons]
    omega
  cases value : Binary32.ofChars? (c :: cs ++ exponent) <;>
    simp only [numberLexeme, mantissa, after, width, text, count, value]

/-- Characters that are read as a number are a lexeme for it. -/
theorem lexes_of_numberLexeme {afterOperand : Bool} {c : Char} {cs : List Char} {token : Token}
    {more : Nat} (starts : startsNumber afterOperand c cs)
    (read : numberLexeme (c :: cs) = .ok (token, more)) :
    ∃ tail rest, cs = tail ++ rest ∧ tail.length = more ∧
      Lexes afterOperand rest (c :: tail) token := by
  obtain ⟨digits, after, rfl, digital, halts⟩ := exists_run inMantissa cs
  have all : ∀ x ∈ c :: digits, inMantissa x :=
    List.forall_mem_cons.mpr ⟨inMantissa_of_startsNumber starts, digital⟩
  replace starts := startsNumber_of_append starts halts.of_inMantissa
  by_cases absent : exponentWidth after = 0
  · rw [← List.nil_append after] at read halts absent
    rw [numberLexeme_eq all halts absent] at read
    split at read
    · rename_i value valid
      cases read
      rw [List.append_nil] at valid
      exact ⟨digits, after, rfl, rfl,
        .mantissa starts all halts (exponentWidth_eq_zero_iff.mp absent) valid⟩
    · cases read
  · obtain ⟨e, rest, rfl, width, exponent, stops⟩ := exists_exponent (Nat.pos_of_ne_zero absent)
    rw [numberLexeme_eq all halts width] at read
    split at read
    · rename_i value valid
      cases read
      exact ⟨digits ++ e, rest, by rw [List.append_assoc], List.length_append,
        .scientific starts all exponent stops valid⟩
    · cases read

/-! ### Texts -/

theorem quoted_quote (quote : Char) (cs content : List Char) (width : Nat) :
    quoted quote (quote :: cs) content width = some (content, width + 1) := by
  rw [quoted.eq_def]
  exact if_pos rfl

theorem quoted_escaped {quote : Char} (ordinary : quote ≠ '\\') (c : Char) (cs content : List Char)
    (width : Nat) : quoted quote ('\\' :: c :: cs) content width =
      quoted quote cs (unescaped c :: content) (width + 2) := by
  rw [quoted.eq_def]
  simp only [if_neg (Ne.symm ordinary), if_true, unescaped]

theorem quoted_plain {quote c : Char} (other : c ≠ quote) (noBackslash : c ≠ '\\')
    (cs content : List Char) (width : Nat) :
    quoted quote (c :: cs) content width = quoted quote cs (c :: content) (width + 1) := by
  rw [quoted.eq_def]
  simp only [if_neg other, if_neg noBackslash]

theorem quotes_of_quoted {quote : Char} {cs content found : List Char} {width more : Nat}
    (read : quoted quote cs content width = some (found, more)) :
    ∃ body rest plain, cs = body ++ quote :: rest ∧ Quotes quote body plain ∧
      found = plain.reverse ++ content ∧ more = width + (body.length + 1) := by
  fun_induction quoted quote cs content width with
  | case1 | case3 => cases read
  | case2 cs =>
    cases read
    exact ⟨[], cs, [], rfl, .nil, rfl, rfl⟩
  | case4 content width c cs _ ordinary ih =>
    obtain ⟨body, rest, plain, rfl, quotes, rfl, rfl⟩ := ih read
    refine ⟨'\\' :: c :: body, rest, unescaped c :: plain, rfl, .escaped quotes, ?_, ?_⟩
    · rw [List.reverse_cons, List.append_assoc]
      rfl
    · simp only [List.length_cons]
      omega
  | case5 c cs content width other noBackslash ih =>
    obtain ⟨body, rest, plain, rfl, quotes, rfl, rfl⟩ := ih read
    refine ⟨c :: body, rest, c :: plain, rfl, .plain other noBackslash quotes, ?_, ?_⟩
    · rw [List.reverse_cons, List.append_assoc]
      rfl
    · simp only [List.length_cons]
      omega

/-- A text between quotes is read. -/
theorem Quotes.quoted_eq {quote : Char} {body plain : List Char} (quotes : Quotes quote body plain)
    (ordinary : quote ≠ '\\') (rest content : List Char) (width : Nat) :
    quoted quote (body ++ quote :: rest) content width =
      some (plain.reverse ++ content, width + (body.length + 1)) := by
  induction quotes generalizing content width with
  | nil => exact quoted_quote quote rest content width
  | @plain c body plain other noBackslash _ ih =>
    rw [List.cons_append, quoted_plain other noBackslash, ih, List.reverse_cons, List.append_assoc,
      List.length_cons, Nat.add_assoc width 1, Nat.add_comm 1]
    rfl
  | @escaped c body plain _ ih =>
    rw [List.cons_append, List.cons_append, quoted_escaped ordinary, ih, List.reverse_cons,
      List.append_assoc, List.length_cons, List.length_cons, Nat.add_assoc width 2, Nat.add_comm 2]
    rfl

/-! ### Symbols -/

theorem halts_of_ne {c : Char} {cs : List Char} (other : ∀ rest, cs = c :: rest → False) :
    Halts (· == c) cs := by
  cases cs with
  | nil => rfl
  | cons d cs => exact halts_cons.mpr (by simpa using fun same => other cs (by rw [same]))

/-- A symbol of two characters goes before one of its first. -/
theorem exists_spelling {c : Char} {cs : List Char} {s : Symbol} {more : Nat}
    (read : symbol? c cs = some (s, more)) :
    ∃ tail rest, s.spelling = c :: tail ∧ cs = tail ++ rest ∧ tail.length = more ∧
      (s ∈ [.bang, .less, .greater] → Halts (· == '=') rest) := by
  unfold symbol? at read
  split at read
  case h_24 => cases read
  case h_21 alone | h_22 alone | h_23 alone =>
    cases read
    exact ⟨[], cs, rfl, rfl, rfl, fun _ => halts_of_ne alone⟩
  all_goals
    cases read
    exact ⟨_, _, rfl, rfl, rfl, by simp⟩

/-- A symbol is read where it is spelled, if the next character makes no longer one of it. -/
theorem symbol?_spelling {c : Char} {tail rest : List Char} {s : Symbol}
    (spelled : s.spelling = c :: tail)
    (alone : s ∈ [.bang, .less, .greater] → Halts (· == '=') rest) :
    symbol? c (tail ++ rest) = some (s, tail.length) := by
  cases s <;> cases spelled
  case bang | less | greater =>
    cases rest with
    | nil => rfl
    | cons d rest =>
      have other := halts_cons.mp (alone (by simp))
      simp at other
      simp [symbol?, other]
  all_goals rfl

/-! ### Tokens -/

/-- A quote starts no number, no name and no escape. -/
theorem IsQuote.apart {quote : Char} (h : IsQuote quote) :
    inMantissa quote = false ∧ startsName quote = false ∧ quote ≠ '\\' := by
  rcases h with rfl | rfl <;> decide

/-- No text starts with a symbol, and no name; a number does with a point. -/
theorem Symbol.apart {s : Symbol} {c : Char} {tail : List Char} (spelled : s.spelling = c :: tail) :
    startsName c = false ∧ ¬ IsQuote c ∧ (inMantissa c → s = .dot ∧ c = '.' ∧ tail = []) := by
  cases s <;> cases spelled <;> simp [IsQuote] <;> decide

/-- What the lexer takes are the characters that write the token there. -/
theorem lexes_of_lexeme {afterOperand : Bool} {c : Char} {cs : List Char} {token : Token}
    {more : Nat} (read : lexeme afterOperand c cs = .ok (token, more)) :
    ∃ tail rest, cs = tail ++ rest ∧ tail.length = more ∧
      Lexes afterOperand rest (c :: tail) token := by
  unfold lexeme at read
  split at read
  · rename_i number
    exact lexes_of_numberLexeme number read
  · rename_i number
    split at read
    · rename_i name
      obtain ⟨tail, rest, rfl, all, halts⟩ := exists_run continuesName cs
      simp only [takeWhile_append_of_halts all halts] at read
      cases read
      exact ⟨tail, rest, rfl, rfl, .name name all halts⟩
    · split at read
      · rename_i quote
        split at read
        · rename_i content width found
          cases read
          obtain ⟨body, rest, plain, rfl, quotes, rfl, rfl⟩ := quotes_of_quoted found
          rw [Bool.or_eq_true, decide_eq_true_eq, decide_eq_true_eq] at quote
          exact ⟨body ++ [c], rest, by simp, by simp, by simpa using .text quote quotes⟩
        · cases read
      · split at read
        · rename_i s more found
          cases read
          obtain ⟨tail, rest, spelled, rfl, rfl, alone⟩ := exists_spelling found
          refine ⟨tail, rest, rfl, rfl, ?_⟩
          rw [← spelled]
          -- A point is a symbol only where it starts no number.
          refine .symbol (fun point => ?_) alone
          subst point
          cases spelled
          cases afterOperand with
          | true => exact .inl rfl
          | false => exact .inr (by simpa [startsNumber, Halts] using number)
        · cases read

/-- A number is read where its characters stand. -/
theorem lexeme_of_number {afterOperand : Bool} {c : Char} {cs exponent rest : List Char}
    {value : Float32} (starts : startsNumber afterOperand c cs) (all : ∀ x ∈ c :: cs, inMantissa x)
    (halts : Halts inMantissa (exponent ++ rest))
    (width : exponentWidth (exponent ++ rest) = exponent.length)
    (valid : Binary32.ofChars? (c :: cs ++ exponent) = some value) :
    lexeme afterOperand c (cs ++ exponent ++ rest) =
      .ok (.number value, (cs ++ exponent).length) := by
  rw [List.append_assoc, lexeme, if_pos (startsNumber_append starts _),
    numberLexeme_eq all halts width, valid, List.length_append]

/-- A character with which no number starts. -/
theorem startsNumber_eq_false {c : Char} (apart : inMantissa c = false) (afterOperand : Bool)
    (cs : List Char) : startsNumber afterOperand c cs = false := by
  cases starts : startsNumber afterOperand c cs with
  | false => rfl
  | true =>
    rw [inMantissa_of_startsNumber starts] at apart
    cases apart

/-- Where the characters of a token are written, the lexer takes them. -/
theorem Lexes.lexeme_eq {afterOperand : Bool} {c : Char} {tail rest : List Char} {token : Token}
    (lexes : Lexes afterOperand rest (c :: tail) token) :
    lexeme afterOperand c (tail ++ rest) = .ok (token, tail.length) := by
  generalize whole : c :: tail = characters at lexes
  cases lexes with
  | @mantissa c cs value starts all halts noExponent valid =>
    cases whole
    -- A mantissa by itself is a number with an empty exponent.
    have width : exponentWidth ([] ++ rest) = 0 := exponentWidth_eq_zero_iff.mpr noExponent
    rw [← List.nil_append rest] at halts
    have read := lexeme_of_number starts all halts width (by rwa [List.append_nil])
    rwa [List.append_nil] at read
  | @scientific c cs exponent value starts all written halts valid =>
    cases whole
    have width := exponentWidth_append written halts
    exact lexeme_of_number starts all (written.halts rest) width valid
  | @name c cs starts more halts =>
    cases whole
    simp only [lexeme, startsNumber_eq_false (inMantissa_of_startsName starts), Bool.false_eq_true,
      if_false, if_pos starts, takeWhile_append_of_halts more halts]
  | @text quote body content isQuote quotes =>
    cases whole
    obtain ⟨number, name, ordinary⟩ := isQuote.apart
    have marks : (decide (c = '"') || decide (c = '\'')) = true := by
      simpa using (show c = '"' ∨ c = '\'' from isQuote)
    rw [List.append_assoc, List.singleton_append]
    simp only [lexeme, startsNumber_eq_false number, name, marks, Bool.false_eq_true, if_false,
      if_true, quotes.quoted_eq ordinary, List.append_nil, List.reverse_reverse, Nat.zero_add,
      List.length_append, List.length_singleton]
  | @symbol s point alone =>
    obtain ⟨name, noQuote, number⟩ := Symbol.apart whole.symm
    have found := symbol?_spelling whole.symm alone
    have number : startsNumber afterOperand c (tail ++ rest) = false := by
      cases digital : inMantissa c with
      | false => exact startsNumber_eq_false digital _ _
      | true =>
        obtain ⟨dot, rfl, rfl⟩ := number digital
        rcases point dot with after | halts
        · simp [startsNumber, after]
        · simpa [startsNumber, Halts] using fun _ => halts
    have marks : (decide (c = '"') || decide (c = '\'')) = false := by
      simpa [IsQuote] using noQuote
    simp only [lexeme, number, name, marks, found, Bool.false_eq_true, if_false]

end Playfield.Formula
