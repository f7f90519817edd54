import Playfield.Formula.Lexer

/-!
How tokens are written.

`Spells` says which characters write a token. `Lexes` says in addition what may follow them, so that
no more of the text belongs to the token. All that matters of what follows are the characters up to
the next white space, and a token that ends before them ends before fewer of them
(`Lexes.of_ahead`).
-/

namespace Playfield.Formula

/-! ### Classes of characters -/

/-- The characters do not begin with one of a class. -/
def Halts (class? : Char → Bool) (rest : List Char) : Prop :=
  rest.head?.any class? = false

@[simp]
theorem halts_nil (class? : Char → Bool) : Halts class? [] := rfl

@[simp]
theorem halts_cons {class? : Char → Bool} {c : Char} {rest : List Char} :
    Halts class? (c :: rest) ↔ class? c = false := by
  simp [Halts]

/-- The longest run of a class is taken where no other of its characters follows. -/
theorem takeWhile_append_of_halts {class? : Char → Bool} {cs rest : List Char}
    (all : ∀ c ∈ cs, class? c) (halts : Halts class? rest) :
    (cs ++ rest).takeWhile class? = cs := by
  rw [List.takeWhile_append_of_pos all]
  cases rest with
  | nil => simp
  | cons c rest => simp [halts_cons.mp halts]

/-- Any text is a run of one class and what does not go on with it. -/
theorem exists_run (class? : Char → Bool) (cs : List Char) :
    ∃ run rest, cs = run ++ rest ∧ (∀ c ∈ run, class? c) ∧ Halts class? rest := by
  refine ⟨cs.takeWhile class?, cs.dropWhile class?, List.takeWhile_append_dropWhile.symm,
    List.all_eq_true.mp List.all_takeWhile, ?_⟩
  have first := List.head?_dropWhile_not class? cs
  unfold Halts
  cases left : (cs.dropWhile class?).head? with
  | none => rfl
  | some c => simpa [left] using first

/-- A digit or a point. -/
def inMantissa (c : Char) : Bool :=
  c.isDigit || c == '.'

/-- The white space of the Unicode standard. -/
def blanks : List Char :=
  [' ', '\t', '\n', '\x0b', '\x0c', '\x0d', '\x85', '\u00a0', '\u1680', '\u2000', '\u2001',
    '\u2002', '\u2003', '\u2004', '\u2005', '\u2006', '\u2007', '\u2008', '\u2009', '\u200a',
    '\u2028', '\u2029', '\u202f', '\u205f', '\u3000']

/-- Every blank character is listed. -/
theorem mem_blanks {c : Char} (blank : Text.isBlank c) : c ∈ blanks := by
  have code : c.toNat ∈ blanks.map Char.toNat := by
    simp only [Text.isBlank, Bool.or_eq_true, Bool.and_eq_true, beq_iff_eq, decide_eq_true_eq]
      at blank
    simp only [blanks, List.map_cons, List.map_nil, List.mem_cons, List.not_mem_nil, or_false,
      Char.reduceToNat]
    omega
  obtain ⟨b, member, same⟩ := List.mem_map.mp code
  rwa [← Char.toNat_inj.mp same]

/-- Where a class holds no white space, its characters are none. -/
theorem not_isBlank {class? : Char → Bool} (apart : ∀ b ∈ blanks, class? b = false) {c : Char}
    (member : class? c) : Text.isBlank c = false := by
  cases blank : Text.isBlank c with
  | false => rfl
  | true =>
    rw [apart c (mem_blanks blank)] at member
    cases member

/-- A class that has no listed blank has no blank at all. -/
theorem forall_blanks {class? : Char → Bool} (apart : blanks.all (!class? ·)) :
    ∀ b ∈ blanks, class? b = false := by
  simpa using apart

theorem inMantissa_blanks : ∀ b ∈ blanks, inMantissa b = false :=
  forall_blanks (by decide)

theorem isDigit_blanks : ∀ b ∈ blanks, b.isDigit = false :=
  forall_blanks (by decide)

theorem continuesName_blanks : ∀ b ∈ blanks, continuesName b = false :=
  forall_blanks (by decide +kernel)

theorem isDigit_of_inMantissa {c : Char} (h : inMantissa c = false) : c.isDigit = false :=
  (Bool.or_eq_false_iff.mp h).1

/-- No name starts with a character of a number. -/
theorem startsName_of_inMantissa {c : Char} (h : inMantissa c) : startsName c = false := by
  have each : ∀ n ∈ List.range' 48 10, startsName (Char.ofNat n) = false := by decide
  rw [inMantissa, Bool.or_eq_true, beq_iff_eq] at h
  rcases h with digit | rfl
  · obtain ⟨low, high⟩ := Char.isDigit_iff_toNat.mp digit
    rw [← Char.ofNat_toNat c]
    exact each c.toNat (List.mem_range'_1.mpr ⟨low, Nat.lt_succ_of_le high⟩)
  · rfl

theorem inMantissa_of_startsName {c : Char} (h : startsName c) : inMantissa c = false := by
  cases number : inMantissa c with
  | false => rfl
  | true =>
    rw [startsName_of_inMantissa number] at h
    cases h

/-- What starts a name may also continue it. -/
theorem continuesName_of_startsName {c : Char} (h : startsName c) : continuesName c := by
  simp only [startsName, Bool.or_eq_true] at h
  rcases h with (letter | underscore) | dollar
  · simp [continuesName, letter]
  · simp [continuesName, underscore]
  · simp [continuesName, dollar]

/-! ### Lexemes -/

/-- How a symbol is written. -/
def Symbol.spelling : Symbol → List Char
  | .plus => ['+']
  | .minus => ['-']
  | .star => ['*']
  | .slash => ['/']
  | .percent => ['%']
  | .caret => ['^']
  | .leftParen => ['(']
  | .rightParen => [')']
  | .leftBracket => ['[']
  | .rightBracket => [']']
  | .comma => [',']
  | .dot => ['.']
  | .question => ['?']
  | .colon => [':']
  | .bang => ['!']
  | .equal => ['=', '=']
  | .notEqual => ['!', '=']
  | .less => ['<']
  | .lessEqual => ['<', '=']
  | .greater => ['>']
  | .greaterEqual => ['>', '=']
  | .both => ['&', '&']
  | .either => ['|', '|']

/-- A character with which a text begins and ends. -/
def IsQuote (c : Char) : Prop :=
  c = '"' ∨ c = '\''

/-- What a character stands for after a backslash. -/
def unescaped (c : Char) : Char :=
  if c = 'n' then '\n' else if c = 't' then '\t' else c

/-- The characters between two quotes, and the text that they stand for. -/
inductive Quotes (quote : Char) : List Char → List Char → Prop where
  | nil : Quotes quote [] []
  | plain {c body content} : c ≠ quote → c ≠ '\\' → Quotes quote body content →
      Quotes quote (c :: body) (c :: content)
  | escaped {c body content} : Quotes quote body content →
      Quotes quote ('\\' :: c :: body) (unescaped c :: content)

/-- The exponent of a number: a letter `e`, an optional sign and digits. -/
inductive Exponent : List Char → Prop where
  | mk {e sign digits} : (e = 'e' ∨ e = 'E') → sign ∈ [[], ['+'], ['-']] → digits ≠ [] →
      (∀ c ∈ digits, c.isDigit) → Exponent (e :: (sign ++ digits))

/-- The characters with which a token is written. -/
inductive Spells : List Char → Token → Prop where
  | number {mantissa exponent value} : mantissa ≠ [] → (∀ c ∈ mantissa, inMantissa c) →
      (exponent = [] ∨ Exponent exponent) →
      Binary32.ofChars? (mantissa ++ exponent) = some value →
      Spells (mantissa ++ exponent) (.number value)
  | name {c cs} : startsName c → (∀ x ∈ cs, continuesName x) →
      Spells (c :: cs) (.name (String.ofList (c :: cs)))
  | text {quote body content} : IsQuote quote → Quotes quote body content →
      Spells (quote :: (body ++ [quote])) (.text (String.ofList content))
  | symbol (s : Symbol) : Spells s.spelling (.symbol s)

/-- A token is written with some characters, and the first is no white space. -/
theorem Spells.visible {lexeme : List Char} {token : Token} (h : Spells lexeme token) :
    ∃ c cs, lexeme = c :: cs ∧ Text.isBlank c = false := by
  cases h with
  | @number mantissa exponent _ some all _ _ =>
    obtain ⟨c, cs, rfl⟩ := List.exists_cons_of_ne_nil some
    exact ⟨c, cs ++ exponent, rfl, not_isBlank inMantissa_blanks (all c List.mem_cons_self)⟩
  | @name c cs starts _ =>
    exact ⟨c, cs, rfl, not_isBlank continuesName_blanks (continuesName_of_startsName starts)⟩
  | @text quote body _ isQuote _ =>
    exact ⟨quote, body ++ [quote], rfl, by rcases isQuote with rfl | rfl <;> rfl⟩
  | symbol s => cases s <;> exact ⟨_, _, rfl, rfl⟩

/-- The characters with which a token is written where `rest` follows, after a token that ends an
operand or not. -/
inductive Lexes (afterOperand : Bool) (rest : List Char) : List Char → Token → Prop where
  | mantissa {c cs value} : startsNumber afterOperand c cs → (∀ x ∈ c :: cs, inMantissa x) →
      Halts inMantissa rest → (∀ e, e <+: rest → ¬ Exponent e) →
      Binary32.ofChars? (c :: cs) = some value → Lexes afterOperand rest (c :: cs) (.number value)
  | scientific {c cs exponent value} : startsNumber afterOperand c cs →
      (∀ x ∈ c :: cs, inMantissa x) → Exponent exponent → Halts Char.isDigit rest →
      Binary32.ofChars? (c :: cs ++ exponent) = some value →
      Lexes afterOperand rest (c :: cs ++ exponent) (.number value)
  | name {c cs} : startsName c → (∀ x ∈ cs, continuesName x) → Halts continuesName rest →
      Lexes afterOperand rest (c :: cs) (.name (String.ofList (c :: cs)))
  | text {quote body content} : IsQuote quote → Quotes quote body content →
      Lexes afterOperand rest (quote :: (body ++ [quote])) (.text (String.ofList content))
  | symbol {s : Symbol} : (s = .dot → afterOperand ∨ Halts Char.isDigit rest) →
      (s ∈ [.bang, .less, .greater] → Halts (· == '=') rest) →
      Lexes afterOperand rest s.spelling (.symbol s)

/-- Characters that are read as a token spell it. -/
theorem Lexes.spells {afterOperand : Bool} {lexeme rest : List Char} {token : Token}
    (h : Lexes afterOperand rest lexeme token) : Spells lexeme token := by
  cases h with
  | @mantissa c cs _ _ all _ _ value =>
    have spelled : Spells (c :: cs ++ []) _ :=
      .number (List.cons_ne_nil c cs) all (.inl rfl) (by rwa [List.append_nil])
    rwa [List.append_nil] at spelled
  | scientific _ all exponent _ value =>
    exact .number (List.cons_ne_nil _ _) all (.inr exponent) value
  | name starts more _ => exact .name starts more
  | text quote body => exact .text quote body
  | symbol _ _ => exact .symbol _

/-! ### What follows -/

/-- The characters up to the next white space. -/
def ahead (cs : List Char) : List Char :=
  cs.takeWhile fun c => !Text.isBlank c

theorem ahead_isPrefix (cs : List Char) : ahead cs <+: cs :=
  List.takeWhile_prefix _

/-- Visible characters that come first are seen ahead. -/
theorem isPrefix_ahead {cs rest : List Char} (visible : ∀ c ∈ cs, Text.isBlank c = false)
    (h : cs <+: rest) : cs <+: ahead rest := by
  obtain ⟨more, rfl⟩ := h
  rw [ahead, List.takeWhile_append_of_pos (by simpa using visible)]
  exact List.prefix_append _ _

/-- A class that halts where more can be seen halts where less can be. -/
theorem Halts.of_ahead {class? : Char → Bool} (apart : ∀ b ∈ blanks, class? b = false)
    {rest rest' : List Char} (halts : Halts class? rest) (fewer : ahead rest' <+: ahead rest) :
    Halts class? rest' := by
  cases rest' with
  | nil => rfl
  | cons c cs =>
    rw [halts_cons]
    cases member : class? c with
    | false => rfl
    | true =>
      have first : [c] <+: ahead (c :: cs) :=
        isPrefix_ahead (by simpa using not_isBlank apart member) ⟨cs, rfl⟩
      obtain ⟨more, rfl⟩ := (first.trans fewer).trans (ahead_isPrefix rest)
      rw [← member]
      exact halts_cons.mp halts

/-- There is no white space in an exponent. -/
theorem Exponent.visible {e : List Char} (h : Exponent e) : ∀ c ∈ e, Text.isBlank c = false := by
  obtain ⟨letter, signed, _, digits⟩ := h
  intro c member
  rcases List.mem_cons.mp member with rfl | member
  · rcases letter with rfl | rfl <;> rfl
  · rcases List.mem_append.mp member with inSign | inDigits
    · simp only [List.mem_cons, List.not_mem_nil, or_false] at signed
      rcases signed with rfl | rfl | rfl
      · simp at inSign
      · obtain rfl := List.mem_singleton.mp inSign
        rfl
      · obtain rfl := List.mem_singleton.mp inSign
        rfl
    · exact not_isBlank isDigit_blanks (digits c inDigits)

/-- A token is read as well where less follows up to the next white space. -/
theorem Lexes.of_ahead {afterOperand : Bool} {lexeme rest rest' : List Char} {token : Token}
    (h : Lexes afterOperand rest lexeme token) (fewer : ahead rest' <+: ahead rest) :
    Lexes afterOperand rest' lexeme token := by
  cases h with
  | mantissa starts all halts noExponent value =>
    refine .mantissa starts all (halts.of_ahead inMantissa_blanks fewer)
      (fun e first exponent => ?_) value
    have seen := (isPrefix_ahead exponent.visible first).trans (fewer.trans (ahead_isPrefix rest))
    exact noExponent e seen exponent
  | scientific starts all exponent halts value =>
    exact .scientific starts all exponent (halts.of_ahead isDigit_blanks fewer) value
  | name starts more halts =>
    exact .name starts more (halts.of_ahead continuesName_blanks fewer)
  | text quote body => exact .text quote body
  | symbol point alone =>
    exact .symbol (fun dot => (point dot).imp_right (·.of_ahead isDigit_blanks fewer))
      fun single => (alone single).of_ahead (forall_blanks (by decide)) fewer

end Playfield.Formula
