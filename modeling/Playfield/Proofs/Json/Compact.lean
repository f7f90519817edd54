import Mathlib.Data.List.TakeWhile
import Playfield.Json.Reader
import Playfield.Json.Writer

/-!
What is written without blanks is read back.

Items of lists and values of objects stand inside longer texts, so each rule is shown to read its
part off the front of a text, whatever comes after it. Behind a number alone something may not come:
a character that would continue its numeral.
-/

namespace Playfield.Json

/-! ### Texts -/

theorem hexValue?_hexDigit : ∀ n < 16, hexValue? (hexDigit n) = some n := by
  decide

/-- The four digits of a control character. -/
theorem hexValue₄?_control {n : Nat} (control : n < 0x20) :
    hexValue₄? '0' '0' (hexDigit (n / 16)) (hexDigit (n % 16)) = some n := by
  have zero : hexValue? '0' = some 0 := by decide
  simp only [hexValue₄?, zero, hexValue?_hexDigit (n / 16) (by omega),
    hexValue?_hexDigit (n % 16) (by omega), Option.bind_eq_bind, Option.bind_some,
    Option.pure_def, Option.some.injEq]
  omega

theorem textBody_backslash {c plain : Char} (rest found : List Char)
    (escaped : escaped? c = some plain) :
    textBody ('\\' :: c :: rest) none (some found) =
      textBody rest none (some (plain :: found)) := by
  rw [textBody.eq_5, escaped]
  · rfl
  · rintro _ _ _ _ _ rfl _
    simp [escaped?] at escaped

theorem textBody_plain {c : Char} (rest found : List Char) (quote : c ≠ '"')
    (backslash : c ≠ '\\') (printed : ¬ c.toNat < 0x20) :
    textBody (c :: rest) none (some found) = textBody rest none (some (c :: found)) := by
  rw [textBody.eq_6 _ _ _ _ (fun _ _ _ _ _ is _ => backslash is) (fun _ _ is _ => backslash is),
    if_neg quote, if_neg printed]
  rfl

/-- Whatever a character is written as, it is read as itself. -/
theorem textBody_escape (c : Char) (rest found : List Char) :
    textBody (escape c ++ rest) none (some found) = textBody rest none (some (c :: found)) := by
  fun_cases escape c with
  | case8 _ _ _ _ _ _ _ control =>
    have upper : isUpperHalf c.toNat = false := by simp [isUpperHalf]; omega
    have lower : isLowerHalf c.toNat = false := by simp [isLowerHalf]; omega
    simp [textBody, hexValue₄?_control control, upper, lower]
  | case9 quote backslash _ _ _ _ _ printed =>
    exact textBody_plain rest found quote backslash printed
  -- Seven characters have a letter of their own behind the backslash.
  | case1 is | case2 _ is | case3 _ _ is | case4 _ _ _ is | case5 _ _ _ _ is | case6 _ _ _ _ _ is
  | case7 _ _ _ _ _ _ is =>
    subst is
    exact textBody_backslash rest found (by decide)

/-- A text up to its closing quote is read back, whatever it escapes. -/
theorem textBody_quoted (content rest found : List Char) :
    textBody (content.flatMap escape ++ '"' :: rest) none (some found) =
      .ok (some (String.ofList (found.reverse ++ content)), rest) := by
  induction content generalizing found with
  | nil => simp [textBody, settled]
  | cons c cs ih =>
    rw [List.flatMap_cons, List.append_assoc, textBody_escape, ih]
    simp

theorem quotedText_quote (content : String) (rest : List Char) :
    quotedText (content.toList.flatMap escape ++ '"' :: rest) = .ok (some content, rest) := by
  simp [quotedText, textBody_quoted]

/-! ### Numbers -/

/-- Text that does not go on with a numeral before it. -/
def Stops (rest : List Char) : Prop :=
  ∀ c ∈ rest.head?, isNumberCharacter c = false

/-- The value of a numeral with its sign. -/
def signed : List Char → Except ReadFault Json
  | '-' :: body => unsigned true body
  | body => unsigned false body

/-- A number is read from its longest run of characters. -/
theorem number_eq_map (cs : List Char) :
    number cs = (signed (cs.takeWhile isNumberCharacter)).map
      fun value => (value, cs.dropWhile isNumberCharacter) := by
  have rest : cs.drop (cs.takeWhile isNumberCharacter).length = cs.dropWhile isNumberCharacter :=
    (congrArg (List.drop _) List.takeWhile_append_dropWhile.symm).trans List.drop_left
  unfold number
  dsimp only
  split
  · rename_i value found
    have read : signed (cs.takeWhile isNumberCharacter) = .ok value := found
    rw [read, rest]
    rfl
  · rename_i fault found
    have read : signed (cs.takeWhile isNumberCharacter) = .error fault := found
    rw [read]
    rfl

/-- Letters are all of a numeral, which stands for a value. -/
def Spells (letters : List Char) (value : Json) : Prop :=
  number letters = .ok (value, [])

/-- A number reads back from its numeral. -/
def ReadsBack (x : Float32) : Prop :=
  Spells (numeral x).toList (.real x)

instance : DecidablePred ReadsBack := fun x =>
  match read : number (numeral x).toList with
  | .ok (.real y, []) => decidable_of_iff (y = x) (by simp [ReadsBack, Spells, read])
  | .ok (.real _, _ :: _) => .isFalse (by simp [ReadsBack, Spells, read])
  | .ok (.null, _) | .ok (.bool _, _) | .ok (.int _, _) | .ok (.text _, _) | .ok (.list _, _)
  | .ok (.object _, _) | .ok (.unreadable, _) | .error _ =>
    .isFalse (by simp [ReadsBack, Spells, read])

namespace Spells

variable {letters rest : List Char} {value : Json}

theorem all_and_signed (spells : Spells letters value) :
    (∀ c ∈ letters, isNumberCharacter c) ∧ signed letters = .ok value := by
  rw [Spells, number_eq_map] at spells
  cases read : signed (letters.takeWhile isNumberCharacter) with
  | error fault => simp [read, Except.map] at spells
  | ok found =>
    simp only [read, Except.map, Except.ok.injEq, Prod.mk.injEq,
      List.dropWhile_eq_nil_iff] at spells
    obtain ⟨rfl, all⟩ := spells
    exact ⟨all, by rwa [List.takeWhile_eq_self_iff.mpr all] at read⟩

/-- What spells a number is read as it if none of its characters follows. -/
theorem number_append (spells : Spells letters value) (stops : Stops rest) :
    number (letters ++ rest) = .ok (value, rest) := by
  obtain ⟨all, read⟩ := spells.all_and_signed
  rw [number_eq_map, List.takeWhile_append_of_pos all, List.dropWhile_append_of_pos all]
  cases rest with
  | nil => simp [read, Except.map]
  | cons c rest =>
    have no : isNumberCharacter c = false := stops c rfl
    simp [no, read, Except.map]

/-- A numeral starts with a digit or with a sign. -/
theorem head (spells : Spells letters value) :
    ∃ c tail, letters = c :: tail ∧ (c.isDigit ∨ c = '-') := by
  obtain ⟨-, read⟩ := spells.all_and_signed
  cases letters with
  | nil => simp [signed, unsigned] at read
  | cons c tail =>
    refine ⟨c, tail, rfl, ?_⟩
    by_cases sign : c = '-'
    · exact .inr sign
    · have read : unsigned false (c :: tail) = .ok value := by
        rwa [signed] at read
        rintro body ⟨⟩
        exact sign rfl
      by_cases digit : c.isDigit
      · exact .inl digit
      · simp [unsigned, digit] at read

end Spells

/-! ### Counts -/

theorem le_ofDigitChars (n : Nat) (cs : List Char) : n ≤ Nat.ofDigitChars 10 cs n := by
  induction cs generalizing n with
  | nil => exact Nat.le_refl n
  | cons c cs ih => exact Nat.le_trans (by omega) (ih (10 * n + (c.toNat - '0'.toNat)))

/-- Nothing is left over of a number that 64 bits hold. -/
theorem appendDigits_eq (n : Nat) (cs : List Char)
    (fits : Nat.ofDigitChars 10 cs n < UInt64.size) :
    appendDigits n cs = (Nat.ofDigitChars 10 cs n, []) := by
  fun_induction appendDigits n cs with
  | case1 n => rfl
  | case2 n c cs longer _ ih => exact ih fits
  | case3 n c cs longer beyond =>
    exact absurd (Nat.lt_of_le_of_lt (le_ofDigitChars longer cs) fits) beyond

/-- Only zero is written with a zero in front. -/
theorem eq_zero_of_head_toDigits (n : Nat) (zero : (Nat.toDigits 10 n).head? = some '0') :
    n = 0 := by
  induction n using Nat.strongRecOn with
  | ind n ih =>
    by_cases small : n < 10
    · rw [Nat.toDigits_of_lt_base small] at zero
      have digit : 48 + n = '0'.toNat := by
        rw [← Nat.toNat_digitChar_of_lt_ten small]
        simpa using congrArg (Option.map Char.toNat) zero
      simpa using digit
    · obtain ⟨c, cs, higher⟩ : ∃ c cs, Nat.toDigits 10 (n / 10) = c :: cs :=
        List.exists_cons_of_ne_nil Nat.toDigits_ne_nil
      have := ih (n / 10) (by omega) (by
        simpa [Nat.toDigits_of_base_le (show 1 < 10 by decide) (show 10 ≤ n by omega), higher]
          using zero)
      omega

/-- A numeral without point and exponent, and without a needless zero in front. -/
theorem unsigned_digits {digits : List Char} (nonempty : digits ≠ [])
    (all : ∀ c ∈ digits, c.isDigit) (unpadded : digits.head? = some '0' → digits.length ≤ 1)
    (fits : Nat.ofDigitChars 10 digits 0 < UInt64.size) :
    unsigned false digits = .ok (.int (Nat.ofDigitChars 10 digits 0)) := by
  have whole : digits.takeWhile Char.isDigit = digits := List.takeWhile_eq_self_iff.mpr all
  have rest : digits.dropWhile Char.isDigit = [] := List.dropWhile_eq_nil_iff.mpr all
  have chars : Numeral.ofChars? digits = some ⟨digits, [], 0⟩ := by
    simp [Numeral.ofChars?, whole, rest, nonempty, Numeral.exponent?]
  have padded : (digits.head? == some '0' && decide (1 < digits.length)) = false := by
    simpa using unpadded
  simp [unsigned, whole, rest, nonempty, padded, chars, ofNumeral, integer?,
    appendDigits_eq 0 digits fits]

/-- A count below `2 ^ 64` is spelled by its digits. -/
theorem spells_toDigits {n : Nat} (fits : n < UInt64.size) :
    Spells (Nat.toDigits 10 n) (.int n) := by
  have digits : ∀ c ∈ Nat.toDigits 10 n, c.isDigit := fun c mem =>
    Nat.isDigit_of_mem_toDigits (by decide) (by decide) mem
  have all : ∀ c ∈ Nat.toDigits 10 n, isNumberCharacter c := fun c mem => by
    simp [isNumberCharacter, digits c mem]
  have value : Nat.ofDigitChars 10 (Nat.toDigits 10 n) 0 = n := Nat.ofDigitChars_ten_toDigits
  have read : signed (Nat.toDigits 10 n) = .ok (.int n) := by
    rw [signed]
    · rw [unsigned_digits Nat.toDigits_ne_nil digits _ (by rwa [value]), value]
      intro zero
      simp [eq_zero_of_head_toDigits n zero]
    · intro body sign
      exact absurd (digits '-' (by simp [sign])) (by decide)
  rw [Spells, number_eq_map, List.takeWhile_eq_self_iff.mpr all, List.dropWhile_eq_nil_iff.mpr all,
    read]
  rfl

/-! ### Values -/

/-- What is written in full: its numbers read back, and at most `room` lists and objects stand
inside each other. -/
inductive Writable : Nat → Json → Prop where
  | null {room} : Writable room .null
  | bool {room} (value : Bool) : Writable room (.bool value)
  | text {room} (content : String) : Writable room (.text content)
  | nat {room n} (fits : n < UInt64.size) : Writable room (ofNat n)
  | real {room x} (back : ReadsBack x) : Writable room (.real x)
  | list {room items} (each : ∀ item ∈ items, Writable room item) :
    Writable (room + 1) (.list items)
  | object {room pairs} (each : ∀ pair ∈ pairs, Writable room pair.2) :
    Writable (room + 1) (.object pairs)

/-- A rule reads a value off the front of every text below some length. -/
def ReadsOff (rule : ReadRule Json) (size : Nat) (j : Json) : Prop :=
  ∀ rest, Stops rest → (j.compact.toList ++ rest).length < size →
    rule (j.compact.toList ++ rest) = .ok (j, rest)

@[simp] theorem skipBlanks_cons {c : Char} (cs : List Char) (printed : isBlank c = false) :
    skipBlanks (c :: cs) = c :: cs := by
  simp [skipBlanks, printed]

theorem stops_cons {c : Char} (cs : List Char) (other : isNumberCharacter c = false) :
    Stops (c :: cs) := by
  simpa [Stops] using other

theorem toList_ofNat (n : Nat) : (ofNat n).compact.toList = Nat.toDigits 10 n := by
  have digits : (ofNat n).compact = n.repr := by simp [ofNat, compact]; rfl
  rw [digits, Nat.toList_repr]

theorem readableItems_iff (items : List Json) :
    readableItems items ↔ ∀ item ∈ items, item.readable := by
  induction items with
  | nil => simp [readableItems]
  | cons first rest ih => simp [readableItems, ih]

theorem readablePairs_iff (pairs : List (String × Json)) :
    readablePairs pairs ↔ ∀ pair ∈ pairs, pair.2.readable := by
  induction pairs with
  | nil => simp [readablePairs]
  | cons first rest ih => simp [readablePairs, ih]

section Number

variable {c d : Char} (start : c.isDigit ∨ c = '-')

include start

theorem ne_of_start (other : (d.isDigit || d == '-') = false) : c ≠ d := by
  rintro rfl
  simp_all

theorem isBlank_of_start : isBlank c = false := by
  simp [isBlank, ne_of_start start (d := ' ') rfl, ne_of_start start (d := '\n') rfl,
    ne_of_start start (d := '\t') rfl, ne_of_start start (d := '\r') rfl]

theorem valueOver_of_start (item : ReadRule Json) (room : Bool) (cs : List Char) :
    valueOver item room (c :: cs) = number (c :: cs) := by
  rw [valueOver, if_pos (by simpa using start)]
  all_goals exact ne_of_start start rfl

end Number

namespace Writable

variable {room : Nat} {j : Json}

/-- The text of a value starts with no blank, and not like the end of a list. -/
theorem head (w : Writable room j) :
    ∃ c tail, j.compact.toList = c :: tail ∧ isBlank c = false ∧ c ≠ ']' := by
  cases w with
  | null => exact ⟨'n', _, rfl, rfl, by decide⟩
  | bool value => cases value <;> exact ⟨_, _, rfl, rfl, by decide⟩
  | text content => exact ⟨'"', _, by simp [compact, quote]; rfl, rfl, by decide⟩
  | nat fits =>
    obtain ⟨c, tail, starts, start⟩ := (spells_toDigits fits).head
    exact ⟨c, tail, by rw [toList_ofNat, starts], isBlank_of_start start, ne_of_start start rfl⟩
  | real back =>
    obtain ⟨c, tail, starts, start⟩ := back.head
    exact ⟨c, tail, by rw [compact, starts], isBlank_of_start start, ne_of_start start rfl⟩
  | list => exact ⟨'[', _, by simp [compact]; rfl, rfl, by decide⟩
  | object => exact ⟨'\x7b', _, by simp [compact]; rfl, rfl, by decide⟩

theorem readable (w : Writable room j) : j.readable := by
  induction w with
  | list _ ih => simpa [Json.readable, readableItems_iff] using ih
  | object _ ih => simpa [Json.readable, readablePairs_iff] using ih
  | _ => rfl

theorem skipBlanks_compact (w : Writable room j) (rest : List Char) :
    skipBlanks (j.compact.toList ++ rest) = j.compact.toList ++ rest := by
  obtain ⟨c, tail, starts, printed, -⟩ := w.head
  rw [starts, List.cons_append, skipBlanks_cons _ printed]

end Writable

/-! ### Lists and objects -/

theorem length_le_compactItems :
    ∀ items : List Json, items.length ≤ (compactItems items).toList.length + 1
  | [] | [_] => by simp
  | first :: next :: rest => by
    have := length_le_compactItems (next :: rest)
    simp [compactItems] at this ⊢
    omega

theorem length_le_compactPairs :
    ∀ pairs : List (String × Json), pairs.length ≤ (compactPairs pairs).toList.length + 1
  | [] | [_] => by simp
  | first :: next :: rest => by
    have := length_le_compactPairs (next :: rest)
    simp [compactPairs] at this ⊢
    omega

section Items

variable {item : ReadRule Json} {size room : Nat}

/-- The items of a list, up to the bracket behind the last. -/
theorem itemsBody_compact (first : Json) (more found : List Json) (rest : List Char) (n : Nat)
    (each : ∀ j ∈ first :: more, Writable room j ∧ ReadsOff item size j)
    (many : more.length ≤ n)
    (short : ((compactItems (first :: more)).toList ++ ']' :: rest).length < size) :
    itemsBody item (n + 1) found ((compactItems (first :: more)).toList ++ ']' :: rest) =
      .ok (found.reverse ++ first :: more, rest) := by
  obtain ⟨written, reads⟩ := each first (by simp)
  induction more generalizing first found n with
  | nil =>
    simp only [compactItems] at short ⊢
    simp [itemsBody, written.skipBlanks_compact, reads _ (stops_cons rest (c := ']') rfl) short,
      skipBlanks_cons rest (c := ']') rfl]
  | cons next more ih =>
    have text : (compactItems (first :: next :: more)).toList ++ ']' :: rest =
        first.compact.toList ++ ',' :: ((compactItems (next :: more)).toList ++ ']' :: rest) := by
      simp [compactItems]
    obtain ⟨nextWritten, nextReads⟩ := each next (by simp)
    rw [text] at short ⊢
    rw [itemsBody, written.skipBlanks_compact, reads _ (stops_cons _ rfl) short]
    simp only [skipBlanks_cons _ (show isBlank ',' = false from rfl)]
    cases n with
    | zero => simp at many
    | succ n =>
      rw [ih next (first :: found) n (fun j mem => each j (by simp [mem])) (by simpa using many)
        (by simp at short ⊢; omega) nextWritten nextReads]
      simp

/-- A written pair is read off. -/
theorem member_compact (name : String) (j : Json) (rest : List Char) (written : Writable room j)
    (reads : ReadsOff item size j) (stops : Stops rest)
    (short : (j.compact.toList ++ rest).length < size) :
    member item ((quote name ++ ":" ++ j.compact).toList ++ rest) = .ok (some (name, j), rest) := by
  have text : (quote name ++ ":" ++ j.compact).toList ++ rest =
      '"' :: (name.toList.flatMap escape ++ '"' :: ':' :: (j.compact.toList ++ rest)) := by
    simp [quote]
  rw [text, member, skipBlanks_cons _ rfl]
  simp only [quotedText_quote, skipBlanks_cons _ (show isBlank ':' = false from rfl),
    written.skipBlanks_compact, reads rest stops short]
  rfl

/-- The pairs of an object, up to the brace behind the last. -/
theorem pairsBody_compact (first : String × Json) (more found : List (String × Json))
    (rest : List Char) (n : Nat)
    (each : ∀ pair ∈ first :: more, Writable room pair.2 ∧ ReadsOff item size pair.2)
    (many : more.length ≤ n)
    (short : ((compactPairs (first :: more)).toList ++ '\x7d' :: rest).length < size) :
    pairsBody item (n + 1) (some found)
        ((compactPairs (first :: more)).toList ++ '\x7d' :: rest) =
      .ok (some (found.reverse ++ first :: more), rest) := by
  obtain ⟨written, reads⟩ := each first (by simp)
  induction more generalizing first found n with
  | nil =>
    simp only [compactPairs] at short ⊢
    rw [pairsBody, member_compact first.1 first.2 _ written reads (stops_cons rest rfl)
      (by simp at short ⊢; omega)]
    simp [skipBlanks_cons rest (c := '\x7d') rfl]
  | cons next more ih =>
    -- The first pair, a comma, and a shorter text of the same form.
    have text : (compactPairs (first :: next :: more)).toList ++ '\x7d' :: rest =
        (quote first.1 ++ ":" ++ first.2.compact).toList ++
          ',' :: ((compactPairs (next :: more)).toList ++ '\x7d' :: rest) := by
      simp [compactPairs]
    obtain ⟨nextWritten, nextReads⟩ := each next (by simp)
    rw [text] at short ⊢
    rw [pairsBody, member_compact first.1 first.2 _ written reads (stops_cons _ rfl)
      (by simp at short ⊢; omega)]
    simp only [skipBlanks_cons _ (show isBlank ',' = false from rfl), Option.bind_some,
      Option.map_some]
    cases n with
    | zero => simp at many
    | succ n =>
      rw [ih next (first :: found) n (fun j mem => each j (by simp [mem])) (by simpa using many)
        (by simp at short ⊢; omega) nextWritten nextReads]
      simp

/-- Written items are read off, up to the closing bracket. -/
theorem listBody_compact (items : List Json) (rest : List Char)
    (each : ∀ j ∈ items, Writable room j ∧ ReadsOff item size j)
    (short : ((compactItems items).toList ++ ']' :: rest).length < size) :
    listBody item ((compactItems items).toList ++ ']' :: rest) = .ok (.list items, rest) := by
  cases items with
  | nil => simp [listBody, compactItems, skipBlanks_cons rest (c := ']') rfl]
  | cons first more =>
    have many := length_le_compactItems (first :: more)
    have body := itemsBody_compact first more [] rest
      ((compactItems (first :: more)).toList ++ ']' :: rest).length each
      (by simp at many ⊢; omega) short
    obtain ⟨c, tail, starts, printed, other⟩ := (each first (by simp)).1.head
    obtain ⟨after, text⟩ :
        ∃ after, (compactItems (first :: more)).toList ++ ']' :: rest = c :: after := by
      cases more <;> simp [compactItems, starts]
    rw [text] at body ⊢
    rw [listBody, skipBlanks_cons _ printed]
    split
    · simp_all
    · simp only [body, List.reverse_nil, List.nil_append]

/-- Written pairs are read off, up to the closing brace. -/
theorem objectBody_compact (pairs : List (String × Json)) (rest : List Char)
    (each : ∀ pair ∈ pairs, Writable room pair.2 ∧ ReadsOff item size pair.2)
    (short : ((compactPairs pairs).toList ++ '\x7d' :: rest).length < size) :
    objectBody item ((compactPairs pairs).toList ++ '\x7d' :: rest) =
      .ok (.object pairs, rest) := by
  cases pairs with
  | nil => simp [objectBody, compactPairs, skipBlanks_cons rest (c := '\x7d') rfl]
  | cons first more =>
    have many := length_le_compactPairs (first :: more)
    have body := pairsBody_compact first more [] rest
      ((compactPairs (first :: more)).toList ++ '\x7d' :: rest).length each
      (by simp at many ⊢; omega) short
    obtain ⟨after, text⟩ :
        ∃ after, (compactPairs (first :: more)).toList ++ '\x7d' :: rest = '"' :: after := by
      cases more <;> simp [compactPairs, quote]
    rw [text] at body ⊢
    rw [objectBody, skipBlanks_cons _ rfl]
    split
    · simp_all
    · simp only [body, List.reverse_nil, List.nil_append]

end Items

/-- One level of a value. -/
theorem readsOff_value {j : Json} {size depth : Nat}
    (reads : ∀ size, ReadsOff (valueOver (value size (depth - 1)) (0 < depth)) (size + 1) j) :
    ReadsOff (value size depth) size j := by
  intro rest stops short
  cases size with
  | zero => contradiction
  | succ size => exact reads size rest stops short

/-- A written number is read off. -/
theorem Spells.readsOff {j : Json} (spells : Spells j.compact.toList j) (item : ReadRule Json)
    (room : Bool) (size : Nat) : ReadsOff (valueOver item room) size j := by
  intro rest stops _
  obtain ⟨c, tail, starts, start⟩ := spells.head
  have read := spells.number_append stops
  rw [starts] at read ⊢
  exact (valueOver_of_start start item room _).trans read

/-- A written value is read off by a reader that has enough room for it. -/
theorem Writable.readsOff {j : Json} {room : Nat} (w : Writable room j) {size depth : Nat}
    (fits : room ≤ depth) : ReadsOff (value size depth) size j := by
  -- Each level takes one from the depth that is left and at least one from the length of the text.
  induction w generalizing size depth with
  | null => exact readsOff_value fun _ _ _ _ => rfl
  | bool value => cases value <;> exact readsOff_value fun _ _ _ _ => rfl
  | text content =>
    refine readsOff_value fun size rest _ _ => ?_
    have text : (Json.text content).compact.toList ++ rest =
        '"' :: (content.toList.flatMap escape ++ '"' :: rest) := by
      simp [compact, quote]
    simp [text, valueOver, quotedText_quote]
  | @nat _ n bound =>
    have spells : Spells (ofNat n).compact.toList (ofNat n) :=
      toList_ofNat n ▸ spells_toDigits bound
    exact readsOff_value fun size => spells.readsOff _ _ _
  | @real _ x back =>
    have spells : Spells (Json.real x).compact.toList (.real x) := back
    exact readsOff_value fun size => spells.readsOff _ _ _
  | @list _ items each ih =>
    refine readsOff_value fun size rest _ short => ?_
    have text : (Json.list items).compact.toList ++ rest =
        '[' :: ((compactItems items).toList ++ ']' :: rest) := by
      simp [compact]
    rw [text] at short ⊢
    rw [valueOver, if_pos (by simpa using (by omega : 0 < depth))]
    exact listBody_compact items rest (fun j mem => ⟨each j mem, ih j mem (by omega)⟩)
      (by simpa using short)
  | @object _ pairs each ih =>
    refine readsOff_value fun size rest _ short => ?_
    have text : (Json.object pairs).compact.toList ++ rest =
        '\x7b' :: ((compactPairs pairs).toList ++ '\x7d' :: rest) := by
      simp [compact]
    rw [text] at short ⊢
    rw [valueOver, if_pos (by simpa using (by omega : 0 < depth))]
    exact objectBody_compact pairs rest (fun pair mem => ⟨each pair mem, ih pair mem (by omega)⟩)
      (by simpa using short)

/-- A value that is written in full is read back from its text. -/
theorem Writable.ofText_compact {j : Json} {room : Nat} (w : Writable room j)
    (fits : room ≤ maxDepth) : ofText j.compact = .ok j := by
  have read := w.readsOff fits [] (by simp [Stops]) (Nat.lt_succ_self _)
  have blanks := w.skipBlanks_compact []
  rw [List.append_nil] at read blanks
  simp only [ofText, blanks, ← Nat.succ_eq_add_one, read]
  rfl

end Playfield.Json
