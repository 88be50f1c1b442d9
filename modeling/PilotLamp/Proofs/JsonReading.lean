import Mathlib.Data.Nat.Digits.Defs
import Mathlib.Tactic.SplitIfs
import PilotLamp.Proofs.JsonGrammar

/-!
# JSON texts are read as what they stand for

The reader takes every text of the grammar for its value, blanks and spellings included, and for
none if a number in it is too large for a float. What it makes of other texts is out of scope.
-/

namespace PilotLamp.JsonText

/-! ## Blanks -/

theorem skipBlanks_append (gap : Gap) (rest : List Char) :
    skipBlanks (gap.chars ++ rest) = skipBlanks rest :=
  List.dropWhile_append_of_pos gap.blank

theorem skipBlanks_cons {c : Char} (h : isBlank c = false) (rest : List Char) :
    skipBlanks (c :: rest) = c :: rest :=
  List.dropWhile_cons_of_neg (by simp [h])

theorem skipBlanks_append_cons (gap : Gap) {c : Char} (h : isBlank c = false) (rest : List Char) :
    skipBlanks (gap.chars ++ c :: rest) = c :: rest := by
  rw [skipBlanks_append, skipBlanks_cons h]

/-! ## Strings -/

/-- The four digits of a code unit are read whatever follows them. -/
theorem codeUnit?_append {text rest : List Char} {unit : Nat} {left : List Char}
    (h : codeUnit? text = some (unit, left)) :
    codeUnit? (text ++ rest) = some (unit, left ++ rest) := by
  rw [codeUnit?] at h ⊢
  split_ifs at h with hlength
  have hlong : 4 ≤ text.length := by
    rw [List.length_take] at hlength
    omega
  rw [List.take_append_of_le_length hlong, List.drop_append_of_le_length hlong, if_pos hlength]
  obtain ⟨value, hvalue, heq⟩ := Option.map_eq_some_iff.1 h
  rw [Prod.mk.injEq] at heq
  rw [hvalue, Option.map_some, heq.1, heq.2]

/-- So is an escape. -/
theorem unicodeEscape?_append {text rest left : List Char} {c : Char}
    (h : unicodeEscape? text = some (c, left)) :
    unicodeEscape? (text ++ rest) = some (c, left ++ rest) := by
  rw [unicodeEscape?] at h ⊢
  obtain ⟨⟨unit, after⟩, hunit, h⟩ := Option.bind_eq_some_iff.1 h
  rw [codeUnit?_append hunit]
  simp only [Option.bind_eq_bind, Option.bind_some] at h ⊢
  split_ifs at h ⊢ with hhigh
  · -- A high surrogate comes with a second escape.
    split at h
    next low =>
      obtain ⟨⟨second, last⟩, hsecond, h⟩ := Option.bind_eq_some_iff.1 h
      simp only [List.cons_append, codeUnit?_append hsecond, Option.bind_some]
      dsimp only at h
      split_ifs at h ⊢ with hlow
      obtain ⟨c', hc', heq⟩ := Option.bind_eq_some_iff.1 h
      rw [Option.some.injEq, Prod.mk.injEq] at heq
      rw [hc', Option.bind_some, heq.1, heq.2]
    next => simp at h
  · obtain ⟨c', hc', heq⟩ := Option.bind_eq_some_iff.1 h
    rw [Option.some.injEq, Prod.mk.injEq] at heq
    rw [hc', Option.bind_some, heq.1, heq.2]

/-- Every spelling of a character is read as that character. -/
theorem string?_text (c : StringChar) (fuel : Nat) (read rest : List Char) :
    string? (fuel + 1) read (c.text ++ rest) = string? fuel (c.char :: read) rest := by
  cases c with
  | itself c h =>
    rw [standsForItself] at h
    simp only [Bool.and_eq_true, bne_iff_ne, decide_eq_true_eq] at h
    obtain ⟨⟨hquote, hbackslash⟩, hcontrol⟩ := h
    rw [StringChar.text, StringChar.char, List.singleton_append, string?]
    · exact if_neg (Nat.not_lt.2 hcontrol)
    · exact hquote
    · exact fun _ heq => absurd heq hbackslash
    · exact fun _ _ heq => absurd heq hbackslash
  | letter mark c h =>
    have hmark : mark ≠ 'u' := by
      rintro rfl
      simp [letterEscape?] at h
    rw [StringChar.text, StringChar.char, List.cons_append, List.singleton_append, string?, h]
    · rfl
    · exact hmark
  | code escape c h =>
    rw [StringChar.text, StringChar.char, List.cons_append, List.cons_append, string?,
      unicodeEscape?_append h]
    rfl

/-- A string is read up to its closing quote. -/
theorem string?_quotedText (chars : List StringChar) {fuel : Nat} (hfuel : chars.length < fuel)
    (read rest : List Char) :
    string? fuel read (quotedText chars ++ rest)
      = some (String.ofList (read.reverse ++ chars.map StringChar.char), rest) := by
  induction chars generalizing fuel read with
  | nil =>
    obtain ⟨fuel, rfl⟩ := Nat.exists_eq_succ_of_ne_zero (by omega : fuel ≠ 0)
    rw [quotedText, List.flatMap_nil, List.nil_append, List.singleton_append, string?,
      List.map_nil, List.append_nil]
  | cons c chars ih =>
    obtain ⟨fuel, rfl⟩ := Nat.exists_eq_succ_of_ne_zero (by omega : fuel ≠ 0)
    have htext : quotedText (c :: chars) ++ rest = c.text ++ (quotedText chars ++ rest) := by
      rw [quotedText, quotedText, List.flatMap_cons, List.append_assoc, List.append_assoc,
        List.append_assoc]
    rw [htext, string?_text, ih (by simpa using hfuel)]
    simp

/-- A text is as many steps as reading a string that it starts with takes at most. -/
theorem length_lt_length_quotedText_append (chars : List StringChar) (rest : List Char) :
    chars.length < (quotedText chars ++ rest).length + 1 := by
  have hchar : ∀ c : StringChar, 1 ≤ c.text.length := by
    intro c
    cases c <;> simp [StringChar.text]
  have hchars : chars.length ≤ (chars.flatMap StringChar.text).length := by
    induction chars with
    | nil => simp
    | cons c chars ih =>
      have := hchar c
      rw [List.flatMap_cons, List.length_append, List.length_cons]
      omega
  rw [quotedText]
  simp only [List.length_append]
  omega

/-! ## Numbers -/

/-- Whether no digit comes next. -/
def NoDigit (rest : List Char) : Prop := ∀ c ∈ rest.head?, c.isDigit = false

/-- Whether what comes next ends a number. -/
structure EndsNumber (rest : List Char) : Prop where
  /-- It is no digit. -/
  noDigit : NoDigit rest
  /-- It is neither a point nor the mark of an exponent. -/
  noMark : ∀ c ∈ rest.head?, c ≠ '.' ∧ c ≠ 'e' ∧ c ≠ 'E'

theorem NoDigit.cons {c : Char} (h : c.isDigit = false) (rest : List Char) :
    NoDigit (c :: rest) := by
  intro d hd
  rw [List.head?_cons, Option.mem_some_iff] at hd
  rwa [← hd]

theorem takeWhile_digits {digits rest : List Char} (h : ∀ c ∈ digits, c.isDigit = true)
    (hrest : NoDigit rest) : (digits ++ rest).takeWhile Char.isDigit = digits := by
  rw [List.takeWhile_append_of_pos h]
  cases rest with
  | nil => simp
  | cons c rest => rw [List.takeWhile_cons_of_neg (by simp [hrest c rfl]), List.append_nil]

theorem dropWhile_digits {digits rest : List Char} (h : ∀ c ∈ digits, c.isDigit = true)
    (hrest : NoDigit rest) : (digits ++ rest).dropWhile Char.isDigit = rest := by
  rw [List.dropWhile_append_of_pos h]
  cases rest with
  | nil => rfl
  | cons c rest => exact List.dropWhile_cons_of_neg (by simp [hrest c rfl])

/-- An exponent is read up to the end of the number. -/
theorem exponent?_text (exponent : Exponent) {rest : List Char} (hrest : NoDigit rest) :
    exponent? (exponent.text ++ rest) = some (exponent.value, rest) := by
  obtain ⟨capital, sign, digits, hdigits, hsome⟩ := exponent
  obtain ⟨first, more, rfl⟩ := List.exists_cons_of_ne_nil hsome
  have htake := takeWhile_digits hdigits hrest
  have hdrop := dropWhile_digits hdigits hrest
  have hfirst := hdigits first List.mem_cons_self
  have hminus : first ≠ '-' := by
    rintro rfl
    exact absurd hfirst (by decide)
  have hplus : first ≠ '+' := by
    rintro rfl
    exact absurd hfirst (by decide)
  rw [List.cons_append] at htake hdrop
  rcases sign with _ | _ | _ <;> cases capital <;>
    simp [exponent?, Exponent.text, Exponent.value, htake, hdrop, hminus, hplus]

/-- An exponent starts with its mark. -/
theorem Exponent.text_eq_cons (exponent : Exponent) :
    ∃ mark rest, exponent.text = mark :: rest ∧ (mark = 'e' ∨ mark = 'E') := by
  obtain ⟨capital, sign, digits⟩ := exponent
  cases capital
  · exact ⟨'e', _, rfl, .inl rfl⟩
  · exact ⟨'E', _, rfl, .inr rfl⟩

/-- Without an exponent nothing is read. -/
theorem exponent?_of_endsNumber {rest : List Char} (hrest : EndsNumber rest) :
    exponent? rest = some (0, rest) := by
  cases rest with
  | nil => rfl
  | cons c rest =>
    obtain ⟨-, hsmall, hcapital⟩ := hrest.noMark c rfl
    simp [exponent?, hsmall, hcapital]

/-- An exponent is read where a number may have one. -/
theorem exponent?_elim (exponent : Option Exponent) {rest : List Char} (hrest : EndsNumber rest) :
    exponent? (exponent.elim [] Exponent.text ++ rest)
      = some (exponent.elim 0 Exponent.value, rest) := by
  cases exponent with
  | none => exact exponent?_of_endsNumber hrest
  | some exponent => exact exponent?_text exponent hrest.noDigit

theorem noDigit_exponent (exponent : Option Exponent) {rest : List Char}
    (hrest : EndsNumber rest) : NoDigit (exponent.elim [] Exponent.text ++ rest) := by
  cases exponent with
  | none => exact hrest.noDigit
  | some exponent =>
    obtain ⟨mark, more, htext, hmark⟩ := exponent.text_eq_cons
    rw [Option.elim_some, htext]
    rcases hmark with rfl | rfl <;> exact .cons (by decide) _

/-- The spelling of a positive number does not start with a zero. -/
theorem head?_toDigits_ne_zero {n : Nat} (h : 0 < n) : (Nat.toDigits 10 n).head? ≠ some '0' := by
  induction n using Nat.strong_induction_on with
  | _ n ih =>
    by_cases hsmall : n < 10
    · have hdigit : ∀ m < 10, 0 < m → some (Nat.digitChar m) ≠ some '0' := by decide
      rw [Nat.toDigits_of_lt_base hsmall]
      exact hdigit n hsmall h
    · have hmore : 0 < n / 10 := by omega
      obtain ⟨first, rest, hdigits⟩ :=
        List.exists_cons_of_ne_nil (Nat.toDigits_ne_nil : Nat.toDigits 10 (n / 10) ≠ [])
      have hfirst := ih (n / 10) (by omega) hmore
      rw [hdigits] at hfirst
      rw [Nat.toDigits_of_base_le (by decide) (by omega), hdigits]
      exact hfirst

namespace Number

variable (number : Number)

theorem isDigit_wholeText : ∀ c ∈ number.wholeText, c.isDigit = true := by
  intro c hc
  rw [wholeText, Nat.toList_repr] at hc
  exact Nat.isDigit_of_mem_toDigits (by decide) (by decide) hc

theorem wholeText_ne_nil : number.wholeText ≠ [] := by
  rw [wholeText, Nat.toList_repr]
  exact Nat.toDigits_ne_nil

theorem wholeText_eq_cons :
    ∃ first more, number.wholeText = first :: more ∧ first.isDigit = true := by
  obtain ⟨first, more, hwhole⟩ := List.exists_cons_of_ne_nil number.wholeText_ne_nil
  exact ⟨first, more, hwhole, number.isDigit_wholeText first (by simp [hwhole])⟩

/-- Zero apart, what stands before the point does not start with a zero. -/
theorem wholeText_ne_zero_cons (c : Char) (rest : List Char) :
    number.wholeText ≠ '0' :: c :: rest := by
  intro heq
  rw [wholeText, Nat.toList_repr] at heq
  rcases Nat.eq_zero_or_pos number.whole with hzero | hpositive
  · rw [hzero] at heq
    simp at heq
  · exact head?_toDigits_ne_zero hpositive (by rw [heq]; rfl)

theorem noDigit_tailText {rest : List Char} (hrest : EndsNumber rest) :
    NoDigit (number.tailText ++ rest) := by
  rw [tailText, List.append_assoc]
  cases number.fraction with
  | none => exact noDigit_exponent number.exponent hrest
  | some fraction => exact .cons (by decide) _

end Number

/-- A float that was read goes with what is left. -/
theorem bind_float (x? : Option Float) (rest : List Char) :
    (x?.bind fun x => some (Value.float x, rest)) = (x?.map Value.float).map (·, rest) := by
  cases x? <;> rfl

/-- After its sign a number is read as it is spelled. -/
theorem unsigned?_text (number : Number) {rest : List Char} (hrest : EndsNumber rest) :
    unsigned? number.negative (number.wholeText ++ (number.tailText ++ rest))
      = number.value?.map (·, rest) := by
  have htail := number.noDigit_tailText hrest
  have hwhole := takeWhile_digits number.isDigit_wholeText htail
  have hleft := dropWhile_digits number.isDigit_wholeText htail
  have hexponent := exponent?_elim number.exponent hrest
  rw [unsigned?, hwhole, hleft]
  split
  next heq => exact absurd heq number.wholeText_ne_nil
  next heq => exact absurd heq (number.wholeText_ne_zero_cons _ _)
  next =>
    rw [Number.tailText, Number.value?, List.append_assoc]
    cases number.fraction with
    | some fraction =>
      have hmore := noDigit_exponent number.exponent hrest
      have hfraction := takeWhile_digits fraction.digits hmore
      have hafter := dropWhile_digits fraction.digits hmore
      have hsome : fraction.chars.isEmpty = false := by simp [fraction.some]
      simp only [Option.elim_some, List.cons_append, hfraction, hafter, hsome, hexponent,
        Bool.false_eq_true, if_false, Option.bind_eq_bind, Option.bind_some, bind_float]
    | none =>
      cases hform : number.exponent with
      | some exponent =>
        obtain ⟨mark, more, htext, hmark⟩ := exponent.text_eq_cons
        simp only [hform, Option.elim_some, htext, List.cons_append] at hexponent
        simp only [Option.elim_none, Option.elim_some, List.nil_append, htext, List.cons_append]
        rcases hmark with rfl | rfl <;>
          simp only [hexponent, Option.bind_eq_bind, Option.bind_some, bind_float]
      | none =>
        cases rest with
        | nil => rfl
        | cons c rest =>
          obtain ⟨hpoint, hsmall, hcapital⟩ := hrest.noMark c rfl
          simp [hpoint, hsmall, hcapital]

/-- Whether a character can start a number. -/
def StartsNumber (c : Char) : Prop := c = '-' ∨ c.isDigit = true

theorem StartsNumber.ne {c d : Char} (h : StartsNumber c) (hminus : d ≠ '-')
    (hdigit : d.isDigit = false) : c ≠ d := by
  rintro rfl
  rcases h with heq | htrue
  · exact hminus heq
  · exact absurd (htrue.symm.trans hdigit) (by decide)

theorem StartsNumber.isBlank_eq {c : Char} (h : StartsNumber c) : isBlank c = false := by
  have hspace : c ≠ ' ' := h.ne (by decide) (by decide)
  have hnewline : c ≠ '\n' := h.ne (by decide) (by decide)
  have htab : c ≠ '\t' := h.ne (by decide) (by decide)
  have hreturn : c ≠ '\r' := h.ne (by decide) (by decide)
  simp [isBlank, hspace, hnewline, htab, hreturn]

/-- A number starts with a digit or a minus. -/
theorem Number.text_eq_cons (number : Number) :
    ∃ c rest, number.text = c :: rest ∧ StartsNumber c := by
  rw [Number.text, List.append_assoc]
  cases number.negative with
  | true => exact ⟨'-', _, rfl, .inl rfl⟩
  | false =>
    obtain ⟨first, more, hwhole, hfirst⟩ := number.wholeText_eq_cons
    exact ⟨first, _, by rw [hwhole]; rfl, .inr hfirst⟩

/-- A number is read as it is spelled. -/
theorem number?_text (number : Number) {rest : List Char} (hrest : EndsNumber rest) :
    number? (number.text ++ rest) = number.value?.map (·, rest) := by
  have hunsigned := unsigned?_text number hrest
  rw [Number.text, List.append_assoc, List.append_assoc]
  cases hsign : number.negative with
  | true =>
    rw [hsign] at hunsigned
    exact hunsigned
  | false =>
    obtain ⟨first, more, hwhole, hfirst⟩ := number.wholeText_eq_cons
    -- Without a sign the reader's first branch is ruled out by the digit in front.
    have hminus : first ≠ '-' := by
      rintro rfl
      exact absurd hfirst (by decide)
    rw [hsign, hwhole] at hunsigned
    rw [hwhole, if_neg Bool.false_ne_true, List.nil_append, List.cons_append, number?]
    · exact hunsigned
    · exact fun _ heq => hminus (List.cons.inj heq).1

/-! ## Values -/

theorem EndsNumber.cons {c : Char} (hdigit : c.isDigit = false)
    (hmark : c ≠ '.' ∧ c ≠ 'e' ∧ c ≠ 'E') (rest : List Char) : EndsNumber (c :: rest) where
  noDigit := .cons hdigit rest
  noMark d hd := by
    rw [List.head?_cons, Option.mem_some_iff] at hd
    rwa [← hd]

theorem EndsNumber.nil : EndsNumber [] := ⟨by simp [NoDigit], by simp⟩

/-- Blanks end a number. -/
theorem EndsNumber.gap {rest : List Char} (h : EndsNumber rest) (gap : Gap) :
    EndsNumber (gap.chars ++ rest) := by
  obtain ⟨chars, hblank⟩ := gap
  cases chars with
  | nil => exact h
  | cons c chars =>
    have hc := hblank c List.mem_cons_self
    simp only [isBlank, Bool.or_eq_true, beq_iff_eq] at hc
    rcases hc with ((rfl | rfl) | rfl) | rfl <;> exact .cons (by decide) (by decide) _

theorem value?_number (number : Number) (fuel : Nat) {rest : List Char} (hrest : EndsNumber rest) :
    value? (fuel + 1) (number.text ++ rest) = number.value?.map (·, rest) := by
  obtain ⟨c, more, htext, hc⟩ := number.text_eq_cons
  have hother : c ≠ 'n' ∧ c ≠ 't' ∧ c ≠ 'f' ∧ c ≠ '"' ∧ c ≠ '[' ∧ c ≠ '\x7b' := by
    refine ⟨?_, ?_, ?_, ?_, ?_, ?_⟩ <;> exact hc.ne (by decide) (by decide)
  rw [← number?_text number hrest, htext, List.cons_append, value?.eq_def]
  simp [hother]

namespace Tree

/-- Whether a text is read as its value in front of whatever ends a number, up to blanks.

The blanks after a value are its own in the grammar, while the reader leaves them to whoever called
it; so what it leaves is compared without its first blanks. -/
def Reads (tree : Tree) : Prop :=
  ∀ fuel rest, tree.text.length < fuel → EndsNumber rest →
    ∃ left, skipBlanks left = skipBlanks rest ∧
      JsonText.value? fuel (skipBlanks (tree.text ++ rest)) = tree.value?.map (·, left)

/-- Behind its blanks a text starts with no closing bracket. -/
theorem skipBlanks_text_eq_cons (tree : Tree) (rest : List Char) :
    ∃ c more, skipBlanks (tree.text ++ rest) = c :: more ∧ c ≠ ']' := by
  match tree with
  | spaced before inner after =>
    rw [text, List.append_assoc, List.append_assoc, skipBlanks_append]
    exact skipBlanks_text_eq_cons inner _
  | number literal =>
    obtain ⟨c, more, htext, hc⟩ := literal.text_eq_cons
    rw [text, htext]
    exact ⟨c, _, skipBlanks_cons hc.isBlank_eq _, hc.ne (by decide) (by decide)⟩
  | null | boolean true | boolean false | string _ | array _ [] | array _ (_ :: _) | object _ []
  | object _ (_ :: _) =>
    rw [text]
    exact ⟨_, _, skipBlanks_cons (by decide) _, by decide⟩

/-! ### Items -/

theorem endsNumber_itemsText (items : List Tree) (rest : List Char) :
    EndsNumber (itemsText items ++ rest) := by
  cases items with
  | nil =>
    rw [itemsText]
    exact .cons (by decide) (by decide) _
  | cons item items =>
    rw [itemsText]
    exact .cons (by decide) (by decide) _

/-- Items are read up to the closing bracket. -/
theorem items?_text {item : Tree} {items : List Tree}
    (h : ∀ tree ∈ item :: items, tree.Reads) {fuel : Nat}
    (hfuel : (item.text ++ itemsText items).length < fuel) (read : List Value) (rest : List Char) :
    items? fuel read (skipBlanks (item.text ++ (itemsText items ++ rest)))
      = (itemValues? (item :: items)).map fun values =>
        (Value.array (read.reverse ++ values), rest) := by
  -- On the items after the first one; each step takes one unit of fuel and at least one character.
  induction items generalizing item fuel read with
  | nil =>
    obtain ⟨fuel, rfl⟩ := Nat.exists_eq_succ_of_ne_zero (by omega : fuel ≠ 0)
    have hlength : item.text.length < fuel := by
      simp only [itemsText, List.length_append, List.length_cons] at hfuel
      omega
    obtain ⟨left, hleft, hvalue⟩ :=
      h item List.mem_cons_self fuel _ hlength (endsNumber_itemsText [] rest)
    rw [items?, hvalue, itemValues?, itemValues?]
    cases item.value? with
    | none => rfl
    | some value =>
      have hclosed : skipBlanks left = ']' :: rest := by
        rw [hleft, itemsText]
        exact skipBlanks_cons (by decide) _
      simp [hclosed]
  | cons next items ih =>
    obtain ⟨fuel, rfl⟩ := Nat.exists_eq_succ_of_ne_zero (by omega : fuel ≠ 0)
    have hlength : item.text.length < fuel ∧ (next.text ++ itemsText items).length < fuel := by
      simp only [itemsText, List.length_append, List.length_cons] at hfuel ⊢
      omega
    obtain ⟨left, hleft, hvalue⟩ :=
      h item List.mem_cons_self fuel _ hlength.1 (endsNumber_itemsText (next :: items) rest)
    rw [items?, hvalue, itemValues?]
    cases item.value? with
    | none => rfl
    | some value =>
      have hcomma : skipBlanks left = ',' :: (next.text ++ (itemsText items ++ rest)) := by
        rw [hleft, itemsText, List.cons_append, List.append_assoc]
        exact skipBlanks_cons (by decide) _
      have hrest := ih (fun tree htree => h tree (List.mem_cons_of_mem _ htree)) hlength.2
        (value :: read)
      simp only [Option.map_some, Option.bind_eq_bind, Option.bind_some, hcomma, hrest]
      rw [Option.map_map]
      simp [Function.comp_def]

/-! ### Members -/

theorem endsNumber_membersText (members : List (Member Tree)) (rest : List Char) :
    EndsNumber (membersText members ++ rest) := by
  cases members with
  | nil =>
    rw [membersText]
    exact .cons (by decide) (by decide) _
  | cons member members =>
    rw [membersText]
    exact .cons (by decide) (by decide) _

/-- Behind its blanks a member starts with the quote of its key. -/
theorem skipBlanks_memberText (member : Member Tree) (rest : List Char) :
    skipBlanks (memberText member ++ rest) = '"' :: (quotedText member.key
      ++ (member.after.chars ++ ':' :: (member.value.text ++ rest))) := by
  rw [memberText]
  simp only [List.append_assoc, List.cons_append]
  exact skipBlanks_append_cons _ (by decide) _

/-- A member is read up to its value. -/
theorem members?_memberText {member : Member Tree} (h : member.value.Reads) {fuel : Nat}
    (hfuel : (memberText member).length < fuel + 1) (read : List (String × Value))
    {rest : List Char} (hrest : EndsNumber rest) :
    ∃ left, skipBlanks left = skipBlanks rest ∧
      members? (fuel + 1) read (skipBlanks (memberText member ++ rest))
        = member.value.value?.bind fun value =>
          match skipBlanks left with
          | ',' :: more =>
            members? fuel (Value.insertEntry member.name value read) (skipBlanks more)
          | '\x7d' :: more => some (.table (Value.insertEntry member.name value read), more)
          | _ => none := by
  have hlength : member.value.text.length < fuel := by
    rw [memberText] at hfuel
    simp only [List.length_append, List.length_cons] at hfuel
    omega
  obtain ⟨left, hleft, hvalue⟩ := h fuel rest hlength hrest
  refine ⟨left, hleft, ?_⟩
  have hcolon := skipBlanks_append_cons member.after (by decide : isBlank ':' = false)
    (member.value.text ++ rest)
  rw [skipBlanks_memberText, members?,
    string?_quotedText member.key (length_lt_length_quotedText_append _ _)]
  simp only [Option.bind_eq_bind, Option.bind_some, hcolon, hvalue]
  cases member.value.value? <;> rfl

/-- Members are read up to the closing brace. -/
theorem members?_text {member : Member Tree} {members : List (Member Tree)}
    (h : ∀ other ∈ member :: members, other.value.Reads) {fuel : Nat}
    (hfuel : (memberText member ++ membersText members).length < fuel)
    (read : List (String × Value)) (rest : List Char) :
    members? fuel read (skipBlanks (memberText member ++ (membersText members ++ rest)))
      = (memberValues? read (member :: members)).map fun entries =>
        (Value.table entries, rest) := by
  induction members generalizing member fuel read with
  | nil =>
    obtain ⟨fuel, rfl⟩ := Nat.exists_eq_succ_of_ne_zero (by omega : fuel ≠ 0)
    have hlength : (memberText member).length < fuel + 1 := by
      rw [List.length_append] at hfuel
      omega
    obtain ⟨left, hleft, hmember⟩ := members?_memberText (h member List.mem_cons_self) hlength
      read (endsNumber_membersText [] rest)
    have hclosed : skipBlanks left = '\x7d' :: rest := by
      rw [hleft, membersText]
      exact skipBlanks_cons (by decide) _
    rw [hmember, memberValues?]
    simp only [hclosed, memberValues?]
    cases member.value.value? <;> rfl
  | cons next members ih =>
    obtain ⟨fuel, rfl⟩ := Nat.exists_eq_succ_of_ne_zero (by omega : fuel ≠ 0)
    have hlength : (memberText member).length < fuel + 1
        ∧ (memberText next ++ membersText members).length < fuel := by
      simp only [membersText, List.length_append, List.length_cons] at hfuel ⊢
      omega
    obtain ⟨left, hleft, hmember⟩ := members?_memberText (h member List.mem_cons_self) hlength.1
      read (endsNumber_membersText (next :: members) rest)
    have hcomma : skipBlanks left
        = ',' :: (memberText next ++ (membersText members ++ rest)) := by
      rw [hleft, membersText, List.cons_append, List.append_assoc]
      exact skipBlanks_cons (by decide) _
    have hothers : ∀ other ∈ next :: members, other.value.Reads :=
      fun other hother => h other (List.mem_cons_of_mem _ hother)
    rw [hmember, memberValues?]
    simp only [hcomma, ih hothers hlength.2]
    cases member.value.value? <;> rfl

/-! ### Texts -/

theorem reads_word {tree : Tree} {c : Char} {more : List Char} {value : Value}
    (htext : tree.text = c :: more) (hc : isBlank c = false) (hvalue : tree.value? = some value)
    (hread : ∀ fuel rest,
      JsonText.value? (fuel + 1) (c :: (more ++ rest)) = some (value, rest)) : tree.Reads := by
  intro fuel rest hfuel _
  obtain ⟨fuel, rfl⟩ := Nat.exists_eq_succ_of_ne_zero (by omega : fuel ≠ 0)
  refine ⟨rest, rfl, ?_⟩
  rw [htext, List.cons_append, skipBlanks_cons hc, hvalue]
  exact hread fuel rest

theorem reads_number (literal : Number) : (number literal).Reads := by
  intro fuel rest hfuel hrest
  obtain ⟨fuel, rfl⟩ := Nat.exists_eq_succ_of_ne_zero (by omega : fuel ≠ 0)
  have hskip : skipBlanks (literal.text ++ rest) = literal.text ++ rest := by
    obtain ⟨c, more, htext, hc⟩ := literal.text_eq_cons
    rw [htext]
    exact skipBlanks_cons hc.isBlank_eq _
  refine ⟨rest, rfl, ?_⟩
  rw [text, hskip, value?_number literal fuel hrest, Tree.value?]

theorem reads_string (chars : List StringChar) : (string chars).Reads := by
  refine reads_word (by rw [text]) (by decide) (by rw [Tree.value?]) fun fuel rest => ?_
  rw [JsonText.value?, string?_quotedText chars (length_lt_length_quotedText_append _ _)]
  rfl

theorem reads_array (gap : Gap) {items : List Tree} (h : ∀ item ∈ items, item.Reads) :
    (array gap items).Reads := by
  intro fuel rest hfuel _
  obtain ⟨fuel, rfl⟩ := Nat.exists_eq_succ_of_ne_zero (by omega : fuel ≠ 0)
  refine ⟨rest, rfl, ?_⟩
  cases items with
  | nil =>
    have hclosed := skipBlanks_append_cons gap (by decide : isBlank ']' = false) rest
    simp only [text, List.cons_append, List.append_assoc, List.nil_append]
    rw [skipBlanks_cons (by decide), JsonText.value?, hclosed, Tree.value?, itemValues?]
    rfl
  | cons item items =>
    have hlength : (item.text ++ itemsText items).length < fuel := by
      simp only [text, List.length_append, List.length_cons] at hfuel ⊢
      omega
    have hitems := items?_text h hlength [] rest
    obtain ⟨c, more, hskip, hc⟩ := skipBlanks_text_eq_cons item (itemsText items ++ rest)
    rw [hskip] at hitems
    simp only [text, List.cons_append, List.append_assoc]
    rw [skipBlanks_cons (by decide), JsonText.value?, skipBlanks_append, hskip, Tree.value?]
    split
    next heq => exact absurd (List.cons.inj heq).1 hc
    next =>
      rw [Option.map_map]
      exact hitems

theorem reads_object (gap : Gap) {members : List (Member Tree)}
    (h : ∀ member ∈ members, member.value.Reads) : (object gap members).Reads := by
  intro fuel rest hfuel _
  obtain ⟨fuel, rfl⟩ := Nat.exists_eq_succ_of_ne_zero (by omega : fuel ≠ 0)
  refine ⟨rest, rfl, ?_⟩
  cases members with
  | nil =>
    have hclosed := skipBlanks_append_cons gap (by decide : isBlank '\x7d' = false) rest
    simp only [text, List.cons_append, List.append_assoc, List.nil_append]
    rw [skipBlanks_cons (by decide), JsonText.value?, hclosed, Tree.value?, memberValues?]
    rfl
  | cons member members =>
    have hlength : (memberText member ++ membersText members).length < fuel := by
      simp only [text, List.length_append, List.length_cons] at hfuel ⊢
      omega
    have hmembers := members?_text h hlength [] rest
    have hskip := skipBlanks_memberText member (membersText members ++ rest)
    rw [hskip] at hmembers
    simp only [text, List.cons_append, List.append_assoc]
    rw [skipBlanks_cons (by decide), JsonText.value?, skipBlanks_append, hskip, Tree.value?,
      Option.map_map]
    exact hmembers

theorem Reads.spaced {inner : Tree} (h : inner.Reads) (before after : Gap) :
    (spaced before inner after).Reads := by
  intro fuel rest hfuel hrest
  have hlength : inner.text.length < fuel := by
    simp only [text, List.length_append] at hfuel
    omega
  obtain ⟨left, hleft, hvalue⟩ := h fuel (after.chars ++ rest) hlength (hrest.gap after)
  refine ⟨left, by rw [hleft, skipBlanks_append], ?_⟩
  rw [text, List.append_assoc, List.append_assoc, skipBlanks_append, hvalue, Tree.value?]

theorem sizeOf_item_lt (gap : Gap) {items : List Tree} {item : Tree} (h : item ∈ items) :
    sizeOf item < sizeOf (array gap items) := by
  have := List.sizeOf_lt_of_mem h
  rw [array.sizeOf_spec]
  omega

theorem sizeOf_value_lt (gap : Gap) {members : List (Member Tree)} {member : Member Tree}
    (h : member ∈ members) : sizeOf member.value < sizeOf (object gap members) := by
  have := List.sizeOf_lt_of_mem h
  have : sizeOf member.value < sizeOf member := by
    rw [Member.mk.sizeOf_spec]
    omega
  rw [object.sizeOf_spec]
  omega

theorem sizeOf_inner_lt (before : Gap) (inner : Tree) (after : Gap) :
    sizeOf inner < sizeOf (spaced before inner after) := by
  rw [spaced.sizeOf_spec]
  omega

/-- Every text is read as its value. -/
theorem reads : (tree : Tree) → tree.Reads
  | null | boolean true | boolean false =>
    reads_word (by rw [text]) (by decide) (by rw [Tree.value?]) fun _ _ => rfl
  | number literal => reads_number literal
  | string chars => reads_string chars
  | array gap items => reads_array gap fun item _ => item.reads
  | object gap members => reads_object gap fun member _ => member.value.reads
  | spaced before inner after => inner.reads.spaced before after
termination_by tree => sizeOf tree
decreasing_by
  · exact sizeOf_item_lt gap ‹_›
  · exact sizeOf_value_lt gap ‹_›
  · exact sizeOf_inner_lt before inner after

/-- A whole text is read as its value. -/
theorem read?_written (tree : Tree) : read? tree.written = tree.value? := by
  obtain ⟨left, hleft, hvalue⟩ := tree.reads (tree.text.length + 1) [] (by omega) .nil
  rw [List.append_nil] at hvalue
  rw [written, read?, String.length_ofList, String.toList_ofList, hvalue]
  cases tree.value? with
  | none => rfl
  | some value =>
    have hnothing : skipBlanks left = [] := hleft
    simp [hnothing]

end Tree

end PilotLamp.JsonText
