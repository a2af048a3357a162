import NumScript.Proofs.WellFormedPrograms

set_option autoImplicit false

namespace NumScript

open Binary64 (isNegative isFinite_iff)
open Lexeme (Digits)

namespace Decimal

attribute [local instance (2000)] instPowNat

theorem digits_toDigits (number : Nat) : Digits (Nat.toDigits 10 number) :=
  ⟨Nat.toDigits_ne_nil, fun _ => Nat.isDigit_of_mem_toDigits (by decide) (by decide)⟩

theorem write_of_nonneg {decimal : Decimal} (whole : 0 ≤ decimal.exponent) :
    decimal.write = Nat.toDigits 10 (decimal.coefficient * 10 ^ decimal.exponent.toNat) :=
  if_pos whole

/-- The digits of a number behind as many zeros as leave one before the given places. -/
def padded (places number : Nat) : List Char :=
  List.replicate (places + 1 - (Nat.toDigits 10 number).length) '0' ++ Nat.toDigits 10 number

section

variable (places number : Nat)

theorem lt_length_padded : places < (padded places number).length := by
  simp only [padded, List.length_append, List.length_replicate]
  omega

theorem ofDigitChars_padded : Nat.ofDigitChars 10 (padded places number) 0 = number := by
  rw [padded, Nat.ofDigitChars_append, Nat.ofDigitChars_replicate_zero, Nat.mul_zero,
    Nat.ofDigitChars_ten_toDigits]

theorem digits_of_subset_padded {part : List Char} (within : part ⊆ padded places number)
    (nonempty : 0 < part.length) : Digits part := by
  refine ⟨List.ne_nil_of_length_pos nonempty, ?_⟩
  intro character member
  rcases List.mem_append.1 (within member) with zero | given
  · rw [List.eq_of_mem_replicate zero]
    decide
  · exact (digits_toDigits number).2 character given

end

theorem write_of_neg {decimal : Decimal} (broken : decimal.exponent < 0) :
    ∃ whole places, decimal.write = whole ++ '.' :: places ∧ Digits whole ∧ Digits places ∧
      Nat.ofDigitChars 10 (whole ++ places) 0 = decimal.coefficient ∧
      -(places.length : Int) = decimal.exponent := by
  generalize size : (-decimal.exponent).toNat = count
  generalize known : padded count decimal.coefficient = digits
  have long : count < digits.length := known ▸ lt_length_padded count decimal.coefficient
  have valid : ∀ part, part ⊆ digits → 0 < part.length → Digits part :=
    fun _ within => digits_of_subset_padded count decimal.coefficient (known ▸ within)
  refine ⟨digits.take (digits.length - count), digits.drop (digits.length - count), ?_,
    valid _ (List.take_subset ..) ?_, valid _ (List.drop_subset ..) ?_, ?_, ?_⟩
  · simp only [write, size, if_neg (Int.not_le.2 broken), ← known, padded]
  · rw [List.length_take]
    omega
  · rw [List.length_drop]
    omega
  · rw [List.take_append_drop, ← known, ofDigitChars_padded]
  · rw [List.length_drop]
    omega

theorem isNumeral_write (decimal : Decimal) : IsNumeral (String.ofList decimal.write) := by
  rw [IsNumeral, String.toList_ofList]
  rcases lt_or_ge decimal.exponent 0 with broken | whole
  · obtain ⟨before, places, same, valid, after, -⟩ := write_of_neg broken
    exact .inr ⟨before, places, same, valid, after⟩
  · rw [write_of_nonneg whole]
    exact .inl (digits_toDigits _)

-- Zeros at the end of a whole number go from the exponent into the coefficient.
theorem code_scaled {decimal : Decimal} (whole : 0 ≤ decimal.exponent)
    (finite : decimal.code < Binary64.infinity) :
    code ⟨decimal.coefficient * 10 ^ decimal.exponent.toNat, 0⟩ = decimal.code := by
  by_cases zero : decimal.coefficient = 0
  · simp [code, zero]
  · have scaled : decimal.coefficient * 10 ^ decimal.exponent.toNat ≠ 0 :=
      Nat.mul_ne_zero zero (Nat.ne_of_gt (Nat.pow_pos (by decide)))
    have small : ¬ 309 ≤ decimal.exponent := by
      intro large
      rw [code, if_neg (by omega), if_pos large] at finite
      exact Nat.lt_irrefl _ finite
    have none : (-decimal.exponent).toNat = 0 := by omega
    rw [code, code, if_neg (by dsimp only; omega), if_neg (by dsimp only; decide),
      if_neg (by omega), if_neg small, none]
    simp only [Int.toNat_zero, Int.neg_zero, Nat.pow_zero, Nat.mul_one]

theorem read?_write {decimal : Decimal} (finite : decimal.code < Binary64.infinity) :
    ∃ other, read? decimal.write = some other ∧ other.code = decimal.code := by
  rcases lt_or_ge decimal.exponent 0 with broken | whole
  · obtain ⟨before, places, same, valid, after, coefficient, exponent⟩ := write_of_neg broken
    rw [same, read?_of_places valid after, coefficient, exponent]
    exact ⟨_, rfl, rfl⟩
  · rw [write_of_nonneg whole, read?_of_digits (digits_toDigits _), Nat.ofDigitChars_ten_toDigits]
    exact ⟨_, rfl, code_scaled whole finite⟩

end Decimal

namespace Numeral

variable {value : Float} (finite : value.isFinite) (unsigned : isNegative value = false)

include finite unsigned

theorem write_eq_shortest :
    write value = String.ofList (Decimal.shortest (Binary64.code value)).write := by
  have within := (isFinite_iff value).1 finite
  have number : ¬ Binary64.infinity < Binary64.code value := Nat.not_lt_of_gt within
  simp only [write, unsigned, number, Nat.ne_of_lt within, if_false, Bool.false_eq_true,
    String.empty_append]

theorem isNumeral_write : IsNumeral (write value) := by
  rw [write_eq_shortest finite unsigned]
  exact Decimal.isNumeral_write _

theorem read?_write : read? (write value) = some value := by
  have within := (isFinite_iff value).1 finite
  have rounds := Decimal.code_shortest (Nat.le_of_lt within)
  obtain ⟨decimal, known, same⟩ := Decimal.read?_write (rounds.trans_lt within)
  have body : Decimal.read? (write value).toList = some decimal := by
    rw [write_eq_shortest finite unsigned, String.toList_ofList, known]
  simp only [read?, unsign_of_numeral (isNumeral_write finite unsigned), body, same, rounds,
    Option.map_some]
  rw [← unsigned, Binary64.ofCode_code (Nat.le_of_lt within)]

end Numeral

theorem Program.Wording.programOfSource_touching {program : Program}
    (wording : Program.Wording program) {source : String}
    (touching : wording.tokens.IsChain Token.MayTouch)
    (text : source.toList = wording.tokens.flatMap (fun token => token.text.toList)) :
    programOfSource source = .ok program := by
  apply programOfSource_of_laid wording
  rw [text]
  exact laid_flatMap_text (fun token member => (wording.plain token member).spelled)
    (fun token member => (wording.plain token member).line) touching

section

variable {literal : String} (numeral : IsNumeral literal)

include numeral

theorem IsNumeral.tokenize :
    tokenize literal = .ok [⟨.number, literal, 1⟩, ⟨.endOfFile, "", 1⟩] := by
  have spelled : ∀ token ∈ [Token.mk .number literal 1], token.Spelled := by
    simpa [Token.Spelled] using numeral.spelled
  have placed : ∀ token ∈ [Token.mk .number literal 1], token.line = 1 := by simp
  have laid := laid_flatMap_text spelled placed (.singleton _)
  rw [List.flatMap_singleton] at laid
  rw [tokenize_of_laid laid, Lexeme.newlines_of_spelled numeral.spelled]
  rfl

variable {value : Float} (known : Numeral.read? literal = some value)

include known

theorem IsNumeral.programOfSource_evaluation :
    programOfSource (literal ++ ";") = .ok [.evaluation (.number value) 1] := by
  let wording : Program.Wording [.evaluation (.number value) 1] :=
    .cons (.evaluation (.number literal numeral.spelled known)) .nil
  have tokens : wording.tokens = [⟨.number, literal, 1⟩, ⟨.semicolon, ";", 1⟩] := rfl
  refine wording.programOfSource_touching ?_ ?_ <;> rw [tokens]
  · simp [Token.MayTouch, TokenKind.continues]
  · simp

theorem IsNumeral.programOfSource_print :
    programOfSource ("imprimir(" ++ literal ++ ");") = .ok [.print (.number value) 1] := by
  let wording : Program.Wording [.print (.number value) 1] :=
    .cons (.print (.number literal numeral.spelled known)) .nil
  have tokens : wording.tokens = [⟨.print, "imprimir", 1⟩, ⟨.leftParen, "(", 1⟩,
      ⟨.number, literal, 1⟩, ⟨.rightParen, ")", 1⟩, ⟨.semicolon, ";", 1⟩] :=
    rfl
  refine wording.programOfSource_touching ?_ ?_ <;> rw [tokens]
  · simp [Token.MayTouch, TokenKind.continues, Lexeme.isWordPart]
  · simp

end

theorem printed_number_reads_back {value : Float} (finite : value.isFinite)
    (unsigned : isNegative value = false) :
    tokenize (Numeral.write value) =
        .ok [⟨.number, Numeral.write value, 1⟩, ⟨.endOfFile, "", 1⟩] ∧
      (∀ (inner : Level) (outer : List Level) (line : Nat),
        PartialExpr.step (.wanting inner outer) ⟨.number, Numeral.write value, line⟩ =
          .next (.holding inner outer (.number value))) ∧
      programOfSource (Numeral.write value ++ ";") = .ok [.evaluation (.number value) 1] ∧
      runSource .recorder ("imprimir(" ++ Numeral.write value ++ ");") [] =
        (.ok (), { executed := 1, terminal := [⟨Numeral.write value, 1⟩] }) := by
  have numeral := Numeral.isNumeral_write finite unsigned
  have known := Numeral.read?_write finite unsigned
  refine ⟨numeral.tokenize, ?_, numeral.programOfSource_evaluation known, ?_⟩
  · intro inner outer line
    simp only [PartialExpr.step, PartialExpr.readOperand, known]
  · rw [runSource_of_ok _ _ (numeral.programOfSource_print known)]
    rfl

def leastPositive : Float :=
  .ofBits 1

def leastPositiveText : String :=
  "0." ++ String.ofList (List.replicate 323 '0') ++ "5"

theorem printed_number_reads_back_least :
    leastPositive.isFinite ∧ isNegative leastPositive = false ∧
      Numeral.write leastPositive = leastPositiveText ∧
      tokenize leastPositiveText = .ok [⟨.number, leastPositiveText, 1⟩, ⟨.endOfFile, "", 1⟩] ∧
      programOfSource (leastPositiveText ++ ";") = .ok [.evaluation (.number leastPositive) 1] ∧
      runSource .recorder ("imprimir(" ++ leastPositiveText ++ ");") [] =
        (.ok (), { executed := 1, terminal := [⟨leastPositiveText, 1⟩] }) := by
  have finite : leastPositive.isFinite := by decide +kernel
  have unsigned : isNegative leastPositive = false := by decide +kernel
  have text : Numeral.write leastPositive = leastPositiveText := by decide +kernel
  obtain ⟨scanned, -, read, printed⟩ := printed_number_reads_back finite unsigned
  rw [text] at scanned read printed
  exact ⟨finite, unsigned, text, scanned, read, printed⟩

end NumScript
