import NumScript.Proofs.Recovery
import NumScript.Proofs.WellFormedPrograms

set_option autoImplicit false

namespace NumScript

namespace Attempt

/-- The error of an attempt with the index of the token that it blames. -/
def report? (tokens : List Token) (attempt : Attempt) : Option (Nat × SyntaxError) := do
  let place ← attempt.place? tokens
  let error ← attempt.error?
  return (place, error)

theorem map_report? (tokens : List Token) (attempt : Attempt) :
    (attempt.report? tokens).map Prod.snd = attempt.error? := by
  cases attempt <;> rfl

end Attempt

def reports (tokens : List Token) : List (Nat × SyntaxError) :=
  (attemptsAt tokens).filterMap (fun made => made.2.report? tokens)

theorem map_snd_reports (tokens : List Token) :
    (reports tokens).map Prod.snd = syntaxErrors tokens := by
  rw [reports, List.map_filterMap, syntaxErrors_eq, (filterMap_verdicts tokens).1,
    ← map_snd_attemptsAt, List.filterMap_map]
  simp only [Attempt.map_report?]
  rfl

section

variable {tokens : List Token} {start place : Nat} {attempt : Attempt} {error : SyntaxError}

theorem exists_blames_of_report (made : (start, attempt) ∈ attemptsAt tokens)
    (reported : attempt.report? tokens = some (place, error)) :
    ∃ fault blamed unread, attempt = .refused fault blamed unread ∧
      Blames tokens start place fault blamed unread ∧
      error = ⟨blamed.line, blamed.text, fault.message⟩ := by
  cases attempt with
  | parsed => cases reported
  | refused fault blamed unread =>
      obtain ⟨found, given, blames⟩ := exists_blames made
      simp only [Attempt.report?, given, Attempt.error?] at reported
      cases reported
      exact ⟨fault, blamed, unread, rfl, blames, rfl⟩

theorem exists_blames_of_mem_reports (member : (place, error) ∈ reports tokens) :
    ∃ start fault blamed unread, Blames tokens start place fault blamed unread ∧
      error = ⟨blamed.line, blamed.text, fault.message⟩ := by
  obtain ⟨⟨start, attempt⟩, made, reported⟩ := List.mem_filterMap.1 member
  obtain ⟨fault, blamed, unread, -, blames, same⟩ := exists_blames_of_report made reported
  exact ⟨start, fault, blamed, unread, blames, same⟩

end

theorem ne_nil_of_mem_attemptsOn {last : Token} {tokens : List Token}
    {made : List Token × Attempt} (member : made ∈ attemptsOn last tokens) : made.1 ≠ [] := by
  induction tokens using attempts.induct last with
  | case1 => simp [attemptsOn_nil] at member
  | case2 token rest attempt _ ih =>
      rw [attemptsOn_cons] at member
      rcases List.mem_cons.1 member with rfl | later
      · simp
      · exact ih later

-- A later attempt reads what the earlier ones leave, and there is something to read.
theorem attemptsOn_pairwise (last : Token) (tokens : List Token) :
    (attemptsOn last tokens).Pairwise
      (fun first second => second.1 <:+ first.2.remaining ∧ second.1 ≠ []) := by
  induction tokens using attempts.induct last with
  | case1 =>
      rw [attemptsOn_nil]
      exact .nil
  | case2 token rest attempt _ ih =>
      rw [attemptsOn_cons]
      refine ih.cons ?_
      intro later member
      exact ⟨(suffix_of_mem_attemptsOn member).1, ne_nil_of_mem_attemptsOn member⟩

theorem Blames.place_lt {tokens unread later : List Token} {start place : Nat} {fault : SyntaxFault}
    {blamed : Token} (blames : Blames tokens start place fault blamed unread)
    (within : later <:+ Attempt.resume unread) (some : later ≠ []) :
    place < (body tokens).length - later.length := by
  have left := congrArg List.length blames.unread
  have bound := within.length_le
  have positive := List.length_pos_iff.2 some
  rw [List.length_drop] at left
  cases unread with
  | nil =>
      rw [Attempt.resume] at bound
      exact absurd bound (Nat.not_le_of_lt positive)
  | cons token rest =>
      have resumed := Attempt.length_resume token rest
      rw [List.length_cons] at left
      omega

theorem attemptsAt_pairwise (tokens : List Token) :
    (attemptsAt tokens).Pairwise (fun first second =>
      ∀ report ∈ first.2.report? tokens, report.1 < second.1) := by
  rw [attemptsAt, List.pairwise_map]
  refine (attemptsOn_pairwise (closing tokens) (body tokens)).imp_of_mem ?_
  rintro ⟨unread, attempt⟩ ⟨later, _⟩ here - ⟨within, some⟩ ⟨place, error⟩ reported
  have made : ((body tokens).length - unread.length, attempt) ∈ attemptsAt tokens :=
    List.mem_map.2 ⟨(unread, attempt), here, rfl⟩
  obtain ⟨fault, blamed, rest, rfl, blames, -⟩ := exists_blames_of_report made reported
  exact blames.place_lt within some

theorem reports_pairwise (tokens : List Token) :
    (reports tokens).Pairwise (fun first second => first.1 < second.1) := by
  rw [reports, List.pairwise_filterMap]
  refine (attemptsAt_pairwise tokens).imp_of_mem ?_
  rintro first ⟨start, attempt⟩ - made before report here ⟨place, error⟩ reported
  obtain ⟨_, _, _, -, blames, -⟩ := exists_blames_of_report made reported
  exact Nat.lt_of_lt_of_le (before report here) blames.begun

def SyntaxError.ReadsAtEnd (error : SyntaxError) : Prop :=
  ("[line " ++ toString error.line ++ "] Error at end").toList <+: error.render.toList

theorem SyntaxError.readsAtEnd_iff {error : SyntaxError} :
    error.ReadsAtEnd ↔ error.lexeme = "" := by
  rw [ReadsAtEnd, render]
  by_cases none : error.lexeme = ""
  · simp [none, List.prefix_append_right_inj]
  · simp [none, List.prefix_append_right_inj]

theorem SyntaxFault.newline_not_mem_message (fault : SyntaxFault) :
    '\n' ∉ fault.message.toList := by
  cases fault <;> decide

theorem newline_not_mem_toDigits (line : Nat) : '\n' ∉ Nat.toDigits 10 line := by
  intro member
  exact absurd (Nat.isDigit_of_mem_toDigits (by decide) (by decide) member) (by decide)

theorem SyntaxError.newline_not_mem_render {error : SyntaxError}
    (lexeme : '\n' ∉ error.lexeme.toList) (message : '\n' ∉ error.message.toList) :
    '\n' ∉ error.render.toList := by
  rw [render]
  by_cases none : error.lexeme = ""
  · simp [none, newline_not_mem_toDigits, message]
  · simp [none, newline_not_mem_toDigits, message, lexeme]

theorem SyntaxError.split_renderAll {errors : List SyntaxError} (some : errors ≠ [])
    (plain : ∀ error ∈ errors, '\n' ∉ error.render.toList) :
    ((renderAll errors).split '\n').toList.map (·.copy) = errors.map render := by
  have split := String.toList_split_intercalate (List.forall_mem_map.2 plain)
  rwa [if_neg (by simpa using some)] at split

theorem Token.WellFormed.text_ne_empty {token : Token} (formed : token.WellFormed) :
    token.text ≠ "" := by
  intro empty
  exact formed.spelled.ne_nil (by rw [empty]; rfl)

theorem Token.WellFormed.newline_not_mem_text {token : Token} (formed : token.WellFormed) :
    '\n' ∉ token.text.toList :=
  List.count_eq_zero.1 (Lexeme.newlines_of_spelled formed.spelled)

section

variable {source : String} {tokens : List Token}

theorem stream_of_tokenize (scanned : tokenize source = .ok tokens) : stream tokens = tokens := by
  obtain ⟨-, rfl⟩ := tokenize_eq_ok_iff.1 scanned
  have inside := kind_ne_endOfFile_of_scanned source.toList
  rw [stream, body_of_inside inside, closing_append_endOfFile [] inside rfl]

theorem text_of_tokenize (scanned : tokenize source = .ok tokens) {place : Nat} {token : Token}
    (here : (stream tokens)[place]? = some token) :
    (token.text = "" ↔ place = (body tokens).length) ∧ '\n' ∉ token.text.toList := by
  have formed := wellFormed_of_tokenize scanned
  rw [stream_of_tokenize scanned] at here
  obtain ⟨-, rfl⟩ := tokenize_eq_ok_iff.1 scanned
  rw [body_of_inside (kind_ne_endOfFile_of_scanned source.toList)]
  rw [List.dropLast_concat] at formed
  obtain ⟨bound, same⟩ := List.getElem?_eq_some_iff.1 here
  rw [List.length_append, List.length_singleton] at bound
  rcases Nat.lt_succ_iff_lt_or_eq.1 bound with inside | rfl
  · rw [List.getElem_append_left inside] at same
    have known := formed token (same ▸ List.getElem_mem inside)
    exact ⟨iff_of_false known.text_ne_empty inside.ne, known.newline_not_mem_text⟩
  · rw [List.getElem_concat_length rfl] at same
    rw [← same]
    exact ⟨iff_of_true rfl rfl, by simp⟩

theorem pairwise_line_of_tokenize (scanned : tokenize source = .ok tokens) :
    (reports tokens).Pairwise (fun first second => first.2.line ≤ second.2.line) := by
  have ordered := List.pairwise_iff_getElem.1 (lines_of_tokenize scanned).1
  refine (reports_pairwise tokens).imp_of_mem ?_
  rintro ⟨place, error⟩ ⟨other, later⟩ first second less
  obtain ⟨_, _, blamed, _, blames, rfl⟩ := exists_blames_of_mem_reports first
  obtain ⟨_, _, suspect, _, accuses, rfl⟩ := exists_blames_of_mem_reports second
  have here := blames.here
  have there := accuses.here
  rw [stream_of_tokenize scanned, List.getElem?_eq_some_iff] at here there
  obtain ⟨bound, rfl⟩ := here
  obtain ⟨limit, rfl⟩ := there
  exact ordered place other bound limit less

end

theorem errors_in_source_order {tokens : List Token} {errors : List SyntaxError}
    (failed : parse tokens = .error errors) :
    errors ≠ [] ∧ (reports tokens).map Prod.snd = errors ∧
      (reports tokens).Pairwise (fun first second => first.1 < second.1) ∧
      (∀ report ∈ reports tokens, report.1 ≤ (body tokens).length ∧
        ∃ token, (stream tokens)[report.1]? = some token ∧ report.2.line = token.line ∧
          report.2.lexeme = token.text) ∧
      (∀ report ∈ (reports tokens).dropLast, report.1 < (body tokens).length) ∧
      ∀ source, tokenize source = .ok tokens →
        errors.Pairwise (fun first second => first.line ≤ second.line) ∧
        ((SyntaxError.renderAll errors).split '\n').toList.map (·.copy) =
          errors.map SyntaxError.render ∧
        ∀ report ∈ reports tokens, report.2.ReadsAtEnd ↔ report.1 = (body tokens).length := by
  have all : errors = syntaxErrors tokens := by rw [syntaxErrors, failed]
  have some : errors ≠ [] := by
    intro none
    rw [parse_eq_ok_of_clean (all ▸ none)] at failed
    cases failed
  have within : ∀ report ∈ reports tokens, report.1 ≤ (body tokens).length := by
    rintro ⟨place, error⟩ member
    obtain ⟨_, _, _, _, blames, -⟩ := exists_blames_of_mem_reports member
    exact Nat.le_of_add_right_le blames.within
  refine ⟨some, ?_, reports_pairwise tokens, ?_, ?_, ?_⟩
  · rw [map_snd_reports, all]
  · rintro ⟨place, error⟩ member
    obtain ⟨_, _, blamed, _, blames, rfl⟩ := exists_blames_of_mem_reports member
    exact ⟨within _ member, blamed, blames.here, rfl, rfl⟩
  · intro report earlier
    have nonempty := List.ne_nil_of_mem (List.mem_of_mem_dropLast earlier)
    have ordered := reports_pairwise tokens
    rw [← List.dropLast_concat_getLast nonempty, List.pairwise_append] at ordered
    exact Nat.lt_of_lt_of_le
      (ordered.2.2 report earlier _ (List.mem_singleton_self _))
      (within _ (List.getLast_mem nonempty))
  · intro source scanned
    refine ⟨?_, ?_, ?_⟩
    · rw [all, ← map_snd_reports, List.pairwise_map]
      exact pairwise_line_of_tokenize scanned
    · apply SyntaxError.split_renderAll some
      rw [all, ← map_snd_reports, List.forall_mem_map]
      rintro ⟨place, error⟩ member
      obtain ⟨_, fault, blamed, _, blames, rfl⟩ := exists_blames_of_mem_reports member
      exact SyntaxError.newline_not_mem_render (text_of_tokenize scanned blames.here).2
        fault.newline_not_mem_message
    · rintro ⟨place, error⟩ member
      obtain ⟨_, _, _, _, blames, rfl⟩ := exists_blames_of_mem_reports member
      rw [SyntaxError.readsAtEnd_iff]
      exact (text_of_tokenize scanned blames.here).1

def twiceBrokenSource : String :=
  "x = ;\nimprimir(x"

def twiceBrokenTokens : List Token :=
  [⟨.identifier, "x", 1⟩, ⟨.equals, "=", 1⟩, ⟨.semicolon, ";", 1⟩, ⟨.print, "imprimir", 2⟩,
    ⟨.leftParen, "(", 2⟩, ⟨.identifier, "x", 2⟩, ⟨.endOfFile, "", 2⟩]

def twiceBrokenErrors : List SyntaxError :=
  [⟨1, ";", "Expected expression."⟩, ⟨2, "", "Expected ')' after expression."⟩]

theorem errors_in_source_order_twiceBroken :
    parse twiceBrokenTokens = .error twiceBrokenErrors ∧
      tokenize twiceBrokenSource = .ok twiceBrokenTokens ∧
      (reports twiceBrokenTokens).map Prod.snd = twiceBrokenErrors ∧
      ((SyntaxError.renderAll twiceBrokenErrors).split '\n').toList.map (·.copy) =
        ["[line 1] Error at ';': Expected expression.",
          "[line 2] Error at end: Expected ')' after expression."] := by
  have failed : parse twiceBrokenTokens = .error twiceBrokenErrors := by cbv
  have scanned : tokenize twiceBrokenSource = .ok twiceBrokenTokens := by decide +kernel
  obtain ⟨-, same, -, -, -, lexed⟩ := errors_in_source_order failed
  obtain ⟨-, lines, -⟩ := lexed twiceBrokenSource scanned
  refine ⟨failed, scanned, same, lines.trans ?_⟩
  decide +kernel

end NumScript
