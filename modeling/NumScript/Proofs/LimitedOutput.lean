import NumScript.Proofs.OutputPrefix
import NumScript.Terminal.Sink

set_option autoImplicit false

namespace NumScript

def PrintedLine.bytes (line : PrintedLine) : List UInt8 :=
  utf8 line.text ++ utf8 "\n"

def outputBytes (lines : List PrintedLine) : List UInt8 :=
  lines.flatMap PrintedLine.bytes

namespace SinkLimits

variable (limits : SinkLimits)

/-- The lines up to and including the one with the given index do not fit. -/
def Overflows (lines : List PrintedLine) (index : Nat) : Prop :=
  limits.capacity < (outputBytes (lines.take (index + 1))).length

def Stops (lines : List PrintedLine) (index : Nat) : Prop :=
  limits.Overflows lines index ∨ limits.failingFlush = some (index + 1)

instance (lines : List PrintedLine) (index : Nat) : Decidable (limits.Overflows lines index) :=
  inferInstanceAs (Decidable (_ < _))

instance (lines : List PrintedLine) (index : Nat) : Decidable (limits.Stops lines index) :=
  inferInstanceAs (Decidable (_ ∨ _))

def fullCause : String :=
  match limits.whenFull with
  | .zero => "failed to write whole buffer"
  | .error => "sink is full"

end SinkLimits

namespace Sink

variable {limits : SinkLimits} {sink : Sink} {bytes : List UInt8}

theorem append_take_append_drop (sink : Sink) (count : Nat) (bytes : List UInt8) :
    (sink.append (bytes.take count)).append (bytes.drop count) = sink.append bytes := by
  simp [append]

theorem room_eq_zero (chunk : 1 ≤ limits.chunk) (full : sink.room limits = 0) :
    limits.capacity ≤ sink.written.length := by
  unfold room at full
  omega

theorem write_of_fits (chunk : 1 ≤ limits.chunk)
    (fits : sink.written.length + bytes.length ≤ limits.capacity) :
    sink.write limits bytes = (.accepted, sink.append bytes) := by
  fun_induction sink.write limits bytes with
  | case1 => simp [append]
  | case2 sink bytes some full =>
      have crowded := room_eq_zero chunk full
      have nonempty := List.length_pos_iff.2 some
      omega
  | case3 sink bytes some room ih =>
      rw [ih, append_take_append_drop]
      simp only [append, List.length_append, List.length_take, List.length_drop]
      omega

theorem write_of_overflow (chunk : 1 ≤ limits.chunk) (some : bytes ≠ [])
    (exceeds : limits.capacity < sink.written.length + bytes.length) :
    sink.write limits bytes =
      (.refused limits.fullCause,
        sink.append (bytes.take (limits.capacity - sink.written.length))) := by
  fun_induction sink.write limits bytes with
  | case1 => contradiction
  | case2 sink bytes _ full =>
      have crowded := room_eq_zero chunk full
      have left : limits.capacity - sink.written.length = 0 := by omega
      have cause : sink.noRoomCause limits = limits.fullCause := by
        unfold noRoomCause SinkLimits.fullCause
        cases limits.whenFull <;> simp [crowded]
      simp [left, cause, append]
  | case3 sink bytes _ room ih =>
      have bound : sink.room limits ≤ limits.capacity - sink.written.length :=
        Nat.min_le_right ..
      have after : (sink.append (bytes.take (sink.room limits))).written.length =
          sink.written.length + sink.room limits := by
        simp only [append, List.length_append, List.length_take]
        omega
      have rest : bytes.drop (sink.room limits) ≠ [] := by
        intro empty
        have none := List.drop_eq_nil_iff.1 empty
        omega
      have split : limits.capacity - sink.written.length = sink.room limits +
          (limits.capacity - (sink.written.length + sink.room limits)) := by
        omega
      rw [ih rest (by rw [after, List.length_drop]; omega), after, split, List.take_add]
      simp [append]

end Sink

section

variable {limits : SinkLimits} {sink : Sink} {line : PrintedLine}

theorem Terminal.writer_of_fits (chunk : 1 ≤ limits.chunk)
    (fits : sink.written.length + line.bytes.length ≤ limits.capacity) :
    (Terminal.writer limits).print line sink = (sink.append line.bytes).flush limits := by
  have written := Sink.write_of_fits chunk fits
  simp only [PrintedLine.bytes] at written
  simp only [writer, written, PrintedLine.bytes]

theorem PrintedLine.bytes_ne_nil (line : PrintedLine) : line.bytes ≠ [] := by
  have newline : utf8 "\n" = [10] := by decide
  simp [bytes, newline]

theorem Terminal.writer_of_overflow (chunk : 1 ≤ limits.chunk)
    (exceeds : limits.capacity < sink.written.length + line.bytes.length) :
    (Terminal.writer limits).print line sink =
      (.refused limits.fullCause,
        sink.append (line.bytes.take (limits.capacity - sink.written.length))) := by
  have failed := Sink.write_of_overflow chunk line.bytes_ne_nil exceeds
  simp only [PrintedLine.bytes] at failed
  simp only [writer, failed, PrintedLine.bytes]

theorem Terminal.writer_chunk {chunk : Nat} (positive : 1 ≤ limits.chunk) (other : 1 ≤ chunk) :
    Terminal.writer { limits with chunk } = Terminal.writer limits := by
  have widened : 1 ≤ SinkLimits.chunk { limits with chunk } := other
  have same (line : PrintedLine) (sink : Sink) :
      (Terminal.writer { limits with chunk }).print line sink =
        (Terminal.writer limits).print line sink := by
    by_cases fits : sink.written.length + line.bytes.length ≤ limits.capacity
    · rw [writer_of_fits positive fits, writer_of_fits widened fits]
      rfl
    · have exceeds := Nat.lt_of_not_le fits
      rw [writer_of_overflow positive exceeds, writer_of_overflow widened exceeds]
      rfl
  exact congrArg Terminal.mk (funext fun line => funext (same line))

end

def Sink.after (lines : List PrintedLine) : Sink :=
  { written := outputBytes lines, flushes := lines.length }

theorem outputBytes_concat (lines : List PrintedLine) (line : PrintedLine) :
    outputBytes (lines ++ [line]) = outputBytes lines ++ line.bytes := by
  simp [outputBytes]

section

variable {limits : SinkLimits} {before : List PrintedLine} {line : PrintedLine}

theorem Terminal.writer_after_fitting (chunk : 1 ≤ limits.chunk)
    (fits : (outputBytes (before ++ [line])).length ≤ limits.capacity) :
    (writer limits).print line (.after before) =
      (if limits.failingFlush = some (before.length + 1) then .refused "flush refused"
        else .accepted, .after (before ++ [line])) := by
  have bytes : (Sink.after before).append line.bytes =
      { Sink.after (before ++ [line]) with flushes := before.length } := by
    simp only [Sink.after, Sink.append, outputBytes_concat]
  rw [outputBytes_concat, List.length_append] at fits
  rw [writer_of_fits chunk fits, bytes, Sink.flush, Sink.after, List.length_append]
  split <;> rfl

theorem Terminal.writer_after_overflow (chunk : 1 ≤ limits.chunk)
    (within : (outputBytes before).length ≤ limits.capacity)
    (exceeds : limits.capacity < (outputBytes (before ++ [line])).length) :
    (writer limits).print line (.after before) =
      (.refused limits.fullCause,
        { written := (outputBytes (before ++ [line])).take limits.capacity
          flushes := before.length }) := by
  rw [outputBytes_concat, List.length_append] at exceeds
  rw [writer_of_overflow chunk exceeds, outputBytes_concat, List.take_append,
    List.take_of_length_le within]
  rfl

end

section

variable {σ : Type} {terminal : Terminal σ} {state middle last : σ}

theorem Terminal.offer_append {first : List PrintedLine}
    (accepted : terminal.offer state first = (.ok (), middle)) (second : List PrintedLine) :
    terminal.offer state (first ++ second) = terminal.offer middle second := by
  induction first generalizing state with
  | nil =>
      cases accepted
      rfl
  | cons line rest ih =>
      rcases reply : terminal.print line state with ⟨_ | cause, next⟩
      · rw [offer_cons_accepted reply] at accepted
        rw [List.cons_append, offer_cons_accepted reply, ih accepted]
      · rw [offer_cons_refused reply] at accepted
        cases accepted

theorem Terminal.offer_refused_at {lines : List PrintedLine} {index : Nat} {line : PrintedLine}
    {cause : String} (accepted : terminal.offer state (lines.take index) = (.ok (), middle))
    (here : lines[index]? = some line)
    (reply : terminal.print line middle = (.refused cause, last)) :
    terminal.offer state lines = (.error (.output cause line.line), last) := by
  obtain ⟨bound, same⟩ := List.getElem?_eq_some_iff.1 here
  calc
    terminal.offer state lines =
        terminal.offer state (lines.take index ++ line :: lines.drop (index + 1)) := by
      rw [← same, ← List.drop_eq_getElem_cons bound, List.take_append_drop]
    _ = (.error (.output cause line.line), last) := by
      rw [offer_append accepted, offer_cons_refused reply]

end

section

variable {limits : SinkLimits} {lines : List PrintedLine} {index : Nat} {line : PrintedLine}

theorem outputBytes_take_of_overflow (exceeds : limits.Overflows lines index) :
    (outputBytes (lines.take (index + 1))).take limits.capacity =
      (outputBytes lines).take limits.capacity := by
  have whole : outputBytes lines =
      outputBytes (lines.take (index + 1)) ++ outputBytes (lines.drop (index + 1)) := by
    rw [outputBytes, outputBytes, outputBytes, ← List.flatMap_append, List.take_append_drop]
  rw [whole, List.take_append_of_le_length (Nat.le_of_lt exceeds)]

theorem SinkLimits.outputBytes_le_of_passing
    (passing : ∀ earlier < index, ¬ limits.Stops lines earlier) :
    (outputBytes (lines.take index)).length ≤ limits.capacity := by
  cases index with
  | zero => exact Nat.zero_le _
  | succ index => exact Nat.le_of_not_lt (not_or.1 (passing index (Nat.lt_succ_self index))).1

theorem Terminal.offer_of_passing (chunk : 1 ≤ limits.chunk) (bound : index ≤ lines.length)
    (passing : ∀ earlier < index, ¬ limits.Stops lines earlier) :
    (writer limits).offer {} (lines.take index) = (.ok (), .after (lines.take index)) := by
  induction index with
  | zero => rfl
  | succ index ih =>
      have accepted := ih (Nat.le_of_succ_le bound)
        (fun earlier less => passing earlier (Nat.lt_succ_of_lt less))
      obtain ⟨fits, flushed⟩ := not_or.1 (passing index (Nat.lt_succ_self index))
      have cut := List.take_append_getElem bound
      rw [SinkLimits.Overflows, ← cut, Nat.not_lt] at fits
      have reply := writer_after_fitting chunk fits
      rw [List.length_take_of_le (Nat.le_of_succ_le bound), if_neg flushed] at reply
      rw [← cut, offer_append accepted, offer_cons_accepted reply]
      rfl

theorem Terminal.offer_of_overflow (chunk : 1 ≤ limits.chunk) (here : lines[index]? = some line)
    (passing : ∀ earlier < index, ¬ limits.Stops lines earlier)
    (exceeds : limits.Overflows lines index) :
    (writer limits).offer {} lines =
      (.error (.output limits.fullCause line.line),
        ⟨(outputBytes lines).take limits.capacity, index⟩) := by
  obtain ⟨bound, rfl⟩ := List.getElem?_eq_some_iff.1 here
  have accepted := offer_of_passing chunk (Nat.le_of_lt bound) passing
  have within := limits.outputBytes_le_of_passing passing
  have cut := List.take_append_getElem bound
  have reply := writer_after_overflow chunk within (by rw [cut]; exact exceeds)
  rw [cut, outputBytes_take_of_overflow exceeds,
    List.length_take_of_le (Nat.le_of_lt bound)] at reply
  exact offer_refused_at accepted here reply

theorem Terminal.offer_of_unflushed (chunk : 1 ≤ limits.chunk) (here : lines[index]? = some line)
    (passing : ∀ earlier < index, ¬ limits.Stops lines earlier)
    (fits : ¬ limits.Overflows lines index) (unflushed : limits.failingFlush = some (index + 1)) :
    (writer limits).offer {} lines =
      (.error (.output "flush refused" line.line), .after (lines.take (index + 1))) := by
  obtain ⟨bound, rfl⟩ := List.getElem?_eq_some_iff.1 here
  have accepted := offer_of_passing chunk (Nat.le_of_lt bound) passing
  have cut := List.take_append_getElem bound
  rw [SinkLimits.Overflows, ← cut, Nat.not_lt] at fits
  have reply := writer_after_fitting chunk fits
  rw [List.length_take_of_le (Nat.le_of_lt bound), if_pos unflushed, cut] at reply
  exact offer_refused_at accepted here reply

end

theorem output_on_limited_sink (limits : SinkLimits) (chunk : 1 ≤ limits.chunk) (source : String) :
    ((∀ index < (printedLines source).length, ¬ limits.Stops (printedLines source) index) →
      (runSource (.writer limits) source {}).2.terminal =
          ⟨outputBytes (printedLines source), (printedLines source).length⟩ ∧
        (runSource (.writer limits) source {}).1 = (runSource .recorder source []).1) ∧
    (∀ index line, (printedLines source)[index]? = some line →
      (∀ earlier < index, ¬ limits.Stops (printedLines source) earlier) →
      (limits.Overflows (printedLines source) index →
        (runSource (.writer limits) source {}).2.terminal =
            ⟨(outputBytes (printedLines source)).take limits.capacity, index⟩ ∧
          (runSource (.writer limits) source {}).1 =
            .error (.runtime (.output limits.fullCause line.line))) ∧
      (¬ limits.Overflows (printedLines source) index → limits.failingFlush = some (index + 1) →
        (runSource (.writer limits) source {}).2.terminal =
            ⟨outputBytes ((printedLines source).take (index + 1)), index + 1⟩ ∧
          (runSource (.writer limits) source {}).1 =
            .error (.runtime (.output "flush refused" line.line)))) ∧
    ∀ other, 1 ≤ other →
      runSource (.writer { limits with chunk := other }) source {} =
        runSource (.writer limits) source {} := by
  refine ⟨?_, ?_, ?_⟩
  · intro passing
    have accepted := Terminal.offer_of_passing chunk (Nat.le_refl _) passing
    rw [List.take_length] at accepted
    rw [runSource_of_accepted accepted]
    exact ⟨rfl, rfl⟩
  · intro index line here passing
    constructor
    · intro exceeds
      have refused := Terminal.offer_of_overflow chunk here passing exceeds
      exact (runSource_of_refused refused).symm
    · intro fits unflushed
      have refused := Terminal.offer_of_unflushed chunk here passing fits unflushed
      obtain ⟨failed, left⟩ := runSource_of_refused refused
      obtain ⟨bound, -⟩ := List.getElem?_eq_some_iff.1 here
      rw [left, Sink.after, List.length_take_of_le bound]
      exact ⟨rfl, failed⟩
  · intro other positive
    rw [Terminal.writer_chunk chunk positive]

def twoTens : String :=
  "imprimir(10);\nimprimir(10);"

def fiveBytes : SinkLimits :=
  { capacity := 5, chunk := 2 }

theorem output_on_limited_sink_cut_before_newline :
    1 ≤ fiveBytes.chunk ∧
      (runSource (.writer fiveBytes) twoTens {}).2.terminal = ⟨utf8 "10\n10", 1⟩ ∧
      (runSource (.writer fiveBytes) twoTens {}).1 =
        .error (.runtime (.output "failed to write whole buffer" 2)) := by
  have lines : printedLines twoTens = [⟨"10", 1⟩, ⟨"10", 2⟩] := by
    decide +kernel
  have limited := output_on_limited_sink fiveBytes (by decide) twoTens
  rw [lines] at limited
  have passing : ∀ earlier < 1, ¬ fiveBytes.Stops [⟨"10", 1⟩, ⟨"10", 2⟩] earlier := by decide
  exact ⟨by decide, (limited.2.1 1 ⟨"10", 2⟩ rfl passing).1 (by decide)⟩

end NumScript
