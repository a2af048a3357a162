import NumScript.Proofs.Recovery
import NumScript.Proofs.TokenAccounts

set_option autoImplicit false

namespace NumScript

open Grammar

structure Cut (used rest : List Token) : Prop where
  some : used ≠ []
  plain : ∀ token ∈ used.dropLast, token.kind ≠ .semicolon
  ends : rest = [] ∨ (∃ mark ∈ used.getLast?, mark.kind = .semicolon) ∨ Attempt.atStatement rest

theorem Cut.append {before used rest : List Token} (cut : Cut used rest)
    (plain : ∀ token ∈ before, token.kind ≠ .semicolon) : Cut (before ++ used) rest where
  some := by simp [cut.some]
  plain := by
    rw [List.dropLast_append_of_ne_nil cut.some]
    exact List.forall_mem_append.2 ⟨plain, cut.plain⟩
  ends := by
    rw [List.getLast?_append_of_ne_nil before cut.some]
    exact cut.ends

theorem Cut.of_plain {used : List Token} (some : used ≠ [])
    (plain : ∀ token ∈ used, token.kind ≠ .semicolon) : Cut used [] where
  some := some
  plain := fun token member => plain token (List.mem_of_mem_dropLast member)
  ends := .inl rfl

theorem cut_of_isLeast {tokens : List Token} {index : Nat} (some : tokens ≠ [])
    (least : IsLeast {later | 0 < later ∧ Boundary tokens later} index) :
    Cut (tokens.take index) (tokens.drop index) := by
  obtain ⟨⟨positive, boundary⟩, first⟩ := least
  refine ⟨by simp [some, positive.ne'], ?_, ?_⟩
  · intro token member semicolon
    obtain ⟨before, less, here⟩ := List.mem_iff_getElem.1 member
    simp only [List.length_dropLast, List.length_take, List.getElem_dropLast,
      List.getElem_take] at less here
    have early := first ⟨Nat.succ_pos before, .inr (.inr ⟨before, token, rfl, ?_, semicolon⟩)⟩
    · omega
    · rw [← here, List.getElem?_eq_getElem]
  · rcases boundary with ended | ⟨token, here, starts⟩ | ⟨before, mark, rfl, here, semicolon⟩
    · exact .inl (List.drop_of_length_le (Nat.le_of_eq ended.symm))
    · right; right
      simp [Attempt.atStatement, here, starts]
    · right; left
      exact ⟨mark, by simp [List.getLast?_take, here], semicolon⟩

theorem PartialStmt.kind_ne_of_leadsTo {state next : PartialStmt} {tokens : List Token}
    (reads : state.LeadsTo tokens next) : ∀ token ∈ tokens, token.kind ≠ .semicolon := by
  induction reads with
  | nil => exact List.forall_mem_nil _
  | @cons state _ _ token rest stepped _ ih =>
      refine List.forall_mem_cons.2 ⟨?_, ih⟩
      intro kind
      rcases state.step_semicolon kind with stuck | ⟨statement, finished⟩
      · simp [stuck] at stepped
      · simp [finished] at stepped

namespace Attempt

theorem resume_cut (token : Token) (rest : List Token) :
    ∃ used, token :: rest = used ++ resume (token :: rest) ∧ Cut used (resume (token :: rest)) := by
  obtain ⟨index, same, least⟩ := resume_isLeast token rest
  rw [same]
  exact ⟨_, (List.take_append_drop index _).symm, cut_of_isLeast (by simp) least⟩

theorem Refusal.cut {last blamed token : Token} {rest unread : List Token} {fault : SyntaxFault}
    (refusal : Refusal last .start (token :: rest) fault blamed unread) :
    ∃ used, token :: rest = used ++ resume unread ∧ Cut used (resume unread) := by
  generalize whole : token :: rest = tokens at refusal
  have some : tokens ≠ [] := by simp [← whole]
  cases refusal with
  | ended reads =>
      exact ⟨tokens, by simp [resume], .of_plain some (PartialStmt.kind_ne_of_leadsTo reads)⟩
  | @unexpected before after _ _ reads _ =>
      obtain ⟨used, split, cut⟩ := resume_cut blamed after
      refine ⟨before ++ used, ?_, cut.append (PartialStmt.kind_ne_of_leadsTo reads)⟩
      rw [List.append_assoc, ← split]
  | @invalid before _ _ _ _ reads stepped =>
      have plain : ∀ token ∈ before ++ [blamed], token.kind ≠ .semicolon := by
        refine List.forall_mem_append.2 ⟨PartialStmt.kind_ne_of_leadsTo reads, ?_⟩
        rw [List.forall_mem_singleton]
        rcases PartialStmt.invalid_of_step stepped with ⟨-, kind, -⟩ | ⟨-, kind⟩ <;> simp [kind]
      cases unread with
      | nil => exact ⟨before ++ [blamed], by simp [resume], .of_plain (by simp) plain⟩
      | cons second after =>
          obtain ⟨used, split, cut⟩ := resume_cut second after
          refine ⟨before ++ [blamed] ++ used, ?_, cut.append plain⟩
          rw [List.append_assoc, ← split, List.append_assoc, List.singleton_append]

theorem cut_of_statement {used : List Token} {statement : Stmt}
    (sentence : Statement used statement) (rest : List Token) : Cut used rest := by
  obtain ⟨before, token, state, rfl, reads, finished⟩ := PartialStmt.accepts_iff.2 sentence
  obtain ⟨others, mark, same, kind⟩ := sentence.exists_semicolon
  refine ⟨by simp, ?_, .inr (.inl ⟨mark, by simp [same], kind⟩)⟩
  rw [List.dropLast_concat]
  exact PartialStmt.kind_ne_of_leadsTo reads

theorem read_cut (last token : Token) (rest : List Token) :
    ∃ used, token :: rest = used ++ (read last .start (token :: rest)).remaining ∧
      Cut used (read last .start (token :: rest)).remaining ∧
      ∀ statement unread, read last .start (token :: rest) = .parsed statement unread →
        Statement used statement := by
  cases ended : read last .start (token :: rest) with
  | parsed statement unread =>
      obtain ⟨used, split, sentence⟩ := read_eq_parsed_iff.1 ended
      refine ⟨used, split, cut_of_statement sentence unread, ?_⟩
      rintro _ _ ⟨⟩
      exact sentence
  | refused fault blamed unread =>
      obtain ⟨used, split, cut⟩ := (refusal_of_read ended).cut
      exact ⟨used, split, cut, fun _ _ impossible => by cases impossible⟩

end Attempt

structure Block where
  tokens : List Token
  attempt : Attempt

namespace Block

/-- The block is what an attempt uses up of its own tokens and those behind them. -/
structure Precedes (last : Token) (block : Block) (rest : List Token) : Prop where
  read : block.attempt = Attempt.read last .start (block.tokens ++ rest)
  remaining : block.attempt.remaining = rest
  cut : Cut block.tokens rest
  sentence : ∀ statement unread, block.attempt = .parsed statement unread →
    Statement block.tokens statement

def isSealed (block : Block) : Bool :=
  block.tokens.getLast?.any (fun token => token.kind = .semicolon)

def isOpened (block : Block) : Bool :=
  Attempt.atStatement block.tokens

end Block

theorem Block.isSealed_iff {block : Block} :
    block.isSealed ↔ ∃ mark ∈ block.tokens.getLast?, mark.kind = .semicolon := by
  cases final : block.tokens.getLast? <;> simp [isSealed, final]

theorem Block.isSealed_eq_false_iff {block : Block} :
    block.isSealed = false ↔ ∀ token ∈ block.tokens.getLast?, token.kind ≠ .semicolon := by
  cases final : block.tokens.getLast? <;> simp [isSealed, final]

theorem Block.isOpened_iff {block : Block} :
    block.isOpened ↔ ∃ keyword ∈ block.tokens.head?, keyword.kind.startsStatement := by
  cases first : block.tokens.head? <;> simp [isOpened, Attempt.atStatement, first]

inductive Blocks (last : Token) : List Token -> List Block -> Prop where
  | nil : Blocks last [] []
  | cons {block : Block} {rest : List Token} {blocks : List Block}
      (first : block.Precedes last rest) (others : Blocks last rest blocks) :
      Blocks last (block.tokens ++ rest) (block :: blocks)

def Block.ofAttempt (made : List Token × Attempt) : Block where
  tokens := made.1.take (made.1.length - made.2.remaining.length)
  attempt := made.2

theorem Block.ofAttempt_append {used : List Token} {attempt : Attempt} :
    Block.ofAttempt (used ++ attempt.remaining, attempt) = ⟨used, attempt⟩ := by
  simp [ofAttempt]

theorem blocks_of_attemptsOn (last : Token) (tokens : List Token) :
    Blocks last tokens ((attemptsOn last tokens).map Block.ofAttempt) := by
  induction tokens using attempts.induct last with
  | case1 =>
      rw [attemptsOn_nil]
      exact .nil
  | case2 token rest attempt _ ih =>
      obtain ⟨used, split, cut, sentence⟩ := Attempt.read_cut last token rest
      have first : Block.Precedes last ⟨used, attempt⟩ attempt.remaining :=
        ⟨congrArg (Attempt.read last .start) split, rfl, cut, sentence⟩
      have block : Block.ofAttempt (token :: rest, attempt) = ⟨used, attempt⟩ :=
        calc
          Block.ofAttempt (token :: rest, attempt) =
              Block.ofAttempt (used ++ attempt.remaining, attempt) :=
            congrArg (fun tokens => Block.ofAttempt (tokens, attempt)) split
          _ = ⟨used, attempt⟩ := Block.ofAttempt_append
      rw [attemptsOn_cons, List.map_cons, block]
      convert Blocks.cons first ih using 1

namespace Blocks

variable {last : Token} {tokens : List Token} {blocks : List Block}

theorem flatMap_tokens (whole : Blocks last tokens blocks) :
    blocks.flatMap Block.tokens = tokens := by
  induction whole with
  | nil => rfl
  | cons _ _ ih => rw [List.flatMap_cons, ih]

theorem map_attempt (whole : Blocks last tokens blocks) :
    blocks.map Block.attempt = attempts last tokens := by
  induction whole with
  | nil => rw [List.map_nil, attempts_nil]
  | @cons block rest _ first _ ih =>
      obtain ⟨token, more, same⟩ := List.exists_cons_of_ne_nil first.cut.some
      rw [List.map_cons, ih, same, List.cons_append, attempts_cons, ← List.cons_append, ← same,
        ← first.read, first.remaining]

theorem precedes {before after : List Block} {block : Block} (whole : Blocks last tokens blocks)
    (split : blocks = before ++ block :: after) :
    block.Precedes last (after.flatMap Block.tokens) := by
  induction whole generalizing before with
  | nil => simp at split
  | @cons first rest blocks head others ih =>
      cases before with
      | nil =>
          obtain ⟨rfl, rfl⟩ := List.cons.inj split
          rwa [others.flatMap_tokens]
      | cons first before => exact ih (List.cons.inj split).2

theorem isSealed_of_parsed (whole : Blocks last tokens blocks) {block : Block}
    (member : block ∈ blocks) {statement : Stmt} {unread : List Token}
    (parsed : block.attempt = .parsed statement unread) : block.isSealed := by
  obtain ⟨before, after, split⟩ := List.append_of_mem member
  have sentence := (whole.precedes split).sentence statement unread parsed
  obtain ⟨others, mark, same, kind⟩ := sentence.exists_semicolon
  rw [Block.isSealed_iff]
  exact ⟨mark, by simp [same], kind⟩

theorem tokens_ne_nil (whole : Blocks last tokens blocks) :
    ∀ block ∈ blocks, block.tokens ≠ [] := by
  intro block member
  obtain ⟨before, after, split⟩ := List.append_of_mem member
  exact (whole.precedes split).cut.some

-- A block that no semicolon ends and that is not the last one is followed by a keyword.
theorem isChain (whole : Blocks last tokens blocks) :
    blocks.IsChain (fun first second => first.isSealed = false → second.isOpened) := by
  induction whole with
  | nil => exact .nil
  | @cons block rest blocks first others ih =>
      refine ih.cons ?_
      intro second here unsealed
      cases others with
      | nil => cases here
      | @cons block' rest' blocks' next others =>
          cases here
          rcases first.cut.ends with ended | ⟨mark, final, kind⟩ | starts
          · exact absurd (List.append_eq_nil_iff.1 ended).1 next.cut.some
          · simp [Block.isSealed, Option.mem_def.1 final, kind] at unsealed
          · rwa [Attempt.atStatement, List.head?_append_of_ne_nil _ next.cut.some] at starts

end Blocks

/-- A list of tokens in stretches, each up to and including a semicolon. -/
def stretches (tokens : List Token) : List (List Token) :=
  tokens.splitBy (fun token _ => token.kind != .semicolon)

def blockStretches (blocks : List Block) : List (List Block) :=
  blocks.splitBy (fun block _ => !block.isSealed)

theorem isChain_left_iff {α : Type} {p : α -> Prop} {items : List α} :
    items.IsChain (fun first _ => p first) ↔ ∀ item ∈ items.dropLast, p item := by
  induction items with
  | nil => simp
  | cons first rest ih =>
      cases rest with
      | nil => simp
      | cons second rest =>
          rw [List.isChain_cons_cons, ih]
          exact List.forall_mem_cons.symm

theorem forall_mem_tail_of_isChain {α : Type} {p q : α -> Prop} {items : List α}
    (onward : items.IsChain (fun first second => p first → q second))
    (all : items.IsChain (fun first _ => p first)) : ∀ item ∈ items.tail, q item := by
  induction items with
  | nil => exact List.forall_mem_nil _
  | cons first rest ih =>
      cases rest with
      | nil => exact List.forall_mem_nil _
      | cons second rest =>
          rw [List.isChain_cons_cons] at onward all
          exact List.forall_mem_cons.2 ⟨onward.1 all.1, ih onward.2 all.2⟩

namespace Blocks

variable {last : Token} {tokens : List Token} {blocks : List Block}

theorem mem_of_mem_blockStretches {group : List Block} (member : group ∈ blockStretches blocks) :
    group <:+: blocks := by
  obtain ⟨before, after, split⟩ := List.append_of_mem member
  have joined := List.flatten_splitBy (fun block _ => !block.isSealed) blocks
  rw [blockStretches] at split
  rw [split, List.flatten_append, List.flatten_cons, ← List.append_assoc] at joined
  exact ⟨before.flatten, after.flatten, joined⟩

theorem flatMap_tokens_ne_nil (whole : Blocks last tokens blocks) {group : List Block}
    (member : group ∈ blockStretches blocks) : group.flatMap Block.tokens ≠ [] := by
  obtain ⟨block, rest, rfl⟩ :=
    List.exists_cons_of_ne_nil (List.ne_nil_of_mem_splitBy member)
  have inside := (mem_of_mem_blockStretches member).subset List.mem_cons_self
  simp [whole.tokens_ne_nil block inside]

theorem isChain_tokens (whole : Blocks last tokens blocks) {group : List Block}
    (member : group ∈ blockStretches blocks) :
    (group.flatMap Block.tokens).IsChain (fun token _ => token.kind != .semicolon) := by
  have within := mem_of_mem_blockStretches member
  have some : [] ∉ group.map Block.tokens := by
    rw [List.mem_map]
    rintro ⟨block, inside, empty⟩
    exact whole.tokens_ne_nil block (within.subset inside) empty
  rw [List.flatMap_def, List.isChain_flatten some]
  constructor
  · simp only [List.forall_mem_map]
    intro block inside
    obtain ⟨before, after, split⟩ := List.append_of_mem (within.subset inside)
    rw [isChain_left_iff]
    simpa using (whole.precedes split).cut.plain
  · rw [List.isChain_map]
    refine (List.isChain_of_mem_splitBy member).imp ?_
    intro first second unsealed mark final _ _
    rw [Bool.not_eq_true', Block.isSealed_eq_false_iff] at unsealed
    simpa using unsealed mark final

theorem map_blockStretches (whole : Blocks last tokens blocks) :
    (blockStretches blocks).map (List.flatMap Block.tokens) = stretches tokens := by
  have joined : tokens = ((blockStretches blocks).map (List.flatMap Block.tokens)).flatten := by
    calc
      tokens = (blockStretches blocks).flatten.flatMap Block.tokens := by
        rw [blockStretches, List.flatten_splitBy, whole.flatMap_tokens]
      _ = _ := by
        rw [List.flatMap_def, List.map_flatten, List.flatten_flatten, List.map_map]
        rfl
  rw [stretches, eq_comm, List.splitBy_eq_iff]
  refine ⟨joined, ?_, ?_, ?_⟩
  · rw [List.mem_map]
    rintro ⟨group, member, empty⟩
    exact whole.flatMap_tokens_ne_nil member empty
  · simp only [List.forall_mem_map]
    exact fun group member => whole.isChain_tokens member
  · rw [List.isChain_map]
    refine (List.isChain_getLast_head_splitBy _ blocks).imp_of_mem_imp ?_
    rintro first second here next ⟨nonempty, _, sealed⟩
    refine ⟨whole.flatMap_tokens_ne_nil here, whole.flatMap_tokens_ne_nil next, ?_⟩
    rw [Bool.not_eq_false', Block.isSealed_iff] at sealed
    obtain ⟨mark, final, kind⟩ := sealed
    have ending : (first.flatMap Block.tokens).getLast? = some mark := by
      rw [← List.dropLast_concat_getLast nonempty, List.flatMap_append, List.getLast?_append,
        List.flatMap_singleton, Option.mem_def.1 final, Option.some_or]
    rw [(List.getLast_eq_iff_getLast?_eq_some _).2 ending, kind]
    rfl

theorem isChain_isSealed {group : List Block} (member : group ∈ blockStretches blocks) :
    group.IsChain (fun block _ => block.isSealed = false) := by
  simpa [blockStretches] using List.isChain_of_mem_splitBy member

theorem length_le_countP {blocks : List Block} (opened : ∀ block ∈ blocks, block.isOpened) :
    blocks.length ≤
      (blocks.flatMap Block.tokens).countP (fun token => token.kind.startsStatement) := by
  induction blocks with
  | nil => exact Nat.zero_le _
  | cons block rest ih =>
      obtain ⟨first, others⟩ := List.forall_mem_cons.1 opened
      obtain ⟨keyword, here, starts⟩ := Block.isOpened_iff.1 first
      have counted : 0 < block.tokens.countP (fun token => token.kind.startsStatement) :=
        List.countP_pos_iff.2 ⟨keyword, List.mem_of_mem_head? here, starts⟩
      have onward := ih others
      rw [List.flatMap_cons, List.countP_append, List.length_cons]
      omega

-- Behind the first block of a stretch every block begins with a keyword.
theorem length_le (whole : Blocks last tokens blocks) {group : List Block}
    (member : group ∈ blockStretches blocks) :
    group.length ≤
      1 + (group.flatMap Block.tokens).tail.countP (fun token => token.kind.startsStatement) := by
  have within := mem_of_mem_blockStretches member
  have chain := List.IsChain.infix whole.isChain within
  have opened := forall_mem_tail_of_isChain chain (isChain_isSealed member)
  cases group with
  | nil => exact Nat.zero_le _
  | cons first rest =>
      have some := whole.tokens_ne_nil first (within.subset List.mem_cons_self)
      have counted := length_le_countP opened
      rw [List.flatMap_cons, List.tail_append_of_ne_nil some, List.countP_append, List.length_cons]
      rw [List.tail_cons] at counted
      omega

theorem statements_le_one (whole : Blocks last tokens blocks) {group : List Block}
    (member : group ∈ blockStretches blocks) :
    (group.filterMap (fun block => block.attempt.statement?)).length ≤ 1 := by
  have within := mem_of_mem_blockStretches member
  have unsealed := isChain_left_iff.1 (isChain_isSealed member)
  have none : group.dropLast.filterMap (fun block => block.attempt.statement?) = [] := by
    rw [List.filterMap_eq_nil_iff]
    intro block inside
    have inner := within.subset (List.mem_of_mem_dropLast inside)
    cases parsed : block.attempt with
    | refused => rfl
    | parsed statement unread =>
        have sealed := whole.isSealed_of_parsed inner parsed
        simp [unsealed block inside] at sealed
  have split := List.dropLast_concat_getLast (List.ne_nil_of_mem_splitBy member)
  rw [← split, List.filterMap_append, none, List.nil_append]
  exact List.length_filterMap_le _ _

theorem starts (whole : Blocks last tokens blocks) {before after : List Block} {block : Block}
    (split : blocks = before ++ block :: after) :
    before = [] ∨ (∃ mark ∈ (before.flatMap Block.tokens).getLast?, mark.kind = .semicolon) ∨
      ∃ keyword ∈ block.tokens.head?, keyword.kind.startsStatement := by
  rcases List.eq_nil_or_concat' before with none | ⟨earlier, previous, rfl⟩
  · exact .inl none
  · right
    have chain := whole.isChain
    rw [split, List.append_assoc, List.singleton_append, List.isChain_append_cons_cons] at chain
    have some : previous.tokens ≠ [] := whole.tokens_ne_nil previous (by simp [split])
    rw [List.flatMap_append, List.flatMap_singleton, List.getLast?_append_of_ne_nil _ some,
      ← Block.isSealed_iff, ← Block.isOpened_iff]
    cases ends : previous.isSealed with
    | true => exact .inl rfl
    | false => exact .inr (chain.2.1 ends)

end Blocks

def blocks (tokens : List Token) : List Block :=
  (attemptsOn (closing tokens) (body tokens)).map Block.ofAttempt

theorem attempts_partition_exact (tokens : List Token) :
    (blocks tokens).map Block.attempt = attempts (closing tokens) (body tokens) ∧
    (blocks tokens).flatMap Block.tokens = body tokens ∧
    (∀ before block after, blocks tokens = before ++ block :: after →
      block.attempt = .read (closing tokens) .start (block.tokens ++ after.flatMap Block.tokens) ∧
      block.attempt.remaining = after.flatMap Block.tokens ∧
      block.tokens ≠ [] ∧
      (∀ token ∈ block.tokens.dropLast, token.kind ≠ .semicolon) ∧
      (before = [] ∨ (∃ mark ∈ (before.flatMap Block.tokens).getLast?, mark.kind = .semicolon) ∨
        ∃ keyword ∈ block.tokens.head?, keyword.kind = .declare ∨ keyword.kind = .print) ∧
      ∀ statement ∈ block.attempt.statement?, Statement block.tokens statement ∧
        ∃ mark ∈ block.tokens.getLast?, mark.kind = .semicolon) ∧
    (blockStretches (blocks tokens)).map (List.flatMap Block.tokens) = stretches (body tokens) ∧
    ∀ group ∈ blockStretches (blocks tokens),
      (group.filterMap (fun block => block.attempt.statement?)).length ≤ 1 ∧
      (group.filterMap (fun block => block.attempt.error?)).length ≤
        1 + (group.flatMap Block.tokens).tail.countP (fun token => token.kind.startsStatement) ∧
      (group.filterMap (fun block => block.attempt.statement?) ≠ [] ∨
        group.filterMap (fun block => block.attempt.error?) ≠ []) := by
  have whole := blocks_of_attemptsOn (closing tokens) (body tokens)
  refine ⟨whole.map_attempt, whole.flatMap_tokens, ?_, whole.map_blockStretches, ?_⟩
  · intro before block after split
    have precedes := whole.precedes split
    refine ⟨precedes.read, precedes.remaining, precedes.cut.some, precedes.cut.plain, ?_, ?_⟩
    · simpa [TokenKind.startsStatement] using whole.starts split
    · intro statement known
      cases parsed : block.attempt with
      | refused => simp [parsed, Attempt.statement?] at known
      | parsed statement unread =>
          rw [parsed] at known
          cases known
          have member : block ∈ blocks tokens := by simp [split]
          exact ⟨precedes.sentence _ _ parsed,
            Block.isSealed_iff.1 (whole.isSealed_of_parsed member parsed)⟩
  · intro group member
    refine ⟨whole.statements_le_one member, ?_, ?_⟩
    · exact (List.length_filterMap_le _ _).trans (whole.length_le member)
    · obtain ⟨block, rest, rfl⟩ := List.exists_cons_of_ne_nil (List.ne_nil_of_mem_splitBy member)
      cases made : block.attempt with
      | parsed statement unread => simp [made, Attempt.statement?]
      | refused fault blamed unread => simp [made, Attempt.error?]

end NumScript
