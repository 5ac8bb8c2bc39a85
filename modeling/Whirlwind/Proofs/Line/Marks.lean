import Whirlwind.Proofs.Line.Reformat

/-!
# Where radix marks stand

A radix mark is read as part of an operand or a condition, and has an operand
behind it.  So no line of assembly source that is accepted starts with one
(`Line.startsRadix_eq_false_of_parse`), and none has one right in front of its
comments (`Line.attended_of_parse`).
-/

namespace Whirlwind

open TokenStream Lexer

/-! ## Lexemes in front of comments -/

/-- The last of some lexemes is no radix mark. -/
def Attended (lexemes : List Lexeme) : Prop :=
  ∀ lexeme ∈ lexemes.getLast?, lexeme.isRadix = false

theorem attended_of_plain {lexemes : List Lexeme}
    (plain : ∀ lexeme ∈ lexemes, lexeme.isRadix = false) : Attended lexemes :=
  fun lexeme isLast => plain lexeme (List.mem_of_getLast? isLast)

@[simp]
theorem attended_nil : Attended [] :=
  attended_of_plain fun _ member => nomatch member

theorem Attended.append {front back : List Lexeme} (attended : Attended front)
    (later : Attended back) : Attended (front ++ back) := by
  intro lexeme isLast
  rw [List.getLast?_append, Option.mem_def, Option.or_eq_some_iff] at isLast
  rcases isLast with found | ⟨_, found⟩
  · exact later lexeme found
  · exact attended lexeme found

/-- In front of other lexemes anything may stand. -/
theorem Attended.behind {back : List Lexeme} (attended : Attended back)
    (visible : back ≠ []) (front : List Lexeme) : Attended (front ++ back) := by
  intro lexeme isLast
  rw [List.getLast?_append, Option.mem_def, Option.or_eq_some_iff] at isLast
  rcases isLast with found | ⟨absent, _⟩
  · exact attended lexeme found
  · exact absurd (List.getLast?_eq_none_iff.1 absent) visible

theorem Attended.last {front : List Lexeme} {lexeme : Lexeme}
    (attended : Attended (front ++ [lexeme])) : lexeme.isRadix = false :=
  attended lexeme (by simp)

namespace Derives

variable {phrase : Phrase} {lexemes follow : List Lexeme} {expr : Expr}

theorem ne_nil (derived : Derives phrase lexemes follow expr) :
    lexemes ≠ [] := by
  rcases derived.exists_cons with ⟨first, rest, rfl, _⟩
  exact List.cons_ne_nil first rest

/-- No phrase ends in a radix mark. -/
theorem attended (derived : Derives phrase lexemes follow expr) :
    Attended lexemes := by
  have closed : ∀ front : List Lexeme, Attended (front ++ [.mark ')']) :=
    (attended_of_plain (List.forall_mem_singleton.2 rfl)).behind
      (List.cons_ne_nil _ _)
  induction derived with
  | tighter _ _ ih => exact ih
  | joinLeft _ _ _ _ derivedRight _ ih
  | joinRight _ _ _ _ derivedRight _ ih =>
      exact (ih.behind derivedRight.ne_nil [_]).behind
        (List.cons_ne_nil _ _) _
  | sign _ derived ih => exact ih.behind derived.ne_nil [_]
  | zero | identifier | digits | string =>
      exact attended_of_plain (List.forall_mem_singleton.2 rfl)
  | @apply front back => simpa using closed (front ++ .mark '(' :: back)
  | @group lexemes => exact closed (.mark '(' :: lexemes)

end Derives

theorem Says.attended {opening lexemes : List Lexeme} {tree : Option Expr}
    (said : Says opening lexemes tree) : Attended lexemes := by
  cases tree with
  | none =>
      cases said
      exact attended_nil
  | some expr =>
      rcases said with ⟨phrase, inner, follow, rfl, derived⟩
      exact derived.attended.behind derived.ne_nil opening

theorem Says.builds {opening lexemes : List Lexeme} {tree : Option Expr}
    (said : Says opening lexemes tree)
    (opens : ∀ lexeme ∈ opening, Derives.Builds lexeme) :
    ∀ lexeme ∈ lexemes, Derives.Builds lexeme := by
  cases tree with
  | none =>
      cases said
      exact fun _ member => nomatch member
  | some expr =>
      rcases said with ⟨phrase, inner, follow, rfl, derived⟩
      exact List.forall_mem_append.2 ⟨opens, derived.builds⟩

theorem builds_addressLexemes (address : Option PrefixAddress) :
    ∀ lexeme ∈ addressLexemes address, Derives.Builds lexeme := by
  cases address with
  | none => exact fun _ member => nomatch member
  | some place =>
      rcases place with ⟨digits, offset, contents⟩
      cases offset <;>
        simp [addressLexemes, PrefixAddress.lexemes, offsetLexemes,
          Derives.Builds]

theorem builds_labelLexemes (label : Option String) :
    ∀ lexeme ∈ labelLexemes label, Derives.Builds lexeme := by
  cases label <;> simp [labelLexemes, Derives.Builds]

theorem builds_instruction (instruction : Instruction) :
    ∀ lexeme ∈ instruction.lexemes, Derives.Builds lexeme := by
  rcases instruction with ⟨name, directive⟩
  cases directive <;> simp [Instruction.lexemes, Derives.Builds]

theorem builds_instructionLexemes (instruction : Option Instruction) :
    ∀ lexeme ∈ instructionLexemes instruction, Derives.Builds lexeme := by
  cases instruction with
  | none => exact fun _ member => nomatch member
  | some named => exact builds_instruction named

theorem not_builds_of_comments (trailing auto : Option String) :
    ∀ lexeme ∈ commentLexemes trailing auto ++ [.finish],
      ¬Derives.Builds lexeme := by
  cases trailing <;> cases auto <;> simp [commentLexemes, Derives.Builds]

/-! ## What is consumed in front of comments -/

namespace TokenStream

variable {start rest last : TokenStream}

/-- Some lexemes are the name of a directive that takes the rest of its line. -/
def Takes (lexemes : List Lexeme) : Prop :=
  .mark '.' ∈ lexemes ∧
    ∃ name ∈ Instruction.rawDirectives, .identifier name ∈ lexemes

/-- A statement is consumed up to its end, or up to where it takes the rest. -/
theorem AccountsStatement.exists_attended {statement : Option Statement}
    (accounts : start.AccountsStatement statement rest) :
    ∃ lexemes after, start.Passes lexemes after ∧
      (∀ lexeme ∈ lexemes, Derives.Builds lexeme) ∧ Attended lexemes ∧
      (Takes lexemes ∨ after = rest) := by
  cases accounts with
  | nothing passed =>
      exact ⟨[], _, passed, (fun _ member => nomatch member), attended_nil,
        Or.inr rfl⟩
  | @parsed instruction _ _ _ passed _ accountsOperand =>
      rcases accountsOperand.exists_said with ⟨lexemes, passedOperand, said⟩
      refine ⟨_, _, passed.trans passedOperand, ?_, ?_, Or.inr rfl⟩
      · exact List.forall_mem_append.2 ⟨builds_instruction instruction,
          said.builds fun _ member => nomatch member⟩
      · exact (attended_of_plain
          (plain_instructionLexemes (some instruction))).append said.attended
  | @taken name _ named _ passed _ takes =>
      refine ⟨_, named, passed, builds_instruction _,
        attended_of_plain (plain_instructionLexemes (some ⟨name, true⟩)),
        Or.inl ?_⟩
      have raw : name ∈ Instruction.rawDirectives := by
        simpa [Instruction.takesRawOperand] using takes
      exact ⟨by simp [Instruction.lexemes], name, raw,
        by simp [Instruction.lexemes]⟩

/-- A line is consumed up to its comments, or up to where it takes the rest. -/
theorem AccountsLine.exists_attended {line : Line} {result : Bool × Line}
    (accounts : start.AccountsLine line result last) :
    ∃ lexemes after, start.Passes lexemes after ∧
      (∀ lexeme ∈ lexemes, Derives.Builds lexeme) ∧ Attended lexemes ∧
      (Takes lexemes ∨ ∃ trailing auto,
        after.Passes (commentLexemes trailing auto ++ [.finish]) last) := by
  cases accounts with
  | @parts address _ label _ trailing auto _ _ _ _ passedAddress
      accountsCondition passedLabel accountsStatement passedComments =>
  rcases accountsCondition.exists_said with ⟨condition, passed, said⟩
  rcases accountsStatement.exists_attended with
    ⟨statement, after, passedStatement, builds, attended, ends⟩
  refine ⟨_, after, ((passedAddress.trans passed).trans passedLabel).trans
    passedStatement, ?_, ?_, ?_⟩
  · simp only [List.forall_mem_append]
    exact ⟨⟨⟨builds_addressLexemes address, said.builds (by
      simp [Derives.Builds])⟩, builds_labelLexemes label⟩, builds⟩
  · exact (((attended_of_plain (plain_addressLexemes address)).append
      said.attended).append
      (attended_of_plain (plain_labelLexemes label))).append attended
  · rcases ends with ⟨dotted, name, raw, named⟩ | rfl
    · exact Or.inl ⟨List.mem_append_right _ dotted, name, raw,
        List.mem_append_right _ named⟩
    · exact Or.inr ⟨trailing, auto, passedComments⟩

/-- A line starts with lexemes that are no radix marks. -/
theorem AccountsLine.exists_plain {line : Line} {result : Bool × Line}
    (accounts : start.AccountsLine line result last) :
    ∃ lexemes after, lexemes ≠ [] ∧ start.Passes lexemes after ∧
      ∀ lexeme ∈ lexemes, lexeme.isRadix = false := by
  cases accounts with
  | @parts address condition label statement trailing auto _ _ _ _
      passedAddress accountsCondition passedLabel accountsStatement
      passedComments =>
  have plainAddress := plain_addressLexemes address
  have plainLabel := plain_labelLexemes label
  cases condition with
  | some expr =>
      rcases accountsCondition with ⟨named, passed, _⟩
      exact ⟨_, named, by simp, passedAddress.trans passed,
        List.forall_mem_append.2 ⟨plainAddress, by simp [Lexeme.isRadix]⟩⟩
  | none =>
      have passedFront := (passedAddress.trans accountsCondition).trans
        passedLabel
      rw [List.append_nil] at passedFront
      have plainFront := List.forall_mem_append.2 ⟨plainAddress, plainLabel⟩
      cases statement with
      | some told =>
          rcases accountsStatement.passes_name with ⟨named, passed⟩
          refine ⟨_, named, ?_, passedFront.trans passed,
            List.forall_mem_append.2 ⟨plainFront,
              plain_instructionLexemes (some told.instruction)⟩⟩
          cases directive : told.instruction.isDirective <;>
            simp [instructionLexemes, Instruction.lexemes, directive]
      | none =>
          cases accountsStatement with
          | nothing passed =>
          exact ⟨_, last, by simp,
            passedFront.trans (passed.trans passedComments),
            List.forall_mem_append.2 ⟨plainFront,
              plain_commentLexemes trailing auto⟩⟩

end TokenStream

/-! ## Lines that are refused -/

theorem finish_not_mem_comments {front : List Lexeme}
    {trailing auto : Option String}
    (builds : ∀ lexeme ∈ front, Derives.Builds lexeme) :
    .finish ∉ front ++ commentLexemes trailing auto := by
  intro member
  rcases List.mem_append.1 member with isIn | isBehind
  · exact builds _ isIn
  · cases trailing <;> cases auto <;> simp [commentLexemes] at isBehind

/-- Phrases with comments behind them are told apart from the comments. -/
theorem eq_of_append_comments {front other back behind : List Lexeme}
    (same : front ++ back = other ++ behind)
    (builds : ∀ lexeme ∈ front, Derives.Builds lexeme)
    (buildsOther : ∀ lexeme ∈ other, Derives.Builds lexeme)
    (ends : ∀ lexeme ∈ back, ¬Derives.Builds lexeme)
    (endsOther : ∀ lexeme ∈ behind, ¬Derives.Builds lexeme) :
    front = other := by
  rcases List.append_eq_append_iff.1 same with
    ⟨more, rfl, rfl⟩ | ⟨more, rfl, rfl⟩
  · cases more with
    | nil => exact (List.append_nil front).symm
    | cons lexeme more =>
        exact absurd (buildsOther lexeme (by simp)) (ends lexeme (by simp))
  · cases more with
    | nil => exact List.append_nil other
    | cons lexeme more =>
        exact absurd (builds lexeme (by simp)) (endsOther lexeme (by simp))

/-- A directive is read in front of the comments. -/
theorem TokenStream.Takes.of_reads {lexer first second : Lexer}
    {lexemes front : List Lexeme} {trailing auto : Option String}
    (takes : Takes lexemes) (readsLexemes : lexer.Reads lexemes first)
    (reads : lexer.Reads (front ++ (commentLexemes trailing auto ++ [.finish]))
      second)
    (builds : ∀ lexeme ∈ lexemes, Derives.Builds lexeme) : Takes front := by
  rcases takes with ⟨dotted, name, raw, named⟩
  rcases Nat.le_total lexemes.length
    (front ++ (commentLexemes trailing auto ++ [Lexeme.finish])).length with
    shorter | longer
  · have start := readsLexemes.comparable reads shorter
    have inFront : ∀ lexeme ∈ lexemes, lexeme ∈ front := by
      intro lexeme member
      rcases List.mem_append.1 (start.subset member) with isIn | isBehind
      · exact isIn
      · exact absurd (builds lexeme member)
          (not_builds_of_comments trailing auto lexeme isBehind)
    exact ⟨inFront _ dotted, name, raw, inFront _ named⟩
  · have start := reads.comparable readsLexemes longer
    have finishes : Lexeme.finish ∈ lexemes := start.subset (by simp)
    exact (builds _ finishes).elim

namespace Line

variable {text : String} {lineNumber : Nat} {result : Bool × Line}

/-- No line that is accepted starts with a radix mark. -/
theorem startsRadix_eq_false_of_parse
    (accepted : Line.parse text lineNumber .assembly = .ok result) :
    Scan.startsRadix text.toList = false := by
  by_contra marked
  rw [Bool.not_eq_false] at marked
  rcases UnaryOp.startsRadix_iff.1 marked with ⟨op, radix, tail, written⟩
  have faces := faces_ofText text lineNumber .assembly
  rw [written] at faces
  rcases gives_sign op rfl (Grammar.skips_nil _) _ faces with
    ⟨between, reads, _⟩
  rcases accounts_of_parse accepted with ⟨last, accounts⟩
  rcases accounts.exists_plain with ⟨lexemes, after, visible, passed, plain⟩
  rcases (idle_ofText text lineNumber .assembly).exists_reads passed with
    ⟨other, readsPlain⟩
  have first := reads.comparable readsPlain
    (List.length_pos_iff.2 visible)
  have isPlain := plain _ (first.subset List.mem_cons_self)
  cases op with
  | plus | minus => cases radix
  | octal | hexadecimal => cases isPlain

/--
In front of the comments of a line that is accepted there is no radix mark,
unless a directive may have taken it with the rest of the line.
-/
theorem attended_of_parse {front : List Lexeme} {trailing auto : Option String}
    (accepted : Line.parse text lineNumber .assembly = .ok result)
    (gives : Gives .assembly .start text.toList
      (front ++ (commentLexemes trailing auto ++ [.finish])) .start [])
    (builds : ∀ lexeme ∈ front, Derives.Builds lexeme)
    (parsed : ¬Takes front) : Attended front := by
  rcases gives _ (faces_ofText text lineNumber .assembly) with
    ⟨between, reads, _⟩
  rcases accounts_of_parse accepted with ⟨last, accounts⟩
  rcases accounts.exists_attended with
    ⟨lexemes, after, passed, buildsLexemes, attended, ends⟩
  have idle := idle_ofText text lineNumber .assembly
  rcases ends with takes | ⟨written, autoWritten, rest⟩
  · rcases idle.exists_reads passed with ⟨other, readsLexemes⟩
    exact absurd (takes.of_reads readsLexemes reads buildsLexemes) parsed
  · rcases idle.exists_reads (passed.trans rest) with ⟨other, readsLexemes⟩
    rw [← List.append_assoc] at reads readsLexemes
    have same := reads.unique_of_finish readsLexemes
      (finish_not_mem_comments builds) (finish_not_mem_comments buildsLexemes)
    have ends := fun trailing auto =>
      (List.forall_mem_append.1 (not_builds_of_comments trailing auto)).1
    rw [eq_of_append_comments same builds buildsLexemes (ends _ _) (ends _ _)]
    exact attended

end Line

end Whirlwind
