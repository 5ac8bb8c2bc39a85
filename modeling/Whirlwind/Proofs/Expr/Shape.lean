import Whirlwind.Proofs.Expr.Listing
import Whirlwind.Proofs.Token.Word

/-!
# The shapes of trees that are read

A tree that is said by lexemes of the shapes that a lexer finds has names and
numbers of these shapes, so its listing can be read (`Derives.wellFormed`).
Where only an atom is read, as behind `if`, the listing of a tree gives no more
than its first atom (`Expr.firstAtom?`), which is the whole tree only if that is
a single lexeme.
-/

namespace Whirlwind

/-- Whether a radix mark occurs in a tree. -/
def Expr.hasRadix : Expr → Bool
  | .binary _ left right | .apply left right =>
      left.hasRadix || right.hasRadix
  | .unary op operand => op.isRadix || operand.hasRadix
  | .identifier _ | .digits _ | .string _ => false

namespace Derives

variable {grammar : Grammar} {phrase : Phrase} {lexemes follow : List Lexeme}
  {expr : Expr}

/-- Without radix marks all numbers that are read are decimal. -/
theorem wellFormed (derived : Derives phrase lexemes follow expr)
    (shaped : ∀ lexeme ∈ lexemes, lexeme.Shaped grammar)
    (plain : ∀ lexeme ∈ lexemes, lexeme.isRadix = false) :
    expr.WellFormed := by
  induction derived with
  | tighter _ _ ih => exact ih shaped plain
  | joinLeft _ _ _ _ _ ihLeft ihRight
  | joinRight _ _ _ _ _ ihLeft ihRight =>
      simp only [List.forall_mem_append, List.forall_mem_cons] at shaped plain
      exact ⟨ihLeft shaped.1 plain.1, ihRight shaped.2.2 plain.2.2⟩
  | sign signs _ ih =>
      simp only [List.forall_mem_cons] at shaped plain
      have inner := ih shaped.2 plain.2
      cases signs with
      | plus | minus => exact inner
      | octal | hexadecimal => cases plain.1
  | zero =>
      exact ⟨by decide, List.forall_mem_singleton.2 rfl⟩
  | apply _ _ ihCallee ihArguments =>
      simp only [List.forall_mem_append, List.forall_mem_cons] at shaped plain
      exact ⟨ihCallee shaped.1 plain.1,
        ihArguments shaped.2.2.1 plain.2.2.1⟩
  | identifier | digits => exact shaped _ List.mem_cons_self
  | string => trivial
  | group _ ih =>
      simp only [List.forall_mem_append, List.forall_mem_cons] at shaped plain
      exact ih shaped.2.1 plain.2.1

/-- A tree has a radix mark if and only if the lexemes that say it have. -/
theorem plain_iff (derived : Derives phrase lexemes follow expr) :
    (∀ lexeme ∈ lexemes, lexeme.isRadix = false) ↔ expr.hasRadix = false := by
  have mark : ∀ character, (Lexeme.mark character).isRadix = false :=
    fun _ => rfl
  induction derived with
  | tighter _ _ ih => exact ih
  | joinLeft _ _ _ _ _ ihLeft ihRight
  | joinRight _ _ _ _ _ ihLeft ihRight =>
      simp only [List.forall_mem_append, List.forall_mem_cons, mark, true_and,
        ihLeft, ihRight, Expr.hasRadix, Bool.or_eq_false_iff]
  | sign signs _ ih =>
      simp only [List.forall_mem_cons, Expr.hasRadix, Bool.or_eq_false_iff, ih]
      cases signs <;> rfl
  | apply _ _ ihCallee ihArguments =>
      simp only [List.forall_mem_append, List.forall_mem_cons, mark, true_and,
        List.not_mem_nil, false_implies, implies_true, and_true, ihCallee,
        ihArguments, Expr.hasRadix, Bool.or_eq_false_iff]
  | zero | identifier | digits | string =>
      exact iff_of_true (List.forall_mem_singleton.2 rfl) rfl
  | group _ ih =>
      simp only [List.forall_mem_append, List.forall_mem_cons, mark, true_and,
        List.not_mem_nil, false_implies, implies_true, and_true, ih]

/-- Where no equals sign is an operator, nothing is assigned. -/
theorem hasAssignment_eq_false (derived : Derives phrase lexemes follow expr)
    (shaped : ∀ lexeme ∈ lexemes, lexeme.Wordlike grammar)
    (unassigned : grammar.isMark '=' = false) :
    expr.hasAssignment = false := by
  induction derived with
  | tighter _ _ ih => exact ih shaped
  | joinLeft joins _ _ _ _ ihLeft ihRight
  | joinRight joins _ _ _ _ ihLeft ihRight =>
      simp only [List.forall_mem_append, List.forall_mem_cons] at shaped
      have left := ihLeft shaped.1
      have right := ihRight shaped.2.2
      cases joins with
      | assign =>
          rcases shaped.2.1 with marked | sign
          · exact absurd (marked.symm.trans unassigned) (by decide)
          · cases sign
      | _ => simp [Expr.hasAssignment, left, right]
  | sign _ _ ih =>
      simp only [List.forall_mem_cons] at shaped
      exact ih shaped.2
  | apply _ _ ihCallee ihArguments =>
      simp only [List.forall_mem_append, List.forall_mem_cons] at shaped
      simp [Expr.hasAssignment, ihCallee shaped.1, ihArguments shaped.2.2.1]
  | zero | identifier | digits | string => rfl
  | group _ ih =>
      simp only [List.forall_mem_append, List.forall_mem_cons] at shaped
      exact ih shaped.2.1

end Derives

namespace Expr

/-- The atom with which the listing of a tree starts, if it starts with one. -/
def firstAtom? : Expr → Option Expr
  | .identifier name => some (.identifier name)
  | .digits text => some (.digits text)
  | .string text => some (.string text)
  | .unary _ _ => none
  | .apply callee _ => some callee
  | .binary op left _ =>
      if leftNeedsParentheses op left then some left else left.firstAtom?

theorem sizeOf_firstAtom?_le {expr inner : Expr}
    (found : expr.firstAtom? = some inner) : sizeOf inner ≤ sizeOf expr := by
  induction expr with
  | identifier | digits | string =>
      cases found
      exact Nat.le_refl _
  | unary => cases found
  | apply callee arguments =>
      cases found
      simp only [apply.sizeOf_spec]
      omega
  | binary op left right ihLeft =>
      simp only [binary.sizeOf_spec]
      unfold firstAtom? at found
      split at found
      · cases found
        omega
      · have smaller := ihLeft found
        omega

/-- Only a tree of a single lexeme is its own first atom. -/
@[simp]
theorem firstAtom?_eq_self_iff {expr : Expr} :
    expr.firstAtom? = some expr ↔ expr.isLeaf = true := by
  constructor
  · intro found
    cases expr with
    | identifier | digits | string => rfl
    | unary => cases found
    | apply callee arguments =>
        have size := congrArg sizeOf (Option.some.inj found)
        simp only [apply.sizeOf_spec] at size
        omega
    | binary op left right =>
        unfold firstAtom? at found
        have size : sizeOf (binary op left right) ≤ sizeOf left := by
          split at found
          · rw [← Option.some.inj found]
          · exact sizeOf_firstAtom?_le found
        simp only [binary.sizeOf_spec] at size
        omega
  · intro leaf
    cases expr with
    | identifier | digits | string => rfl
    | unary | apply | binary => cases leaf

/-- Nothing but a single lexeme binds as strongly as an atom. -/
theorem isLeaf_of_strength {expr : Expr}
    (strong : atomStrength ≤ expr.strength) : expr.isLeaf = true := by
  cases expr with
  | identifier | digits | string => rfl
  | unary | apply =>
      simp [strength, unaryStrength, applyStrength, atomStrength] at strong
  | binary op =>
      have bounded := op.level.strength_le
      simp only [strength, atomStrength] at strong
      omega

/-- Lexemes in parentheses are an atom, and so are those of a single leaf. -/
theorem derives_atom_enclosed {expr : Expr} {needed : Bool}
    (closed : needed = false → expr.isLeaf = true) (follow : List Lexeme) :
    Derives .atom (enclosed needed expr.lexemes) follow expr := by
  cases needed with
  | true => exact .group (expr.derives_list _)
  | false => exact derives_atom (closed rfl) follow

/-- The lexemes of a listing start with those of its first atom. -/
theorem derives_firstAtom {expr inner : Expr}
    (found : expr.firstAtom? = some inner) :
    ∃ front more, expr.lexemes = front ++ more ∧
      ∀ follow, Derives .atom front follow inner := by
  induction expr with
  | identifier | digits | string =>
      cases found
      exact ⟨_, [], (List.append_nil _).symm, derives_atom rfl⟩
  | unary => cases found
  | apply callee arguments =>
      cases found
      refine ⟨_, _, rfl, derives_atom_enclosed fun bare => ?_⟩
      exact isLeaf_of_strength (Nat.le_of_not_lt (of_decide_eq_false bare))
  | binary op left right ihLeft =>
      unfold firstAtom? at found
      split at found
      · next needed =>
        cases found
        refine ⟨_, _, rfl, derives_atom_enclosed fun bare => ?_⟩
        rw [needed] at bare
        cases bare
      · next bare =>
        rcases ihLeft found with ⟨front, more, same, derived⟩
        refine ⟨front, more ++ .mark op.mark ::
          enclosed (rightNeedsParentheses op right) right.lexemes, ?_, derived⟩
        rw [lexemes, enclosed, if_neg bare, same, List.append_assoc]

/-- A listing that starts with no atom starts with an operator. -/
theorem lexemes_of_firstAtom?_eq_none {expr : Expr}
    (absent : expr.firstAtom? = none) :
    ∃ op rest, expr.lexemes = .operator (UnaryOp.operator op) :: rest := by
  induction expr with
  | identifier | digits | string | apply => cases absent
  | unary op operand => exact ⟨op, _, rfl⟩
  | binary op left right ihLeft =>
      unfold firstAtom? at absent
      split at absent
      · cases absent
      · next bare =>
        rcases ihLeft absent with ⟨sign, rest, same⟩
        refine ⟨sign, rest ++ .mark op.mark ::
          enclosed (rightNeedsParentheses op right) right.lexemes, ?_⟩
        rw [lexemes, enclosed, if_neg bare, same, List.cons_append]

end Expr

end Whirlwind
