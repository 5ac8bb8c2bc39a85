import Whirlwind.Expr.Basic
import Whirlwind.Proofs.Token.Shape

/-!
# The grammar of expressions

The grammar is given by its productions, as a relation between a sequence of
lexemes and the tree that it says.  There is a kind of phrase for each level of
binding strength, and a phrase of a stronger kind is also one of the next
looser kind.

One production looks beyond its own lexemes: a minus sign stands for zero if a
closing parenthesis follows.  `Derives` therefore also has the lexemes that
follow the phrase.  Nothing else about them matters (`Derives.follow_congr`).
-/

namespace Whirlwind

/-- The kinds of phrases, loosest first. -/
inductive Phrase where
  | list
  | assignment
  | sum
  | product
  | conjunction
  | disjunction
  | path
  | signed
  | application
  | atom
  deriving DecidableEq, Repr

namespace Phrase

/-- The next stronger kind of phrase, of which operands are made. -/
def tighter? : Phrase → Option Phrase
  | .list => some .assignment
  | .assignment => some .sum
  | .sum => some .product
  | .product => some .conjunction
  | .conjunction => some .disjunction
  | .disjunction => some .path
  | .path => some .signed
  | .signed => some .application
  | .application => some .atom
  | .atom => none

/-- The characters that join two operands to a phrase of a kind. -/
inductive Joins : Phrase → Char → BinaryOp → Prop where
  | comma : Joins .list ',' .comma
  | assign : Joins .assignment '=' .assign
  | plus : Joins .sum '+' .plus
  | minus : Joins .sum '-' .minus
  | multiply : Joins .product '*' .multiply
  | divide : Joins .product '/' .divide
  | bitAnd : Joins .conjunction '&' .bitAnd
  | bitOr : Joins .disjunction '|' .bitOr
  | dot : Joins .path '.' .dot

/-- Whether a chain of operators of a kind leans to the right. -/
def leansRight : Phrase → Bool
  | .list | .assignment => true
  | _ => false

/-- The lexemes that stand in front of an operand. -/
inductive Signs : Lexeme → UnaryOp → Prop where
  | plus : Signs (.mark '+') .plus
  | minus : Signs (.mark '-') .minus
  | octal : Signs (.operator .octal) .octal
  | hexadecimal : Signs (.operator .hexadecimal) .hexadecimal

end Phrase

/--
A sequence of lexemes, in front of others that follow, is a phrase of a kind
and says a tree.
-/
inductive Derives : Phrase → List Lexeme → List Lexeme → Expr → Prop where
  /-- A phrase of a stronger kind. -/
  | tighter {phrase inner : Phrase} {lexemes follow : List Lexeme}
      {expr : Expr}
      (next : phrase.tighter? = some inner)
      (derived : Derives inner lexemes follow expr) :
      Derives phrase lexemes follow expr
  /-- An operator whose left operand may be a chain of the same kind. -/
  | joinLeft {phrase inner : Phrase} {character : Char} {op : BinaryOp}
      {front back follow : List Lexeme} {left right : Expr}
      (joins : phrase.Joins character op)
      (leans : phrase.leansRight = false)
      (next : phrase.tighter? = some inner)
      (derivedLeft :
        Derives phrase front (.mark character :: (back ++ follow)) left)
      (derivedRight : Derives inner back follow right) :
      Derives phrase (front ++ .mark character :: back) follow
        (.binary op left right)
  /-- An operator whose right operand may be a chain of the same kind. -/
  | joinRight {phrase inner : Phrase} {character : Char} {op : BinaryOp}
      {front back follow : List Lexeme} {left right : Expr}
      (joins : phrase.Joins character op)
      (leans : phrase.leansRight = true)
      (next : phrase.tighter? = some inner)
      (derivedLeft :
        Derives inner front (.mark character :: (back ++ follow)) left)
      (derivedRight : Derives phrase back follow right) :
      Derives phrase (front ++ .mark character :: back) follow
        (.binary op left right)
  /-- An operator in front of a signed operand. -/
  | sign {lexeme : Lexeme} {op : UnaryOp} {lexemes follow : List Lexeme}
      {operand : Expr}
      (signs : Phrase.Signs lexeme op)
      (derived : Derives .signed lexemes follow operand) :
      Derives .signed (lexeme :: lexemes) follow (.unary op operand)
  /-- A minus sign right before a closing parenthesis. -/
  | zero {follow : List Lexeme} :
      Derives .signed [.mark '-'] (.mark ')' :: follow) (.digits "0")
  /-- An atom and its arguments. -/
  | apply {front back follow : List Lexeme} {callee arguments : Expr}
      (derivedCallee :
        Derives .atom front
          (.mark '(' :: (back ++ .mark ')' :: follow)) callee)
      (derivedArguments :
        Derives .list back (.mark ')' :: follow) arguments) :
      Derives .application (front ++ .mark '(' :: (back ++ [.mark ')']))
        follow (.apply callee arguments)
  | identifier {name : String} {follow : List Lexeme} :
      Derives .atom [.identifier name] follow (.identifier name)
  | digits {text : String} {follow : List Lexeme} :
      Derives .atom [.digits text] follow (.digits text)
  | string {text : String} {follow : List Lexeme} :
      Derives .atom [.string text] follow (.string text)
  /-- A phrase in parentheses. -/
  | group {lexemes follow : List Lexeme} {expr : Expr}
      (derived : Derives .list lexemes (.mark ')' :: follow) expr) :
      Derives .atom (.mark '(' :: (lexemes ++ [.mark ')'])) follow expr

namespace Derives

/-- What follows matters only if it starts with a closing parenthesis. -/
theorem follow_congr {phrase : Phrase} {lexemes follow other : List Lexeme}
    {expr : Expr} (derived : Derives phrase lexemes follow expr)
    (closes : follow.head? = some (.mark ')') →
      other.head? = some (.mark ')')) :
    Derives phrase lexemes other expr := by
  induction derived generalizing other with
  | tighter next _ ih => exact .tighter next (ih closes)
  | joinLeft joins leans next _ _ ihLeft ihRight =>
      exact .joinLeft joins leans next (ihLeft (by simp)) (ihRight closes)
  | joinRight joins leans next _ _ ihLeft ihRight =>
      exact .joinRight joins leans next (ihLeft (by simp)) (ihRight closes)
  | sign signs _ ih => exact .sign signs (ih closes)
  | zero =>
      cases other with
      | nil => simp at closes
      | cons lexeme other =>
          obtain rfl : lexeme = .mark ')' := by simpa using closes
          exact .zero
  | apply _ _ ihCallee ihArguments =>
      exact .apply (ihCallee (by simp)) (ihArguments (by simp))
  | identifier => exact .identifier
  | digits => exact .digits
  | string => exact .string
  | group _ ih => exact .group (ih (by simp))

/-- What follows an atom does not matter. -/
theorem atom_follow {lexemes follow : List Lexeme} {expr : Expr}
    (derived : Derives .atom lexemes follow expr) (other : List Lexeme) :
    Derives .atom lexemes other expr := by
  cases derived with
  | tighter next | joinLeft _ _ next | joinRight _ _ next => cases next
  | identifier => exact .identifier
  | digits => exact .digits
  | string => exact .string
  | group derived => exact .group (derived.follow_congr (by simp))

/-- A lexeme with which an operand can start. -/
def Opens : Lexeme → Prop
  | .identifier _ | .digits _ | .string _ => True
  | lexeme => lexeme = .mark '(' ∨ ∃ op, Phrase.Signs lexeme op

/-- Every phrase starts with a lexeme that opens an operand. -/
theorem exists_cons {phrase : Phrase} {lexemes follow : List Lexeme}
    {expr : Expr} (derived : Derives phrase lexemes follow expr) :
    ∃ first rest, lexemes = first :: rest ∧ Opens first := by
  induction derived with
  | tighter _ _ ih => exact ih
  | joinLeft _ _ _ _ _ ih | joinRight _ _ _ _ _ ih =>
      rcases ih with ⟨first, rest, rfl, opens⟩
      exact ⟨first, _, rfl, opens⟩
  | sign signs =>
      refine ⟨_, _, rfl, ?_⟩
      cases signs <;> exact Or.inr ⟨_, by constructor⟩
  | zero => exact ⟨_, _, rfl, Or.inr ⟨_, .minus⟩⟩
  | apply _ _ ih =>
      rcases ih with ⟨first, rest, rfl, opens⟩
      exact ⟨first, _, rfl, opens⟩
  | identifier | digits | string => exact ⟨_, _, rfl, trivial⟩
  | group => exact ⟨_, _, rfl, Or.inl rfl⟩

/-- The lexemes of which phrases are made. -/
def Builds : Lexeme → Prop
  | .identifier _ | .digits _ | .string _ | .operator _ => True
  | .comment _ | .autoComment _ | .tab | .finish => False

theorem builds {phrase : Phrase} {lexemes follow : List Lexeme} {expr : Expr}
    (derived : Derives phrase lexemes follow expr) :
    ∀ lexeme ∈ lexemes, Builds lexeme := by
  induction derived with
  | tighter _ _ ih => exact ih
  | joinLeft _ _ _ _ _ ihLeft ihRight
  | joinRight _ _ _ _ _ ihLeft ihRight =>
      simp only [List.mem_append, List.mem_cons]
      rintro lexeme (front | rfl | back)
      · exact ihLeft _ front
      · trivial
      · exact ihRight _ back
  | sign signs _ ih =>
      simp only [List.mem_cons]
      rintro lexeme (rfl | member)
      · cases signs <;> trivial
      · exact ih _ member
  | apply _ _ ihCallee ihArguments =>
      simp only [List.mem_append, List.mem_cons, List.not_mem_nil, or_false]
      rintro lexeme (front | rfl | back | rfl)
      · exact ihCallee _ front
      · trivial
      · exact ihArguments _ back
      · trivial
  | group _ ih =>
      simp only [List.mem_append, List.mem_cons, List.not_mem_nil, or_false]
      rintro lexeme (rfl | inside | rfl)
      · trivial
      · exact ih _ inside
      · trivial
  | zero | identifier | digits | string => simp [Builds]

end Derives

end Whirlwind
