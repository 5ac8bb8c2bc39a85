import Whirlwind.Expr.Listing

/-!
# Names in expressions

The names that occur in an expression, and the expression with each of them
replaced.  Replacing keeps the shape of the tree, so the listing has the same
parentheses and operators.  If no name gets shorter, the listing stays as it is
only if every name does (`Expr.listing_mapNames_eq_iff`).
-/

namespace Whirlwind

namespace Text

/-- Parts of a text that get no shorter stay as they are if the text does. -/
theorem append_inj_of_length_le {front back newFront newBack : String}
    (longerFront : front.length ≤ newFront.length)
    (longerBack : back.length ≤ newBack.length)
    (same : newFront ++ newBack = front ++ back) :
    newFront = front ∧ newBack = back := by
  have lengths := congrArg String.length same
  simp only [String.length_append] at lengths
  have written := congrArg String.toList same
  simp only [String.toList_append] at written
  have aligned : newFront.toList.length = front.toList.length := by
    simp only [String.length_toList]
    omega
  rcases List.append_inj written aligned with ⟨sameFront, sameBack⟩
  exact ⟨String.toList_inj.1 sameFront, String.toList_inj.1 sameBack⟩

end Text

namespace Expr

/-- The names that occur in an expression, from left to right. -/
def names : Expr → List String
  | .binary _ left right => left.names ++ right.names
  | .unary _ operand => operand.names
  | .apply callee arguments => callee.names ++ arguments.names
  | .identifier name => [name]
  | .string _ | .digits _ => []

/-- An expression with each name in it replaced. -/
def mapNames (replace : String → String) : Expr → Expr
  | .binary op left right =>
      .binary op (left.mapNames replace) (right.mapNames replace)
  | .unary op operand => .unary op (operand.mapNames replace)
  | .apply callee arguments =>
      .apply (callee.mapNames replace) (arguments.mapNames replace)
  | .identifier name => .identifier (replace name)
  | .string text => .string text
  | .digits text => .digits text

variable {replace : String → String}

/-- An expression stays as it is if and only if each of its names does. -/
@[simp]
theorem mapNames_eq_self_iff {expr : Expr} :
    expr.mapNames replace = expr ↔
      ∀ name ∈ expr.names, replace name = name := by
  induction expr with
  | identifier | string | digits => simp [mapNames, names]
  | unary op operand ih => simp [mapNames, names, ih]
  | binary op left right ihLeft ihRight =>
      simp only [mapNames, names, binary.injEq, true_and, ihLeft, ihRight,
        List.forall_mem_append]
  | apply callee arguments ihCallee ihArguments =>
      simp only [mapNames, names, apply.injEq, ihCallee, ihArguments,
        List.forall_mem_append]

@[simp]
theorem strength_mapNames (expr : Expr) :
    (expr.mapNames replace).strength = expr.strength := by
  cases expr <;> rfl

@[simp]
theorem isDigits_mapNames (expr : Expr) :
    (expr.mapNames replace).isDigits = expr.isDigits := by
  cases expr <;> rfl

@[simp]
theorem leftNeedsParentheses_mapNames (op : BinaryOp) (left : Expr) :
    leftNeedsParentheses op (left.mapNames replace) =
      leftNeedsParentheses op left := by
  simp [leftNeedsParentheses]

@[simp]
theorem rightNeedsParentheses_mapNames (op : BinaryOp) (right : Expr) :
    rightNeedsParentheses op (right.mapNames replace) =
      rightNeedsParentheses op right := by
  simp [rightNeedsParentheses]

theorem length_parenthesized_le {text longer : String} (needed : Bool)
    (le : text.length ≤ longer.length) :
    (parenthesized needed text).length ≤
      (parenthesized needed longer).length := by
  cases needed
  · exact le
  · simpa [parenthesized] using le

theorem parenthesized_inj {text other : String} {needed : Bool} :
    parenthesized needed text = parenthesized needed other ↔
      text = other := by
  cases needed
  · exact Iff.rfl
  · simp [parenthesized, String.append_left_inj, String.append_right_inj]

/-- Names that get no shorter make no listing shorter. -/
theorem length_listing_le_mapNames
    (longer : ∀ name, name.length ≤ (replace name).length) (expr : Expr) :
    expr.listing.length ≤ (expr.mapNames replace).listing.length := by
  induction expr with
  | identifier name => exact longer name
  | string | digits => exact Nat.le_refl _
  | unary op operand ih =>
      have inner :=
        length_parenthesized_le (operand.strength < unaryStrength) ih
      simp only [mapNames, listing, strength_mapNames, isDigits_mapNames,
        String.length_append]
      omega
  | binary op left right ihLeft ihRight =>
      have front :=
        length_parenthesized_le (leftNeedsParentheses op left) ihLeft
      have back :=
        length_parenthesized_le (rightNeedsParentheses op right) ihRight
      simp only [mapNames, listing, leftNeedsParentheses_mapNames,
        rightNeedsParentheses_mapNames, String.length_append]
      omega
  | apply callee arguments ihCallee ihArguments =>
      have front :=
        length_parenthesized_le (callee.strength < atomStrength) ihCallee
      simp only [mapNames, listing, strength_mapNames, String.length_append]
      omega

/-- If no name gets shorter, a listing that stays has all its names kept. -/
theorem listing_mapNames_eq_iff
    (longer : ∀ name, name.length ≤ (replace name).length) (expr : Expr) :
    (expr.mapNames replace).listing = expr.listing ↔
      expr.mapNames replace = expr := by
  constructor
  · intro same
    induction expr with
    | identifier name => exact congrArg identifier same
    | string | digits => rfl
    | unary op operand ih =>
        simp only [mapNames, listing, strength_mapNames, isDigits_mapNames,
          String.append_right_inj, parenthesized_inj] at same
        rw [mapNames, ih same]
    | binary op left right ihLeft ihRight =>
        have longerLeft := length_parenthesized_le
          (leftNeedsParentheses op left)
          (length_listing_le_mapNames longer left)
        have longerRight := length_parenthesized_le
          (rightNeedsParentheses op right)
          (length_listing_le_mapNames longer right)
        simp only [mapNames, listing, leftNeedsParentheses_mapNames,
          rightNeedsParentheses_mapNames] at same
        rcases Text.append_inj_of_length_le
          (by simpa only [String.length_append, Nat.add_le_add_iff_right])
          longerRight same with ⟨sameFront, sameRight⟩
        rw [String.append_left_inj, parenthesized_inj] at sameFront
        rw [parenthesized_inj] at sameRight
        rw [mapNames, ihLeft sameFront, ihRight sameRight]
    | apply callee arguments ihCallee ihArguments =>
        have longerCallee := length_parenthesized_le
          (callee.strength < atomStrength)
          (length_listing_le_mapNames longer callee)
        have longerArguments := length_listing_le_mapNames longer arguments
        simp only [mapNames, listing, strength_mapNames,
          String.append_left_inj] at same
        rcases Text.append_inj_of_length_le
          (by simpa only [String.length_append, Nat.add_le_add_iff_right])
          longerArguments same with ⟨sameFront, sameArguments⟩
        rw [String.append_left_inj, parenthesized_inj] at sameFront
        rw [mapNames, ihCallee sameFront, ihArguments sameArguments]
  · exact congrArg listing

end Expr

end Whirlwind
