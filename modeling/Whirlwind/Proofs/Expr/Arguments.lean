import Whirlwind.Proofs.Expr.Names

/-!
# Arguments

A chain of commas is its arguments: every tree is the chain of a single list
(`Expr.chains_iff`).  Taking some of the arguments literally acts on each of them
by itself, so that it can be told from the list
(`Expr.arguments_takeLiterally`), and nothing else in the tree is changed
(`Expr.takeLiterally_changes`).
-/

namespace Whirlwind.Expr

/-- The names in an expression are those in its arguments. -/
theorem names_eq_flatMap_arguments (expr : Expr) :
    expr.names = expr.arguments.flatMap names := by
  fun_induction arguments expr with
  | case1 left right ih => rw [names, ih, List.flatMap_cons]
  | case2 other => exact (List.append_nil _).symm

/-- What is no chain of commas is its only argument. -/
theorem arguments_of_ne_comma {expr : Expr}
    (single : ∀ left right, expr ≠ .binary .comma left right) :
    expr.arguments = [expr] := by
  rw [arguments]
  exact single

theorem quoteName_ne_comma {expr : Expr}
    (single : ∀ left right, expr ≠ .binary .comma left right) :
    ∀ left right, expr.quoteName ≠ .binary .comma left right := by
  intro left right
  unfold quoteName
  split
  · nofun
  · exact single left right

/-- Each argument is taken literally or left as it is by its position. -/
theorem arguments_quoteArgumentsFrom (positions : List Nat) (position : Nat)
    (expr : Expr) :
    (expr.quoteArgumentsFrom positions position).arguments =
      expr.arguments.mapIdx fun index argument =>
        if positions.contains (position + index) then argument.quoteName
        else argument := by
  fun_induction quoteArgumentsFrom positions position expr with
  | case1 position left right ih =>
      rw [arguments, arguments, List.mapIdx_cons, ih]
      simp only [Nat.add_zero, Nat.add_assoc, Nat.add_comm 1]
  | case2 position last single listed =>
      rw [arguments_of_ne_comma single,
        arguments_of_ne_comma (quoteName_ne_comma single), List.mapIdx_cons,
        List.mapIdx_nil, Nat.add_zero, if_pos listed]
  | case3 position last single listed =>
      rw [arguments_of_ne_comma single, List.mapIdx_cons, List.mapIdx_nil,
        Nat.add_zero, if_neg listed]

theorem arguments_takeLiterally (positions : List Nat) (expr : Expr) :
    (expr.takeLiterally positions).arguments =
      expr.arguments.mapIdx fun index argument =>
        if positions.contains index then argument.quoteName
        else argument := by
  rw [takeLiterally, arguments_quoteArgumentsFrom]
  simp only [Nat.zero_add]

/-- A tree is the chain of commas, leaning to the right, of some arguments. -/
inductive Chains : List Expr → Expr → Prop where
  | single {last : Expr}
      (alone : ∀ left right, last ≠ .binary .comma left right) :
      Chains [last] last
  | comma {first chain : Expr} {rest : List Expr}
      (later : Chains rest chain) :
      Chains (first :: rest) (.binary .comma first chain)

theorem chains_arguments (expr : Expr) : Chains expr.arguments expr := by
  fun_induction arguments expr with
  | case1 left right ih => exact .comma ih
  | case2 other alone => exact .single alone

theorem Chains.arguments_eq {list : List Expr} {expr : Expr}
    (chains : Chains list expr) : expr.arguments = list := by
  induction chains with
  | single alone => exact arguments_of_ne_comma alone
  | comma later ih => rw [arguments, ih]

theorem chains_iff {list : List Expr} {expr : Expr} :
    Chains list expr ↔ expr.arguments = list :=
  ⟨Chains.arguments_eq, fun same => same ▸ chains_arguments expr⟩

/-- No two trees are chains of the same arguments. -/
theorem Chains.unique {list : List Expr} {one other : Expr}
    (chains : Chains list one) (again : Chains list other) : one = other := by
  induction chains generalizing other with
  | single alone =>
      generalize written : [_] = list at again
      cases again with
      | single => exact List.head_eq_of_cons_eq written
      | comma later =>
          obtain ⟨-, rfl⟩ := List.cons.inj written
          cases later
  | @comma first chain rest later ih =>
      generalize written : first :: rest = list at again
      cases again with
      | single =>
          obtain ⟨-, rfl⟩ := List.cons.inj written
          cases later
      | comma laterAgain =>
          obtain ⟨rfl, rfl⟩ := List.cons.inj written
          rw [ih laterAgain]

theorem eq_of_arguments_eq {one other : Expr}
    (same : one.arguments = other.arguments) : one = other :=
  (chains_arguments one).unique (same ▸ chains_arguments other)

/-! ## What is taken literally -/

variable {positions : List Nat} {expr argument : Expr} {index : Nat}

theorem quoteName_of_ne_identifier
    (other : ∀ name, argument ≠ .identifier name) :
    argument.quoteName = argument := by
  unfold quoteName
  split
  · exact absurd rfl (other _)
  · rfl

theorem getElem?_arguments_takeLiterally
    (stands : expr.arguments[index]? = some argument) :
    (expr.takeLiterally positions).arguments[index]? =
      some (if positions.contains index then argument.quoteName
        else argument) := by
  rw [arguments_takeLiterally, List.getElem?_mapIdx, stands, Option.map_some]

/-- A bare name at one of the positions becomes a string. -/
theorem getElem?_takeLiterally_name {name : String}
    (stands : expr.arguments[index]? = some (.identifier name))
    (listed : index ∈ positions) :
    (expr.takeLiterally positions).arguments[index]? = some (.string name) := by
  rw [getElem?_arguments_takeLiterally stands,
    if_pos (List.contains_iff_mem.2 listed), quoteName]

/-- Any other argument stays as it is. -/
theorem getElem?_takeLiterally_other
    (stands : expr.arguments[index]? = some argument)
    (other : index ∈ positions → ∀ name, argument ≠ .identifier name) :
    (expr.takeLiterally positions).arguments[index]? = some argument := by
  rw [getElem?_arguments_takeLiterally stands]
  split
  · next listed =>
    rw [quoteName_of_ne_identifier (other (List.contains_iff_mem.1 listed))]
  · rfl

/-- A tree stays as it is if no bare name is at one of the positions. -/
@[simp]
theorem takeLiterally_eq_self_iff :
    expr.takeLiterally positions = expr ↔
      ∀ position ∈ positions, ∀ name,
        expr.arguments[position]? ≠ some (.identifier name) := by
  constructor
  · intro same position listed name stands
    have taken := getElem?_takeLiterally_name stands listed
    rw [same, stands] at taken
    cases taken
  · intro apart
    apply eq_of_arguments_eq
    apply List.ext_getElem?
    intro position
    cases stands : expr.arguments[position]? with
    | none => simp [arguments_takeLiterally, stands]
    | some argument =>
        apply getElem?_takeLiterally_other stands
        rintro listed name rfl
        exact apart position listed name stands

/--
Taking arguments literally leaves their number as it is.  The bare names at the
positions become strings, and all other arguments stay as they are, whatever
names there are in them and whatever positions there are behind the last one.
The tree is the chain of the arguments that it has then.
-/
theorem takeLiterally_changes (positions : List Nat) (expr : Expr) :
    let taken := expr.takeLiterally positions
    Chains taken.arguments taken ∧
    taken.arguments.length = expr.arguments.length ∧
    (∀ index name, expr.arguments[index]? = some (.identifier name) →
      index ∈ positions → taken.arguments[index]? = some (.string name)) ∧
    (∀ index argument, expr.arguments[index]? = some argument →
      (index ∈ positions → ∀ name, argument ≠ .identifier name) →
      taken.arguments[index]? = some argument) ∧
    (taken = expr ↔ ∀ position ∈ positions, ∀ name,
      expr.arguments[position]? ≠ some (.identifier name)) := by
  intro taken
  refine ⟨chains_arguments taken, ?_,
    fun _ _ stands listed => getElem?_takeLiterally_name stands listed,
    fun _ _ stands other => getElem?_takeLiterally_other stands other,
    takeLiterally_eq_self_iff⟩
  rw [arguments_takeLiterally, List.length_mapIdx]

/-- The last of three arguments, a name in the first one, and no fifth one. -/
theorem takeLiterally_changes_last :
    let expr : Expr := .binary .comma
      (.binary .plus (.identifier "a") (.identifier "b"))
      (.binary .comma (.identifier "c") (.identifier "d"))
    let taken := expr.takeLiterally [0, 2, 4]
    expr.arguments[2]? = some (.identifier "d") ∧ 2 ∈ [0, 2, 4] ∧
      taken.arguments[2]? = some (.string "d") ∧
      expr.arguments[1]? = some (.identifier "c") ∧
      taken.arguments[1]? = some (.identifier "c") ∧
      taken = .binary .comma
        (.binary .plus (.identifier "a") (.identifier "b"))
        (.binary .comma (.identifier "c") (.string "d")) := by
  intro expr taken
  rcases takeLiterally_changes [0, 2, 4] expr with ⟨-, -, names, others, -⟩
  exact ⟨rfl, by decide, names 2 "d" rfl (by decide), rfl,
    others 1 (.identifier "c") rfl (fun listed => by simp at listed), rfl⟩

end Whirlwind.Expr
