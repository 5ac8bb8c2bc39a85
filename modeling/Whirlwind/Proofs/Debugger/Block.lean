import Whirlwind.Proofs.Debugger.Arguments
import Whirlwind.Proofs.Machine.Integer

/-!
# Blocks of memory

A block print shows words of memory in order, each on a row of its own.  No row
stands behind the first one whose address is outside memory (`IsBlock`), so
there are never more rows than memory has words and one.  The rows are counted
up to the greatest integer and not beyond it, so a block that starts there has
none, whatever is asked for (`ShowsBlock`).
-/

namespace Whirlwind

namespace Address

/-- An integer is the number of an address. -/
def Reaches (number : Int64) : Prop :=
  0 ≤ number.toInt ∧ number.toInt ≤ 0o3777

instance (number : Int64) : Decidable (Reaches number) :=
  inferInstanceAs (Decidable (_ ∧ _))

theorem exists_error_of_not_reaches {number : Int64}
    (outside : ¬Reaches number) :
    ∃ error, ofInteger number = .error error := by
  refine exists_error_of_outside ?_
  rw [Reaches] at outside
  omega

theorem toInt_add_one_of_reaches {number : Int64} (reaches : Reaches number) :
    (number + 1).toInt = number.toInt + 1 := by
  rcases reaches with ⟨low, high⟩
  have one : (1 : Int64).toInt = 1 := by decide
  rw [Int64.toInt_add, one, Int.bmod_eq_of_le (by omega) (by omega)]

end Address

/-- Addresses are those of a block of words: they follow one another from the
first one on, and all of them are there, unless the last one is outside memory
and cuts the others off. -/
structure IsBlock (base : Int64) (count : Nat) (addresses : List Int64) :
    Prop where
  consecutive :
    ∀ (place : Nat) (address : Int64), addresses[place]? = some address →
      address.toInt = base.toInt + place
  inside : ∀ address ∈ addresses.dropLast, Address.Reaches address
  atMost : addresses.length ≤ count
  complete :
    addresses.length = count ∨
      ∃ last, addresses.getLast? = some last ∧ ¬Address.Reaches last

/-! ## Addresses of a block -/

namespace IsBlock

variable {base : Int64} {count : Nat} {addresses others : List Int64}

theorem nothing (base : Int64) : IsBlock base 0 [] where
  consecutive _ _ found := nomatch found
  inside _ member := nomatch member
  atMost := Nat.le_refl 0
  complete := Or.inl rfl

/-- Behind an address outside memory there is none. -/
theorem single (outside : ¬Address.Reaches base) (count : Nat) :
    IsBlock base (count + 1) [base] where
  consecutive place address found := by
    rcases List.getElem?_eq_some_iff.1 found with ⟨within, rfl⟩
    have first : place = 0 := by
      simpa using within
    subst first
    simp
  inside _ member := nomatch member
  atMost := Nat.le_add_left 1 count
  complete := Or.inr ⟨base, rfl, outside⟩

/-- In front of the addresses that follow one in memory stands that one. -/
theorem cons (reaches : Address.Reaches base)
    (rest : IsBlock (base + 1) count addresses) :
    IsBlock base (count + 1) (base :: addresses) where
  consecutive place address found := by
    cases place with
    | zero =>
        rcases Option.some.inj found with rfl
        simp
    | succ place =>
        have behind := rest.consecutive place address found
        rw [Address.toInt_add_one_of_reaches reaches] at behind
        push_cast
        omega
  inside address member := by
    cases addresses with
    | nil => cases member
    | cons next later =>
        rw [List.dropLast_cons_cons] at member
        rcases List.mem_cons.1 member with rfl | among
        · exact reaches
        · exact rest.inside address among
  atMost := Nat.succ_le_succ rest.atMost
  complete := by
    rcases rest.complete with whole | ⟨last, ends, outside⟩
    · exact Or.inl (congrArg (· + 1) whole)
    · right
      refine ⟨last, ?_, outside⟩
      rw [List.getLast?_cons, ends, Option.getD_some]

/-- The address at a place that is not the last one is in memory. -/
theorem reaches_of_lt (block : IsBlock base count addresses) (place : Nat)
    (early : place + 1 < addresses.length) :
    0 ≤ base.toInt + place ∧ base.toInt + place ≤ 0o3777 := by
  have within : place < addresses.length := by omega
  have found := List.getElem?_eq_getElem within
  have among : addresses[place] ∈ addresses.dropLast := by
    have short : place < addresses.dropLast.length := by
      rw [List.length_dropLast]
      omega
    rw [← List.getElem_dropLast short]
    exact List.getElem_mem short
  have reaches := block.inside _ among
  rwa [Address.Reaches, block.consecutive place _ found] at reaches

/-- The address outside memory that a block ends with. -/
theorem outside_of_lt (block : IsBlock base count addresses)
    (short : addresses.length < count) :
    addresses ≠ [] ∧
      ¬(0 ≤ base.toInt + (addresses.length - 1 : Nat) ∧
        base.toInt + (addresses.length - 1 : Nat) ≤ 0o3777) := by
  rcases block.complete with whole | ⟨last, ends, outside⟩
  · omega
  · refine ⟨List.ne_nil_of_mem (List.mem_of_getLast? ends), ?_⟩
    rw [List.getLast?_eq_getElem?] at ends
    rwa [Address.Reaches, block.consecutive _ _ ends] at outside

/-- There is a row for each word of memory at most, and one behind them. -/
theorem length_le (block : IsBlock base count addresses) :
    addresses.length ≤ 2049 := by
  by_contra more
  have first := block.reaches_of_lt 0 (by omega)
  have late := block.reaches_of_lt 2048 (by omega)
  omega

/-- A block that is not empty starts with the address that it is asked for. -/
theorem head?_eq (block : IsBlock base count addresses) (some : 0 < count) :
    addresses.head? = .some base := by
  cases addresses with
  | nil =>
      rcases block.complete with whole | ⟨_, ends, _⟩
      · exact absurd whole (Nat.ne_of_lt some)
      · cases ends
  | cons first rest =>
      have same := block.consecutive 0 first rfl
      rw [List.head?_cons, Int64.toInt_inj.1 (same.trans (Int.add_zero _))]

theorem length_unique (block : IsBlock base count addresses)
    (other : IsBlock base count others) :
    ¬addresses.length < others.length := by
  intro shorter
  rcases block.outside_of_lt (Nat.lt_of_lt_of_le shorter other.atMost) with
    ⟨visible, outside⟩
  have positive := List.length_pos_iff.2 visible
  exact outside (other.reaches_of_lt _ (by omega))

/-- There is only one block of so many words from an address on. -/
theorem unique (block : IsBlock base count addresses)
    (other : IsBlock base count others) : addresses = others := by
  have length : addresses.length = others.length := by
    have notShorter := block.length_unique other
    have notLonger := other.length_unique block
    omega
  refine List.ext_getElem length fun place within withinOther => ?_
  apply Int64.toInt_inj.1
  rw [block.consecutive place _ (List.getElem?_eq_getElem within),
    other.consecutive place _ (List.getElem?_eq_getElem withinOther)]

end IsBlock

/-! ## Rows -/

namespace Debugger

variable {base count : Int64} {addresses others : List Int64}

/-- The row of an address. -/
def rowText (machine : LiveMachine) (format : DisplayFormat)
    (address : Int64) : String :=
  "  " ++ format.addressText address ++ " = " ++
    format.memoryText machine address ++ "\n"

/-- The addresses of so many rows from one address on, up to the first one
outside memory. -/
def rowAddresses (address : Int64) : Nat → List Int64
  | 0 => []
  | count + 1 =>
      address ::
        if Address.Reaches address then rowAddresses (address + 1) count
        else []

theorem blockRows_eq (machine : LiveMachine) (format : DisplayFormat)
    (address : Int64) (count : Nat) :
    blockRows machine format address count =
      String.join
        ((rowAddresses address count).map (rowText machine format)) := by
  induction count generalizing address with
  | zero => rfl
  | succ count ih =>
      rw [blockRows, rowAddresses, List.map_cons, String.join_cons, rowText]
      by_cases reaches : Address.Reaches address
      · rcases Address.exists_ofInteger_iff.2 reaches with ⟨place, found⟩
        rw [found, if_pos reaches, ih]
      · rcases Address.exists_error_of_not_reaches reaches with
          ⟨error, refused⟩
        rw [refused, if_neg reaches]
        rfl

theorem isBlock_rowAddresses (base : Int64) (count : Nat) :
    IsBlock base count (rowAddresses base count) := by
  induction count generalizing base with
  | zero => exact .nothing base
  | succ count ih =>
      rw [rowAddresses]
      split
      · next reaches => exact (ih (base + 1)).cons reaches
      · next outside => exact .single outside count

/-- The rows that a block print shows of so many words from an address on. -/
structure ShowsBlock (base count : Int64) (addresses : List Int64) : Prop where
  /-- The rows are those of the block, wherever it starts but at the greatest
  integer. -/
  isBlock_iff :
    IsBlock base count.toInt.toNat addresses ↔
      base.toInt < Integer.greatest ∨ count.toInt ≤ 0
  lost : base.toInt = Integer.greatest → addresses = []
  none : count.toInt ≤ 0 → addresses = []
  first :
    0 < count.toInt → base.toInt < Integer.greatest →
      addresses.head? = some base
  few : addresses.length ≤ 2049

theorem blockLength_le (base count : Int64) :
    blockLength base count ≤ count.toInt.toNat := by
  rw [blockLength]
  omega

/-- All words that are asked for are counted, or all up to the greatest
integer, of which the last one is outside memory. -/
theorem isBlock_of_counted
    (counted : base.toInt < Integer.greatest ∨ count.toInt ≤ 0) :
    IsBlock base count.toInt.toNat
      (rowAddresses base (blockLength base count)) := by
  have block := isBlock_rowAddresses base (blockLength base count)
  have atMost := Nat.le_trans block.atMost (blockLength_le base count)
  refine ⟨block.consecutive, block.inside, atMost, ?_⟩
  by_cases whole : blockLength base count = count.toInt.toNat
  · rw [← whole]
    exact block.complete
  · right
    have length : (blockLength base count : Int) =
        Integer.greatest - base.toInt := by
      rw [blockLength] at whole ⊢
      omega
    rcases block.complete with all | cutOff
    · have within : rowAddresses base (blockLength base count) ≠ [] := by
        apply List.ne_nil_of_length_pos
        omega
      have ends := List.getLast?_eq_some_getLast within
      refine ⟨_, ends, ?_⟩
      rw [List.getLast?_eq_getElem?] at ends
      have place := block.consecutive _ _ ends
      rw [Integer.greatest] at length
      rw [Address.Reaches]
      omega
    · exact cutOff

theorem eq_greatest_of_not
    (beyond : ¬(base.toInt < Integer.greatest ∨ count.toInt ≤ 0)) :
    base.toInt = Integer.greatest := by
  have most := (Integer.inRange_toInt base).2
  omega

/-- No rows are shown if the block starts at the greatest integer. -/
theorem rowAddresses_of_greatest (atEnd : base.toInt = Integer.greatest)
    (count : Int64) : rowAddresses base (blockLength base count) = [] := by
  have none : blockLength base count = 0 := by
    rw [blockLength]
    omega
  rw [none, rowAddresses]

theorem showsBlock_rowAddresses (base count : Int64) :
    ShowsBlock base count (rowAddresses base (blockLength base count)) where
  isBlock_iff := by
    refine ⟨fun block => ?_, isBlock_of_counted⟩
    by_contra beyond
    rw [rowAddresses_of_greatest (eq_greatest_of_not beyond)] at block
    have first := block.head?_eq (by omega)
    cases first
  lost atEnd := rowAddresses_of_greatest atEnd count
  none few := by
    have block : IsBlock base count.toInt.toNat _ :=
      isBlock_of_counted (Or.inr few)
    have length := block.atMost
    apply List.eq_nil_of_length_eq_zero
    omega
  first some inside :=
    (isBlock_of_counted (Or.inl inside)).head?_eq (by omega)
  few := (isBlock_rowAddresses base _).length_le

/-- What is said of the rows tells all of them. -/
theorem ShowsBlock.unique (shows : ShowsBlock base count addresses)
    (other : ShowsBlock base count others) : addresses = others := by
  by_cases counted : base.toInt < Integer.greatest ∨ count.toInt ≤ 0
  · exact (shows.isBlock_iff.2 counted).unique (other.isBlock_iff.2 counted)
  · have atEnd := eq_greatest_of_not counted
    rw [shows.lost atEnd, other.lost atEnd]

/-! ## What is asked for -/

/-- The format that the values behind the first two name, if there is one. -/
inductive NamesFormat : List Value → DisplayFormat → Prop where
  | missing : NamesFormat [] .octal
  | named {name : String} {format : DisplayFormat}
      (known : DisplayFormat.ofName? name = some format) :
      NamesFormat [.string name] format

/-- An operand asks for a block of words: for how many, from which address on,
and in which format.  The address is shown with the expression that it is. -/
structure AsksBlock (debugger : Debugger) (machine : LiveMachine)
    (operand : Option Expr) (base count : Int64) (format : DisplayFormat)
    (expr : Expr) : Prop where
  values :
    ∃ first second rest,
      debugger.argumentValues machine operand =
        .ok (first :: second :: rest) ∧
      first.GivesInteger base ∧ second.GivesInteger count ∧
      NamesFormat rest format
  shown : ∃ whole, operand = some whole ∧ whole.arguments.head? = some expr

/-- The header of a block and a row for each address. -/
def blockListing (machine : LiveMachine) (format : DisplayFormat)
    (base : Int64) (expr : Expr) (addresses : List Int64) : String :=
  format.namedAddressText base expr ++ ":\n" ++
    String.join (addresses.map (rowText machine format))

variable {debugger : Debugger} {machine : LiveMachine} {operand : Option Expr}

@[simp]
theorem integerArgument_eq_ok_iff {role : ArgumentRole} {value : Value}
    {number : Int64} :
    integerArgument role value = .ok number ↔ value.GivesInteger number := by
  refine ⟨fun found => ?_, fun gives =>
    integerArgument_of_givesInteger gives role⟩
  unfold integerArgument at found
  split at found
  · cases found
  · next counts => exact counts.trans (congrArg some (Except.ok.inj found))
  · cases found

@[simp]
theorem formatArgument_eq_ok_iff {value : Option Value}
    {format : DisplayFormat} :
    formatArgument value = .ok format ↔ NamesFormat value.toList format := by
  constructor
  · intro found
    cases value with
    | none =>
        rcases Except.ok.inj found with rfl
        exact .missing
    | some value =>
        cases value with
        | string name =>
            cases known : DisplayFormat.ofName? name with
            | none =>
                rw [formatArgument, DisplayFormat.ofValue, known] at found
                cases found
            | some other =>
                rw [formatArgument, DisplayFormat.ofValue, known] at found
                rcases Except.ok.inj found with rfl
                exact .named known
        | integer | negativeZero | fraction | list | undefined => cases found
  · intro names
    rcases value with _ | value
    · cases names
      rfl
    · cases names with
      | named known =>
          rw [formatArgument, DisplayFormat.ofValue, known]
          rfl

@[simp]
theorem blockArguments_eq_ok_iff {values : List Value} {base count : Value}
    {format : Option Value} :
    blockArguments values = .ok (base, count, format) ↔
      values = base :: count :: format.toList := by
  constructor
  · intro found
    unfold blockArguments at found
    split at found
    · cases found
      rfl
    · cases found
      rfl
    · cases found
  · rintro rfl
    cases format <;> rfl

@[simp]
theorem bind_eq_ok_iff {Before Result : Type}
    {found : Except DebuggerError Before}
    {proceed : Before → Except DebuggerError Result} {result : Result} :
    found >>= proceed = .ok result ↔
      ∃ between, found = .ok between ∧ proceed between = .ok result := by
  cases found with
  | ok between => simp [bind, Except.bind]
  | error error => simp [bind, Except.bind]

theorem blockText_eq_ok_iff {text : String} :
    debugger.blockText machine operand = .ok text ↔
      ∃ base count format expr,
        AsksBlock debugger machine operand base count format expr ∧
        text = blockListing machine format base expr
          (rowAddresses base (blockLength base count)) := by
  unfold blockText
  simp only [bind_eq_ok_iff, Prod.exists, integerArgument_eq_ok_iff,
    formatArgument_eq_ok_iff, blockArguments_eq_ok_iff]
  constructor
  · rintro ⟨values, found, first, second, last, rfl, base, givesBase, count,
      givesCount, format, names, shown⟩
    split at shown
    · next expr head =>
      rcases Option.bind_eq_some_iff.1 head with ⟨whole, rfl, head⟩
      rcases Except.ok.inj shown with rfl
      refine ⟨base, count, format, expr, ⟨⟨first, second, last.toList, found,
        givesBase, givesCount, names⟩, whole, rfl, head⟩, ?_⟩
      rw [blockListing, blockRows_eq]
    · cases shown
  · rintro ⟨base, count, format, expr, asks, rfl⟩
    rcases asks with ⟨⟨first, second, rest, found, givesBase, givesCount,
      names⟩, whole, rfl, head⟩
    have asked : ∃ last : Option Value, last.toList = rest := by
      cases names with
      | missing => exact ⟨none, rfl⟩
      | named known => exact ⟨some _, rfl⟩
    rcases asked with ⟨last, rfl⟩
    refine ⟨_, found, first, second, last, rfl, base, givesBase, count,
      givesCount, format, names, ?_⟩
    rw [Option.bind_some, head, blockListing, blockRows_eq]
    rfl

end Debugger

namespace Debugging

open Debugger

variable {debugger : Debugger} {machine : LiveMachine} {text : String}
  {operand : Option Expr}

/-- An action comes to one outcome only, and writes only one thing. -/
theorem comesTo_unique {Result : Type} {action : Debugging Result}
    {first second : Debugger} {outcome other : Except DebuggerError Result}
    {written more : ByteArray}
    (comes : ComesTo Console.mk action debugger outcome first written)
    (also : ComesTo Console.mk action debugger other second more) :
    outcome = other ∧ first = second ∧ written = more := by
  have run := (comes {} (Sink.hasRoom_of_unlimited rfl _)).symm.trans
    (also {} (Sink.hasRoom_of_unlimited rfl _))
  have same : outcome = other ∧
      Console.mk first (Sink.push {} written) =
        Console.mk second (Sink.push {} more) := by
    cases outcome <;> cases other
    · rcases EStateM.Result.error.inj run with ⟨rfl, last⟩
      exact ⟨rfl, last⟩
    · cases run
    · cases run
    · rcases EStateM.Result.ok.inj run with ⟨rfl, last⟩
      exact ⟨rfl, last⟩
  rcases same with ⟨rfl, last⟩
  rcases Console.mk.inj last with ⟨rfl, output⟩
  have accepted := congrArg Sink.accepted output
  simp only [Sink.push, ByteArray.empty_append] at accepted
  exact ⟨rfl, rfl, accepted⟩

theorem comesTo_printBlock {shown : String}
    (found : debugger.blockText machine
      (operand.map (·.takeLiterally Command.printBlock.literalArguments)) =
        .ok shown) :
    ComesTo Console.mk (execute machine .printBlock operand) debugger
      (.ok .stay) debugger.stopped shown.toUTF8 := by
  have carried : ComesTo Console.mk (carryOut machine .printBlock operand)
      debugger.stopped (.ok ⟨⟩) debugger.stopped shown.toUTF8 := by
    refine comesTo_get_bind (fun debugger =>
      require (debugger.blockText machine _) >>= write) ?_
    exact comesTo_require_bind found (comesTo_write _ _)
  have executed := comesTo_execute carried
  exact executed

theorem comesTo_printBlock_of_error {error : DebuggerError}
    (fails : debugger.blockText machine
      (operand.map (·.takeLiterally Command.printBlock.literalArguments)) =
        .error error) :
    ComesTo Console.mk (execute machine .printBlock operand) debugger
      (.error error) debugger.stopped .empty := by
  refine comesTo_execute_of_error ?_
  refine comesTo_get_bind (fun debugger =>
    require (debugger.blockText machine _) >>= write) ?_
  exact comesTo_require_bind_of_error fails

/-- A block print succeeds just if its operand asks for a block.  Then it writes
the header and the rows that are shown of the block, and nothing else. -/
theorem executeText_showsBlock_iff
    (asked : Request.ofText text = .named "pb" operand)
    (machine : LiveMachine) (debugger last : Debugger) (control : Control)
    (written : ByteArray) :
    ComesTo Console.mk (executeText machine text) debugger (.ok control) last
        written ↔
      control = .stay ∧ last = debugger.stopped ∧
        ∃ base count format expr addresses,
          AsksBlock debugger machine
            (operand.map
              (·.takeLiterally Command.printBlock.literalArguments))
            base count format expr ∧
          ShowsBlock base count addresses ∧
          written =
            (blockListing machine format base expr addresses).toUTF8 := by
  have known : Command.ofName? "pb" = some .printBlock := by decide
  rw [executeText_eq, asked]
  simp only [fulfil, known]
  constructor
  · intro comes
    cases found : debugger.blockText machine
        (operand.map
          (·.takeLiterally Command.printBlock.literalArguments)) with
    | error error =>
        cases (comesTo_unique comes (comesTo_printBlock_of_error found)).1
    | ok shown =>
        rcases comesTo_unique comes (comesTo_printBlock found) with
          ⟨stays, stopped, wrote⟩
        rcases blockText_eq_ok_iff.1 found with
          ⟨base, count, format, expr, asks, rfl⟩
        exact ⟨Except.ok.inj stays, stopped, base, count, format, expr, _,
          asks, showsBlock_rowAddresses base count, wrote⟩
  · rintro
      ⟨rfl, rfl, base, count, format, expr, addresses, asks, shows, rfl⟩
    rw [shows.unique (showsBlock_rowAddresses base count)]
    exact comesTo_printBlock
      (blockText_eq_ok_iff.2 ⟨base, count, format, expr, asks, rfl⟩)

/-- A block that reaches out of memory, and the one that starts at the greatest
integer, which has no row. -/
theorem executeText_showsBlock_iff_greatest :
    let machine : LiveMachine :=
      { readRegister := fun _ => none
        readMemory := fun _ => some ⟨7⟩
        disassemble := fun _ => "" }
    let debugger : Debugger := { symbols := {} }
    ComesTo Console.mk (executeText machine "pb 0o3777, 5, d") debugger
        (.ok .stay) debugger.stopped
        ("0d2047(0o3777):\n  0d2047 = 7\n" ++
          "  0d2048 = <addr-out-of-range>\n").toUTF8 ∧
      ComesTo Console.mk
        (executeText machine "pb 9223372036854775807, 1") debugger
        (.ok .stay) debugger.stopped
        "0o777777777777777777777(9223372036854775807):\n".toUTF8 := by
  intro machine debugger
  constructor
  · let operand : Expr :=
      .binary .comma (.digits "0o3777")
        (.binary .comma (.digits "5") (.identifier "d"))
    have asked : Request.ofText "pb 0o3777, 5, d" =
        .named "pb" (some operand) := by decide +kernel
    have shows := showsBlock_rowAddresses 2047 5
    have rows : rowAddresses 2047 (blockLength 2047 5) = [2047, 2048] := by
      decide +kernel
    rw [rows] at shows
    refine (executeText_showsBlock_iff asked machine debugger _ _ _).2
      ⟨rfl, rfl, 2047, 5, .decimal, .digits "0o3777", [2047, 2048], ?_,
        shows, by decide +kernel⟩
    exact ⟨⟨.plain 2047, .plain 5, [.string "d"], rfl, rfl, rfl, .named rfl⟩,
      _, rfl, rfl⟩
  · let operand : Expr :=
      .binary .comma (.digits "9223372036854775807") (.digits "1")
    have asked : Request.ofText "pb 9223372036854775807, 1" =
        .named "pb" (some operand) := by decide +kernel
    have shows := showsBlock_rowAddresses 9223372036854775807 1
    rw [rowAddresses_of_greatest (by decide)] at shows
    refine (executeText_showsBlock_iff asked machine debugger _ _ _).2
      ⟨rfl, rfl, 9223372036854775807, 1, .octal,
        .digits "9223372036854775807", [], ?_, shows, by decide +kernel⟩
    exact ⟨⟨.plain 9223372036854775807, .plain 1, [], rfl, rfl, rfl, .missing⟩,
      _, rfl, rfl⟩

end Debugging

end Whirlwind
