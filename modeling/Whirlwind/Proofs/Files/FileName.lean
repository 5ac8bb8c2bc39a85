import Whirlwind.Files.FileName

/-!
# Another extension for a file name

A name that gets another extension keeps all that stands in front of its last
part.  The part itself becomes another one, so that the name is that of another
file, unless it is a stem with just this extension.
-/

namespace Whirlwind.FileName

variable {path front part stem behind other extension : List UInt8}

/-! ## The last part -/

/-- A path is cut in front of its last part, which no slash follows. -/
structure IsCut (path front part : List UInt8) : Prop where
  joined : path = front ++ part
  front_ends : ∀ byte ∈ front.getLast?, byte = slash
  slash_not_mem : slash ∉ part
  filled : part ≠ []

/-- The last part of a path is what stands behind its last slash. -/
theorem exists_isCut (filled : path ≠ [])
    (last : path.getLast? ≠ some slash) :
    ∃ front part, IsCut path front part := by
  by_cases inPath : slash ∈ path
  · rcases List.eq_append_cons_of_mem (List.mem_reverse.2 inPath) with
      ⟨part, front, reversed, slash_not_mem⟩
    have joined : path = (front.reverse ++ [slash]) ++ part.reverse := by
      rw [← List.reverse_reverse path, reversed]
      simp
    refine ⟨front.reverse ++ [slash], part.reverse, joined, ?_, ?_, ?_⟩
    · simp
    · simpa using slash_not_mem
    · intro empty
      rw [joined, empty] at last
      simp at last
  · exact ⟨[], path, rfl, nofun, inPath, filled⟩

/-- What is taken from the end up to a byte stands behind the last such byte. -/
theorem takeWhile_reverse_append {byte : UInt8} (not_mem : byte ∉ part)
    (ends : ∀ last ∈ front.getLast?, last = byte) :
    ((front ++ part).reverse.takeWhile (· != byte)).reverse = part := by
  have inPart : ∀ other ∈ part.reverse, (other != byte) = true := by
    intro other member
    rw [bne_iff_ne]
    rintro rfl
    exact not_mem (List.mem_reverse.1 member)
  have none_taken : front.reverse.takeWhile (· != byte) = [] := by
    rcases reversed : front.reverse with _ | ⟨last, rest⟩
    · rfl
    · have same := ends last (by rw [← List.head?_reverse, reversed]; rfl)
      simp [same]
  rw [List.reverse_append, List.takeWhile_append_of_pos inPart, none_taken,
    List.append_nil, List.reverse_reverse]

/-- Only slashes, and dots behind slashes, are dropped. -/
theorem dropTrailing_cons {byte : UInt8} {rest : List UInt8}
    (notSlash : byte ≠ slash) (notDot : byte = dot → rest.head? ≠ some slash) :
    dropTrailing (byte :: rest) = byte :: rest := by
  unfold dropTrailing
  split
  · next same => exact absurd (List.cons.inj same).1 notSlash
  · next same =>
    rcases List.cons.inj same with ⟨rfl, rfl⟩
    exact absurd rfl (notDot rfl)
  · rfl

namespace IsCut

/-- A path that ends in a part does not end in a slash. -/
theorem getLast?_ne_slash (cut : IsCut path front part) :
    path.getLast? ≠ some slash := by
  intro last
  rw [cut.joined, List.getLast?_append, Option.or_eq_some_iff] at last
  rcases last with last | ⟨none_last, _⟩
  · exact cut.slash_not_mem (List.mem_of_getLast? last)
  · exact cut.filled (List.getLast?_eq_none_iff.1 none_last)

/-- Nothing is trimmed off a part, unless it stands for the place itself. -/
theorem trimmed_eq (cut : IsCut path front part) (named : part ≠ [dot]) :
    trimmed path = path := by
  suffices kept : dropTrailing path.reverse = path.reverse by
    rw [trimmed, kept, List.reverse_reverse]
  have slash_not_mem : slash ∉ part.reverse := by
    simpa using cut.slash_not_mem
  rw [cut.joined, List.reverse_append]
  rcases reversed : part.reverse with _ | ⟨byte, rest⟩
  · exact absurd (List.reverse_eq_nil_iff.1 reversed) cut.filled
  · rw [reversed] at slash_not_mem
    refine dropTrailing_cons (fun same => ?_) (fun isDot next => ?_)
    · exact slash_not_mem (same ▸ List.mem_cons_self)
    · rcases rest with _ | ⟨other, rest⟩
      · rw [isDot] at reversed
        exact named (by simpa using congrArg List.reverse reversed)
      · rcases Option.some.inj next with rfl
        exact slash_not_mem (List.mem_cons_of_mem _ List.mem_cons_self)

/-- The last part of a path names a file unless it consists of dots. -/
theorem lastPart?_eq (cut : IsCut path front part) (notDot : part ≠ [dot])
    (notDots : part ≠ [dot, dot]) : lastPart? path = some part := by
  rw [lastPart?, cut.trimmed_eq notDot, cut.joined,
    takeWhile_reverse_append cut.slash_not_mem cut.front_ends]
  simp [cut.filled, notDot, notDots]

/-- Where two dots stand for the last part, there is no file. -/
theorem lastPart?_dots (cut : IsCut path front [dot, dot]) :
    lastPart? path = none := by
  rw [lastPart?, cut.trimmed_eq (by decide), cut.joined,
    takeWhile_reverse_append cut.slash_not_mem cut.front_ends]
  simp

end IsCut

/-! ## Extensions -/

theorem splitAtLastDot?_append (stem : List UInt8) (dot_not_mem : dot ∉ behind) :
    splitAtLastDot? (stem ++ dot :: behind) = some (stem, behind) := by
  have ends : ∀ last ∈ (stem ++ [dot]).getLast?, last = dot := by simp
  have taken := takeWhile_reverse_append dot_not_mem ends
  rw [List.append_assoc, List.singleton_append] at taken
  have length : (stem ++ dot :: behind).length =
      stem.length + behind.length + 1 := by
    simp [Nat.add_assoc]
  have before : stem.length + behind.length + 1 - behind.length - 1 =
      stem.length := by
    omega
  rw [splitAtLastDot?, taken, length, before, List.take_left]
  exact if_pos (by omega)

theorem splitAtLastDot?_of_not_mem (dot_not_mem : dot ∉ part) :
    splitAtLastDot? part = none := by
  have ends : ∀ last ∈ ([] : List UInt8).getLast?, last = dot := nofun
  have taken := takeWhile_reverse_append dot_not_mem ends
  rw [List.nil_append] at taken
  rw [splitAtLastDot?, taken]
  simp

/-- A part that ends in an extension is some part with a dot in it. -/
theorem exists_eq_append_of_dot_mem (dot_mem : dot ∈ part) :
    ∃ stem behind, part = stem ++ dot :: behind ∧ dot ∉ behind := by
  rcases List.eq_append_cons_of_mem (List.mem_reverse.2 dot_mem) with
    ⟨behind, stem, reversed, dot_not_mem⟩
  refine ⟨stem.reverse, behind.reverse, ?_, by simpa using dot_not_mem⟩
  rw [← List.reverse_reverse part, reversed]
  simp

/-- A part without an extension: its only dot, if there is one, leads it. -/
def IsBare (part : List UInt8) : Prop :=
  dot ∉ part ∨ ∃ behind, part = dot :: behind ∧ dot ∉ behind

theorem IsBare.ne_dots (bare : IsBare part) : part ≠ [dot, dot] := by
  rintro rfl
  rcases bare with dot_not_mem | ⟨behind, same, dot_not_mem⟩
  · simp at dot_not_mem
  · rcases (List.cons.inj same).2 with rfl
    simp at dot_not_mem

namespace IsCut

theorem stemAndExtension?_of_isBare (cut : IsCut path front part)
    (notDot : part ≠ [dot]) (bare : IsBare part) :
    stemAndExtension? path = some (part, none) := by
  rw [stemAndExtension?, cut.lastPart?_eq notDot bare.ne_dots, Option.map_some]
  rcases bare with none_dot | ⟨behind, rfl, none_dot⟩
  · rw [splitAtLastDot?_of_not_mem none_dot]
  · have split := splitAtLastDot?_append [] none_dot
    rw [List.nil_append] at split
    rw [split]

theorem stemAndExtension?_of_stem
    (cut : IsCut path front (stem ++ dot :: behind)) (named : stem ≠ [])
    (notDots : stem ++ dot :: behind ≠ [dot, dot]) (dot_not_mem : dot ∉ behind) :
    stemAndExtension? path = some (stem, some behind) := by
  have notDot : stem ++ dot :: behind ≠ [dot] := by
    rcases stem with _ | ⟨byte, stem⟩
    · exact absurd rfl named
    · simp
  rw [stemAndExtension?, cut.lastPart?_eq notDot notDots, Option.map_some,
    splitAtLastDot?_append stem dot_not_mem]
  rcases stem with _ | ⟨byte, stem⟩
  · exact absurd rfl named
  · rfl

theorem endingWith_eq {extension? : Option (List UInt8)}
    (cut : IsCut path front part) (notDot : part ≠ [dot])
    (notDots : part ≠ [dot, dot])
    (stemmed : stemAndExtension? path = some (stem, extension?)) :
    endingWith extension path = front ++ (stem ++ dot :: extension) := by
  rw [endingWith, cut.lastPart?_eq notDot notDots, stemmed]
  dsimp only
  rw [cut.trimmed_eq notDot, cut.joined]
  simp

/-- What stands in front of an extension is cut off with it, but for the dot. -/
theorem withoutExtension_of_stem
    (cut : IsCut path front (stem ++ dot :: behind)) (named : stem ≠ [])
    (notDots : stem ++ dot :: behind ≠ [dot, dot]) (dot_not_mem : dot ∉ behind) :
    withoutExtension path = front ++ (stem ++ [dot]) := by
  rw [withoutExtension,
    cut.stemAndExtension?_of_stem named notDots dot_not_mem]
  have joined : path = (front ++ (stem ++ [dot])) ++ behind := by
    simp [cut.joined]
  dsimp only
  rw [joined, List.length_append, Nat.add_sub_cancel, List.take_left]

/-- A part that has no extension gets one. -/
theorem withExtension_of_isBare (cut : IsCut path front part)
    (notDot : part ≠ [dot]) (bare : IsBare part) :
    withExtension extension path = front ++ (part ++ dot :: extension) := by
  have stemmed := cut.stemAndExtension?_of_isBare notDot bare
  have kept : withoutExtension path = path := by
    rw [withoutExtension, stemmed]
  rw [withExtension, kept]
  exact cut.endingWith_eq notDot (bare.ne_dots) stemmed

/-- A stem with another extension may stand for the part that it is taken from. -/
theorem replaceExtension (cut : IsCut path front (stem ++ other))
    (inPart : slash ∉ extension) :
    IsCut (front ++ (stem ++ dot :: extension)) front
      (stem ++ dot :: extension) where
  joined := rfl
  front_ends := cut.front_ends
  slash_not_mem member := by
    rcases List.mem_append.1 member with inStem | behind
    · exact cut.slash_not_mem (List.mem_append_left _ inStem)
    · rcases List.mem_cons.1 behind with isDot | inExtension
      · exact absurd isDot (by decide)
      · exact inPart inExtension
  filled := by simp

/-- A part that has an extension gets another one in its place. -/
theorem withExtension_of_stem
    (cut : IsCut path front (stem ++ dot :: behind)) (named : stem ≠ [])
    (notDot : stem ≠ [dot]) (dot_not_mem : dot ∉ behind) :
    withExtension extension path = front ++ (stem ++ dot :: extension) := by
  have apart : stem ++ dot :: behind ≠ [dot, dot] := by
    intro same
    have split := splitAtLastDot?_append stem dot_not_mem
    rw [same] at split
    exact notDot (congrArg Prod.fst (Option.some.inj split)).symm
  have shorter : stem ++ [dot] ≠ [dot, dot] := by
    intro same
    have doubled : stem ++ [dot] = [dot] ++ [dot] := same
    exact notDot (List.append_cancel_right doubled)
  have without := cut.replaceExtension (List.not_mem_nil (a := slash))
  rw [withExtension, cut.withoutExtension_of_stem named apart dot_not_mem]
  exact without.endingWith_eq (by simpa using named) shorter
    (without.stemAndExtension?_of_stem named shorter (by simp))

/-- If only two dots are left of a part, they are all that there is. -/
theorem withExtension_of_dots (cut : IsCut path front (dot :: dot :: behind))
    (filled : behind ≠ []) (dot_not_mem : dot ∉ behind) :
    withExtension extension path = front ++ [dot, dot] := by
  have stem : IsCut path front ([dot] ++ dot :: behind) := cut
  have shorter := stem.withoutExtension_of_stem (by simp)
    (by simpa using filled) dot_not_mem
  rw [withExtension, shorter, endingWith, (stem.replaceExtension (by simp)).lastPart?_dots]
  rfl

end IsCut

/-! ## Names with an extension -/

/-- A name ends in a part that is a stem with an extension. -/
def HasExtension (extension path : List UInt8) : Prop :=
  ∃ front stem, IsCut path front (stem ++ dot :: extension) ∧
    stem ≠ [] ∧ stem ≠ [dot]

/-- The extension that a name has is put in its own place. -/
theorem withExtension_of_hasExtension (plain : dot ∉ extension)
    (has : HasExtension extension path) :
    withExtension extension path = path := by
  rcases has with ⟨front, stem, cut, named, notDot⟩
  rw [cut.withExtension_of_stem named notDot plain, cut.joined]

/-- A name that has another extension, or none, becomes another one, in the
same place. -/
theorem IsCut.exists_isCut_withExtension (cut : IsCut path front part)
    (notDot : part ≠ [dot]) (notDots : part ≠ [dot, dot])
    (inPart : slash ∉ extension) (others : ¬ HasExtension extension path) :
    ∃ final, IsCut (withExtension extension path) front final ∧
      final ≠ part := by
  have ofBare (bare : IsBare part) :
      ∃ final, IsCut (withExtension extension path) front final ∧
        final ≠ part := by
    refine ⟨part ++ dot :: extension, ?_, by simp⟩
    rw [cut.withExtension_of_isBare notDot bare]
    rw [← List.append_nil part] at cut
    exact cut.replaceExtension inPart
  by_cases dot_mem : dot ∈ part
  · rcases exists_eq_append_of_dot_mem dot_mem with
      ⟨stem, behind, rfl, dot_not_mem⟩
    by_cases leading : stem = []
    · exact ofBare (Or.inr ⟨behind, by rw [leading]; rfl, dot_not_mem⟩)
    by_cases dots : stem = [dot]
    · rcases dots with rfl
      have filled : behind ≠ [] := by
        rintro rfl
        exact notDots rfl
      refine ⟨[dot, dot], ?_, Ne.symm notDots⟩
      rw [cut.withExtension_of_dots filled dot_not_mem]
      exact cut.replaceExtension (List.not_mem_nil (a := slash))
    · refine ⟨stem ++ dot :: extension, ?_, fun same => ?_⟩
      · rw [cut.withExtension_of_stem leading dots dot_not_mem]
        exact cut.replaceExtension inPart
      · exact others ⟨front, stem, same ▸ cut, leading, dots⟩
  · exact ofBare (Or.inl dot_mem)

end Whirlwind.FileName
