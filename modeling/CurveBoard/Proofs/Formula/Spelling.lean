import CurveBoard.Proofs.Formula.Completeness
import Mathlib.Data.List.Chain
import Mathlib.Data.List.Infix

/-!
# The full spelling

What a pass has nothing to do in it leaves alone, and what it makes is such: no invertible function
is followed by the marks of its inverse, no product is due between neighbours, no logarithm is
short. No later pass brings back what an earlier one has removed, so all of them leave the full
spelling alone. And where a product is due, a sign that is written already takes the place of the
one that would be put in.
-/
namespace CurveBoard

/-! ### Inverses -/

/-- What means the inverse after the name of a function: the exponent -1, bare or in parentheses. -/
def inverseMarks : List (List Lexeme) :=
  [[.symbol .caret, .symbol .minus, .number ['1']],
    [.symbol .caret, .symbol .opening, .symbol .minus, .number ['1'], .symbol .closing]]

/-- Whether no invertible function is followed by the marks of its inverse. -/
def InverseFree (word : List Lexeme) : Prop :=
  ∀ f : NamedFunction, f.invertible = true → ∀ marks ∈ inverseMarks,
    ¬ (.name f.letters :: marks) <:+: word

section Inverses

variable {tokens rest : List Token} {t inverse : Token} {word marks : List Lexeme}

private theorem inverseSuffixLength_eq_zero_iff :
    inverseSuffixLength tokens = 0 ↔ ∀ marks ∈ inverseMarks, ¬ marks <+: lexemes tokens := by
  simp only [inverseMarks, List.forall_mem_cons, List.prefix_iff_eq_take, List.length_cons,
    List.length_nil]
  unfold inverseSuffixLength
  dsimp only
  split
  next three => simp [three]
  next other =>
    split
    next five => simp [five]
    next other' => simpa using ⟨fun same => other same.symm, fun same => other' same.symm⟩

/-- What the first pass drops are the marks of an inverse. -/
theorem take_inverseSuffixLength (tokens : List Token) : inverseSuffixLength tokens = 0 ∨
    lexemes (tokens.take (inverseSuffixLength tokens)) ∈ inverseMarks := by
  rw [lexemes, List.map_take]
  unfold inverseSuffixLength
  dsimp only
  split
  next three => exact .inr (by simp [three, inverseMarks])
  · split
    next five => exact .inr (by simp [five, inverseMarks])
    · exact .inl rfl

private theorem inverse?_isSome_iff :
    t.inverse?.isSome ↔ ∃ f : NamedFunction, f.invertible = true ∧
      t.lexeme = .name f.letters := by
  unfold Token.inverse?
  split
  next letters name =>
    cases found : NamedFunction.ofLetters? letters with
    | none => simpa [name] using fun f _ => NamedFunction.ne_letters found f
    | some f =>
      obtain rfl := NamedFunction.letters_of_ofLetters? found
      constructor
      · exact fun invertible => ⟨f, by simpa using invertible, name⟩
      · rintro ⟨g, invertible, same⟩
        rw [name] at same
        obtain rfl := NamedFunction.letters_injective (Lexeme.name.inj same)
        simp [invertible]
  next other => simpa using fun (f : NamedFunction) _ => other f.letters

private theorem inverse?_eq_some (found : t.inverse? = some inverse) :
    ∃ hyperbolic ratio, inverse.lexeme =
      .name (NamedFunction.circular true hyperbolic ratio).letters := by
  obtain ⟨f, invertible, name⟩ := inverse?_isSome_iff.1 (Option.isSome_of_eq_some found)
  -- only circular and hyperbolic functions have inverses, and inverses have none
  cases f with
  | circular inverse hyperbolic ratio =>
    cases inverse with
    | false =>
      simp only [Token.inverse?, name, NamedFunction.ofLetters?_letters, Option.any_some,
        invertible, if_pos, Option.some.injEq] at found
      exact ⟨hyperbolic, ratio, found ▸ rfl⟩
    | true => simp [NamedFunction.invertible] at invertible
  | _ => simp [NamedFunction.invertible] at invertible

private theorem inverseFree_cons {l : Lexeme} : InverseFree (l :: word) ↔
    (∀ f : NamedFunction, f.invertible = true → l = .name f.letters →
      ∀ marks ∈ inverseMarks, ¬ marks <+: word) ∧ InverseFree word := by
  simp only [InverseFree, List.infix_cons_iff, List.cons_prefix_cons, not_or, not_and]
  constructor
  · exact fun free => ⟨fun f invertible same marks member =>
      (free f invertible marks member).1 same.symm,
      fun f invertible marks member => (free f invertible marks member).2⟩
  · exact fun ⟨head, tail⟩ f invertible marks member =>
      ⟨fun same => head f invertible same.symm marks member, tail f invertible marks member⟩

theorem inverseFree_of_noCaret (noCaret : .symbol .caret ∉ word) : InverseFree word := by
  intro f _ marks member inside
  -- all marks of an inverse start with a caret
  have caret : .symbol .caret ∈ marks := by
    revert marks
    simp [inverseMarks]
  exact noCaret (inside.subset (.tail _ caret))

/-- The first pass leaves alone what has no marks of an inverse. -/
theorem spellInverses_of_inverseFree (free : InverseFree (lexemes tokens)) :
    spellInverses tokens = tokens := by
  induction tokens with
  | nil => rw [spellInverses]
  | cons t rest ih =>
    obtain ⟨head, tail⟩ := inverseFree_cons.1 free
    rw [spellInverses]
    split
    next found suffix =>
      -- an invertible function would be followed by the marks
      obtain ⟨f, invertible, name⟩ := inverse?_isSome_iff.1 (Option.isSome_of_eq_some found)
      have none := inverseSuffixLength_eq_zero_iff.2 (head f invertible name)
      rw [none] at suffix
      cases suffix
    · rw [ih tail]

theorem noName_of_mem_inverseMarks (member : marks ∈ inverseMarks) (letters : List Char) :
    .name letters ∉ marks := by
  revert marks
  simp [inverseMarks]

/-- The first pass writes names only. -/
theorem prefix_of_prefix_spellInverses (noName : ∀ letters, .name letters ∉ marks)
    (starts : marks <+: lexemes (spellInverses tokens)) : marks <+: lexemes tokens := by
  induction marks generalizing tokens with
  | nil => exact List.nil_prefix
  | cons l marks ih =>
    cases tokens with
    | nil => rwa [spellInverses] at starts
    | cons t rest =>
      rw [spellInverses] at starts
      split at starts
      next inverse length found suffix =>
        obtain ⟨hyperbolic, ratio, name⟩ := inverse?_eq_some found
        have same : l = _ := (List.cons_prefix_cons.1 starts).1.trans name
        exact absurd (List.mem_cons.2 (.inl same.symm)) (noName _)
      · obtain ⟨same, later⟩ := List.cons_prefix_cons.1 starts
        exact List.cons_prefix_cons.2 ⟨same, ih (fun letters inside =>
          noName letters (.tail _ inside)) later⟩

private theorem inverseFree_spellInverses (tokens : List Token) :
    InverseFree (lexemes (spellInverses tokens)) := by
  induction tokens using spellInverses.induct with
  | case1 => simp [spellInverses, InverseFree]
  | case2 t rest inverse length suffix found ih =>
    rw [spellInverses]
    simp only [found, suffix]
    refine inverseFree_cons.2 ⟨fun f invertible name => ?_, ih⟩
    -- an inverse has no inverse
    obtain ⟨hyperbolic, ratio, name'⟩ := inverse?_eq_some found
    obtain rfl := NamedFunction.letters_injective (Lexeme.name.inj (name.symm.trans name'))
    cases invertible
  | case3 t rest other ih =>
    rw [spellInverses]
    split
    next found suffix => exact (other _ _ found suffix).elim
    · refine inverseFree_cons.2 ⟨fun f invertible name marks member starts => ?_, ih⟩
      -- the marks would have been there before
      obtain ⟨inverse, found⟩ :=
        Option.isSome_iff_exists.1 (inverse?_isSome_iff.2 ⟨f, invertible, name⟩)
      have starts' := prefix_of_prefix_spellInverses (noName_of_mem_inverseMarks member) starts
      have some : inverseSuffixLength rest ≠ 0 :=
        fun zero => inverseSuffixLength_eq_zero_iff.1 zero marks member starts'
      obtain ⟨length, suffix⟩ := Nat.exists_eq_succ_of_ne_zero some
      exact other inverse length found suffix

end Inverses

/-! ### Products -/

/-- Whether a factor can end with a lexeme that goes on with another factor: a number, Euler's
number or a parenthesis that closes. -/
def Lexeme.EndsFactor : Lexeme → Prop
  | .number _ => True
  | .name letters => letters = Constant.e.letters
  | .symbol s => s = .closing

/-- Whether no product is due between neighbours. -/
def ProductFree (tokens : List Token) : Prop := tokens.IsChain fun t t' => productDue t t' = false

section Products

variable {tokens rest : List Token} {t t' s s' : Token}

/-- A product is due between the end of a factor and the start of an operand, unless both are
numbers. -/
theorem productDue_iff :
    productDue t t' = true ↔ t.lexeme.EndsFactor ∧ t'.lexeme.StartsOperand ∧
    ¬ ∃ digits digits', t.lexeme = .number digits ∧ t'.lexeme = .number digits' := by
  unfold productDue
  cases t.lexeme <;> cases t'.lexeme <;> simp [Lexeme.EndsFactor, Lexeme.StartsOperand]

private theorem productDue_congr (same : s.lexeme = t.lexeme) (same' : s'.lexeme = t'.lexeme) :
    productDue s s' = productDue t t' := by
  unfold productDue
  rw [same, same']

private theorem productDue_star_right (star : s.lexeme = .symbol .star) :
    productDue t s = false := by
  simp [← Bool.not_eq_true, productDue_iff, star, Lexeme.StartsOperand]

private theorem productDue_star_left (star : s.lexeme = .symbol .star) :
    productDue s t = false := by
  simp [← Bool.not_eq_true, productDue_iff, star, Lexeme.EndsFactor]

theorem spellProducts_of_productFree (free : ProductFree tokens) :
    spellProducts tokens = tokens := by
  induction tokens using spellProducts.induct with
  | case1 => rw [spellProducts]
  | case2 t => rw [spellProducts]
  | case3 t next rest due ih => cases due.symm.trans (List.isChain_cons_cons.1 free).1
  | case4 t next rest due ih => rw [spellProducts, if_neg due, ih free.tail]

private theorem spellProducts_cons (t : Token) (rest : List Token) :
    ∃ others, spellProducts (t :: rest) = t :: others := by
  cases rest with
  | nil => exact ⟨[], by rw [spellProducts]⟩
  | cons next rest =>
    rw [spellProducts]
    split <;> exact ⟨_, rfl⟩

private theorem productFree_spellProducts (tokens : List Token) :
    ProductFree (spellProducts tokens) := by
  induction tokens using spellProducts.induct with
  | case1 => simp [spellProducts, ProductFree]
  | case2 t => simp [spellProducts, ProductFree]
  | case3 t next rest due ih =>
    obtain ⟨others, start⟩ := spellProducts_cons next rest
    rw [start] at ih
    rw [spellProducts, if_pos due, start]
    exact .cons_cons (productDue_star_right rfl) (.cons_cons (productDue_star_left rfl) ih)
  | case4 t next rest due ih =>
    obtain ⟨others, start⟩ := spellProducts_cons next rest
    rw [start] at ih
    rw [spellProducts, if_neg due, start]
    exact .cons_cons (Bool.eq_false_iff.2 due) ih

/-- The second pass writes product signs only. -/
theorem prefix_of_prefix_spellProducts {word : List Lexeme} (noStar : .symbol .star ∉ word)
    (starts : word <+: lexemes (spellProducts tokens)) : word <+: lexemes tokens := by
  induction tokens using spellProducts.induct generalizing word with
  | case1 => rwa [spellProducts] at starts
  | case2 t => rwa [spellProducts] at starts
  | case3 t next rest due ih =>
    rw [spellProducts, if_pos due] at starts
    match word, starts with
    | [], _ => exact List.nil_prefix
    | [l], starts =>
      exact List.cons_prefix_cons.2 ⟨(List.cons_prefix_cons.1 starts).1, List.nil_prefix⟩
    | l :: l' :: word, starts =>
      obtain ⟨-, later⟩ := List.cons_prefix_cons.1 starts
      obtain ⟨rfl, -⟩ := List.cons_prefix_cons.1 later
      -- the second lexeme would be the star that is written there
      simp at noStar
  | case4 t next rest due ih =>
    rw [spellProducts, if_neg due] at starts
    cases word with
    | nil => exact List.nil_prefix
    | cons l word =>
      obtain ⟨same, later⟩ := List.cons_prefix_cons.1 starts
      exact List.cons_prefix_cons.2 ⟨same, ih (fun inside => noStar (.tail _ inside)) later⟩

private theorem noStar_of_mem_inverseMarks {marks : List Lexeme} (member : marks ∈ inverseMarks) :
    .symbol .star ∉ marks := by
  revert marks
  simp [inverseMarks]

/-- No inverse comes back with the product signs. -/
theorem inverseFree_spellProducts (free : InverseFree (lexemes tokens)) :
    InverseFree (lexemes (spellProducts tokens)) := by
  induction tokens using spellProducts.induct with
  | case1 => rwa [spellProducts]
  | case2 t => rwa [spellProducts]
  | case3 t next rest due ih =>
    obtain ⟨head, tail⟩ := inverseFree_cons.1 free
    rw [spellProducts, if_pos due]
    refine inverseFree_cons.2 ⟨fun f invertible name marks member starts => ?_,
      inverseFree_cons.2 ⟨fun f invertible name => by (cases name), ih tail⟩⟩
    -- no marks start with a product sign
    revert marks
    simp [inverseMarks]
  | case4 t next rest due ih =>
    obtain ⟨head, tail⟩ := inverseFree_cons.1 free
    rw [spellProducts, if_neg due]
    refine inverseFree_cons.2 ⟨fun f invertible name marks member starts => ?_, ih tail⟩
    exact head f invertible name marks member
      (prefix_of_prefix_spellProducts (noStar_of_mem_inverseMarks member) starts)

end Products

/-! ### Logarithms -/

section Logarithms

variable {tokens : List Token} {t t' : Token}

theorem spellLogarithm_eq_self (long : t.lexeme ≠ .name "log".toList) : spellLogarithm t = t := by
  rw [spellLogarithm, if_neg long]

/-- The last pass replaces one name by another. -/
theorem lexeme_spellLogarithm (t : Token) : (spellLogarithm t).lexeme = t.lexeme ∨
    t.lexeme = .name "log".toList ∧ (spellLogarithm t).lexeme =
      .name NamedFunction.decimalLogarithm.letters := by
  unfold spellLogarithm
  split
  next short => exact .inr ⟨short, rfl⟩
  · exact .inl rfl

private theorem lexeme_spellLogarithm_ne (t : Token) :
    (spellLogarithm t).lexeme ≠ .name "log".toList := by
  unfold spellLogarithm
  split
  · change Lexeme.name _ ≠ _
    decide
  next long => exact long

/-- Neither name of the logarithm ends a factor. -/
theorem endsFactor_spellLogarithm :
    (spellLogarithm t).lexeme.EndsFactor ↔ t.lexeme.EndsFactor := by
  rcases lexeme_spellLogarithm t with same | ⟨short, long⟩
  · rw [same]
  · rw [short, long]
    exact iff_of_false (by decide : ¬ _ = Constant.e.letters)
      (by decide : ¬ _ = Constant.e.letters)

private theorem productDue_spellLogarithm :
    productDue (spellLogarithm t) (spellLogarithm t') = productDue t t' := by
  rw [Bool.eq_iff_iff, productDue_iff, productDue_iff, endsFactor_spellLogarithm]
  rcases lexeme_spellLogarithm t' with same | ⟨short, long⟩
  · rcases lexeme_spellLogarithm t with same' | ⟨short', long'⟩
    · rw [same, same']
    · simp [same, short', long']
  · simp [short, long, Lexeme.StartsOperand]

private theorem productFree_map_spellLogarithm (free : ProductFree tokens) :
    ProductFree (tokens.map spellLogarithm) := by
  rw [ProductFree, List.isChain_map]
  exact free.imp fun t t' undue => productDue_spellLogarithm.trans undue

/-- The last pass writes a name only that no inverse is marked by. -/
theorem prefix_of_prefix_map_spellLogarithm {word : List Lexeme}
    (noName : ∀ letters, .name letters ∉ word)
    (starts : word <+: lexemes (tokens.map spellLogarithm)) : word <+: lexemes tokens := by
  induction word generalizing tokens with
  | nil => exact List.nil_prefix
  | cons l word ih =>
    cases tokens with
    | nil => exact starts
    | cons t rest =>
      obtain ⟨same, later⟩ := List.cons_prefix_cons.1 starts
      refine List.cons_prefix_cons.2 ⟨?_, ih (fun letters inside =>
        noName letters (.tail _ inside)) later⟩
      rcases lexeme_spellLogarithm t with same' | ⟨-, long⟩
      · exact same.trans same'
      · exact absurd (List.mem_cons.2 (.inl (same.trans long).symm)) (noName _)

private theorem inverseFree_map_spellLogarithm (free : InverseFree (lexemes tokens)) :
    InverseFree (lexemes (tokens.map spellLogarithm)) := by
  induction tokens with
  | nil => exact free
  | cons t rest ih =>
    obtain ⟨head, tail⟩ := inverseFree_cons.1 free
    refine inverseFree_cons.2 ⟨fun f invertible name marks member starts => ?_, ih tail⟩
    have starts' := prefix_of_prefix_map_spellLogarithm (noName_of_mem_inverseMarks member) starts
    rcases lexeme_spellLogarithm t with same | ⟨-, long⟩
    · exact head f invertible (same.symm.trans name) marks member starts'
    · -- the logarithm has no inverse that is written so
      obtain rfl := NamedFunction.letters_injective (Lexeme.name.inj (long.symm.trans name))
      cases invertible

end Logarithms

/-! ### All passes -/

section SpelledOut

variable (tokens : List Token)

private theorem inverseFree_spelledOut : InverseFree (lexemes (spelledOut tokens)) :=
  inverseFree_map_spellLogarithm (inverseFree_spellProducts (inverseFree_spellInverses tokens))

private theorem productFree_spelledOut : ProductFree (spelledOut tokens) :=
  productFree_map_spellLogarithm (productFree_spellProducts _)

private theorem map_spellLogarithm_map_spellLogarithm :
    (tokens.map spellLogarithm).map spellLogarithm = tokens.map spellLogarithm := by
  rw [List.map_map]
  exact List.map_congr_left fun t _ => spellLogarithm_eq_self (lexeme_spellLogarithm_ne t)

end SpelledOut

/-! ### Where it comes from -/

section Origins

variable {tokens before after : List Token} {t inverse : Token}

private theorem position_inverse? (found : t.inverse? = some inverse) :
    inverse.position = t.position := by
  unfold Token.inverse? at found
  split at found
  · split at found
    · cases found
      rfl
    · cases found
  · cases found

/-- The first pass keeps a token, or names a function where its name stands. -/
theorem origin_spellInverses (member : t ∈ spellInverses tokens) :
    ∃ o ∈ tokens, o.position = t.position ∧
    (t.lexeme = o.lexeme ∨ ∃ hyperbolic ratio,
      t.lexeme = .name (NamedFunction.circular true hyperbolic ratio).letters) := by
  induction tokens using spellInverses.induct with
  | case1 => simp [spellInverses] at member
  | case2 t' rest inverse length suffix found ih =>
    rw [spellInverses] at member
    simp only [found, suffix] at member
    rcases List.mem_cons.1 member with rfl | later
    · obtain ⟨hyperbolic, ratio, name⟩ := inverse?_eq_some found
      exact ⟨t', List.mem_cons_self, (position_inverse? found).symm,
        .inr ⟨hyperbolic, ratio, name⟩⟩
    · obtain ⟨o, member, same⟩ := ih later
      exact ⟨o, .tail _ (List.mem_of_mem_drop member), same⟩
  | case3 t' rest other ih =>
    rw [spellInverses] at member
    split at member
    next found suffix => exact (other _ _ found suffix).elim
    · rcases List.mem_cons.1 member with rfl | later
      · exact ⟨t, List.mem_cons_self, rfl, .inl rfl⟩
      · obtain ⟨o, member, same⟩ := ih later
        exact ⟨o, .tail _ member, same⟩

/-- The second pass writes its signs after the ends of factors, at the positions of the tokens that
follow. -/
theorem origin_spellProducts (split : spellProducts tokens = before ++ t :: after) :
    t ∈ tokens ∨
    t.lexeme = .symbol .star ∧ (∃ o ∈ tokens, o.position = t.position) ∧
    ∃ l ∈ before.getLast?, l.lexeme.EndsFactor := by
  induction tokens using spellProducts.induct generalizing before with
  | case1 => simp [spellProducts] at split
  | case2 t' =>
    rw [spellProducts] at split
    cases before with
    | nil => exact .inl (List.mem_singleton.2 (List.cons.inj split).1.symm)
    | cons b before => simp at split
  | case3 t' next rest due ih =>
    rw [spellProducts, if_pos due] at split
    match before with
    | [] => exact .inl (List.mem_cons.2 (.inl (List.cons.inj split).1.symm))
    | [b] =>
      obtain ⟨rfl, later⟩ := List.cons.inj split
      obtain ⟨rfl, -⟩ := List.cons.inj later
      -- the sign itself: a factor ends before it, and the next token gives it a position
      exact .inr ⟨rfl, ⟨next, by simp, rfl⟩, t', rfl, (productDue_iff.1 due).1⟩
    | b :: b' :: before =>
      obtain ⟨-, later⟩ := List.cons.inj split
      rcases ih (List.cons.inj later).2 with kept | ⟨star, ⟨o, member, same⟩, l, last, ends⟩
      · exact .inl (.tail _ kept)
      · exact .inr ⟨star, ⟨o, .tail _ member, same⟩, l,
          List.mem_getLast?_cons (List.mem_getLast?_cons last), ends⟩
  | case4 t' next rest due ih =>
    rw [spellProducts, if_neg due] at split
    match before with
    | [] => exact .inl (List.mem_cons.2 (.inl (List.cons.inj split).1.symm))
    | b :: before =>
      rcases ih (List.cons.inj split).2 with kept | ⟨star, ⟨o, member, same⟩, l, last, ends⟩
      · exact .inl (.tail _ kept)
      · exact .inr ⟨star, ⟨o, .tail _ member, same⟩, l, List.mem_getLast?_cons last, ends⟩

private theorem position_spellLogarithm (t : Token) : (spellLogarithm t).position = t.position := by
  unfold spellLogarithm
  split <;> rfl

/-- What is read stands where something has been written. It is the same lexeme, the name of a
function, or a product sign after the end of a factor. -/
theorem origin_spelledOut (split : spelledOut tokens = before ++ t :: after) :
    ∃ o ∈ tokens, o.position = t.position ∧
    (t.lexeme = o.lexeme ∨ (∃ f : NamedFunction, t.lexeme = .name f.letters) ∨
      t.lexeme = .symbol .star ∧ ∃ l ∈ before.getLast?, l.lexeme.EndsFactor) := by
  obtain ⟨before', rest, split', rfl, later⟩ := List.map_eq_append_iff.1 split
  obtain ⟨t', after', rfl, rfl, -⟩ := List.map_eq_cons_iff.1 later
  rw [position_spellLogarithm]
  rcases origin_spellProducts split' with member | ⟨star, ⟨u, member, same⟩, l, last, ends⟩
  · obtain ⟨o, member, same, origin⟩ := origin_spellInverses member
    refine ⟨o, member, same, ?_⟩
    rcases lexeme_spellLogarithm t' with kept | ⟨-, long⟩
    · exact kept ▸ origin.imp_right fun ⟨_, _, name⟩ => .inl ⟨_, name⟩
    · exact .inr (.inl ⟨_, long⟩)
  · obtain ⟨o, member, same', -⟩ := origin_spellInverses member
    refine ⟨o, member, same'.trans same,
      .inr (.inr ⟨?_, spellLogarithm l, ?_, endsFactor_spellLogarithm.2 ends⟩)⟩
    · rw [spellLogarithm_eq_self (by simp [star]), star]
    · rw [List.getLast?_map, Option.mem_def.1 last]
      rfl

theorem spelledOut_eq_nil_iff : spelledOut tokens = [] ↔ tokens = [] := by
  constructor
  · intro none
    cases tokens with
    | nil => rfl
    | cons t rest =>
      obtain ⟨t', others, first⟩ : ∃ t' others, spellInverses (t :: rest) = t' :: others := by
        rw [spellInverses]
        split <;> exact ⟨_, _, rfl⟩
      obtain ⟨others', start⟩ := spellProducts_cons t' others
      rw [spelledOut, first, start] at none
      cases none
  · rintro rfl
    rw [spelledOut, spellInverses, spellProducts, List.map_nil]

end Origins

/-! ### Product signs that are written -/

/-- Tokens with product signs at some of the places where a product is due; where they stand does
not matter. -/
inductive Starred : List Token → List Token → Prop
  | nil : Starred [] []
  | keep {t t' : Token} {tokens starred : List Token} (same : t'.lexeme = t.lexeme)
      (others : Starred tokens starred) :
      Starred (t :: tokens) (t' :: starred)
  | star {t t' next sign : Token} {rest starred : List Token} (same : t'.lexeme = t.lexeme)
      (due : productDue t next = true) (star : sign.lexeme = .symbol .star)
      (others : Starred (next :: rest) starred) :
      Starred (t :: next :: rest) (t' :: sign :: starred)

section Starred

variable {tokens starred : List Token}

/-- The first token is never a sign that has been added. -/
theorem Starred.uncons {t : Token} (written : Starred (t :: tokens) starred) :
    ∃ t' others, starred = t' :: others ∧ t'.lexeme = t.lexeme := by
  cases written with
  | keep same others => exact ⟨_, _, rfl, same⟩
  | star same due star others => exact ⟨_, _, rfl, same⟩

/-- A sign that is written is not put in. -/
theorem lexemes_spellProducts_starred (written : Starred tokens starred) :
    lexemes (spellProducts starred) = lexemes (spellProducts tokens) := by
  induction written with
  | nil => rfl
  | @keep t t' tokens starred same others ih =>
    cases tokens with
    | nil =>
      cases others
      simp [spellProducts, same]
    | cons next rest =>
      obtain ⟨next', rest', rfl, same'⟩ := others.uncons
      rw [spellProducts, spellProducts, productDue_congr same same']
      split <;> simpa [same] using ih
  | @star t t' next sign rest starred same due star others ih =>
    obtain ⟨next', rest', rfl, same'⟩ := others.uncons
    rw [spellProducts, if_neg (by simp [productDue_star_right star]), spellProducts,
      if_neg (by simp [productDue_star_left star]), spellProducts, if_pos due]
    simpa [same, star] using ih

/-- The last pass looks at lexemes only. -/
theorem lexemes_map_spellLogarithm (same : lexemes starred = lexemes tokens) :
    lexemes (starred.map spellLogarithm) = lexemes (tokens.map spellLogarithm) := by
  induction starred generalizing tokens with
  | nil =>
    obtain rfl := List.map_eq_nil_iff.1 same.symm
    rfl
  | cons t' starred ih =>
    obtain ⟨t, rest, rfl, head, tail⟩ := List.map_eq_cons_iff.1 same.symm
    refine congrArg₂ List.cons ?_ (ih tail.symm)
    unfold spellLogarithm
    rw [head]
    split
    · rfl
    · exact head.symm

/-- What is read depends on the lexemes and the variables only. -/
theorem readTokens_eq_ok_congr {scope scope' : Scope}
    (names : scope'.variableNames = scope.variableNames) (same : lexemes starred = lexemes tokens)
    (tree : Tree) (text : List Char) :
    readTokens scope' starred = .ok (tree, text) ↔
      readTokens scope tokens = .ok (tree, text) := by
  obtain ⟨names', ending⟩ := scope'
  obtain rfl : names' = scope.variableNames := names
  constructor
  · intro read
    obtain ⟨d, word, rfl, rfl⟩ := readTokens_sound read
    exact readTokens_complete scope d (word.trans same)
  · intro read
    obtain ⟨d, word, rfl, rfl⟩ := readTokens_sound read
    exact readTokens_complete ⟨scope.variableNames, ending⟩ d (word.trans same.symm)

end Starred

/-- The passes agree with each other: each leaves alone what it has made, and all of them what they
have made together, in which no product is due and no inverse is marked. Product signs that are
written beforehand at some of the places where a product is due change nothing about what is
read. -/
theorem spelledOut_coherent (tokens : List Token) :
    (spellInverses (spellInverses tokens) = spellInverses tokens ∧
      spellProducts (spellProducts tokens) = spellProducts tokens ∧
      (tokens.map spellLogarithm).map spellLogarithm = tokens.map spellLogarithm) ∧
    (spellInverses (spelledOut tokens) = spelledOut tokens ∧
      spellProducts (spelledOut tokens) = spelledOut tokens ∧
        (spelledOut tokens).map spellLogarithm = spelledOut tokens ∧
      spelledOut (spelledOut tokens) = spelledOut tokens) ∧
    ProductFree (spelledOut tokens) ∧ InverseFree (lexemes (spelledOut tokens)) ∧
    ∀ starred, Starred (spellInverses tokens) starred →
      ∀ scope scope' : Scope, scope'.variableNames = scope.variableNames → ∀ tree text,
        readTokens scope' ((spellProducts starred).map spellLogarithm) = .ok (tree, text) ↔
          readTokens scope (spelledOut tokens) = .ok (tree, text) := by
  have inverses := spellInverses_of_inverseFree (inverseFree_spelledOut tokens)
  have products := spellProducts_of_productFree (productFree_spelledOut tokens)
  have logarithms : (spelledOut tokens).map spellLogarithm = spelledOut tokens :=
    map_spellLogarithm_map_spellLogarithm _
  refine ⟨⟨spellInverses_of_inverseFree (inverseFree_spellInverses tokens),
    spellProducts_of_productFree (productFree_spellProducts tokens),
    map_spellLogarithm_map_spellLogarithm tokens⟩, ⟨inverses, products, logarithms, ?_⟩,
    productFree_spelledOut tokens, inverseFree_spelledOut tokens, ?_⟩
  · rw [spelledOut, inverses, products, logarithms]
  · intro starred written scope scope' names tree text
    exact readTokens_eq_ok_congr names
      (lexemes_map_spellLogarithm (lexemes_spellProducts_starred written)) tree text

end CurveBoard
