import CurveBoard.Proofs.Board.Inputs
import CurveBoard.Proofs.Formula.Transfer

/-!
# The variable that a formula is written in

Nobody has to say which variable a formula is written in: it is read in all variables that curves
may be written in, and the one that it names is taken. Read in this variable alone it is the same
formula, since a formula does not look at variables that it does not name. A formula that names none
can be read in each of them. And one that can be read in one of them names no other, so that nothing
is lost by inferring the variable.
-/
namespace CurveBoard

namespace Derivation

variable {names : List (List Char)}

/-- A derivation names only the variables that it is made with. -/
theorem mem_of_mem_freeNames {part : Part} (d : Derivation names part) {name : List Char}
    (member : name ∈ d.freeNames) : name ∈ names := by
  induction d with
  | «variable» name' known noFunction =>
    have same : name = name' := List.mem_singleton.1 member
    rw [same]
    exact known
  | sum first others ih ih' | term _ first others ih ih' | product first others ih ih'
  | factor _ first others ih ih' | raised first others ih ih' | argument first others ih ih' =>
    -- what two parts name is named by one of them
    rcases List.mem_append.1 member with earlier | later
    · exact ih earlier
    · exact ih' later
  | signed _ _ ih | unsigned _ ih | factorial _ _ ih | bare _ ih | signedExponent _ _ ih
  | unsignedExponent _ ih
  | group _ ih | call _ _ _ ih | lastArgument _ ih => exact ih member
  | noTerm | noFactor | number | constant => cases member

end Derivation

namespace Tree

mutual

/-- The names of a tree are those of the variables in it. -/
theorem mem_names_iff {name : List Char} :
    (t : Tree) → (name ∈ t.names ↔ .free name ∈ t.nodes)
  | number _ => by simp [names, nodes]
  | constant _ => by simp [names, nodes]
  | free _ => by simp [names, nodes]
  | signed _ operand => by simp [names, nodes, mem_names_iff operand]
  | binary _ left right => by simp [names, nodes, mem_names_iff left, mem_names_iff right]
  | call _ arguments => by simp [names, nodes, mem_namesOfAll_iff arguments]

theorem mem_namesOfAll_iff {name : List Char} :
    (ts : List Tree) → (name ∈ namesOfAll ts ↔ .free name ∈ nodesOfAll ts)
  | [] => by simp [namesOfAll, nodesOfAll]
  | t :: rest => by simp [namesOfAll, nodesOfAll, mem_names_iff t, mem_namesOfAll_iff rest]

end

/-- A tree is constant just if there is no variable in it. -/
theorem isConstant_iff {t : Tree} : t.isConstant = true ↔ ∀ name, .free name ∉ t.nodes := by
  rw [isConstant, List.isEmpty_iff, List.eq_nil_iff_forall_not_mem]
  simp only [mem_names_iff]

/-- No variables are listed just if none is named. -/
theorem variableNames_eq_nil {t : Tree} : t.variableNames = [] ↔ t.names = [] := by
  rw [variableNames, alphabetical, ← List.length_eq_zero_iff, List.length_mergeSort,
    List.length_map, List.length_eq_zero_iff]
  cases t.names with
  | nil => simp
  | cons first rest => simp [List.eraseDups_cons]

/-- One variable is listed just if it is named and no other is. -/
theorem variableNames_eq_singleton {t : Tree} {name : String} :
    t.variableNames = [name] ↔ t.names ≠ [] ∧ ∀ letters ∈ t.names,
      letters = name.toList := by
  rw [variableNames, alphabetical]
  constructor
  · intro single
    have listed : t.names.eraseDups.map String.ofList = [name] :=
      List.perm_singleton.1 (single ▸ (List.mergeSort_perm _ _).symm)
    have first : t.names.eraseDups = [name.toList] := by
      obtain ⟨letters, only, same⟩ := List.map_eq_singleton_iff.1 listed
      rw [only, ← same, String.toList_ofList]
    constructor
    · intro none
      rw [none] at first
      cases first
    · intro letters member
      have kept : letters ∈ t.names.eraseDups := List.mem_eraseDups.2 member
      rw [first] at kept
      exact List.mem_singleton.1 kept
  · rintro ⟨some, same⟩
    cases names_eq : t.names with
    | nil => exact absurd names_eq some
    | cons first rest =>
      rw [names_eq] at same
      have first_eq : first = name.toList := same first List.mem_cons_self
      -- what comes later is the same name again
      have none_else : rest.filter (fun letters => !letters == first) = [] := by
        rw [List.filter_eq_nil_iff]
        intro letters member
        have letters_eq := same letters (List.mem_cons_of_mem _ member)
        simp [letters_eq, first_eq]
      rw [List.eraseDups_cons, none_else, List.eraseDups_nil, first_eq]
      simp

end Tree

namespace Formula

variable {source name : String} {formula : Formula}

/-- The names of a formula are among the variables that it has been read in. -/
theorem names_of_parse {names : List String} (parsed : parse names source = .ok formula)
    {letters : List Char} (member : letters ∈ formula.tree.names) :
    letters ∈ names.map String.toList := by
  obtain ⟨tokens, -, d, -, tree_eq, -⟩ := parse_sound parsed
  rw [← tree_eq, d.names_tree] at member
  exact d.mem_of_mem_freeNames member

/-- Curves are written in no variable that hides a constant. -/
theorem unhidden_knownVariables (c : Constant) :
    c.letters ∉ knownVariables.map String.toList := by
  cases c <;> decide

/-- What can be read in one of the variables of curves is what can be read in all of them and names
no other. -/
theorem parse_singleton_iff (known : name ∈ knownVariables) :
    parse [name] source = .ok formula ↔
      parse knownVariables source = .ok formula ∧ ∀ letters ∈ formula.tree.names,
        letters = name.toList := by
  have listed : name.toList ∈ knownVariables.map String.toList := List.mem_map_of_mem known
  constructor
  · intro parsed
    have own : ∀ letters ∈ formula.tree.names, letters = name.toList := by
      intro letters member
      simpa using names_of_parse parsed member
    refine ⟨parse_transfer parsed unhidden_knownVariables ?_, own⟩
    intro letters member
    rw [own letters member]
    exact listed
  · rintro ⟨parsed, own⟩
    apply parse_transfer parsed
    · intro c member
      have hidden : c.letters = name.toList := by simpa using member
      exact unhidden_knownVariables c (hidden ▸ listed)
    · intro letters member
      simp [own letters member]

/-- A variable is inferred, or none, just if the formula can be read and lists it and no other. -/
theorem inferVariable?_eq_ok {name? : Option String} :
    inferVariable? source = .ok name? ↔
      ∃ formula, parse knownVariables source = .ok formula ∧
        formula.tree.variableNames = name?.toList := by
  rw [inferVariable?, bind_eq_ok]
  refine exists_congr fun formula => and_congr_right fun parsed => ?_
  split
  next none => cases name? <;> simp [none]
  next single => cases name? <;> simp [single]
  next several several' => cases name? <;> simp_all

/-- The variable that a formula is inferred to be written in is one of those for curves, and in it
the formula is read the same. -/
theorem parse_inferred {name? : Option String} (inferred : inferVariable? source = .ok name?) :
    name?.getD "x" ∈ knownVariables ∧ ∃ formula, parse knownVariables source = .ok formula ∧
      parse [name?.getD "x"] source = .ok formula := by
  obtain ⟨formula, parsed, listed⟩ := inferVariable?_eq_ok.1 inferred
  cases name? with
  | none =>
    have known : "x" ∈ knownVariables := by decide
    have unnamed : formula.tree.names = [] := Tree.variableNames_eq_nil.1 listed
    refine ⟨known, formula, parsed, (parse_singleton_iff known).2 ⟨parsed, ?_⟩⟩
    intro letters member
    rw [unnamed] at member
    cases member
  | some name =>
    obtain ⟨named, own⟩ := Tree.variableNames_eq_singleton.1 listed
    have known : name ∈ knownVariables := by
      obtain ⟨letters, member⟩ := List.exists_mem_of_ne_nil _ named
      have among := names_of_parse parsed member
      rw [own letters member, List.mem_map] at among
      obtain ⟨name', known, same⟩ := among
      rwa [← String.toList_inj.1 same]
    exact ⟨known, formula, parsed, (parse_singleton_iff known).2 ⟨parsed, own⟩⟩

/-- A formula that can be read in one of the variables of curves tells which one it is written
in. -/
theorem exists_inferred (known : name ∈ knownVariables)
    (parsed : parse [name] source = .ok formula) :
    ∃ name?, inferVariable? source = .ok name? := by
  obtain ⟨parsed, own⟩ := (parse_singleton_iff known).1 parsed
  by_cases unnamed : formula.tree.names = []
  · exact ⟨none, inferVariable?_eq_ok.2 ⟨formula, parsed,
      Tree.variableNames_eq_nil.2 unnamed⟩⟩
  · exact ⟨some name, inferVariable?_eq_ok.2 ⟨formula, parsed,
      Tree.variableNames_eq_singleton.2 ⟨unnamed, own⟩⟩⟩

/-- Every variable of curves can be the name of a variable. -/
theorem isVariableName_of_known (known : name ∈ knownVariables) : isVariableName name = true := by
  have all : ∀ name ∈ knownVariables, isVariableName name = true := by decide +kernel
  exact all name known

/-- A text compiles in a variable of curves just if it can be read in it, whatever the cache has. -/
theorem compileText_known (known : name ∈ knownVariables) (w : Workspace) :
    (∃ c, (compileText (.text source) (.text name) w).1 = .ok c) ↔
      ∃ formula, parse [name] source = .ok formula := by
  rw [compileText_text, if_pos (isVariableName_of_known known)]
  constructor
  · rintro ⟨c, compiled⟩
    have compiled := mapError_eq_ok.1 compiled
    obtain ⟨rfl, rfl⟩ := compileAnew_eq_ok compiled
    exact ⟨c.formula, c.read⟩
  · rintro ⟨formula, parsed⟩
    refine ⟨⟨source, name, formula, parsed⟩, mapError_eq_ok.2 ?_⟩
    exact CompiledFormula.compileAnew_eq ⟨source, name, formula, parsed⟩

/-- A variable can be inferred just if the text compiles in one of those for curves. In the variable
that is inferred it compiles to the formula that it is in all of them, which is constant just if
there is no variable in it; and a curve given by the text alone is this formula. -/
theorem inferred_compiles (source : String) (w : Workspace) :
    ((∃ name?, inferVariable? source = .ok name?) ↔
      ∃ name ∈ knownVariables, ∃ c, (compileText (.text source) (.text name) w).1 = .ok c) ∧
    ∀ name?, inferVariable? source = .ok name? →
      name?.getD "x" ∈ knownVariables ∧
      ∃ formula, parse knownVariables source = .ok formula ∧
      ∃ c, (compileText (.text source) (.text (name?.getD "x")) w).1 = .ok c ∧
        c.source = source ∧ c.variableName = name?.getD "x" ∧ c.formula = formula ∧
        (c.isConstant = true ↔ ∀ name, Tree.free name ∉ formula.tree.nodes) ∧
        ∀ given : Value, given.isTrue = false →
          (Curve.resolve (.text source) given w).1 = .ok (.graph c) := by
  constructor
  · constructor
    · rintro ⟨name?, inferred⟩
      obtain ⟨known, formula, -, parsed⟩ := parse_inferred inferred
      exact ⟨_, known, (compileText_known known w).2 ⟨formula, parsed⟩⟩
    · rintro ⟨name, known, compiled⟩
      obtain ⟨formula, parsed⟩ := (compileText_known known w).1 compiled
      exact exists_inferred known parsed
  · intro name? inferred
    obtain ⟨known, formula, parsed, own⟩ := parse_inferred inferred
    let c : CompiledFormula := ⟨source, name?.getD "x", formula, own⟩
    have compiled : (compileText (.text source) (.text c.variableName) w).1 = .ok c := by
      rw [compileText_text, if_pos (isVariableName_of_known known)]
      exact mapError_eq_ok.2 c.compileAnew_eq
    refine ⟨known, formula, parsed, c, compiled, rfl, rfl, rfl, Tree.isConstant_iff, ?_⟩
    intro given nothing
    -- without a name the inferred one is taken
    have resolved : Curve.resolve (.text source) given w =
        (((compileText (.text source) (.text c.variableName) w).1).map .graph,
          (compileText (.text source) (.text c.variableName) w).2) := by
      simp [Curve.resolve, nothing, inferred, Except.map, c]
    rw [resolved, compiled]
    rfl

/-- A multiple of the ordinate: its product is not written. -/
theorem inferred_compiles_ordinate :
    inferVariable? "2y" = .ok (some "y") ∧ (Value.absent).isTrue = false ∧
      ∃ c, (Curve.resolve (.text "2y") .absent Workspace.initial).1 = .ok (.graph c) ∧
        c.variableName = "y" := by
  have scanned : scan "2y".toList = .ok [⟨.number ['2'], 0⟩, ⟨.name ['y'], 1⟩] := by
    decide +kernel
  have noFunction : NamedFunction.ofLetters? ['y'] = none := by decide
  have parsed : parse knownVariables "2y" = .ok _ :=
    parse_of_derivation
      (.sum (.product (.unsigned (.factorial (.bare (.number ['2'])) 0))
        (.factor false (.unsigned (.factorial (.bare (.variable ['y'] (by decide) noFunction)) 0))
          .noFactor)) .noTerm)
      scanned (by
        simp [spelledOut, spellInverses, spellProducts, spellLogarithm, Token.inverse?,
          productDue, noFunction, Derivation.word, Symbol.ofDivision])
  have inferred : inferVariable? "2y" = .ok (some "y") := by
    refine inferVariable?_eq_ok.2 ⟨_, parsed, ?_⟩
    rw [Option.toList_some, Tree.variableNames_eq_singleton]
    simp [Derivation.tree, Tree.names]
  have nothing : (Value.absent).isTrue = false := rfl
  obtain ⟨-, formula, -, c, -, -, name, -, -, resolved⟩ :=
    (inferred_compiles "2y" Workspace.initial).2 (some "y") inferred
  exact ⟨inferred, nothing, c, resolved .absent nothing, name⟩

end Formula

end CurveBoard
