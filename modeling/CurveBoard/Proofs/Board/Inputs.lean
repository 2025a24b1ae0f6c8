import CurveBoard.Proofs.Board.Returns
import CurveBoard.Proofs.Formula.Steadiness

/-!
# What callers hand over

What a board makes of the values it is given depends on the workspace in one way only: a formula
that calls a random function takes fresh dice. The cache is of no account, since what it holds for a
text is what the text is read as. So values without random functions are always taken for the same
numbers.
-/
namespace CurveBoard

/-- Compiles a formula without a cache. -/
def compileAnew (source variableName : String) : Except FormulaError CompiledFormula :=
  match read : Formula.parse [variableName] source with
  | .error e => .error e
  | .ok formula => .ok ⟨source, variableName, formula, read⟩

theorem CompiledFormula.compileAnew_eq (c : CompiledFormula) :
    compileAnew c.source c.variableName = .ok c := by
  obtain ⟨source, variableName, formula, read⟩ := c
  unfold compileAnew
  split
  next e refused => cases refused.symm.trans read
  next found again =>
    cases again.symm.trans read
    rfl

theorem compileAnew_of_parse {source name : String} {formula : Formula}
    (parsed : Formula.parse [name] source = .ok formula) :
    compileAnew source name = .ok ⟨source, name, formula, parsed⟩ :=
  CompiledFormula.compileAnew_eq ⟨source, name, formula, parsed⟩

theorem compileAnew_eq_ok {source variableName : String} {c : CompiledFormula}
    (compiled : compileAnew source variableName = .ok c) :
    c.source = source ∧ c.variableName = variableName := by
  unfold compileAnew at compiled
  split at compiled <;> cases compiled
  exact ⟨rfl, rfl⟩

theorem compileAnew_steady {source variableName : String} {c : CompiledFormula}
    (steady : SteadyText source) (compiled : compileAnew source variableName = .ok c) :
    c.tree.Steady := by
  obtain ⟨rfl, rfl⟩ := compileAnew_eq_ok compiled
  exact steady _ _ c.read

/-- The cache makes no difference to what a text is compiled to. -/
theorem FormulaCache.compile_compiled (cache : FormulaCache) (source variableName : String) :
    (cache.compile source variableName).1.map CachedFormula.compiled =
      compileAnew source variableName := by
  unfold compile
  split
  next entry found =>
    -- what is cached for the text carries the proof that it is what the text is read as
    have isFor := List.find?_some found
    simp only [CachedFormula.isFor, Bool.and_eq_true, beq_iff_eq] at isFor
    rw [← isFor.1, ← isFor.2, CompiledFormula.compileAnew_eq]
    rfl
  · split
    next e refused =>
      unfold compileAnew
      split
      next e' refused' =>
        cases refused.symm.trans refused'
        rfl
      next read => cases refused.symm.trans read
    next formula read =>
      exact (CompiledFormula.compileAnew_eq ⟨source, variableName, formula, read⟩).symm

private theorem Workspace.compile_compiled (w : Workspace) (source variableName : String) :
    (w.compile source variableName).1.map CachedFormula.compiled =
      compileAnew source variableName := by
  unfold compile
  exact FormulaCache.compile_compiled _ source variableName

/-! ### Uses of the workspace that always yield the same -/

/-- Whether a use of the workspace yields the same in every workspace. -/
def Unvarying {β : Type} (use : Workspace → β × Workspace) : Prop :=
  ∀ w w', (use w).1 = (use w').1

namespace Unvarying

variable {α β : Type}

theorem map {use : Workspace → α × Workspace} (f : α → β) (unvarying : Unvarying use) :
    Unvarying fun w => (f (use w).1, (use w).2) := fun w w' => congrArg f (unvarying w w')

theorem agree {use : Workspace → β × Workspace} (unvarying : Unvarying use) (w w' : Workspace) :
    ∃ result left left', use w = (result, left) ∧ use w' = (result, left') :=
  ⟨(use w).1, (use w).2, (use w').2, rfl, by rw [unvarying w w']⟩

end Unvarying

namespace Value

mutual
/-- Whether no text in a value, and no formula, calls a random function. -/
def Steady : Value → Prop
  | text s => SteadyText s
  | tuple items => AllSteady items
  | record fields => ∀ field ∈ fields, SteadyText field.1
  | formula f => f.tree.Steady
  | curve c => c.abscissa.tree.Steady ∧ c.ordinate.tree.Steady
  | _ => True

def AllSteady : List Value → Prop
  | [] => True
  | v :: rest => v.Steady ∧ AllSteady rest
end

private theorem allSteady_iff {values : List Value} :
    AllSteady values ↔ ∀ v ∈ values, v.Steady := by
  induction values with
  | nil => simp [AllSteady]
  | cons v rest ih => simp [AllSteady, ih]

/-- The parts of a value are no more random than the value. -/
theorem Steady.items {v : Value} {items : List Value} (steady : v.Steady)
    (found : v.items = .ok items) :
    ∀ item ∈ items, item.Steady := by
  cases v with
  | tuple items =>
    cases found
    rw [Steady] at steady
    exact allSteady_iff.1 steady
  | text s =>
    cases found
    intro item member
    obtain ⟨c, -, rfl⟩ := List.mem_map.1 member
    exact steadyText_singleton c
  | record fields =>
    -- the items of a record are the names of its fields
    cases found
    intro item member
    obtain ⟨field, inside, rfl⟩ := List.mem_map.1 member
    rw [Steady] at steady
    exact steady field inside
  | _ => cases found

end Value

/-! ### Numbers -/

section Numbers

variable {kind : NumberKind} {lossy : Bool} {given : Value} {source : String} {c : CompiledFormula}

theorem convert_real (kind : NumberKind) (lossy : Bool) (x : Float) (w : Workspace) :
    convert kind lossy (.real x) w = (settle kind lossy x 0.0, w) := rfl

theorem zero_beq_zero : ((0.0 : Float) == 0.0) = true := by decide +kernel

theorem settle_real (lossy : Bool) (x : Float) : settle .real lossy x 0.0 = .ok (.real x) := by
  simp [settle, zero_beq_zero]

/-- What a text is converted to as a formula depends on what it is compiled to, and on the dice. -/
theorem settleFormula_of_ok (kind : NumberKind) (lossy : Bool)
    (compiled : compileAnew source "x" = .ok c) (given : String) (w : Workspace) :
    ∃ dice, (settleFormula kind lossy given source w).1 =
      if !c.isConstant then .error (.notConstant (quoted given) kind)
      else if (c.onNumber dice 0.0).isNaN then .error (.undefined (quoted given) kind)
      else settle kind lossy (c.onNumber dice 0.0) 0.0 := by
  have same := (w.compile_compiled source "x").trans compiled
  unfold settleFormula
  rcases found : w.compile source "x" with ⟨_ | entry, left⟩
  · rw [found] at same
    cases same
  · rw [found] at same
    cases Except.ok.inj same
    refine ⟨left.takeDice.1, ?_⟩
    dsimp only
    split
    · rfl
    · split <;> rfl

theorem settleFormula_of_error {e : FormulaError} (refused : compileAnew source "x" = .error e)
    (given : String) (w : Workspace) :
    (settleFormula kind lossy given source w).1 =
      .error (.malformed (quoted given) kind e.detail) := by
  have same := (w.compile_compiled source "x").trans refused
  unfold settleFormula
  rcases found : w.compile source "x" with ⟨e' | entry, left⟩
  · rw [found] at same
    cases same
    rfl
  · rw [found] at same
    cases same

/-- What is made of a text as a formula is the value of a formula without variables. -/
theorem settleFormula_eq_ok {shown : String} {w : Workspace} {n : Number}
    (made : (settleFormula kind lossy shown source w).1 = .ok n) :
    ∃ c dice, compileAnew source "x" = .ok c ∧ c.isConstant = true ∧
      settle kind lossy (c.onNumber dice 0.0) 0.0 = .ok n := by
  cases compiled : compileAnew source "x" with
  | error e =>
    rw [settleFormula_of_error compiled] at made
    cases made
  | ok c =>
    obtain ⟨dice, same⟩ := settleFormula_of_ok kind lossy compiled shown w
    rw [same] at made
    split at made
    · cases made
    next constant =>
      split at made
      · cases made
      · exact ⟨c, dice, rfl, by simpa using constant, made⟩

private theorem unvarying_settleFormula (steady : SteadyText source) (shown : String) :
    Unvarying (settleFormula kind lossy shown source) := by
  intro w w'
  cases compiled : compileAnew source "x" with
  | error e => rw [settleFormula_of_error compiled, settleFormula_of_error compiled]
  | ok c =>
    obtain ⟨dice, same⟩ := settleFormula_of_ok kind lossy compiled shown w
    obtain ⟨dice', same'⟩ := settleFormula_of_ok kind lossy compiled shown w'
    rw [same, same', CompiledFormula.onNumber_dice (compileAnew_steady steady compiled) dice dice']

private theorem unvarying_convert (steady : given.Steady) :
    Unvarying (convert kind lossy given) := by
  intro w w'
  unfold convert
  cases given with
  | text s =>
    dsimp only
    split
    · rfl
    · split
      · rfl
      · rw [Value.Steady] at steady
        exact unvarying_settleFormula (steadyText_trimBlanks steady) s w w'
  | complex re im => rfl
  | _ =>
    dsimp only
    split
    · split <;> rfl
    · rfl

private theorem unvarying_convertReal (steady : given.Steady) : Unvarying (convertReal given) := by
  intro w w'
  obtain ⟨result, left, left', found, found'⟩ := (unvarying_convert steady).agree w w'
  rw [convertReal, convertReal, found, found']
  rcases result with e | n | x <;> rfl

private theorem unvarying_convertWhole (steady : given.Steady) :
    Unvarying (convertWhole given) := by
  intro w w'
  obtain ⟨result, left, left', found, found'⟩ := (unvarying_convert steady).agree w w'
  rw [convertWhole, convertWhole, found, found']
  rcases result with e | n | x <;> rfl

theorem unvarying_readLength (steady : given.Steady) : Unvarying (Action.readLength given) :=
  (unvarying_convertReal steady).map (Except.mapError Fault.conversion)

theorem unvarying_readDomain (steady : given.Steady) : Unvarying (readDomain given) := by
  intro w w'
  unfold readDomain
  split
  next low high found =>
    obtain ⟨low_steady, others⟩ := List.forall_mem_cons.1 (steady.items found)
    obtain ⟨result, left, left', read, read'⟩ := (unvarying_convertReal low_steady).agree w w'
    rw [read, read']
    cases result with
    | error e => rfl
    | ok x =>
      obtain ⟨result, _, _, read, read'⟩ :=
        (unvarying_convertReal (List.forall_mem_singleton.1 others)).agree left left'
      dsimp only
      rw [read, read']
      cases result <;> rfl
  · rfl

theorem unvarying_readDomain? (steady : given.Steady) : Unvarying (readDomain? given) := by
  intro w w'
  unfold readDomain?
  split
  · rfl
  · exact (unvarying_readDomain steady).map (Except.map some) w w'

theorem unvarying_readPoints (steady : given.Steady) : Unvarying (readPoints given) := by
  intro w w'
  unfold readPoints
  split
  · rfl
  · obtain ⟨result, left, left', read, read'⟩ := (unvarying_convertWhole steady).agree w w'
    rw [read, read']
    cases result with
    | error e => rfl
    | ok n =>
      dsimp only
      split <;> rfl

end Numbers

/-! ### Curves -/

/-- Whether a curve calls no random function. -/
def Curve.Steady : Curve → Prop
  | graph f => f.tree.Steady
  | parametric p => p.abscissa.tree.Steady ∧ p.ordinate.tree.Steady

section Curves

variable {source name : Value} {w : Workspace} {c : CompiledFormula}

/-- A text is compiled as it would be without the cache. -/
theorem compileText_text (s name : String) (w : Workspace) :
    (compileText (.text s) (.text name) w).1 =
      if isVariableName name then
        (compileAnew s name).mapError (Fault.compile ∘ CompileFault.malformed)
      else .error (.compile (.variableName name)) := by
  unfold compileText compileEntry Workspace.compileIn
  dsimp only
  split
  · rw [← w.compile_compiled s name]
    cases (w.compile s name).1 <;> rfl
  · rfl

private theorem unvarying_compileText (source name : Value) :
    Unvarying (compileText source name) := by
  intro w w'
  cases source with
  | text s =>
    cases name with
    | text name => rw [compileText_text, compileText_text]
    | _ => rfl
  | _ => rfl

private theorem compileText_steady (steady : source.Steady)
    (compiled : (compileText source name w).1 = .ok c) :
    c.tree.Steady := by
  cases source with
  | text s =>
    cases name with
    | text name =>
      rw [Value.Steady] at steady
      rw [compileText_text] at compiled
      split at compiled
      · exact compileAnew_steady steady (mapError_eq_ok.1 compiled)
      · cases compiled
    | _ => cases compiled
  | _ => cases compiled

private theorem unvarying_compileComponent (source name : Value) :
    Unvarying (compileComponent source name) := by
  intro w w'
  unfold compileComponent
  split
  · split <;> rfl
  · exact unvarying_compileText _ name w w'

private theorem compileComponent_steady (steady : source.Steady)
    (compiled : (compileComponent source name w).1 = .ok c) : c.tree.Steady := by
  unfold compileComponent at compiled
  split at compiled
  · split at compiled <;> cases compiled
    exact steady
  · exact compileText_steady steady compiled

private theorem unvarying_compileParametric (x y name : Value) :
    Unvarying (compileParametric x y name) := by
  intro w w'
  unfold compileParametric
  obtain ⟨result, left, left', found, found'⟩ := (unvarying_compileComponent x name).agree w w'
  rw [found, found']
  cases result with
  | error e => rfl
  | ok f =>
    obtain ⟨result, _, _, found, found'⟩ := (unvarying_compileComponent y name).agree left left'
    dsimp only
    rw [found, found']
    cases result <;> rfl

private theorem compileParametric_steady {x y : Value} {p : ParametricFormula} (x_steady : x.Steady)
    (y_steady : y.Steady) (compiled : (compileParametric x y name w).1 = .ok p) :
    p.abscissa.tree.Steady ∧ p.ordinate.tree.Steady := by
  unfold compileParametric at compiled
  split at compiled
  · cases compiled
  next f left first =>
    split at compiled
    · cases compiled
    next g left' second =>
      cases compiled
      exact ⟨compileComponent_steady x_steady (congrArg Prod.fst first),
        compileComponent_steady y_steady (congrArg Prod.fst second)⟩

private theorem unvarying_constantCurve (given : Value) (number : Number) (name : Value) :
    Unvarying (constantCurve given number name) := by
  intro w w'
  unfold constantCurve
  split
  · rfl
  · split
    · rfl
    · exact (unvarying_compileText _ name).map (Except.map Curve.graph) w w'

private theorem constantCurve_steady {given : Value} {number : Number} {curve : Curve}
    (made : (constantCurve given number name w).1 = .ok curve) : curve.Steady := by
  unfold constantCurve at made
  split at made
  · cases made
  next x _ =>
    split at made
    · cases made
    · -- the number is written out and read as a formula
      obtain ⟨f, compiled, rfl⟩ := map_eq_ok.1 made
      have steady : (Value.text (expandedText x)).Steady := by
        rw [Value.Steady]
        exact steadyText_expandedText x
      exact compileText_steady steady compiled

/-- The curve that a caller means does not depend on the workspace. -/
theorem unvarying_resolve (source name : Value) : Unvarying (Curve.resolve source name) := by
  intro w w'
  unfold Curve.resolve
  split
  · rfl
  · rfl
  · exact unvarying_constantCurve _ _ _ w w'
  · exact unvarying_constantCurve _ _ _ w w'
  · exact unvarying_constantCurve _ _ _ w w'
  · split
    · exact (unvarying_compileText _ _).map (Except.map Curve.graph) w w'
    · dsimp only
      split
      · rfl
      · exact (unvarying_compileText _ _).map (Except.map Curve.graph) w w'
  · exact (unvarying_compileParametric _ _ _).map (Except.map Curve.parametric) w w'
  · rfl

theorem resolve_steady {curve : Curve} (steady : source.Steady)
    (resolved : (Curve.resolve source name w).1 = .ok curve) : curve.Steady := by
  unfold Curve.resolve at resolved
  split at resolved
  · cases resolved
    exact steady
  · cases resolved
    exact steady
  · exact constantCurve_steady resolved
  · exact constantCurve_steady resolved
  · exact constantCurve_steady resolved
  · split at resolved
    · obtain ⟨f, compiled, rfl⟩ := map_eq_ok.1 resolved
      exact compileText_steady steady compiled
    · dsimp only at resolved
      split at resolved
      · cases resolved
      · obtain ⟨f, compiled, rfl⟩ := map_eq_ok.1 resolved
        exact compileText_steady steady compiled
  next x y =>
    obtain ⟨p, compiled, rfl⟩ := map_eq_ok.1 resolved
    obtain ⟨x_steady, y_steady, -⟩ := steady
    exact compileParametric_steady x_steady y_steady compiled
  · cases resolved

end Curves

/-! ### The window of a new board -/

/-- Whether the ends of a window call no random function. -/
structure PlotWindow.Steady (window : PlotWindow) : Prop where
  xMin : window.xMin.Steady
  xMax : window.xMax.Steady
  yMin : window.yMin.Steady
  yMax : window.yMax.Steady

theorem unvarying_readWindow {window : PlotWindow} (steady : window.Steady) :
    Unvarying (readWindow window) := by
  intro w w'
  -- the workspaces drift apart with every end that is read, but what is read stays the same
  obtain ⟨xMin, v, v', read, read'⟩ := (unvarying_convertReal steady.xMin).agree w w'
  unfold readWindow
  simp only [read, read']
  cases xMin with
  | error e => rfl
  | ok xMin =>
    obtain ⟨xMax, v, v', read, read'⟩ := (unvarying_convertReal steady.xMax).agree v v'
    simp only [mapError_ok, read, read']
    cases xMax with
    | error e => rfl
    | ok xMax =>
      obtain ⟨yMin, v, v', read, read'⟩ := (unvarying_convertReal steady.yMin).agree v v'
      simp only [mapError_ok, read, read']
      cases yMin with
      | error e => rfl
      | ok yMin =>
        rw [mapError_ok]
        dsimp only
        split
        · rfl
        · rw [unvarying_convertReal steady.yMax v v']

theorem unvarying_viewportFor {options : BoardOptions} (sampler : SamplerConfig)
    (steady : options.window.Steady) : Unvarying (viewportFor options sampler) := by
  intro w w'
  obtain ⟨ends, v, v', read, read'⟩ := (unvarying_readWindow steady).agree w w'
  unfold viewportFor
  rw [read, read']
  cases ends with
  | error e => rfl
  | ok ends => rfl

/-- There is a viewport only with everything that is read for it. -/
theorem Framing.reading_eq_ok {β : Type} {r : ViewportRequest Float}
    {value : Except ArgumentFault β} {next : β → Framing} {v : Viewport Float} :
    (reading r value next).2 = .ok v ↔ ∃ x, value = .ok x ∧ (next x).2 = .ok v := by
  cases value with
  | ok x => simp [reading]
  | error fault =>
    refine iff_of_false (fun framed => ?_) (by simp)
    obtain ⟨_, _, failed⟩ := bind_eq_ok.1 framed
    cases failed

end CurveBoard
