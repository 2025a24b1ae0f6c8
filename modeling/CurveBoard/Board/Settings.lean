import CurveBoard.Sampling.Curve
import CurveBoard.Value.Signature

/-!
# Settings of boards and samplers

Both kinds of settings are given as named values, most of which have defaults. A value is checked
when the settings are made; the ends of a board's window are read only when the board is made, since
they may be formulas.
-/
namespace CurveBoard

/-- Why settings are refused. -/
inductive SettingsFault
  | microSteps (shown : String)
  | pointCounts
  | overscan (shown : String)
  | width (shown : String)
  | ratio (shown : String)
  | window
  | samplingPoints (shown : String)
  | argument (fault : ArgumentFault)
deriving DecidableEq, Repr

namespace SettingsFault

def message : SettingsFault → String
  | microSteps shown => s!"micro_steps must be >= 1, got {shown}"
  | pointCounts => "default point counts must be positive"
  | overscan shown => s!"overscan must be >= 0, got {shown}"
  | width shown => s!"width must be a positive number, got {shown}"
  | ratio shown => s!"width_to_height must be positive, got {shown}"
  | window => "plot_window must be (x_min, x_max, y_min, y_max)"
  | samplingPoints shown => s!"sampling_points must be positive, got {shown}"
  | argument fault => fault.message

end SettingsFault

/-- A number, and the value that it was given as. -/
structure GivenNumber where
  value : Value
  number : Number

namespace GivenNumber

def ofNumber (n : Number) : GivenNumber := ⟨.ofNumber n, n⟩

end GivenNumber

/-- A value that is going to be compared with an integer. -/
def comparable (comparison : String) (v : Value) : Except SettingsFault GivenNumber :=
  v.number?.elim (.error (.argument (.notOrdered comparison v.typeName "int"))) fun n =>
    .ok ⟨v, n⟩

def realSetting (v : Value) : Except SettingsFault Float := v.toReal.mapError .argument

/-- How curves are sampled. What is not checked when the configuration is made is kept as a value of
any kind. -/
structure SamplerConfig where
  microSteps : GivenNumber
  asymptoteSlope : Value
  edgeSlope : Value
  infinityEpsilon : Value
  overscan : GivenNumber
  drawBeyondX : Value
  drawBeyondY : Value
  explicitPoints : GivenNumber
  inversePoints : GivenNumber

namespace SamplerConfig

def default : SamplerConfig where
  microSteps := .ofNumber (.whole 20)
  asymptoteSlope := .real 500.0
  edgeSlope := .real 400.0
  infinityEpsilon := .real 1e-5
  overscan := .ofNumber (.real 0.25)
  drawBeyondX := .truth false
  drawBeyondY := .truth true
  explicitPoints := .ofNumber (.whole 250)
  inversePoints := .ofNumber (.whole 200)

/-- The values of a configuration by name. -/
def fields (c : SamplerConfig) : Fields :=
  [("micro_steps", c.microSteps.value), ("asymptote_slope", c.asymptoteSlope),
    ("edge_slope", c.edgeSlope), ("infinity_epsilon", c.infinityEpsilon),
    ("overscan", c.overscan.value), ("draw_beyond_x", c.drawBeyondX),
    ("draw_beyond_y", c.drawBeyondY), ("explicit_points", c.explicitPoints.value),
    ("inverse_points", c.inversePoints.value)]

def signature : Signature := ⟨"SamplerConfig.__init__", [], default.fields.map Prod.fst⟩

/-- The configuration with the given fields. -/
def ofFields (fields : Fields) : Except SettingsFault SamplerConfig := do
  (signature.check fields).mapError .argument
  let given (name : String) (setting : GivenNumber) : Value := fields.get name setting.value
  let microSteps ← comparable "<" (given "micro_steps" default.microSteps)
  if microSteps.number.isBelow 1 then throw (.microSteps microSteps.value.plainText)
  let explicitPoints ← comparable "<" (given "explicit_points" default.explicitPoints)
  if explicitPoints.number.isBelow 1 then throw .pointCounts
  let inversePoints ← comparable "<" (given "inverse_points" default.inversePoints)
  if inversePoints.number.isBelow 1 then throw .pointCounts
  let overscan ← comparable "<" (given "overscan" default.overscan)
  if overscan.number.isBelow 0 then throw (.overscan overscan.value.plainText)
  return {
    microSteps := microSteps
    asymptoteSlope := fields.get "asymptote_slope" default.asymptoteSlope
    edgeSlope := fields.get "edge_slope" default.edgeSlope
    infinityEpsilon := fields.get "infinity_epsilon" default.infinityEpsilon
    overscan := overscan
    drawBeyondX := fields.get "draw_beyond_x" default.drawBeyondX
    drawBeyondY := fields.get "draw_beyond_y" default.drawBeyondY
    explicitPoints := explicitPoints
    inversePoints := inversePoints }

/-- Of how many fine samples one is kept. Counts are multiples of a fraction just if they are
multiples of its numerator. -/
def stride (microSteps : Number) : Nat :=
  match microSteps with
  | .whole n => n.toNat
  | .real x => ((Binary.ofFloat? x).map fun b => b.toRat.num.toNat).getD 0

/-- A value as a double; one that is none has a stand-in, which is not looked at. -/
def realOr (v : Value) (standIn : Float) : Float := (v.toReal.toOption).getD standIn

/-- What the sampler works with. Slopes are only compared with doubles. -/
def settings (c : SamplerConfig) : Settings Float where
  microSteps := realOr c.microSteps.value 1.0
  stride := stride c.microSteps.number
  asymptoteSlope := (c.asymptoteSlope.number?.map Number.floorReal).getD 0.0
  edgeSlope := (c.edgeSlope.number?.map Number.floorReal).getD 0.0
  infinityEpsilon := realOr c.infinityEpsilon Scalar.undefined
  overscan := realOr c.overscan.value 0.0
  drawBeyondX := c.drawBeyondX.isTrue
  drawBeyondY := c.drawBeyondY.isTrue

/-- The first of two faults. -/
def firstFault :
    Except ArgumentFault Unit → Except ArgumentFault Unit → Except ArgumentFault Unit
  | .ok _, second => second
  | first, _ => first

def usable (n : GivenNumber) : Except ArgumentFault Unit :=
  (n.number.toReal.map fun _ => ()).mapError .arithmetic

/-- Refuses a value that is no number. -/
def slope (v : Value) (fault : ArgumentFault) : Except ArgumentFault Unit :=
  v.number?.elim (.error fault) fun _ => .ok ()

/-- What fails as soon as there is a fine sample in a mode. -/
def checkSampling (c : SamplerConfig) (mode : SamplingMode) : Except ArgumentFault Unit :=
  let overscan := if mode == .explicit && !c.drawBeyondY.isTrue then .ok () else usable c.overscan
  if mode == .inverse then overscan
  else firstFault (usable c.microSteps) (firstFault overscan
    (slope c.asymptoteSlope (.notOrdered ">" "float" c.asymptoteSlope.typeName)))

/-- What fails as soon as a fine sample is accepted that need not be kept. -/
def checkThinning (c : SamplerConfig) (mode : SamplingMode) : Except ArgumentFault Unit :=
  if mode == .inverse || stride c.microSteps.number = 1 then .ok ()
  else slope c.edgeSlope (.noNegative c.edgeSlope.typeName)

/-- Samples a curve. A setting that is of no use is noticed when it is needed: in the mode of the
ordinate at once, in the other ones not if there is nothing to sample. -/
def sample (c : SamplerConfig) (mode : SamplingMode)
    (run : Settings Float → Except ArgumentFault (SampledCurve Float)) :
    Except ArgumentFault (SampledCurve Float) :=
  match c.checkSampling mode, run c.settings with
  | .ok _, .ok curve => if curve.isDegenerate then .ok curve
    else (c.checkThinning mode).map fun _ => curve
  | .error fault, .ok curve => if mode == .inverse || 0 < curve.sampleCount then .error fault
    else .ok curve
  | _, .error fault => .error fault

/-- The count of coarse points in a mode. -/
def defaultPoints (c : SamplerConfig) : SamplingMode → Value
  | .inverse => c.inversePoints.value
  | _ => c.explicitPoints.value

end SamplerConfig

/-- The ends of a board's window as given; without the last one both axes have the same scale. -/
structure PlotWindow where
  xMin : Value
  xMax : Value
  yMin : Value
  yMax : Value

structure BoardOptions where
  width : Float
  height : Float
  padding : Float
  window : PlotWindow
  samplingPoints : Option GivenNumber

namespace BoardOptions

def signature : Signature :=
  ⟨"BoardOptions.__init__", [],
    ["width", "height", "width_to_height", "padding", "plot_window", "sampling_points"]⟩

/-- The width of a frame, which is positive and finite. -/
def widthOf (v : Value) : Except SettingsFault Float :=
  match v.number? with
  | none => .error (.argument (.mustBeReal v.kindName))
  | some n =>
    match n.toReal with
    | .error fault => .error (.argument (.arithmetic fault))
    | .ok x => if x.isFinite && 0.0 < x then .ok x else .error (.width v.shown)

/-- The ratio of width to height, which is positive. -/
def ratioOf (v : Value) : Except SettingsFault Float := do
  let ratio ← comparable ">" v
  if ratio.number.isAbove 0 then ratio.number.toReal.mapError (.argument ∘ .arithmetic)
  else throw (.ratio v.shown)

def windowOf (v : Value) : Except SettingsFault PlotWindow :=
  match v.items with
  | .error _ => .error (.argument (.noLength v.typeName))
  | .ok [xMin, xMax, yMin, yMax] => .ok ⟨xMin, xMax, yMin, yMax⟩
  | .ok _ => .error .window

def samplingPointsOf (v : Value) : Except SettingsFault (Option GivenNumber) :=
  if v.isAbsent then .ok none
  else do
    let points ← comparable "<=" v
    if points.number.isAbove 0 || points.number.isNaN then return some points
    else throw (.samplingPoints v.plainText)

def defaultWindow : Value := .tuple [.whole (-5), .whole 5, .whole (-5), .whole 5]

/-- The options with the given fields. The ratio of the sides matters only without a height. -/
def ofFields (fields : Fields) : Except SettingsFault BoardOptions := do
  (signature.check fields).mapError .argument
  let width ← widthOf (fields.get "width" (.whole 500))
  let height := fields.get "height" .absent
  let ratio ← if height.isAbsent then ratioOf (fields.get "width_to_height" (.real 1.0))
    else pure 1.0
  let window ← windowOf (fields.get "plot_window" defaultWindow)
  let samplingPoints ← samplingPointsOf (fields.get "sampling_points" .absent)
  let height ← if height.isAbsent then pure (width / ratio) else realSetting height
  let padding ← realSetting (fields.get "padding" (.whole 20))
  return ⟨width, height, padding, window, samplingPoints⟩

end BoardOptions

end CurveBoard
