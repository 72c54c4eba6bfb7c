import Reservoir.Datum.Numbers

/-!
# Constants of the initialization

Pressures are in pascals, rates in cubic metres per second. The first constant that is out of
its range is refused. Each test asks whether a value is bad, and no comparison with a NaN holds,
so that a NaN passes all but the last of a two-sided test.

`GivenSettings` are values under the names of constants. A constant is a double, or else a value
of some other sort than a number: there are no integers among settings, and so the arrays that
are filled with constants are arrays of doubles. The constants that have a range are checked when
settings are given; the temperature is not looked at before it is needed.
-/

namespace Reservoir

/-- The constants used to derive the first state of a well. -/
structure Settings where
  /-- Marks a pressure that does not apply. -/
  unsetPressure : Float := -1e100
  /-- Magnitude of the rate that only carries the sign of a well's role. -/
  smallRate : Float := 1e-14
  /-- What an injector's bottom hole pressure is of the ambient pressure. -/
  injectorFactor : Float := 1.01
  /-- What a producer's bottom hole pressure is of the ambient pressure. -/
  producerFactor : Float := 0.99
  /-- Temperature of every well, in degrees Celsius. -/
  standardCelsius : Float := 20.0
  /-- Whether a stopped well that keeps a zero pressure is reported. -/
  warnOnZeroPressure : Bool := false
deriving Inhabited

namespace Settings

/-- Temperature of every well, in kelvins. -/
def standardKelvin (s : Settings) : Float :=
  s.standardCelsius + 273.15

/-- The names under which constants are set and shown. -/
inductive Constant where
  | unsetPressure
  | smallRate
  | injectorFactor
  | producerFactor
  | standardCelsius
deriving DecidableEq, Repr

namespace Constant

def all : List Constant :=
  [.unsetPressure, .smallRate, .injectorFactor, .producerFactor, .standardCelsius]

def name : Constant → String
  | .unsetPressure => "UNSET_PRESSURE"
  | .smallRate => "SMALL_RATE"
  | .injectorFactor => "INJECTOR_BHP_FACTOR"
  | .producerFactor => "PRODUCER_BHP_FACTOR"
  | .standardCelsius => "STANDARD_TEMPERATURE_C"

end Constant

/-- The name of the one setting that is a truth value. -/
def warningName : String := "WARN_ON_ZERO_PRESSURE"

/-- The name of the derived temperature. -/
def kelvinName : String := "STANDARD_TEMPERATURE_K"

/-- The value of a constant. -/
def get (s : Settings) : Constant → Float
  | .unsetPressure => s.unsetPressure
  | .smallRate => s.smallRate
  | .injectorFactor => s.injectorFactor
  | .producerFactor => s.producerFactor
  | .standardCelsius => s.standardCelsius

/-- The constants that have a range, in the order in which they are checked. -/
def Constant.ranged : List Constant :=
  [.smallRate, .injectorFactor, .producerFactor, .unsetPressure]

/-- What is wrong with the value of a constant, which is shown as it was given. -/
def Constant.fault? (c : Constant) (x : Float) (given : Datum) : Option SettingsFault :=
  match c with
  | .smallRate => if x ≤ 0.0 then some (.smallRate given) else none
  | .injectorFactor => if x ≤ 1.0 then some (.injectorFactor given) else none
  | .producerFactor => if 0.0 < x ∧ x < 1.0 then none else some (.producerFactor given)
  | .unsetPressure => if x ≥ 0.0 then some (.unsetPressure given) else none
  | .standardCelsius => none

end Settings

/-- A value that is given for a setting: any value but an integer. -/
abbrev Setting := { d : Datum // ∀ n, d ≠ .int n }

namespace Setting

def double (x : Float) : Setting := ⟨.float x, nofun⟩

def flag (b : Bool) : Setting := ⟨.bool b, nofun⟩

end Setting

/-- Settings as they were given, the default ones where nothing was given. -/
structure GivenSettings where
  constants : Settings.Constant → Setting := fun c => .double (Settings.get {} c)
  warning : Setting := .flag false

/-- Settings as they are shown. The warning is a number unless it was given as a truth value. -/
structure SettingsView where
  constants : List (Settings.Constant × Float)
  warning : Bool ⊕ Float
  kelvin : Float

namespace GivenSettings

open Settings

/-- One field set by its name. -/
def assign (g : GivenSettings) (name : String) (value : Setting) :
    Except InputFault GivenSettings :=
  if name = warningName then .ok { g with warning := value }
  else match Constant.all.find? (·.name == name) with
    | some c => .ok { g with constants := fun d => if d = c then value else g.constants d }
    | none => .error (.unknownSetting name)

/-- A constant, which has to be given as a number. -/
def number (g : GivenSettings) (c : Constant) : Except InputFault Float :=
  match (g.constants c).val with
  | .text _ => .error .notNumber
  | d => d.scalar

/-- One constant that has to be in range. -/
def checkConstant (g : GivenSettings) (c : Constant) : Except Fault Unit := do
  let x ← (g.number c).mapError .input
  match c.fault? x (g.constants c) with
  | some fault => throw (.settings fault)
  | none => pure ()

/-- A field given by name, with its value or with what kept it from being read. -/
abbrev Field := String × Except InputFault Setting

/-- Some fields. All values have to be read before a name is looked up, and all names are looked
up before a constant is checked. -/
def ofFields (fields : List Field) : Except Fault GivenSettings := do
  let values ← (fields.mapM fun (f : Field) => f.2.map (f.1, ·)).mapError .input
  let g ← (values.foldlM (fun (g : GivenSettings) f => g.assign f.1 f.2) {}).mapError .input
  Constant.ranged.forM g.checkConstant
  pure g

/-- The settings that a state is made under. All constants have to be numbers. -/
def settings (g : GivenSettings) : Except InputFault Settings := do
  let unsetPressure ← g.number .unsetPressure
  let smallRate ← g.number .smallRate
  let injectorFactor ← g.number .injectorFactor
  let producerFactor ← g.number .producerFactor
  let standardCelsius ← g.number .standardCelsius
  pure
    { unsetPressure, smallRate, injectorFactor, producerFactor, standardCelsius
      warnOnZeroPressure := g.warning.val.isTrue }

/-- All settings as numbers, and the derived temperature at the end. -/
def view (g : GivenSettings) : Except InputFault SettingsView := do
  let constants ← Constant.all.mapM fun c => (g.constants c).val.scalar.map (c, ·)
  let warning ← match g.warning.val with
    | .bool b => pure (.inl b)
    | d => d.scalar.map .inr
  let s ← g.settings
  pure { constants, warning, kelvin := s.standardKelvin }

end GivenSettings

end Reservoir
