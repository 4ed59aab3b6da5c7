import LayerSeparation.Profile.Exposure
import LayerSeparation.Profile.Table
import LayerSeparation.Settings.Error
import LayerSeparation.Settings.Preset
import LayerSeparation.Settings.ProfileFile

/-! What a print job needs, resolved from a profile file. Every range of a field is checked here; that
an offset stays inside the travel of the machine is not, since it depends on the profiles a
separation uses. -/
namespace LayerSeparation

structure Bundle where
  table : MovingProfileTable
  exposure : ExposureProfile
  geometry : TiltGeometry
  layerProfiles : LayerProfileId → Option LayerParams
  exposureProfiles : ExposureProfileId → Option ExposureProfile

def orUnknown {α : Type} (kind reference : String) : Option α → Except ConfigError α
  | some a => .ok a
  | none => .error (.unknownReference kind reference)

def orMissing {α : Type} (sectionName field : String) : Option α → Except ConfigError α
  | some a => .ok a
  | none => .error (.missingField sectionName field)

def layerKind : String := "layer profile"

def exposureKind : String := "exposure profile"

/-- A moving profile by name. The report names the tilt, which all of them drive. -/
def MovingProfileId.known (name : String) : Except ConfigError MovingProfileId :=
  match Catalogue.ofName? name with
  | some id => .ok id
  | none => .error (.profile (.unknownName .tilt name))

def MovingSection.resolve (s : MovingSection) : Except ProfileError MovingProfile := do
  let p : MovingProfile := {
    initialCurve := ← s.initialCurve.curve
    offsetSteps := s.offsetSteps
    offsetDelayMs := s.offsetDelayMs
    finishCurve := ← s.finishCurve.curve
    cycles := s.cycles
    delayMs := s.delayMs
    homingTolerance := s.homingTolerance
    homingCycles := s.homingCycles }
  p.validate
  return p

namespace SeparationSection

def tiltProfile (sectionName field : String) (name : Option String) :
    Except ConfigError MovingProfileId := do
  MovingProfileId.known (← orMissing sectionName field name)

/-- References to the tilt count only if the tilt is used. -/
def resolve (s : SeparationSection) (sectionName : String) : Except ConfigError LayerParams := do
  let tilt ← if s.useTilt then do
      let tiltDown ← tiltProfile sectionName "tilt_down" s.tiltDown
      let tiltUp ← tiltProfile sectionName "tilt_up" s.tiltUp
      pure (some { tiltDown, tiltUp, movesTimeMs := s.movesTimeMs : TiltSequence })
    else pure none
  let towerCurve : TowerCurve ← s.towerCurve.curve
  let params : LayerParams := {
    delayBeforeExposureMs := s.delayBeforeExposureMs
    delayAfterExposureMs := s.delayAfterExposureMs
    towerHopHeightNm := s.towerHopHeightNm
    towerCurve
    tilt }
  params.validate
  return params

end SeparationSection

namespace PresetSection

def resolve (s : PresetSection) (areaFill : Float32) (layers : LayerProfileId → Option LayerParams) :
    Except ConfigError ExposureProfile := do
  let layer (r : Reference) := orUnknown layerKind r.text (r.entry?.bind layers)
  let e : ExposureProfile := ⟨areaFill, ← layer s.smallFill, ← layer s.largeFill⟩
  e.validate
  return e

end PresetSection

namespace ExposureSection

def threshold (s : ExposureSection) : Except ConfigError Float32 :=
  match s.areaFill, s.areaFillPercent, s.displayAreaMm2 with
  | some area, _, _ => .ok area
  | none, some percent, some display => .ok (areaFillFromPercent percent display)
  | none, some _, none => .error (.missingField "exposure" "display_area_mm2")
  | none, none, _ => .error (.missingField "exposure" "area_fill")

def select (s : ExposureSection) (areaFill : Float32)
    (presets : ExposureProfileId → Option ExposureProfile) : Except ConfigError ExposureProfile :=
  match s.profile, s.below, s.above with
  | none, some below, some above => do
    return ⟨areaFill, ← below.resolve "exposure.below_area_fill",
      ← above.resolve "exposure.above_area_fill"⟩
  | some r, none, none => orUnknown exposureKind r.text (r.entry?.bind presets)
  | some _, some _, _ => .error (.conflict "exposure" "profile" "below_area_fill")
  | some _, none, some _ => .error (.conflict "exposure" "profile" "above_area_fill")
  | none, none, none => orMissing "exposure" "profile" (presets .default)
  | none, none, some _ => .error (.missingField "exposure" "below_area_fill")
  | none, some _, none => .error (.missingField "exposure" "above_area_fill")

end ExposureSection

/-- Curves that have no section are not set. -/
def CurveTable.ofSections {C : Type} [Curve C] [DecidableEq C] (s : Sections CurveParams) :
    Except ProfileError (CurveTable C) := do
  let found ← s.resolve Curve.ofName .ok
  return ⟨fun c => (found c).getD {}⟩

/-- Moving profiles that have no section are those of the factory. -/
def MovingProfileTable.ofFile (f : ProfileFile) : Except ConfigError MovingProfileTable := do
  let tiltCurves ← CurveTable.ofSections f.tiltCurves
  let towerCurves ← CurveTable.ofSections f.towerCurves
  let found ← f.movingProfiles.resolve MovingProfileId.known fun s => do
    let p ← s.resolve
    return p
  let table : MovingProfileTable :=
    ⟨tiltCurves, towerCurves, fun id => (found id).getD id.factoryProfile⟩
  table.validate
  return table

namespace Bundle

/-- The table comes first, then the geometry, the threshold, the layer profiles, the exposure
profiles and last the selection; the first fault is reported. -/
def ofFile (f : ProfileFile) : Except ConfigError Bundle := do
  let table ← MovingProfileTable.ofFile f
  let geometry := f.geometry.getD .factory
  geometry.validate
  let areaFill ← f.exposure.threshold
  let layerProfiles ← f.layerProfiles.resolve
    (fun name => orUnknown layerKind name (Catalogue.ofName? name)) (·.resolve "layer_profiles")
  let exposureProfiles ← f.exposureProfiles.resolve
    (fun name => orUnknown exposureKind name (Catalogue.ofName? name))
    (·.resolve areaFill layerProfiles)
  let exposure ← f.exposure.select areaFill exposureProfiles
  exposure.validate
  return { table, exposure, geometry, layerProfiles, exposureProfiles }

def layerProfile (b : Bundle) (name : String) : Except ConfigError LayerParams :=
  orUnknown layerKind name ((Catalogue.ofName? name).bind b.layerProfiles)

def exposureProfile (b : Bundle) (name : String) : Except ConfigError ExposureProfile :=
  orUnknown exposureKind name ((Catalogue.ofName? name).bind b.exposureProfiles)

end Bundle
end LayerSeparation
