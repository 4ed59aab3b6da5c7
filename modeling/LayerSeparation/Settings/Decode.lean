import LayerSeparation.Exchange.Profile
import LayerSeparation.Settings.ProfileFile
import LayerSeparation.Toml.Document

/-! Profile files from text. A section may hold no other keys than its own, but for the settings of a
curve. -/
namespace LayerSeparation

open FieldReader (required defaulted optional closed leading)
open Width (int32? uint8? uint32?)

/-- A number is a position, a text is a name. -/
def Reference.ofDatum? : Datum → Option Reference
  | .integer n => (Width.uint8? n).map .index
  | .text s => some (.name s)
  | _ => none

def MovingSection.ofDatum? : Datum → Option MovingSection :=
  closed ["initial_profile", "offset_steps", "offset_delay_ms", "finish_profile", "cycles",
    "delay_ms", "homing_tolerance", "homing_cycles"] do
    return {
      initialCurve := ← required "initial_profile" Reference.ofDatum?
      offsetSteps := ← defaulted "offset_steps" 0 (Datum.word? int32?)
      offsetDelayMs := ← defaulted "offset_delay_ms" 0 (Datum.word? uint32?)
      finishCurve := ← required "finish_profile" Reference.ofDatum?
      cycles := ← defaulted "cycles" 0 (Datum.word? uint8?)
      delayMs := ← defaulted "delay_ms" 0 (Datum.word? uint32?)
      homingTolerance := ← defaulted "homing_tolerance" 0 (Datum.word? uint32?)
      homingCycles := ← defaulted "homing_cycles" 0 (Datum.word? uint8?) }

def SeparationSection.ofDatum? : Datum → Option SeparationSection :=
  closed ["delay_before_exposure_ms", "delay_after_exposure_ms", "tower_hop_height_nm",
    "tower_profile", "use_tilt", "tilt_down", "tilt_up", "moves_time_ms"] do
    return {
      delayBeforeExposureMs := ← defaulted "delay_before_exposure_ms" 0 (Datum.word? uint32?)
      delayAfterExposureMs := ← defaulted "delay_after_exposure_ms" 0 (Datum.word? uint32?)
      towerHopHeightNm := ← defaulted "tower_hop_height_nm" 0 (Datum.word? uint32?)
      towerCurve := ← required "tower_profile" Reference.ofDatum?
      useTilt := ← defaulted "use_tilt" true Datum.bool?
      tiltDown := ← optional "tilt_down" Datum.text?
      tiltUp := ← optional "tilt_up" Datum.text?
      movesTimeMs := ← defaulted "moves_time_ms" 0 (Datum.word? uint32?) }

def PresetSection.ofDatum? : Datum → Option PresetSection :=
  closed ["small_fill_layer_profile", "large_fill_layer_profile"] do
    return {
      smallFill := ← required "small_fill_layer_profile" Reference.ofDatum?
      largeFill := ← required "large_fill_layer_profile" Reference.ofDatum? }

def ExposureSection.ofDatum? : Datum → Option ExposureSection :=
  closed ["area_fill", "area_fill_percent", "display_area_mm2", "profile", "below_area_fill",
    "above_area_fill"] do
    return {
      areaFill := ← optional "area_fill" Datum.single?
      areaFillPercent := ← optional "area_fill_percent" (Datum.word? uint8?)
      displayAreaMm2 := ← optional "display_area_mm2" Datum.single?
      profile := ← optional "profile" Reference.ofDatum?
      below := ← optional "below_area_fill" SeparationSection.ofDatum?
      above := ← optional "above_area_fill" SeparationSection.ofDatum? }

def TiltGeometry.sectionOfDatum? : Datum → Option TiltGeometry :=
  closed ["tilt_height_steps"] do
    return { heightSteps := ← required "tilt_height_steps" (Datum.word? int32?) }

def Sections.ofDatum? {α : Type} (read : Datum → Option α) : Datum → Option (Sections α)
  | .record fields => do
    let entries ← fields.mapM fun (name, d) => do return (name, ← read d)
    return .ofList entries
  | _ => none

namespace ProfileFile

def ofDatum? : Datum → Option ProfileFile :=
  let curves := Sections.ofDatum? (leading CurveParams.reader)
  closed ["geometry", "tilt_curves", "tower_curves", "moving_profiles", "layer_profiles",
    "exposure_profiles", "exposure"] do
    return {
      geometry := ← optional "geometry" TiltGeometry.sectionOfDatum?
      tiltCurves := ← defaulted "tilt_curves" {} curves
      towerCurves := ← defaulted "tower_curves" {} curves
      movingProfiles := ← defaulted "moving_profiles" {} (Sections.ofDatum? MovingSection.ofDatum?)
      layerProfiles := ← defaulted "layer_profiles" {} (Sections.ofDatum? SeparationSection.ofDatum?)
      exposureProfiles :=
        ← defaulted "exposure_profiles" {} (Sections.ofDatum? PresetSection.ofDatum?)
      exposure := ← required "exposure" ExposureSection.ofDatum? }

def ofText? (text : String) : Option ProfileFile := (Toml.document? text).bind ofDatum?

end ProfileFile
end LayerSeparation
