import LayerSeparation.Datum
import LayerSeparation.Profile.Exposure
import LayerSeparation.Profile.Moving

/-! Profile types as structured data. Members of an enumeration are their names, records have one
field for each component under its written name, and no range is checked. -/
namespace LayerSeparation

class Exchange (α : Type) where
  toDatum : α → Datum
  ofDatum? : Datum → Option α

namespace Exchange

/-- A name, or a record whose one field has that name and no value. -/
def named? {α : Type} [Catalogue α] : Datum → Option α
  | .text s => Catalogue.ofName? s
  | .record [(s, .null)] => Catalogue.ofName? s
  | _ => none

def ofNat (n : Nat) : Datum := .integer n

end Exchange

open Exchange (named? ofNat)
open FieldReader (required optional exact)
open Width (int8? int32? uint8? uint16? uint32?)

instance {α : Type} [Catalogue α] : Exchange α where
  toDatum a := .text (Catalogue.name a)
  ofDatum? := named?

def CurveParams.reader : FieldReader CurveParams := do
  return {
    startingSteprate := ← required "starting_steprate" (Datum.word? uint16?)
    maximumSteprate := ← required "maximum_steprate" (Datum.word? uint16?)
    acceleration := ← required "acceleration" (Datum.word? uint16?)
    deceleration := ← required "deceleration" (Datum.word? uint16?)
    current := ← required "current" (Datum.word? uint16?)
    stallguardThreshold := ← required "stallguard_threshold" (Datum.word? int8?)
    coolstepThreshold := ← required "coolstep_threshold" (Datum.word? uint16?) }

instance : Exchange CurveParams where
  toDatum p := .record [
    ("starting_steprate", ofNat p.startingSteprate.toNat),
    ("maximum_steprate", ofNat p.maximumSteprate.toNat),
    ("acceleration", ofNat p.acceleration.toNat),
    ("deceleration", ofNat p.deceleration.toNat),
    ("current", ofNat p.current.toNat),
    ("stallguard_threshold", .integer p.stallguardThreshold.toInt),
    ("coolstep_threshold", ofNat p.coolstepThreshold.toNat)]
  ofDatum? := exact CurveParams.reader

def MovingProfile.reader : FieldReader MovingProfile := do
  return {
    initialCurve := ← required "initial_profile" named?
    offsetSteps := ← required "offset_steps" (Datum.word? int32?)
    offsetDelayMs := ← required "offset_delay_ms" (Datum.word? uint32?)
    finishCurve := ← required "finish_profile" named?
    cycles := ← required "cycles" (Datum.word? uint8?)
    delayMs := ← required "delay_ms" (Datum.word? uint32?)
    homingTolerance := ← required "homing_tolerance" (Datum.word? uint32?)
    homingCycles := ← required "homing_cycles" (Datum.word? uint8?) }

instance : Exchange MovingProfile where
  toDatum p := .record [
    ("initial_profile", .text (Catalogue.name p.initialCurve)),
    ("offset_steps", .integer p.offsetSteps.toInt),
    ("offset_delay_ms", ofNat p.offsetDelayMs.toNat),
    ("finish_profile", .text (Catalogue.name p.finishCurve)),
    ("cycles", ofNat p.cycles.toNat),
    ("delay_ms", ofNat p.delayMs.toNat),
    ("homing_tolerance", ofNat p.homingTolerance.toNat),
    ("homing_cycles", ofNat p.homingCycles.toNat)]
  ofDatum? := exact MovingProfile.reader

def TiltGeometry.reader : FieldReader TiltGeometry := do
  return { heightSteps := ← required "height_steps" (Datum.word? int32?) }

instance : Exchange TiltGeometry where
  toDatum g := .record [("height_steps", .integer g.heightSteps.toInt)]
  ofDatum? := exact TiltGeometry.reader

def TiltSequence.reader : FieldReader TiltSequence := do
  return {
    tiltDown := ← required "tilt_down" named?
    tiltUp := ← required "tilt_up" named?
    movesTimeMs := ← required "moves_time_ms" (Datum.word? uint32?) }

instance : Exchange TiltSequence where
  toDatum t := .record [
    ("tilt_down", .text t.tiltDown.name),
    ("tilt_up", .text t.tiltUp.name),
    ("moves_time_ms", ofNat t.movesTimeMs.toNat)]
  ofDatum? := exact TiltSequence.reader

def LayerParams.reader : FieldReader LayerParams := do
  return {
    delayBeforeExposureMs := ← required "delay_before_exposure_ms" (Datum.word? uint32?)
    delayAfterExposureMs := ← required "delay_after_exposure_ms" (Datum.word? uint32?)
    towerHopHeightNm := ← required "tower_hop_height_nm" (Datum.word? uint32?)
    towerCurve := ← required "tower_profile" named?
    tilt := ← optional "tilt" (exact TiltSequence.reader) }

instance : Exchange LayerParams where
  toDatum p := .record [
    ("delay_before_exposure_ms", ofNat p.delayBeforeExposureMs.toNat),
    ("delay_after_exposure_ms", ofNat p.delayAfterExposureMs.toNat),
    ("tower_hop_height_nm", ofNat p.towerHopHeightNm.toNat),
    ("tower_profile", .text (Catalogue.name p.towerCurve)),
    ("tilt", (p.tilt.map Exchange.toDatum).getD .null)]
  ofDatum? := exact LayerParams.reader

def ExposureProfile.reader : FieldReader ExposureProfile := do
  return {
    areaFill := ← required "area_fill" Datum.single?
    below := ← required "below_area_fill" (exact LayerParams.reader)
    above := ← required "above_area_fill" (exact LayerParams.reader) }

instance : Exchange ExposureProfile where
  toDatum e := .record [
    ("area_fill", if e.areaFill.isFinite then .float e.areaFill.toFloat else .null),
    ("below_area_fill", Exchange.toDatum e.below),
    ("above_area_fill", Exchange.toDatum e.above)]
  ofDatum? := exact ExposureProfile.reader

end LayerSeparation
