import LayerSeparation.Exchange.Profile
import LayerSeparation.Separation.Command
import LayerSeparation.Separation.Separator
import LayerSeparation.Tilt.Split
import LayerSeparation.Tilt.Stall

/-! Commands, reports and check results as structured data. A case that carries data is a record with
one field, named for the case. -/
namespace LayerSeparation

open Exchange (named? ofNat)
open FieldReader (required exact)
open Width (int32? uint8? uint32? uint64?)

instance : Exchange SplitStep where
  toDatum
    | .move steps => .record [("Move", .integer steps.toInt)]
    | .wait ms => .record [("Wait", ofNat ms.toNat)]
  ofDatum?
    | .record [("Move", d)] => (d.word? int32?).map .move
    | .record [("Wait", d)] => (d.word? uint32?).map .wait
    | _ => none

instance : Exchange StallOutcome where
  toDatum
    | .clear => .text "Clear"
    | .stalled position deviation => .record [("Stalled", .record [
        ("position", .integer position.toInt), ("deviation", ofNat deviation.toNat)])]
  ofDatum?
    | .text "Clear" => some .clear
    | .record [("Clear", .null)] => some .clear
    | .record [("Stalled", d)] => exact (do
        return .stalled (← required "position" (Datum.word? int32?))
          (← required "deviation" (Datum.word? uint32?))) d
    | _ => none

instance : Exchange Command where
  toDatum
    | .setTiltCurve curve => .record [("SetTiltProfile", .text (Catalogue.name curve))]
    | .setTowerCurve curve => .record [("SetTowerProfile", .text (Catalogue.name curve))]
    | .moveRelative axis steps => .record [("MoveRelative", .record [
        ("axis", .text axis.name), ("steps", .integer steps.toInt)])]
    | .moveAbsolute axis position => .record [("MoveAbsolute", .record [
        ("axis", .text axis.name), ("position", .integer position.toInt)])]
    | .readPosition axis => .record [("ReadPosition", .text axis.name)]
    | .queryStall axis => .record [("QueryStall", .text axis.name)]
    | .home axis => .record [("Home", .text axis.name)]
    | .wait ms => .record [("Wait", .record [("ms", ofNat ms.toNat)])]
  ofDatum?
    | .record [("SetTiltProfile", d)] => (named? d).map .setTiltCurve
    | .record [("SetTowerProfile", d)] => (named? d).map .setTowerCurve
    | .record [("MoveRelative", d)] => exact (do
        return .moveRelative (← required "axis" named?)
          (← required "steps" (Datum.word? int32?))) d
    | .record [("MoveAbsolute", d)] => exact (do
        return .moveAbsolute (← required "axis" named?)
          (← required "position" (Datum.word? int32?))) d
    | .record [("ReadPosition", d)] => (named? d).map .readPosition
    | .record [("QueryStall", d)] => (named? d).map .queryStall
    | .record [("Home", d)] => (named? d).map .home
    | .record [("Wait", d)] => exact (do
        return .wait (← required "ms" (Datum.word? uint32?))) d
    | _ => none

def SeparationReport.reader : FieldReader SeparationReport := do
  return {
    elapsedMs := ← required "elapsed_ms" (Datum.word? uint64?)
    fill := ← required "fill" named?
    stallRecoveries := ← required "stall_recoveries" (Datum.word? uint8?)
    movesTimeMs := ← required "moves_time_ms" (Datum.word? uint32?)
    hopped := ← required "hopped" Datum.bool? }

instance : Exchange SeparationReport where
  toDatum r := .record [
    ("elapsed_ms", ofNat r.elapsedMs.toNat),
    ("fill", .text (Catalogue.name r.fill)),
    ("stall_recoveries", ofNat r.stallRecoveries.toNat),
    ("moves_time_ms", ofNat r.movesTimeMs.toNat),
    ("hopped", .bool r.hopped)]
  ofDatum? := exact SeparationReport.reader

end LayerSeparation
