import LayerSeparation.Proofs.Accepted
import LayerSeparation.Proofs.Axes
import LayerSeparation.Proofs.Log

/-! A layer that is reported separated left the machine in place: the tilt stands at the exposure
position within its tolerance and with its stall flag clear, and the tower at the next layer. The tilt
may have had any limits, faults, stalls and homing results on the way, and the abort signal may have
answered anything. -/
namespace LayerSeparation

/-- The tilt stands where layers are exposed, as far as the profile for the way up tells. -/
structure SimAxis.InPlace (tilt : SimAxis TiltCurve) (geometry : TiltGeometry)
    (up : MovingProfile) : Prop where
  near : (tilt.position.toInt - geometry.heightSteps.toInt).natAbs ≤ up.homingTolerance.toNat
  clear : tilt.stall = false

namespace Bench
variable {b b' : Bench} {phase last : Phase}

/- One turn of each kind that decides where an axis ends. -/
theorem queryStall_tilt {polled performed : Bench} {flag : Bool}
    (h : machine.perform (.queryStall .tilt) polled = (.ok flag, performed)) :
    performed.tilt.stall = false ∧ performed.tilt.position = polled.tilt.position := by
  rw [Machine.perform, machine_tilt] at h
  obtain ⟨clear, _, same⟩ := SimAxis.queryStall_ok (onTilt_ok h)
  exact ⟨clear, same⟩

theorem readPosition_tilt {polled performed : Bench} {p : Int32}
    (h : machine.perform (.readPosition .tilt) polled = (.ok p, performed)) :
    p = polled.tilt.position ∧ performed.tilt.position = polled.tilt.position ∧
      performed.tilt.stall = polled.tilt.stall := by
  rw [Machine.perform, machine_tilt] at h
  exact SimAxis.readPosition_ok (onTilt_ok h)

theorem home_tilt {polled performed : Bench}
    (h : machine.perform (.home .tilt) polled = (.ok true, performed)) :
    performed.tilt.Unlimited ∧ performed.tilt.stall = false := by
  rw [Machine.perform, machine_tilt] at h
  exact SimAxis.home_ok (onTilt_ok h)

theorem moveAbsolute_tilt {polled performed : Bench} {target : Int32} {u : Unit}
    (free : polled.tilt.Unlimited)
    (h : machine.perform (.moveAbsolute .tilt target) polled = (.ok u, performed)) :
    performed.tilt.position = target ∧ performed.tilt.stall = polled.tilt.stall := by
  rw [Machine.perform, machine_tilt] at h
  exact free.moveAbsolute_ok (onTilt_ok h)

theorem moveAbsolute_tower {polled performed : Bench} {target : Int32} {u : Unit}
    (free : polled.tower.Unlimited)
    (h : machine.perform (.moveAbsolute .tower target) polled = (.ok u, performed)) :
    performed.tower.position = target := by
  rw [Machine.perform, machine_tower] at h
  exact (free.moveAbsolute_ok (onTower_ok h)).1

/-- A check of the way up that is gone through leaves the tilt in place: it was seen there, or it was
homed, which takes away all that could block it, and sent there. -/
theorem inPlace_of_check {geometry : TiltGeometry} {up : MovingProfile} {turns : List Turn}
    (ends : (Script.checkUp geometry up).Ends turns)
    (h : machine.Performs phase b turns last b') : b'.tilt.InPlace geometry up := by
  rcases Script.ends_check ends with ⟨p, more, rfl, near, closed⟩ | ⟨flag, p, k, more, rfl, sent⟩
  · obtain rfl := Script.ends_done_iff.mp closed
    obtain ⟨_, queried, _, _, query, h⟩ := performs_cons h
    obtain ⟨_, read, felt, _, position, h⟩ := performs_cons h
    cases h
    obtain ⟨clear, _⟩ := queryStall_tilt query
    obtain ⟨rfl, stands, same⟩ := readPosition_tilt position
    constructor
    · rw [stands]
      exact near
    · rw [same, felt]
      exact clear
  · obtain ⟨_, rest, rfl, closed⟩ := Script.ends_ask_iff.mp sent
    obtain rfl := Script.ends_done_iff.mp closed
    obtain ⟨_, _, _, h⟩ := Machine.performs_append_iff.mp h
    obtain ⟨_, homed, _, _, home, h⟩ := performs_cons h
    obtain ⟨_, moved, felt, _, move, h⟩ := performs_cons h
    cases h
    obtain ⟨free, clear⟩ := home_tilt home
    rw [← felt] at free clear
    obtain ⟨stands, same⟩ := moveAbsolute_tilt free move
    constructor
    · simp [stands]
    · rw [same]
      exact clear

theorem inPlace_of_wayUp {geometry : TiltGeometry} {up : MovingProfile} {turns : List Turn}
    (ends : (Script.wayUp geometry up).Ends turns)
    (h : machine.Performs phase b turns last b') : b'.tilt.InPlace geometry up := by
  obtain ⟨first, check, rfl, _, checked⟩ := Script.ends_andThen_iff.mp ends
  obtain ⟨_, _, _, h⟩ := Machine.performs_append_iff.mp h
  exact inPlace_of_check checked h

theorem tower_of_raise {s : Setup} {turns : List Turn} (hops : s.hops = false)
    (free : b.tower.Unlimited) (ends : (Script.towerRaise s .done).Ends turns)
    (h : machine.Performs phase b turns last b') : b'.tower.position = s.nextLayerNm := by
  obtain ⟨⟨_, c, a⟩, rfl, _, command⟩ := Script.ends_towerRaise ends
  simp only [Setup.towerMove, hops, Bool.false_eq_true, if_false] at command
  subst command
  obtain ⟨mid, between, first, h⟩ := Machine.performs_append_iff.mp (List.singleton_append ▸ h)
  obtain ⟨polled, moved, _, felt, move, h⟩ := performs_cons h
  cases h
  have still := unlimited_of_performs first free
  rw [← felt] at still
  exact moveAbsolute_tower still move

theorem tower_of_lower {s : Setup} {turns : List Turn} (hops : s.hops = true)
    (free : b.tower.Unlimited) (ends : (Script.towerLower s .done).Ends turns)
    (h : machine.Performs phase b turns last b') : b'.tower.position = s.nextLayerNm := by
  rcases Script.ends_towerLower ends with ⟨_, rfl⟩ | ⟨level, _⟩
  · obtain ⟨polled, moved, _, felt, move, h⟩ := performs_cons h
    cases h
    rw [← felt] at free
    exact moveAbsolute_tower free move
  · rw [hops] at level
    cases level

theorem inPlace_of_separation {s : Setup} {moves : TiltMoves} (hs : s.tilt = some moves)
    {turns : List Turn} (free : b.tower.Unlimited) (ends : (Script.separation s).Ends turns)
    (h : machine.Performs phase b turns last b') :
    b'.tilt.InPlace s.geometry moves.up ∧ b'.tower.position = s.nextLayerNm := by
  obtain ⟨settle, down, raise, up, lower, pause, rfl, _, _, hraise, hup, hlower, hpause⟩ :=
    Script.ends_separation hs ends
  obtain ⟨_, settled, first, h⟩ := Machine.performs_append_iff.mp h
  obtain ⟨_, lowered, second, h⟩ := Machine.performs_append_iff.mp h
  obtain ⟨_, raised, third, h⟩ := Machine.performs_append_iff.mp h
  obtain ⟨_, risen, fourth, h⟩ := Machine.performs_append_iff.mp h
  obtain ⟨_, arrived, fifth, sixth⟩ := Machine.performs_append_iff.mp h
  have pauses := hpause.within (Script.within_settle _ _)
  have lowers := hlower.within (Script.within_towerLower s)
  have rises := hup.within (Script.within_wayUp _ _)
  -- the tilt is left alone after the way up
  have tilt_rest : b'.tilt = risen.tilt := by
    rw [tilt_of_performs sixth fun x hx => by rw [(pauses x hx).2]; decide,
      tilt_of_performs fifth fun x hx => by rw [(lowers x hx).2]; decide]
  -- and the tower after it was lowered, or after it was raised if there was no hop
  have tower_rest : b'.tower = arrived.tower :=
    tower_of_performs sixth fun x hx => by rw [(pauses x hx).2]; decide
  have free_raise := unlimited_of_performs second (unlimited_of_performs first free)
  constructor
  · rw [tilt_rest]
    exact inPlace_of_wayUp hup fourth
  · rw [tower_rest]
    cases hops : s.hops with
    | true =>
      have free_lower := unlimited_of_performs fourth (unlimited_of_performs third free_raise)
      exact tower_of_lower hops free_lower hlower fifth
    | false =>
      have there := tower_of_raise hops free_raise hraise third
      have tower_up : risen.tower = raised.tower :=
        tower_of_performs fourth fun x hx => (rises x hx).2
      rcases Script.ends_towerLower hlower with ⟨hop, _⟩ | ⟨_, rfl⟩
      · rw [hops] at hop
        cases hop
      · cases fifth
        rw [tower_up]
        exact there

end Bench

namespace Separator

/-- Whatever the tilt did, a layer that is reported separated has the tilt in place and the tower at
the next layer, and the report counts the homings that found the stop. -/
theorem inPlace_of_success {sep sep' : Separator} {area : Float32} {nextLayerNm : Int32}
    {sequence : TiltSequence} {report : SeparationReport} {b b' : Bench}
    (tilted : (sep.exposure.select area).tilt = some sequence) (free : b.tower.Unlimited)
    (h : sep.separateLayer Bench.machine area nextLayerNm b = (.ok report, sep', b')) :
    b'.tilt.InPlace sep.geometry (sep.table.moving sequence.tiltUp) ∧
      b'.tower.position = nextLayerNm ∧
      report.stallRecoveries.toNat =
        (sep.occurrences Bench.machine area nextLayerNm b).countP Occurrence.frees := by
  obtain ⟨s, turns, last, final, accepted, ends, performs, rfl, rfl⟩ := performs_of_separateLayer h
  have resolved := Setup.resolved_of_eq_ok accepted
  have hs := resolved.tilt_eq
  rw [tilted, Option.map_some] at hs
  rw [← (Bench.now_axes b).2] at free
  obtain ⟨tilt, tower⟩ := Bench.inPlace_of_separation hs free ends performs
  rw [resolved.geometry_eq] at tilt
  rw [(Bench.now_axes final).1, (Bench.now_axes final).2, countP_frees_of_performs accepted ends performs]
  refine ⟨tilt, tower.trans resolved.next_eq, ?_⟩
  have few := Script.countP_frees_separation ends
  rw [reportOf, UInt8.toNat_ofNat_of_lt']
  simp only [UInt8.size]
  omega

/- A tilt with a stall flag left over from before, whose first homing fails. -/
def stuckBench : Bench where
  tilt := { position := 4928, stall := true, homings := [false] }
  tower := { position := 0 }

theorem inPlace_of_success_stuck : ∃ report sep' b',
    sample.separateLayer Bench.machine 1 50000 stuckBench = (.ok report, sep', b') ∧
    b'.tilt.InPlace .factory MovingProfileId.tiltUpLargeFill.factoryProfile ∧
    b'.tower.position = 50000 ∧
    report.stallRecoveries.toNat =
      (sample.occurrences Bench.machine 1 50000 stuckBench).countP Occurrence.frees := by
  have separated : (sample.separateLayer Bench.machine 1 50000 stuckBench).1.toOption.isSome := by
    unfold separateLayer
    cases sample.exposure.fillFor 1 with
    | below => decide +kernel
    | above => decide +kernel
  cases h : sample.separateLayer Bench.machine 1 50000 stuckBench with
  | mk result rest =>
    rw [h] at separated
    cases result with
    | error e => cases separated
    | ok report =>
      have tilted : (sample.exposure.select 1).tilt =
          some ⟨.tiltDownLargeFill, .tiltUpLargeFill, 5000⟩ := by
        rw [select_sample]
        rfl
      exact ⟨report, rest.1, rest.2, rfl, inPlace_of_success tilted ⟨rfl, rfl⟩ h⟩

end Separator
end LayerSeparation
