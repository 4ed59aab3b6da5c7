import LayerSeparation.Axis
import LayerSeparation.Catalogue
import LayerSeparation.Datum
import LayerSeparation.Exchange.Profile
import LayerSeparation.Exchange.Separation
import LayerSeparation.Profile.Curve
import LayerSeparation.Profile.Error
import LayerSeparation.Profile.Exposure
import LayerSeparation.Profile.Geometry
import LayerSeparation.Profile.Id
import LayerSeparation.Profile.Moving
import LayerSeparation.Profile.Row
import LayerSeparation.Profile.Table
import LayerSeparation.Proofs.Path
import LayerSeparation.Separation.Command
import LayerSeparation.Separation.Error
import LayerSeparation.Separation.Executor
import LayerSeparation.Separation.Machine
import LayerSeparation.Separation.Phase
import LayerSeparation.Separation.Plan
import LayerSeparation.Separation.Script
import LayerSeparation.Separation.Separator
import LayerSeparation.Separation.Sequencer
import LayerSeparation.Separation.Setup
import LayerSeparation.Settings.Bundle
import LayerSeparation.Settings.Decode
import LayerSeparation.Settings.Error
import LayerSeparation.Settings.Load
import LayerSeparation.Settings.Preset
import LayerSeparation.Settings.ProfileFile
import LayerSeparation.Settings.Reference
import LayerSeparation.Settings.Sections
import LayerSeparation.Settings.Tuning
import LayerSeparation.Settings.TuningFile
import LayerSeparation.Simulation.Axis
import LayerSeparation.Simulation.Bench
import LayerSeparation.Simulation.Clock
import LayerSeparation.Simulation.Operation
import LayerSeparation.Text.Blank
import LayerSeparation.Text.CharClass
import LayerSeparation.Text.Digits
import LayerSeparation.Text.Invisible
import LayerSeparation.Text.Quoted
import LayerSeparation.Tilt.Homing
import LayerSeparation.Tilt.Pacer
import LayerSeparation.Tilt.Split
import LayerSeparation.Tilt.Stall
import LayerSeparation.Toml.Document
import LayerSeparation.Toml.Moment
import LayerSeparation.Toml.Number
import LayerSeparation.Toml.Reader
import LayerSeparation.Toml.Text
import LayerSeparation.Toml.Tree
import LayerSeparation.Toml.Value
import LayerSeparation.Width
import LayerSeparation.Proofs.Parts
import LayerSeparation.Proofs.Run
import LayerSeparation.Proofs.Interlock
import LayerSeparation.Proofs.Accepted
import LayerSeparation.Proofs.Nominal
import LayerSeparation.Proofs.Execution
import LayerSeparation.Proofs.Image
import LayerSeparation.Proofs.Log
import LayerSeparation.Proofs.Axes
import LayerSeparation.Proofs.InPlace
import LayerSeparation.Proofs.Split
import LayerSeparation.Proofs.Unhindered
import LayerSeparation.Proofs.Healthy
import LayerSeparation.Proofs.Order
import LayerSeparation.Proofs.Tally
import LayerSeparation.Proofs.Drive
import LayerSeparation.Proofs.Places
import LayerSeparation.Proofs.Freeing
import LayerSeparation.Proofs.Recovery
import LayerSeparation.Proofs.Failure
import LayerSeparation.Proofs.Outcome
import LayerSeparation.Proofs.Refinement
import LayerSeparation.Proofs.Cancel
import LayerSeparation.Proofs.Session
import LayerSeparation.Proofs.Fault
import LayerSeparation.Proofs.Landing
import LayerSeparation.Proofs.Travel
import LayerSeparation.Proofs.Loading
import LayerSeparation.Proofs.Admission
import LayerSeparation.Proofs.Assignments
import LayerSeparation.Proofs.TunedHop
import LayerSeparation.Proofs.TunedHeight
import LayerSeparation.Proofs.Influence
import LayerSeparation.Proofs.RowReading
import LayerSeparation.Proofs.RowFormat
import LayerSeparation.Proofs.Spacing
import LayerSeparation.Proofs.Layout
import LayerSeparation.Proofs.Defects
import LayerSeparation.Proofs.ForeignCurve
import LayerSeparation.Proofs.Pointwise
import LayerSeparation.Proofs.Pacing
import LayerSeparation.Proofs.Sequencing
import LayerSeparation.Proofs.Iteration
import LayerSeparation.Proofs.CommandCount
import LayerSeparation.Proofs.BoundedRun
import LayerSeparation.Proofs.Progress
import LayerSeparation.Proofs.Envelope
import LayerSeparation.Proofs.Validation
import LayerSeparation.Proofs.TunedRanges
import LayerSeparation.Proofs.Respelling
import LayerSeparation.Proofs.Motion
import LayerSeparation.Proofs.OneWay
import LayerSeparation.Proofs.BoundedRecord
import LayerSeparation.Proofs.Bookkeeping
import LayerSeparation.Proofs.Timekeeping
import LayerSeparation.Proofs.Attempts
import LayerSeparation.Proofs.ReportedName
import LayerSeparation.Proofs.Executor
