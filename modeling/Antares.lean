import Antares.Solver.PlaylistIndependence
import Antares.AdequacyPatch.TriggeredHours
import Antares.Optimisation.LinkChains
import Antares.AdequacyPatch.TwoStepData
import Antares.AdequacyPatch.DensCapFails
import Antares.Solver.WeekHours
import Antares.Solver.XCast
import Antares.Solver.HydroLevelRows
import Antares.Solver.MinGenerations
import Antares.Solver.GeneratorTables
import Antares.AdequacyPatch.LinkOrientation
import Antares.ScenarioBuilder.ClusterRename
import Antares.AdequacyPatch.CsrCost
import Antares.Solver.HydroRemix
import Antares.Interconnections.OrientationMeaning
import Antares.ConstraintsBuilder.VoltageLaw
import Antares.Solver.CostNoises
import Antares.Solver.FirstPerformedYears
import Antares.Solver.ToggledClusters
import Antares.UnitCommitment.IntervalWindows
import Antares.Solver.AdequacyWeeks
import Antares.UnitCommitment.GuideCurves
import Antares.UnitCommitment.AvailablePower
import Antares.Renaming.Elements
import Antares.ScenarioBuilder.RobustLoads
import Antares.ScenarioBuilder.ThermalColumns
import Antares.Solver.HydroEnergyBounds
import Antares.Solver.YearAverages
import Antares.Solver.SurveyReports
import Antares.Data.SetsOfAreas
import Antares.Solver.WeekReads
import Antares.GeneralData.FreshLoads
import Antares.BindingConstraints.ShiftedSteps
import Antares.Data.IniRoundTrip
import Antares.BindingConstraints.Repository
import Antares.Solver.HydroSmoothing
import Antares.Solver.AverageNtc
import Antares.Thermal.Costs
import Antares.Thermal.PreparedStudy
import Antares.Thermal.YearEndCosts
import Antares.Solver.MatrixDPMake
import Antares.Solver.HydroSeries
import Antares.Solver.TransferFunction
import Antares.Solver.XCastSmoothing
import Antares.ShortTermStorage.Bounds
import Antares.Optimisation.ConstraintNames
import Antares.Data.Correlation
import Antares.Data.SavedMatrices
import Antares.Solver.SimplexCalls
