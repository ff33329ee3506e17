import Antares.Data.Parameters
import Mathlib.Data.Rat.Defs

/-! The time-series side of the areas of a study: how many columns each series was
loaded with, and which clusters generate their own.
-/

set_option autoImplicit false

namespace Antares.Data

inductive LocalTSGenerationBehavior where
  | useGlobalParameter
  | forceGen
  | forceNoGen
  deriving DecidableEq, Repr

structure ThermalCluster where
  enabled : Bool
  mustrun : Bool
  tsGenBehavior : LocalTSGenerationBehavior
  hasPrepro : Bool
  unitCount : Nat
  nominalCapacity : Rat
  seriesWidth : Nat
  deriving DecidableEq

def ThermalCluster.doWeGenerateTS (cluster : ThermalCluster) (globalTSgeneration : Bool) : Bool :=
  match cluster.tsGenBehavior with
  | .useGlobalParameter => globalTSgeneration
  | .forceGen => true
  | .forceNoGen => false

structure RenewableCluster where
  enabled : Bool
  seriesWidth : Nat
  deriving DecidableEq

structure AreaLink where
  directWidth : Nat
  indirectWidth : Nat
  deriving DecidableEq

/-- `thermalMapping` holds every cluster of the area, `thermalClusters` the enabled ones
and `thermalList` those of them that are not in must-run mode. -/
structure Area where
  loadWidth : Nat
  solarWidth : Nat
  windWidth : Nat
  hydroWidth : Nat
  thermalMapping : List ThermalCluster
  renewableList : List RenewableCluster
  links : List AreaLink
  deriving DecidableEq

variable (area : Area)

def Area.thermalClusters : List ThermalCluster :=
  area.thermalMapping.filter fun cluster => cluster.enabled

def Area.thermalList : List ThermalCluster :=
  area.thermalClusters.filter fun cluster => !cluster.mustrun

def Area.renewableClusters : List RenewableCluster :=
  area.renewableList.filter fun cluster => cluster.enabled

/-- A loaded study; `groups` are the numbers of time-series of the binding constraint groups. -/
structure Study where
  parameters : SimulationParameters
  areas : List Area
  groups : List Nat

/-- `StudyRuntimeInfos::checkThermalTSGeneration` -/
def Study.thermalTSRefresh (study : Study) : Bool :=
  let globalThermalTSgeneration := study.parameters.timeSeriesToGenerate .thermal
  study.areas.foldl (fun refresh area =>
    area.thermalList.foldl (fun refresh cluster =>
      refresh || cluster.doWeGenerateTS globalThermalTSgeneration) refresh)
    globalThermalTSgeneration

end Antares.Data
