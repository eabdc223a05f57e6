/-
This file says where a project keeps its configuration and where a run leaves its reports.
-/

import ClientModel.Configuration.Placeholder
import ClientModel.Files.Path

namespace ClientModel

/-- What a run finds around it. -/
structure Surroundings where
  environment : Environment
  /-- The directory from which names of files start. -/
  working : Location
  /-- The name of the operating system. -/
  system : String
  /-- Whether the output is a terminal. -/
  terminal : Bool
  /-- The time at which the run started, as it stands in names of files. -/
  started : String

namespace Surroundings

/-- The configuration file of a project: the named one, else the one that the environment names,
else the one in the working directory. -/
def configurationPath (surroundings : Surroundings) (named : Option Path) : Path :=
  match named with
  | some path => path
  | none =>
    match surroundings.environment.filled? "CLIENTSYNTH_CONFIG" with
    | some text => Path.ofText text
    | none => (Path.ofLocation surroundings.working).inside ["clientsynth.json"]

/-- The home directory. -/
def home (surroundings : Surroundings) : Path :=
  let text := (surroundings.environment.get? "HOME").getD ""
  if text.toList.all (· == '/') then Path.ofText "/" else Path.ofText text

/-- Whether a system keeps data where the environment says. -/
def keepsSharedData (system : String) : Bool :=
  system == "Linux" || "BSD".toList.isSuffixOf system.toList

/-- The directory of data. -/
def dataDirectory (surroundings : Surroundings) : Path :=
  if keepsSharedData surroundings.system then
    let base := match surroundings.environment.filled? "XDG_DATA_HOME" with
      | some text => Path.ofText text
      | none => surroundings.home.inside [".local", "share"]
    base.inside ["clientsynth"]
  else surroundings.home.inside [".clientsynth", "logs"]

/-- The file in which a run reports a defect. -/
def reportPath (surroundings : Surroundings) : Path :=
  surroundings.dataDirectory.inside ["logs", s!"crash-{surroundings.started}.log"]

end Surroundings

end ClientModel
