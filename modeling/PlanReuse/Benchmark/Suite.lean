import PlanReuse.Costing.Sample
import PlanReuse.Log
import PlanReuse.Report.Samples
import PlanReuse.Settings.Basic

/-!
# Benchmark suites

A suite is a folder with a script for each workload. A script is given the path of a report and a kind of
device, and writes the report. A source of measurements runs the scripts and reads the reports. What a
script does, and where files lie, is the business of the host that the suite is installed on.
-/

namespace PlanReuse.Benchmark

/-- Joins a name to the text of a folder. A text that ends in a slash needs no other. -/
def joinPath (folder name : String) : String :=
  if folder.isEmpty || folder.endsWith "/" then folder ++ name else folder ++ "/" ++ name

/-! ### Hosts -/

/-- How a program has ended, and what the host says of it. -/
structure Ending where
  isSuccess : Bool
  message : String

/-- A host, given by what it answers in each of its states. -/
structure Host (σ : Type) where
  /-- Makes a folder, and those above it that are missing. -/
  createFolders : σ → String → Except FileFault σ
  /-- Runs a program with some arguments in a folder, if it can be started. -/
  run : σ → (folder program : String) → List String → Except FileFault (Ending × σ)
  readFile : σ → String → FileRead

/-! ### Suites -/

structure Suite where
  /-- The folder in which the suite is installed. -/
  root : String
  columns : Report.Columns

/-- What measuring has given, and the state it has left the host in. -/
structure Survey (σ : Type) where
  outcome : Except CostError Measurements
  state : σ
  lines : List Log.Line

namespace Suite

variable {σ : Type}

def ofSettings (s : CostSettings) : Suite := ⟨s.benchmarkRoot, ⟨s.sizeColumn, s.timeColumn⟩⟩

/-- What a suite is called as a source. -/
def name : String := "DwarfBench"

/-- The folder of the reports. -/
def results (s : Suite) : String := joinPath s.root "results"

/-- The report of a workload on a kind of device. -/
def reportPath (s : Suite) (w : Workload) (d : DeviceKind) : String :=
  joinPath s.results ("report_" ++ w.name ++ "_" ++ d.name ++ ".csv")

/-- The script of a workload. -/
def scriptPath (s : Suite) (w : Workload) : String :=
  joinPath (joinPath s.root "scripts") ("benchmark_" ++ w.name ++ ".sh")

/-- What the script of a workload is told: where its report is to lie, and the kind of device. -/
def arguments (s : Suite) (w : Workload) (d : DeviceKind) : List String := [s.reportPath w d, d.name]

/-- Runs the script of a workload. -/
def runBenchmark (s : Suite) (host : Host σ) (x : σ) (w : Workload) (d : DeviceKind) :
    Except CostError Unit × σ :=
  let script := s.scriptPath w
  match host.run x s.root script (s.arguments w d) with
  | .error fault => (.error (.benchmarkFailed (script ++ ": " ++ fault.message)), x)
  | .ok (ending, x) =>
    if ending.isSuccess then (.ok (), x)
    else (.error (.benchmarkFailed (script ++ " 退出状态 " ++ ending.message)), x)

/-- The samples of a workload on a kind of device, by running its script. -/
def measure (s : Suite) (host : Host σ) (x : σ) (w : Workload) (d : DeviceKind) :
    Except CostError (List Sample) × σ :=
  match s.runBenchmark host x w d with
  | (.error e, x) => (.error e, x)
  | (.ok (), x) =>
    let path := s.reportPath w d
    match Report.load s.columns path (host.readFile x path) with
    | .error e => (.error (.report e), x)
    | .ok ss => (.ok ss, x)

/-- What a measurement says: that its script runs, and how many samples there are. -/
def measureLines (s : Suite) (w : Workload) (d : DeviceKind) (r : Except CostError (List Sample)) :
    List Log.Line :=
  Log.info ("运行基准脚本 " ++ s.scriptPath w ++ " (设备 " ++ d.name ++ ")") ::
    match r with
    | .ok ss =>
      [Log.debug (w.name ++ " 在设备 " ++ d.name ++ " 上得到 " ++ toString ss.length ++ " 个样本")]
    | .error _ => []

/-- Measures at each place in turn, up to the first error. -/
def surveyFrom (s : Suite) (host : Host σ) (x : σ) (m : Measurements) :
    List (Workload × DeviceKind) → Survey σ
  | [] => ⟨.ok m, x, []⟩
  | (w, d) :: places =>
    match s.measure host x w d with
    | (.error e, x) => ⟨.error e, x, s.measureLines w d (.error e)⟩
    | (.ok ss, x) =>
      let after := s.surveyFrom host x (m.insert d w ss) places
      { after with lines := s.measureLines w d (.ok ss) ++ after.lines }

/-- The pairs of some workloads and devices, workload by workload. -/
def places (devices : List DeviceKind) (workloads : List Workload) : List (Workload × DeviceKind) :=
  workloads.flatMap fun w => devices.map fun d => (w, d)

/-- The measurements of some devices and workloads. The folder of the reports is made first. -/
def survey (s : Suite) (host : Host σ) (x : σ) (devices : List DeviceKind)
    (workloads : List Workload) : Survey σ :=
  match host.createFolders x s.results with
  | .error fault => ⟨.error (.io fault), x, []⟩
  | .ok x => s.surveyFrom host x .empty (places devices workloads)

end Suite

end PlanReuse.Benchmark
