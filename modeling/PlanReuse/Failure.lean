/-!
# Failures

What can go wrong at the edges: reading a report, calibrating, loading settings. Each failure is a cause;
its wording is a function of the cause. A failure may have another one as its cause.
-/

namespace PlanReuse

/-! ### Files -/

/-- What a file can refuse. -/
inductive FileFault
  | notFound
  | denied
  | exists
  | isDirectory
  | notDirectory
  | invalidUtf8
  /-- Any other, with its text. -/
  | other (text : String)
deriving DecidableEq

def FileFault.message : FileFault → String
  | .notFound => "No such file or directory (os error 2)"
  | .denied => "Permission denied (os error 13)"
  | .exists => "File exists (os error 17)"
  | .isDirectory => "Is a directory (os error 21)"
  | .notDirectory => "Not a directory (os error 20)"
  | .invalidUtf8 => "stream did not contain valid UTF-8"
  | .other text => text

/-! ### Reports -/

/-- What is wrong with a benchmark report. -/
inductive ReportFault
  | missingReport
  | missingColumn
  | malformedRow
  | invalidNumber
  | emptyReport
deriving DecidableEq

namespace ReportFault

def name : ReportFault → String
  | missingReport => "MissingReport"
  | missingColumn => "MissingColumn"
  | malformedRow => "MalformedRow"
  | invalidNumber => "InvalidNumber"
  | emptyReport => "EmptyReport"

def all : List ReportFault := [missingReport, missingColumn, malformedRow, invalidNumber, emptyReport]

def message : ReportFault → String
  | missingReport => "报告文件不存在"
  | missingColumn => "缺少列"
  | malformedRow => "数据行格式错误"
  | invalidNumber => "数值格式错误"
  | emptyReport => "空报告"

end ReportFault

/-- A fault and where it lies: a file, a column, a row or a field. -/
structure ReportError where
  fault : ReportFault
  context : String
deriving DecidableEq

def ReportError.message (e : ReportError) : String := e.fault.message ++ ": " ++ e.context

/-! ### Costing -/

inductive CostError
  | report (e : ReportError)
  | benchmarkFailed (text : String)
  | insufficientSamples (count : Nat)
  | notCalibrated
  | missingMeasurements (device workload : String)
  | io (fault : FileFault)
deriving DecidableEq

namespace CostError

def message : CostError → String
  | report e => "基准报告解析失败: " ++ e.message
  | benchmarkFailed text => "基准脚本执行失败: " ++ text
  | insufficientSamples count => "外推至少需要两个样本，实际只有 " ++ toString count ++ " 个"
  | notCalibrated => "代价模型尚未校准"
  | missingMeasurements device workload =>
    "缺少设备 " ++ device ++ " 上模板 " ++ workload ++ " 的测量数据"
  | io fault => "IO错误: " ++ fault.message

/-- The texts of the causes, the nearest first. -/
def causes : CostError → List String
  | report e => [e.message]
  | io fault => [fault.message]
  | _ => []

def kind : CostError → String
  | report _ => "Report"
  | benchmarkFailed _ => "BenchmarkFailed"
  | insufficientSamples _ => "InsufficientSamples"
  | notCalibrated => "NotCalibrated"
  | missingMeasurements .. => "MissingMeasurements"
  | io _ => "Io"

end CostError

/-! ### All together -/

inductive Failure
  | parse (e : ReportError)
  | cost (e : CostError)
  | settings (text : String)
  | io (fault : FileFault)
deriving DecidableEq

namespace Failure

def message : Failure → String
  | parse e => "解析错误: " ++ e.message
  | cost e => "代价模型错误: " ++ e.message
  | settings text => "配置错误: " ++ text
  | io fault => "IO错误: " ++ fault.message

/-- The texts of the causes, the nearest first. -/
def causes : Failure → List String
  | parse e => [e.message]
  | cost e => e.message :: e.causes
  | settings _ => []
  | io fault => [fault.message]

def kind : Failure → String
  | parse _ => "Parse"
  | cost _ => "CostModel"
  | settings _ => "Config"
  | io _ => "Io"

end Failure

end PlanReuse
